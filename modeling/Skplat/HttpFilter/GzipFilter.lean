import Skplat.HttpFilter.ReadFilterNode

/-!
# The gzip filter

`GzipDecodeFilter::transcode` calls `inflate` until it leaves room in its output buffer.
The result of the calls is kept in a variable that hides the one that is returned, so
`transcode` always returns zero.

`inflate` is a function of the library zlib.  It is a parameter here, and `Zlib.Correct`
says what its documentation promises.
-/

namespace Skplat
namespace HttpFilter

/-- The results of `inflate`: `Z_OK`, `Z_STREAM_END`, `Z_BUF_ERROR`, and the errors. -/
inductive InflateCode where
  | ok
  | streamEnd
  | bufError
  | failed
  deriving DecidableEq

/-- A stream after a call of `inflate`, the result, how much of the input is left, and
the output. -/
structure Inflated (Stream : Type) where
  code : InflateCode
  stream : Stream
  availIn : Nat
  out : List UInt8

/-- A decompressor: a stream after `inflateInit2`, and `inflate` with the input and the
room for output. -/
structure Zlib where
  Stream : Type
  init : Stream
  inflate : Stream → List UInt8 → Nat → Inflated Stream

namespace Zlib

/-- One call of `inflate` with data that is not corrupt.  It does as much as possible:
if there is room left, then the input is used up and its inflation was produced. -/
structure Call
    (zlib : Zlib) (gzip : List UInt8) (inflation : List UInt8 → List UInt8)
    (At : zlib.Stream → List UInt8 → List UInt8 → Prop)
    (fed produced input : List UInt8) (availOut : Nat)
    (result : Inflated zlib.Stream) : Prop where
  availIn_le : result.availIn ≤ input.length
  out_le : result.out.length ≤ availOut
  next : At result.stream (fed ++ input.take (input.length - result.availIn))
    (produced ++ result.out)
  produces : produced ++ result.out <+: inflation (fed ++ input)
  as_much : result.out.length < availOut →
    result.availIn = 0 ∧ produced ++ result.out = inflation (fed ++ input)
  noError : result.code ≠ .failed
  atEnd : result.code = .streamEnd → fed ++ input = gzip

/-- `inflate` decompresses a gzip stream: a stream that was fed a part of it and has
produced some output is offered the bytes that follow. -/
structure Correct
    (zlib : Zlib) (gzip : List UInt8) (intact : List UInt8 → Prop)
    (inflation : List UInt8 → List UInt8)
    (At : zlib.Stream → List UInt8 → List UInt8 → Prop) : Prop where
  init : At zlib.init [] []
  inflation_nil : inflation [] = []
  call : ∀ stream fed produced input availOut,
    At stream fed produced → fed ++ input <+: gzip → intact (fed ++ input) →
    0 < availOut →
    zlib.Call gzip inflation At fed produced input availOut
      (zlib.inflate stream input availOut)

end Zlib

namespace GzipDecodeFilter

variable (zlib : Zlib)

/-- The node, the output buffer and `avail_in` after the loop. -/
structure Looped (zlib : Zlib) where
  availIn : Nat
  node : ReadFilterNode zlib.Stream
  output : BufferUtils

/-- What is recorded from the result of `inflate`. -/
def recordCode
    {zlib : Zlib} (node : ReadFilterNode zlib.Stream) : InflateCode →
    ReadFilterNode zlib.Stream
  | .streamEnd => { node with eof := true }
  | .failed => { node with errors := unknownError }
  | .ok | .bufError => node

/-- The room in the output buffer of a call. -/
def buffSz : Nat := 1023

/-- The loop of `transcode`, with a bound on its rounds. -/
def inflateLoop :
    Nat → ReadFilterNode zlib.Stream → List UInt8 → BufferUtils → Option (Looped zlib)
  | 0, _, _, _ => none
  | rounds + 1, node, input, output =>
      let inflated := zlib.inflate node.own input buffSz
      let node := recordCode { node with own := inflated.stream } inflated.code
      let output :=
        if 0 < inflated.out.length then (output.append inflated.out).2 else output
      if inflated.out.length < buffSz then some ⟨inflated.availIn, node, output⟩
      else inflateLoop rounds node (input.drop (input.length - inflated.availIn)) output

/-- `GzipDecodeFilter::transcode`, with the memory behind the content. -/
def transcode
    (rounds : Nat) (beyond : List UInt8)
    (node : ReadFilterNode zlib.Stream) (outputBuffer : BufferUtils) :
    Option (Transcoded zlib.Stream) :=
  let srcSize := asInt node.bufferCache.content.length
  if srcSize ≤ 0 ∨ node.eof = true ∨ node.errors ≠ 0 then some ⟨0, node, outputBuffer⟩
  else
    (inflateLoop zlib rounds node (node.bufferCache.content.take srcSize.toNat)
      outputBuffer).map fun looped =>
        { ret := 0
          node := { looped.node with
            bufferCache :=
              (looped.node.bufferCache.consume (srcSize.toNat - looped.availIn) beyond).2 }
          output := looped.output }

/-- The buffer has room for an output that is appended in blocks. -/
def HoldsBlocks : Nat → BufferUtils → List UInt8 → Prop
  | 0, output, rest => rest = [] ∨ output.Holds rest.length
  | blocks + 1, output, rest =>
      output.Holds buffSz ∧
        HoldsBlocks blocks (output.append (rest.take buffSz)).2 (rest.drop buffSz)

instance decidableHoldsBlocks :
    (blocks : Nat) → (output : BufferUtils) → (rest : List UInt8) →
      Decidable (HoldsBlocks blocks output rest)
  | 0, output, rest => inferInstanceAs (Decidable (rest = [] ∨ output.Holds rest.length))
  | blocks + 1, output, rest =>
      haveI := decidableHoldsBlocks blocks (output.append (rest.take buffSz)).2
        (rest.drop buffSz)
      inferInstanceAs (Decidable (_ ∧ _))

/-- The buffer has room for what it lacks of an output. -/
def HoldsRest (output : BufferUtils) (whole : List UInt8) : Prop :=
  HoldsBlocks ((whole.drop output.content.length).length / buffSz) output
    (whole.drop output.content.length)

instance (output : BufferUtils) (whole : List UInt8) :
    Decidable (HoldsRest output whole) :=
  inferInstanceAs (Decidable (HoldsBlocks _ _ _))

/-! ## More rounds -/

variable {zlib}

theorem inflateLoop_mono
    {rounds more : Nat} (le : rounds ≤ more)
    {node : ReadFilterNode zlib.Stream} {input : List UInt8} {output : BufferUtils}
    {looped : Looped zlib}
    (returned : inflateLoop zlib rounds node input output = some looped) :
    inflateLoop zlib more node input output = some looped := by
  induction rounds generalizing more node input output with
  | zero => cases returned
  | succ rounds inductionHypothesis =>
      cases more with
      | zero => exact absurd le (Nat.not_succ_le_zero rounds)
      | succ more =>
          rw [inflateLoop] at returned ⊢
          split at returned
          · rename_i room
            rw [if_pos room]
            exact returned
          · rename_i full
            rw [if_neg full]
            exact inductionHypothesis (Nat.le_of_succ_le_succ le) returned

theorem transcode_mono
    {rounds more : Nat} (le : rounds ≤ more)
    {beyond : List UInt8} (node : ReadFilterNode zlib.Stream) (output : BufferUtils)
    (result : Transcoded zlib.Stream)
    (returned : transcode zlib rounds beyond node output = some result) :
    transcode zlib more beyond node output = some result := by
  unfold transcode at returned ⊢
  dsimp only at returned ⊢
  split_ifs at returned ⊢
  · exact returned
  · obtain ⟨looped, isLooped, shape⟩ := Option.map_eq_some_iff.mp returned
    rw [inflateLoop_mono le isLooped, Option.map_some, shape]

/-! ## What the loop does -/

section Correct

variable {gzip : List UInt8} {intact : List UInt8 → Prop}
variable {inflation : List UInt8 → List UInt8}
variable {At : zlib.Stream → List UInt8 → List UInt8 → Prop}
variable {fed produced input : List UInt8}
variable {node : ReadFilterNode zlib.Stream} {output : BufferUtils}

/-- The loop has used up the input and has appended its inflation. -/
structure Done
    (gzip : List UInt8) (inflation : List UInt8 → List UInt8)
    (At : zlib.Stream → List UInt8 → List UInt8 → Prop)
    (node : ReadFilterNode zlib.Stream) (fed : List UInt8)
    (looped : Looped zlib) : Prop where
  availIn : looped.availIn = 0
  stream : At looped.node.own fed (inflation fed)
  output : looped.output.content = inflation fed
  errors : looped.node.errors = node.errors
  bufferCache : looped.node.bufferCache = node.bufferCache
  eof : looped.node.eof = true → node.eof = true ∨ fed = gzip

theorem recordCode_bufferCache (code : InflateCode) :
    (recordCode node code).bufferCache = node.bufferCache := by
  cases code <;> rfl

theorem recordCode_own (code : InflateCode) :
    (recordCode node code).own = node.own := by
  cases code <;> rfl

theorem recordCode_errors {code : InflateCode} (noError : code ≠ .failed) :
    (recordCode node code).errors = node.errors := by
  cases code with
  | failed => exact absurd rfl noError
  | ok => rfl
  | streamEnd => rfl
  | bufError => rfl

theorem recordCode_eof {code : InflateCode}
    (eof : (recordCode node code).eof = true) :
    node.eof = true ∨ code = .streamEnd := by
  cases code with
  | streamEnd => exact Or.inr rfl
  | ok => exact Or.inl eof
  | bufError => exact Or.inl eof
  | failed => exact Or.inl eof

/-- What a call leaves to be done. -/
theorem content_append_out
    {out rest : List UInt8} {blocks : Nat}
    (room : HoldsBlocks blocks output rest)
    (isPrefix : out <+: rest)
    (length : out.length = if blocks = 0 then rest.length else buffSz) :
    (if 0 < out.length then (output.append out).2 else output).content =
      output.content ++ out := by
  split_ifs with some
  · apply BufferUtils.content_append
    cases blocks with
    | zero =>
        rw [length, if_pos rfl]
        rcases room with empty | holds
        · rw [empty, List.prefix_nil] at isPrefix
          rw [isPrefix] at some
          exact absurd some (Nat.lt_irrefl 0)
        · exact holds
    | succ blocks =>
        rw [length, if_neg (Nat.succ_ne_zero blocks)]
        exact room.1
  · rw [List.length_eq_zero_iff.mp (Nat.eq_zero_of_not_pos some), List.append_nil]

/-- The node between two rounds changes only as the calls report. -/
theorem Done.of_recordCode
    {result : Inflated zlib.Stream} {looped : Looped zlib}
    (noError : result.code ≠ .failed)
    (atEnd : result.code = .streamEnd → fed = gzip)
    (done : Done gzip inflation At
      (recordCode { node with own := result.stream } result.code) fed looped) :
    Done gzip inflation At node fed looped where
  availIn := done.availIn
  stream := done.stream
  output := done.output
  errors := done.errors.trans (recordCode_errors noError)
  bufferCache := done.bufferCache.trans (recordCode_bufferCache result.code)
  eof := by
    intro eof
    rcases done.eof eof with recorded | whole
    · exact (recordCode_eof recorded).imp_right atEnd
    · exact Or.inr whole

/-- A call with room for the rest of the inflation is the last one. -/
theorem inflateLoop_last
    {rest : List UInt8}
    (call : zlib.Call gzip inflation At fed produced input buffSz
      (zlib.inflate node.own input buffSz))
    (received : output.content = produced)
    (split : inflation (fed ++ input) = produced ++ rest)
    (short : rest.length < buffSz)
    (room : HoldsBlocks 0 output rest) :
    ∃ looped, inflateLoop zlib 1 node input output = some looped ∧
      Done gzip inflation At node (fed ++ input) looped := by
  have isPrefix := call.produces
  rw [split, List.prefix_append_right_inj] at isPrefix
  have notFull := Nat.lt_of_le_of_lt isPrefix.length_le short
  obtain ⟨used, all⟩ := call.as_much notFull
  have whole : (zlib.inflate node.own input buffSz).out = rest := by
    rw [split] at all
    exact List.append_cancel_left all
  have next := call.next
  rw [used, Nat.sub_zero, List.take_length, all] at next
  refine ⟨_, by rw [inflateLoop, if_pos notFull], Done.of_recordCode call.noError call.atEnd ?_⟩
  refine ⟨used, ?_, ?_, rfl, rfl, fun eof => Or.inl eof⟩
  · rw [recordCode_own]
    exact next
  · rw [content_append_out room isPrefix (by rw [whole, if_pos rfl]), received, all]

/-- The loop uses up the input and appends its inflation. -/
theorem inflateLoop_done
    {blocks : Nat} {rest : List UInt8}
    (correct : zlib.Correct gzip intact inflation At)
    (isAt : At node.own fed produced)
    (isPrefix : fed ++ input <+: gzip)
    (isIntact : intact (fed ++ input))
    (received : output.content = produced)
    (split : inflation (fed ++ input) = produced ++ rest)
    (count : rest.length / buffSz = blocks)
    (room : HoldsBlocks blocks output rest) :
    ∃ looped, inflateLoop zlib (blocks + 1) node input output = some looped ∧
      Done gzip inflation At node (fed ++ input) looped := by
  have positive : 0 < buffSz := by decide
  induction blocks generalizing node fed produced input output rest with
  | zero =>
      have short : rest.length < buffSz := (Nat.div_eq_zero_iff_lt positive).mp count
      exact inflateLoop_last (correct.call _ _ _ _ _ isAt isPrefix isIntact positive)
        received split short room
  | succ blocks inductionHypothesis =>
      have call := correct.call _ _ _ _ _ isAt isPrefix isIntact positive
      generalize isResult : zlib.inflate node.own input buffSz = result at call
      have long : buffSz ≤ rest.length := by
        by_contra short
        rw [Nat.div_eq_of_lt (Nat.lt_of_not_le short)] at count
        exact absurd count.symm (Nat.succ_ne_zero blocks)
      have outPrefix := call.produces
      rw [split, List.prefix_append_right_inj] at outPrefix
      have full : ¬result.out.length < buffSz := by
        intro notFull
        have all := (call.as_much notFull).2
        rw [split] at all
        have whole := congrArg List.length (List.append_cancel_left all)
        omega
      have size : result.out.length = buffSz :=
        Nat.le_antisymm call.out_le (Nat.le_of_not_lt full)
      have block : result.out = rest.take buffSz := by
        have taken := List.prefix_iff_eq_take.mp outPrefix
        rwa [size] at taken
      have joined : fed ++ input.take (input.length - result.availIn) ++
          input.drop (input.length - result.availIn) = fed ++ input := by
        rw [List.append_assoc, List.take_append_drop]
      have appended : (output.append result.out).2.content = produced ++ result.out := by
        rw [BufferUtils.content_append (by rw [size]; exact room.1), received]
      have split' : inflation (fed ++ input) =
          produced ++ result.out ++ rest.drop buffSz := by
        rw [split, block, List.append_assoc, List.take_append_drop]
      have count' : (rest.drop buffSz).length / buffSz = blocks := by
        rw [Nat.div_eq_sub_div positive long] at count
        rw [List.length_drop]
        exact Nat.succ.inj count
      obtain ⟨looped, returned, done⟩ := inductionHypothesis
        (by rw [recordCode_own]; exact call.next :
          At (recordCode { node with own := result.stream } result.code).own _ _)
        (by rwa [joined]) (by rwa [joined]) appended (by rwa [joined]) count'
        (by rw [block]; exact room.2)
      rw [joined] at done
      refine ⟨looped, ?_, done.of_recordCode call.noError call.atEnd⟩
      rw [inflateLoop, isResult, if_neg full, if_pos (by rw [size]; exact positive)]
      exact returned

/-- `transcode` returns: the content of the node was inflated, and nothing is left of
it. -/
theorem transcode_done
    (beyond : List UInt8)
    (correct : zlib.Correct gzip intact inflation At)
    (notEof : node.eof = false)
    (noError : node.errors = 0)
    (nonempty : node.bufferCache.content ≠ [])
    (small : node.bufferCache.content.length < 2 ^ 31)
    (isAt : At node.own fed output.content)
    (isPrefix : fed ++ node.bufferCache.content <+: gzip)
    (isIntact : intact (fed ++ node.bufferCache.content))
    (room : HoldsRest output (inflation (fed ++ node.bufferCache.content))) :
    ∃ rounds result, transcode zlib rounds beyond node output = some result ∧
      result.ret = 0 ∧
      At result.node.own (fed ++ node.bufferCache.content)
        (inflation (fed ++ node.bufferCache.content)) ∧
      result.output.content = inflation (fed ++ node.bufferCache.content) ∧
      result.node.errors = 0 ∧ result.node.bufferCache.content = [] ∧
      (result.node.eof = true → fed ++ node.bufferCache.content = gzip) := by
  have call := correct.call _ _ _ _ buffSz isAt isPrefix isIntact (by decide)
  have extended : output.content <+: inflation (fed ++ node.bufferCache.content) :=
    (List.prefix_append _ _).trans call.produces
  obtain ⟨rounds, looped, returned, done⟩ : ∃ rounds looped,
      inflateLoop zlib rounds node node.bufferCache.content output = some looped ∧
        Done gzip inflation At node (fed ++ node.bufferCache.content) looped :=
    ⟨_, inflateLoop_done correct isAt isPrefix isIntact rfl
      (List.prefix_iff_eq_append.mp extended).symm rfl room⟩
  have positive := List.length_pos_iff.mpr nonempty
  have goes : ¬((node.bufferCache.content.length : Int) ≤ 0 ∨ node.eof = true ∨
      node.errors ≠ 0) := by
    rintro (empty | eof | error)
    · omega
    · exact absurd (notEof.symm.trans eof) (by decide)
    · exact error noError
  refine ⟨rounds,
    { ret := 0
      node := { looped.node with
        bufferCache := (looped.node.bufferCache.consume
          (node.bufferCache.content.length - looped.availIn) beyond).2 }
      output := looped.output },
    ?_, rfl, done.stream, done.output, done.errors.trans noError, ?_, ?_⟩
  · rw [transcode, asInt_of_lt small, if_neg goes, Int.toNat_natCast, List.take_length,
      returned, Option.map_some]
  · rw [done.bufferCache, done.availIn]
    have emptied := BufferUtils.content_consume (Nat.le_refl _) small beyond
    rw [List.drop_length] at emptied
    exact emptied
  · intro eof
    rcases done.eof eof with before | whole
    · exact absurd (notEof.symm.trans before) (by decide)
    · exact whole

end Correct

end GzipDecodeFilter
end HttpFilter
end Skplat
