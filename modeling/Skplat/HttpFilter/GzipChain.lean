import Skplat.HttpFilter.ChunkStream
import Skplat.HttpFilter.GzipFilter
import Skplat.Machine.Basic

/-!
# The chunks of a gzip stream

The header of the `BufferFilter` is a chunk filter whose child is a gzip filter.  After
each write, `chunkedEOF` reads until `read` returns zero.  The gzip filter always returns
zero, so every write is followed by one read, which takes at most one chunk.
-/

namespace Skplat
namespace HttpFilter

/-- A `BufferFilter` with a chunk filter as its header and a gzip filter behind it. -/
structure BufferFilter (zlib : Zlib) where
  header : ReadFilterNode Unit
  child : ReadFilterNode zlib.Stream
  dataSize : Nat

namespace BufferFilter

variable {zlib : Zlib}

/-- The chain before the first write. -/
def new (zlib : Zlib) : BufferFilter zlib where
  header := .new ()
  child := .new zlib.init
  dataSize := 0

/-- `write(buff, count)` and its result. -/
def write (filter : BufferFilter zlib) (buff : List UInt8) : Nat × BufferFilter zlib :=
  let written := filter.header.write buff
  (written.1, { filter with
    header := written.2
    dataSize := filter.dataSize + buff.length })

/-- `endOfFile()`. -/
def endOfFile (filter : BufferFilter zlib) : Bool := filter.header.eof

/-- `error()`. -/
def error (filter : BufferFilter zlib) : Int := filter.header.errors

/-- The chain and the buffer of the caller after a call of `read`. -/
structure Result (zlib : Zlib) where
  ret : Int
  filter : BufferFilter zlib
  recvBuffer : BufferUtils

/-- `read(recvBuffer)`, with the memory behind the contents of the two nodes. -/
def read
    (beyond childBeyond : List UInt8) (rounds : Nat)
    (filter : BufferFilter zlib) (recvBuffer : BufferUtils) : Option (Result zlib) :=
  if filter.endOfFile = true then some ⟨0, filter, recvBuffer⟩
  else if filter.error < 0 then some ⟨filter.error, filter, recvBuffer⟩
  else
    (filter.header.readByChild (HttpChunkFilter.transcoder beyond)
      (ReadFilterNode.read (GzipDecodeFilter.transcode zlib rounds childBeyond))
      filter.child recvBuffer).map fun result =>
        { ret := result.ret
          filter := { filter with header := result.node, child := result.child }
          recvBuffer := result.recvBuffer }

section Read

variable {beyond childBeyond : List UInt8} {rounds : Nat}
variable {filter : BufferFilter zlib} {recvBuffer : BufferUtils}

theorem read_of_eof (eof : filter.header.eof = true) :
    filter.read beyond childBeyond rounds recvBuffer = some ⟨0, filter, recvBuffer⟩ := by
  rw [read, endOfFile, if_pos eof]

/-- The header is read. -/
theorem read_of_header
    (notEof : filter.header.eof = false)
    (noError : filter.header.errors = 0) :
    filter.read beyond childBeyond rounds recvBuffer =
      (filter.header.readByChild (HttpChunkFilter.transcoder beyond)
        (ReadFilterNode.read (GzipDecodeFilter.transcode zlib rounds childBeyond))
        filter.child recvBuffer).map fun result =>
          { ret := result.ret
            filter := { filter with header := result.node, child := result.child }
            recvBuffer := result.recvBuffer } := by
  rw [read, endOfFile, if_neg (ne_true_of_eq_false notEof), error, noError,
    if_neg (by decide)]

end Read

theorem read_mono
    {rounds more : Nat} (le : rounds ≤ more)
    {beyond childBeyond : List UInt8}
    {filter : BufferFilter zlib} {recvBuffer : BufferUtils} {result : Result zlib}
    (returned : filter.read beyond childBeyond rounds recvBuffer = some result) :
    filter.read beyond childBeyond more recvBuffer = some result := by
  unfold read at returned ⊢
  split_ifs at returned ⊢
  · exact returned
  · exact returned
  · obtain ⟨byChild, isByChild, shape⟩ := Option.map_eq_some_iff.mp returned
    rw [ReadFilterNode.readByChild_mono _ isByChild, Option.map_some, shape]
    intro child output transcoded childReturned
    exact ReadFilterNode.read_mono
      (GzipDecodeFilter.transcode_mono le) childReturned

end BufferFilter

namespace GzipChain

open GzipDecodeFilter (HoldsRest)

/-- The chain, what it delivered, what was written to it, and whether it is read. -/
structure State (zlib : Zlib) where
  filter : BufferFilter zlib
  recvBuffer : BufferUtils
  sent : List UInt8
  draining : Bool

/-- A segment is written, or the chain is read with some memory behind the contents and
a bound on the calls of `inflate`. -/
inductive Action where
  | write (segment : List UInt8)
  | read (beyond childBeyond : List UInt8) (rounds : Nat)

/-- Nothing was written. -/
def State.new (zlib : Zlib) : State zlib where
  filter := .new zlib
  recvBuffer := .new
  sent := []
  draining := false

/-- One call of `write` or `read` in `chunkedEOF`. -/
def step {zlib : Zlib} (chunks : List Chunk) (state : State zlib) :
    Action → Option (State zlib)
  | .write segment =>
      if state.draining = false ∧ state.sent ++ segment <+: encode chunks then
        some { state with
          filter := (state.filter.write segment).2
          sent := state.sent ++ segment
          draining := true }
      else none
  | .read beyond childBeyond rounds =>
      if state.draining = true then
        (state.filter.read beyond childBeyond rounds state.recvBuffer).map fun result =>
          { state with
            filter := result.filter
            recvBuffer := result.recvBuffer
            draining := decide (result.ret ≠ (0 : Int)) }
      else none

/-- The runs that write a stream and read after each segment. -/
def system (zlib : Zlib) (chunks : List Chunk) : Machine (State zlib) Action where
  initial := fun state => state = .new zlib
  step := step chunks

/-- The data of the chunks that were written completely. -/
def received (chunks : List Chunk) (sent : List UInt8) : List UInt8 :=
  (complete chunks sent.length).flatMap Chunk.data

section Allowed

variable {zlib : Zlib} (chunks : List Chunk)
variable (intact : List UInt8 → Prop) (inflation : List UInt8 → List UInt8)

/-- A read by the chunk filter is harmless, the data received is not corrupt, and the
buffer of the caller has room for what is inflated. -/
def Readable (state : State zlib) (beyond : List UInt8) : Prop :=
  (state.filter.header.eof = false → state.filter.header.bufferCache.content ≠ [] →
      HttpChunkFilter.Harmless beyond state.filter.header
        state.filter.child.bufferCache) ∧
    intact (received chunks state.sent) ∧
    HoldsRest state.recvBuffer (inflation (received chunks state.sent))

/-- A segment that completes at most one chunk, or a read as above. -/
def Allowed (state : State zlib) : Action → Prop
  | .write segment =>
      state.filter.header.bufferCache.Holds segment.length ∧
        (complete chunks (state.sent ++ segment).length).length ≤
          (complete chunks state.sent.length).length + 1
  | .read beyond _ _ => Readable chunks intact inflation state beyond

instance [DecidablePred intact] (state : State zlib) :
    DecidablePred (Allowed chunks intact inflation state) := fun action =>
  match action with
  | .write segment =>
      inferInstanceAs (Decidable (state.filter.header.bufferCache.Holds segment.length ∧
        (complete chunks (state.sent ++ segment).length).length ≤
          (complete chunks state.sent.length).length + 1))
  | .read _ _ _ => inferInstanceAs (Decidable ((_ → _ → _) ∧ intact _ ∧ HoldsRest _ _))

end Allowed

section Sound

variable {zlib : Zlib} {chunks : List Chunk}
variable {intact : List UInt8 → Prop} {inflation : List UInt8 → List UInt8}
variable {At : zlib.Stream → List UInt8 → List UInt8 → Prop}

/-- Where the chain is in the stream: the gzip filter has inflated the chunks that the
chunk filter took. -/
structure Follows
    (chunks : List Chunk) (inflation : List UInt8 → List UInt8)
    (At : zlib.Stream → List UInt8 → List UInt8 → Prop)
    (sent : List UInt8) (filter : BufferFilter zlib) (recvBuffer : BufferUtils)
    (done rest : List Chunk) (lead : List UInt8) : Prop where
  tracks : Tracks chunks sent filter.header.bufferCache.content done rest lead
  noError : filter.header.errors = 0
  childNoError : filter.child.errors = 0
  childEmpty : filter.child.bufferCache.content = []
  childEof : filter.child.eof = true → filter.header.eof = true
  stream : At filter.child.own (done.flatMap Chunk.data) recvBuffer.content
  delivered : recvBuffer.content = inflation (done.flatMap Chunk.data)
  ended : filter.header.eof = true → rest = []

namespace Follows

variable {sent lead beyond childBeyond : List UInt8}
variable {filter : BufferFilter zlib} {recvBuffer : BufferUtils}
variable {done rest : List Chunk}

/-- A read that returns zero, and leaves no complete chunk. -/
def Drained
    (chunks : List Chunk) (inflation : List UInt8 → List UInt8)
    (At : zlib.Stream → List UInt8 → List UInt8 → Prop)
    (sent : List UInt8) (result : BufferFilter.Result zlib) : Prop :=
  result.ret = 0 ∧ ∃ done rest lead,
    Follows chunks inflation At sent result.filter result.recvBuffer done rest lead ∧
      (rest ≠ [] → result.filter.header.bufferCache.content.length <
        lead.length + (nextPart rest).length)

/-- At most one chunk is complete and was not taken. -/
theorem complete_eq_done
    {cache : BufferUtils} {chunk : Chunk}
    (moved : Tracks chunks sent cache.content (done ++ [chunk]) rest lead)
    (few : (complete chunks sent.length).length ≤ done.length + 1) :
    received chunks sent = done.flatMap Chunk.data ++ chunk.data ∧
      (rest ≠ [] → cache.content.length < lead.length + (nextPart rest).length) := by
  constructor
  · have all := moved.complete_eq_append
    rw [all, List.length_append, List.length_append, List.length_singleton] at few
    have nothing : complete rest (sent.length - encodedLength (done ++ [chunk])) = [] :=
      List.length_eq_zero_iff.mp (by omega)
    rw [received, all, nothing, List.append_nil, List.flatMap_append,
      List.flatMap_singleton]
  · intro nonempty
    obtain ⟨next, others, rfl⟩ := List.exists_cons_of_ne_nil nonempty
    by_contra whole
    have more := moved.length_lt_complete (Nat.le_of_not_lt whole)
    rw [List.length_append, List.length_singleton] at more
    omega

/-- The data of the chunks taken is in front of the data of all chunks. -/
theorem data_append_data
    {chunk : Chunk} (split : chunks = done ++ [chunk] ++ rest) :
    done.flatMap Chunk.data ++ chunk.data <+: chunks.flatMap Chunk.data ∧
      (done.flatMap Chunk.data ++ chunk.data = chunks.flatMap Chunk.data → rest = []) := by
  have joined : chunks.flatMap Chunk.data =
      done.flatMap Chunk.data ++ chunk.data ++ rest.flatMap Chunk.data := by
    rw [split, List.flatMap_append, List.flatMap_append, List.flatMap_singleton]
  rw [joined]
  refine ⟨List.prefix_append _ _, fun whole => ?_⟩
  have nothing := List.append_cancel_left ((List.append_nil _).trans whole)
  cases rest with
  | nil => rfl
  | cons next others =>
      rw [List.flatMap_cons] at nothing
      exact absurd (List.append_eq_nil_iff.mp nothing.symm).1 next.nonempty

/-- A chunk that was taken is inflated. -/
theorem read_chunk
    {cache output : BufferUtils} {child : ReadFilterNode zlib.Stream} {chunk : Chunk}
    (follows : Follows chunks inflation At sent filter recvBuffer done (chunk :: rest) lead)
    (correct : zlib.Correct (chunks.flatMap Chunk.data) intact inflation At)
    (notEof : filter.header.eof = false)
    (few : (complete chunks sent.length).length ≤ done.length + 1)
    (isIntact : intact (received chunks sent))
    (room : HoldsRest recvBuffer (inflation (received chunks sent)))
    (small : chunk.data.length < 2 ^ 31)
    (moved : Tracks chunks sent cache.content (done ++ [chunk]) rest crlf)
    (isChild : child = { filter.child with bufferCache := output })
    (isData : output.content = chunk.data) :
    ∃ rounds result,
      child.read (GzipDecodeFilter.transcode zlib rounds childBeyond) recvBuffer =
        some result ∧
      Drained chunks inflation At sent
        { ret := result.ret
          filter := { filter with
            header := ReadFilterNode.recordChild { filter.header with bufferCache := cache }
              result.ret result.node.eof
            child := result.node }
          recvBuffer := result.output } := by
  obtain ⟨isReceived, waiting⟩ := complete_eq_done moved few
  obtain ⟨isPrefix, isLast⟩ := data_append_data moved.split
  have childNotEof : child.eof = false := by
    rw [isChild]
    by_contra eof
    have ended := follows.childEof (by simpa using eof)
    exact absurd (notEof.symm.trans ended) (by decide)
  have childNoError : child.errors = 0 := by
    rw [isChild]
    exact follows.childNoError
  have stream : At child.own (done.flatMap Chunk.data) recvBuffer.content := by
    rw [isChild]
    exact follows.stream
  have content : child.bufferCache.content = chunk.data := by
    rw [isChild]
    exact isData
  have nonempty : child.bufferCache.content ≠ [] := by
    rw [content]
    exact chunk.nonempty
  rw [isReceived, ← content] at isIntact room
  rw [← content] at isPrefix isLast small
  obtain ⟨rounds, result, returned, ret, stream, delivered, errors, empty, eof⟩ :=
    GzipDecodeFilter.transcode_done childBeyond correct childNotEof childNoError nonempty
      small stream isPrefix isIntact room
  have fed : done.flatMap Chunk.data ++ child.bufferCache.content =
      (done ++ [chunk]).flatMap Chunk.data := by
    rw [content, List.flatMap_append, List.flatMap_singleton]
  rw [fed] at stream delivered
  refine ⟨rounds, result, ReadFilterNode.read_of_content childNotEof childNoError nonempty
    small returned (Int.le_of_eq ret.symm), ret, done ++ [chunk], rest, crlf, ?_, ?_⟩
  · have header : ReadFilterNode.recordChild { filter.header with bufferCache := cache }
        result.ret result.node.eof =
          { filter.header with bufferCache := cache, eof := result.node.eof } := by
      rw [ReadFilterNode.recordChild, ret, if_neg (by decide), if_pos rfl, notEof]
      rfl
    rw [header]
    exact {
      tracks := moved
      noError := follows.noError
      childNoError := errors
      childEmpty := empty
      childEof := id
      stream := by rw [delivered]; exact stream
      delivered := delivered
      ended := fun ends => isLast (eof ends) }
  · rw [ret, ReadFilterNode.recordChild, if_neg (by decide), if_pos rfl, notEof]
    exact waiting

/-- One read takes at most one chunk, inflates it, and returns zero. -/
theorem read
    (follows : Follows chunks inflation At sent filter recvBuffer done rest lead)
    (correct : zlib.Correct (chunks.flatMap Chunk.data) intact inflation At)
    (sizes : ∀ chunk ∈ chunks, chunk.data.length < 2 ^ 63)
    (few : (complete chunks sent.length).length ≤ done.length + 1)
    (harmless : filter.header.eof = false → filter.header.bufferCache.content ≠ [] →
      HttpChunkFilter.Harmless beyond filter.header filter.child.bufferCache)
    (isIntact : intact (received chunks sent))
    (room : HoldsRest recvBuffer (inflation (received chunks sent))) :
    ∃ rounds result, filter.read beyond childBeyond rounds recvBuffer = some result ∧
      Drained chunks inflation At sent result := by
  cases eof : filter.header.eof with
  | true =>
      refine ⟨0, ⟨0, filter, recvBuffer⟩, BufferFilter.read_of_eof eof, rfl,
        done, rest, lead, follows, fun nonempty => ?_⟩
      exact absurd (follows.ended eof) nonempty
  | false =>
      by_cases empty : filter.header.bufferCache.content = []
      · refine ⟨0, ⟨0, filter, recvBuffer⟩, ?_, rfl, done, rest, lead, follows, fun _ => ?_⟩
        · rw [BufferFilter.read_of_header eof follows.noError,
            ReadFilterNode.readByChild_of_empty follows.noError empty, Option.map_some]
        · simp only [empty, List.length_nil]
          exact Nat.add_pos_right _ (nextPart_pos rest)
      · have harmless := harmless eof empty
        obtain ⟨chunk, others, cache, rfl, holds, moved, shorter, transcoded⟩ |
            ⟨rfl, long, transcoded⟩ | ⟨waiting, transcoded⟩ :=
          follows.tracks.transcode sizes harmless
        · have content : (filter.child.bufferCache.append chunk.data).2.content =
              chunk.data := by
            rw [BufferUtils.content_append holds, follows.childEmpty, List.nil_append]
          have positive : 0 <
              (filter.child.bufferCache.append chunk.data).2.content.length := by
            rw [content]
            exact List.length_pos_iff.mpr chunk.nonempty
          obtain ⟨rounds, result, returned, drained⟩ := follows.read_chunk correct eof few
            isIntact room (Nat.lt_of_le_of_lt (by omega) harmless.1) moved rfl content
          refine ⟨rounds, _, ?_, drained⟩
          rw [BufferFilter.read_of_header eof follows.noError,
            ReadFilterNode.readByChild_of_content eof follows.noError empty
            harmless.1 (HttpChunkFilter.transcoder_eq_some transcoded)
            (Int.natCast_nonneg _), if_pos positive, returned]
          rfl
        · refine ⟨0, ⟨0, { filter with header := { filter.header with eof := true } },
            recvBuffer⟩, ?_, rfl, done, [], lead, ?_, fun nonempty => absurd rfl nonempty⟩
          · rw [BufferFilter.read_of_header eof follows.noError,
            ReadFilterNode.readByChild_of_content eof follows.noError empty
              harmless.1 (HttpChunkFilter.transcoder_eq_some transcoded) (Int.le_refl 0),
              if_neg (by rw [follows.childEmpty]; decide)]
            rfl
          · exact { follows with
              childEof := fun _ => rfl
              ended := fun _ => rfl }
        · refine ⟨0, ⟨0, filter, recvBuffer⟩, ?_, rfl, done, rest, lead, follows,
            fun _ => waiting⟩
          rw [BufferFilter.read_of_header eof follows.noError,
            ReadFilterNode.readByChild_of_content eof follows.noError empty
            harmless.1 (HttpChunkFilter.transcoder_eq_some transcoded) (Int.le_refl 0),
            if_neg (by rw [follows.childEmpty]; decide)]
          rfl

theorem write
    {segment : List UInt8}
    (follows : Follows chunks inflation At sent filter recvBuffer done rest lead)
    (holds : filter.header.bufferCache.Holds segment.length)
    (isPrefix : sent ++ segment <+: encode chunks) :
    Follows chunks inflation At (sent ++ segment) (filter.write segment).2 recvBuffer
      done rest lead := by
  have content : (filter.write segment).2.header.bufferCache.content =
      filter.header.bufferCache.content ++ segment := BufferUtils.content_append holds
  exact { follows with
    tracks := by rw [content]; exact follows.tracks.write isPrefix }

end Follows

/-- When the chain is not read it waits, and when it is read at most one chunk is
complete. -/
def Sound
    (chunks : List Chunk) (inflation : List UInt8 → List UInt8)
    (At : zlib.Stream → List UInt8 → List UInt8 → Prop) (state : State zlib) : Prop :=
  ∃ done rest lead,
    Follows chunks inflation At state.sent state.filter state.recvBuffer done rest lead ∧
      (state.draining = false → rest ≠ [] →
        state.filter.header.bufferCache.content.length <
          lead.length + (nextPart rest).length) ∧
      (state.draining = true →
        (complete chunks state.sent.length).length ≤ done.length + 1)

namespace Sound

variable {state next : State zlib} {beyond childBeyond : List UInt8}

theorem initial
    (correct : zlib.Correct (chunks.flatMap Chunk.data) intact inflation At) :
    Sound chunks inflation At (.new zlib) := by
  refine ⟨[], chunks, [], ?_, fun _ _ => ?_, nofun⟩
  · exact {
      tracks := .initial chunks
      noError := rfl
      childNoError := rfl
      childEmpty := rfl
      childEof := nofun
      stream := correct.init
      delivered := correct.inflation_nil.symm
      ended := nofun }
  · rw [List.length_nil, Nat.zero_add]
    exact nextPart_pos chunks

theorem write
    {segment : List UInt8}
    (sound : Sound chunks inflation At state)
    (allowed : Allowed chunks intact inflation state (.write segment))
    (stepped : step chunks state (.write segment) = some next) :
    Sound chunks inflation At next := by
  rw [step, Option.ite_none_right_eq_some] at stepped
  obtain ⟨⟨stopped, isPrefix⟩, shape⟩ := stepped
  cases shape
  obtain ⟨done, rest, lead, follows, waiting, -⟩ := sound
  obtain ⟨holds, few⟩ := allowed
  rw [follows.tracks.complete_eq (waiting stopped)] at few
  exact ⟨done, rest, lead, follows.write holds isPrefix, nofun, fun _ => few⟩

/-- There is a number of rounds after which a read returns, with the value zero. -/
theorem exists_drained
    (childBeyond : List UInt8)
    (sound : Sound chunks inflation At state)
    (correct : zlib.Correct (chunks.flatMap Chunk.data) intact inflation At)
    (sizes : ∀ chunk ∈ chunks, chunk.data.length < 2 ^ 63)
    (draining : state.draining = true)
    (readable : Readable chunks intact inflation state beyond) :
    ∃ rounds result,
      state.filter.read beyond childBeyond rounds state.recvBuffer = some result ∧
        Follows.Drained chunks inflation At state.sent result := by
  obtain ⟨done, rest, lead, follows, -, few⟩ := sound
  obtain ⟨harmless, isIntact, room⟩ := readable
  exact follows.read correct sizes (few draining) harmless isIntact room

/-- A read leaves no complete chunk, and is the last one. -/
theorem read
    {rounds : Nat}
    (sound : Sound chunks inflation At state)
    (correct : zlib.Correct (chunks.flatMap Chunk.data) intact inflation At)
    (sizes : ∀ chunk ∈ chunks, chunk.data.length < 2 ^ 63)
    (readable : Readable chunks intact inflation state beyond)
    (stepped : step chunks state (.read beyond childBeyond rounds) = some next) :
    Sound chunks inflation At next ∧ next.draining = false := by
  rw [step, Option.ite_none_right_eq_some] at stepped
  obtain ⟨draining, returned⟩ := stepped
  obtain ⟨result, read, rfl⟩ := Option.map_eq_some_iff.mp returned
  obtain ⟨enough, other, otherRead, ret, drained⟩ :=
    sound.exists_drained childBeyond correct sizes draining readable
  have same : result = other := by
    have first := BufferFilter.read_mono (Nat.le_max_left rounds enough) read
    have second := BufferFilter.read_mono (Nat.le_max_right rounds enough) otherRead
    exact Option.some.inj (first.symm.trans second)
  subst same
  obtain ⟨done, rest, lead, follows, waiting⟩ := drained
  have stopped : decide (result.ret ≠ (0 : Int)) = false := by
    rw [ret]
    rfl
  refine ⟨⟨done, rest, lead, follows, fun _ => waiting, ?_⟩, stopped⟩
  intro goes
  exact absurd (stopped.symm.trans goes) (by decide)

end Sound

end Sound

/-! ## A gzip stream with a stored block -/

end GzipChain
end HttpFilter
end Skplat
