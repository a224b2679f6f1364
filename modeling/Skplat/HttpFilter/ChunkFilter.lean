import Skplat.HttpFilter.ChunkEncoding
import Skplat.HttpFilter.ReadFilterNode

/-!
# The chunk filter

`HttpChunkFilter::transcode` takes one chunk from the front of its input.  It looks for
the end of a line with string functions, which go on behind the content of the buffer:
the memory there is a parameter.
-/

namespace Skplat
namespace HttpFilter

open CString

namespace HttpChunkFilter

/-- The loop that removes the ends of lines, at an index of the memory. -/
def skipCrlf (srcSize : Int) : List UInt8 → Nat → Nat
  | first :: second :: rest, i =>
      if first = 13 ∧ second = 10 ∧ (i : Int) < srcSize then skipCrlf srcSize rest (i + 2)
      else i
  | _, i => i

/-- The index of the size, with the memory behind the content. -/
def lineIndex (cache : BufferUtils) (beyond : List UInt8) : Nat :=
  skipCrlf (asInt cache.content.length) (cache.content ++ beyond) 0

/-- The memory from the size on. -/
def line (cache : BufferUtils) (beyond : List UInt8) : List UInt8 :=
  (cache.content ++ beyond).drop (lineIndex cache beyond)

/-- The parsed size. -/
def count (cache : BufferUtils) (beyond : List UInt8) : Int :=
  (parseHex (line cache beyond) 0).toInt

/-- `HttpChunkFilter::transcode`. -/
def transcode
    (beyond : List UInt8) (node : ReadFilterNode Unit) (outputBuffer : BufferUtils) :
    Transcoded Unit :=
  let cache := node.bufferCache
  let srcSize := asInt cache.content.length
  let i := lineIndex cache beyond
  let count := count cache beyond
  if srcSize < i then ⟨0, node, outputBuffer⟩
  else
    match strstr crlf (line cache beyond) with
    | none => ⟨0, node, outputBuffer⟩
    | some position =>
        if count ≤ 0 then ⟨0, { node with eof := true }, outputBuffer⟩
        else
          let actualData := i + position + 2
          if count ≤ srcSize - actualData then
            { ret := asInt count.toNat
              node := { node with
                bufferCache := (cache.consume (actualData + count.toNat) beyond).2 }
              output := (outputBuffer.append
                (((cache.content ++ beyond).drop actualData).take count.toNat)).2 }
          else ⟨0, node, outputBuffer⟩

/-- `transcode` as the virtual function of a node: it always returns. -/
def transcoder (beyond : List UInt8) :
    ReadFilterNode Unit → BufferUtils → Option (Transcoded Unit) :=
  fun node outputBuffer => some (transcode beyond node outputBuffer)

theorem transcoder_eq_some
    {beyond : List UInt8} {node : ReadFilterNode Unit} {outputBuffer : BufferUtils}
    {transcoded : Transcoded Unit}
    (result : transcode beyond node outputBuffer = transcoded) :
    transcoder beyond node outputBuffer = some transcoded := by
  rw [transcoder, result]

/-- The sizes fit into an `int`, a line end that is only partly in the content is not
taken for the end of a size zero, and there is room for the data of a chunk. -/
def Harmless
    (beyond : List UInt8) (node : ReadFilterNode Unit) (outputBuffer : BufferUtils) : Prop :=
  node.bufferCache.content.length < 2 ^ 31 ∧
    strlen (line node.bufferCache beyond) < 2 ^ 31 ∧
      (lineIndex node.bufferCache beyond ≤ node.bufferCache.content.length →
        ∀ position ∈ strstr crlf (line node.bufferCache beyond),
          (node.bufferCache.content.length <
              lineIndex node.bufferCache beyond + position + 2 →
            0 < count node.bufferCache beyond) ∧
          (lineIndex node.bufferCache beyond + position + 2 +
              count node.bufferCache beyond ≤ node.bufferCache.content.length →
            outputBuffer.Holds (count node.bufferCache beyond).toNat))

instance (beyond : List UInt8) (node : ReadFilterNode Unit) (outputBuffer : BufferUtils) :
    Decidable (Harmless beyond node outputBuffer) :=
  inferInstanceAs (Decidable (_ ∧ _ ∧ (_ → _)))

/-! ## Where the size is found -/

theorem skipCrlf_of_ne
    {first : UInt8} (different : first ≠ 13)
    (srcSize : Int) (rest : List UInt8) (i : Nat) :
    skipCrlf srcSize (first :: rest) i = i := by
  cases rest with
  | nil => rfl
  | cons second rest => rw [skipCrlf, if_neg (fun both => different both.1)]

theorem skipCrlf_of_le
    {srcSize : Int} {i : Nat} (past : srcSize ≤ i) (memory : List UInt8) :
    skipCrlf srcSize memory i = i := by
  cases memory with
  | nil => rfl
  | cons first rest =>
      cases rest with
      | nil => rfl
      | cons second rest =>
          rw [skipCrlf, if_neg]
          rintro ⟨-, -, before⟩
          omega

variable {cache : BufferUtils} {lead tail beyond : List UInt8}
variable {chunks : List Chunk}
variable {node : ReadFilterNode Unit} {output : BufferUtils}

/-- At most one line end is left in front of the size. -/
theorem lineIndex_eq
    (isLead : lead = [] ∨ lead = crlf)
    (content : cache.content = lead ++ tail)
    (cut : tail <+: encode chunks)
    (nonempty : tail ≠ [])
    (small : cache.content.length < 2 ^ 31) :
    lineIndex cache beyond = lead.length := by
  obtain ⟨first, rest, rfl⟩ := List.exists_cons_of_ne_nil nonempty
  have different : first ≠ 13 := by
    obtain ⟨digit, others, digits, different⟩ := nextDigits_eq_cons chunks
    rw [encode_eq_line, List.append_assoc, digits] at cut
    rw [(List.cons_prefix_cons.mp cut).1]
    exact different
  rw [lineIndex, asInt_of_lt small, content]
  rcases isLead with rfl | rfl
  · exact skipCrlf_of_ne different _ _ _
  · have positive : ((0 : Nat) : Int) < ((crlf ++ first :: rest).length : Nat) :=
      Int.natCast_pos.mpr Nat.succ_pos'
    rw [crlf, List.cons_append, List.cons_append, List.nil_append, List.cons_append,
      List.cons_append, skipCrlf, if_pos ⟨rfl, rfl, positive⟩]
    exact skipCrlf_of_ne different _ _ _

theorem line_eq
    (content : cache.content = lead ++ tail)
    (index : lineIndex cache beyond = lead.length) :
    line cache beyond = tail ++ beyond := by
  rw [line, index, content, List.append_assoc, List.drop_left]

/-- A complete line is found and its size is parsed. -/
theorem strstr_line
    (content : cache.content = lead ++ tail)
    (index : lineIndex cache beyond = lead.length)
    (cut : tail <+: encode chunks)
    (long : (nextDigits chunks).length + 2 ≤ tail.length)
    (size : nextSize chunks < 2 ^ 63)
    (short : strlen (line cache beyond) < 2 ^ 31) :
    strstr crlf (line cache beyond) = some (nextDigits chunks).length ∧
      count cache beyond = nextSize chunks := by
  have isLine : nextDigits chunks ++ crlf <+: tail := by
    apply List.prefix_of_prefix_length_le _ cut
    · rw [List.length_append]
      exact long
    · rw [encode_eq_line]
      exact List.prefix_append _ _
  obtain ⟨rest, joined⟩ := isLine
  have shape : line cache beyond = nextDigits chunks ++ crlf ++ (rest ++ beyond) := by
    rw [line_eq content index, ← joined, List.append_assoc]
  rw [shape, List.append_assoc] at short
  constructor
  · rw [shape]
    exact strstr_nextDigits chunks _
  · rw [count, shape, List.append_assoc]
    exact toInt_parseHex (hexValue_nextDigits chunks) (by decide) size short

/-- A line that is not complete does not contain its end. -/
theorem strstr_incomplete
    (cut : tail <+: encode chunks)
    (short : tail.length < (nextDigits chunks).length + 2) :
    strstr crlf tail = none := by
  rw [encode_eq_line] at cut
  exact strstr_eq_none_of_cut (fun byte present => (nextDigits_ne chunks present).1)
    (fun present => (nextDigits_ne chunks present).2 rfl) cut short

/-- Nothing is found in a line end, complete or not. -/
theorem strstr_lineEnd
    (isLead : lead = [] ∨ lead = crlf)
    (isPrefix : cache.content <+: lead) :
    strstr crlf (cache.content.drop (lineIndex cache beyond)) = none := by
  rw [Option.eq_none_iff_forall_ne_some]
  intro position found
  have inside := add_length_le_of_strstr found
  rw [List.length_drop] at inside
  have two : crlf.length = 2 := rfl
  have whole : cache.content = crlf := by
    rcases isLead with rfl | rfl
    · have nothing := isPrefix.length_le
      rw [List.length_nil] at nothing
      omega
    · exact isPrefix.eq_of_length_le (by omega)
  have index : lineIndex cache beyond = 2 := by
    rw [lineIndex, whole]
    exact skipCrlf_of_le (by decide) beyond
  rw [whole] at inside
  omega

/-! ## What `transcode` does -/

/-- Without a line end in the content nothing happens. -/
theorem transcode_of_missing
    (harmless : Harmless beyond node output)
    (missing : strstr crlf
      (node.bufferCache.content.drop (lineIndex node.bufferCache beyond)) = none) :
    transcode beyond node output = ⟨0, node, output⟩ := by
  obtain ⟨small, -, found⟩ := harmless
  simp only [transcode, asInt_of_lt small]
  split
  · rfl
  · rename_i inside
    have within : lineIndex node.bufferCache beyond ≤ node.bufferCache.content.length := by
      omega
    cases search : strstr crlf (line node.bufferCache beyond) with
    | none => rfl
    | some position =>
        have reaches : node.bufferCache.content.length <
            lineIndex node.bufferCache beyond + position + 2 := by
          have shape : line node.bufferCache beyond =
              node.bufferCache.content.drop (lineIndex node.bufferCache beyond) ++ beyond :=
            List.drop_append_of_le_length within
          rw [shape] at search
          have behind := length_lt_of_strstr_append missing search
          rw [List.length_drop] at behind
          have two : crlf.length = 2 := rfl
          omega
        have positive := (found within position search).1 reaches
        simp only
        rw [if_neg (by omega), if_neg (by omega)]

/-- A complete line decides: its size is zero, or the data is complete, or not. -/
theorem transcode_of_line
    (harmless : Harmless beyond node output)
    (isLead : lead = [] ∨ lead = crlf)
    (content : node.bufferCache.content = lead ++ tail)
    (cut : tail <+: encode chunks)
    (size : nextSize chunks < 2 ^ 63)
    (long : (nextDigits chunks).length + 2 ≤ tail.length) :
    transcode beyond node output =
      if nextSize chunks = 0 then ⟨0, { node with eof := true }, output⟩
      else if (nextPart chunks).length ≤ tail.length then
        { ret := asInt (nextSize chunks)
          node := { node with
            bufferCache :=
              (node.bufferCache.consume (lead.length + (nextPart chunks).length) beyond).2 }
          output := (output.append (((node.bufferCache.content ++ beyond).drop
            (lead.length + (nextDigits chunks).length + 2)).take (nextSize chunks))).2 }
      else ⟨0, node, output⟩ := by
  obtain ⟨small, short, -⟩ := harmless
  have part := length_nextPart chunks
  have nonempty : tail ≠ [] := List.ne_nil_of_length_pos (by omega)
  have total : node.bufferCache.content.length = lead.length + tail.length := by
    rw [content, List.length_append]
  have index : lineIndex node.bufferCache beyond = lead.length :=
    lineIndex_eq isLead content cut nonempty small
  obtain ⟨found, parsed⟩ := strstr_line content index cut long size short
  have consumed : lead.length + (nextDigits chunks).length + 2 + nextSize chunks =
      lead.length + (nextPart chunks).length := by omega
  simp only [transcode, asInt_of_lt small, index, found, parsed, Int.toNat_natCast, consumed]
  rw [if_neg (by omega)]
  by_cases zero : nextSize chunks = 0
  · rw [if_pos zero, if_pos (by omega)]
  · rw [if_neg zero, if_neg (by omega)]
    by_cases whole : (nextPart chunks).length ≤ tail.length
    · rw [if_pos whole, if_pos (by omega)]
    · rw [if_neg whole, if_neg (by omega)]

/-- The last line ends the stream. -/
theorem transcode_lastLine
    (harmless : Harmless beyond node output)
    (isLead : lead = [] ∨ lead = crlf)
    (content : node.bufferCache.content = lead ++ tail)
    (cut : tail <+: encode [])
    (long : lastLine.length ≤ tail.length) :
    transcode beyond node output = ⟨0, { node with eof := true }, output⟩ := by
  have zero : nextSize [] = 0 := rfl
  rw [transcode_of_line harmless isLead content cut (by decide) long, if_pos zero]

/-- A complete chunk is taken. -/
theorem transcode_chunk
    {chunk : Chunk}
    (harmless : Harmless beyond node output)
    (isLead : lead = [] ∨ lead = crlf)
    (content : node.bufferCache.content = lead ++ tail)
    (cut : tail <+: encode (chunk :: chunks))
    (long : chunk.body.length ≤ tail.length) :
    output.Holds chunk.data.length ∧
      transcode beyond node output =
        { ret := chunk.data.length
          node := { node with
            bufferCache :=
              (node.bufferCache.consume (lead.length + chunk.body.length) beyond).2 }
          output := (output.append chunk.data).2 } := by
  obtain ⟨small, short, room⟩ := id harmless
  have body : chunk.body.length = chunk.digits.length + 2 + chunk.data.length :=
    length_nextPart (chunk :: chunks)
  have positive := List.length_pos_iff.mpr chunk.nonempty
  have total : node.bufferCache.content.length = lead.length + tail.length := by
    rw [content, List.length_append]
  have whole : ((lead.length + chunk.digits.length + 2 : Nat) : Int) + chunk.data.length ≤
      node.bufferCache.content.length := by omega
  have size : chunk.data.length < 2 ^ 31 := by omega
  have fits : nextSize (chunk :: chunks) < 2 ^ 63 := by
    rw [nextSize]
    omega
  have line : (nextDigits (chunk :: chunks)).length + 2 ≤ tail.length := by
    rw [nextDigits]
    omega
  have index : lineIndex node.bufferCache beyond = lead.length :=
    lineIndex_eq isLead content cut (List.ne_nil_of_length_pos (by omega)) small
  have data : ((node.bufferCache.content ++ beyond).drop
      (lead.length + chunk.digits.length + 2)).take chunk.data.length = chunk.data := by
    obtain ⟨rest, joined⟩ :=
      List.prefix_of_prefix_length_le (nextPart_prefix_encode (chunk :: chunks)) cut long
    have front : (lead ++ (chunk.digits ++ crlf)).length =
        lead.length + chunk.digits.length + 2 := by
      rw [List.length_append, List.length_append, Nat.add_assoc]
      rfl
    have shape : node.bufferCache.content ++ beyond =
        lead ++ (chunk.digits ++ crlf) ++ (chunk.data ++ (rest ++ beyond)) := by
      rw [content, ← joined, nextPart, Chunk.body]
      simp only [List.append_assoc]
    rw [shape, ← front, List.drop_left, List.take_left]
  constructor
  · obtain ⟨found, parsed⟩ := strstr_line content index cut line fits short
    have parsed : count node.bufferCache beyond = chunk.data.length := parsed
    have holds := (room (by omega) _ found).2
    rw [index, parsed, Int.toNat_natCast] at holds
    exact holds whole
  · have nonzero : nextSize (chunk :: chunks) ≠ 0 := Nat.ne_of_gt positive
    rw [transcode_of_line harmless isLead content cut fits line, if_neg nonzero, nextPart,
      if_pos long, nextSize, nextDigits, data, asInt_of_lt size]

/-- A chunk whose data is not complete stays. -/
theorem transcode_of_partial
    {chunk : Chunk}
    (harmless : Harmless beyond node output)
    (isLead : lead = [] ∨ lead = crlf)
    (content : node.bufferCache.content = lead ++ tail)
    (cut : tail <+: encode (chunk :: chunks))
    (size : chunk.data.length < 2 ^ 63)
    (long : chunk.digits.length + 2 ≤ tail.length)
    (waiting : tail.length < chunk.body.length) :
    transcode beyond node output = ⟨0, node, output⟩ := by
  have nonzero : nextSize (chunk :: chunks) ≠ 0 :=
    Nat.ne_of_gt (List.length_pos_iff.mpr chunk.nonempty)
  rw [transcode_of_line harmless isLead content cut size long, if_neg nonzero, nextPart,
    if_neg (Nat.not_le_of_lt waiting)]

/-- A node that waits for the rest of a line end, of a line or of the data does
nothing. -/
theorem transcode_of_incomplete
    (harmless : Harmless beyond node output)
    (isLead : lead = [] ∨ lead = crlf)
    (cut : node.bufferCache.content <+: lead ++ encode chunks)
    (sizes : ∀ chunk ∈ chunks, chunk.data.length < 2 ^ 63)
    (waiting : node.bufferCache.content.length < lead.length + (nextPart chunks).length) :
    transcode beyond node output = ⟨0, node, output⟩ := by
  obtain ⟨small, -⟩ := id harmless
  by_cases lineEnd : node.bufferCache.content.length ≤ lead.length
  · apply transcode_of_missing harmless
    have isPrefix : node.bufferCache.content <+: lead :=
      List.prefix_of_prefix_length_le cut (List.prefix_append _ _) lineEnd
    exact strstr_lineEnd isLead isPrefix
  · obtain ⟨tail, content⟩ :=
      List.prefix_of_prefix_length_le (List.prefix_append _ _) cut (by omega)
    have total : node.bufferCache.content.length = lead.length + tail.length := by
      rw [← content, List.length_append]
    rw [← content, List.prefix_append_right_inj] at cut
    by_cases lineMissing : tail.length < (nextDigits chunks).length + 2
    · apply transcode_of_missing harmless
      rw [lineIndex_eq isLead content.symm cut (List.ne_nil_of_length_pos (by omega)) small,
        ← content, List.drop_left]
      exact strstr_incomplete cut lineMissing
    · have part := length_nextPart chunks
      cases chunks with
      | nil =>
          have none : nextSize [] = 0 := rfl
          omega
      | cons chunk rest =>
          exact transcode_of_partial harmless isLead content.symm cut
            (sizes chunk (List.mem_cons_self ..)) (Nat.le_of_not_lt lineMissing)
            (by rw [nextPart] at waiting; omega)

end HttpChunkFilter
end HttpFilter
end Skplat
