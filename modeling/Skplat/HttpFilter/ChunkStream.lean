import Skplat.HttpFilter.ChunkFilter

/-!
# A chunk filter in its stream

The filter takes a chunk without the line end behind it.  So between two calls its
content starts at a size, or at a line end in front of one.
-/

namespace Skplat
namespace HttpFilter

/-- The chunks that were taken from the content of a filter, and those to come. -/
structure Tracks
    (chunks : List Chunk) (sent content : List UInt8)
    (done rest : List Chunk) (lead : List UInt8) : Prop where
  split : chunks = done ++ rest
  isLead : lead = [] ∨ lead = crlf
  sentPrefix : sent <+: encode chunks
  consumed : ∃ consumed, sent = consumed ++ content ∧
    encode chunks = consumed ++ (lead ++ encode rest)

namespace Tracks

variable {chunks done rest : List Chunk}
variable {sent content lead : List UInt8}

/-- Nothing is sent and nothing is taken. -/
theorem initial (chunks : List Chunk) : Tracks chunks [] [] [] chunks [] where
  split := rfl
  isLead := Or.inl rfl
  sentPrefix := List.nil_prefix
  consumed := ⟨[], rfl, rfl⟩

/-- The content is the next part of the stream. -/
theorem content_prefix_encode (tracks : Tracks chunks sent content done rest lead) :
    content <+: lead ++ encode rest := by
  obtain ⟨consumed, isSent, isStream⟩ := tracks.consumed
  have sentPrefix := tracks.sentPrefix
  rw [isSent, isStream, List.prefix_append_right_inj] at sentPrefix
  exact sentPrefix

theorem write
    (tracks : Tracks chunks sent content done rest lead)
    {segment : List UInt8}
    (isPrefix : sent ++ segment <+: encode chunks) :
    Tracks chunks (sent ++ segment) (content ++ segment) done rest lead := by
  obtain ⟨consumed, isSent, isStream⟩ := tracks.consumed
  exact {
    split := tracks.split
    isLead := tracks.isLead
    sentPrefix := isPrefix
    consumed := ⟨consumed, by rw [isSent, List.append_assoc], isStream⟩ }

/-- A chunk is taken, without the line end behind it. -/
theorem take
    {chunk : Chunk}
    (tracks : Tracks chunks sent content done (chunk :: rest) lead)
    (whole : lead.length + chunk.body.length ≤ content.length) :
    Tracks chunks sent (content.drop (lead.length + chunk.body.length))
      (done ++ [chunk]) rest crlf := by
  obtain ⟨consumed, isSent, isStream⟩ := tracks.consumed
  have isPrefix : lead ++ chunk.body <+: content := by
    apply List.prefix_of_prefix_length_le _ tracks.content_prefix_encode
    · rw [List.length_append]
      exact whole
    · rw [encode, ← List.append_assoc]
      exact List.prefix_append _ _
  obtain ⟨left, joined⟩ := isPrefix
  refine {
    split := by rw [tracks.split, List.append_assoc, List.singleton_append]
    isLead := Or.inr rfl
    sentPrefix := tracks.sentPrefix
    consumed := ⟨consumed ++ (lead ++ chunk.body), ?_, ?_⟩ }
  · rw [← joined, ← List.length_append, List.drop_left, isSent, ← joined]
    exact (List.append_assoc consumed (lead ++ chunk.body) left).symm
  · rw [isStream, encode]
    simp only [List.append_assoc]

/-- How much of the stream was sent. -/
theorem length_sent (tracks : Tracks chunks sent content done rest lead) :
    sent.length + lead.length = encodedLength done + content.length := by
  obtain ⟨consumed, isSent, isStream⟩ := tracks.consumed
  have total := congrArg List.length isStream
  rw [tracks.split, length_encode_append, List.length_append, List.length_append] at total
  rw [isSent, List.length_append]
  omega

/-- The chunks that were taken were complete. -/
theorem complete_eq_append (tracks : Tracks chunks sent content done rest lead) :
    complete chunks sent.length =
      done ++ complete rest (sent.length - encodedLength done) := by
  have length := tracks.length_sent
  have short : lead.length ≤ crlf.length := by
    rcases tracks.isLead with rfl | rfl
    · exact Nat.zero_le _
    · exact Nat.le_refl _
  rw [tracks.split]
  exact complete_append (by omega)

/-- The chunks that were taken are those that were complete. -/
theorem complete_eq
    (tracks : Tracks chunks sent content done rest lead)
    (waiting : rest ≠ [] → content.length < lead.length + (nextPart rest).length) :
    complete chunks sent.length = done := by
  have length := tracks.length_sent
  rw [tracks.complete_eq_append, complete_eq_nil, List.append_nil]
  intro nonempty
  have short := waiting nonempty
  have positive := nextPart_pos rest
  omega

/-- A chunk in the content is complete and was not taken. -/
theorem length_lt_complete
    {chunk : Chunk}
    (tracks : Tracks chunks sent content done (chunk :: rest) lead)
    (whole : lead.length + chunk.body.length ≤ content.length) :
    done.length < (complete chunks sent.length).length := by
  rw [(tracks.take whole).complete_eq_append, List.length_append, List.length_append]
  exact Nat.lt_of_lt_of_le (Nat.lt_succ_self _) (Nat.le_add_right _ _)

/-- The last line was sent if it is in the content. -/
theorem lastLineSent_iff (tracks : Tracks chunks sent content done rest lead) :
    LastLineSent chunks sent.length ↔
      lead.length + (encode rest).length ≤ content.length + 2 := by
  have length := tracks.length_sent
  have two : crlf.length = 2 := rfl
  rw [LastLineSent, tracks.split, length_encode_append]
  omega

/-- What `transcode` does with a part of the stream. -/
theorem transcode
    {node : ReadFilterNode Unit} {output : BufferUtils} {beyond : List UInt8}
    (tracks : Tracks chunks sent node.bufferCache.content done rest lead)
    (sizes : ∀ chunk ∈ chunks, chunk.data.length < 2 ^ 63)
    (harmless : HttpChunkFilter.Harmless beyond node output) :
    (∃ chunk others cache, rest = chunk :: others ∧
        output.Holds chunk.data.length ∧
        Tracks chunks sent cache.content (done ++ [chunk]) others crlf ∧
        cache.content.length + chunk.data.length ≤ node.bufferCache.content.length ∧
        HttpChunkFilter.transcode beyond node output =
          ⟨chunk.data.length, { node with bufferCache := cache },
            (output.append chunk.data).2⟩) ∨
      (rest = [] ∧ lead.length + lastLine.length ≤ node.bufferCache.content.length ∧
        HttpChunkFilter.transcode beyond node output =
          ⟨0, { node with eof := true }, output⟩) ∨
      (node.bufferCache.content.length < lead.length + (nextPart rest).length ∧
        HttpChunkFilter.transcode beyond node output = ⟨0, node, output⟩) := by
  by_cases waiting :
      node.bufferCache.content.length < lead.length + (nextPart rest).length
  · refine Or.inr (Or.inr ⟨waiting, ?_⟩)
    apply HttpChunkFilter.transcode_of_incomplete harmless tracks.isLead
      tracks.content_prefix_encode _ waiting
    intro chunk present
    apply sizes chunk
    rw [tracks.split]
    exact List.mem_append_right _ present
  · have enough : lead.length + (nextPart rest).length ≤ node.bufferCache.content.length :=
      Nat.le_of_not_lt waiting
    obtain ⟨tail, joined⟩ := List.prefix_of_prefix_length_le (List.prefix_append lead _)
      tracks.content_prefix_encode (by omega)
    have cut := tracks.content_prefix_encode
    rw [← joined, List.prefix_append_right_inj] at cut
    have long : (nextPart rest).length ≤ tail.length := by
      rw [← joined, List.length_append] at enough
      omega
    cases rest with
    | nil =>
        exact Or.inr (Or.inl ⟨rfl, enough,
          HttpChunkFilter.transcode_lastLine harmless tracks.isLead joined.symm cut long⟩)
    | cons chunk others =>
        left
        obtain ⟨holds, transcoded⟩ :=
          HttpChunkFilter.transcode_chunk harmless tracks.isLead joined.symm cut long
        have moved := BufferUtils.content_consume enough harmless.1 beyond
        refine ⟨chunk, others, _, rfl, holds, ?_, ?_, transcoded⟩
        · rw [nextPart] at moved
          rw [moved]
          exact tracks.take enough
        · have part := length_nextPart (chunk :: others)
          rw [nextPart, nextDigits, nextSize] at part
          rw [nextPart] at moved enough
          rw [moved, List.length_drop]
          omega

end Tracks
end HttpFilter
end Skplat
