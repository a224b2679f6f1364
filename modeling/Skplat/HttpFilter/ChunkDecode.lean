import Skplat.HttpFilter.ChunkStream
import Skplat.Machine.Basic

/-!
# Decoding a chunked stream

The encoded stream is written to a chunk filter without child in segments of any size.
After each segment the filter is read until `read` returns zero.  The filter reads the
memory behind its content: a segment that ends in a size or a line end may be completed
by what happens to be there.
-/

namespace Skplat
namespace HttpFilter
namespace ChunkDecode

open HttpChunkFilter (transcoder transcoder_eq_some Harmless)

/-- The filter, what it delivered, what was written to it, and whether it is read. -/
structure State where
  node : ReadFilterNode Unit
  recvBuffer : BufferUtils
  sent : List UInt8
  draining : Bool

/-- A segment is written, or the filter is read with some memory behind its content. -/
inductive Action where
  | write (segment : List UInt8)
  | read (beyond : List UInt8)

/-- Nothing was written. -/
def State.new : State where
  node := .new ()
  recvBuffer := .new
  sent := []
  draining := false

/-- One call of `write` or `read`. -/
def step (chunks : List Chunk) (state : State) : Action → Option State
  | .write segment =>
      if state.draining = false ∧ state.sent ++ segment <+: encode chunks then
        some { state with
          node := (state.node.write segment).2
          sent := state.sent ++ segment
          draining := true }
      else none
  | .read beyond =>
      if state.draining = true then
        (state.node.read (transcoder beyond) state.recvBuffer).map fun result =>
          { state with
            node := result.node
            recvBuffer := result.output
            draining := decide (result.ret ≠ (0 : Int)) }
      else none

/-- The runs that write a stream and read after each segment. -/
def system (chunks : List Chunk) : Machine State Action where
  initial := fun state => state = .new
  step := step chunks

/-- The buffer has room for a segment, and a read that reaches `transcode` is
harmless. -/
def Allowed (state : State) : Action → Prop
  | .write segment => state.node.bufferCache.Holds segment.length
  | .read beyond =>
      state.node.eof = false → state.node.bufferCache.content ≠ [] →
        Harmless beyond state.node state.recvBuffer

instance (state : State) : DecidablePred (Allowed state) := fun action =>
  match action with
  | .write segment =>
      inferInstanceAs (Decidable (state.node.bufferCache.Holds segment.length))
  | .read beyond =>
      inferInstanceAs (Decidable (state.node.eof = false →
        state.node.bufferCache.content ≠ [] →
          Harmless beyond state.node state.recvBuffer))

/-- The filter has delivered the chunks it took, and when it is not read the next part
of the stream is not complete. -/
structure Sound (chunks : List Chunk) (state : State) : Prop where
  noError : state.node.errors = 0
  position : ∃ done rest lead,
    Tracks chunks state.sent state.node.bufferCache.content done rest lead ∧
      state.recvBuffer.content = done.flatMap Chunk.data ∧
      (state.node.eof = true →
        rest = [] ∧
          lead.length + lastLine.length ≤ state.node.bufferCache.content.length) ∧
      (state.draining = false → state.node.eof = false →
        state.node.bufferCache.content.length < lead.length + (nextPart rest).length)

namespace Sound

variable {chunks : List Chunk} {state next : State}

theorem initial (chunks : List Chunk) : Sound chunks .new where
  noError := rfl
  position := ⟨[], chunks, [], .initial chunks, rfl, nofun, fun _ _ => by
    rw [List.length_nil, Nat.zero_add]
    exact nextPart_pos chunks⟩

theorem write
    {segment : List UInt8}
    (sound : Sound chunks state)
    (holds : state.node.bufferCache.Holds segment.length)
    (stepped : step chunks state (.write segment) = some next) :
    Sound chunks next := by
  rw [step, Option.ite_none_right_eq_some] at stepped
  obtain ⟨⟨-, isPrefix⟩, shape⟩ := stepped
  cases shape
  obtain ⟨done, rest, lead, tracks, delivered, ended, -⟩ := sound.position
  have content : (state.node.write segment).2.bufferCache.content =
      state.node.bufferCache.content ++ segment := BufferUtils.content_append holds
  refine ⟨sound.noError, done, rest, lead, ?_, delivered, fun eof => ?_, nofun⟩
  · simp only [content]
    exact tracks.write isPrefix
  · obtain ⟨last, long⟩ := ended eof
    simp only [content, List.length_append]
    exact ⟨last, by omega⟩

/-- A read that does not return zero shortens the content. -/
theorem read
    {beyond : List UInt8}
    (sound : Sound chunks state)
    (sizes : ∀ chunk ∈ chunks, chunk.data.length < 2 ^ 63)
    (allowed : Allowed state (.read beyond))
    (stepped : step chunks state (.read beyond) = some next) :
    Sound chunks next ∧
      (next.draining = true →
        next.node.bufferCache.content.length < state.node.bufferCache.content.length) := by
  rw [step, Option.ite_none_right_eq_some] at stepped
  obtain ⟨-, returned⟩ := stepped
  obtain ⟨done, rest, lead, tracks, delivered, ended, -⟩ := sound.position
  cases eof : state.node.eof with
  | true =>
      rw [ReadFilterNode.read_of_eof eof] at returned
      cases returned
      refine ⟨⟨sound.noError, done, rest, lead, tracks, delivered, ended, ?_⟩, by simp⟩
      intro _ notEof
      exact absurd (eof.symm.trans notEof) (by decide)
  | false =>
      by_cases empty : state.node.bufferCache.content = []
      · rw [ReadFilterNode.read_of_empty sound.noError empty] at returned
        cases returned
        refine ⟨⟨sound.noError, done, rest, lead, tracks, delivered, ended, ?_⟩, by simp⟩
        intro _ _
        simp only [empty, List.length_nil]
        exact Nat.add_pos_right _ (nextPart_pos rest)
      · have harmless := allowed eof empty
        obtain ⟨chunk, others, cache, rfl, holds, moved, shorter, transcoded⟩ |
            ⟨rfl, long, transcoded⟩ | ⟨waiting, transcoded⟩ :=
          tracks.transcode sizes harmless
        · have positive := List.length_pos_iff.mpr chunk.nonempty
          rw [ReadFilterNode.read_of_content eof sound.noError empty harmless.1
            (transcoder_eq_some transcoded) (Int.natCast_nonneg _)] at returned
          cases returned
          refine ⟨⟨sound.noError, done ++ [chunk], others, crlf, moved, ?_, ?_, ?_⟩, ?_⟩
          · rw [BufferUtils.content_append holds, delivered, List.flatMap_append,
              List.flatMap_singleton]
          · intro ends
            exact absurd (eof.symm.trans ends) (by decide)
          · intro stopped
            have nonzero : (chunk.data.length : Int) ≠ 0 := by omega
            exact absurd nonzero (of_decide_eq_false stopped)
          · intro _
            show cache.content.length < state.node.bufferCache.content.length
            omega
        · rw [ReadFilterNode.read_of_content eof sound.noError empty harmless.1
            (transcoder_eq_some transcoded) (Int.le_refl 0)] at returned
          cases returned
          exact ⟨⟨sound.noError, done, [], lead, tracks, delivered, fun _ => ⟨rfl, long⟩,
            nofun⟩, by simp⟩
        · rw [ReadFilterNode.read_of_content eof sound.noError empty harmless.1
            (transcoder_eq_some transcoded) (Int.le_refl 0)] at returned
          cases returned
          exact ⟨⟨sound.noError, done, rest, lead, tracks, delivered, ended,
            fun _ _ => waiting⟩, by simp⟩

/-- The end of the stream is not noticed early. -/
theorem lastLineSent_of_eof
    (sound : Sound chunks state)
    (eof : state.node.eof = true) :
    LastLineSent chunks state.sent.length := by
  obtain ⟨done, rest, lead, tracks, -, ended, -⟩ := sound.position
  obtain ⟨rfl, long⟩ := ended eof
  rw [tracks.lastLineSent_iff]
  have five : (encode []).length = lastLine.length + 2 := rfl
  omega

/-- When the reads are over, everything complete was delivered. -/
theorem delivered
    (sound : Sound chunks state)
    (stopped : state.draining = false) :
    state.recvBuffer.content =
        (complete chunks state.sent.length).flatMap Chunk.data ∧
      (state.node.eof = true ↔ LastLineSent chunks state.sent.length) := by
  obtain ⟨done, rest, lead, tracks, isDelivered, ended, waits⟩ := sound.position
  constructor
  · rw [tracks.complete_eq, isDelivered]
    intro nonempty
    apply waits stopped
    by_contra eof
    exact nonempty (ended (by simpa using eof)).1
  · constructor
    · exact sound.lastLineSent_of_eof
    · intro sent
      rw [tracks.lastLineSent_iff] at sent
      by_contra eof
      have waiting := waits stopped (by simpa using eof)
      have part := length_nextPart_le rest
      omega

end Sound

end ChunkDecode
end HttpFilter
end Skplat
