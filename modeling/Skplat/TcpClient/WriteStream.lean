import Skplat.TcpClient.Steps

/-!
# The stream of written bytes

`Write` and `WritePostData` append a buffer and count it in `writedbufid_`; the
socket thread sends the front buffer piece by piece, takes it off the list once
its cursor has reached its end and counts it in its own `write_id`.  Both
counters are positions in one sequence, the buffers in the order in which they
were accepted.  The bytes already sent, followed by what is left of the buffers
in the list, are at every moment the concatenation of that sequence.

The mutex is released around the callbacks, so a buffer may be accepted between
the test that found the list empty and `OnAllWrote`.
-/

namespace Skplat
namespace TcpClient

/-- Bytes sent, identifiers returned and `OnWrote` callbacks all follow the
order in which the buffers were accepted. -/
structure WritesInOrder (state : State) : Prop where
  /-- The bytes sent are a prefix of the accepted buffers. -/
  sent : state.sent <+: state.accepted.flatten
  /-- The buffers are returned in the order of the list, each with its position
  counted from one. -/
  returned : (state.returned.map Prod.snd).Pairwise (· < ·) ∧
    ∀ id index, (id, index) ∈ state.returned →
      index < state.accepted.length ∧ id = toInt32 (index + 1)
  /-- The callbacks are numbered from one without gap or repetition, and each has
  the length of the buffer with its number. -/
  wrote : ∀ (index : Nat) (id : Int) (len : Nat),
    state.wrote[index]? = some (id, len) →
    id = toInt32 (index + 1) ∧
      state.accepted[index]?.map List.length = some len
  /-- The buffers reported by the callbacks have been sent in full. -/
  complete : state.wrote.length ≤ state.accepted.length ∧
    (state.accepted.take state.wrote.length).flatten <+: state.sent
  /-- The socket thread never takes the front of an empty list. -/
  defined : state.loop ≠ .undefined

/-- `OnAllWrote` is issued only when no accepted buffer is left. -/
def AllWroteWhenNoneLeft (state : State) : Prop :=
  ∀ next, state.step .allWroteDone = some next → state.lstBuffer = []

/-- `OnAllWrote` is issued only after a test that found no accepted buffer left:
every buffer accepted by then has been reported by `OnWrote`, and only buffers
accepted since then are in the list. -/
structure AllWroteWhenNoneLeftAtTest (state : State) : Prop where
  /-- The callback that is about to be issued. -/
  issuing : ∀ checked, state.loop = .onAllWrote checked →
    state.wrote.length = checked ∧ checked ≤ state.accepted.length ∧
      state.lstBuffer.map AutoBuffer.content = state.accepted.drop checked
  /-- The callbacks issued so far. -/
  issued : ∀ checked issued, (checked, issued) ∈ state.allWrote →
    checked ≤ state.wrote.length ∧ checked ≤ issued

/-! ## Identifiers -/

/-- The counter of the calls. -/
structure CountsAccepted (state : State) : Prop where
  writedbufid : state.writedbufid = toInt32 state.accepted.length
  /-- A call that holds the mutex has pushed the last buffer. -/
  breaking : ∀ call index, state.calls call = .writeBreaking index →
    state.writeMutex = some call ∧ index + 1 = state.accepted.length
  /-- The position of a call that has not returned yet is new. -/
  fresh : ∀ call index, state.calls call = .writeBreaking index →
    ∀ entry ∈ state.returned, entry.2 < index
  ascending : (state.returned.map Prod.snd).Pairwise (· < ·)
  returned : ∀ id index, (id, index) ∈ state.returned →
    index < state.accepted.length ∧ id = toInt32 (index + 1)

/-- Counting on after a conversion to `int`. -/
theorem toInt32_toInt32_add_one (count : Nat) :
    toInt32 (toInt32 count + 1) = toInt32 ((count : Int) + 1) := by
  rw [toInt32, toInt32, toInt32, Int.bmod_add_bmod]

namespace CountsAccepted

variable {state next : State}

theorem new : CountsAccepted State.new where
  writedbufid := by decide
  breaking := by simp [State.new]
  fresh := by simp [State.new]
  ascending := by simp [State.new]
  returned := by simp [State.new]

/-- A step that pushes nothing and returns nothing. -/
theorem of_same
    (counts : CountsAccepted state)
    (sameId : next.writedbufid = state.writedbufid)
    (sameAccepted : next.accepted = state.accepted)
    (sameReturned : next.returned = state.returned)
    (sameMutex : next.writeMutex = state.writeMutex)
    (calls : ∀ call index, next.calls call = .writeBreaking index →
      state.calls call = .writeBreaking index) :
    CountsAccepted next := by
  refine ⟨?_, ?_, ?_, ?_, ?_⟩
  · rw [sameId, sameAccepted]
    exact counts.writedbufid
  · intro call index breaking
    rw [sameMutex, sameAccepted]
    exact counts.breaking call index (calls call index breaking)
  · intro call index breaking
    rw [sameReturned]
    exact counts.fresh call index (calls call index breaking)
  · rw [sameReturned]
    exact counts.ascending
  · rw [sameReturned, sameAccepted]
    exact counts.returned

/-- Moving a call to a point outside its write section. -/
theorem of_setCall
    (counts : CountsAccepted state)
    {call : Nat} {pc : CallPc}
    (outside : ∀ index, pc ≠ .writeBreaking index)
    (sameId : next.writedbufid = state.writedbufid)
    (sameAccepted : next.accepted = state.accepted)
    (sameReturned : next.returned = state.returned)
    (sameMutex : next.writeMutex = state.writeMutex)
    (calls : next.calls = Function.update state.calls call pc) :
    CountsAccepted next := by
  refine counts.of_same sameId sameAccepted sameReturned sameMutex ?_
  intro other index breaking
  rw [calls] at breaking
  rcases update_cases breaking with ⟨_, isPc⟩ | ⟨_, old⟩
  · exact absurd isPc (outside index)
  · exact old

/-- A push under the free mutex. -/
theorem pushed
    (counts : CountsAccepted state)
    {call : Nat} {data : List UInt8}
    (free : state.writeMutex = none)
    (writedbufid : next.writedbufid = toInt32 (state.writedbufid + 1))
    (accepted : next.accepted = state.accepted ++ [data])
    (sameReturned : next.returned = state.returned)
    (mutex : next.writeMutex = some call)
    (calls : next.calls = Function.update state.calls call
      (.writeBreaking state.accepted.length)) :
    CountsAccepted next := by
  have onlyCall : ∀ other index, next.calls other = .writeBreaking index →
      other = call ∧ index = state.accepted.length := by
    intro other index breaking
    rw [calls] at breaking
    rcases update_cases breaking with ⟨isCall, isPc⟩ | ⟨_, old⟩
    · cases isPc
      exact ⟨isCall, rfl⟩
    · have held := (counts.breaking other index old).1
      rw [free] at held
      cases held
  have length : next.accepted.length = state.accepted.length + 1 := by
    rw [accepted, List.length_append, List.length_singleton]
  refine ⟨?_, ?_, ?_, ?_, ?_⟩
  · rw [writedbufid, counts.writedbufid, toInt32_toInt32_add_one, length]
    rfl
  · intro other index breaking
    obtain ⟨rfl, rfl⟩ := onlyCall other index breaking
    exact ⟨mutex, length.symm⟩
  · intro other index breaking entry inReturned
    obtain ⟨rfl, rfl⟩ := onlyCall other index breaking
    rw [sameReturned] at inReturned
    exact (counts.returned entry.1 entry.2 inReturned).1
  · rw [sameReturned]
    exact counts.ascending
  · intro id index inReturned
    rw [sameReturned] at inReturned
    obtain ⟨inside, idEq⟩ := counts.returned id index inReturned
    exact ⟨by omega, idEq⟩

/-- The return of the call that holds the mutex. -/
theorem writeBroke
    (counts : CountsAccepted state)
    {call index : Nat}
    (breaking : state.calls call = .writeBreaking index)
    (sameId : next.writedbufid = state.writedbufid)
    (sameAccepted : next.accepted = state.accepted)
    (returned : next.returned = state.returned ++ [(state.writedbufid, index)])
    (calls : next.calls = Function.update state.calls call .idle) :
    CountsAccepted next := by
  obtain ⟨held, last⟩ := counts.breaking call index breaking
  have noCall : ∀ other position,
      next.calls other ≠ .writeBreaking position := by
    intro other position otherBreaking
    rw [calls] at otherBreaking
    rcases update_cases otherBreaking with ⟨_, isPc⟩ | ⟨notCall, old⟩
    · cases isPc
    · have otherHeld := (counts.breaking other position old).1
      rw [held] at otherHeld
      exact notCall (Option.some.inj otherHeld).symm
  refine ⟨?_, ?_, ?_, ?_, ?_⟩
  · rw [sameId, sameAccepted]
    exact counts.writedbufid
  · intro other position otherBreaking
    exact absurd otherBreaking (noCall other position)
  · intro other position otherBreaking
    exact absurd otherBreaking (noCall other position)
  · rw [returned, List.map_append, List.pairwise_append]
    refine ⟨counts.ascending, List.pairwise_singleton _ _, ?_⟩
    intro earlier inEarlier later inLater
    obtain ⟨entry, inReturned, rfl⟩ := List.mem_map.mp inEarlier
    rw [List.mem_singleton.mp inLater]
    exact counts.fresh call index breaking entry inReturned
  · intro id position inReturned
    rw [returned, List.mem_append, List.mem_singleton] at inReturned
    rw [sameAccepted]
    rcases inReturned with earlier | isNew
    · exact counts.returned id position earlier
    · cases isNew
      refine ⟨by omega, ?_⟩
      rw [counts.writedbufid, ← last]
      rfl

/-- One step keeps the counter of the calls. -/
theorem step
    (counts : CountsAccepted state)
    {action : Action}
    (fires : Fires state action next) :
    CountsAccepted next := by
  cases fires with
  | unchanged => exact counts
  | begins idle begins =>
      refine counts.of_setCall ?_ rfl rfl rfl rfl rfl
      cases begins <;> simp
  | pushed writing free => exact counts.pushed free rfl rfl rfl rfl rfl
  | writeBroke breaking => exact counts.writeBroke breaking rfl rfl rfl rfl
  | received reading => exact counts.of_setCall (by simp) rfl rfl rfl rfl rfl
  | disconnected disconnecting =>
      exact counts.of_setCall (by simp) rfl rfl rfl rfl rfl
  | broke source breaking =>
      exact counts.of_setCall (by simp) rfl rfl rfl rfl rfl
  | _ => exact counts.of_same rfl rfl rfl rfl fun _ _ breaking => breaking

end CountsAccepted

/-! ## Bytes -/

/-- The bytes of the listed buffers behind their cursors. -/
def unsent (buffers : List AutoBuffer) : List UInt8 :=
  (buffers.map fun buffer => buffer.content.drop buffer.pos.toNat).flatten

@[simp] theorem unsent_nil : unsent [] = [] := rfl

@[simp] theorem unsent_cons (buffer : AutoBuffer) (rest : List AutoBuffer) :
    unsent (buffer :: rest) =
      buffer.content.drop buffer.pos.toNat ++ unsent rest := rfl

@[simp] theorem unsent_append (first second : List AutoBuffer) :
    unsent (first ++ second) = unsent first ++ unsent second := by
  simp [unsent]

/-- What is unsent is no longer than the contents. -/
theorem length_unsent_le (buffers : List AutoBuffer) :
    (unsent buffers).length ≤
      (buffers.map AutoBuffer.content).flatten.length := by
  induction buffers with
  | nil => exact le_refl _
  | cons buffer rest inductionHypothesis =>
      simp only [unsent_cons, List.map_cons, List.flatten_cons,
        List.length_append, List.length_drop]
      omega

/-- Bytes accepted by `send` move from the front buffer to the stream. -/
theorem bytesAtPos_append_unsent
    {buffer : AutoBuffer} {count : Nat}
    (inside : buffer.pos.toNat + count ≤ buffer.length)
    (rest : List AutoBuffer) :
    buffer.bytesAtPos count ++ unsent (buffer.seek count .seekCur :: rest) =
      unsent (buffer :: rest) := by
  rw [unsent_cons, unsent_cons, AutoBuffer.content_seek,
    AutoBuffer.pos_seek_seekCur inside, AutoBuffer.bytesAtPos_eq inside,
    ← List.drop_drop, ← List.append_assoc, List.take_append_drop]

/-- A buffer that has reached its end leaves nothing behind. -/
theorem unsent_cons_of_end
    {buffer : AutoBuffer}
    (allSent : buffer.pos = buffer.length)
    (rest : List AutoBuffer) :
    unsent (buffer :: rest) = unsent rest := by
  have atEnd : buffer.content.length ≤ buffer.pos.toNat := by
    rw [AutoBuffer.length_content, allSent]
    exact le_refl _
  rw [unsent_cons, List.drop_eq_nil_of_le atEnd, List.nil_append]

theorem content_bufferOf (data : List UInt8) (post : Bool) :
    (State.bufferOf data post).content = data := by
  cases post with
  | true => exact AutoBuffer.content_attach _ _
  | false => exact AutoBuffer.content_write_new _ (Nat.zero_le _)

theorem unsent_bufferOf (data : List UInt8) (post : Bool) :
    unsent [State.bufferOf data post] = data := by
  have atStart : (State.bufferOf data post).pos = 0 := by
    cases post <;> rfl
  rw [unsent_cons, atStart, content_bufferOf, unsent_nil, List.append_nil]
  rfl

/-- One buffer has been taken off the list and is not reported yet. -/
def LoopPc.reporting : LoopPc → Nat
  | .onWrote _ => 1
  | _ => 0

/-- The thread is on its way to the front of the list. -/
def LoopPc.willWrite : LoopPc → Bool
  | .polling _ inWrite => inWrite
  | .clearing (.ready _ _ writable) | .testing (.ready _ _ writable) => writable
  | .reading _ writable | .onRead writable | .writing writable => writable
  | _ => false

attribute [grind =] LoopPc.willWrite

/-- Number of buffers taken off the list. -/
def State.taken (state : State) : Nat :=
  state.wrote.length + state.loop.reporting

/-- Outside the callback every buffer taken off the list is reported. -/
theorem State.taken_of_loop
    {state : State} {pc : LoopPc}
    (atPc : state.loop = pc)
    (notReporting : pc.reporting = 0) :
    state.taken = state.wrote.length := by
  rw [State.taken, atPc, notReporting, Nat.add_zero]

/-- The list, the socket and the history are the same. -/
structure SameStream (state next : State) : Prop where
  accepted : next.accepted = state.accepted
  lstBuffer : next.lstBuffer = state.lstBuffer
  sent : next.sent = state.sent
  writeId : next.writeId = state.writeId
  wrote : next.wrote = state.wrote
  allWrote : next.allWrote = state.allWrote

/-- The invariant of the socket thread and the list. -/
structure Streams (state : State) : Prop where
  taken_le : state.taken ≤ state.accepted.length
  /-- The list holds the accepted buffers that have not been taken off. -/
  contents : state.lstBuffer.map AutoBuffer.content =
    state.accepted.drop state.taken
  /-- Nothing is lost or repeated between the list and the socket. -/
  stream : state.sent ++ unsent state.lstBuffer = state.accepted.flatten
  /-- Lengths fit the parameters of `Write` and `OnWrote`. -/
  bounded : ∀ data ∈ state.accepted, data.length < 2 ^ 32
  writeId : state.writeId = toInt32 state.wrote.length
  wrote : ∀ (index : Nat) (id : Int) (len : Nat),
    state.wrote[index]? = some (id, len) →
    id = toInt32 (index + 1) ∧
      state.accepted[index]?.map List.length = some len
  /-- The callback that is about to be issued. -/
  onWrote : ∀ len, state.loop = .onWrote len →
    state.accepted[state.wrote.length]?.map List.length = some len
  /-- A socket in the write set has a buffer to write. -/
  willWrite : state.loop.willWrite = true → state.lstBuffer ≠ []
  defined : state.loop ≠ .undefined
  onAllWrote : ∀ checked, state.loop = .onAllWrote checked →
    state.wrote.length = checked
  allWrote : ∀ checked issued, (checked, issued) ∈ state.allWrote →
    checked ≤ state.wrote.length ∧ checked ≤ issued

namespace Streams

variable {state next : State}

theorem new : Streams State.new where
  taken_le := le_refl _
  contents := rfl
  stream := rfl
  bounded := by simp [State.new]
  writeId := by decide
  wrote := by simp [State.new]
  onWrote := by simp [State.new]
  willWrite := by simp [State.new, LoopPc.willWrite]
  defined := by simp [State.new]
  onAllWrote := by simp [State.new]
  allWrote := by simp [State.new]

/-- A step that leaves the list, the socket and the history alone. -/
theorem of_loop
    (streams : Streams state)
    (same : SameStream state next)
    (reporting : next.loop.reporting = state.loop.reporting)
    (onWrote : ∀ len, next.loop = .onWrote len → state.loop = .onWrote len)
    (willWrite : next.loop.willWrite = true → state.lstBuffer ≠ [])
    (defined : next.loop ≠ .undefined)
    (onAllWrote : ∀ checked, next.loop = .onAllWrote checked →
      state.wrote.length = checked) :
    Streams next := by
  have sameTaken : next.taken = state.taken := by
    rw [State.taken, State.taken, same.wrote, reporting]
  constructor
  · rw [sameTaken, same.accepted]
    exact streams.taken_le
  · rw [same.lstBuffer, sameTaken, same.accepted]
    exact streams.contents
  · rw [same.sent, same.lstBuffer, same.accepted]
    exact streams.stream
  · rw [same.accepted]
    exact streams.bounded
  · rw [same.writeId, same.wrote]
    exact streams.writeId
  · rw [same.wrote, same.accepted]
    exact streams.wrote
  · intro len issuing
    rw [same.accepted, same.wrote]
    exact streams.onWrote len (onWrote len issuing)
  · rw [same.lstBuffer]
    exact willWrite
  · exact defined
  · rw [same.wrote]
    exact onAllWrote
  · rw [same.allWrote, same.wrote]
    exact streams.allWrote

/-- A step of a call that pushes nothing. -/
theorem of_call
    (streams : Streams state)
    (same : SameStream state next)
    (sameLoop : next.loop = state.loop) :
    Streams next := by
  apply streams.of_loop same
  · rw [sameLoop]
  · rw [sameLoop]
    exact fun _ issuing => issuing
  · rw [sameLoop]
    exact streams.willWrite
  · rw [sameLoop]
    exact streams.defined
  · rw [sameLoop]
    exact streams.onAllWrote

/-- A push. -/
theorem pushed
    (streams : Streams state)
    {data : Payload} {post : Bool}
    (accepted : next.accepted = state.accepted ++ [data.val])
    (list : next.lstBuffer =
      state.lstBuffer ++ [State.bufferOf data.val post])
    (sameSent : next.sent = state.sent)
    (sameId : next.writeId = state.writeId)
    (sameWrote : next.wrote = state.wrote)
    (sameAllWrote : next.allWrote = state.allWrote)
    (sameLoop : next.loop = state.loop) :
    Streams next := by
  have sameTaken : next.taken = state.taken := by
    rw [State.taken, State.taken, sameWrote, sameLoop]
  have old : ∀ (index len : Nat),
      state.accepted[index]?.map List.length = some len →
      next.accepted[index]?.map List.length = some len := by
    intro index len atIndex
    obtain ⟨found, foundEq, rfl⟩ := Option.map_eq_some_iff.mp atIndex
    have inside := (List.getElem?_eq_some_iff.mp foundEq).1
    rw [accepted, List.getElem?_append_left inside, foundEq, Option.map_some]
  constructor
  · rw [sameTaken, accepted, List.length_append]
    exact Nat.le_add_right_of_le streams.taken_le
  · rw [list, sameTaken, accepted, List.map_append, streams.contents,
      List.drop_append_of_le_length streams.taken_le, List.map_singleton,
      content_bufferOf]
  · rw [sameSent, list, accepted, unsent_append, unsent_bufferOf,
      ← List.append_assoc, streams.stream, List.flatten_append,
      List.flatten_singleton]
  · intro other inAccepted
    rw [accepted, List.mem_append, List.mem_singleton] at inAccepted
    rcases inAccepted with earlier | rfl
    · exact streams.bounded other earlier
    · exact data.property
  · rw [sameId, sameWrote]
    exact streams.writeId
  · intro index id len atIndex
    rw [sameWrote] at atIndex
    obtain ⟨idEq, lenEq⟩ := streams.wrote index id len atIndex
    exact ⟨idEq, old index len lenEq⟩
  · intro len issuing
    rw [sameLoop] at issuing
    rw [sameWrote]
    exact old _ len (streams.onWrote len issuing)
  · intro _
    rw [list]
    simp
  · rw [sameLoop]
    exact streams.defined
  · rw [sameLoop, sameWrote]
    exact streams.onAllWrote
  · rw [sameAllWrote, sameWrote]
    exact streams.allWrote

/-- A `send` of part of the front buffer. -/
theorem sentFront
    (streams : Streams state)
    {buffer : AutoBuffer} {rest : List AutoBuffer} {count : Nat}
    (writing : state.loop = .writing true)
    (list : state.lstBuffer = buffer :: rest)
    (inside : buffer.pos.toNat + count ≤ buffer.length) :
    Streams { state with
      lstBuffer := buffer.seek count .seekCur :: rest
      sent := state.sent ++ buffer.bytesAtPos count
      loop := .top } := by
  have taken := State.taken_of_loop writing rfl
  have taken_le := streams.taken_le
  have contents := streams.contents
  rw [taken] at taken_le contents
  constructor
  · exact taken_le
  · rw [list] at contents
    exact contents
  · have stream := streams.stream
    rw [list, ← bytesAtPos_append_unsent inside, ← List.append_assoc] at stream
    exact stream
  · exact streams.bounded
  · exact streams.writeId
  · exact streams.wrote
  · simp
  · simp [LoopPc.willWrite]
  · simp
  · simp
  · exact streams.allWrote

/-- The front buffer is taken off the list. -/
theorem poppedFront
    (streams : Streams state)
    {buffer : AutoBuffer} {rest : List AutoBuffer}
    (writing : state.loop = .writing true)
    (list : state.lstBuffer = buffer :: rest)
    (allSent : buffer.pos = buffer.length) :
    Streams { state with
      lstBuffer := rest
      loop := .onWrote (buffer.length % 2 ^ 32) } := by
  have taken := State.taken_of_loop writing rfl
  have contents := streams.contents
  rw [taken, list, List.map_cons] at contents
  obtain ⟨inside, front, remaining⟩ : ∃ inside : state.wrote.length <
      state.accepted.length, state.accepted[state.wrote.length] =
        buffer.content ∧ state.accepted.drop (state.wrote.length + 1) =
        rest.map AutoBuffer.content := by
    have inside : state.wrote.length < state.accepted.length := by
      by_contra outside
      rw [List.drop_eq_nil_of_le (by omega)] at contents
      cases contents
    rw [List.drop_eq_getElem_cons inside] at contents
    obtain ⟨front, remaining⟩ := List.cons.inj contents
    exact ⟨inside, front.symm, remaining.symm⟩
  constructor
  · exact inside
  · exact remaining.symm
  · have stream := streams.stream
    rw [list, unsent_cons_of_end allSent] at stream
    exact stream
  · exact streams.bounded
  · exact streams.writeId
  · exact streams.wrote
  · rintro _ ⟨⟩
    have short := streams.bounded _ (List.getElem_mem inside)
    rw [front, AutoBuffer.length_content] at short
    rw [List.getElem?_eq_getElem inside, front, Option.map_some,
      AutoBuffer.length_content, Nat.mod_eq_of_lt short]
  · simp [LoopPc.willWrite]
  · simp
  · simp
  · exact streams.allWrote

/-- The `OnWrote` callback. -/
theorem reported
    (streams : Streams state)
    {len : Nat}
    (onWrote : state.loop = .onWrote len)
    (sameAccepted : next.accepted = state.accepted)
    (sameList : next.lstBuffer = state.lstBuffer)
    (sameSent : next.sent = state.sent)
    (writeId : next.writeId = toInt32 (state.writeId + 1))
    (wrote : next.wrote = state.wrote ++ [(toInt32 (state.writeId + 1), len)])
    (sameAllWrote : next.allWrote = state.allWrote)
    (loop : next.loop = .allTesting) :
    Streams next := by
  have nextId : toInt32 (state.writeId + 1) =
      toInt32 ((state.wrote.length : Int) + 1) := by
    rw [streams.writeId, toInt32_toInt32_add_one]
  have length : next.wrote.length = state.wrote.length + 1 := by
    rw [wrote, List.length_append, List.length_singleton]
  have sameTaken : next.taken = state.taken := by
    rw [State.taken, State.taken, length, loop, onWrote]
    rfl
  constructor
  · rw [sameTaken, sameAccepted]
    exact streams.taken_le
  · rw [sameList, sameTaken, sameAccepted]
    exact streams.contents
  · rw [sameSent, sameList, sameAccepted]
    exact streams.stream
  · rw [sameAccepted]
    exact streams.bounded
  · rw [writeId, nextId, length]
    rfl
  · intro index id reportedLen atIndex
    rw [sameAccepted]
    rcases Nat.lt_trichotomy index state.wrote.length with earlier | isNew | later
    · rw [wrote, List.getElem?_append_left earlier] at atIndex
      exact streams.wrote index id reportedLen atIndex
    · rw [wrote, isNew, List.getElem?_concat_length] at atIndex
      cases atIndex
      rw [isNew]
      exact ⟨nextId, streams.onWrote len onWrote⟩
    · rw [List.getElem?_eq_none (by omega)] at atIndex
      cases atIndex
  · simp [loop]
  · simp [loop, LoopPc.willWrite]
  · simp [loop]
  · simp [loop]
  · intro checked issued inAllWrote
    rw [sameAllWrote] at inAllWrote
    obtain ⟨reported, order⟩ := streams.allWrote checked issued inAllWrote
    exact ⟨by omega, order⟩

/-- The `OnAllWrote` callback. -/
theorem allReported
    (streams : Streams state)
    {checked : Nat}
    (onAllWrote : state.loop = .onAllWrote checked) :
    Streams { state with
      allWrote := state.allWrote ++ [(checked, state.accepted.length)]
      loop := .top } := by
  have taken := State.taken_of_loop onAllWrote rfl
  have reported := streams.onAllWrote checked onAllWrote
  have taken_le := streams.taken_le
  have contents := streams.contents
  rw [taken] at taken_le contents
  constructor
  · exact taken_le
  · exact contents
  · exact streams.stream
  · exact streams.bounded
  · exact streams.writeId
  · exact streams.wrote
  · simp
  · simp [LoopPc.willWrite]
  · simp
  · simp
  · intro tested issued inAllWrote
    rw [List.mem_append, List.mem_singleton] at inAllWrote
    rcases inAllWrote with earlier | isNew
    · exact streams.allWrote tested issued earlier
    · cases isNew
      exact ⟨reported.ge, reported ▸ taken_le⟩

/-- Moves of the thread. -/
theorem of_moves
    (streams : Streams state)
    {source pc : LoopPc} {status : Status}
    (sourceEq : state.loop = source)
    (moves : Moves state source pc) :
    Streams { state with status := status, loop := pc } := by
  have willWrite := streams.willWrite
  rw [sourceEq] at willWrite
  cases moves with
  | frontOfEmpty empty => exact absurd empty (willWrite rfl)
  | allTestEmpty empty =>
      have taken_le := streams.taken_le
      have contents := streams.contents
      rw [empty, List.map_nil] at contents
      have all := List.drop_eq_nil_iff.mp contents.symm
      have taken := State.taken_of_loop sourceEq rfl
      refine streams.of_loop (by constructor <;> rfl) (by rw [sourceEq]; rfl)
        (by simp) (by simp [LoopPc.willWrite]) (by simp) ?_
      rintro _ ⟨⟩
      omega
  | writeTest =>
      exact streams.of_loop (by constructor <;> rfl) (by rw [sourceEq]; rfl)
        (by simp) (by simp [LoopPc.willWrite]) (by simp) (by simp)
  | @pollReturn inRead inWrite result possible =>
      refine streams.of_loop (by constructor <;> rfl) (by rw [sourceEq]; rfl)
        (by simp) ?_ (by simp) (by simp)
      cases result with
      | failed => simp [LoopPc.willWrite]
      | ready exception readable writable =>
          intro isWritable
          apply willWrite
          apply possible exception readable
          rw [← show writable = true from isWritable]
  | disconnectTest | skipRead | readDone =>
      exact streams.of_loop (by constructor <;> rfl) (by rw [sourceEq]; rfl)
        (by simp) willWrite (by simp) (by simp)
  | _ =>
      exact streams.of_loop (by constructor <;> rfl) (by rw [sourceEq]; rfl)
        (by simp) (by simp [LoopPc.willWrite]) (by simp) (by simp)

/-- One step keeps the stream. -/
theorem step
    (streams : Streams state)
    {action : Action}
    (fires : Fires state action next) :
    Streams next := by
  cases fires with
  | unchanged => exact streams
  | pushed writing free => exact streams.pushed rfl rfl rfl rfl rfl rfl rfl
  | moved source moves => exact streams.of_moves source moves
  | cleared source clears =>
      have willWrite := streams.willWrite
      rw [source] at willWrite
      cases clears with
      | @clear result =>
          refine streams.of_loop (by constructor <;> rfl) (by rw [source]; rfl)
            (by simp) ?_ (by simp) (by simp)
          cases result <;> exact willWrite
      | _ =>
          exact streams.of_loop (by constructor <;> rfl) (by rw [source]; rfl)
            (by simp) (by simp [LoopPc.willWrite]) (by simp) (by simp)
  | haveData reading =>
      have willWrite := streams.willWrite
      rw [reading] at willWrite
      exact streams.of_loop (by constructor <;> rfl) (by rw [reading]; rfl)
        (by simp) willWrite (by simp) (by simp)
  | closed reading =>
      exact streams.of_loop (by constructor <;> rfl) (by rw [reading]; rfl)
        (by simp [State.finish]) (by simp [State.finish, LoopPc.willWrite])
        (by simp [State.finish]) (by simp [State.finish])
  | sent writing list inside => exact streams.sentFront writing list inside
  | popped writing list allSent =>
      exact streams.poppedFront writing list allSent
  | wrote onWrote => exact streams.reported onWrote rfl rfl rfl rfl rfl rfl rfl
  | allWrote onAllWrote => exact streams.allReported onAllWrote
  | _ => exact streams.of_call (by constructor <;> rfl) rfl

end Streams

theorem countsAccepted_of_reachable
    {state : State}
    (reached : system.Reachable state) :
    CountsAccepted state :=
  invariant_of_fires .new (fun counts fires => counts.step fires) reached

theorem streams_of_reachable
    {state : State}
    (reached : system.Reachable state) :
    Streams state :=
  invariant_of_fires .new (fun streams fires => streams.step fires) reached

namespace Streams

variable {state : State}

/-- The buffers taken off the list have been sent in full. -/
theorem flatten_take_prefix
    (streams : Streams state) :
    (state.accepted.take state.taken).flatten <+: state.sent := by
  have whole : (state.accepted.take state.taken).flatten ++
      (state.accepted.drop state.taken).flatten = state.accepted.flatten := by
    rw [← List.flatten_append, List.take_append_drop]
  have stream := streams.stream
  have left := length_unsent_le state.lstBuffer
  rw [streams.contents] at left
  have lengths := congrArg List.length (whole.trans stream.symm)
  simp only [List.length_append] at lengths
  exact List.prefix_of_prefix_length_le ⟨_, whole⟩ ⟨_, stream⟩ (by omega)

theorem complete
    (streams : Streams state) :
    state.wrote.length ≤ state.accepted.length ∧
      (state.accepted.take state.wrote.length).flatten <+: state.sent := by
  have reported : state.wrote.length ≤ state.taken := Nat.le_add_right _ _
  refine ⟨reported.trans streams.taken_le, ?_⟩
  refine List.IsPrefix.trans ?_ streams.flatten_take_prefix
  obtain ⟨rest, split⟩ := List.take_prefix_take_left reported
    (l := state.accepted)
  exact ⟨rest.flatten, by rw [← split, List.flatten_append]⟩

end Streams

/-- In every reachable state the bytes sent, the identifiers returned and the
`OnWrote` callbacks follow the order of the accepted buffers, and `OnAllWrote`
is issued only after a test that found none of them left. -/
theorem writesInOrder_of_reachable
    (state : State)
    (reached : system.Reachable state) :
    WritesInOrder state ∧ AllWroteWhenNoneLeftAtTest state ∧
      (state.accepted.length < 2 ^ 31 →
        (∀ id index, (id, index) ∈ state.returned → id = index + 1) ∧
        ∀ (index : Nat) (id : Int) (len : Nat),
          state.wrote[index]? = some (id, len) → id = index + 1) := by
  have counts := countsAccepted_of_reachable reached
  have streams := streams_of_reachable reached
  have complete := streams.complete
  refine ⟨?_, ?_, ?_⟩
  · exact ⟨⟨_, streams.stream⟩, ⟨counts.ascending, counts.returned⟩,
      streams.wrote, complete, streams.defined⟩
  · refine ⟨?_, streams.allWrote⟩
    intro checked onAllWrote
    have reported := streams.onAllWrote checked onAllWrote
    have contents := streams.contents
    rw [State.taken, onAllWrote, reported] at contents
    exact ⟨reported, reported ▸ complete.1, contents⟩
  · intro few
    have fits : ∀ index, index < state.accepted.length →
        toInt32 ((index : Int) + 1) = index + 1 :=
      fun index inside => toInt32_eq_self (by omega) (by omega)
    refine ⟨?_, ?_⟩
    · intro id index inReturned
      obtain ⟨inside, idEq⟩ := counts.returned id index inReturned
      exact idEq.trans (fits index inside)
    · intro index id len atIndex
      have inside := (List.getElem?_eq_some_iff.mp atIndex).1
      exact (streams.wrote index id len atIndex).1.trans
        (fits index (by omega))

/-- A whole call of `Write`. -/
def writeCall (call : Nat) (data : Payload) : List Action :=
  [.writeCheck call data false, .writePush call, .writeBreak call]

/-- One turn of the loop in which the socket is writable. -/
def writableTurn (result : Int) : List Action :=
  [.readTest, .writeTest, .pollReturn (.ready false false true), .clear,
    .disconnectTest, .readBranch .again, .writeBranch result false]

/-- A write of three bytes is sent in two pieces and reported. -/
def writeInPieces : List Action :=
  connectActions ++ writeCall 0 threeBytes ++ writableTurn 2 ++
    writableTurn 1 ++ writableTurn 0 ++ [.wroteDone, .allTest, .allWroteDone]

theorem writesInOrder_of_reachable_writeInPieces :
    ∃ state, system.Reachable state ∧ state.sent = [1, 2, 3] ∧
      state.returned = [(1, 0)] ∧ state.wrote = [(1, 3)] ∧
      state.allWrote = [(1, 1)] ∧ WritesInOrder state ∧
      AllWroteWhenNoneLeftAtTest state := by
  obtain ⟨state, _, reached, test⟩ := Machine.exists_reachable_of_exec
    (rfl : system.initial State.new)
    (by decide : (system.exec State.new writeInPieces).map
      (fun state => decide (state.sent = [1, 2, 3] ∧
        state.returned = [(1, 0)] ∧ state.wrote = [(1, 3)] ∧
        state.allWrote = [(1, 1)])) = some true)
  obtain ⟨sent, returned, wrote, allWrote⟩ := of_decide_eq_true test
  obtain ⟨inOrder, atTest, -⟩ := writesInOrder_of_reachable state reached
  exact ⟨state, reached, sent, returned, wrote, allWrote, inOrder, atTest⟩

/-- A connected client between two turns of its loop, with nothing to do. -/
structure AtRest (state : State) : Prop where
  loop : state.loop = .top
  list : state.lstBuffer = []
  calls : state.calls = fun _ => .idle
  status : state.status = .kTcpConnected
  connected : state.willDisconnect = false
  mutex : state.writeMutex = none

/-- A write of no bytes, taken off the list and reported. -/
def writeEmpty : List Action :=
  writeCall 0 ⟨[], by decide⟩ ++ writableTurn 0 ++
    [.wroteDone, .allTest, .allWroteDone]

theorem AtRest.exec_writeEmpty
    {state : State}
    (atRest : AtRest state) :
    ∃ next, system.exec state writeEmpty = some next ∧ AtRest next ∧
      next.wrote.length = state.wrote.length + 1 := by
  cases state
  obtain ⟨rfl, rfl, rfl, rfl, rfl, rfl⟩ := atRest
  refine ⟨_, rfl, ⟨rfl, rfl, ?_, rfl, rfl, rfl⟩, ?_⟩
  · funext call
    cases call <;> rfl
  · exact List.length_append

/-- Any number of buffers can be written. -/
theorem exists_atRest (count : Nat) :
    ∃ state, system.Reachable state ∧ AtRest state ∧
      state.wrote.length = count := by
  induction count with
  | zero =>
      obtain ⟨state, executed⟩ : ∃ state,
          system.exec State.new connectActions = some state := ⟨_, rfl⟩
      have start : system.Reachable State.new := .initial rfl
      refine ⟨state, start.exec (fun _ _ _ => trivial) executed, ?_⟩
      cases executed
      exact ⟨⟨rfl, rfl, rfl, rfl, rfl, rfl⟩, rfl⟩
  | succ count inductionHypothesis =>
      obtain ⟨state, reached, atRest, length⟩ := inductionHypothesis
      obtain ⟨next, executed, nextAtRest, nextLength⟩ :=
        atRest.exec_writeEmpty
      exact ⟨next, reached.exec (fun _ _ _ => trivial) executed, nextAtRest,
        by rw [nextLength, length]⟩

/-- A second buffer is accepted after the test that found the list empty. -/
def pushBeforeAllWrote : List Action :=
  connectActions ++ writeCall 0 ⟨[], by decide⟩ ++ writableTurn 0 ++
    [.wroteDone, .allTest] ++ writeCall 0 ⟨[1], by decide⟩

/-- `OnAllWrote` can be issued over a buffer that is left, and the number of the
callback after `2 ^ 31 - 1` others is not its position. -/
theorem allWroteWhenNoneLeft_pushBeforeAllWrote :
    (∃ state, system.exec State.new pushBeforeAllWrote = some state ∧
      system.Reachable state ∧ state.loop = .onAllWrote 1 ∧
      ¬ AllWroteWhenNoneLeft state) ∧
    ∃ state, system.Reachable state ∧ ∃ id len,
      state.wrote[2 ^ 31 - 1]? = some (id, len) ∧ id ≠ 2 ^ 31 := by
  refine ⟨?_, ?_⟩
  · obtain ⟨state, executed, reached, test⟩ := Machine.exists_reachable_of_exec
      (rfl : system.initial State.new)
      (by decide : (system.exec State.new pushBeforeAllWrote).map
        (fun state => decide (state.loop = .onAllWrote 1 ∧
          (state.step .allWroteDone).isSome = true ∧
          state.lstBuffer ≠ [])) = some true)
    obtain ⟨onAllWrote, enabled, nonempty⟩ := of_decide_eq_true test
    refine ⟨state, executed, reached, onAllWrote, ?_⟩
    intro whenNoneLeft
    obtain ⟨next, stepped⟩ := Option.isSome_iff_exists.mp enabled
    exact nonempty (whenNoneLeft next stepped)
  · obtain ⟨state, reached, -, length⟩ := exists_atRest (2 ^ 31)
    have inside : 2 ^ 31 - 1 < state.wrote.length := by omega
    obtain ⟨⟨id, len⟩, atIndex⟩ : ∃ entry,
        state.wrote[2 ^ 31 - 1]? = some entry :=
      ⟨_, List.getElem?_eq_getElem inside⟩
    refine ⟨state, reached, id, len, atIndex, ?_⟩
    rw [((streams_of_reachable reached).wrote _ id len atIndex).1]
    decide

end TcpClient
end Skplat
