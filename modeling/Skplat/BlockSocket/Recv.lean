import Skplat.BlockSocket.Defs

/-!
# Receiving with a timeout

`block_socket_recv` makes room for `_max_size` bytes once, lets `recv` write behind the
content of the buffer, and moves the end of the content only when it returns.  So a call
that fails leaves the content as it was, and one that returns a count has appended
exactly the bytes that were received.
-/

namespace Skplat
namespace BlockSocket

open AutoBuffer (overwrite length_overwrite)
open MachineInt (toInt32 toInt32_of_nonneg)

/-- The arguments of `block_socket_recv`. -/
structure RecvArgs extends Args where
  /-- `_max_size`. -/
  maxSize : Nat
  /-- `_wait_full_size`. -/
  waitFullSize : Bool
  deriving DecidableEq, Repr

/-- The results of the system calls of one pass of the loop. -/
structure RecvTurn where
  poll : PollResult
  /-- `gettickcount()`. -/
  tick : Int
  /-- `socket_error(_sock)`, if the socket has an exception. -/
  socketError : Int
  /-- What `recv` does, if it is called. -/
  recv : RecvResult

/-- The buffer, the locals and the history of a call. -/
structure RecvState where
  /-- `_buffer`. -/
  buffer : AutoBuffer
  sel : SocketSelect
  costTime : Int
  recvLen : Nat
  /-- Set once the call has returned. -/
  exit : Option Exit
  /-- All bytes that `recv` delivered. -/
  received : List UInt8
  /-- The space that was offered to each `recv`. -/
  offers : List Offer
  deriving DecidableEq, Repr

namespace RecvState

variable (state : RecvState)

/-- Return a failure. -/
def fail (errcode : Int) : RecvState :=
  { state with exit := some ⟨-1, errcode⟩ }

/-- `_buffer.Length(_buffer.Pos(), _buffer.Length() + recv_len)`, and return the count.
It asserts that the content is allocated. -/
def commit (errcode : Int) : Option RecvState :=
  if room : state.buffer.length + state.recvLen ≤ state.buffer.capacity then
    some { state with
      buffer := state.buffer.setLength state.buffer.pos.toNat
        (state.buffer.length + state.recvLen)
        (state.buffer.toNat_pos_le.trans (Nat.le_add_right _ _)) room
      exit := some ⟨toInt32 state.recvLen, errcode⟩ }
  else none

/-- The space that is offered to `recv`. -/
def offer (args : RecvArgs) : Offer where
  start := state.buffer.length + state.recvLen
  size := args.maxSize - state.recvLen
  capacity := state.buffer.capacity

end RecvState

/-- The bytes that `recv` writes, or none if they leave the array. -/
def receiveAt (buffer : AutoBuffer) (start : Nat) (data : List UInt8) :
    Option AutoBuffer :=
  if room : start + data.length ≤ buffer.capacity then
    some { buffer with
      parray := overwrite buffer.parray start data
      fits := (length_overwrite room).symm ▸ buffer.fits }
  else none

namespace RecvArgs

variable (args : RecvArgs)

/-- The two tests at the head of the loop. -/
def loopHead (state : RecvState) : Option RecvState :=
  if state.recvLen ≥ args.maxSize then state.commit 0
  else if state.recvLen > 0 ∧ !args.waitFullSize then state.commit 0
  else some state

/-- `_buffer` with room for `_max_size` bytes.  `AddCapacity` asserts the size. -/
def makeRoom (buffer : AutoBuffer) : Option AutoBuffer :=
  if buffer.capacity - buffer.length < args.maxSize then
    if buffer.capacity + (args.maxSize - (buffer.capacity - buffer.length)) ≤
        10 * 1024 * 1024 then
      some (buffer.addCapacity
        (args.maxSize - (buffer.capacity - buffer.length)))
    else none
  else some buffer

/-- Up to the first `Select`. -/
def enter (buffer : AutoBuffer) : Option RecvState := do
  let buffer ← args.makeRoom buffer
  args.loopHead {
    buffer := buffer
    sel := args.sel
    costTime := 0
    recvLen := 0
    exit := none
    received := []
    offers := [] }

/-- The call of `recv` and what is done with its result. -/
def recv (state : RecvState) : RecvResult → Option RecvState
  | .data first rest => do
      let buffer ← receiveAt state.buffer (state.offer args).start (first :: rest)
      args.loopHead { state with
        buffer := buffer
        recvLen := state.recvLen + (first :: rest).length
        received := state.received ++ first :: rest
        offers := state.offers ++ [state.offer args] }
  | .closed => { state with offers := state.offers ++ [state.offer args] }.commit 0
  | .failed errno =>
      if isNoblockErrno errno then
        args.loopHead { state with offers := state.offers ++ [state.offer args] }
      else
        some ({ state with offers := state.offers ++ [state.offer args] }.fail errno)

/-- One pass of the loop, from the `Select` to the next one. -/
def pass (state : RecvState) (turn : RecvTurn) : Option RecvState :=
  let sel := args.pollSocket .readFdSet state.sel turn.poll
  let next := { state with sel := sel, costTime := args.costTime turn.tick }
  if sel.ret < 0 then some (next.fail sel.errno)
  else if sel.ret = 0 then next.commit eTimedOut
  else if sel.isException || sel.isBreak then next.commit sel.errno
  else if sel.exceptionFdIsSet args.sock != 0 then some (next.fail turn.socketError)
  else if sel.readFdIsSet args.sock != 0 then args.recv next turn.recv
  else args.loopHead next

/-- A turn that can happen: the call has not returned, and `recv` delivers at most what
it is asked for. -/
def Possible (state : RecvState) (turn : RecvTurn) : Prop :=
  state.exit = none ∧ turn.recv.bytes.length ≤ (state.offer args).size

instance (state : RecvState) : DecidablePred (args.Possible state) :=
  fun _ => inferInstanceAs (Decidable (_ ∧ _))

/-- A call with a buffer as a system. -/
def system (buffer : AutoBuffer) : Machine RecvState RecvTurn where
  initial := fun state => args.enter buffer = some state
  step := fun state turn =>
    if args.Possible state turn then args.pass state turn else none

/-! ## What is kept -/

/-- `_max_size`, and the size of the buffer if it has to grow, are within the bound that
`AddCapacity` asserts. -/
def SizesAsserted (buffer : AutoBuffer) : Prop :=
  args.maxSize ≤ 10 * 1024 * 1024 ∧
    (buffer.capacity - buffer.length < args.maxSize →
      buffer.length + args.maxSize ≤ 10 * 1024 * 1024)

/-- A call that has not returned: the received bytes lie behind the content, and there
is room for all that may come. -/
structure Receiving (buffer : AutoBuffer) (state : RecvState) : Prop where
  exit : state.exit = none
  length : state.buffer.length = buffer.length
  pos : state.buffer.pos = buffer.pos
  array : state.buffer.parray.take (buffer.length + state.recvLen) =
    buffer.content ++ state.received
  received : state.received.length = state.recvLen
  room : buffer.length + args.maxSize ≤ state.buffer.capacity
  bounded : state.recvLen ≤ args.maxSize

/-- A call that has returned a count has appended so many bytes, and one that failed has
left the content as it was. -/
def Returned (buffer : AutoBuffer) (state : RecvState) (exit : Exit) : Prop :=
  (exit.result = state.received.length ∧ state.received.length ≤ args.maxSize ∧
      state.buffer.content = buffer.content ++ state.received ∧
      state.buffer.pos = buffer.pos) ∨
    (exit.result = -1 ∧ state.buffer.length = buffer.length ∧
      state.buffer.pos = buffer.pos ∧ state.buffer.content = buffer.content)

/-- What holds in every state of a call. -/
structure Sound (buffer : AutoBuffer) (state : RecvState) : Prop where
  phase : args.Receiving buffer state ∨
    ∃ exit, state.exit = some exit ∧ args.Returned buffer state exit
  offered : ∀ offer ∈ state.offers, offer.start + offer.size ≤ offer.capacity

variable {args : RecvArgs} {buffer : AutoBuffer} {state : RecvState}

theorem Sound.returned
    (sound : args.Sound buffer state) {exit : Exit} (left : state.exit = some exit) :
    args.Returned buffer state exit := by
  rcases sound.phase with receiving | ⟨_, same, returned⟩
  · rw [receiving.exit] at left
    cases left
  · rw [left, Option.some.injEq] at same
    exact same ▸ returned

theorem Sound.receiving
    (sound : args.Sound buffer state) (running : state.exit = none) :
    args.Receiving buffer state := by
  rcases sound.phase with receiving | ⟨_, left, _⟩
  · exact receiving
  · rw [running] at left
    cases left

/-- While it receives, a call may return what it has. -/
theorem commit_sound
    (receiving : args.Receiving buffer state) (small : args.maxSize < 2 ^ 31)
    (offered : ∀ offer ∈ state.offers, offer.start + offer.size ≤ offer.capacity)
    (errcode : Int) :
    ∃ next, state.commit errcode = some next ∧ args.Sound buffer next := by
  have bounded := receiving.bounded
  have length := receiving.length
  have room : state.buffer.length + state.recvLen ≤ state.buffer.capacity := by
    have enough := receiving.room
    omega
  refine ⟨_, dif_pos room, ?_, offered⟩
  refine Or.inr ⟨_, rfl, Or.inl ⟨?_, ?_, ?_, ?_⟩⟩
  · dsimp only
    rw [receiving.received, toInt32_of_nonneg (by omega) (by omega)]
  · dsimp only
    rw [receiving.received]
    exact bounded
  · rw [← receiving.array, ← length]
    rfl
  · have cursor := state.buffer.cursor
    rw [← receiving.pos]
    simp only [AutoBuffer.setLength]
    omega

/-- A call that fails has left the content alone. -/
theorem fail_sound
    (receiving : args.Receiving buffer state)
    (offered : ∀ offer ∈ state.offers, offer.start + offer.size ≤ offer.capacity)
    (errcode : Int) :
    args.Sound buffer (state.fail errcode) := by
  refine ⟨Or.inr ⟨_, rfl, Or.inr ⟨rfl, receiving.length, receiving.pos, ?_⟩⟩, offered⟩
  calc state.buffer.parray.take state.buffer.length
      = (state.buffer.parray.take (buffer.length + state.recvLen)).take
          buffer.length := by
        rw [receiving.length, List.take_take, Nat.min_eq_left (Nat.le_add_right _ _)]
    _ = buffer.content := by
        rw [receiving.array, ← buffer.length_content, List.take_left]

theorem loopHead_sound
    (receiving : args.Receiving buffer state) (small : args.maxSize < 2 ^ 31)
    (offered : ∀ offer ∈ state.offers, offer.start + offer.size ≤ offer.capacity) :
    ∃ next, args.loopHead state = some next ∧ args.Sound buffer next := by
  unfold loopHead
  split
  · exact commit_sound receiving small offered 0
  · split
    · exact commit_sound receiving small offered 0
    · exact ⟨state, rfl, Or.inl receiving, offered⟩

/-- The offer lies in the array. -/
theorem offer_inside (receiving : args.Receiving buffer state) :
    (state.offer args).start + (state.offer args).size ≤
      (state.offer args).capacity := by
  have length := receiving.length
  have room := receiving.room
  have bounded := receiving.bounded
  simp only [RecvState.offer]
  omega

/-- Bytes received in the offered space go on. -/
theorem receiving_receiveAt
    (receiving : args.Receiving buffer state) (data : List UInt8)
    (fits : data.length ≤ (state.offer args).size) :
    ∃ grown, receiveAt state.buffer (state.offer args).start data = some grown ∧
      args.Receiving buffer { state with
        buffer := grown
        recvLen := state.recvLen + data.length
        received := state.received ++ data
        offers := state.offers ++ [state.offer args] } := by
  have inside := offer_inside receiving
  have length := receiving.length
  have bounded := receiving.bounded
  have room : (state.offer args).start + data.length ≤ state.buffer.capacity := by
    simp only [RecvState.offer] at fits inside ⊢
    omega
  have start : (state.offer args).start = buffer.length + state.recvLen := by
    rw [← length]
    rfl
  have size : (buffer.content ++ state.received ++ data).length =
      buffer.length + (state.recvLen + data.length) := by
    rw [List.length_append, List.length_append, AutoBuffer.length_content,
      receiving.received, Nat.add_assoc]
  refine ⟨_, dif_pos room, ?_⟩
  refine ⟨receiving.exit, length, receiving.pos, ?_, ?_, ?_, ?_⟩
  · rw [← size]
    simp only [overwrite, start, receiving.array]
    rw [List.take_left, List.append_assoc]
  · rw [List.length_append, receiving.received]
  · have same := length_overwrite room
    have enough := receiving.room
    simp only [AutoBuffer.capacity] at enough ⊢
    omega
  · simp only [RecvState.offer] at fits
    dsimp only
    omega

theorem recv_sound
    (receiving : args.Receiving buffer state) (small : args.maxSize < 2 ^ 31)
    (offered : ∀ offer ∈ state.offers, offer.start + offer.size ≤ offer.capacity)
    {result : RecvResult} (fits : result.bytes.length ≤ (state.offer args).size) :
    ∃ next, args.recv state result = some next ∧ args.Sound buffer next := by
  have offered : ∀ offer ∈ state.offers ++ [state.offer args],
      offer.start + offer.size ≤ offer.capacity := by
    intro offer present
    rcases List.mem_append.mp present with before | last
    · exact offered offer before
    · obtain rfl := List.mem_singleton.mp last
      exact offer_inside receiving
  have asked : args.Receiving buffer
      { state with offers := state.offers ++ [state.offer args] } :=
    { receiving with }
  cases result with
  | data first rest =>
      obtain ⟨grown, written, goesOn⟩ :=
        receiving_receiveAt receiving (first :: rest) fits
      rw [recv, written, Option.bind_eq_bind, Option.bind_some]
      exact loopHead_sound goesOn small offered
  | closed => exact commit_sound asked small offered 0
  | failed errno =>
      rw [recv]
      split
      · exact loopHead_sound asked small offered
      · exact ⟨_, rfl, fail_sound asked offered errno⟩

/-- Every pass of the loop succeeds and keeps everything. -/
theorem pass_sound
    (receiving : args.Receiving buffer state) (small : args.maxSize < 2 ^ 31)
    (offered : ∀ offer ∈ state.offers, offer.start + offer.size ≤ offer.capacity)
    {turn : RecvTurn} (possible : args.Possible state turn) :
    ∃ next, args.pass state turn = some next ∧ args.Sound buffer next := by
  have polled : args.Receiving buffer
      { state with
        sel := args.pollSocket .readFdSet state.sel turn.poll
        costTime := args.costTime turn.tick } :=
    { receiving with }
  unfold pass
  dsimp only
  split
  · exact ⟨_, rfl, fail_sound polled offered _⟩
  split
  · exact commit_sound polled small offered _
  split
  · exact commit_sound polled small offered _
  split
  · exact ⟨_, rfl, fail_sound polled offered _⟩
  split
  · exact recv_sound polled small offered possible.2
  · exact loopHead_sound polled small offered

/-- Making room keeps the content and the cursor. -/
theorem makeRoom_eq
    (sizes : args.SizesAsserted buffer) :
    ∃ grown, args.makeRoom buffer = some grown ∧ grown.length = buffer.length ∧
      grown.pos = buffer.pos ∧ grown.content = buffer.content ∧
      buffer.length + args.maxSize ≤ grown.capacity := by
  have fits : buffer.length ≤ buffer.capacity := buffer.fits
  unfold makeRoom
  split
  · rename_i scarce
    have asserted := sizes.2 scarce
    rw [if_pos (by omega)]
    refine ⟨_, rfl, rfl, rfl, buffer.content_addCapacity _, ?_⟩
    have enough := buffer.le_capacity_addCapacity
      (args.maxSize - (buffer.capacity - buffer.length))
    omega
  · exact ⟨buffer, rfl, rfl, rfl, rfl, by omega⟩

theorem enter_sound
    (sizes : args.SizesAsserted buffer) :
    ∃ state, args.enter buffer = some state ∧ args.Sound buffer state := by
  have small := sizes.1
  obtain ⟨grown, made, length, pos, content, room⟩ := makeRoom_eq sizes
  rw [enter, made, Option.bind_eq_bind, Option.bind_some]
  refine loopHead_sound ?_ (by omega) (fun _ present => by cases present)
  refine ⟨rfl, length, pos, ?_, rfl, room, Nat.zero_le _⟩
  · rw [List.append_nil, ← content, ← length]
    rfl

/-- Everything is kept in every state of every call. -/
theorem sound_of_reachable
    (sizes : args.SizesAsserted buffer)
    (reached : (args.system buffer).Reachable state) :
    args.Sound buffer state := by
  have small := sizes.1
  refine reached.invariant ?_ ?_
  · intro state entered
    obtain ⟨first, starts, sound⟩ := enter_sound sizes
    simp only [system, starts, Option.some.injEq] at entered
    exact entered ▸ sound
  · intro before turn after _ sound _ stepped
    simp only [system, Option.ite_none_right_eq_some] at stepped
    obtain ⟨possible, passed⟩ := stepped
    obtain ⟨next, made, sound⟩ :=
      pass_sound (sound.receiving possible.1) (by omega) sound.offered possible
    rw [made, Option.some.injEq] at passed
    exact passed ▸ sound

/-! ## Every call -/

/-- A call that returns a count has appended exactly the bytes received and kept the
cursor; one that returns -1 has kept the length, the cursor and the content; every space
offered to `recv` lies in the array; and no call gets stuck in an assertion or an access
outside the array. -/
theorem block_socket_recv_sound
    (args : RecvArgs) (buffer : AutoBuffer) (sizes : args.SizesAsserted buffer) :
    (args.enter buffer).isSome ∧
    ∀ state, (args.system buffer).Reachable state →
      (∀ exit, state.exit = some exit → 0 ≤ exit.result →
        exit.result = state.received.length ∧ exit.result ≤ args.maxSize ∧
          state.buffer.content = buffer.content ++ state.received ∧
          state.buffer.pos = buffer.pos) ∧
      (∀ exit, state.exit = some exit → exit.result = -1 →
        state.buffer.length = buffer.length ∧ state.buffer.pos = buffer.pos ∧
          state.buffer.content = buffer.content) ∧
      (∀ offer ∈ state.offers, offer.start + offer.size ≤ offer.capacity) ∧
      ∀ turn, args.Possible state turn →
        ((args.system buffer).step state turn).isSome := by
  refine ⟨?_, fun state reached => ?_⟩
  · obtain ⟨first, starts, _⟩ := enter_sound sizes
    rw [starts]
    rfl
  have sound := sound_of_reachable sizes reached
  refine ⟨?_, ?_, sound.offered, ?_⟩
  · intro exit left counted
    rcases sound.returned left with ⟨count, bounded, content, pos⟩ | ⟨failed, _⟩
    · exact ⟨count, by omega, content, pos⟩
    · omega
  · intro exit left failed
    rcases sound.returned left with ⟨count, _⟩ | ⟨_, kept⟩
    · omega
    · exact kept
  · intro turn possible
    have small := sizes.1
    obtain ⟨next, passed, _⟩ :=
      pass_sound (sound.receiving possible.1) (by omega) sound.offered possible
    simp only [system, if_pos possible, passed, Option.isSome_some]

/-- Waiting for five bytes on socket 8 with the breaker 5. -/
def waitForFive : RecvArgs where
  sock := 8
  breakerFd := 5
  breaker := .new .created
  timeout := 1000
  start := 0
  timeout_lt := by decide
  maxSize := 5
  waitFullSize := true

/-- Two bytes, in an array that grows by two. -/
def twoBytes : AutoBuffer :=
  { AutoBuffer.new.attach [1, 2] with
    mallocUnitsize := 2
    unit_pos := Nat.two_pos }

/-- Two bytes come in and are appended when the time is over. -/
theorem block_socket_recv_sound_timedOut :
    ∃ state, (waitForFive.system twoBytes).Reachable state ∧
      state.exit = some ⟨2, eTimedOut⟩ ∧ state.buffer.content = [1, 2, 3, 4] := by
  have passes : ∃ first, waitForFive.enter twoBytes = some first ∧
      (((waitForFive.system twoBytes).exec first
        [⟨⟨1, 0, fun index => if index = 1 then pollIn else 0⟩, 10, 0, .data 3 [4]⟩,
          ⟨⟨0, 0, fun _ => 0⟩, 1000, 0, .closed⟩]).map fun state =>
            decide (state.exit = some ⟨2, eTimedOut⟩ ∧ state.received = [3, 4])) =
        some true := by
    refine ⟨_, rfl, ?_⟩
    decide
  obtain ⟨first, entered, executed⟩ := passes
  obtain ⟨state, _, reached, holds⟩ :=
    Machine.exists_reachable_of_exec
      (show (waitForFive.system twoBytes).initial first from entered)
      executed
  obtain ⟨left, received⟩ := of_decide_eq_true holds
  have counted := ((block_socket_recv_sound waitForFive twoBytes
    ⟨by decide, by decide⟩).2 state reached).1 _ left (by decide)
  refine ⟨state, reached, left, ?_⟩
  rw [counted.2.2.1, received]
  rfl

end RecvArgs
end BlockSocket
end Skplat
