import Skplat.MultiConnect.Steps

/-!
# The machines of a connection attempt

Every entry of `vecsocketfsm` holds a machine that was treated as its life cycle
demands, or its record tells how such a machine was deleted.  `PreSelect` needs a
machine that has not ended, so the invariant says when an ended machine can still be
there: between its `PreSelect` and its `AfterSelect` only.
-/

namespace Skplat
namespace MultiConnect

open TcpClientFsm (AfterCalls)

variable {Addr : Type}

/-! ## A single machine -/

namespace ConnectCheckFsm

/-- A callback changes what is to be sent and the result of the check only. -/
theorem onCallback_eq
    (observer : Bool)
    (answers : Answers)
    (check : ConnectCheckFsm Addr)
    (callback : Callback) :
    ∃ sendBuf checkStatus, check.onCallback observer answers callback =
      { check with
        base := { check.base with sendBuf := sendBuf }
        checkStatus := checkStatus } := by
  cases callback with
  | onConnected rtt | onRecv len =>
      unfold onCallback
      dsimp only
      split
      · exact ⟨_, _, rfl⟩
      · exact ⟨_, _, rfl⟩
  | _ => exact ⟨_, _, rfl⟩

theorem foldl_onCallback_eq
    (observer : Bool)
    (answers : Answers)
    (callbacks : List Callback)
    (check : ConnectCheckFsm Addr) :
    ∃ sendBuf checkStatus, callbacks.foldl (onCallback observer answers) check =
      { check with
        base := { check.base with sendBuf := sendBuf }
        checkStatus := checkStatus } := by
  induction callbacks generalizing check with
  | nil => exact ⟨_, _, rfl⟩
  | cons callback rest inductionHypothesis =>
      obtain ⟨sendBuf, checkStatus, called⟩ :=
        onCallback_eq observer answers check callback
      obtain ⟨sendBufAfter, checkStatusAfter, after⟩ := inductionHypothesis
        { check with
          base := { check.base with sendBuf := sendBuf }
          checkStatus := checkStatus }
      rw [List.foldl_cons, called, after]
      exact ⟨sendBufAfter, checkStatusAfter, rfl⟩

/-- `AfterSelect` is that of the base class, with the callbacks after it. -/
theorem afterSelect_eq
    {check : ConnectCheckFsm Addr}
    {observer : Bool}
    {answers : Answers}
    {sel : SocketSelect}
    {calls : AfterCalls}
    {now : Nat}
    {after : ConnectCheckFsm Addr × Output}
    (selected : check.afterSelect observer answers sel calls now = after) :
    after.2 = (check.base.afterSelect sel (check.withTimeouts calls now)).2 ∧
      ∃ sendBuf checkStatus, after.1 =
        { check with
          base := { (check.base.afterSelect sel (check.withTimeouts calls now)).1 with
            sendBuf := sendBuf }
          checkStatus := checkStatus } := by
  subst selected
  exact ⟨rfl, foldl_onCallback_eq _ _ _ _⟩

/-- `AfterSelect` of a machine whose socket is open while it runs. -/
theorem afterSelects
    {check : ConnectCheckFsm Addr}
    {observer : Bool}
    {answers : Answers}
    {sel : SocketSelect}
    {calls : AfterCalls}
    {now : Nat}
    {after : ConnectCheckFsm Addr × Output}
    (opened : check.base.status = .eConnecting ∨ check.base.status = .eReadWrite →
      check.base.sock ≠ none)
    (selected : check.afterSelect observer answers sel calls now = after) :
    AfterSelects (check.base.zeroGiven sel calls) check.base.standing
        after.1.base.standing after.2.callbacks ∧
      after.2 = .calls after.2.callbacks := by
  obtain ⟨sameOutput, sendBuf, checkStatus, sameCheck⟩ := afterSelect_eq selected
  rw [sameOutput, sameCheck, ← check.base.zeroGiven_timeouts sel calls
    (check.connectTimeout now) (check.readWriteTimeout now)]
  exact ⟨TcpClientFsm.afterSelects opened sel (check.withTimeouts calls now), rfl⟩

end ConnectCheckFsm

namespace Slot

/-- The socket that was made here and is open. -/
def socket (slot : Slot Addr) : Option Int :=
  match slot.check with
  | some check => check.base.sock
  | none => slot.taken

attribute [grind =] socket

theorem socket_called
    (slot : Slot Addr)
    (selected : Bool)
    (check : ConnectCheckFsm Addr)
    (output : Output) :
    (slot.called selected check output).socket = check.base.sock := rfl

theorem socket_take
    (slot : Slot Addr)
    (check : ConnectCheckFsm Addr) :
    (slot.take check).socket = check.base.sock := rfl

/-- A property of the machine and its record.  A deleted machine has it in the
standing in which it was deleted. -/
def Holds (property : Standing → Record → Prop) (slot : Slot Addr) : Prop :=
  ∃ standing, property standing slot.record ∧ standing.sock = slot.socket ∧
    ∀ check, slot.check = some check →
      standing = check.base.standing ∧ slot.taken = none

variable {property : Standing → Record → Prop}
variable {slot : Slot Addr} {check : ConnectCheckFsm Addr}

theorem Holds.present
    (holds : slot.Holds property)
    (present : slot.check = some check) :
    property check.base.standing slot.record ∧ slot.taken = none := by
  obtain ⟨standing, has, -, same⟩ := holds
  obtain ⟨view, untaken⟩ := same check present
  exact ⟨view ▸ has, untaken⟩

theorem holds_empty
    (start : property TcpClientFsm.new.standing .new) :
    (empty : Slot Addr).Holds property :=
  ⟨TcpClientFsm.new.standing, start, rfl, fun check present => by cases present⟩

theorem holds_new
    (start : property TcpClientFsm.new.standing .new)
    (addr : Addr)
    (connectTimeoutMs : Nat)
    (observer shouldVerify : Bool) :
    (new (.new addr connectTimeoutMs observer shouldVerify)).Holds property := by
  refine ⟨TcpClientFsm.new.standing, start, rfl, fun check present => ?_⟩
  cases present
  exact ⟨rfl, rfl⟩

theorem holds_called
    {selected : Bool}
    {output : Output}
    (untaken : slot.taken = none)
    (has : property check.base.standing
      (slot.record.note selected check.base.status output)) :
    (slot.called selected check output).Holds property := by
  refine ⟨check.base.standing, has, rfl, fun other present => ?_⟩
  cases present
  exact ⟨rfl, untaken⟩

/-- `Close()` and `delete` keep a property that `Close` keeps. -/
theorem holds_delete
    (closes : ∀ {notify : Bool} {standing next : Standing} {record : Record}
      {output : Output}, property standing record →
      Closes notify standing next output →
      property next (record.note false next.status output) ∧ next.sock = none)
    (untaken : slot.taken = none)
    (has : property check.base.standing slot.record) :
    (slot.delete check).Holds property := by
  obtain ⟨closed, -⟩ := closes has (check.base.closes true)
  obtain ⟨deleted, noSocket⟩ :=
    closes closed ((check.base.close true).1.closes false)
  exact ⟨_, deleted, noSocket.trans untaken.symm, fun other present => by
    cases present⟩

theorem holds_take
    (has : property check.base.standing slot.record) :
    (slot.take check).Holds property :=
  ⟨check.base.standing, has, rfl, fun other present => by cases present⟩

/-- The record tells of a machine that was treated as its life cycle demands. -/
structure Sound (slot : Slot Addr) : Prop where
  lives : slot.Holds Lives
  /-- An ended machine is there until its `AfterSelect` only. -/
  running : ∀ check, slot.check = some check → slot.record.selected = false →
    check.base.status ≠ .eEnd
  gone : slot.check = none → slot.record.selected = false
  judged : ∀ status checkStatus, slot.removed = some (status, checkStatus) →
    status = .eEnd ∨ status = .eReadWrite ∧ checkStatus = .eCheckFail

theorem sound_empty : (empty : Slot Addr).Sound where
  lives := holds_empty lives_new
  running := fun check present => by cases present
  gone := fun _ => rfl
  judged := fun status checkStatus removed => by cases removed

theorem sound_new
    (addr : Addr)
    (connectTimeoutMs : Nat)
    (observer shouldVerify : Bool) :
    (new (.new addr connectTimeoutMs observer shouldVerify)).Sound where
  lives := holds_new lives_new addr connectTimeoutMs observer shouldVerify
  running := fun check present _ => by
    cases present
    simp [ConnectCheckFsm.new, TcpClientFsm.new]
  gone := fun absent => by cases absent
  judged := fun status checkStatus removed => by cases removed

namespace Sound

variable {observer : Bool} {answers : Answers} {sel : SocketSelect}
variable {calls : AfterCalls} {now : Nat} {after : ConnectCheckFsm Addr × Output}

theorem preSelect
    {calls : ConnectCalls}
    (sound : slot.Sound)
    (present : slot.check = some check)
    (idle : slot.record.selected = false) :
    (slot.called true { check with base := (check.base.preSelect sel calls).1 }
      (check.base.preSelect sel calls).2.2).Sound := by
  obtain ⟨lives, untaken⟩ := sound.lives.present present
  have notEnded : check.base.status ≠ .eEnd := sound.running check present idle
  exact {
    lives := holds_called untaken
      (lives.preSelect notEnded (check.base.preSelects sel calls))
    running := fun other _ unselected => by cases unselected
    gone := fun absent => by cases absent
    judged := sound.judged }

/-- `AfterSelect` may be called: its `PreSelect` was, or the machine runs. -/
theorem turn
    (sound : slot.Sound)
    (present : slot.check = some check) :
    slot.record.selected = true ∨ check.base.status ≠ .eEnd := by
  cases selected : slot.record.selected with
  | true => exact Or.inl rfl
  | false => exact Or.inr (sound.running check present selected)

theorem afterSelect_lives
    (sound : slot.Sound)
    (present : slot.check = some check)
    (selected : check.afterSelect observer answers sel calls now = after) :
    Lives after.1.base.standing
      (slot.record.note false after.1.base.status after.2) := by
  obtain ⟨lives, -⟩ := sound.lives.present present
  obtain ⟨done, plain⟩ := ConnectCheckFsm.afterSelects lives.opened selected
  rw [plain]
  exact lives.afterSelect (sound.turn present) done

/-- `AfterSelect` leaves the socket. -/
theorem afterSelect_sock
    (sound : slot.Sound)
    (present : slot.check = some check)
    (selected : check.afterSelect observer answers sel calls now = after) :
    after.1.base.sock = check.base.sock := by
  obtain ⟨lives, -⟩ := sound.lives.present present
  obtain ⟨done, -⟩ := ConnectCheckFsm.afterSelects lives.opened selected
  exact (lives.continues (sound.turn present) done).sock

theorem kept
    (sound : slot.Sound)
    (present : slot.check = some check)
    (selected : check.afterSelect observer answers sel calls now = after)
    (running : ¬after.1.GivenUp) :
    (slot.called false after.1 after.2).Sound where
  lives := holds_called (sound.lives.present present).2
    (sound.afterSelect_lives present selected)
  running := fun other same _ ended => by
    cases same
    exact running (Or.inl ended)
  gone := fun absent => by cases absent
  judged := sound.judged

theorem delete
    (sound : slot.Sound)
    (present : slot.check = some check) :
    (slot.delete check).Sound where
  lives := by
    obtain ⟨lives, untaken⟩ := sound.lives.present present
    exact holds_delete (fun has done => has.close done) untaken lives
  running := fun other absent => by cases absent
  gone := fun _ => rfl
  judged := sound.judged

theorem remove
    (sound : slot.Sound)
    (present : slot.check = some check)
    (selected : check.afterSelect observer answers sel calls now = after)
    (givenUp : after.1.GivenUp) :
    ((slot.called false after.1 after.2).remove after.1).Sound where
  lives :=
    holds_delete (fun has done => has.close done)
      (sound.lives.present present).2 (sound.afterSelect_lives present selected)
  running := fun other absent => by cases absent
  gone := fun _ => rfl
  judged := fun status checkStatus removed => by
    cases removed
    exact givenUp

theorem take
    (sound : slot.Sound)
    (present : slot.check = some check)
    (selected : check.afterSelect observer answers sel calls now = after) :
    ((slot.called false after.1 after.2).take after.1).Sound where
  lives := holds_take (sound.afterSelect_lives present selected)
  running := fun other absent => by cases absent
  gone := fun _ => rfl
  judged := sound.judged

end Sound
end Slot
end MultiConnect
end Skplat
