import Skplat.TcpServerFsm.Defs

/-!
# Closing the accepted socket

`Close` and five exits of `AfterReadWriteSelect` close the socket by hand.  Two places
go on after a callback as if it had not closed the machine: `PreSelect` sets `status_`
to `kReadWrite` after `_OnAccept`, and after `_OnSend` and `_OnRecv` the timeout is
tested with the invalid socket, for which nothing is reported.
-/

namespace Skplat

/-- `send` fails for good. -/
def ServerCalls.SendFails (calls : ServerCalls) : Prop :=
  calls.sendRet ≤ 0 ∧ isNoblockErrno calls.sendErrno = false

instance (calls : ServerCalls) : Decidable calls.SendFails :=
  inferInstanceAs (Decidable (_ ∧ _))

namespace TcpServerFsm

/-- How often `_OnClose` was called. -/
def closeCalls (fsm : TcpServerFsm) : Nat :=
  fsm.callbacks.countP ServerCallback.isClose

/-- The close discipline of the machine of an accepted socket. -/
structure Disciplined (sock : Int) (fsm : TcpServerFsm) : Prop where
  ended : fsm.status = .kEnd ↔ fsm.sock = none
  held : fsm.sock ≠ none → fsm.sock = some sock
  closed : fsm.closed = if fsm.status = .kEnd then [some sock] else []
  notified : fsm.closeCalls =
    if fsm.status = .kEnd ∧ fsm.silenced = false then 1 else 0

/-- `_OnSend` is called and closes the machine. -/
def ClosedOnSend (fd : Int) (sel : SocketSelect) (calls : ServerCalls) : Prop :=
  sel.writeFdIsSet fd ≠ 0 ∧ 0 < calls.sendRet ∧ calls.onSend.closes ≠ []

/-- `_OnRecv` is called and closes the machine. -/
def ClosedOnRecv (fd : Int) (sel : SocketSelect) (calls : ServerCalls) : Prop :=
  ¬(sel.writeFdIsSet fd ≠ 0 ∧ calls.SendFails) ∧
    sel.readFdIsSet fd ≠ 0 ∧ calls.recv.isData = true ∧ calls.onRecv.closes ≠ []

instance (fd : Int) (sel : SocketSelect) (calls : ServerCalls) :
    Decidable (ClosedOnSend fd sel calls) :=
  inferInstanceAs (Decidable (_ ∧ _))

instance (fd : Int) (sel : SocketSelect) (calls : ServerCalls) :
    Decidable (ClosedOnRecv fd sel calls) :=
  inferInstanceAs (Decidable (_ ∧ _))

/-- `_OnAccept` does not call `Close`, and `_OnSend` and `_OnRecv` call it only before
the read and write timeout. -/
def ClosesSafely (fsm : TcpServerFsm) : Action → Prop
  | .edit _ | .close _ => True
  | .preSelect _ onAccept => fsm.status = .kAccept → onAccept.closes = []
  | .afterSelect sel calls =>
      fsm.status = .kReadWrite → sel.exceptionFdIsSet fsm.fd = 0 →
        ClosedOnSend fsm.fd sel calls ∨ ClosedOnRecv fsm.fd sel calls →
          0 < calls.timeout

instance (fsm : TcpServerFsm) : DecidablePred fsm.ClosesSafely := fun action =>
  match action with
  | .edit _ | .close _ => inferInstanceAs (Decidable True)
  | .preSelect _ _ => inferInstanceAs (Decidable (_ → _))
  | .afterSelect _ _ => inferInstanceAs (Decidable (_ → _ → _ → _))

/-! ## Open and closed machines -/

/-- The socket is open and was never closed. -/
structure IsOpen (sock : Int) (fsm : TcpServerFsm) : Prop where
  going : fsm.status ≠ .kEnd
  held : fsm.sock = some sock
  closed : fsm.closed = []
  notified : fsm.closeCalls = 0
  silenced : fsm.silenced = false

/-- The socket was closed once, and `_OnClose` was called unless it was closed
silently. -/
structure IsClosed (sock : Int) (fsm : TcpServerFsm) : Prop where
  ended : fsm.status = .kEnd
  held : fsm.sock = none
  closed : fsm.closed = [some sock]
  notified : fsm.closeCalls = if fsm.silenced = false then 1 else 0

variable {sock : Int} {fsm next : TcpServerFsm}

theorem IsOpen.disciplined (isOpen : fsm.IsOpen sock) : fsm.Disciplined sock where
  ended := by simp [isOpen.going, isOpen.held]
  held := fun _ => isOpen.held
  closed := by simp [isOpen.going, isOpen.closed]
  notified := by simp [isOpen.going, isOpen.notified]

theorem IsClosed.disciplined (isClosed : fsm.IsClosed sock) :
    fsm.Disciplined sock where
  ended := by simp [isClosed.ended, isClosed.held]
  held := fun valid => absurd isClosed.held valid
  closed := by simp [isClosed.ended, isClosed.closed]
  notified := by simp [isClosed.ended, isClosed.notified]

@[simp] theorem closeCalls_note (fsm : TcpServerFsm) (callback : ServerCallback) :
    (fsm.note callback).closeCalls =
      fsm.closeCalls + if callback.isClose = true then 1 else 0 := by
  simp [note, closeCalls, List.countP_append]

theorem isOpen_new (sock : Int) : (new sock).IsOpen sock where
  going := by simp [new]
  held := rfl
  closed := rfl
  notified := rfl
  silenced := rfl

/-- Another callback than `_OnClose` changes nothing here. -/
theorem IsOpen.note
    (isOpen : fsm.IsOpen sock)
    {callback : ServerCallback}
    (other : callback.isClose = false) :
    (fsm.note callback).IsOpen sock :=
  { going := isOpen.going
    held := isOpen.held
    closed := isOpen.closed
    notified := by rw [closeCalls_note, isOpen.notified, other]; rfl
    silenced := isOpen.silenced }

theorem IsOpen.withStreams (isOpen : fsm.IsOpen sock) (streams : Streams) :
    { fsm with streams := streams }.IsOpen sock :=
  ⟨isOpen.going, isOpen.held, isOpen.closed, isOpen.notified, isOpen.silenced⟩

theorem IsClosed.withStreams (isClosed : fsm.IsClosed sock) (streams : Streams) :
    { fsm with streams := streams }.IsClosed sock :=
  ⟨isClosed.ended, isClosed.held, isClosed.closed, isClosed.notified⟩

theorem IsOpen.close (isOpen : fsm.IsOpen sock) (notify : Bool) :
    (fsm.close notify).IsClosed sock := by
  have valid : fsm.sock ≠ none := by simp [isOpen.held]
  have closedNow : fsm.closed ++ [fsm.sock] = [some sock] := by
    rw [isOpen.closed, isOpen.held, List.nil_append]
  rw [TcpServerFsm.close, if_neg valid]
  cases notify with
  | true =>
      refine ⟨rfl, rfl, closedNow, ?_⟩
      have silent : fsm.silenced = false := isOpen.silenced
      have none : fsm.closeCalls = 0 := isOpen.notified
      simp only [if_true, closeCalls_note, ServerCallback.isClose]
      simp only [closeCalls, TcpServerFsm.note, silent, if_true] at none ⊢
      rw [none]
  | false => exact ⟨rfl, rfl, closedNow, isOpen.notified⟩

theorem IsClosed.close (isClosed : fsm.IsClosed sock) (notify : Bool) :
    fsm.close notify = fsm := by
  rw [TcpServerFsm.close, if_pos isClosed.held]

theorem IsClosed.foldl_close (isClosed : fsm.IsClosed sock) (closes : List Bool) :
    closes.foldl TcpServerFsm.close fsm = fsm := by
  induction closes with
  | nil => rfl
  | cons notify rest inductionHypothesis =>
      rw [List.foldl_cons, isClosed.close, inductionHypothesis]

/-- A callback that does not call `Close` leaves the machine open. -/
theorem IsOpen.react_open
    (isOpen : fsm.IsOpen sock)
    {reaction : Reaction}
    (quiet : reaction.closes = []) :
    (fsm.react reaction).IsOpen sock := by
  rw [react, quiet, List.foldl_nil]
  exact isOpen.withStreams _

/-- A callback that calls `Close` closes the machine. -/
theorem IsOpen.react_closed
    (isOpen : fsm.IsOpen sock)
    {reaction : Reaction}
    (closing : reaction.closes ≠ []) :
    (fsm.react reaction).IsClosed sock := by
  obtain ⟨notify, rest, shape⟩ := List.exists_cons_of_ne_nil closing
  have closedFirst := (isOpen.withStreams
    (fsm.streams.editAll reaction.edits)).close notify
  rw [react, shape, List.foldl_cons, closedFirst.foldl_close]
  exact closedFirst

/-- The exits of `AfterReadWriteSelect` close an open machine. -/
theorem IsOpen.finish (isOpen : fsm.IsOpen sock) (error : Int) :
    (fsm.finish error).IsClosed sock := by
  refine ⟨rfl, rfl, ?_, ?_⟩
  · have closedNow : fsm.closed ++ [fsm.sock] = [some sock] := by
      rw [isOpen.closed, isOpen.held, List.nil_append]
    exact closedNow
  · have silent : fsm.silenced = false := isOpen.silenced
    have none : fsm.closeCalls = 0 := isOpen.notified
    simp only [TcpServerFsm.finish, closeCalls_note, ServerCallback.isClose, if_true]
    simp only [closeCalls, TcpServerFsm.note, silent, if_true] at none ⊢
    rw [none]

/-- The exits of `AfterReadWriteSelect` close a closed machine again. -/
theorem IsClosed.closed_finish (isClosed : fsm.IsClosed sock) (error : Int) :
    (fsm.finish error).closed = [some sock, none] := by
  have closedNow : fsm.closed ++ [fsm.sock] = [some sock, none] := by
    rw [isClosed.closed, isClosed.held]
    rfl
  exact closedNow

/-! ## The branches of `AfterReadWriteSelect` -/

/-- How a branch leaves an open machine.  Its callback is called and closes the
machine if `closing` holds. -/
inductive Left (sock : Int) (closing : Prop) : TcpServerFsm × Bool → Prop
  | returned {next : TcpServerFsm} :
      next.IsClosed sock → Left sock closing (next, true)
  | closed {next : TcpServerFsm} :
      closing → next.IsClosed sock → Left sock closing (next, false)
  | going {next : TcpServerFsm} :
      ¬closing → next.IsOpen sock → Left sock closing (next, false)

variable {sel : SocketSelect} {calls : ServerCalls} {result : TcpServerFsm × Bool}

/-- A callback after a transfer. -/
theorem IsOpen.left_react
    (isOpen : fsm.IsOpen sock)
    {closing : Prop}
    {reaction : Reaction}
    (exactly : closing ↔ reaction.closes ≠ []) :
    Left sock closing (fsm.react reaction, false) := by
  by_cases quiet : reaction.closes = []
  · exact .going (fun holds => exactly.mp holds quiet) (isOpen.react_open quiet)
  · exact .closed (exactly.mpr quiet) (isOpen.react_closed quiet)

theorem IsOpen.sendBranch
    (isOpen : fsm.IsOpen sock)
    (sent : fsm.sendBranch calls = some result) :
    Left sock (0 < calls.sendRet ∧ calls.onSend.closes ≠ []) result ∧
      (result.2 = true ↔ calls.SendFails) := by
  rw [TcpServerFsm.sendBranch] at sent
  by_cases positive : 0 < calls.sendRet
  · rw [if_pos positive, Option.map_eq_some_iff] at sent
    obtain ⟨streams, -, rfl⟩ := sent
    have called := (isOpen.withStreams streams).note
      (show (ServerCallback.onSend calls.sendRet.toNat).isClose = false from rfl)
    refine ⟨called.left_react (and_iff_right positive), ?_⟩
    simpa [ServerCalls.SendFails] using fun never => absurd positive never.not_gt
  rw [if_neg positive] at sent
  cases later : isNoblockErrno calls.sendErrno with
  | true =>
      rw [if_pos later] at sent
      cases sent
      exact ⟨.going (fun closing => positive closing.1) isOpen,
        by simp [ServerCalls.SendFails, later]⟩
  | false =>
      rw [if_neg (by simp [later])] at sent
      cases sent
      exact ⟨.returned (isOpen.finish _),
        by simpa [ServerCalls.SendFails, later] using positive⟩

theorem IsOpen.recvBranch
    (isOpen : fsm.IsOpen sock)
    (received : fsm.recvBranch calls = some result) :
    Left sock (calls.recv.isData = true ∧ calls.onRecv.closes ≠ []) result := by
  rw [TcpServerFsm.recvBranch, Option.map_eq_some_iff] at received
  obtain ⟨streams, -, rfl⟩ := received
  have tried := isOpen.withStreams streams
  cases shape : calls.recv with
  | data first rest =>
      have called := tried.note
        (show (ServerCallback.onRecv (rest.length + 1)).isClose = false from rfl)
      exact called.left_react (and_iff_right rfl)
  | closed => exact .returned (tried.finish 0)
  | failed errno =>
      dsimp only
      split
      · exact .going (fun closing => by cases closing.1) tried
      · exact .returned (tried.finish errno)

/-- The test of the timeout keeps an open machine open or closes it once. -/
theorem IsOpen.testTimeout
    (isOpen : fsm.IsOpen sock) (sel : SocketSelect) (timeout : Int) :
    (fsm.testTimeout sel timeout).IsOpen sock ∨
      (fsm.testTimeout sel timeout).IsClosed sock := by
  unfold TcpServerFsm.testTimeout
  split
  · exact Or.inr (isOpen.finish _)
  · exact Or.inl isOpen

/-- Nothing is reported for the invalid socket, so only the timeout decides. -/
theorem IsClosed.testTimeout
    (isClosed : fsm.IsClosed sock)
    (ignored : IgnoresInvalid sel)
    (timeout : Int) :
    fsm.testTimeout sel timeout =
      if 0 < timeout then fsm else fsm.finish eTimedOut := by
  have invalid : fsm.fd = -1 := by rw [fd, isClosed.held]; rfl
  rw [TcpServerFsm.testTimeout, invalid, ignored.2.1, ignored.2.2]
  by_cases early : 0 < timeout
  · rw [if_pos early, if_neg (by simp [early])]
  · rw [if_neg early, if_pos (by simpa using early)]

/-- The socket was closed once, or twice where a callback closed it too late. -/
def Outcome (sock : Int) (late : Prop) (fsm : TcpServerFsm) : Prop :=
  (¬late ∧ (fsm.IsOpen sock ∨ fsm.IsClosed sock)) ∨
    (late ∧ fsm.closed = [some sock, none])

theorem Outcome.congr
    {late other : Prop}
    (outcome : Outcome sock late fsm)
    (exactly : other ↔ late) :
    Outcome sock other fsm := by
  rw [propext exactly]
  exact outcome

/-- The end of `AfterReadWriteSelect` after a callback closed the machine. -/
theorem IsClosed.outcome
    (isClosed : fsm.IsClosed sock)
    (ignored : IgnoresInvalid sel)
    (timeout : Int) :
    Outcome sock (¬0 < timeout) (fsm.testTimeout sel timeout) := by
  rw [isClosed.testTimeout ignored]
  by_cases early : 0 < timeout
  · rw [if_pos early]
    exact Or.inl ⟨not_not.mpr early, Or.inr isClosed⟩
  · rw [if_neg early]
    exact Or.inr ⟨early, isClosed.closed_finish _⟩

/-- From the read branch on, with an open machine. -/
theorem IsOpen.read_outcome
    (isOpen : fsm.IsOpen sock)
    (ignored : IgnoresInvalid sel)
    (received :
      (if sel.readFdIsSet fsm.fd ≠ 0 then fsm.recvBranch calls
        else some (fsm, false)) = some result) :
    Outcome sock
      ((sel.readFdIsSet fsm.fd ≠ 0 ∧ calls.recv.isData = true ∧
        calls.onRecv.closes ≠ []) ∧ ¬0 < calls.timeout)
      (if result.2 then result.1 else result.1.testTimeout sel calls.timeout) := by
  by_cases readable : sel.readFdIsSet fsm.fd ≠ 0
  · rw [if_pos readable] at received
    cases isOpen.recvBranch received with
    | returned isClosed =>
        cases shape : calls.recv with
        | data first rest =>
            rw [TcpServerFsm.recvBranch, shape] at received
            simp at received
        | closed | failed errno =>
            exact Or.inl ⟨by simp [RecvResult.isData], Or.inr isClosed⟩
    | closed closing isClosed =>
        exact (isClosed.outcome ignored calls.timeout).congr
          (and_iff_right ⟨readable, closing⟩)
    | going quiet stillOpen =>
        exact Or.inl ⟨fun late => quiet late.1.2, stillOpen.testTimeout sel _⟩
  · rw [if_neg readable] at received
    cases received
    exact Or.inl ⟨fun late => readable late.1.1, isOpen.testTimeout sel _⟩

/-- A machine that is still open after the write branch. -/
theorem IsOpen.rest_outcome
    (isOpen : fsm.IsOpen sock)
    (ignored : IgnoresInvalid sel)
    (quiet : ¬ClosedOnSend fsm.fd sel calls)
    (alive : ¬(sel.writeFdIsSet fsm.fd ≠ 0 ∧ calls.SendFails))
    (received :
      (if sel.readFdIsSet fsm.fd ≠ 0 then fsm.recvBranch calls
        else some (fsm, false)) = some result) :
    Outcome sock
      ((ClosedOnSend fsm.fd sel calls ∨ ClosedOnRecv fsm.fd sel calls) ∧
        ¬0 < calls.timeout)
      (if result.2 then result.1 else result.1.testTimeout sel calls.timeout) := by
  refine (isOpen.read_outcome ignored received).congr (and_congr_left' ?_)
  rw [or_iff_right quiet, ClosedOnRecv, and_iff_right alive]

/-- `AfterReadWriteSelect` with an open machine. -/
theorem IsOpen.afterReadWriteSelect
    (isOpen : fsm.IsOpen sock)
    (ignored : IgnoresInvalid sel)
    (selected : fsm.afterReadWriteSelect sel calls = some next) :
    Outcome sock
      (sel.exceptionFdIsSet fsm.fd = 0 ∧
        (ClosedOnSend fsm.fd sel calls ∨ ClosedOnRecv fsm.fd sel calls) ∧
        ¬0 < calls.timeout) next := by
  rw [TcpServerFsm.afterReadWriteSelect] at selected
  by_cases exception : sel.exceptionFdIsSet fsm.fd ≠ 0
  · rw [if_pos exception] at selected
    cases selected
    exact Or.inl ⟨fun late => exception late.1, Or.inr (isOpen.finish _)⟩
  rw [if_neg exception] at selected
  apply Outcome.congr _ (and_iff_right (not_not.mp exception))
  obtain ⟨⟨written, returned⟩, sent, rest⟩ := Option.bind_eq_some_iff.mp selected
  have sameFd : written.IsOpen sock → written.fd = fsm.fd := fun stillOpen => by
    rw [fd, fd, stillOpen.held, isOpen.held]
  dsimp only at rest
  by_cases writable : sel.writeFdIsSet fsm.fd ≠ 0
  · rw [if_pos writable] at sent
    obtain ⟨left, returnedIff⟩ := isOpen.sendBranch sent
    cases left with
    | returned isClosed =>
        have failed := returnedIff.mp rfl
        cases rest
        refine Or.inl ⟨?_, Or.inr isClosed⟩
        rintro ⟨onSend | onRecv, -⟩
        · exact absurd onSend.2.1 failed.1.not_gt
        · exact onRecv.1 ⟨writable, failed⟩
    | closed closing isClosed =>
        have invalid : written.fd = -1 := by rw [fd, isClosed.held]; rfl
        simp only [invalid, ignored.2.1] at rest
        cases rest
        exact (isClosed.outcome ignored calls.timeout).congr
          (and_iff_right (Or.inl ⟨writable, closing⟩))
    | going quiet stillOpen =>
        obtain ⟨received, branch, rfl⟩ := Option.map_eq_some_iff.mp rest
        have alive : ¬calls.SendFails := fun fails => by cases returnedIff.mpr fails
        rw [← sameFd stillOpen]
        exact stillOpen.rest_outcome ignored (fun onSend => quiet onSend.2)
          (fun fails => alive fails.2) branch
  · rw [if_neg writable] at sent
    cases sent
    obtain ⟨received, branch, rfl⟩ := Option.map_eq_some_iff.mp rest
    exact isOpen.rest_outcome ignored (fun onSend => writable onSend.1)
      (fun fails => writable fails.1) branch

/-! ## Whole runs -/

/-- The machine is open, or it was closed once. -/
def IsSettled (sock : Int) (fsm : TcpServerFsm) : Prop :=
  fsm.IsOpen sock ∨ fsm.IsClosed sock

theorem IsSettled.disciplined (settled : fsm.IsSettled sock) :
    fsm.Disciplined sock :=
  settled.elim IsOpen.disciplined IsClosed.disciplined

/-- A socket closed twice is not disciplined. -/
theorem not_disciplined_of_closed_twice
    (twice : fsm.closed = [some sock, none]) :
    ¬fsm.Disciplined sock := by
  intro disciplined
  have once := disciplined.closed
  rw [twice] at once
  split at once <;> simp at once

theorem IsSettled.withFdSet
    (settled : fsm.IsSettled sock) (isWriteFdSet : Bool) :
    { fsm with isWriteFdSet := isWriteFdSet }.IsSettled sock := by
  cases settled with
  | inl isOpen =>
      exact Or.inl ⟨isOpen.going, isOpen.held, isOpen.closed, isOpen.notified,
        isOpen.silenced⟩
  | inr isClosed =>
      exact Or.inr ⟨isClosed.ended, isClosed.held, isClosed.closed,
        isClosed.notified⟩

theorem preSelect_fst (fsm : TcpServerFsm) (sel : SocketSelect) (onAccept : Reaction) :
    ∃ isWriteFdSet, (fsm.preSelect sel onAccept).1 =
      { fsm.accept onAccept with isWriteFdSet := isWriteFdSet } := by
  unfold preSelect preReadWriteSelect
  dsimp only
  split
  · split
    · exact ⟨true, rfl⟩
    · exact ⟨false, rfl⟩
  · exact ⟨(fsm.accept onAccept).isWriteFdSet, rfl⟩

/-- `_OnAccept` leaves the machine in order exactly if it does not call `Close`. -/
theorem IsOpen.accept
    (isOpen : fsm.IsOpen sock)
    (onAccept : Reaction) :
    ((fsm.status = .kAccept → onAccept.closes = []) ∧
        (fsm.accept onAccept).IsOpen sock) ∨
      (¬(fsm.status = .kAccept → onAccept.closes = []) ∧
        (fsm.accept onAccept).status = .kReadWrite ∧
        (fsm.accept onAccept).sock = none) := by
  rw [TcpServerFsm.accept]
  by_cases accepting : fsm.status = .kAccept
  · rw [if_pos accepting]
    have called := isOpen.note
      (show ServerCallback.onAccept.isClose = false from rfl)
    by_cases quiet : onAccept.closes = []
    · have reacted := called.react_open quiet
      exact Or.inl ⟨fun _ => quiet,
        { reacted with going := by simp, notified := reacted.notified }⟩
    · have reacted := called.react_closed quiet
      exact Or.inr ⟨fun safe => quiet (safe accepting), rfl, reacted.held⟩
  · rw [if_neg accepting]
    exact Or.inl ⟨fun accepted => absurd accepted accepting, isOpen⟩

/-- A step from a machine in order leaves it in order exactly if callbacks close it
safely. -/
theorem IsSettled.step
    {action : Action}
    (settled : fsm.IsSettled sock)
    (stepped : fsm.step action = some next) :
    (fsm.ClosesSafely action ∧ next.IsSettled sock) ∨
      (¬fsm.ClosesSafely action ∧ ¬next.Disciplined sock) := by
  cases action with
  | edit change =>
      cases stepped
      refine Or.inl ⟨trivial, ?_⟩
      exact settled.imp (fun isOpen => isOpen.withStreams _)
        (fun isClosed => isClosed.withStreams _)
  | close notify =>
      cases stepped
      refine Or.inl ⟨trivial, ?_⟩
      cases settled with
      | inl isOpen => exact Or.inr (isOpen.close notify)
      | inr isClosed =>
          rw [isClosed.close]
          exact Or.inr isClosed
  | preSelect sel onAccept =>
      cases stepped
      obtain ⟨isWriteFdSet, shape⟩ := preSelect_fst fsm sel onAccept
      rw [shape]
      cases settled with
      | inl isOpen =>
          rcases isOpen.accept onAccept with ⟨safe, accepted⟩ | ⟨unsafely, going, lost⟩
          · have settled : (fsm.accept onAccept).IsSettled sock := Or.inl accepted
            exact Or.inl ⟨safe, settled.withFdSet isWriteFdSet⟩
          · refine Or.inr ⟨unsafely, fun disciplined => ?_⟩
            have ended := disciplined.ended.mpr lost
            rw [show _ = ServerStatus.kReadWrite from going] at ended
            cases ended
      | inr isClosed =>
          have passed : ¬fsm.status = .kAccept := by simp [isClosed.ended]
          rw [accept, if_neg passed]
          have settled : fsm.IsSettled sock := Or.inr isClosed
          exact Or.inl ⟨fun accepting => absurd accepting passed,
            settled.withFdSet isWriteFdSet⟩
  | afterSelect sel calls =>
      simp only [TcpServerFsm.step, Option.ite_none_right_eq_some] at stepped
      obtain ⟨ignored, selected⟩ := stepped
      rw [afterSelect] at selected
      by_cases transferring : fsm.status = .kReadWrite
      · rw [if_pos transferring] at selected
        cases settled with
        | inl isOpen =>
            refine (isOpen.afterReadWriteSelect ignored selected).imp ?_ ?_
            · rintro ⟨inTime, settled⟩
              refine ⟨fun _ quietBus closing => ?_, settled⟩
              exact not_not.mp fun early => inTime ⟨quietBus, closing, early⟩
            · rintro ⟨⟨quietBus, closing, early⟩, twice⟩
              exact ⟨fun safe => early (safe transferring quietBus closing),
                not_disciplined_of_closed_twice twice⟩
        | inr isClosed =>
            rw [isClosed.ended] at transferring
            cases transferring
      · rw [if_neg transferring] at selected
        cases selected
        exact Or.inl ⟨fun going => absurd going transferring, settled⟩

theorem settled_of_reachable
    (reached : (system sock).ReachableUnder ClosesSafely fsm) :
    fsm.IsSettled sock := by
  refine reached.invariant ?_ ?_
  · intro start isNew
    cases isNew
    exact Or.inl (isOpen_new sock)
  · intro fsm action next _ settled safe stepped
    rcases settled.step stepped with ⟨-, kept⟩ | ⟨unsafely, -⟩
    · exact kept
    · exact absurd safe unsafely

/-- In every run in which callbacks close the machine safely, the close discipline is
kept, and the first step in which they do not breaks it. -/
theorem disciplined_of_closesSafely
    (sock : Int) (fsm : TcpServerFsm)
    (reached : (system sock).ReachableUnder ClosesSafely fsm) :
    fsm.Disciplined sock ∧
      ∀ action next, (system sock).step fsm action = some next →
        (next.Disciplined sock ↔ fsm.ClosesSafely action) := by
  have settled := settled_of_reachable reached
  refine ⟨settled.disciplined, fun action next stepped => ?_⟩
  rcases settled.step stepped with ⟨safe, kept⟩ | ⟨unsafely, broken⟩
  · exact iff_of_true kept.disciplined safe
  · exact iff_of_false broken unsafely

/-- The accepted socket is readable. -/
def readable : SocketSelect where
  breakerFd := 3
  vfds := [⟨7, pollIn, pollIn⟩]
  ret := 1
  errno := 0
  autoclear := false

/-- `_OnRecv` calls `Close(true)` in a call of `AfterSelect`. -/
def closesOnRecv (timeout : Int) : List Action :=
  [.preSelect (.new 3 false) ⟨[], []⟩,
    .afterSelect readable
      { timeout := timeout
        exceptionError := 0
        sendRet := 0
        sendErrno := 0
        recv := .data 1 []
        onSend := ⟨[], []⟩
        onRecv := ⟨[], [true]⟩ }]

/-- `_OnRecv` closes the machine before the timeout. -/
theorem disciplined_closesOnRecv :
    ∃ fsm, (system 7).ReachableUnder ClosesSafely fsm ∧
      fsm.closed = [some 7] ∧ fsm.Disciplined 7 := by
  obtain ⟨fsm, reached, once⟩ := Machine.ReachableUnder.exists_of_execUnder
    (.initial rfl : (system 7).ReachableUnder ClosesSafely (new 7))
    (by decide +kernel : ((system 7).execUnder ClosesSafely (new 7)
      (closesOnRecv 1000)).map (fun fsm => fsm.closed == [some 7]) = some true)
  exact ⟨fsm, reached, by simpa using once,
    (disciplined_of_closesSafely 7 fsm reached).1⟩

/-- `_OnRecv` closes the machine after the timeout, and `_OnClose` is called twice.
`_OnAccept` closes the machine, which goes on with the invalid socket. -/
theorem not_disciplined :
    (∃ fsm, (system 7).exec (new 7) (closesOnRecv 0) = some fsm ∧
      fsm.closed = [some 7, none] ∧ fsm.closeCalls = 2 ∧ ¬fsm.Disciplined 7) ∧
    (∃ fsm, (system 7).exec (new 7) [.preSelect (.new 3 false) ⟨[], [true]⟩] =
        some fsm ∧
      fsm.status = .kReadWrite ∧ fsm.sock = none ∧ ¬fsm.Disciplined 7) := by
  constructor
  · obtain ⟨fsm, executed, -, holds⟩ := Machine.exists_reachable_of_exec
      (show (system 7).initial (new 7) from rfl)
      (by decide +kernel : ((system 7).exec (new 7) (closesOnRecv 0)).map
        (fun fsm => fsm.closed == [some 7, none] && fsm.closeCalls == 2) = some true)
    rw [Bool.and_eq_true, beq_iff_eq, beq_iff_eq] at holds
    exact ⟨fsm, executed, holds.1, holds.2, not_disciplined_of_closed_twice holds.1⟩
  · obtain ⟨fsm, executed, -, holds⟩ := Machine.exists_reachable_of_exec
      (show (system 7).initial (new 7) from rfl)
      (by decide +kernel : ((system 7).exec (new 7)
        [.preSelect (.new 3 false) ⟨[], [true]⟩]).map
          (fun fsm => fsm.status == .kReadWrite && fsm.sock == none) = some true)
    rw [Bool.and_eq_true, beq_iff_eq, beq_iff_eq] at holds
    refine ⟨fsm, executed, holds.1, holds.2, fun disciplined => ?_⟩
    have ended := disciplined.ended.mpr holds.2
    rw [holds.1] at ended
    cases ended

end TcpServerFsm
end Skplat
