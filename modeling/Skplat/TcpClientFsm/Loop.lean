import Skplat.TcpClientFsm.Life

/-!
# A loop around one connection state machine

A loop like the one of `TryConnect` calls `PreSelect` on a machine that has not
ended, then `AfterSelect`, and finally `Close`, possibly instead of an
`AfterSelect`.  Selects and results of system calls are arbitrary.

`_OnClose` is called at most once unless a call reports an error in a way that the
machine misreads: `socket_set_nobio` fails with an `errno`, which is told by
`PreConnectSelect` and once more by `AfterSelect`, or a failure comes with the error
value zero, which `Close` takes for a machine that still runs.
-/

namespace Skplat

/-- Both invariants of a machine. -/
structure Behaves (standing : Standing) (record : Record) : Prop where
  lives : Lives standing record
  notifies : NotifiesOnce standing record

/-- `socket_set_nobio` leaves no error behind. -/
def TcpClientFsm.Nonblocking
    (fsm : TcpClientFsm)
    (calls : ConnectCalls) : Prop :=
  fsm.status = .eStart → calls.socket ≠ none → calls.nobioErrno.getD 0 = 0

instance (fsm : TcpClientFsm) : DecidablePred fsm.Nonblocking := fun calls =>
  inferInstanceAs (Decidable (fsm.status = .eStart → calls.socket ≠ none →
    calls.nobioErrno.getD 0 = 0))

theorem behaves_new : Behaves TcpClientFsm.new.standing .new :=
  ⟨lives_new, notifiesOnce_new⟩

namespace Behaves

variable {fsm : TcpClientFsm} {record : Record}

theorem preSelect
    {calls : ConnectCalls}
    (behaves : Behaves fsm.standing record)
    (notEnded : fsm.status ≠ .eEnd)
    (nonblocking : fsm.Nonblocking calls)
    (sel : SocketSelect) :
    Behaves (fsm.preSelect sel calls).1.standing
      (record.note true (fsm.preSelect sel calls).1.status
        (fsm.preSelect sel calls).2.2) := by
  have done := fsm.preSelects sel calls
  exact ⟨behaves.lives.preSelect notEnded done,
    behaves.notifies.preSelect behaves.lives notEnded nonblocking done⟩

theorem afterSelect
    {standing next : Standing}
    {callbacks : List Callback}
    (behaves : Behaves standing record)
    (turn : record.selected = true ∨ standing.status ≠ .eEnd)
    (done : AfterSelects false standing next callbacks) :
    Behaves next (record.note false next.status (.calls callbacks)) :=
  ⟨behaves.lives.afterSelect turn done,
    behaves.notifies.afterSelect behaves.lives turn done⟩

theorem close
    {notify : Bool}
    {standing next : Standing}
    {output : Output}
    (behaves : Behaves standing record)
    (done : Closes notify standing next output) :
    Behaves next (record.note false next.status output) ∧ next.sock = none := by
  obtain ⟨lives, closed⟩ := behaves.lives.close done
  exact ⟨⟨lives, behaves.notifies.close done⟩, closed⟩

end Behaves

/-- A machine in a loop. -/
structure Looped where
  fsm : TcpClientFsm
  record : Record
  /-- `Close` was called. -/
  closed : Bool
  deriving DecidableEq, Repr

/-- What is done to the machine. -/
inductive LoopAction
  | requestSend
  | fillSendBuf (sendBuf : List UInt8)
  | preSelect (sel : SocketSelect) (calls : ConnectCalls)
  | afterSelect (sel : SocketSelect) (calls : TcpClientFsm.AfterCalls)
  | close (notify : Bool)

namespace Looped

/-- A new machine. -/
def new : Looped where
  fsm := .new
  record := .new
  closed := false

/-- One call. -/
def step (looped : Looped) : LoopAction → Option Looped
  | .requestSend => some { looped with fsm := looped.fsm.request }
  | .fillSendBuf sendBuf =>
      some { looped with fsm := { looped.fsm with sendBuf := sendBuf } }
  | .preSelect sel calls =>
      if looped.record.selected = false ∧ looped.closed = false ∧
          looped.fsm.status ≠ .eEnd then
        let after := looped.fsm.preSelect sel calls
        some { looped with
          fsm := after.1
          record := looped.record.note true after.1.status after.2.2 }
      else none
  | .afterSelect sel calls =>
      if looped.record.selected = true then
        let after := looped.fsm.afterSelect sel calls
        some { looped with
          fsm := after.1
          record := looped.record.note false after.1.status after.2 }
      else none
  | .close notify =>
      let after := looped.fsm.close notify
      some {
        fsm := after.1
        record := looped.record.note false after.1.status after.2
        closed := true }

/-- No error is reported in a way that the machine misreads. -/
def Reported (looped : Looped) : LoopAction → Prop
  | .preSelect _ calls => looped.fsm.Nonblocking calls
  | .afterSelect sel calls => looped.fsm.zeroGiven sel calls = false
  | _ => True

instance (looped : Looped) : DecidablePred looped.Reported
  | .preSelect _ calls =>
      inferInstanceAs (Decidable (looped.fsm.Nonblocking calls))
  | .afterSelect sel calls =>
      inferInstanceAs (Decidable (looped.fsm.zeroGiven sel calls = false))
  | .requestSend | .fillSendBuf _ | .close _ => inferInstanceAs (Decidable True)

/-- The life of a machine in a loop. -/
def system : Machine Looped LoopAction where
  initial := fun looped => looped = new
  step := step

theorem behaves_step
    {looped next : Looped}
    {action : LoopAction}
    (behaves : Behaves looped.fsm.standing looped.record)
    (reported : looped.Reported action)
    (stepped : looped.step action = some next) :
    Behaves next.fsm.standing next.record := by
  cases action with
  | requestSend | fillSendBuf sendBuf =>
      cases stepped
      exact behaves
  | preSelect sel calls =>
      simp only [step, Option.ite_none_right_eq_some, Option.some.injEq] at stepped
      obtain ⟨⟨-, -, notEnded⟩, rfl⟩ := stepped
      exact behaves.preSelect notEnded reported sel
  | afterSelect sel calls =>
      simp only [step, Option.ite_none_right_eq_some, Option.some.injEq] at stepped
      obtain ⟨selected, rfl⟩ := stepped
      have done := TcpClientFsm.afterSelects behaves.lives.opened sel calls
      rw [show looped.fsm.zeroGiven sel calls = false from reported] at done
      exact behaves.afterSelect (Or.inl selected) done
  | close notify =>
      cases stepped
      exact (behaves.close (looped.fsm.closes notify)).1

theorem behaves_of_reachable
    {looped : Looped}
    (reached : system.ReachableUnder Reported looped) :
    Behaves looped.fsm.standing looped.record := by
  refine reached.invariant (fun start isStart => ?_)
    fun _ _ _ _ behaves reported stepped => behaves_step behaves reported stepped
  cases isStart
  exact behaves_new

end Looped
end Skplat
