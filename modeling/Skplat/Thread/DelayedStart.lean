import Skplat.Machine.Basic
import Skplat.Thread.Defs

/-!
# Cancelling a delayed start

The routines of `start_after` and `start_periodic` wait on `condtime` before they run.
`cancel_after` and `cancel_periodic` set `iscanceldelaystart` and call
`notifyAll(true)`, which sets `anyway_notify_` and broadcasts.  They hold the spin lock
but not the mutex of the condition, so the broadcast may fall between the routine's
test of `anyway_notify_` and its sleep, and nobody wakes it then.
-/

namespace Skplat
namespace DelayedStart

/-- Where the started routine is. -/
inductive Pc
  /-- There is none. -/
  | idle
  /-- Before `init`. -/
  | created
  /-- Before the first test of `iscanceldelaystart`. -/
  | testing
  /-- In `wait`, before the mutex is locked. -/
  | entering
  /-- Before the test of `anyway_notify_`. -/
  | locked
  /-- `anyway_notify_` was 0, and the routine is about to sleep. -/
  | tested
  /-- In `pthread_cond_timedwait`, and not notified. -/
  | asleep
  /-- Before `anyway_notify_` is set to 0. -/
  | woken
  /-- After `wait`, before `iscanceldelaystart` is tested. -/
  | waited
  /-- In `target->run()`. -/
  | running
  /-- After `target->run()` of `start_routine_periodic`. -/
  | ran
  /-- Before `cleanup`. -/
  | finishing
  deriving DecidableEq, Repr

/-- The routine is in `wait`, before its test. -/
def Pc.entersWait : Pc → Bool
  | .entering | .locked => true
  | _ => false

/-- The routine found `anyway_notify_` 0. -/
def Pc.sleeps : Pc → Bool
  | .tested | .asleep => true
  | _ => false

attribute [grind =] Pc.sleeps

/-- Where a call of `cancel_after` or `cancel_periodic` is that found the thread
running. -/
inductive Cancelling
  /-- `iscanceldelaystart` is set. -/
  | marked
  /-- `anyway_notify_` is set. -/
  | flagged
  deriving DecidableEq, Repr

/-- A thread object, its routine and a call that cancels it. -/
structure State where
  ref : RunnableReference
  routine : Routine
  pc : Pc
  /-- The call that holds the spin lock. -/
  cancelling : Option Cancelling
  /-- Such a call returned, for the present routine. -/
  cancelled : Bool
  deriving DecidableEq, Repr

/-- A step of a caller or of the routine. -/
inductive Action
  | start (routine : Routine) (create : PthreadCreate)
  | cancel
  | setFlag
  | broadcast
  | init
  /-- The next step of the routine outside of the spin lock. -/
  | proceed
  /-- A timeout or a spurious wake-up. -/
  | wake
  | cleanup
  deriving DecidableEq, Repr

namespace State

/-- A new thread object. -/
def new : State where
  ref := .new
  routine := .startRoutine
  pc := .idle
  cancelling := none
  cancelled := false

/-- `init` is done. -/
def afterInit : Routine → Pc
  | .startRoutine => .running
  | .startRoutineAfter | .startRoutinePeriodic => .testing

/-- `target->run()` is done. -/
def afterRun : Routine → Pc
  | .startRoutine | .startRoutineAfter => .finishing
  | .startRoutinePeriodic => .ran

/-- The next step of the routine. -/
def proceed (state : State) : Option State :=
  match state.pc with
  | .testing =>
      some { state with
        pc := if state.ref.iscanceldelaystart then .finishing else .entering }
  | .entering => some { state with pc := .locked }
  | .locked =>
      if state.ref.anywayNotify then
        some { state with
          ref := { state.ref with anywayNotify := false }
          pc := .woken }
      else some { state with pc := .tested }
  | .tested => some { state with pc := .asleep }
  | .woken =>
      some { state with
        ref := { state.ref with anywayNotify := false }
        pc := .waited }
  | .waited =>
      some { state with
        pc := if state.ref.iscanceldelaystart then .finishing else .running }
  | .running => some { state with pc := afterRun state.routine }
  | .ran =>
      some { state with
        pc := if state.ref.iscanceldelaystart then .waited else .entering }
  | .idle | .created | .asleep | .finishing => none

/-- One step.  `start`, `init` and `cleanup` wait for the spin lock. -/
def step (state : State) : Action → Option State
  | .start routine create =>
      if state.cancelling = none then
        if state.ref.isended = false then some state
        else
          match create with
          | .created tid =>
              some
                { ref := state.ref.start routine (.created tid)
                  routine := routine
                  pc := .created
                  cancelling := none
                  cancelled := false }
          | .failed tid =>
              some { state with
                ref := state.ref.start routine (.failed tid)
                cancelled := false }
      else none
  | .cancel =>
      if state.cancelling = none then
        if state.ref.isended = true then some state
        else
          some { state with
            ref := { state.ref with iscanceldelaystart := true }
            cancelling := some .marked }
      else none
  | .setFlag =>
      if state.cancelling = some .marked then
        some { state with
          ref := { state.ref with anywayNotify := true }
          cancelling := some .flagged }
      else none
  | .broadcast =>
      if state.cancelling = some .flagged then
        some { state with
          pc := if state.pc = .asleep then .woken else state.pc
          cancelling := none
          cancelled := true }
      else none
  | .init =>
      if state.cancelling = none ∧ state.pc = .created then
        some { state with ref := state.ref.init, pc := afterInit state.routine }
      else none
  | .proceed => state.proceed
  | .wake => if state.pc = .asleep then some { state with pc := .woken } else none
  | .cleanup =>
      if state.cancelling = none ∧ state.pc = .finishing then
        some { state with ref := state.ref.cleanup.1, pc := .idle }
      else none

attribute [grind =] step

end State

/-- A thread object and its routine. -/
def system : Machine State Action where
  initial := fun state => state = .new
  step := State.step

namespace State

/-- After a call that cancels returned, the routine does not sleep, and it never sleeps
while `anyway_notify_` is 1 unless a call is about to broadcast. -/
structure NeverMissed (state : State) : Prop where
  returned : state.cancelled = true → state.pc ≠ .asleep
  flag : state.cancelling = none → state.ref.anywayNotify = true → state.pc ≠ .asleep

/-- No call broadcasts while the routine is between its test of `anyway_notify_` and
its sleep. -/
def OutsideWindow (state : State) (action : Action) : Prop :=
  action = .broadcast → state.pc ≠ .tested

instance (state : State) : DecidablePred state.OutsideWindow := fun _ =>
  inferInstanceAs (Decidable (_ → _))

/-! ## The invariant -/

/-- What holds between the steps. -/
structure Inv (state : State) : Prop where
  cancelled : state.cancelled = true →
    state.ref.iscanceldelaystart = true ∧ state.pc.sleeps = false ∧
      (state.pc.entersWait = true → state.ref.anywayNotify = true)
  cancelling : state.cancelling ≠ none → state.ref.iscanceldelaystart = true
  flagged : state.cancelling = some .flagged → state.pc.entersWait = true →
    state.ref.anywayNotify = true
  /-- A routine that will sleep while `anyway_notify_` is 1 will be woken. -/
  sleeps : state.pc.sleeps = true → state.ref.anywayNotify = true →
    state.cancelling = some .flagged

variable {state next : State}

theorem inv_new : new.Inv where
  cancelled := by simp [new]
  cancelling := by simp [new]
  flagged := by simp [new]
  sleeps := by simp [new, Pc.sleeps]

namespace Inv

theorem neverMissed (inv : state.Inv) : state.NeverMissed where
  returned := by
    intro cancelled asleep
    have awake := (inv.cancelled cancelled).2.1
    simp [asleep, Pc.sleeps] at awake
  flag := by
    intro nobody flag asleep
    have pending := inv.sleeps (by simp [asleep, Pc.sleeps]) flag
    simp [nobody] at pending

/-- The routine moves to a place outside of `wait`, or leaves it. -/
theorem outside
    (inv : state.Inv)
    {pc : Pc}
    (noEntry : pc.entersWait = false)
    (noSleep : pc.sleeps = false)
    (anywayNotify : Bool) :
    { state with
      ref := { state.ref with anywayNotify := anywayNotify }
      pc := pc }.Inv where
  cancelled := fun cancelled =>
    ⟨(inv.cancelled cancelled).1, noSleep, by simp [noEntry]⟩
  cancelling := inv.cancelling
  flagged := by simp [noEntry]
  sleeps := by simp [noSleep]

/-- The routine enters `wait` after it found `iscanceldelaystart` not set. -/
theorem enters
    (inv : state.Inv)
    (going : state.ref.iscanceldelaystart = false) :
    { state with pc := .entering }.Inv where
  cancelled := fun cancelled => by
    have set := (inv.cancelled cancelled).1
    simp [going] at set
  cancelling := inv.cancelling
  flagged := fun flagged => by
    have present : state.cancelling = some .flagged := flagged
    have set := inv.cancelling (by simp [present])
    simp [going] at set
  sleeps := by simp [Pc.sleeps]

/-- The routine tests `anyway_notify_`. -/
theorem tests
    (inv : state.Inv)
    (locked : state.pc = .locked)
    (flag : state.ref.anywayNotify = false) :
    { state with pc := .tested }.Inv where
  cancelled := fun cancelled => by
    have set := (inv.cancelled cancelled).2.2 (by simp [locked, Pc.entersWait])
    simp [flag] at set
  cancelling := inv.cancelling
  flagged := by simp [Pc.entersWait]
  sleeps := by simp [flag]

theorem proceed
    (inv : state.Inv)
    (stepped : state.proceed = some next) :
    next.Inv := by
  cases place : state.pc with
  | testing | ran =>
      simp only [State.proceed, place] at stepped
      cases stepped
      cases set : state.ref.iscanceldelaystart with
      | true => exact inv.outside rfl rfl state.ref.anywayNotify
      | false => exact inv.enters set
  | entering =>
      simp only [State.proceed, place] at stepped
      cases stepped
      have waits : state.pc.entersWait = true := by simp [place, Pc.entersWait]
      exact
        { cancelled := fun cancelled =>
            have before := inv.cancelled cancelled
            ⟨before.1, rfl, fun _ => before.2.2 waits⟩
          cancelling := inv.cancelling
          flagged := fun flagged _ => inv.flagged flagged waits
          sleeps := by simp [Pc.sleeps] }
  | locked =>
      simp only [State.proceed, place] at stepped
      cases flag : state.ref.anywayNotify with
      | true =>
          rw [if_pos flag] at stepped
          cases stepped
          exact inv.outside rfl rfl false
      | false =>
          rw [if_neg (by simp [flag])] at stepped
          cases stepped
          exact inv.tests place flag
  | tested =>
      simp only [State.proceed, place] at stepped
      cases stepped
      have sleeps : state.pc.sleeps = true := by simp [place, Pc.sleeps]
      refine
        { cancelled := fun cancelled => ?_
          cancelling := inv.cancelling
          flagged := by simp [Pc.entersWait]
          sleeps := fun _ => inv.sleeps sleeps }
      have awake := (inv.cancelled cancelled).2.1
      simp [sleeps] at awake
  | woken =>
      simp only [State.proceed, place] at stepped
      cases stepped
      exact inv.outside rfl rfl false
  | waited =>
      simp only [State.proceed, place] at stepped
      cases stepped
      cases state.ref.iscanceldelaystart <;>
        exact inv.outside rfl rfl state.ref.anywayNotify
  | running =>
      simp only [State.proceed, place] at stepped
      cases stepped
      have noEntry : (afterRun state.routine).entersWait = false := by
        cases state.routine <;> rfl
      have noSleep : (afterRun state.routine).sleeps = false := by
        cases state.routine <;> rfl
      exact inv.outside noEntry noSleep state.ref.anywayNotify
  | idle | created | asleep | finishing =>
      simp only [State.proceed, place] at stepped
      cases stepped

/-! ### The steps of a caller -/

theorem start
    {routine : Routine} {create : PthreadCreate}
    (inv : state.Inv)
    (stepped : state.step (.start routine create) = some next) :
    next.Inv := by
  simp only [State.step, Option.ite_none_right_eq_some] at stepped
  obtain ⟨free, stepped⟩ := stepped
  cases ended : state.ref.isended with
  | false =>
      rw [if_pos ended] at stepped
      cases stepped
      exact inv
  | true =>
      rw [if_neg (by simp [ended])] at stepped
      cases create with
      | created tid =>
          cases stepped
          exact
            { cancelled := by simp
              cancelling := by simp
              flagged := by simp
              sleeps := by simp [Pc.sleeps] }
      | failed tid =>
          cases stepped
          refine
            { cancelled := by simp
              cancelling := by simp [free]
              flagged := by simp [free]
              sleeps := fun sleeps flag => inv.sleeps sleeps ?_ }
          have same : (state.ref.start routine (.failed tid)).anywayNotify = true →
              state.ref.anywayNotify = true := by
            rw [RunnableReference.start, if_neg (by simp [ended])]
            cases routine with
            | startRoutine => exact id
            | startRoutineAfter | startRoutinePeriodic =>
                intro set
                cases set
          exact same flag

theorem cancel
    (inv : state.Inv)
    (stepped : state.step .cancel = some next) :
    next.Inv := by
  simp only [State.step, Option.ite_none_right_eq_some] at stepped
  obtain ⟨free, stepped⟩ := stepped
  by_cases ended : state.ref.isended = true
  · rw [if_pos ended] at stepped
    cases stepped
    exact inv
  · rw [if_neg ended] at stepped
    cases stepped
    refine
      { cancelled := fun cancelled => ⟨rfl, (inv.cancelled cancelled).2⟩
        cancelling := fun _ => rfl
        flagged := by simp
        sleeps := fun sleeps flag => ?_ }
    have pending := inv.sleeps sleeps flag
    simp [free] at pending

theorem setFlag
    (inv : state.Inv)
    (stepped : state.step .setFlag = some next) :
    next.Inv := by
  simp only [State.step, Option.ite_none_right_eq_some, Option.some.injEq] at stepped
  obtain ⟨marked, rfl⟩ := stepped
  exact
    { cancelled := fun cancelled =>
        have before := inv.cancelled cancelled
        ⟨before.1, before.2.1, fun _ => rfl⟩
      cancelling := fun _ => inv.cancelling (by simp [marked])
      flagged := fun _ _ => rfl
      sleeps := fun _ _ => rfl }

/-- The broadcast wakes the routine, unless it falls into the window. -/
theorem broadcast
    (inv : state.Inv)
    (outside : state.OutsideWindow .broadcast)
    (stepped : state.step .broadcast = some next) :
    next.Inv := by
  simp only [State.step, Option.ite_none_right_eq_some, Option.some.injEq] at stepped
  obtain ⟨flagged, rfl⟩ := stepped
  have set := inv.cancelling (by simp [flagged])
  by_cases asleep : state.pc = .asleep
  · rw [if_pos asleep]
    exact
      { cancelled := fun _ => ⟨set, rfl, by simp [Pc.entersWait]⟩
        cancelling := by simp
        flagged := by simp
        sleeps := by simp [Pc.sleeps] }
  · rw [if_neg asleep]
    have awake : state.pc.sleeps = false := by
      have notTested := outside rfl
      cases place : state.pc with
      | tested => exact absurd place notTested
      | asleep => exact absurd place asleep
      | idle | created | testing | entering | locked | woken | waited | running
      | ran | finishing => rfl
    exact
      { cancelled := fun _ => ⟨set, awake, inv.flagged flagged⟩
        cancelling := by simp
        flagged := by simp
        sleeps := by simp [awake] }

theorem step
    {action : Action}
    (inv : state.Inv)
    (outside : state.OutsideWindow action)
    (stepped : state.step action = some next) :
    next.Inv := by
  cases action with
  | start routine create => exact inv.start stepped
  | cancel => exact inv.cancel stepped
  | setFlag => exact inv.setFlag stepped
  | broadcast => exact inv.broadcast outside stepped
  | proceed => exact inv.proceed stepped
  | init =>
      simp only [State.step, Option.ite_none_right_eq_some, Option.some.injEq] at stepped
      obtain ⟨-, rfl⟩ := stepped
      have noEntry : (afterInit state.routine).entersWait = false := by
        cases state.routine <;> rfl
      have noSleep : (afterInit state.routine).sleeps = false := by
        cases state.routine <;> rfl
      have moved := inv.outside noEntry noSleep state.ref.anywayNotify
      exact ⟨moved.cancelled, moved.cancelling, moved.flagged, moved.sleeps⟩
  | wake =>
      simp only [State.step, Option.ite_none_right_eq_some, Option.some.injEq] at stepped
      obtain ⟨-, rfl⟩ := stepped
      exact inv.outside rfl rfl state.ref.anywayNotify
  | cleanup =>
      simp only [State.step, Option.ite_none_right_eq_some, Option.some.injEq] at stepped
      obtain ⟨-, rfl⟩ := stepped
      have moved : { state with
          ref := { state.ref with anywayNotify := state.ref.anywayNotify }
          pc := .idle }.Inv := inv.outside rfl rfl state.ref.anywayNotify
      exact ⟨moved.cancelled, moved.cancelling, moved.flagged, moved.sleeps⟩

end Inv
end State

/-- In every run in which no call broadcasts between the routine's test of
`anyway_notify_` and its sleep, no cancellation is missed. -/
theorem neverMissed_of_outsideWindow
    {state : State}
    (reached : system.ReachableUnder State.OutsideWindow state) :
    state.NeverMissed := by
  have inv : state.Inv := by
    refine reached.invariant ?_ ?_
    · intro start isNew
      cases isNew
      exact State.inv_new
    · intro state action next _ inv outside stepped
      exact inv.step outside stepped
  exact inv.neverMissed

/-- A periodic routine sleeps when it is cancelled. -/
def cancelledAsleep : List Action :=
  [.start .startRoutinePeriodic (.created 0), .init, .proceed, .proceed, .proceed,
    .proceed, .cancel, .setFlag, .broadcast]

/-- It is woken. -/
theorem neverMissed_cancelledAsleep :
    ∃ state, system.ReachableUnder State.OutsideWindow state ∧
      state.cancelled = true ∧ state.pc = .woken ∧ state.NeverMissed := by
  obtain ⟨state, reached, holds⟩ := Machine.ReachableUnder.exists_of_execUnder
    (.initial rfl : system.ReachableUnder State.OutsideWindow .new)
    (by decide +kernel : (system.execUnder State.OutsideWindow .new
      cancelledAsleep).map (fun state =>
        state.cancelled && state.pc == .woken) = some true)
  rw [Bool.and_eq_true, beq_iff_eq] at holds
  exact ⟨state, reached, holds.1, holds.2, neverMissed_of_outsideWindow reached⟩

/-- A routine is cancelled after it has tested `anyway_notify_`. -/
def cancelledInWindow : List Action :=
  [.start .startRoutineAfter (.created 0), .init, .proceed, .proceed, .proceed,
    .cancel, .setFlag, .broadcast, .proceed]

/-- It sleeps after the call returned, with `anyway_notify_` set. -/
theorem missed_cancelledInWindow :
    ∃ state, system.exec .new cancelledInWindow = some state ∧
      system.Reachable state ∧ state.cancelled = true ∧
      state.cancelling = none ∧ state.ref.anywayNotify = true ∧
      state.pc = .asleep ∧ ¬state.NeverMissed := by
  obtain ⟨state, executed, reached, holds⟩ := Machine.exists_reachable_of_exec
    (show system.initial .new from rfl)
    (by decide +kernel : (system.exec .new cancelledInWindow).map
      (fun state => decide (state.cancelled = true ∧ state.cancelling = none ∧
        state.ref.anywayNotify = true ∧ state.pc = .asleep)) = some true)
  obtain ⟨cancelled, returned, flag, asleep⟩ := of_decide_eq_true holds
  refine ⟨state, executed, reached, cancelled, returned, flag, asleep, ?_⟩
  exact fun neverMissed => neverMissed.returned cancelled asleep

end DelayedStart
end Skplat
