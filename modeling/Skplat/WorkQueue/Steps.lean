import Skplat.WorkQueue.Defs

/-!
# Steps of the work queue

What one step can do, with all that it found.
-/

namespace Skplat
namespace WorkQueue

/-- A thread goes on, or `finish` in its loop over the threads. -/
def Action.isWork {Caller WorkUnit : Type} : Action Caller WorkUnit → Bool
  | .join _ | .enter _ | .returnRun _ _ | .release _ | .leave _ | .exit _ => true
  | _ => false

namespace State

variable {Caller WorkUnit : Type} [DecidableEq Caller] [DecidableEq WorkUnit]

/-- Units are accepted. -/
structure IsOpen (state : State Caller WorkUnit) : Prop where
  notFinished : state.finished = false
  notCanceled : state.canceled = false

/-- `mLock` is free, and the caller is in no call. -/
structure Calls (state : State Caller WorkUnit) (caller : Caller) : Prop where
  result : ∃ result, state.call caller = .idle result
  unlocked : state.scanner = none

/-- `mLock` is free, and the caller has been woken in `schedule`. -/
structure Resumes (state : State Caller WorkUnit) (caller : Caller) (unit : WorkUnit)
    (limit : Nat) : Prop where
  place : state.call caller = .resuming unit limit
  unlocked : state.scanner = none

/-- A thread is at a place. -/
structure WorkerIs (state : State Caller WorkUnit) (index : Nat) (worker : Worker WorkUnit)
    (place : Place WorkUnit) : Prop where
  found : state.workers[index]? = some worker
  place : worker.place = place

/-- A thread has ended. -/
def Exited (state : State Caller WorkUnit) (index : Nat) : Prop :=
  ∃ worker stopped, state.WorkerIs index worker (.exited stopped)

/-- One thread more is to be created. -/
def Grows (maxThreads : Nat) (state : State Caller WorkUnit) : Prop :=
  state.workThreads < maxThreads ∧ state.idleThreads < state.workUnits.length + 1

/-- The steps. -/
inductive Fires (maxThreads : Nat) (state : State Caller WorkUnit) :
    Action Caller WorkUnit → State Caller WorkUnit → Prop
  | answered {action : Action Caller WorkUnit} {caller : Caller} (status : Status) :
      action.isWork = false →
      state.Calls caller ∨ (∃ unit limit, state.Resumes caller unit limit) →
      Fires maxThreads state action (state.returns caller status)
  | grown {action : Action Caller WorkUnit} {caller : Caller} {unit : WorkUnit} :
      state.Calls caller → state.IsOpen → state.Grows maxThreads →
      Fires maxThreads state action (state.addThread.accept caller unit)
  | blocked {caller : Caller} {unit : WorkUnit} {backlog : Nat} {started : Bool} :
      state.Calls caller → state.IsOpen → ¬state.Grows maxThreads → backlog ≠ 0 →
      limitOf maxThreads backlog ≤ state.workUnits.length →
      Fires maxThreads state (.schedule caller unit backlog started)
        (state.callAt caller (.waiting unit (limitOf maxThreads backlog)))
  | admitted {action : Action Caller WorkUnit} {caller : Caller} {unit : WorkUnit} :
      state.Calls caller → state.IsOpen → ¬state.Grows maxThreads →
      Fires maxThreads state action (state.accept caller unit)
  | blockedAgain {action : Action Caller WorkUnit} {caller : Caller} {unit : WorkUnit}
      {limit : Nat} :
      state.Resumes caller unit limit → state.IsOpen → limit ≤ state.workUnits.length →
      Fires maxThreads state action (state.callAt caller (.waiting unit limit))
  | admittedAgain {action : Action Caller WorkUnit} {caller : Caller} {unit : WorkUnit}
      {limit : Nat} :
      state.Resumes caller unit limit → state.IsOpen → state.workUnits.length < limit →
      Fires maxThreads state action (state.accept caller unit)
  | woken {caller : Caller} {unit : WorkUnit} {limit : Nat} :
      state.call caller = .waiting unit limit →
      Fires maxThreads state (.wake caller) (state.callAt caller (.resuming unit limit))
  | canceled {action : Action Caller WorkUnit} {caller : Caller} :
      state.Calls caller → state.IsOpen →
      Fires maxThreads state action (state.discardAll.returns caller .ok)
  | removed {caller : Caller} {unit : WorkUnit} {entry : Entry WorkUnit} :
      state.Calls caller → state.IsOpen →
      (state.workUnits.find? fun entry => entry.unit = unit) = some entry →
      Fires maxThreads state (.cancel caller (some unit))
        ((state.remove unit entry).returns caller .ok)
  | scanBegun {caller : Caller} {unit : WorkUnit} :
      state.Calls caller → state.IsOpen →
      (state.workUnits.find? fun entry => entry.unit = unit) = none →
      Fires maxThreads state (.cancel caller (some unit))
        { state.callAt caller (.scanning unit 0) with scanner := some caller }
  | passed {caller : Caller} {unit : WorkUnit} {index : Nat} {worker : Worker WorkUnit} :
      state.scanner = some caller → state.call caller = .scanning unit index →
      index < state.workThreads → state.workers[index]? = some worker →
      worker.runningWork ≠ some unit →
      Fires maxThreads state (.scan caller)
        (state.callAt caller (.scanning unit (index + 1)))
  | hit {caller : Caller} {unit : WorkUnit} {index : Nat} {worker : Worker WorkUnit} :
      state.scanner = some caller → state.call caller = .scanning unit index →
      index < state.workThreads → state.workers[index]? = some worker →
      worker.runningWork = some unit →
      Fires maxThreads state (.scan caller) (state.callAt caller (.cancelling unit index))
  | crash {caller : Caller} {unit : WorkUnit} {index : Nat} {worker : Worker WorkUnit} :
      state.scanner = some caller → state.call caller = .cancelling unit index →
      state.workers[index]? = some worker → worker.runningWork = none →
      Fires maxThreads state (.scan caller) { state with crashed := true }
  | unitCanceled {caller : Caller} {unit running : WorkUnit} {index : Nat}
      {worker : Worker WorkUnit} :
      state.scanner = some caller → state.call caller = .cancelling unit index →
      state.workers[index]? = some worker → worker.runningWork = some running →
      Fires maxThreads state (.scan caller) (state.callAt caller (.clearing index))
  | cleared {caller : Caller} {index : Nat} {worker : Worker WorkUnit} :
      state.scanner = some caller → state.call caller = .clearing index →
      state.workers[index]? = some worker →
      Fires maxThreads state (.scan caller)
        { (state.workerAt index { worker with runningWork := none }).returns caller .ok with
          scanner := none }
  | notFound {caller : Caller} {unit : WorkUnit} {index : Nat} :
      state.scanner = some caller → state.call caller = .scanning unit index →
      state.workThreads ≤ index →
      Fires maxThreads state (.scan caller)
        { (state.workChanged.workDequeued).returns caller .nameNotFound with
          scanner := none }
  | finishBegun {action : Action Caller WorkUnit} {caller : Caller} {self : Option Nat} :
      state.Calls caller → state.finished = false →
      (∀ index, self = some index → state.isRunning index = true) →
      Fires maxThreads state action
        (State.callAt
          (State.workChanged { state with finished := true, finisher := self }) caller
          (.joining 0))
  | joinedThread {action : Action Caller WorkUnit} {caller : Caller} {index : Nat} :
      state.call caller = .joining index → index < state.workThreads →
      (state.finisher ≠ some index → state.Exited index) →
      Fires maxThreads state action (state.callAt caller (.joining (index + 1)))
  | finishReturned {action : Action Caller WorkUnit} {caller : Caller} {index : Nat} :
      state.call caller = .joining index → state.workThreads ≤ index →
      Fires maxThreads state action
        { state.returns caller .ok with workThreads := 0, joined := true }
  | took {index : Nat} {worker : Worker WorkUnit} {entry : Entry WorkUnit}
      {rest : List (Entry WorkUnit)} :
      state.WorkerIs index worker .entering → state.scanner = none →
      state.canceled = false → state.workUnits = entry :: rest →
      Fires maxThreads state (.enter index) (state.take index entry rest)
  | slept {index : Nat} {worker : Worker WorkUnit} :
      state.WorkerIs index worker .entering → state.scanner = none → state.IsOpen →
      state.workUnits = [] →
      Fires maxThreads state (.enter index)
        (state.workerAt index { worker with place := .asleep })
  | left {index : Nat} {worker : Worker WorkUnit} :
      state.WorkerIs index worker .entering → state.scanner = none →
      state.canceled = true ∨ (state.finished = true ∧ state.workUnits = []) →
      Fires maxThreads state (.enter index)
        (state.workerAt index { worker with place := .leaving false })
  | roused {index : Nat} {worker : Worker WorkUnit} :
      state.WorkerIs index worker .asleep →
      Fires maxThreads state (.rouse index)
        (state.workerAt index { worker with place := .entering })
  | ran {index : Nat} {worker : Worker WorkUnit} {entry : Entry WorkUnit}
      (shouldContinue : Bool) :
      state.WorkerIs index worker (.running entry) → state.inFinish index = false →
      Fires maxThreads state (.returnRun index shouldContinue)
        { state.workerAt index { worker with place := .returned entry shouldContinue } with
          completed := state.completed ++ [entry] }
  | released {index : Nat} {worker : Worker WorkUnit} {entry : Entry WorkUnit}
      {shouldContinue : Bool} :
      state.WorkerIs index worker (.returned entry shouldContinue) →
      Fires maxThreads state (.release index)
        (state.workerAt index ⟨.released shouldContinue, none⟩)
  | continued {index : Nat} {worker : Worker WorkUnit} :
      state.WorkerIs index worker (.released true) → state.scanner = none →
      Fires maxThreads state (.leave index)
        (State.workerAt { state with idleThreads := state.idleThreads + 1 } index
          { worker with place := .entering })
  | stopped {index : Nat} {worker : Worker WorkUnit} :
      state.WorkerIs index worker (.released false) → state.scanner = none →
      ¬state.IsOpen →
      Fires maxThreads state (.leave index)
        (State.workerAt { state with idleThreads := state.idleThreads + 1 } index
          { worker with place := .leaving true })
  | stoppedAll {index : Nat} {worker : Worker WorkUnit} :
      state.WorkerIs index worker (.released false) → state.scanner = none →
      state.IsOpen →
      Fires maxThreads state (.leave index)
        ((discardAll { state with idleThreads := state.idleThreads + 1 }).workerAt index
          { worker with place := .leaving true })
  | exited {index : Nat} {worker : Worker WorkUnit} {stopped : Bool} :
      state.WorkerIs index worker (.leaving stopped) →
      Fires maxThreads state (.exit index)
        (state.workerAt index { worker with place := .exited stopped })

variable {maxThreads : Nat} {state next : State Caller WorkUnit}
variable {action : Action Caller WorkUnit} {caller : Caller}

omit [DecidableEq Caller] [DecidableEq WorkUnit] in
theorem calls_of_free (free : (state.isFree caller && state.unlocked) = true) :
    state.Calls caller := by
  rw [Bool.and_eq_true, isFree, unlocked, Option.isNone_iff_eq_none] at free
  obtain ⟨inNoCall, notLocked⟩ := free
  split at inNoCall
  · exact ⟨⟨_, by assumption⟩, notLocked⟩
  · cases inNoCall

omit [DecidableEq Caller] [DecidableEq WorkUnit] in
theorem isOpen_of_closed (closed : ¬(state.finished || state.canceled) = true) :
    state.IsOpen := by
  simp only [Bool.or_eq_true, not_or, Bool.not_eq_true] at closed
  exact ⟨closed.1, closed.2⟩

theorem schedule_fires {unit : WorkUnit} {backlog : Nat} {started : Bool}
    (calls : state.Calls caller) :
    Fires maxThreads state (.schedule caller unit backlog started)
      (state.schedule maxThreads caller unit backlog started) := by
  rw [schedule]
  split
  · exact .answered _ rfl (Or.inl calls)
  · rename_i isOpen
    have isOpen := isOpen_of_closed isOpen
    split
    · rename_i grows
      split
      · exact .grown calls isOpen grows
      · exact .answered _ rfl (Or.inl calls)
    · rename_i full
      split
      · rename_i blocks
        exact .blocked calls isOpen full blocks.1 blocks.2
      · exact .admitted calls isOpen full

theorem resume_fires {unit : WorkUnit} {limit : Nat}
    (resumes : state.Resumes caller unit limit) :
    Fires maxThreads state (.resume caller) (state.resume caller unit limit) := by
  rw [resume]
  split
  · exact .answered _ rfl (Or.inr ⟨unit, limit, resumes⟩)
  · rename_i isOpen
    split
    · exact .blockedAgain resumes (isOpen_of_closed isOpen) (by assumption)
    · exact .admittedAgain resumes (isOpen_of_closed isOpen) (by omega)

theorem cancelAll_fires (calls : state.Calls caller) :
    Fires maxThreads state (.cancelAll caller) (state.cancelAll caller) := by
  rw [cancelAll, cancelLocked]
  split
  · exact .answered _ rfl (Or.inl calls)
  · rename_i notFinished
    split
    · rename_i notCanceled
      exact .canceled calls ⟨by simpa using notFinished, by simpa using notCanceled⟩
    · exact .answered _ rfl (Or.inl calls)

theorem cancel_fires {unit : Option WorkUnit} (calls : state.Calls caller) :
    Fires maxThreads state (.cancel caller unit) (state.cancel caller unit) := by
  cases unit with
  | none => exact .answered _ rfl (Or.inl calls)
  | some unit =>
      rw [cancel]
      split
      · exact .answered _ rfl (Or.inl calls)
      · rename_i isOpen
        split
        · exact .removed calls (isOpen_of_closed isOpen) (by assumption)
        · exact .scanBegun calls (isOpen_of_closed isOpen) (by assumption)

theorem scan_fires
    (scans : state.scanner = some caller) (stepped : state.scan caller = some next) :
    Fires maxThreads state (.scan caller) next := by
  rw [scan] at stepped
  split at stepped
  · rename_i isScanning
    split at stepped
    · obtain ⟨worker, found, rfl⟩ := Option.map_eq_some_iff.mp stepped
      split
      · exact .hit scans isScanning (by assumption) found (by assumption)
      · exact .passed scans isScanning (by assumption) found (by assumption)
    · cases stepped
      exact .notFound scans isScanning (by omega)
  · rename_i isCancelling
    obtain ⟨worker, found, rfl⟩ := Option.map_eq_some_iff.mp stepped
    split
    · exact .crash scans isCancelling found (by assumption)
    · rename_i isRunning
      obtain ⟨running, isUnit⟩ := Option.ne_none_iff_exists'.mp isRunning
      exact .unitCanceled scans isCancelling found isUnit
  · rename_i isClearing
    obtain ⟨worker, found, rfl⟩ := Option.map_eq_some_iff.mp stepped
    exact .cleared scans isClearing found
  · cases stepped

theorem finish_fires {self : Option Nat} (calls : state.Calls caller)
    (running : self.all state.isRunning = true) :
    Fires maxThreads state (.finish caller self) (state.finish caller self) := by
  rw [finish]
  split
  · exact .answered _ rfl (Or.inl calls)
  · rename_i notFinished
    refine .finishBegun calls (by simpa using notFinished) fun index isSelf => ?_
    rw [isSelf] at running
    exact running

theorem join_fires {index : Nat}
    (place : state.call caller = .joining index)
    (stepped : state.join caller index = some next) :
    Fires maxThreads state action next := by
  rw [join] at stepped
  split at stepped
  · split at stepped
    · rename_i isSelf
      cases stepped
      exact .joinedThread place (by assumption) fun notSelf => absurd isSelf notSelf
    · split at stepped
      · rename_i isExited
        obtain ⟨worker, found, isPlace⟩ := Option.map_eq_some_iff.mp isExited
        cases stepped
        exact .joinedThread place (by assumption) fun _ => ⟨worker, _, found, isPlace⟩
      · cases stepped
  · cases stepped
    exact .finishReturned place (by omega)

theorem enter_fires {index : Nat} {worker : Worker WorkUnit}
    (isPlace : state.WorkerIs index worker .entering) (notLocked : state.scanner = none) :
    Fires maxThreads state (.enter index) (state.enter index worker) := by
  rw [enter]
  split
  · exact .left isPlace notLocked (Or.inl (by assumption))
  · rename_i notCanceled
    rw [Bool.not_eq_true] at notCanceled
    split
    · exact .took isPlace notLocked notCanceled (by assumption)
    · split
      · exact .left isPlace notLocked (Or.inr ⟨by assumption, by assumption⟩)
      · rename_i notFinished
        exact .slept isPlace notLocked ⟨by simpa using notFinished, notCanceled⟩
          (by assumption)

theorem leave_fires {index : Nat} {worker : Worker WorkUnit} {shouldContinue : Bool}
    (isPlace : state.WorkerIs index worker (.released shouldContinue))
    (notLocked : state.scanner = none) :
    Fires maxThreads state (.leave index) (state.leave index worker shouldContinue) := by
  cases shouldContinue with
  | true => exact .continued isPlace notLocked
  | false =>
      have stops : state.leave index worker false =
          (cancelLocked { state with idleThreads := state.idleThreads + 1 }).1.workerAt index
            { worker with place := .leaving true } := rfl
      rw [stops, cancelLocked]
      split
      · rename_i isFinished
        refine .stopped isPlace notLocked fun isOpen => ?_
        exact absurd (isFinished.symm.trans isOpen.notFinished) (by decide)
      · rename_i notFinished
        split
        · rename_i notCanceled
          exact .stoppedAll isPlace notLocked
            ⟨by simpa using notFinished, by simpa using notCanceled⟩
        · rename_i isCanceled
          refine .stopped isPlace notLocked fun isOpen => isCanceled ?_
          rw [isOpen.notCanceled]
          rfl

theorem work_fires {index : Nat} {worker : Worker WorkUnit}
    (found : state.workers[index]? = some worker)
    (acts : action = .enter index ∨ action = .rouse index ∨
      (∃ shouldContinue, action = .returnRun index shouldContinue) ∨
      action = .release index ∨ action = .leave index ∨ action = .exit index)
    (stepped : state.work index worker action = some next) :
    Fires maxThreads state action next := by
  obtain rfl | rfl | ⟨shouldContinue, rfl⟩ | rfl | rfl | rfl := acts
  · rw [work] at stepped
    split at stepped
    · obtain ⟨notLocked, same⟩ := Option.ite_none_right_eq_some.mp stepped
      cases same
      exact enter_fires ⟨found, by assumption⟩ (Option.isNone_iff_eq_none.mp notLocked)
    · cases stepped
  · rw [work] at stepped
    split at stepped
    · cases stepped
      exact .roused ⟨found, by assumption⟩
    · cases stepped
  · rw [work] at stepped
    split at stepped
    · obtain ⟨notInside, same⟩ := Option.ite_none_left_eq_some.mp stepped
      cases same
      exact .ran shouldContinue ⟨found, by assumption⟩ (by simpa using notInside)
    · cases stepped
  · rw [work] at stepped
    split at stepped
    · cases stepped
      exact .released ⟨found, by assumption⟩
    · cases stepped
  · rw [work] at stepped
    split at stepped
    · obtain ⟨notLocked, same⟩ := Option.ite_none_right_eq_some.mp stepped
      cases same
      exact leave_fires ⟨found, by assumption⟩ (Option.isNone_iff_eq_none.mp notLocked)
    · cases stepped
  · rw [work] at stepped
    split at stepped
    · cases stepped
      exact .exited ⟨found, by assumption⟩
    · cases stepped

/-- A step is one of the listed ones, and there was no crash before. -/
theorem step_fires (stepped : state.step maxThreads action = some next) :
    Fires maxThreads state action next ∧ state.crashed = false := by
  unfold step at stepped
  obtain ⟨notCrashed, stepped⟩ := Option.ite_none_left_eq_some.mp stepped
  refine ⟨?_, by simpa using notCrashed⟩
  cases action with
  | schedule caller unit backlog started =>
      obtain ⟨free, same⟩ := Option.ite_none_right_eq_some.mp stepped
      cases same
      exact schedule_fires (calls_of_free free)
  | resume caller =>
      dsimp only at stepped
      split at stepped
      · obtain ⟨notLocked, same⟩ := Option.ite_none_right_eq_some.mp stepped
        cases same
        exact resume_fires ⟨by assumption, Option.isNone_iff_eq_none.mp notLocked⟩
      · cases stepped
  | wake caller =>
      dsimp only at stepped
      split at stepped
      · cases stepped
        exact .woken (by assumption)
      · cases stepped
  | cancelAll caller =>
      obtain ⟨free, same⟩ := Option.ite_none_right_eq_some.mp stepped
      cases same
      exact cancelAll_fires (calls_of_free free)
  | cancel caller unit =>
      obtain ⟨free, same⟩ := Option.ite_none_right_eq_some.mp stepped
      cases same
      exact cancel_fires (calls_of_free free)
  | scan caller =>
      obtain ⟨scans, scanned⟩ := Option.ite_none_right_eq_some.mp stepped
      exact scan_fires scans scanned
  | finish caller self =>
      obtain ⟨free, same⟩ := Option.ite_none_right_eq_some.mp stepped
      obtain ⟨free, running⟩ := Bool.and_eq_true_iff.mp free
      cases same
      exact finish_fires (calls_of_free free) running
  | join caller =>
      dsimp only at stepped
      split at stepped
      · exact join_fires (by assumption) stepped
      · cases stepped
  | enter index | rouse index | returnRun index shouldContinue | release index | leave index
  | exit index =>
      obtain ⟨worker, found, worked⟩ := Option.bind_eq_some_iff.mp stepped
      exact work_fires found (by simp) worked

end State
end WorkQueue
end Skplat
