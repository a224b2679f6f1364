import Skplat.WorkQueue.Order

/-!
# `cancel` of a unit that runs

`cancel` tests `mRunningWork` of a thread and then calls `cancel()` on it, both under `mLock`.
The thread cannot take another unit in between, since it needs `mLock` for that, but it can
clear `mRunningWork`: then `cancel()` is called on a null pointer.
-/

namespace Skplat
namespace WorkQueue

variable {Caller WorkUnit : Type}

/-- The thread runs a unit, or `run` has returned, and `mRunningWork` is not cleared. -/
def Worker.Runs (worker : Worker WorkUnit) (unit : WorkUnit) : Prop :=
  worker.runningWork = some unit ∧ ∃ entry : Entry WorkUnit, entry.unit = unit ∧
    (worker.place = .running entry ∨
      ∃ shouldContinue, worker.place = .returned entry shouldContinue)

/-- The thread has cleared `mRunningWork` and has not got `mLock` again. -/
def Worker.HasReleased (worker : Worker WorkUnit) : Prop :=
  worker.runningWork = none ∧ ∃ shouldContinue, worker.place = .released shouldContinue

/-- A thread has a unit in `mRunningWork` only while it runs it, and what `cancel` found there
was not replaced. -/
structure CancelsFound (state : State Caller WorkUnit) : Prop where
  running : ∀ worker ∈ state.workers, ∀ unit, worker.runningWork = some unit →
    worker.Runs unit
  found : ∀ caller unit index, state.call caller = .cancelling unit index →
    state.scanner = some caller ∧ ∃ worker, state.workers[index]? = some worker ∧
      (worker.Runs unit ∨ worker.HasReleased)

variable {state next : State Caller WorkUnit}

theorem notified_eq_cancelling {call : Call WorkUnit} {unit : WorkUnit} {index : Nat}
    (place : call.notified = .cancelling unit index) : call = .cancelling unit index := by
  cases call with
  | waiting _ _ => cases place
  | _ => exact place

theorem Worker.Runs.notified {worker : Worker WorkUnit} {unit : WorkUnit}
    (runs : worker.notified.runningWork = some unit)
    (running : worker.runningWork = some unit → worker.Runs unit) :
    worker.notified.Runs unit := by
  obtain ⟨place, work⟩ := worker
  cases place with
  | asleep =>
      obtain ⟨-, entry, -, isRunning | ⟨_, isReturned⟩⟩ := running runs
      · cases isRunning
      · cases isReturned
  | _ => exact running runs

namespace CancelsFound

/-- The lock is free, and no caller gets to a running unit. -/
theorem of_unlocked (cancels : CancelsFound state)
    (running : ∀ worker ∈ next.workers, ∀ unit, worker.runningWork = some unit →
      worker.Runs unit)
    (unlocked : state.scanner = none)
    (old : ∀ caller unit index, next.call caller = .cancelling unit index →
      state.call caller = .cancelling unit index) : CancelsFound next where
  running := running
  found caller unit index place := by
    have locked := (cancels.found caller unit index (old caller unit index place)).1
    cases unlocked.symm.trans locked

/-- A thread is at another place. -/
theorem running_set (cancels : CancelsFound state) {index : Nat} {replaced : Worker WorkUnit}
    (running : ∀ unit, replaced.runningWork = some unit → replaced.Runs unit) :
    ∀ worker ∈ state.workers.set index replaced, ∀ unit, worker.runningWork = some unit →
      worker.Runs unit := by
  intro worker present
  obtain old | rfl := List.mem_or_eq_of_mem_set present
  · exact cancels.running worker old
  · exact running

theorem running_notified (cancels : CancelsFound state) :
    ∀ worker ∈ state.workers.map Worker.notified, ∀ unit,
      worker.runningWork = some unit → worker.Runs unit := by
  intro worker present unit runs
  obtain ⟨old, wasPresent, rfl⟩ := List.mem_map.mp present
  exact Worker.Runs.notified runs (cancels.running old wasPresent unit)

/-- While `cancel` has found a unit, a thread goes on without `mLock`. -/
theorem set (cancels : CancelsFound state) {index : Nat} {worker replaced : Worker WorkUnit}
    (found : state.workers[index]? = some worker)
    (workers : next.workers = state.workers.set index replaced)
    (call : next.call = state.call) (scanner : next.scanner = state.scanner)
    (running : ∀ unit, replaced.runningWork = some unit → replaced.Runs unit)
    (kept : ∀ unit, worker.Runs unit ∨ worker.HasReleased →
      replaced.Runs unit ∨ replaced.HasReleased) : CancelsFound next where
  running := workers ▸ cancels.running_set running
  found caller unit other place := by
    rw [call] at place
    obtain ⟨locked, old, isOld, holds⟩ := cancels.found caller unit other place
    refine ⟨scanner.trans locked, ?_⟩
    rw [workers]
    by_cases same : index = other
    · subst same
      obtain ⟨inside, -⟩ := List.getElem?_eq_some_iff.mp found
      cases found.symm.trans isOld
      exact ⟨replaced, List.getElem?_set_self inside, kept unit holds⟩
    · exact ⟨old, (List.getElem?_set_ne same).trans isOld, holds⟩

/-- A thread at another place runs nothing. -/
theorem noWork (cancels : CancelsFound state) {index : Nat} {worker : Worker WorkUnit}
    {place : Place WorkUnit} (isPlace : state.WorkerIs index worker place)
    (notRunning : ∀ entry, place ≠ .running entry)
    (notReturned : ∀ entry shouldContinue, place ≠ .returned entry shouldContinue)
    (unit : WorkUnit) : worker.runningWork ≠ some unit := by
  intro isWork
  obtain ⟨-, entry, -, isRunning | ⟨shouldContinue, isReturned⟩⟩ :=
    cancels.running worker (List.mem_of_getElem? isPlace.found) unit isWork
  · exact notRunning entry (isPlace.place.symm.trans isRunning)
  · exact notReturned entry shouldContinue (isPlace.place.symm.trans isReturned)

variable [DecidableEq Caller] {caller : Caller}

/-- A caller is at another place, but not before `cancel()`. -/
theorem callAt (cancels : CancelsFound state) {place : Call WorkUnit}
    (notCancelling : ∀ unit index, place ≠ .cancelling unit index) :
    CancelsFound (state.callAt caller place) where
  running := cancels.running
  found other unit index isCancelling := by
    obtain ⟨_, isPlace⟩ | ⟨_, old⟩ := update_cases isCancelling
    · exact absurd isPlace (notCancelling unit index)
    · exact cancels.found other unit index old

/-- The caller that held `mLock` returns from `cancel`. -/
theorem unlock (cancels : CancelsFound state) (scans : state.scanner = some caller)
    (status : Status)
    (running : ∀ worker ∈ next.workers, ∀ unit, worker.runningWork = some unit →
      worker.Runs unit)
    (old : ∀ other unit index, next.call other = .cancelling unit index →
      state.call other = .cancelling unit index) :
    CancelsFound { next.returns caller status with scanner := none } where
  running := running
  found other unit index place := by
    obtain ⟨_, isPlace⟩ | ⟨notSame, isOld⟩ := update_cases place
    · cases isPlace
    · have locked := (cancels.found other unit index (old other unit index isOld)).1
      exact absurd (Option.some_inj.mp (locked.symm.trans scans)) notSame

variable [DecidableEq WorkUnit] {maxThreads : Nat} {action : Action Caller WorkUnit}

theorem step (cancels : CancelsFound state)
    (fires : State.Fires maxThreads state action next) : CancelsFound next := by
  have returned {caller other : Caller} {status : Status} {unit : WorkUnit} {index : Nat}
      (place : Function.update state.call caller (.idle (some status)) other =
        .cancelling unit index) : state.call other = .cancelling unit index := by
    obtain ⟨_, isPlace⟩ | ⟨_, old⟩ := update_cases place
    · cases isPlace
    · exact old
  cases fires with
  | answered | blocked | blockedAgain | woken | passed | unitCanceled | joinedThread =>
      exact cancels.callAt nofun
  | grown calls isOpen =>
      refine cancels.of_unlocked (fun worker present unit isWork => ?_) calls.unlocked
        fun _ _ _ => returned
      obtain ⟨old, wasPresent, rfl⟩ := List.mem_map.mp present
      refine Worker.Runs.notified isWork fun isWork => ?_
      obtain present | isNew := List.mem_append.mp wasPresent
      · exact cancels.running old present unit isWork
      · rw [List.mem_singleton.mp isNew] at isWork
        cases isWork
  | admitted calls =>
      exact cancels.of_unlocked cancels.running_notified calls.unlocked
        fun _ _ _ => returned
  | admittedAgain resumes =>
      exact cancels.of_unlocked cancels.running_notified resumes.unlocked
        fun _ _ _ => returned
  | canceled calls =>
      refine cancels.of_unlocked cancels.running_notified calls.unlocked
        fun other unit index place => ?_
      obtain ⟨_, isPlace⟩ | ⟨_, old⟩ := update_cases place
      · cases isPlace
      · exact notified_eq_cancelling old
  | removed calls =>
      exact cancels.of_unlocked cancels.running calls.unlocked fun _ _ _ => returned
  | scanBegun calls =>
      refine cancels.of_unlocked cancels.running calls.unlocked fun other unit index place => ?_
      obtain ⟨_, isPlace⟩ | ⟨_, old⟩ := update_cases place
      · cases isPlace
      · exact old
  | @hit caller unit index worker scans place inside found isWork =>
      refine ⟨cancels.running, fun other wanted further isCancelling => ?_⟩
      obtain ⟨same, isPlace⟩ | ⟨_, old⟩ := update_cases isCancelling
      · cases isPlace
        refine ⟨same ▸ scans, worker, found, Or.inl ?_⟩
        exact cancels.running worker (List.mem_of_getElem? found) unit isWork
      · exact cancels.found other wanted further old
  | crash => exact ⟨cancels.running, cancels.found⟩
  | cleared scans => exact cancels.unlock scans _ (cancels.running_set nofun) fun _ _ _ => id
  | notFound scans =>
      exact cancels.unlock scans _ cancels.running_notified
        fun _ _ _ => notified_eq_cancelling
  | finishBegun calls =>
      refine cancels.of_unlocked cancels.running_notified calls.unlocked
        fun other unit index place => ?_
      obtain ⟨_, isPlace⟩ | ⟨_, old⟩ := update_cases place
      · cases isPlace
      · exact old
  | @finishReturned action caller index place =>
      have moved : CancelsFound (state.returns caller .ok) := cancels.callAt nofun
      exact ⟨moved.running, moved.found⟩
  | @took index worker entry rest isPlace notLocked =>
      refine cancels.of_unlocked (cancels.running_set fun unit isWork => ?_) notLocked
        fun _ _ _ => notified_eq_cancelling
      exact ⟨isWork, entry, Option.some_inj.mp isWork, Or.inl rfl⟩
  | slept isPlace notLocked | left isPlace notLocked | continued isPlace notLocked
  | stopped isPlace notLocked =>
      refine cancels.of_unlocked (cancels.running_set fun unit isWork => ?_) notLocked
        fun _ _ _ => id
      exact absurd isWork (cancels.noWork isPlace nofun nofun unit)
  | roused isPlace | exited isPlace =>
      have idle := cancels.noWork isPlace nofun nofun
      refine cancels.set isPlace.found rfl rfl rfl
        (fun unit isWork => absurd isWork (idle unit)) fun unit holds => ?_
      obtain runs | ⟨_, _, isReleased⟩ := holds
      · exact absurd runs.1 (idle unit)
      · cases isPlace.place.symm.trans isReleased
  | @ran index worker entry shouldContinue isPlace =>
      have returnedRuns : ∀ unit, worker.Runs unit →
          Worker.Runs { worker with place := .returned entry shouldContinue } unit := by
        rintro unit ⟨isWork, other, isUnit, isRunning | ⟨_, isReturned⟩⟩
        · cases isPlace.place.symm.trans isRunning
          exact ⟨isWork, entry, isUnit, Or.inr ⟨shouldContinue, rfl⟩⟩
        · cases isPlace.place.symm.trans isReturned
      refine cancels.set isPlace.found rfl rfl rfl (fun unit isWork => ?_) fun unit holds => ?_
      · exact returnedRuns unit
          (cancels.running worker (List.mem_of_getElem? isPlace.found) unit isWork)
      · obtain runs | ⟨_, _, isReleased⟩ := holds
        · exact Or.inl (returnedRuns unit runs)
        · cases isPlace.place.symm.trans isReleased
  | released isPlace =>
      exact cancels.set isPlace.found rfl rfl rfl nofun fun _ _ => Or.inr ⟨rfl, _, rfl⟩
  | @stoppedAll index worker isPlace notLocked =>
      have discarded : CancelsFound state.discardAll :=
        cancels.of_unlocked cancels.running_notified notLocked
          fun _ _ _ => notified_eq_cancelling
      refine cancels.of_unlocked (discarded.running_set fun unit isWork => ?_) notLocked
        fun _ _ _ => notified_eq_cancelling
      exact absurd isWork (cancels.noWork isPlace nofun nofun unit)

end CancelsFound

namespace State

variable [DecidableEq Caller] [DecidableEq WorkUnit]
variable {maxThreads : Nat} {action : Action Caller WorkUnit} {caller : Caller}

theorem cancelsFound_of_reachable
    (reached : (system Caller WorkUnit maxThreads).Reachable state) : CancelsFound state := by
  refine reached.invariant (fun start isStart => ?_) fun _ _ _ _ cancels _ stepped => ?_
  · cases isStart
    exact ⟨nofun, nofun⟩
  · exact cancels.step (step_fires stepped).1

/-- Before `cancel()` the thread runs the given unit, or has just cleared `mRunningWork`; and
the call crashes in the second case, and nowhere else. -/
theorem cancelsFound
    (maxThreads : Nat) (state : State Caller WorkUnit)
    (reached : (system Caller WorkUnit maxThreads).Reachable state) :
    CancelsFound state ∧
      ∀ action next, (system Caller WorkUnit maxThreads).step state action = some next →
        (next.crashed = true ↔ ∃ caller unit index worker, action = .scan caller ∧
          state.call caller = .cancelling unit index ∧
          state.workers[index]? = some worker ∧ worker.HasReleased) := by
  have cancels := cancelsFound_of_reachable reached
  refine ⟨cancels, fun action next stepped => ?_⟩
  obtain ⟨fires, notCrashed⟩ := step_fires stepped
  constructor
  · intro crashes
    cases fires with
    | @crash caller unit index worker scans place found isNull =>
        refine ⟨caller, unit, index, worker, rfl, place, found, ?_⟩
        obtain ⟨-, other, isFound, holds⟩ := cancels.found caller unit index place
        cases found.symm.trans isFound
        obtain runs | released := holds
        · cases isNull.symm.trans runs.1
        · exact released
    | _ => exact absurd (notCrashed.symm.trans crashes) (by decide)
  · rintro ⟨caller, unit, index, worker, rfl, place, found, isNull, -⟩
    have scans := (cancels.found caller unit index place).1
    have crashes : (system Caller WorkUnit maxThreads).step state (.scan caller) =
        some { state with crashed := true } := by
      simp [system, step, notCrashed, scans, scan, place, found, isNull]
    cases stepped.symm.trans crashes
    rfl

/-- The thread clears `mRunningWork` between the test and the call. -/
theorem cancelsFound_released :
    ∃ state : State Unit Nat, CancelsFound state ∧
      state.call () = .cancelling 7 0 ∧ state.workers = [⟨.released true, none⟩] := by
  have run : ((system Unit Nat 1).exec .new [
      .schedule () 7 2 true, .enter 0, .cancel () (some 7), .scan (), .returnRun 0 true,
      .release 0]).map (fun state => decide (state.call () = .cancelling 7 0 ∧
        state.workers = [⟨.released true, none⟩])) = some true := by
    decide
  obtain ⟨state, -, reached, isEnd⟩ := Machine.exists_reachable_of_exec rfl run
  exact ⟨state, (cancelsFound 1 state reached).1, of_decide_eq_true isEnd⟩

end State
end WorkQueue
end Skplat
