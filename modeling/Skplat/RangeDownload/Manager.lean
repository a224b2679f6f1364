import Mathlib.Data.Fintype.Basic
import Skplat.RangeDownload.Downloader

/-!
# The threads of a range manager

A `RangeManager` starts one thread for every range and waits in `wait4Complete`.  The
threads report to an observer whose callbacks hold `mMutex`.  A callback `onComplete`
that finds failures counted restarts the failed downloaders: it resets their ranges
and joins their threads while it holds the mutex.

The mutex is free between the steps, except while a thread is in that loop.  Every
`pthread_create` succeeds.
-/

namespace Skplat
namespace RangeManager

open RangeDownload (RangeState)

/-- Where a downloader's thread is. -/
inductive Pc (n : Nat)
  /-- `mRunning` is not set. -/
  | notRunning
  /-- In `threadLoop`. -/
  | working
  /-- The range is done, and `onComplete` waits for the mutex. -/
  | completing
  /-- The range is failed, and `onFailed` waits for the mutex. -/
  | failing
  /-- In `recoverFailedTask`, about to test this downloader. -/
  | testing (i : Nat)
  /-- In `recoverFailedTask`, in the `join` of this downloader's thread. -/
  | joining (i : Fin n)
  /-- `threadLoop` returned, and `mRunning` is still set. -/
  | returning
  deriving DecidableEq, Repr

/-- A downloader and its thread. -/
structure Worker (n : Nat) where
  /-- `mRg.state`. -/
  state : RangeState
  pc : Pc n
  /-- Calls of `run`. -/
  runs : Nat
  /-- Calls of `onComplete` and `onFailed` that got the mutex. -/
  calls : Nat
  deriving DecidableEq, Repr

/-- How a run ends. -/
inductive Outcome
  | succeeded
  | failed
  /-- The part file cannot be opened. -/
  | unopened
  deriving DecidableEq, Repr

/-- A manager and its downloaders. -/
structure Manager (n : Nat) where
  workers : Fin n → Worker n
  /-- `mCompleteCount`. -/
  completeCount : Nat
  /-- `mFailedCount`. -/
  failedCount : Nat
  /-- The thread that holds `mMutex` between the steps. -/
  mutex : Option (Fin n)
  /-- How many threads `start` has started. -/
  started : Nat
  /-- Whether `wait4Complete` returned `OK`, once it returned. -/
  returned : Option Bool

/-- A step of a thread. -/
inductive Action (n : Nat)
  | start
  | finish (k : Fin n) (outcome : Outcome)
  /-- A callback gets the mutex. -/
  | lock (k : Fin n)
  | test (k : Fin n)
  | joined (k : Fin n)
  | exit (k : Fin n)
  /-- The loop of `wait4Complete` ends.  The merged file may fail to open. -/
  | wait4Complete (opened : Bool)
  deriving DecidableEq, Repr

namespace Worker

variable {n : Nat}

/-- A downloader that was not started. -/
def new : Worker n where
  state := .rangeInit
  pc := .notRunning
  runs := 0
  calls := 0

/-- `run()`. -/
def run (worker : Worker n) : Worker n :=
  { worker with pc := .working, runs := worker.runs + 1 }

/-- The thread moves on. -/
def goto (worker : Worker n) (pc : Pc n) : Worker n :=
  { worker with pc := pc }

/-- The end of a run. -/
def finish (worker : Worker n) : Outcome → Worker n
  | .succeeded => { worker with state := .rangeDone, pc := .completing }
  | .failed => { worker with state := .rangeFailed, pc := .failing }
  | .unopened => worker.goto .returning

/-- A callback. -/
def call (worker : Worker n) (pc : Pc n) : Worker n :=
  { worker with pc := pc, calls := worker.calls + 1 }

/-- `mRg.reset()`. -/
def reset (worker : Worker n) : Worker n :=
  { worker with state := .rangeInit }

end Worker

namespace Manager

variable {n : Nat}

/-- A new manager. -/
def new : Manager n where
  workers := fun _ => .new
  completeCount := 0
  failedCount := 0
  mutex := none
  started := 0
  returned := none

/-- Replace a downloader. -/
def setWorker (manager : Manager n) (k : Fin n) (worker : Worker n) : Manager n :=
  { manager with workers := Function.update manager.workers k worker }

/-- `onComplete()` up to `recoverFailedTask`, or its end. -/
def onComplete (manager : Manager n) (k : Fin n) : Manager n :=
  let counted := { manager with completeCount := manager.completeCount + 1 }
  if manager.failedCount > 0 then
    { counted.setWorker k ((manager.workers k).call (.testing 0)) with mutex := some k }
  else counted.setWorker k ((manager.workers k).call .returning)

/-- `onFailed()`. -/
def onFailed (manager : Manager n) (k : Fin n) : Manager n :=
  { manager with failedCount := manager.failedCount + 1 }.setWorker k
    ((manager.workers k).call .returning)

/-- The body of the loop of `recoverFailedTask()` up to `join`, or the end of
`onComplete()`. -/
def testWorker (manager : Manager n) (k : Fin n) (i : Nat) : Manager n :=
  if inside : i < n then
    if (manager.workers ⟨i, inside⟩).state = .rangeFailed then
      (manager.setWorker ⟨i, inside⟩ (manager.workers ⟨i, inside⟩).reset).setWorker k
        ((manager.workers k).goto (.joining ⟨i, inside⟩))
    else manager.setWorker k ((manager.workers k).goto (.testing (i + 1)))
  else
    { manager.setWorker k ((manager.workers k).goto .returning) with
      failedCount := 0
      mutex := none }

/-- One step. -/
def step (manager : Manager n) : Action n → Option (Manager n)
  | .start =>
      if inside : manager.started < n then
        some { manager.setWorker ⟨manager.started, inside⟩
            (manager.workers ⟨manager.started, inside⟩).run with
          started := manager.started + 1 }
      else none
  | .finish k outcome =>
      if (manager.workers k).pc = .working then
        some (manager.setWorker k ((manager.workers k).finish outcome))
      else none
  | .lock k =>
      if manager.mutex = none then
        match (manager.workers k).pc with
        | .completing => some (manager.onComplete k)
        | .failing => some (manager.onFailed k)
        | _ => none
      else none
  | .test k =>
      match (manager.workers k).pc with
      | .testing i => some (manager.testWorker k i)
      | _ => none
  | .joined k =>
      match (manager.workers k).pc with
      | .joining i =>
          if (manager.workers i).pc = .notRunning then
            some ((manager.setWorker i (manager.workers i).run).setWorker k
              ((manager.workers k).goto (.testing (i + 1))))
          else none
      | _ => none
  | .exit k =>
      if (manager.workers k).pc = .returning then
        some (manager.setWorker k ((manager.workers k).goto .notRunning))
      else none
  | .wait4Complete opened =>
      if manager.started = n ∧ manager.mutex = none ∧ manager.returned = none ∧
          ¬manager.failedCount + manager.completeCount < n then
        some { manager with
          returned := some (opened && decide (manager.completeCount ≥ n)) }
      else none

attribute [grind =] step

end Manager

/-- The manager of that many ranges. -/
def system (n : Nat) : Machine (Manager n) (Action n) where
  initial := fun manager => manager = .new
  step := Manager.step

end RangeManager
end Skplat
