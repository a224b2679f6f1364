import Mathlib.Algebra.Ring.Nat
import Mathlib.Data.List.Basic
import Skplat.Machine.Basic

/-!
# `WorkQueue`

Callers hand work units to at most `mMaxThreads` threads, which take them in order.  A step
is a section under `mLock`, or what a thread does between two sections.  While `cancel` looks
for a unit among the running ones it holds `mLock`, but the threads clear `mRunningWork`
without it, so every access of the loop is a step of its own.

What a unit returns, whether a thread can be created, and spurious wake-ups are choices of the
action.  The number of accepted units before a unit tells it from other units with the same
object.
-/

namespace Skplat
namespace WorkQueue

/-- The results that are used. -/
inductive Status
  | ok
  | invalidOperation
  | nameNotFound
  | unknownError
  deriving DecidableEq, Repr

/-- A unit that was accepted. -/
structure Entry (WorkUnit : Type) where
  unit : WorkUnit
  /-- How many units were accepted before. -/
  ticket : Nat
  deriving DecidableEq, Repr

/-- Where a thread is in `threadLoop`. -/
inductive Place (WorkUnit : Type)
  /-- Before the first section, or woken in it. -/
  | entering
  /-- In `mWorkChangedCondition.wait`. -/
  | asleep
  | running (entry : Entry WorkUnit)
  /-- `run` has returned. -/
  | returned (entry : Entry WorkUnit) (shouldContinue : Bool)
  /-- `mRunningWork` is cleared; before the second section. -/
  | released (shouldContinue : Bool)
  /-- `threadLoop` has returned `false`, after a unit that asked for it or for another
  reason. -/
  | leaving (stopped : Bool)
  /-- `mRunning` is false. -/
  | exited (stopped : Bool)
  deriving DecidableEq, Repr

/-- A `WorkThread`. -/
structure Worker (WorkUnit : Type) where
  place : Place WorkUnit
  /-- `mRunningWork`. -/
  runningWork : Option WorkUnit
  deriving DecidableEq, Repr

/-- A new thread. -/
def Worker.new {WorkUnit : Type} : Worker WorkUnit where
  place := .entering
  runningWork := none

/-- Where a caller is. -/
inductive Call (WorkUnit : Type)
  /-- In no call; what the last one returned. -/
  | idle (result : Option Status)
  /-- `schedule` in `mWorkDequeuedCondition.wait`. -/
  | waiting (unit : WorkUnit) (limit : Nat)
  /-- `schedule`, woken. -/
  | resuming (unit : WorkUnit) (limit : Nat)
  /-- `cancel`, before the test of a thread. -/
  | scanning (unit : WorkUnit) (index : Nat)
  /-- The test was passed; before `mRunningWork->cancel()`. -/
  | cancelling (unit : WorkUnit) (index : Nat)
  /-- Before `mRunningWork` is cleared by `cancel`. -/
  | clearing (index : Nat)
  /-- `finish`, before or in `join` of a thread. -/
  | joining (index : Nat)
  deriving DecidableEq, Repr

/-- The thread is woken if it waits for work. -/
def Worker.notified {WorkUnit : Type} (worker : Worker WorkUnit) : Worker WorkUnit :=
  match worker.place with
  | .asleep => { worker with place := .entering }
  | _ => worker

/-- The caller is woken if it waits for room. -/
def Call.notified {WorkUnit : Type} : Call WorkUnit → Call WorkUnit
  | .waiting unit limit => .resuming unit limit
  | call => call

/-- The entry that the thread runs. -/
def Worker.inHand {WorkUnit : Type} (worker : Worker WorkUnit) : Option (Entry WorkUnit) :=
  match worker.place with
  | .running entry => some entry
  | _ => none

/-- The thread is counted as idle. -/
def Worker.isIdle {WorkUnit : Type} (worker : Worker WorkUnit) : Bool :=
  match worker.place with
  | .running _ | .returned _ _ | .released _ => false
  | _ => true

/-- The queue with its threads and callers, and what happened to the units. -/
structure State (Caller WorkUnit : Type) where
  /-- `mCanceled`. -/
  canceled : Bool
  /-- `mFinished`. -/
  finished : Bool
  /-- `mIdleThreads`. -/
  idleThreads : Nat
  /-- The size of `mWorkThreads`. -/
  workThreads : Nat
  /-- `mWorkUnits`. -/
  workUnits : List (Entry WorkUnit)
  /-- The threads that were created, in the order of `mWorkThreads`. -/
  workers : List (Worker WorkUnit)
  call : Caller → Call WorkUnit
  /-- The caller that holds `mLock` in a loop of `cancel`. -/
  scanner : Option Caller
  /-- `cancel()` was called on a null pointer. -/
  crashed : Bool
  /-- All units that were accepted. -/
  accepted : List WorkUnit
  /-- Entries that were taken by a thread. -/
  taken : List (Entry WorkUnit)
  /-- Entries whose `run` returned. -/
  completed : List (Entry WorkUnit)
  /-- Entries that `cancel` of a unit took out of the queue. -/
  removed : List (Entry WorkUnit)
  /-- Entries that were discarded when everything was cancelled. -/
  discarded : List (Entry WorkUnit)
  /-- The thread whose unit called `finish`, if it was called by one. -/
  finisher : Option Nat
  /-- `finish` has returned. -/
  joined : Bool

/-- A step. -/
inductive Action (Caller WorkUnit : Type)
  | schedule (caller : Caller) (unit : WorkUnit) (backlog : Nat) (started : Bool)
  /-- `schedule` goes on after its wait. -/
  | resume (caller : Caller)
  /-- `schedule` wakes up without a notification. -/
  | wake (caller : Caller)
  | cancelAll (caller : Caller)
  | cancel (caller : Caller) (unit : Option WorkUnit)
  /-- `cancel` goes on in its loop over the threads. -/
  | scan (caller : Caller)
  /-- `finish`, called by a unit of the given thread, or from elsewhere. -/
  | finish (caller : Caller) (self : Option Nat)
  /-- `finish` goes on in its loop over the threads. -/
  | join (caller : Caller)
  /-- The first section of `threadLoop`. -/
  | enter (index : Nat)
  /-- A thread wakes up without a notification. -/
  | rouse (index : Nat)
  | returnRun (index : Nat) (shouldContinue : Bool)
  | release (index : Nat)
  /-- The second section of `threadLoop`. -/
  | leave (index : Nat)
  | exit (index : Nat)
  deriving DecidableEq, Repr

namespace State

variable {Caller WorkUnit : Type} [DecidableEq Caller] [DecidableEq WorkUnit]

/-- The constructor. -/
def new : State Caller WorkUnit where
  canceled := false
  finished := false
  idleThreads := 0
  workThreads := 0
  workUnits := []
  workers := []
  call _ := .idle none
  scanner := none
  crashed := false
  accepted := []
  taken := []
  completed := []
  removed := []
  discarded := []
  finisher := none
  joined := false

/-- A caller is at another place. -/
def callAt (state : State Caller WorkUnit) (caller : Caller) (place : Call WorkUnit) :
    State Caller WorkUnit :=
  { state with call := Function.update state.call caller place }

/-- A caller returns. -/
def returns (state : State Caller WorkUnit) (caller : Caller) (status : Status) :
    State Caller WorkUnit :=
  state.callAt caller (.idle (some status))

/-- A thread is at another place. -/
def workerAt (state : State Caller WorkUnit) (index : Nat) (worker : Worker WorkUnit) :
    State Caller WorkUnit :=
  { state with workers := state.workers.set index worker }

/-- `mWorkChangedCondition.broadcast()`. -/
def workChanged (state : State Caller WorkUnit) : State Caller WorkUnit :=
  { state with workers := state.workers.map Worker.notified }

/-- `mWorkDequeuedCondition.broadcast()`. -/
def workDequeued (state : State Caller WorkUnit) : State Caller WorkUnit :=
  { state with call := fun caller => (state.call caller).notified }

/-- The end of `schedule`: the unit is added. -/
def accept (state : State Caller WorkUnit) (caller : Caller) (unit : WorkUnit) :
    State Caller WorkUnit :=
  let entry : Entry WorkUnit := ⟨unit, state.accepted.length⟩
  let state := { state with
    workUnits := state.workUnits ++ [entry]
    accepted := state.accepted ++ [unit] }
  state.workChanged.returns caller .ok

/-- A thread is created and added. -/
def addThread (state : State Caller WorkUnit) : State Caller WorkUnit :=
  { state with
    workers := state.workers ++ [.new]
    workThreads := state.workThreads + 1
    idleThreads := state.idleThreads + 1 }

/-- `mMaxThreads * backlog`, which is a `size_t`. -/
def limitOf (maxThreads backlog : Nat) : Nat := maxThreads * backlog % 2 ^ 64

/-- `schedule`. -/
def schedule
    (maxThreads : Nat) (state : State Caller WorkUnit) (caller : Caller) (unit : WorkUnit)
    (backlog : Nat) (started : Bool) : State Caller WorkUnit :=
  if state.finished || state.canceled then state.returns caller .invalidOperation
  else if state.workThreads < maxThreads ∧
      state.idleThreads < state.workUnits.length + 1 then
    if started then state.addThread.accept caller unit else state.returns caller .unknownError
  else if backlog ≠ 0 ∧ limitOf maxThreads backlog ≤ state.workUnits.length then
    state.callAt caller (.waiting unit (limitOf maxThreads backlog))
  else state.accept caller unit

/-- `schedule` after its wait. -/
def resume
    (state : State Caller WorkUnit) (caller : Caller) (unit : WorkUnit) (limit : Nat) :
    State Caller WorkUnit :=
  if state.finished || state.canceled then state.returns caller .invalidOperation
  else if limit ≤ state.workUnits.length then state.callAt caller (.waiting unit limit)
  else state.accept caller unit

/-- `mCanceled` is set, and the queue is cleared. -/
def discardAll (state : State Caller WorkUnit) : State Caller WorkUnit :=
  let state := { state with
    canceled := true
    discarded := state.discarded ++ state.workUnits
    workUnits := [] }
  state.workChanged.workDequeued

/-- `cancelLocked`. -/
def cancelLocked (state : State Caller WorkUnit) : State Caller WorkUnit × Status :=
  if state.finished then (state, .invalidOperation)
  else if !state.canceled then (state.discardAll, .ok)
  else (state, .ok)

/-- `cancel()`. -/
def cancelAll (state : State Caller WorkUnit) (caller : Caller) : State Caller WorkUnit :=
  state.cancelLocked.1.returns caller state.cancelLocked.2

/-- An entry is taken out of the queue. -/
def remove (state : State Caller WorkUnit) (unit : WorkUnit) (entry : Entry WorkUnit) :
    State Caller WorkUnit :=
  { state with
    workUnits := state.workUnits.eraseP fun entry => entry.unit = unit
    removed := state.removed ++ [entry] }

/-- `cancel(workUnit)` up to its loop over the threads. -/
def cancel (state : State Caller WorkUnit) (caller : Caller) (unit : Option WorkUnit) :
    State Caller WorkUnit :=
  match unit with
  | none => state.returns caller .invalidOperation
  | some unit =>
      if state.finished || state.canceled then state.returns caller .invalidOperation
      else
        match state.workUnits.find? fun entry => entry.unit = unit with
        | some entry => (state.remove unit entry).returns caller .ok
        | none =>
            { state.callAt caller (.scanning unit 0) with scanner := some caller }

/-- The accesses of `cancel(workUnit)` to `mRunningWork` of a thread. -/
def scan (state : State Caller WorkUnit) (caller : Caller) : Option (State Caller WorkUnit) :=
  match state.call caller with
  | .scanning unit index =>
      if index < state.workThreads then
        state.workers[index]?.map fun worker =>
          state.callAt caller
            (if worker.runningWork = some unit then .cancelling unit index
            else .scanning unit (index + 1))
      else
        some { (state.workChanged.workDequeued).returns caller .nameNotFound with
          scanner := none }
  | .cancelling _ index =>
      state.workers[index]?.map fun worker =>
        if worker.runningWork = none then { state with crashed := true }
        else state.callAt caller (.clearing index)
  | .clearing index =>
      state.workers[index]?.map fun worker =>
        { (state.workerAt index { worker with runningWork := none }).returns caller .ok with
          scanner := none }
  | _ => none

/-- `finish` up to its loop over the threads. -/
def finish (state : State Caller WorkUnit) (caller : Caller) (self : Option Nat) :
    State Caller WorkUnit :=
  if state.finished then state.returns caller .invalidOperation
  else
    let state := { state with finished := true, finisher := self }
    state.workChanged.callAt caller (.joining 0)

/-- `finish` joins a thread, which has to end first, or returns after the last one.  `join`
does not wait on the thread that it joins. -/
def join (state : State Caller WorkUnit) (caller : Caller) (index : Nat) :
    Option (State Caller WorkUnit) :=
  if index < state.workThreads then
    if state.finisher = some index then some (state.callAt caller (.joining (index + 1)))
    else
      match state.workers[index]?.map Worker.place with
      | some (.exited _) => some (state.callAt caller (.joining (index + 1)))
      | _ => none
  else some { state.returns caller .ok with workThreads := 0, joined := true }

/-- A thread takes the first entry. -/
def take
    (state : State Caller WorkUnit) (index : Nat) (entry : Entry WorkUnit)
    (rest : List (Entry WorkUnit)) : State Caller WorkUnit :=
  let state := { state with
    workUnits := rest
    idleThreads := state.idleThreads - 1
    taken := state.taken ++ [entry] }
  (state.workerAt index ⟨.running entry, some entry.unit⟩).workDequeued

/-- The first section of `threadLoop`. -/
def enter (state : State Caller WorkUnit) (index : Nat) (worker : Worker WorkUnit) :
    State Caller WorkUnit :=
  if state.canceled then state.workerAt index { worker with place := .leaving false }
  else
    match state.workUnits with
    | entry :: rest => state.take index entry rest
    | [] =>
        if state.finished then state.workerAt index { worker with place := .leaving false }
        else state.workerAt index { worker with place := .asleep }

/-- The second section of `threadLoop`. -/
def leave (state : State Caller WorkUnit) (index : Nat) (worker : Worker WorkUnit)
    (shouldContinue : Bool) : State Caller WorkUnit :=
  let state := { state with idleThreads := state.idleThreads + 1 }
  if !shouldContinue then
    state.cancelLocked.1.workerAt index { worker with place := .leaving true }
  else state.workerAt index { worker with place := .entering }

/-- `mLock` can be taken. -/
def unlocked (state : State Caller WorkUnit) : Bool := state.scanner.isNone

/-- The caller is in no call. -/
def isFree (state : State Caller WorkUnit) (caller : Caller) : Bool :=
  match state.call caller with
  | .idle _ => true
  | _ => false

/-- The thread runs a unit, which can call `finish`. -/
def isRunning (state : State Caller WorkUnit) (index : Nat) : Bool :=
  match state.workers[index]?.map Worker.place with
  | some (.running _) => true
  | _ => false

/-- The unit of the thread is in `finish`. -/
def inFinish (state : State Caller WorkUnit) (index : Nat) : Bool :=
  state.finisher == some index && !state.joined

/-- A step of a thread. -/
def work (state : State Caller WorkUnit) (index : Nat) (worker : Worker WorkUnit) :
    Action Caller WorkUnit → Option (State Caller WorkUnit)
  | .enter _ =>
      match worker.place with
      | .entering => if state.unlocked then some (state.enter index worker) else none
      | _ => none
  | .rouse _ =>
      match worker.place with
      | .asleep => some (state.workerAt index { worker with place := .entering })
      | _ => none
  | .returnRun _ shouldContinue =>
      match worker.place with
      | .running entry =>
          if state.inFinish index then none
          else
            some { state.workerAt index
                { worker with place := .returned entry shouldContinue } with
              completed := state.completed ++ [entry] }
      | _ => none
  | .release _ =>
      match worker.place with
      | .returned _ shouldContinue =>
          some (state.workerAt index ⟨.released shouldContinue, none⟩)
      | _ => none
  | .leave _ =>
      match worker.place with
      | .released shouldContinue =>
          if state.unlocked then some (state.leave index worker shouldContinue) else none
      | _ => none
  | .exit _ =>
      match worker.place with
      | .leaving stopped =>
          some (state.workerAt index { worker with place := .exited stopped })
      | _ => none
  | _ => none

/-- One step. -/
def step (maxThreads : Nat) (state : State Caller WorkUnit)
    (action : Action Caller WorkUnit) : Option (State Caller WorkUnit) :=
  if state.crashed then none
  else
    match action with
    | .schedule caller unit backlog started =>
        if state.isFree caller && state.unlocked then
          some (state.schedule maxThreads caller unit backlog started)
        else none
    | .resume caller =>
        match state.call caller with
        | .resuming unit limit =>
            if state.unlocked then some (state.resume caller unit limit) else none
        | _ => none
    | .wake caller =>
        match state.call caller with
        | .waiting unit limit => some (state.callAt caller (.resuming unit limit))
        | _ => none
    | .cancelAll caller =>
        if state.isFree caller && state.unlocked then some (state.cancelAll caller) else none
    | .cancel caller unit =>
        if state.isFree caller && state.unlocked then some (state.cancel caller unit) else none
    | .scan caller => if state.scanner = some caller then state.scan caller else none
    | .finish caller self =>
        if (state.isFree caller && state.unlocked) && self.all state.isRunning then
          some (state.finish caller self)
        else none
    | .join caller =>
        match state.call caller with
        | .joining index => state.join caller index
        | _ => none
    | .enter index | .rouse index | .returnRun index _ | .release index | .leave index
    | .exit index => state.workers[index]?.bind fun worker => state.work index worker action

end State

/-- The queue with any callers. -/
def system (Caller WorkUnit : Type) [DecidableEq Caller] [DecidableEq WorkUnit]
    (maxThreads : Nat) : Machine (State Caller WorkUnit) (Action Caller WorkUnit) where
  initial state := state = .new
  step := State.step maxThreads

end WorkQueue
end Skplat
