import Skplat.Machine.Basic
import Mathlib.Data.Fintype.Basic

/-!
# `TaskInfo::wait`

All tasks share one mutex and one condition.  `wait` tests the state of its task under
the mutex, sets `mWaiting` and sleeps; `onStatesChange` writes the state, reads
`mWaiting` and signals without the mutex.  Any number of threads wait for any tasks while
any number of calls of `onStatesChange` are in progress; the scheduler, the thread that a
signal wakes and spurious wake-ups are choices of the action.

A wake-up is lost when the task is finished between the test and the sleep, when another
thread that waited for the same task has cleared `mWaiting`, and when the signal wakes
another thread.
-/

namespace Skplat
namespace TaskInfo

/-- `TASK_INFO_STATE`. -/
inductive TaskState
  | idle
  | init
  | conn
  | conned
  | send
  | sended
  | recv
  | done
  | fail
  | max
  deriving DecidableEq, Repr

/-- `wait` returns in these states. -/
def TaskState.final : TaskState → Bool
  | .done | .fail => true
  | _ => false

/-- Where a thread is in `wait`. -/
inductive Wait (Task : Type)
  /-- Not in `wait`. -/
  | out
  /-- Before the mutex is locked. -/
  | entering (task : Task)
  /-- Before the state is compared with `TASK_STATE_DONE`. -/
  | testing (task : Task)
  /-- Before the state is compared with `TASK_STATE_FAIL`. -/
  | notDone (task : Task)
  /-- In the loop, before `mWaiting` is set. -/
  | tested (task : Task)
  /-- Before the sleep. -/
  | flagged (task : Task)
  /-- Asleep without the mutex, and not signalled. -/
  | asleep (task : Task)
  /-- Signalled, before the mutex is locked again. -/
  | woken (task : Task)
  /-- After the loop, before `mWaiting` is cleared. -/
  | leaving (task : Task)
  /-- Before the mutex is unlocked. -/
  | unlocking (task : Task)
  deriving DecidableEq, Repr

/-- The thread sleeps and is not signalled. -/
def Wait.isAsleep {Task : Type} : Wait Task → Bool
  | .asleep _ => true
  | _ => false

/-- Where a call of `onStatesChange` is. -/
inductive Call (Task : Type)
  /-- There is none. -/
  | idle
  /-- The state is written; before `mListener` is read. -/
  | stored (task : Task)
  /-- Before the state is compared with `TASK_STATE_INIT`. -/
  | testInit (task : Task)
  /-- Before the state is compared with `TASK_STATE_DONE`. -/
  | testDone (task : Task)
  /-- Before the state is compared with `TASK_STATE_FAIL`. -/
  | testFail (task : Task)
  /-- Before `mWaiting` is read. -/
  | readFlag (task : Task)
  /-- Without a listener, before `mWaiting` is read. -/
  | flagFirst (task : Task)
  /-- `mWaiting` was set; before the state is compared with `TASK_STATE_FAIL`. -/
  | flaggedFail (task : Task)
  /-- Before the state is compared with `TASK_STATE_DONE`. -/
  | flaggedDone (task : Task)
  /-- Before `notifyTask` signals. -/
  | signalling (task : Task)
  /-- Before the call of the listener, or before the return. -/
  | finishing (task : Task)
  deriving DecidableEq, Repr

namespace Call

variable {Task : Type}

/-- The task of a call. -/
def task : Call Task → Option Task
  | .idle => none
  | .stored task | .testInit task | .testDone task | .testFail task | .readFlag task
  | .flagFirst task | .flaggedFail task | .flaggedDone task | .signalling task
  | .finishing task => some task

/-- The call has neither signalled nor decided not to. -/
def beforeSignal : Call Task → Bool
  | .idle | .finishing _ => false
  | _ => true

/-- The final state that the call has found the task not to be in. -/
def excluded : Call Task → Option TaskState
  | .testFail _ => some .done
  | .flaggedDone _ => some .fail
  | _ => none

/-- The steps of `onStatesChange` other than the first one and the signal, with what they
read: whether there is a listener, the state and `mWaiting`. -/
def next (listener : Bool) (state : TaskState) (waiting : Bool) :
    Call Task → Option (Call Task)
  | .stored task => some (if listener then .testInit task else .flagFirst task)
  | .testInit task => some (if state = .init then .finishing task else .testDone task)
  | .testDone task => some (if state = .done then .readFlag task else .testFail task)
  | .testFail task => some (if state = .fail then .readFlag task else .finishing task)
  | .readFlag task => some (if waiting then .signalling task else .finishing task)
  | .flagFirst task => some (if waiting then .flaggedFail task else .finishing task)
  | .flaggedFail task =>
      some (if state = .fail then .signalling task else .flaggedDone task)
  | .flaggedDone task =>
      some (if state = .done then .signalling task else .finishing task)
  | .finishing _ => some .idle
  | .idle | .signalling _ => none

/-- What a step of `onStatesChange` does in view of a finished task: it stays before the
signal unless it reads `mWaiting` as cleared. -/
theorem next_spec
    {listener waiting : Bool} {state : TaskState} {call place : Call Task} {task : Task}
    (onTask : call.task = some task)
    (stepped : call.next listener state waiting = some place) :
    (place.task = some task ∨ place = .idle) ∧ place.excluded ≠ some state ∧
      (state.final = true → call.excluded ≠ some state → call.beforeSignal = true →
        place.beforeSignal = true ∨
          (waiting = false ∧ (call = .readFlag task ∨ call = .flagFirst task))) := by
  cases call with
  | idle => cases onTask
  | signalling _ => cases stepped
  | finishing _ =>
      cases stepped
      exact ⟨Or.inr rfl, by simp [excluded], fun _ _ absurdity => by cases absurdity⟩
  | stored _ =>
      cases onTask
      cases stepped
      cases listener with
      | true => simp [Call.task, excluded, beforeSignal]
      | false => simp [Call.task, excluded, beforeSignal]
  | testInit _ =>
      cases onTask
      cases stepped
      cases state with
      | init => simp [Call.task, excluded, TaskState.final]
      | _ => simp [Call.task, excluded, beforeSignal]
  | testDone _ =>
      cases onTask
      cases stepped
      cases state with
      | done => simp [Call.task, excluded, beforeSignal]
      | _ => simp [Call.task, excluded, beforeSignal]
  | testFail _ =>
      cases onTask
      cases stepped
      cases state with
      | fail => simp [Call.task, excluded, beforeSignal]
      | _ => simp [Call.task, excluded, TaskState.final]
  | flaggedFail _ =>
      cases onTask
      cases stepped
      cases state with
      | fail => simp [Call.task, excluded, beforeSignal]
      | _ => simp [Call.task, excluded, beforeSignal]
  | flaggedDone _ =>
      cases onTask
      cases stepped
      cases state with
      | done => simp [Call.task, excluded, beforeSignal]
      | _ => simp [Call.task, excluded, TaskState.final]
  | readFlag _ =>
      cases onTask
      cases stepped
      cases waiting with
      | true => simp [Call.task, excluded, beforeSignal]
      | false => simp [Call.task, excluded]
  | flagFirst _ =>
      cases onTask
      cases stepped
      cases waiting with
      | true => simp [Call.task, excluded, beforeSignal]
      | false => simp [Call.task, excluded]

end Call

/-- The tasks, the threads that wait and the calls of `onStatesChange`. -/
structure State (Task Caller : Type) (n : ℕ) where
  /-- `mTaskState`. -/
  taskState : Task → TaskState
  /-- `mWaiting`. -/
  waiting : Task → Bool
  /-- The thread that holds `gTaskMutex`. -/
  mutex : Option (Fin n)
  wait : Fin n → Wait Task
  call : Caller → Call Task
  /-- The call that wrote the state of a task. -/
  writer : Task → Option Caller

/-- A step of the system. -/
inductive Action (Task Caller : Type) (n : ℕ)
  /-- A thread calls `wait`. -/
  | enter (thread : Fin n) (task : Task)
  /-- A thread goes on in `wait`. -/
  | proceed (thread : Fin n)
  /-- A thread wakes up without a signal. -/
  | spurious (thread : Fin n)
  /-- `onStatesChange` is called and writes the state. -/
  | change (caller : Caller) (task : Task) (state : TaskState)
  /-- A call of `onStatesChange` goes on. -/
  | goOn (caller : Caller)
  /-- `notifyTask` signals, and a thread is woken if one sleeps. -/
  | signal (caller : Caller) (woken : Option (Fin n))

variable {Task Caller : Type} [DecidableEq Task] [DecidableEq Caller] {n : ℕ}

namespace State

/-- Nothing has happened. -/
def new : State Task Caller n where
  taskState _ := .idle
  waiting _ := false
  mutex := none
  wait _ := .out
  call _ := .idle
  writer _ := none

/-- A thread is at another place. -/
def waitAt (state : State Task Caller n) (thread : Fin n) (place : Wait Task) :
    State Task Caller n :=
  { state with wait := Function.update state.wait thread place }

/-- A call is at another place. -/
def callAt (state : State Task Caller n) (caller : Caller) (place : Call Task) :
    State Task Caller n :=
  { state with call := Function.update state.call caller place }

/-- The steps of `wait`. -/
def proceed (state : State Task Caller n) (thread : Fin n) :
    Option (State Task Caller n) :=
  match state.wait thread with
  | .out | .asleep _ => none
  | .entering task | .woken task =>
      if state.mutex = none then
        some { state.waitAt thread (.testing task) with mutex := some thread }
      else none
  | .testing task =>
      some (state.waitAt thread
        (if state.taskState task = .done then .leaving task else .notDone task))
  | .notDone task =>
      some (state.waitAt thread
        (if state.taskState task = .fail then .leaving task else .tested task))
  | .tested task =>
      some { state.waitAt thread (.flagged task) with
        waiting := Function.update state.waiting task true }
  | .flagged task =>
      some { state.waitAt thread (.asleep task) with mutex := none }
  | .leaving task =>
      some { state.waitAt thread (.unlocking task) with
        waiting := Function.update state.waiting task false }
  | .unlocking _ =>
      some { state.waitAt thread .out with mutex := none }

/-- A sleeping thread is woken. -/
def wake (state : State Task Caller n) (thread : Fin n) : Option (State Task Caller n) :=
  match state.wait thread with
  | .asleep task => some (state.waitAt thread (.woken task))
  | _ => none

/-- `mTaskState = state`. -/
def change (state : State Task Caller n) (caller : Caller) (task : Task)
    (value : TaskState) : State Task Caller n :=
  { state.callAt caller (.stored task) with
    taskState := Function.update state.taskState task value
    writer := Function.update state.writer task (some caller) }

/-- The other steps of `onStatesChange`. -/
def goOn (listener : Task → Bool) (state : State Task Caller n) (caller : Caller) :
    Option (State Task Caller n) :=
  (state.call caller).task.bind fun task =>
    ((state.call caller).next (listener task) (state.taskState task)
      (state.waiting task)).map (state.callAt caller)

/-- `gTaskConditon.signal()`: one of the sleeping threads is woken, if there is one. -/
def signal (state : State Task Caller n) (caller : Caller) (woken : Option (Fin n)) :
    Option (State Task Caller n) :=
  match state.call caller with
  | .signalling task =>
      match woken with
      | some thread => (state.callAt caller (.finishing task)).wake thread
      | none =>
          if ∀ thread, (state.wait thread).isAsleep = false then
            some (state.callAt caller (.finishing task))
          else none
  | _ => none

/-- The steps of the system.  Which tasks have a listener does not change. -/
def next (listener : Task → Bool) (state : State Task Caller n) :
    Action Task Caller n → Option (State Task Caller n)
  | .enter thread task =>
      if state.wait thread = .out then some (state.waitAt thread (.entering task)) else none
  | .proceed thread => state.proceed thread
  | .spurious thread => state.wake thread
  | .change caller task value =>
      if state.call caller = .idle then some (state.change caller task value) else none
  | .goOn caller => state.goOn listener caller
  | .signal caller woken => state.signal caller woken

end State

/-- Threads and calls on tasks of which some have a listener. -/
def system (Caller : Type) [DecidableEq Caller] (n : ℕ) (listener : Task → Bool) :
    Machine (State Task Caller n) (Action Task Caller n) where
  initial state := state = .new
  step := State.next listener

namespace State

/-- No thread sleeps un-signalled in `wait` of a finished task after all calls of
`onStatesChange` for the task have returned. -/
def NeverStranded (state : State Task Caller n) : Prop :=
  ∀ task thread, state.wait thread = .asleep task →
    (state.taskState task).final = true →
    ∃ caller, (state.call caller).task = some task

/-- The call that wrote the state of the task has not decided about the signal. -/
def pending (state : State Task Caller n) (task : Task) : Bool :=
  (state.writer task).any fun caller =>
    (state.call caller).task = some task && (state.call caller).beforeSignal

/-- A thread that goes to sleep: the task is not finished, or the call that finished it
has yet to decide about the signal. -/
def SleepsInTime (state : State Task Caller n) : Wait Task → Prop
  | .flagged task => (state.taskState task).final = true → state.pending task = true
  | _ => True

/-- A call that finished a task reads `mWaiting`: it is set if a thread sleeps. -/
def SeesWaiter (state : State Task Caller n) (caller : Caller) : Call Task → Prop
  | .readFlag task | .flagFirst task =>
      state.writer task = some caller → (state.taskState task).final = true →
        state.waiting task = true ∨ ∀ thread, state.wait thread ≠ .asleep task
  | _ => True

/-- A call that finished a task signals: no thread but the woken one sleeps for the
task. -/
def WakesWaiter (state : State Task Caller n) (caller : Caller) (woken : Option (Fin n)) :
    Call Task → Prop
  | .signalling task =>
      state.writer task = some caller → (state.taskState task).final = true →
        ∀ thread, state.wait thread = .asleep task → woken = some thread
  | _ => True

/-- No wake-up is lost at the step. -/
def KeepsWakeUp (state : State Task Caller n) : Action Task Caller n → Prop
  | .proceed thread => state.SleepsInTime (state.wait thread)
  | .goOn caller => state.SeesWaiter caller (state.call caller)
  | .signal caller woken => state.WakesWaiter caller woken (state.call caller)
  | _ => True

instance (state : State Task Caller n) : DecidablePred state.SleepsInTime
  | .flagged task =>
      inferInstanceAs (Decidable ((state.taskState task).final = true →
        state.pending task = true))
  | .out | .entering _ | .testing _ | .notDone _ | .tested _ | .asleep _ | .woken _
  | .leaving _ | .unlocking _ => isTrue trivial

instance (state : State Task Caller n) (caller : Caller) :
    DecidablePred (state.SeesWaiter caller)
  | .readFlag task | .flagFirst task =>
      inferInstanceAs (Decidable (state.writer task = some caller →
        (state.taskState task).final = true →
          state.waiting task = true ∨ ∀ thread, state.wait thread ≠ .asleep task))
  | .idle | .stored _ | .testInit _ | .testDone _ | .testFail _ | .flaggedFail _
  | .flaggedDone _ | .signalling _ | .finishing _ => isTrue trivial

instance (state : State Task Caller n) (caller : Caller) (woken : Option (Fin n)) :
    DecidablePred (state.WakesWaiter caller woken)
  | .signalling task =>
      inferInstanceAs (Decidable (state.writer task = some caller →
        (state.taskState task).final = true →
          ∀ thread, state.wait thread = .asleep task → woken = some thread))
  | .idle | .stored _ | .testInit _ | .testDone _ | .testFail _ | .readFlag _
  | .flagFirst _ | .flaggedFail _ | .flaggedDone _ | .finishing _ => isTrue trivial

instance (state : State Task Caller n) : DecidablePred state.KeepsWakeUp
  | .proceed thread => inferInstanceAs (Decidable (state.SleepsInTime (state.wait thread)))
  | .goOn caller =>
      inferInstanceAs (Decidable (state.SeesWaiter caller (state.call caller)))
  | .signal caller woken =>
      inferInstanceAs (Decidable (state.WakesWaiter caller woken (state.call caller)))
  | .enter _ _ | .spurious _ | .change _ _ _ => isTrue trivial

omit [DecidableEq Caller] in
/-- The call that a pending signal is expected of. -/
theorem pending_iff
    {state : State Task Caller n} {task : Task} :
    state.pending task = true ↔
      ∃ caller, state.writer task = some caller ∧
        (state.call caller).task = some task ∧
        (state.call caller).beforeSignal = true := by
  simp [pending, Option.any_eq_true]

/-- What a step of `wait` leaves alone, and when a thread falls asleep in it. -/
structure Proceeds (state : State Task Caller n) (thread : Fin n)
    (next : State Task Caller n) : Prop where
  taskState : next.taskState = state.taskState
  call : next.call = state.call
  writer : next.writer = state.writer
  wait : ∃ place, next.wait = Function.update state.wait thread place ∧
    ∀ task, place = .asleep task → state.wait thread = .flagged task

omit [DecidableEq Caller] in
/-- The steps of `wait` have this form. -/
theorem proceeds_of_proceed
    {state next : State Task Caller n} {thread : Fin n}
    (stepped : state.proceed thread = some next) :
    state.Proceeds thread next := by
  unfold State.proceed at stepped
  split at stepped
  · cases stepped
  · cases stepped
  · split at stepped
    · cases stepped
      exact ⟨rfl, rfl, rfl, _, rfl, fun _ absurdity => by cases absurdity⟩
    · cases stepped
  · split at stepped
    · cases stepped
      exact ⟨rfl, rfl, rfl, _, rfl, fun _ absurdity => by cases absurdity⟩
    · cases stepped
  · cases stepped
    refine ⟨rfl, rfl, rfl, _, rfl, ?_⟩
    intro task asleep
    split at asleep
    · cases asleep
    · cases asleep
  · cases stepped
    refine ⟨rfl, rfl, rfl, _, rfl, ?_⟩
    intro task asleep
    split at asleep
    · cases asleep
    · cases asleep
  · cases stepped
    exact ⟨rfl, rfl, rfl, _, rfl, fun _ absurdity => by cases absurdity⟩
  · rename_i task located
    cases stepped
    refine ⟨rfl, rfl, rfl, _, rfl, ?_⟩
    intro other asleep
    cases asleep
    exact located
  · cases stepped
    exact ⟨rfl, rfl, rfl, _, rfl, fun _ absurdity => by cases absurdity⟩
  · cases stepped
    exact ⟨rfl, rfl, rfl, _, rfl, fun _ absurdity => by cases absurdity⟩

/-- A thread that sleeps for a finished task can count on the call that finished it.
That call compares the state it has written itself. -/
structure Inv (state : State Task Caller n) : Prop where
  covered : ∀ task thread, state.wait thread = .asleep task →
    (state.taskState task).final = true → state.pending task = true
  compared : ∀ task caller, state.writer task = some caller →
    (state.call caller).task = some task →
    (state.call caller).excluded ≠ some (state.taskState task)

omit [DecidableEq Task] [DecidableEq Caller] in
theorem inv_new [DecidableEq Task] : (State.new : State Task Caller n).Inv where
  covered _ _ absurdity := by cases absurdity
  compared _ _ absurdity := by cases absurdity

namespace Inv

variable {state next : State Task Caller n}

omit [DecidableEq Caller] in
/-- A step after which no thread sleeps that did not sleep before, or whose signal is
pending. -/
theorem waiters
    (inv : state.Inv)
    (taskState : next.taskState = state.taskState)
    (call : next.call = state.call)
    (writer : next.writer = state.writer)
    (sleepers : ∀ task thread, next.wait thread = .asleep task →
      (state.taskState task).final = true →
      state.wait thread = .asleep task ∨ state.pending task = true) :
    next.Inv where
  covered task thread asleep final := by
    rw [taskState] at final
    have same : next.pending task = state.pending task := by
      simp only [State.pending, call, writer]
    rw [same]
    cases sleepers task thread asleep final with
    | inl before => exact inv.covered task thread before final
    | inr pending => exact pending
  compared := by
    rw [taskState, call, writer]
    exact inv.compared

omit [DecidableEq Caller] in
/-- A step of `wait`. -/
theorem proceed
    (inv : state.Inv)
    {thread : Fin n}
    (inTime : state.SleepsInTime (state.wait thread))
    (stepped : state.proceed thread = some next) :
    next.Inv := by
  obtain ⟨taskState, call, writer, place, wait, falls⟩ := proceeds_of_proceed stepped
  apply inv.waiters taskState call writer
  intro task other asleep final
  rw [wait] at asleep
  obtain ⟨_, isPlace⟩ | ⟨_, before⟩ := update_cases asleep
  · right
    rw [falls task isPlace] at inTime
    exact inTime final
  · exact Or.inl before

omit [DecidableEq Task] [DecidableEq Caller] in
/-- Which threads sleep after one was woken. -/
theorem asleep_of_wake
    {thread other : Fin n} {task : Task}
    (stepped : state.wake thread = some next)
    (asleep : next.wait other = .asleep task) :
    other ≠ thread ∧ state.wait other = .asleep task := by
  unfold State.wake at stepped
  split at stepped
  · cases stepped
    obtain ⟨_, absurdity⟩ | before := update_cases asleep
    · cases absurdity
    · exact before
  · cases stepped

omit [DecidableEq Task] [DecidableEq Caller] in
/-- What a wake-up leaves alone. -/
theorem same_of_wake
    {thread : Fin n}
    (stepped : state.wake thread = some next) :
    next.taskState = state.taskState ∧ next.call = state.call ∧
      next.writer = state.writer := by
  unfold State.wake at stepped
  split at stepped
  · cases stepped
    exact ⟨rfl, rfl, rfl⟩
  · cases stepped

/-- The state of a task is written. -/
theorem change
    (inv : state.Inv)
    {caller : Caller}
    (idle : state.call caller = .idle)
    (task : Task) (value : TaskState) :
    (state.change caller task value).Inv := by
  have moved : ∀ {other : Caller}, other ≠ caller →
      (state.change caller task value).call other = state.call other :=
    fun different => Function.update_of_ne different _ _
  have stored : (state.change caller task value).call caller = .stored task :=
    Function.update_self _ _ _
  constructor
  · intro other thread asleep final
    rw [pending_iff]
    by_cases same : other = task
    · subst same
      refine ⟨caller, Function.update_self _ _ _, ?_, ?_⟩
      · rw [stored]
        rfl
      · rw [stored]
        rfl
    · have unchanged : (state.change caller task value).taskState other =
          state.taskState other := Function.update_of_ne same _ _
      have before : (state.taskState other).final = true := unchanged ▸ final
      obtain ⟨writer, isWriter, onTask, decides⟩ :=
        pending_iff.mp (inv.covered other thread asleep before)
      have different : writer ≠ caller := by
        rintro rfl
        rw [idle] at onTask
        cases onTask
      refine ⟨writer, ?_, ?_, ?_⟩
      · exact (Function.update_of_ne same _ _).trans isWriter
      · rw [moved different]
        exact onTask
      · rw [moved different]
        exact decides
  · intro other writer isWriter onTask
    by_cases self : writer = caller
    · subst self
      rw [stored]
      exact fun absurdity => by cases absurdity
    · rw [moved self] at onTask ⊢
      obtain ⟨_, absurdity⟩ | ⟨different, before⟩ := update_cases isWriter
      · cases absurdity
        exact absurd rfl self
      · show _ ≠ some (Function.update state.taskState task value other)
        rw [Function.update_of_ne different]
        exact inv.compared other writer before onTask

/-- A call goes on: whenever it has written the state of its task and the task is
finished, it is still to decide about the signal, or no thread sleeps for the task. -/
theorem callAt
    (inv : state.Inv)
    {caller : Caller} {task : Task} {place : Call Task}
    (onTask : (state.call caller).task = some task)
    (sameTask : place.task = some task ∨ place = .idle)
    (decides : state.writer task = some caller →
      (state.taskState task).final = true →
      (state.call caller).beforeSignal = true →
      place.beforeSignal = true ∨ ∀ thread, state.wait thread ≠ .asleep task)
    (compared : place.excluded ≠ some (state.taskState task)) :
    (state.callAt caller place).Inv := by
  have moved : ∀ {other : Caller}, other ≠ caller →
      (state.callAt caller place).call other = state.call other :=
    fun different => Function.update_of_ne different _ _
  have placed : (state.callAt caller place).call caller = place :=
    Function.update_self _ _ _
  constructor
  · intro other thread asleep final
    obtain ⟨writer, isWriter, onOther, before⟩ :=
      pending_iff.mp (inv.covered other thread asleep final)
    rw [pending_iff]
    by_cases self : writer = caller
    · subst self
      rw [onTask] at onOther
      cases onOther
      cases decides isWriter final before with
      | inl still =>
          refine ⟨writer, isWriter, ?_, ?_⟩
          · rw [placed]
            cases sameTask with
            | inl same => exact same
            | inr isIdle =>
                rw [isIdle] at still
                cases still
          · rw [placed]
            exact still
      | inr nobody => exact absurd asleep (nobody thread)
    · refine ⟨writer, isWriter, ?_, ?_⟩
      · rw [moved self]
        exact onOther
      · rw [moved self]
        exact before
  · intro other writer isWriter onOther
    by_cases self : writer = caller
    · subst self
      rw [placed] at onOther ⊢
      cases sameTask with
      | inl same =>
          rw [same] at onOther
          cases onOther
          exact compared
      | inr isIdle =>
          rw [isIdle] at onOther
          cases onOther
    · rw [moved self] at onOther ⊢
      exact inv.compared other writer isWriter onOther

/-- A step of `onStatesChange` other than the first one and the signal. -/
theorem goOn
    (inv : state.Inv)
    {listener : Task → Bool} {caller : Caller}
    (sees : state.SeesWaiter caller (state.call caller))
    (stepped : state.goOn listener caller = some next) :
    next.Inv := by
  obtain ⟨task, onTask, moved⟩ := Option.bind_eq_some_iff.mp stepped
  obtain ⟨place, isPlace, rfl⟩ := Option.map_eq_some_iff.mp moved
  obtain ⟨sameTask, compared, stays⟩ := Call.next_spec onTask isPlace
  refine inv.callAt onTask sameTask ?_ compared
  intro isWriter final before
  cases stays final (inv.compared task caller isWriter onTask) before with
  | inl still => exact Or.inl still
  | inr reads =>
      obtain ⟨cleared, reading⟩ := reads
      right
      have seen : state.waiting task = true ∨
          ∀ thread, state.wait thread ≠ .asleep task := by
        cases reading with
        | inl atFlag =>
            rw [atFlag] at sees
            exact sees isWriter final
        | inr atFlag =>
            rw [atFlag] at sees
            exact sees isWriter final
      cases seen with
      | inl set =>
          rw [set] at cleared
          cases cleared
      | inr nobody => exact nobody

/-- The signal. -/
theorem signal
    (inv : state.Inv)
    {caller : Caller} {woken : Option (Fin n)}
    (wakes : state.WakesWaiter caller woken (state.call caller))
    (stepped : state.signal caller woken = some next) :
    next.Inv := by
  unfold State.signal at stepped
  split at stepped
  · rename_i task signalling
    rw [signalling] at wakes
    have onTask : (state.call caller).task = some task := by rw [signalling]; rfl
    cases woken with
    | some thread =>
        have commutes : (state.callAt caller (.finishing task)).wake thread =
            (state.wake thread).map fun woken =>
              woken.callAt caller (.finishing task) := by
          unfold State.wake State.callAt
          simp only
          split
          · rfl
          · rfl
        simp only [commutes] at stepped
        obtain ⟨middle, isMiddle, rfl⟩ := Option.map_eq_some_iff.mp stepped
        obtain ⟨taskState, call, writer⟩ := same_of_wake isMiddle
        have middleInv : middle.Inv := by
          apply inv.waiters taskState call writer
          intro other thread asleep _
          exact Or.inl (asleep_of_wake isMiddle asleep).2
        have middleTask : (middle.call caller).task = some task := by
          rw [call]
          exact onTask
        apply middleInv.callAt middleTask (Or.inl rfl)
        · intro isWriter final _
          right
          intro other asleep
          obtain ⟨different, before⟩ := asleep_of_wake isMiddle asleep
          rw [writer] at isWriter
          rw [taskState] at final
          have chosen := wakes isWriter final other before
          cases chosen
          exact different rfl
        · exact fun absurdity => by cases absurdity
    | none =>
        simp only at stepped
        split at stepped
        · rename_i nobody
          cases stepped
          apply inv.callAt onTask (Or.inl rfl)
          · intro _ _ _
            right
            intro thread asleep
            have awake := nobody thread
            rw [asleep] at awake
            cases awake
          · exact fun absurdity => by cases absurdity
        · cases stepped
  · cases stepped

/-- Every step at which no wake-up is lost. -/
theorem step
    (inv : state.Inv)
    {listener : Task → Bool} {action : Action Task Caller n}
    (keeps : state.KeepsWakeUp action)
    (stepped : state.next listener action = some next) :
    next.Inv := by
  cases action with
  | enter thread task =>
      simp only [State.next, Option.ite_none_right_eq_some] at stepped
      obtain ⟨_, isNext⟩ := stepped
      cases isNext
      refine inv.waiters ?_ ?_ ?_ ?_
      · rfl
      · rfl
      · rfl
      intro other thread asleep _
      obtain ⟨_, absurdity⟩ | ⟨_, before⟩ := update_cases asleep
      · cases absurdity
      · exact Or.inl before
  | proceed thread => exact inv.proceed keeps stepped
  | spurious thread =>
      obtain ⟨taskState, call, writer⟩ := same_of_wake stepped
      apply inv.waiters taskState call writer
      intro task other asleep _
      exact Or.inl (asleep_of_wake stepped asleep).2
  | change caller task value =>
      simp only [State.next, Option.ite_none_right_eq_some] at stepped
      obtain ⟨idle, isNext⟩ := stepped
      cases isNext
      exact inv.change idle task value
  | goOn caller => exact inv.goOn keeps stepped
  | signal caller woken => exact inv.signal keeps stepped

omit [DecidableEq Caller] in
/-- The invariant covers the sleeping threads. -/
theorem neverStranded
    (inv : state.Inv) :
    state.NeverStranded := by
  intro task thread asleep final
  obtain ⟨caller, _, onTask, _⟩ := pending_iff.mp (inv.covered task thread asleep final)
  exact ⟨caller, onTask⟩

end Inv
end State

/-- In every run in which no wake-up is lost at a step, no thread is stranded in
`wait`. -/
theorem neverStranded_of_keepsWakeUp
    {listener : Task → Bool} {state : State Task Caller n}
    (reached : (system Caller n listener).ReachableUnder State.KeepsWakeUp state) :
    state.NeverStranded := by
  have inv : state.Inv := by
    refine reached.invariant ?_ ?_
    · intro start isNew
      cases isNew
      exact State.inv_new
    · intro state action next _ inv keeps stepped
      exact inv.step keeps stepped
  exact inv.neverStranded

/-- A thread sleeps for the task, and the task is done: the call sees `mWaiting` and
wakes the thread. -/
def finishedAsleep : List (Action Unit Unit 6) :=
  [.enter 0 (), .proceed 0, .proceed 0, .proceed 0, .proceed 0, .proceed 0,
    .change () () .done, .goOn (), .goOn (), .goOn (), .goOn (), .signal () (some 0)]

/-- The thread is woken. -/
theorem neverStranded_finishedAsleep :
    ∃ state, (system Unit 6 fun _ : Unit => true).ReachableUnder State.KeepsWakeUp state ∧
      state.taskState () = .done ∧ state.wait 0 = .woken () ∧ state.NeverStranded := by
  obtain ⟨state, reached, holds⟩ := Machine.ReachableUnder.exists_of_execUnder
    (.initial rfl : (system Unit 6 fun _ : Unit => true).ReachableUnder
      State.KeepsWakeUp .new)
    (by decide +kernel : ((system Unit 6 fun _ : Unit => true).execUnder
      State.KeepsWakeUp .new finishedAsleep).map (fun state =>
        decide (state.taskState () = .done ∧ state.wait 0 = .woken ())) = some true)
  obtain ⟨done, woken⟩ := of_decide_eq_true holds
  exact ⟨state, reached, done, woken, neverStranded_of_keepsWakeUp reached⟩

/-- The task is done after the thread has tested its state and before it sets
`mWaiting`. -/
def finishedInWindow : List (Action Unit Unit 6) :=
  [.enter 0 (), .proceed 0, .proceed 0, .proceed 0, .change () () .done, .goOn (),
    .goOn (), .goOn (), .goOn (), .goOn (), .proceed 0, .proceed 0]

/-- Two threads sleep for two tasks; the first task is done, and the signal wakes the
thread of the second. -/
def otherWoken : List (Action Bool Unit 6) :=
  [.enter 0 false, .proceed 0, .proceed 0, .proceed 0, .proceed 0, .proceed 0,
    .enter 1 true, .proceed 1, .proceed 1, .proceed 1, .proceed 1, .proceed 1,
    .change () false .done, .goOn (), .goOn (), .goOn (), .goOn (), .signal () (some 1),
    .goOn ()]

/-- In both runs the call has returned, the task is done, and the thread sleeps. -/
theorem stranded_runs :
    (∃ state, (system Unit 6 fun _ : Unit => true).exec .new finishedInWindow =
        some state ∧
      (system Unit 6 fun _ : Unit => true).Reachable state ∧
      state.taskState () = .done ∧ state.call () = .idle ∧ state.wait 0 = .asleep () ∧
      ¬state.NeverStranded) ∧
    (∃ state, (system Unit 6 fun _ : Bool => true).exec .new otherWoken = some state ∧
      (system Unit 6 fun _ : Bool => true).Reachable state ∧
      state.taskState false = .done ∧ state.call () = .idle ∧
      state.wait 0 = .asleep false ∧ ¬state.NeverStranded) := by
  constructor
  · obtain ⟨state, executed, reached, holds⟩ := Machine.exists_reachable_of_exec
      (show (system Unit 6 fun _ : Unit => true).initial .new from rfl)
      (by decide +kernel : ((system Unit 6 fun _ : Unit => true).exec .new
        finishedInWindow).map (fun state => decide (state.taskState () = .done ∧
          state.call () = .idle ∧ state.wait 0 = .asleep ())) = some true)
    obtain ⟨done, idle, asleep⟩ := of_decide_eq_true holds
    refine ⟨state, executed, reached, done, idle, asleep, ?_⟩
    intro never
    obtain ⟨caller, onTask⟩ := never () 0 asleep (by rw [done]; rfl)
    rw [idle] at onTask
    cases onTask
  · obtain ⟨state, executed, reached, holds⟩ := Machine.exists_reachable_of_exec
      (show (system Unit 6 fun _ : Bool => true).initial .new from rfl)
      (by decide +kernel : ((system Unit 6 fun _ : Bool => true).exec .new
        otherWoken).map (fun state => decide (state.taskState false = .done ∧
          state.call () = .idle ∧ state.wait 0 = .asleep false)) = some true)
    obtain ⟨done, idle, asleep⟩ := of_decide_eq_true holds
    refine ⟨state, executed, reached, done, idle, asleep, ?_⟩
    intro never
    obtain ⟨caller, onTask⟩ := never false 0 asleep (by rw [done]; rfl)
    rw [idle] at onTask
    cases onTask

end TaskInfo
end Skplat
