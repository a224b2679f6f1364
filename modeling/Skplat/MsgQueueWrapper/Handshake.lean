import Skplat.MsgQueue.Trims

/-!
# Starting and stopping the loop thread

`MsgQueueWrapper::init_msg_queue` creates the queue and starts the loop thread;
`reset_msg_queue` calls `quit`, deletes the queue and only then joins the
thread.  The wrapper's mutex keeps the two apart, and the queue's own state is
the system of `MsgQueue.System` with a single loop thread.

`quit` returns as soon as it finds `exit_done` set.  That is the case from the
construction of the queue until the thread takes the queue's mutex for the first
time, and again from the end of the loop on, before its last notification.  A
`quit` that tests `exit_done` outside these two windows returns only when the
thread is done with the queue.
-/

namespace Skplat
namespace MsgQueueWrapper

open MsgQueue

/-- Where the loop thread stands.  Inside `enter_timer_loop` the flag tells
whether it has taken the queue's mutex at least once. -/
inductive ThreadPc
  | none
  | started
  | checked
  | inside (locked : Bool)
  | ended
  deriving DecidableEq, Repr

/-- Where the call of `reset_msg_queue` stands that holds the wrapper's
mutex. -/
inductive ResetPc
  | free
  | quitting
  | returned
  | deleted
  deriving DecidableEq, Repr

/-- A wrapper with its queue and its loop thread. -/
structure Wrapper where
  /-- Whether the wrapper runs a loop thread. -/
  needThread : Bool
  /-- `msg_queue` is not null. -/
  alive : Bool
  /-- The queue it points to, or last pointed to. -/
  queue : State 1
  /-- The loop thread. -/
  thread : ThreadPc
  /-- The call that holds the wrapper's mutex. -/
  reset : ResetPc

/-- One step of the wrapper, of its loop thread or of another thread that uses
the queue. -/
inductive WrapperAction
  | init
  | threadCheck
  | threadEnter
  | threadLoop (action : Action 1)
  | resetBegin
  | resetQuit (action : Action 1)
  | resetDelete
  | resetJoin
  | call (action : Action 1)

/-- Steps of a loop thread inside one of the loops. -/
def inLoop : Action 1 → Bool
  | .loopTest _ | .loopEnter _ _ | .loopWake _ _ | .loopReturn _ | .loopFinish _
  | .loopNotify _ => true
  | _ => false

/-- The step takes the mutex at the top of the loop. -/
def locks : Action 1 → Bool
  | .loopEnter _ _ => true
  | _ => false

/-- Steps of `quit` after it has set `exit`, made by call 0. -/
def inQuit : Action 1 → Bool
  | .quitCheck client | .quitPush client _ | .quitWait client => client == 0
  | _ => false

/-- Steps of other calls on the queue. -/
def inCall : Action 1 → Bool
  | .sendCheck client _ | .sendPush client _ | .waitBegin client _
  | .waitCheck client => client != 0
  | .edit _ | .addHandler _ _ => true
  | _ => false

namespace Wrapper

/-- `new MsgQueue` with its default handler. -/
def newQueue : State 1 :=
  { State.new 1 with queue := Queue.new.addHandler defaultHandlerId false }

/-- `init_msg_queue`. -/
def init (wrapper : Wrapper) : Wrapper :=
  { wrapper with
    alive := true
    queue := if wrapper.alive then wrapper.queue else newQueue
    thread := if wrapper.thread = .none && wrapper.needThread then .started
      else wrapper.thread }

/-- The steps of the wrapper.  The thread reads `msg_queue` twice without the
wrapper's mutex, and its steps on a queue that has been deleted stay possible
so that they can be ruled out. -/
def step (wrapper : Wrapper) : WrapperAction → Option Wrapper
  | .init => if wrapper.reset = .free then some wrapper.init else Option.none
  | .threadCheck =>
      if wrapper.thread = .started then
        some { wrapper with
          thread := if wrapper.alive then .checked else .ended }
      else Option.none
  | .threadEnter =>
      if wrapper.thread = .checked then
        (wrapper.queue.step (.loopBegin 0 .enterTimerLoop)).map fun queue =>
          { wrapper with queue := queue, thread := .inside false }
      else Option.none
  | .threadLoop action =>
      match wrapper.thread with
      | .inside locked =>
          if inLoop action then
            (wrapper.queue.step action).map fun queue =>
              { wrapper with
                queue := queue
                thread := if queue.loops 0 = .idle then .ended
                  else .inside (locked || locks action) }
          else Option.none
      | _ => Option.none
  | .resetBegin =>
      if wrapper.reset = .free then
        if wrapper.alive then
          (wrapper.queue.step (.quitBegin 0)).map fun queue =>
            { wrapper with queue := queue, reset := .quitting }
        else some { wrapper with reset := .deleted }
      else Option.none
  | .resetQuit action =>
      if wrapper.reset = .quitting && inQuit action then
        (wrapper.queue.step action).map fun queue =>
          { wrapper with
            queue := queue
            reset := if queue.clients 0 = .quitReturned then .returned
              else .quitting }
      else Option.none
  | .resetDelete =>
      if wrapper.reset = .returned then
        some { wrapper with
          alive := false
          queue := { wrapper.queue with
            queue := { wrapper.queue.queue with exit := true }.clear }
          reset := .deleted }
      else Option.none
  | .resetJoin =>
      if wrapper.reset = .deleted ∧
          (wrapper.thread = .none ∨ wrapper.thread = .ended) then
        some { wrapper with thread := .none, reset := .free }
      else Option.none
  | .call action =>
      if wrapper.alive && inCall action then
        (wrapper.queue.step action).map fun queue =>
          { wrapper with queue := queue }
      else Option.none

end Wrapper

/-- A new wrapper. -/
def Wrapper.new (needThread : Bool) : Wrapper where
  needThread := needThread
  alive := false
  queue := .new 1
  thread := .none
  reset := .free

/-- The wrapper as a system, with or without a loop thread. -/
def system : Machine Wrapper WrapperAction where
  initial := fun wrapper => ∃ needThread, wrapper = .new needThread
  step := Wrapper.step

/-- The step is made by the loop thread and reads or writes the queue. -/
def WrapperAction.touchesQueue : WrapperAction → Bool
  | .threadEnter | .threadLoop _ => true
  | _ => false

/-- `quit` has returned and the thread has not been joined yet. -/
def ResetPc.quitDone : ResetPc → Bool
  | .returned | .deleted => true
  | _ => false

attribute [grind =] ResetPc.quitDone

/-- Once `quit` has returned, no step of the loop thread touches the queue. -/
def QuietAfterQuit (wrapper : Wrapper) : Prop :=
  wrapper.reset.quitDone = true → ∀ action next,
    system.step wrapper action = some next → action.touchesQueue = false

/-- The thread has been started and has not taken the queue's mutex yet. -/
def ThreadPc.beforeLock : ThreadPc → Bool
  | .started | .checked | .inside false => true
  | _ => false

/-- `quit` does not test `exit_done` before the thread's first lock, nor between
the end of its loop and its last notification. -/
def TestsOutsideWindows (wrapper : Wrapper) : WrapperAction → Prop
  | .resetQuit (.quitWait _) =>
      wrapper.thread.beforeLock = false ∧ wrapper.queue.loops 0 ≠ .notifying
  | _ => True

instance (wrapper : Wrapper) : DecidablePred (TestsOutsideWindows wrapper)
  | .resetQuit action =>
      match action with
      | .quitWait _ => inferInstanceAs (Decidable
          (wrapper.thread.beforeLock = false ∧
            wrapper.queue.loops 0 ≠ .notifying))
      | .sendCheck _ _ | .sendPush _ _ | .edit _ | .addHandler _ _
      | .waitBegin _ _ | .waitCheck _ | .quitBegin _ | .quitCheck _
      | .quitPush _ _ | .loopBegin _ _ | .loopTest _ | .loopEnter _ _
      | .loopWake _ _ | .loopReturn _ | .loopFinish _ | .loopNotify _ =>
          .isTrue trivial
  | .init | .threadCheck | .threadEnter | .threadLoop _ | .resetBegin
  | .resetDelete | .resetJoin | .call _ => .isTrue trivial

/-! ## Steps of the queue -/

/-- Outside the loops nothing changes `exit_done` or moves the loop thread, apart
from a notification. -/
theorem fires_of_client
    {state next : State 1} {action : Action 1}
    (fires : Fires state action next)
    (ofClient : inQuit action = true ∨ inCall action = true ∨
      ∃ client, action = .quitBegin client) :
    next.queue.exitDone = state.queue.exitDone ∧
      (state.loops 0 = .notifying → next.loops 0 = .notifying) := by
  cases fires with
  | client source move => exact ⟨rfl, id⟩
  | push source call pushed =>
      refine ⟨by simp [State.log, pushed.queue, State.setClient, Queue.push], ?_⟩
      intro notifying
      have notified := pushed.loops_single
      simpa [State.log, State.setClient, notifying, LoopPc.notifyMsg]
        using notified
  | quitBegin idle => exact ⟨rfl, id⟩
  | edit => exact ⟨by simp, id⟩
  | addHandler =>
      refine ⟨?_, id⟩
      simp only [Queue.addHandler]
      split <;> rfl
  | loopMove source move => cases move <;> simp [inQuit, inCall] at ofClient
  | loopSection source ran => cases ran <;> simp [inQuit, inCall] at ofClient
  | loopFinish finishing => simp [inQuit, inCall] at ofClient
  | loopNotify notifying => simp [inQuit, inCall] at ofClient

/-- `quit` returns only when it finds `exit_done` set. -/
theorem exitDone_of_quitReturned
    {state next : State 1} {action : Action 1}
    (fires : Fires state action next)
    (quits : inQuit action = true)
    (returned : next.clients 0 = .quitReturned) :
    (∃ client, action = .quitWait client) ∧ state.queue.exitDone = true := by
  cases fires with
  | @client action client source pc events source move =>
      cases move with
      | quitDone done => exact ⟨⟨client, rfl⟩, done⟩
      | _ =>
          simp_all [inQuit, State.log, State.setClient]
  | @push action client woken msg source pc events pushed source call pushedBy =>
      cases call with
      | send => simp [inQuit] at quits
      | quit =>
          obtain rfl : client = 0 := by simpa [inQuit] using quits
          simp [State.log, pushedBy.clients, State.setClient] at returned
  | loopMove source move => cases move <;> simp [inQuit] at quits
  | loopSection source ran => cases ran <;> simp [inQuit] at quits
  | _ => simp [inQuit] at quits

/-- Inside the loop `exit_done` is clear from the first lock until the loop has
ended. -/
theorem exitDone_of_inLoop
    {state next : State 1} {action : Action 1}
    (fires : Fires state action next)
    (inside : inLoop action = true)
    (locked : locks action = true ∨ state.queue.exitDone = false ∨
      state.loops 0 = .notifying)
    (running : next.loops 0 ≠ .idle) :
    next.queue.exitDone = false ∨ next.loops 0 = .notifying := by
  have clear : ∀ {pc : LoopPc}, state.loops 0 = pc → pc ≠ .notifying →
      locks action = false → state.queue.exitDone = false := by
    rintro pc rfl notNotifying noLock
    simpa [noLock, notNotifying] using locked
  cases fires with
  | @loopMove action thread source pc sourceEq move =>
      obtain rfl : thread = 0 := Subsingleton.elim _ _
      refine Or.inl ?_
      cases move with
      | begin => simp [inLoop] at inside
      | pass passes => exact clear sourceEq (by simp) rfl
      | leave fails => exact clear sourceEq (by simp) rfl
  | @loopSection action thread source outcome sourceEq ran =>
      obtain rfl : thread = 0 := Subsingleton.elim _ _
      refine Or.inl (ran.exitDone ?_)
      cases ran with
      | enter entered => exact Or.inl ⟨_, _, rfl⟩
      | wake entered defined => exact Or.inr (clear sourceEq (by simp) rfl)
      | resume returned => exact Or.inr (clear sourceEq (by simp) rfl)
  | @loopFinish thread finishing =>
      obtain rfl : thread = 0 := Subsingleton.elim _ _
      exact Or.inr (by simp [State.setLoop])
  | @loopNotify thread notifying =>
      obtain rfl : thread = 0 := Subsingleton.elim _ _
      simp [State.setLoop] at running
  | client source move => cases move <;> simp [inLoop] at inside
  | push source call pushed => cases call <;> simp [inLoop] at inside
  | _ => simp [inLoop] at inside

/-! ## The handshake -/

/-- The invariant of the handshake. -/
structure Handshake (wrapper : Wrapper) : Prop where
  /-- From its first lock until its loop has ended, the thread keeps `exit_done`
  clear. -/
  locked : wrapper.thread = .inside true →
    wrapper.queue.queue.exitDone = false ∨ wrapper.queue.loops 0 = .notifying
  /-- When `quit` has returned the thread is gone. -/
  done : wrapper.reset.quitDone = true →
    wrapper.thread = .none ∨ wrapper.thread = .ended
  /-- Without a queue there is no thread, except while it is being joined. -/
  joined : wrapper.reset = .free → wrapper.alive = false →
    wrapper.thread = .none

namespace Handshake

variable {wrapper next : Wrapper}

theorem init (handshake : Handshake wrapper) (free : wrapper.reset = .free) :
    Handshake wrapper.init where
  locked := by
    intro inside
    have insideBefore : wrapper.thread = .inside true := by
      simp only [Wrapper.init] at inside
      split at inside
      · cases inside
      · exact inside
    cases alive : wrapper.alive with
    | true =>
        simp only [Wrapper.init, alive, if_true]
        exact handshake.locked insideBefore
    | false =>
        rw [handshake.joined free alive] at insideBefore
        cases insideBefore
  done := by simp [Wrapper.init, free, ResetPc.quitDone]
  joined := by simp [Wrapper.init]

/-- While the thread runs, `quit` has not returned and the queue exists. -/
theorem not_done_of_thread
    (handshake : Handshake wrapper)
    (isRunning : wrapper.thread ≠ .none)
    (notEnded : wrapper.thread ≠ .ended) :
    wrapper.reset.quitDone = false ∧
      ¬ (wrapper.reset = .free ∧ wrapper.alive = false) := by
  constructor
  · cases quitDone : wrapper.reset.quitDone with
    | false => rfl
    | true =>
        rcases handshake.done quitDone with none | ended
        · exact absurd none isRunning
        · exact absurd ended notEnded
  · rintro ⟨free, deleted⟩
    exact isRunning (handshake.joined free deleted)

/-- Steps of the thread, from the point it stands at. -/
theorem of_thread
    (handshake : Handshake wrapper)
    (isRunning : wrapper.thread ≠ .none)
    (notEnded : wrapper.thread ≠ .ended)
    {queue : State 1} {thread : ThreadPc}
    (locked : thread = .inside true →
      queue.queue.exitDone = false ∨ queue.loops 0 = .notifying) :
    Handshake { wrapper with queue := queue, thread := thread } := by
  have notDone := handshake.not_done_of_thread isRunning notEnded
  refine ⟨locked, ?_, ?_⟩
  · intro quitDone
    simp [notDone.1] at quitDone
  · intro free deleted
    exact absurd ⟨free, deleted⟩ notDone.2

/-- Steps of other calls on the queue. -/
theorem locked_of_client
    (handshake : Handshake wrapper)
    {queue : State 1} {action : Action 1}
    (stepped : wrapper.queue.step action = some queue)
    (ofClient : inQuit action = true ∨ inCall action = true ∨
      ∃ client, action = .quitBegin client) :
    wrapper.thread = .inside true →
      queue.queue.exitDone = false ∨ queue.loops 0 = .notifying := by
  intro inside
  obtain ⟨sameExitDone, keepsNotifying⟩ :=
    fires_of_client (State.step_fires stepped) ofClient
  rcases handshake.locked inside with clear | notifying
  · exact Or.inl (sameExitDone.trans clear)
  · exact Or.inr (keepsNotifying notifying)

/-- Outside the two windows `exit_done` says that the thread is gone. -/
theorem gone_of_exitDone
    (handshake : Handshake wrapper)
    (afterLock : wrapper.thread.beforeLock = false)
    (notNotifying : wrapper.queue.loops 0 ≠ .notifying)
    (exitDone : wrapper.queue.queue.exitDone = true) :
    wrapper.thread = .none ∨ wrapper.thread = .ended := by
  cases thread : wrapper.thread with
  | none => exact Or.inl rfl
  | ended => exact Or.inr rfl
  | started => simp [thread, ThreadPc.beforeLock] at afterLock
  | checked => simp [thread, ThreadPc.beforeLock] at afterLock
  | inside locked =>
      cases locked with
      | false => simp [thread, ThreadPc.beforeLock] at afterLock
      | true =>
          rcases handshake.locked thread with clear | notifying
          · simp [exitDone] at clear
          · exact absurd notifying notNotifying

/-- A step of the thread inside the loop. -/
theorem threadLoop
    (handshake : Handshake wrapper)
    {action : Action 1} {queue : State 1} {locked : Bool}
    (thread : wrapper.thread = .inside locked)
    (inside : inLoop action = true)
    (ran : wrapper.queue.step action = some queue) :
    Handshake { wrapper with
      queue := queue
      thread := if queue.loops 0 = .idle then .ended
        else .inside (locked || locks action) } := by
  refine handshake.of_thread (by simp [thread]) (by simp [thread]) ?_
  intro stillInside
  split at stillInside
  · cases stillInside
  · rename_i running
    refine exitDone_of_inLoop (State.step_fires ran) inside ?_ running
    simp only [ThreadPc.inside.injEq, Bool.or_eq_true] at stillInside
    rcases stillInside with rfl | locks
    · exact Or.inr (handshake.locked thread)
    · exact Or.inl locks

/-- The start of `quit`. -/
theorem resetBegin
    (handshake : Handshake wrapper)
    {queue : State 1}
    (began : wrapper.queue.step (.quitBegin 0) = some queue) :
    Handshake { wrapper with queue := queue, reset := .quitting } where
  locked := handshake.locked_of_client began (Or.inr (Or.inr ⟨0, rfl⟩))
  done := by simp [ResetPc.quitDone]
  joined := by simp

/-- A step of `quit`.  It returns through the test of `exit_done`, which says that
the thread is gone. -/
theorem resetQuit
    (handshake : Handshake wrapper)
    {action : Action 1} {queue : State 1}
    (quits : inQuit action = true)
    (outside : TestsOutsideWindows wrapper (.resetQuit action))
    (ran : wrapper.queue.step action = some queue) :
    Handshake { wrapper with
      queue := queue
      reset := if queue.clients 0 = .quitReturned then .returned
        else .quitting } where
  locked := handshake.locked_of_client ran (Or.inl quits)
  done := by
    intro quitDone
    by_cases returned : queue.clients 0 = .quitReturned
    · obtain ⟨⟨client, rfl⟩, exitDone⟩ :=
        exitDone_of_quitReturned (State.step_fires ran) quits returned
      exact handshake.gone_of_exitDone outside.1 outside.2 exitDone
    · simp [returned, ResetPc.quitDone] at quitDone
  joined := by
    intro free
    split at free <;> cases free

/-- The queue is deleted only when `quit` has returned. -/
theorem resetDelete
    (handshake : Handshake wrapper)
    (returned : wrapper.reset = .returned)
    {queue : State 1} :
    Handshake { wrapper with
      alive := false, queue := queue, reset := .deleted } := by
  have done := handshake.done (by simp [returned, ResetPc.quitDone])
  refine ⟨?_, fun _ => done, by simp⟩
  intro inside
  rcases done with none | ended
  · simp [none] at inside
  · simp [ended] at inside

/-- One step of a run that tests `exit_done` outside the windows. -/
theorem step
    (handshake : Handshake wrapper)
    {action : WrapperAction}
    (outside : TestsOutsideWindows wrapper action)
    (stepped : wrapper.step action = some next) :
    Handshake next := by
  cases action with
  | init =>
      simp only [Wrapper.step] at stepped
      split at stepped
      · rename_i free
        cases stepped
        exact handshake.init free
      · cases stepped
  | threadCheck =>
      simp only [Wrapper.step] at stepped
      split at stepped
      · rename_i started
        cases stepped
        refine handshake.of_thread (by simp [started]) (by simp [started]) ?_
        intro inside
        split at inside <;> cases inside
      · cases stepped
  | threadEnter =>
      simp only [Wrapper.step] at stepped
      split at stepped
      · rename_i checked
        obtain ⟨queue, _, rfl⟩ := Option.map_eq_some_iff.mp stepped
        exact handshake.of_thread (by simp [checked]) (by simp [checked])
          (by simp)
      · cases stepped
  | threadLoop action =>
      cases thread : wrapper.thread with
      | inside locked =>
          simp only [Wrapper.step, thread] at stepped
          split at stepped
          · rename_i inside
            obtain ⟨queue, ran, rfl⟩ := Option.map_eq_some_iff.mp stepped
            exact handshake.threadLoop thread inside ran
          · cases stepped
      | _ => simp [Wrapper.step, thread] at stepped
  | resetBegin =>
      simp only [Wrapper.step] at stepped
      split at stepped
      · rename_i free
        cases alive : wrapper.alive with
        | true =>
            rw [if_pos alive] at stepped
            obtain ⟨queue, began, rfl⟩ := Option.map_eq_some_iff.mp stepped
            exact handshake.resetBegin began
        | false =>
            simp only [alive, Bool.false_eq_true, if_false,
              Option.some.injEq] at stepped
            subst stepped
            exact ⟨handshake.locked,
              fun _ => Or.inl (handshake.joined free alive), by simp⟩
      · cases stepped
  | resetQuit action =>
      simp only [Wrapper.step] at stepped
      split at stepped
      · rename_i quits
        simp only [Bool.and_eq_true, decide_eq_true_eq] at quits
        obtain ⟨queue, ran, rfl⟩ := Option.map_eq_some_iff.mp stepped
        exact handshake.resetQuit quits.2 outside ran
      · cases stepped
  | resetDelete =>
      simp only [Wrapper.step] at stepped
      split at stepped
      · rename_i returned
        cases stepped
        exact handshake.resetDelete returned
      · cases stepped
  | resetJoin =>
      simp only [Wrapper.step] at stepped
      split at stepped
      · cases stepped
        exact ⟨by simp, by simp [ResetPc.quitDone], fun _ _ => rfl⟩
      · cases stepped
  | call action =>
      simp only [Wrapper.step] at stepped
      split at stepped
      · rename_i calls
        simp only [Bool.and_eq_true] at calls
        obtain ⟨queue, ran, rfl⟩ := Option.map_eq_some_iff.mp stepped
        exact ⟨handshake.locked_of_client ran (Or.inr (Or.inl calls.2)),
          handshake.done, handshake.joined⟩
      · cases stepped

/-- A thread that is gone makes no step on the queue. -/
theorem quietAfterQuit (handshake : Handshake wrapper) :
    QuietAfterQuit wrapper := by
  intro quitDone action next stepped
  have gone := handshake.done quitDone
  cases action with
  | threadEnter =>
      rcases gone with none | ended
      · simp [system, Wrapper.step, none] at stepped
      · simp [system, Wrapper.step, ended] at stepped
  | threadLoop action =>
      rcases gone with none | ended
      · simp [system, Wrapper.step, none] at stepped
      · simp [system, Wrapper.step, ended] at stepped
  | _ => rfl

end Handshake

/-- In every run whose `quit` tests `exit_done` outside the two windows, the loop
thread leaves the queue alone once `quit` has returned. -/
theorem quietAfterQuit_of_testsOutsideWindows
    (wrapper : Wrapper)
    (reached : system.ReachableUnder TestsOutsideWindows wrapper) :
    QuietAfterQuit wrapper := by
  have handshake : Handshake wrapper := by
    refine reached.invariant ?_ ?_
    · rintro _ ⟨needThread, rfl⟩
      exact ⟨by simp [Wrapper.new], by simp [Wrapper.new, ResetPc.quitDone],
        by simp [Wrapper.new]⟩
    · intro wrapper action next _ handshake outside stepped
      exact handshake.step outside stepped
  exact handshake.quietAfterQuit

/-- The thread runs its loop, is told to quit and ends before `quit` tests
`exit_done`. -/
def orderlyReset : List WrapperAction :=
  [.init, .threadCheck, .threadEnter, .threadLoop (.loopTest 0),
    .threadLoop (.loopEnter 0 fun _ => 0), .resetBegin,
    .resetQuit (.quitCheck 0), .resetQuit (.quitPush 0 (some 0)),
    .threadLoop (.loopWake 0 fun _ => 0), .threadLoop (.loopTest 0),
    .threadLoop (.loopFinish 0), .threadLoop (.loopNotify 0),
    .resetQuit (.quitWait 0), .resetDelete]

theorem quietAfterQuit_of_testsOutsideWindows_orderlyReset :
    ∃ wrapper, system.ReachableUnder TestsOutsideWindows wrapper ∧
      wrapper.reset = .deleted ∧ wrapper.thread = .ended ∧
      QuietAfterQuit wrapper := by
  obtain ⟨wrapper, reached, test⟩ :=
    Machine.ReachableUnder.exists_of_execUnder
      (.initial ⟨true, rfl⟩ :
        system.ReachableUnder TestsOutsideWindows (.new true))
      (by decide : (system.execUnder TestsOutsideWindows (.new true)
        orderlyReset).map (fun wrapper => decide
          (wrapper.reset = .deleted ∧ wrapper.thread = .ended)) = some true)
  obtain ⟨deleted, ended⟩ := of_decide_eq_true test
  exact ⟨wrapper, reached, deleted, ended,
    quietAfterQuit_of_testsOutsideWindows wrapper reached⟩

/-- The reset overtakes a thread that has not taken the mutex yet. -/
def resetBeforeLock : List WrapperAction :=
  [.init, .threadCheck, .resetBegin, .resetQuit (.quitCheck 0),
    .resetQuit (.quitPush 0 none), .resetQuit (.quitWait 0), .resetDelete]

/-- The reset overtakes a thread before its last notification. -/
def resetBeforeNotify : List WrapperAction :=
  [.init, .threadCheck, .threadEnter, .threadLoop (.loopTest 0),
    .threadLoop (.loopEnter 0 fun _ => 0), .resetBegin,
    .resetQuit (.quitCheck 0), .resetQuit (.quitPush 0 (some 0)),
    .threadLoop (.loopWake 0 fun _ => 0), .threadLoop (.loopTest 0),
    .threadLoop (.loopFinish 0), .resetQuit (.quitWait 0), .resetDelete]

/-- In both runs the queue is deleted and the thread's next step enters or
notifies it. -/
theorem quietAfterQuit_overtaken :
    (∃ wrapper, system.exec (.new true) resetBeforeLock = some wrapper ∧
      system.Reachable wrapper ∧ wrapper.alive = false ∧
      (system.step wrapper .threadEnter).isSome = true ∧
      ¬ QuietAfterQuit wrapper) ∧
    ∃ wrapper, system.exec (.new true) resetBeforeNotify = some wrapper ∧
      system.Reachable wrapper ∧ wrapper.alive = false ∧
      (system.step wrapper (.threadLoop (.loopNotify 0))).isSome = true ∧
      ¬ QuietAfterQuit wrapper := by
  have start : system.initial (.new true) := ⟨true, rfl⟩
  have violated : ∀ {wrapper : Wrapper} {action : WrapperAction},
      wrapper.reset = .deleted → (system.step wrapper action).isSome = true →
      action.touchesQueue = true → ¬ QuietAfterQuit wrapper := by
    intro wrapper action deleted enabled touches quiet
    obtain ⟨next, stepped⟩ := Option.isSome_iff_exists.mp enabled
    have untouched := quiet (by simp [deleted, ResetPc.quitDone]) action next
      stepped
    simp [touches] at untouched
  constructor
  · obtain ⟨wrapper, executed, reached, test⟩ :=
      Machine.exists_reachable_of_exec start
        (by decide : (system.exec (.new true) resetBeforeLock).map
          (fun wrapper => decide (wrapper.reset = .deleted ∧
            wrapper.alive = false ∧
            (system.step wrapper .threadEnter).isSome = true)) = some true)
    obtain ⟨deleted, dead, enabled⟩ := of_decide_eq_true test
    exact ⟨wrapper, executed, reached, dead, enabled,
      violated deleted enabled rfl⟩
  · obtain ⟨wrapper, executed, reached, test⟩ :=
      Machine.exists_reachable_of_exec start
        (by decide : (system.exec (.new true) resetBeforeNotify).map
          (fun wrapper => decide (wrapper.reset = .deleted ∧
            wrapper.alive = false ∧
            (system.step wrapper (.threadLoop (.loopNotify 0))).isSome =
              true)) = some true)
    obtain ⟨deleted, dead, enabled⟩ := of_decide_eq_true test
    exact ⟨wrapper, executed, reached, dead, enabled,
      violated deleted enabled rfl⟩

end MsgQueueWrapper
end Skplat
