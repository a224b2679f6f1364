import Skplat.Machine.Basic
import Skplat.MsgQueue.Loops
import Mathlib.Algebra.Ring.Nat
import Mathlib.Data.Fintype.Basic

/-!
# The message queue as a system of threads

Any number of client calls interleave with a fixed number of loop threads.
Every mutex-held section is one step, and so is every access that the source
makes without the mutex: the `has_handler` test of `send_msg`, the loop tests,
and the assignments of `exit` and `exit_done`.

A condition variable is represented by the threads asleep on it and whether a
notification has reached them.  A sleeping thread may also wake spuriously or
by its timeout, so a wake step never asks for a notification.
-/

namespace Skplat
namespace MsgQueue

/-- What a waiting call waits for: `wait_done_seq_done`, `wait_all_msg_done` or
`wait_msg_done`. -/
inductive WaitFor
  | seqDone (seq : Int)
  | allMsgDone (handler : Int)
  | msgDone (msgId handlerId : Int)
  deriving DecidableEq, Repr

/-- The predicate that a waiting call looks for in `lst_msg`. -/
def WaitFor.found : WaitFor → QueuedMsg → Bool
  | .seqDone seq, msg => seq == msg.msgSeq
  | .allMsgDone handler, msg => handler == msg.handlerId
  | .msgDone msgId handlerId, msg =>
      msgId == msg.msgId && handlerId == msg.handlerId

/-- Where a client call stands while it does not hold the mutex. -/
inductive ClientPc
  | idle
  | sending (msg : Msg)
  | waiting (goal : WaitFor)
  | asleep (goal : WaitFor) (notified : Bool)
  | quitting
  | quitSending
  | quitWaiting
  | quitAsleep (notified : Bool)
  | quitReturned
  deriving DecidableEq, Repr

/-- The effect of `done_cond.notifyAll` on one call. -/
def ClientPc.notifyDone : ClientPc → ClientPc
  | .asleep goal _ => .asleep goal true
  | .quitAsleep _ => .quitAsleep true
  | pc => pc

/-- The loop sleeps on `msg_cond` and no notification has reached it. -/
def LoopPc.sleeping : LoopPc → Bool
  | .asleep _ _ notified => !notified
  | _ => false

/-- The effect of a `msg_cond` notification that reaches the loop. -/
def LoopPc.notifyMsg : LoopPc → LoopPc
  | .asleep loop waitTime _ => .asleep loop waitTime true
  | pc => pc

/-- A message queue with `n` loop threads and any number of client calls. -/
structure State (n : Nat) where
  /-- The queue object. -/
  queue : Queue
  /-- The loop threads. -/
  loops : Fin n → LoopPc
  /-- The client calls. -/
  clients : Nat → ClientPc
  /-- Value of the counter at each loop's last complete scan. -/
  scanMark : Fin n → Int
  /-- Events so far, oldest first. -/
  trace : List Event

/-- One step of the system. -/
inductive Action (n : Nat)
  | sendCheck (client : Nat) (msg : Msg)
  | sendPush (client : Nat) (woken : Option (Fin n))
  | edit (edit : Edit)
  | addHandler (handlerId : Int) (broadcast : Bool)
  | waitBegin (client : Nat) (goal : WaitFor)
  | waitCheck (client : Nat)
  | quitBegin (client : Nat)
  | quitCheck (client : Nat)
  | quitPush (client : Nat) (woken : Option (Fin n))
  | quitWait (client : Nat)
  | loopBegin (thread : Fin n) (loop : LoopKind)
  | loopTest (thread : Fin n)
  | loopEnter (thread : Fin n) (clock : Nat → Nat)
  | loopWake (thread : Fin n) (clock : Nat → Nat)
  | loopReturn (thread : Fin n)
  | loopFinish (thread : Fin n)
  | loopNotify (thread : Fin n)

namespace State

variable {n : Nat}

/-- Move one client call. -/
def setClient (state : State n) (client : Nat) (pc : ClientPc) : State n :=
  { state with clients := Function.update state.clients client pc }

/-- Move one loop thread. -/
def setLoop (state : State n) (thread : Fin n) (pc : LoopPc) : State n :=
  { state with loops := Function.update state.loops thread pc }

/-- Append to the history. -/
def log (state : State n) (events : List Event) : State n :=
  { state with trace := state.trace ++ events }

/-- Notify every call asleep on `done_cond`. -/
def notifyDone (state : State n) : State n :=
  { state with clients := fun client => (state.clients client).notifyDone }

/-- `msg_cond.notifyOne()`: one sleeping loop is reached if there is any. -/
def notifyMsg (state : State n) : Option (Fin n) → Option (State n)
  | some thread =>
      if (state.loops thread).sleeping then
        some (state.setLoop thread (state.loops thread).notifyMsg)
      else none
  | none =>
      if ∀ thread, (state.loops thread).sleeping = false then some state
      else none

/-- The locked part of `send_msg`. -/
def push
    (state : State n) (msg : Msg) (woken : Option (Fin n)) :
    Option (State n) :=
  ({ state with queue := state.queue.push msg }.log
    [.accepted state.queue.msgSeq]).notifyMsg woken

/-- Commit the outcome of a loop section. -/
def commit (state : State n) (thread : Fin n) (outcome : Outcome) : State n where
  queue := outcome.queue
  loops := Function.update state.loops thread outcome.pc
  clients := if outcome.notifyDone then
      fun client => (state.clients client).notifyDone
    else state.clients
  scanMark := if outcome.scanned then
      Function.update state.scanMark thread outcome.queue.msgSeq
    else state.scanMark
  trace := state.trace ++ outcome.events

/-- Steps of a client call. -/
def stepClient (state : State n) : Action n → Option (State n)
  | .sendCheck client msg =>
      match state.clients client with
      | .idle =>
          if state.queue.hasHandler msg.handlerId then
            some (state.setClient client (.sending msg))
          else some ((state.setClient client .idle).log [.refused])
      | _ => none
  | .sendPush client woken =>
      match state.clients client with
      | .sending msg => (state.setClient client .idle).push msg woken
      | _ => none
  | .waitBegin client goal =>
      match state.clients client, goal with
      | .idle, .seqDone seq =>
          if seq > state.queue.msgSeq then
            some (state.setClient client .idle)
          else some (state.setClient client (.waiting goal))
      | .idle, _ => some (state.setClient client (.waiting goal))
      | _, _ => none
  | .waitCheck client =>
      match state.clients client with
      | .waiting goal | .asleep goal _ =>
          if state.queue.lstMsg.any goal.found then
            some (state.setClient client (.asleep goal false))
          else some (state.setClient client .idle)
      | _ => none
  | .quitBegin client =>
      match state.clients client with
      | .idle =>
          some ({ state with queue := { state.queue with exit := true } }
            |>.setClient client .quitting)
      | _ => none
  | .quitCheck client =>
      match state.clients client with
      | .quitting =>
          if state.queue.hasHandler defaultHandlerId then
            some (state.setClient client .quitSending)
          else some ((state.setClient client .quitWaiting).log
            [.refused, .quitSent])
      | _ => none
  | .quitPush client woken =>
      match state.clients client with
      | .quitSending =>
          ((state.setClient client .quitWaiting).push
            (.ofId invalidMsgId defaultHandlerId) woken).map
              fun pushed => pushed.log [.quitSent]
      | _ => none
  | .quitWait client =>
      match state.clients client with
      | .quitWaiting | .quitAsleep _ =>
          if state.queue.exitDone then
            some (state.setClient client .quitReturned)
          else some (state.setClient client (.quitAsleep false))
      | _ => none
  | _ => none

/-- The unlocked loop test: `do_task` also leaves on an empty list. -/
def testPasses (queue : Queue) : LoopKind → Bool
  | .doTask => !queue.lstMsg.isEmpty && !queue.exit
  | .enterLoop => !queue.exit
  | .enterTimerLoop => !queue.exit

/-- Steps of a loop thread. -/
def stepLoop (state : State n) : Action n → Option (State n)
  | .loopBegin thread loop =>
      match state.loops thread with
      | .idle => some (state.setLoop thread (.test loop 0))
      | _ => none
  | .loopTest thread =>
      match state.loops thread with
      | .test loop waitTime =>
          if testPasses state.queue loop then
            some (state.setLoop thread (.enter loop waitTime))
          else some (state.setLoop thread .finishing)
      | _ => none
  | .loopEnter thread clock =>
      match state.loops thread with
      | .enter loop waitTime =>
          some (state.commit thread
            (state.queue.enterSection loop waitTime clock))
      | _ => none
  | .loopWake thread clock =>
      match state.loops thread with
      | .asleep loop _ _ =>
          some (state.commit thread (state.queue.wakeSection loop clock))
      | _ => none
  | .loopReturn thread =>
      match state.loops thread with
      | .handling loop msg node =>
          some (state.commit thread
            (state.queue.returnSection loop msg node))
      | _ => none
  | .loopFinish thread =>
      match state.loops thread with
      | .finishing =>
          some ({ state with queue := { state.queue with exitDone := true } }
            |>.setLoop thread .notifying)
      | _ => none
  | .loopNotify thread =>
      match state.loops thread with
      | .notifying => some (state.notifyDone.setLoop thread .idle)
      | _ => none
  | _ => none

/-- One step of the system. -/
def step (state : State n) : Action n → Option (State n)
  | .edit edit => some { state with queue := edit.apply state.queue }
  | .addHandler handlerId broadcast =>
      some { state with queue := state.queue.addHandler handlerId broadcast }
  | .loopBegin thread loop => state.stepLoop (.loopBegin thread loop)
  | .loopTest thread => state.stepLoop (.loopTest thread)
  | .loopEnter thread clock => state.stepLoop (.loopEnter thread clock)
  | .loopWake thread clock => state.stepLoop (.loopWake thread clock)
  | .loopReturn thread => state.stepLoop (.loopReturn thread)
  | .loopFinish thread => state.stepLoop (.loopFinish thread)
  | .loopNotify thread => state.stepLoop (.loopNotify thread)
  | action => state.stepClient action

end State

/-- A new queue with idle threads and no history. -/
def State.new (n : Nat) : State n where
  queue := .new
  loops := fun _ => .idle
  clients := fun _ => .idle
  scanMark := fun _ => 0
  trace := []

/-- The message queue run by `n` loop threads. -/
def system (n : Nat) : Machine (State n) (Action n) where
  initial := fun state => state = .new n
  step := State.step

/-- Thread zero of a system with a single loop thread. -/
instance neZero_singleLoop : NeZero 1 :=
  ⟨Nat.one_ne_zero⟩

end MsgQueue
end Skplat
