import Skplat.MsgQueue.Defs

/-!
# Mutex-held sections of the three dispatch loops

`do_task`, `enter_loop` and `enter_timer_loop` alternate between sections that
hold the queue mutex and handler calls that do not.  This module gives each
section as a function from the queue to an outcome: the edited queue, the point
at which the thread leaves the mutex, and what it did on the way.

A section that dereferences a node, a message or a handler that has already
been deleted, or that takes the front of an empty list, has no defined effect;
its outcome is the `undefined` point.
-/

namespace Skplat
namespace MsgQueue

/-- The three dispatch loops. -/
inductive LoopKind
  | doTask
  | enterLoop
  | enterTimerLoop
  deriving DecidableEq, Repr

/-- Where a loop thread stands while it does not hold the mutex. -/
inductive LoopPc
  | idle
  | test (loop : LoopKind) (waitTime : Int)
  | enter (loop : LoopKind) (waitTime : Int)
  | asleep (loop : LoopKind) (waitTime : Int) (notified : Bool)
  | handling (loop : LoopKind) (msg : QueuedMsg) (node : Nat)
  | finishing
  | notifying
  | undefined
  deriving DecidableEq, Repr

/-- Observable history of a queue. -/
inductive Event
  | accepted (seq : Int)
  | refused
  | picked (seq : Int)
  | handled (seq msgHandler handler : Int)
  | removed (seq : Int) (taken : List Int) (exit : Bool)
  | quitSent
  deriving DecidableEq, Repr

/-- The result of one mutex-held section of a loop. -/
structure Outcome where
  /-- The queue when the mutex is released. -/
  queue : Queue
  /-- Where the thread continues. -/
  pc : LoopPc
  /-- Events of the section, oldest first. -/
  events : List Event := []
  /-- The section called `notify_msg_done`. -/
  notifyDone : Bool := false
  /-- The section completed a scan of `lst_msg` without picking a message. -/
  scanned : Bool := false

/-- Elapsed milliseconds between a recorded tick count and the current one. -/
def gettickspan (oldTick curTick : Nat) : Int :=
  if oldTick > curTick then 0 else (curTick - oldTick : Nat)

/-- The scan of `enter_timer_loop`.  `clock i` is the tick count read by the
`i`-th call of `gettickspan`.  The result is the selected message and the wait
time left in the local variable. -/
def scan (clock : Nat → Nat) :
    (reading : Nat) → (waitTime waitTimeMin : Int) →
    List QueuedMsg → Option QueuedMsg × Int
  | _, waitTime, _, [] => (none, waitTime)
  | reading, _, waitTimeMin, msg :: rest =>
      match msg.timer.type with
      | .kImmediately => (some msg, 0)
      | .kAfter =>
          let timeCost := gettickspan msg.recordTime (clock reading)
          if msg.timer.after ≤ timeCost then (some msg, 0)
          else
            let waitTime := msg.timer.after - timeCost
            if waitTime < 0 then (some msg, 0)
            else if waitTimeMin = 0 then
              scan clock (reading + 1) waitTime waitTime rest
            else
              scan clock (reading + 1)
                (if waitTimeMin < waitTime then waitTimeMin else waitTime)
                waitTimeMin rest

/-- Handlers after a node, or nothing when the node has been erased. -/
def handlersAfter (node : Nat) : List Handler → Option (List Handler)
  | [] => none
  | handler :: rest =>
      if handler.node = node then some rest else handlersAfter node rest

namespace Queue

/-- Set `is_handling` of the message with the given sequence number. -/
def setHandling (queue : Queue) (seq : Int) (flag : Bool) : Queue :=
  { queue with
    lstMsg := queue.lstMsg.map fun msg =>
      if msg.msgSeq = seq then { msg with isHandling := flag } else msg }

/-- Only the timer loop marks the message it hands out. -/
def markHandling
    (queue : Queue) (loop : LoopKind) (seq : Int) (flag : Bool) : Queue :=
  match loop with
  | .enterTimerLoop => queue.setHandling seq flag
  | .doTask => queue
  | .enterLoop => queue

/-- The loops' own removal: the timer loop erases the picked node and the other
two pop the front. -/
def removePicked (queue : Queue) (loop : LoopKind) (seq : Int) : Queue :=
  match loop with
  | .enterTimerLoop =>
      { queue with lstMsg := queue.lstMsg.eraseP fun msg => msg.msgSeq == seq }
  | .doTask => { queue with lstMsg := queue.lstMsg.tail }
  | .enterLoop => { queue with lstMsg := queue.lstMsg.tail }

/-- Remove the picked message, notify the waiters and start over. -/
def finishDispatch
    (queue : Queue) (loop : LoopKind) (msg : QueuedMsg) : Outcome :=
  let after := queue.removePicked loop msg.msgSeq
  { queue := after
    pc := .test loop 0
    events := [.removed msg.msgSeq
      (queue.seqs.filter fun seq => !after.seqs.contains seq) queue.exit]
    notifyDone := true }

/-- Continue the handler iteration over the remaining handlers: leave the mutex
to call the first one that accepts the message, or finish. -/
def dispatch
    (queue : Queue) (loop : LoopKind) (msg : QueuedMsg)
    (rest : List Handler) : Outcome :=
  match if queue.exit then none
      else rest.find? fun handler => handler.accepts msg.toMsg with
  | some handler =>
      { queue := queue.markHandling loop msg.msgSeq true
        pc := .handling loop msg handler.node
        events := [.handled msg.msgSeq msg.handlerId handler.handlerId] }
  | none => queue.finishDispatch loop msg

/-- Pick a message and start dispatching it. -/
def pick (queue : Queue) (loop : LoopKind) (msg : QueuedMsg) : Outcome :=
  let outcome := queue.dispatch loop msg queue.lstHandler
  { outcome with events := .picked msg.msgSeq :: outcome.events }

/-- Pick the front message, as `do_task` and `enter_loop` do. -/
def pickFront (queue : Queue) (loop : LoopKind) : Outcome :=
  match queue.lstMsg with
  | [] => { queue := queue, pc := .undefined }
  | msg :: _ => queue.pick loop msg

/-- Scan for a due message and dispatch it, or give the mutex back with the
computed wait time. -/
def scanSection
    (queue : Queue) (waitTime : Int) (clock : Nat → Nat) : Outcome :=
  match scan clock 0 waitTime 0 queue.lstMsg with
  | (some msg, _) => queue.pick .enterTimerLoop msg
  | (none, newWaitTime) =>
      { queue := queue
        pc := .test .enterTimerLoop newWaitTime
        scanned := true }

/-- The wait time of an idle timer loop, ten minutes. -/
def idleWaitTime : Int := 10 * 60 * 1000

/-- From the first lock of an iteration to the next unlock. -/
def enterSection
    (queue : Queue) (loop : LoopKind) (waitTime : Int)
    (clock : Nat → Nat) : Outcome :=
  let locked := { queue with exitDone := false }
  match loop with
  | .doTask => locked.pickFront .doTask
  | .enterLoop =>
      if locked.lstMsg.isEmpty then
        { queue := locked, pc := .asleep .enterLoop 0 false }
      else locked.pickFront .enterLoop
  | .enterTimerLoop =>
      if locked.lstMsg.isEmpty then
        { queue := locked, pc := .asleep .enterTimerLoop idleWaitTime false }
      else if waitTime > 0 then
        { queue := locked, pc := .asleep .enterTimerLoop waitTime false }
      else locked.scanSection waitTime clock

/-- From the return of `msg_cond.wait` to the next unlock.  `do_task` never
waits. -/
def wakeSection
    (queue : Queue) (loop : LoopKind) (clock : Nat → Nat) : Outcome :=
  match loop with
  | .enterTimerLoop =>
      if queue.lstMsg.isEmpty then
        { queue := queue, pc := .asleep .enterTimerLoop idleWaitTime false }
      else queue.scanSection 0 clock
  | frontLoop =>
      if queue.lstMsg.isEmpty then
        { queue := queue, pc := .asleep frontLoop 0 false }
      else queue.pickFront frontLoop

/-- From the lock after a handler call to the next unlock. -/
def returnSection
    (queue : Queue) (loop : LoopKind) (msg : QueuedMsg)
    (node : Nat) : Outcome :=
  if msg.msgSeq ∈ queue.seqs then
    let locked := queue.markHandling loop msg.msgSeq false
    match handlersAfter node locked.lstHandler with
    | some rest => locked.dispatch loop msg rest
    | none => { queue := queue, pc := .undefined }
  else { queue := queue, pc := .undefined }

end Queue
end MsgQueue
end Skplat
