import Mathlib.Data.List.Basic

/-!
# Message queue data and its mutex-held edits

The data model of `utils/msgqueue.h`: messages, handlers, the queue object, and
the operations that edit it inside one mutex-held section.  Each of them is an
ordinary function of the queue.

List nodes have an identity in the source, because loops keep iterators across
sections.  A message node is identified by its sequence number and a handler
node by an allocation stamp.  The source deletes an erased payload through the
erased iterator; the model takes that payload to be the erased one.
-/

namespace Skplat
namespace MsgQueue

/-- The reserved message identifier `INVALID_MSG_ID`. -/
def invalidMsgId : Int := -1

/-- The handler identifier `DEFAULT_HANDLER_ID`. -/
def defaultHandlerId : Int := 0

/-- When a message becomes due. -/
inductive MsgTimerType
  | kAfter
  | kImmediately
  deriving DecidableEq, Repr

/-- Timer of a message.  The unused period of the source is left out. -/
structure MsgTimer where
  /-- Whether the delay counts at all. -/
  type : MsgTimerType
  /-- Delay in milliseconds since the record time. -/
  after : Int
  deriving DecidableEq, Repr

/-- The part of a message that its constructors fix. -/
structure Msg where
  /-- When the message becomes due. -/
  timer : MsgTimer
  /-- Identifier chosen by the sender. -/
  msgId : Int
  /-- Identifier of the receiving handler. -/
  handlerId : Int
  /-- Tick count at construction, zero for immediate messages. -/
  recordTime : Nat
  /-- Whether broadcast handlers receive the message too. -/
  broadcast : Bool
  deriving DecidableEq, Repr

/-- `Msg(msg_id, handler_id)`: an immediate message without a task. -/
def Msg.ofId (msgId handlerId : Int) : Msg where
  timer := ⟨.kImmediately, 0⟩
  msgId := msgId
  handlerId := handlerId
  recordTime := 0
  broadcast := false

/-- `Msg(msg_id, handler_id, after)`: a delayed message recorded at the current
tick count. -/
def Msg.ofIdAfter (msgId handlerId after : Int) (now : Nat) : Msg where
  timer := ⟨.kAfter, after⟩
  msgId := msgId
  handlerId := handlerId
  recordTime := now
  broadcast := false

/-- A message in `lst_msg`, with the two fields the queue manages. -/
structure QueuedMsg extends Msg where
  /-- Sequence number assigned by the queue. -/
  msgSeq : Int
  /-- Set while the timer loop runs a handler on the message. -/
  isHandling : Bool
  deriving DecidableEq, Repr

/-- A node of `lst_handler`. -/
structure Handler where
  /-- Identifier under which the handler is registered. -/
  handlerId : Int
  /-- Whether the handler takes broadcast messages. -/
  broadcast : Bool
  /-- Allocation stamp of the list node. -/
  node : Nat
  deriving DecidableEq, Repr

/-- The dispatch test shared by the three loops. -/
def Handler.accepts (handler : Handler) (msg : Msg) : Bool :=
  msg.handlerId == handler.handlerId || (msg.broadcast && handler.broadcast)

/-- The fields of a `MsgQueue` object. -/
structure Queue where
  /-- Registered handlers. -/
  lstHandler : List Handler
  /-- Queued messages. -/
  lstMsg : List QueuedMsg
  /-- Set by `quit`. -/
  exit : Bool
  /-- Cleared while a loop is inside the queue. -/
  exitDone : Bool
  /-- The next sequence number. -/
  msgSeq : Int
  /-- The next handler-node stamp. -/
  nextNode : Nat
  deriving DecidableEq, Repr

namespace Queue

/-- A newly constructed queue. -/
def new : Queue where
  lstHandler := []
  lstMsg := []
  exit := false
  exitDone := true
  msgSeq := 0
  nextNode := 0

/-- Sequence numbers of the queued messages, front to back. -/
def seqs (queue : Queue) : List Int :=
  queue.lstMsg.map QueuedMsg.msgSeq

/-- `has_handler`. -/
def hasHandler (queue : Queue) (handlerId : Int) : Bool :=
  queue.lstHandler.any fun handler => handlerId == handler.handlerId

/-- The mutex-held part of `send_msg`, without its notification. -/
def push (queue : Queue) (msg : Msg) : Queue :=
  { queue with
    lstMsg := queue.lstMsg ++
      [{ msg with msgSeq := queue.msgSeq, isHandling := false }]
    msgSeq := queue.msgSeq + 1 }

/-- `add_handler` on a non-null handler: a registered identifier is silently
kept. -/
def addHandler (queue : Queue) (handlerId : Int) (broadcast : Bool) : Queue :=
  if queue.lstHandler.any fun handler => handlerId == handler.handlerId then
    queue
  else
    { queue with
      lstHandler := queue.lstHandler ++ [⟨handlerId, broadcast, queue.nextNode⟩]
      nextNode := queue.nextNode + 1 }

/-- The scan shared by the four cancel overloads.  A hit that is being handled
ends the scan of three of them, and an erased hit ends the scan of one. -/
def cancelLoop
    (hit : QueuedMsg → Bool)
    (breakOnHandling breakOnErase : Bool) :
    List QueuedMsg → List QueuedMsg
  | [] => []
  | msg :: rest =>
      if hit msg then
        if !msg.isHandling then
          if breakOnErase then rest
          else cancelLoop hit breakOnHandling breakOnErase rest
        else if breakOnHandling then msg :: rest
        else msg :: cancelLoop hit breakOnHandling breakOnErase rest
      else msg :: cancelLoop hit breakOnHandling breakOnErase rest

/-- `cancel_msg_seq(seq)`. -/
def cancelMsgSeq (queue : Queue) (seq : Int) : Queue :=
  if seq > queue.msgSeq then queue
  else
    { queue with
      lstMsg := cancelLoop (fun msg => msg.msgSeq == seq) true false
        queue.lstMsg }

/-- `cancel_msg(Msg&)`. -/
def cancelMsg (queue : Queue) (msgId handlerId : Int) : Queue :=
  { queue with
    lstMsg := cancelLoop
      (fun msg => msgId == msg.msgId && handlerId == msg.handlerId) true false
      queue.lstMsg }

/-- `cancel_msg(handler_id)`. -/
def cancelMsgOfHandler (queue : Queue) (handlerId : Int) : Queue :=
  { queue with
    lstMsg := cancelLoop (fun msg => handlerId == msg.handlerId) false false
      queue.lstMsg }

/-- `cancel_msg(msg_id, handler_id)`. -/
def cancelMsgId (queue : Queue) (msgId handlerId : Int) : Queue :=
  { queue with
    lstMsg := cancelLoop
      (fun msg => msgId == msg.msgId && handlerId == msg.handlerId) true true
      queue.lstMsg }

/-- `remove_handler`: drop the handler and, whether handled or not, every
message addressed to it. -/
def removeHandler (queue : Queue) (handlerId : Int) : Queue :=
  { queue with
    lstHandler := queue.lstHandler.filter
      fun handler => !(handlerId == handler.handlerId)
    lstMsg := queue.lstMsg.filter fun msg => !(handlerId == msg.handlerId) }

/-- `clear`. -/
def clear (queue : Queue) : Queue :=
  { queue with lstHandler := [], lstMsg := [] }

end Queue

/-- The mutex-held calls that can take messages out of the queue. -/
inductive Edit
  | cancelMsgSeq (seq : Int)
  | cancelMsg (msgId handlerId : Int)
  | cancelMsgOfHandler (handlerId : Int)
  | cancelMsgId (msgId handlerId : Int)
  | removeHandler (handlerId : Int)
  | clear
  deriving DecidableEq, Repr

namespace Edit

/-- Perform an edit. -/
def apply : Edit → Queue → Queue
  | .cancelMsgSeq seq, queue => queue.cancelMsgSeq seq
  | .cancelMsg msgId handlerId, queue => queue.cancelMsg msgId handlerId
  | .cancelMsgOfHandler handlerId, queue => queue.cancelMsgOfHandler handlerId
  | .cancelMsgId msgId handlerId, queue => queue.cancelMsgId msgId handlerId
  | .removeHandler handlerId, queue => queue.removeHandler handlerId
  | .clear, queue => queue.clear

attribute [grind =] apply

/-- The argument of an edit matches a message. -/
def Matches : Edit → QueuedMsg → Prop
  | .cancelMsgSeq seq, msg => msg.msgSeq = seq
  | .cancelMsg msgId handlerId, msg =>
      msgId = msg.msgId ∧ handlerId = msg.handlerId
  | .cancelMsgOfHandler handlerId, msg => handlerId = msg.handlerId
  | .cancelMsgId msgId handlerId, msg =>
      msgId = msg.msgId ∧ handlerId = msg.handlerId
  | .removeHandler handlerId, msg => handlerId = msg.handlerId
  | .clear, _ => True

instance (edit : Edit) : DecidablePred edit.Matches := fun msg =>
  match edit with
  | .cancelMsgSeq seq => inferInstanceAs (Decidable (msg.msgSeq = seq))
  | .cancelMsg msgId handlerId | .cancelMsgId msgId handlerId =>
      inferInstanceAs
        (Decidable (msgId = msg.msgId ∧ handlerId = msg.handlerId))
  | .cancelMsgOfHandler handlerId | .removeHandler handlerId =>
      inferInstanceAs (Decidable (handlerId = msg.handlerId))
  | .clear => .isTrue trivial

/-- The edit unregisters a handler identifier. -/
def Unregisters : Edit → Int → Prop
  | .removeHandler removed, handlerId => removed = handlerId
  | .clear, _ => True
  | _, _ => False

instance (edit : Edit) : DecidablePred edit.Unregisters := fun handlerId =>
  match edit with
  | .removeHandler removed => inferInstanceAs (Decidable (removed = handlerId))
  | .clear => .isTrue trivial
  | .cancelMsgSeq _ | .cancelMsg _ _ | .cancelMsgOfHandler _
  | .cancelMsgId _ _ => .isFalse id

end Edit
end MsgQueue
end Skplat
