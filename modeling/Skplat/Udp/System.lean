import Skplat.Machine.Basic
import Skplat.Utils.AutoBuffer
import Skplat.Utils.SocketSelectBreaker
import Mathlib.Data.Fintype.Defs

/-!
# The UDP client and server as systems of threads

`UdpClient` and `UdpServer` share one design.  `SendAsync` appends a datagram to
`list_buffer_`, starts the loop thread if none runs, and breaks its `poll`.  The
loop waits to write while the list is nonempty and to read otherwise, and takes
the datagram off the list only after `sendto`.  The server keeps a destination
with each datagram; the client sends everything to `addr_`.

A step is a mutex-held section, a `poll`, a `Break`, a `Clear`, a system call or
an access without the mutex.  `SendAsync` keeps the mutex across its `Break`.
Results of system calls are chosen by the action.  For the socket `poll` reports
the one event it was asked for and errors; a hang-up would need a shutdown, which
these sockets never see.  Without a timeout it reports something or fails, and it
fails only if nothing is ready.

The loop keeps a pointer to the front of the list while it waits.  A list node is
identified by its number among all nodes, so that the use of a node that has left
the list can be told.
-/

namespace Skplat
namespace Udp

/-- The two classes. -/
inductive Kind
  | client
  | server
  deriving DecidableEq, Repr

/-- A datagram as passed to `SendAsync`.  The client is given no destination. -/
structure Datagram (Dest : Type) where
  target : Option Dest
  bytes : List UInt8
  deriving DecidableEq, Repr

/-- An element of `list_buffer_`: `UdpSendData` or `UdpServerSendData`. -/
structure Node (Dest : Type) where
  /-- Its number among all nodes. -/
  id : Nat
  /-- `addr`, which only the server's elements have. -/
  addr : Option Dest
  /-- `data`. -/
  data : AutoBuffer
  deriving DecidableEq, Repr

/-- What the loop waits for, with its local variables. -/
inductive Mode (Dest : Type)
  | read
  | write (buf len : Nat) (addr : Option Dest)
  deriving DecidableEq, Repr

/-- What `poll` reports about errors and about the event of the socket that the
mode asks for. -/
inductive PollOutcome
  | failed
  | ready (breakerError socketError event : Bool)
  deriving DecidableEq, Repr

/-- A `poll` result with the readability of the breaker pipe. -/
structure Polled where
  outcome : PollOutcome
  breakIn : Bool
  deriving DecidableEq, Repr

/-- Where the loop thread stands. -/
inductive LoopPc (Dest : Type)
  | notRunning
  | top
  | polling (mode : Mode Dest)
  | clearing (mode : Mode Dest) (polled : Polled)
  | testing (mode : Mode Dest) (polled : Polled)
  | sending (buf len : Nat) (addr : Option Dest)
  | sent
  | receiving
  | broke
  | onError
  | leaving
  deriving DecidableEq, Repr

/-- Where a call of `SendAsync` stands. -/
inductive CallPc (Dest : Type)
  | idle
  | checked (datagram : Datagram Dest)
  | pushed
  | started
  deriving DecidableEq, Repr

/-- Where the destructor stands. -/
inductive DestructorPc
  | notCalled
  | isRunning
  | cleared
  | joining (broke : Bool)
  | joined
  deriving DecidableEq, Repr

/-- A client or server with its threads and its history. -/
structure State (n : Nat) (Dest : Type) where
  kind : Kind
  /-- `fd_socket_` is valid. -/
  fdSocket : Bool
  /-- `addr_` of the client. -/
  addr : Dest
  /-- `event_` is not `NULL`. -/
  event : Bool
  /-- `list_buffer_`. -/
  listBuffer : List (Node Dest)
  /-- The call that holds `mutex_`. -/
  mutex : Option (Fin n)
  /-- The pipe of `breaker_`. -/
  pipe : Breaker
  /-- The loop thread. -/
  loop : LoopPc Dest
  /-- The calls of `SendAsync`. -/
  calls : Fin n → CallPc Dest
  /-- The destructor. -/
  destructor : DestructorPc
  /-- Datagrams queued so far. -/
  queued : List (Datagram Dest)
  /-- Destinations and bytes that `sendto` accepted. -/
  handed : List (Dest × List UInt8)
  /-- Number of elements taken off the list. -/
  popped : Nat
  /-- A loop ended with an error. -/
  failed : Bool
  /-- A `Break` returned false. -/
  breakFailed : Bool
  /-- The creation of a loop thread failed. -/
  createFailed : Bool
  /-- A node was used after it had left the list, or the empty list was popped. -/
  dangling : Bool
  /-- Some `Break` that returned true has not been reported by `IsBreak` yet, and
  this many more selects may miss it. -/
  pending : Option Nat
  /-- A `Break` that returned true was reported neither by the select in progress
  nor by the next one. -/
  missed : Bool

/-- One step. -/
inductive Action (n : Nat) (Dest : Type)
  | sendCheck (call : Fin n) (target : Dest) (bytes : List UInt8)
  | sendPush (call : Fin n)
  | sendStart (call : Fin n) (created : Bool)
  | sendBreak (call : Fin n) (written : Bool)
  | userBreak (written : Bool)
  | setIpPort (addr : Dest)
  | destroy
  | destroyClear
  | destroyBreak (written : Bool)
  | destroyJoin
  | loopRead
  | pollReturn (outcome : PollOutcome)
  | clear
  | test
  | sendto (accepted : Bool)
  | popFront
  | recvfrom (received : Bool)
  | eventTest
  | errorDone
  | exit
  deriving DecidableEq

/-- The select whose `IsBreak` is still to be evaluated. -/
def LoopPc.inSelect {Dest : Type} : LoopPc Dest → Bool
  | .polling _ | .clearing _ _ | .testing _ _ => true
  | _ => false

namespace State

variable {n : Nat} {Dest : Type}

/-- Move one call. -/
def setCall (state : State n Dest) (call : Fin n) (pc : CallPc Dest) :
    State n Dest :=
  { state with calls := Function.update state.calls call pc }

/-- How many selects may miss a `Break` made now: the one in progress. -/
def allowance (state : State n Dest) : Nat :=
  if state.loop.inSelect then 1 else 0

/-- `breaker_.Break()`. -/
def breakPoll (state : State n Dest) (written : Bool) : State n Dest :=
  let pipe := state.pipe.breakPipe written
  { state with
    pipe := pipe
    breakFailed := state.breakFailed || !pipe.broken
    pending :=
      if pipe.broken then
        some (min (state.pending.getD state.allowance) state.allowance)
      else state.pending }

/-- `IsBreak()` of a select gives this value. -/
def reportBreak (state : State n Dest) (isBreak : Bool) : State n Dest :=
  if isBreak then { state with pending := none }
  else
    match state.pending with
    | none => state
    | some 0 => { state with missed := true }
    | some (allowed + 1) => { state with pending := some allowed }

/-- The element that `SendAsync` pushes. -/
def nodeOf (state : State n Dest) (datagram : Datagram Dest) : Node Dest where
  id := state.queued.length
  addr := datagram.target
  data := AutoBuffer.new.write 0 datagram.bytes AutoBuffer.new_length_nonneg

section Steps

variable [DecidableEq Dest]

/-- Steps of `SendAsync` and of the other public functions. -/
def stepCall (state : State n Dest) : Action n Dest → Option (State n Dest)
  | .sendCheck call target bytes =>
      if state.calls call = .idle ∧ state.destructor = .notCalled then
        if state.fdSocket = false ∨ state.event = false then some state
        else
          let target := match state.kind with
            | .client => none
            | .server => some target
          some (state.setCall call (.checked ⟨target, bytes⟩))
      else none
  | .sendPush call =>
      match state.calls call with
      | .checked datagram =>
          if state.mutex = none then
            some ({ state with
              listBuffer := state.listBuffer ++ [state.nodeOf datagram]
              mutex := some call
              queued := state.queued ++ [datagram] }.setCall call .pushed)
          else none
      | _ => none
  | .sendStart call created =>
      if state.calls call = .pushed then
        if state.loop = .notRunning then
          if created then
            some ({ state with loop := .top }.setCall call .started)
          else
            some ({ state with createFailed := true }.setCall call .started)
        else some (state.setCall call .started)
      else none
  | .sendBreak call written =>
      if state.calls call = .started then
        some (({ state with
          mutex := none }.breakPoll written).setCall call .idle)
      else none
  | .userBreak written =>
      if state.destructor = .notCalled then some (state.breakPoll written)
      else none
  | .setIpPort addr =>
      if state.destructor = .notCalled then some { state with addr := addr }
      else none
  | _ => none

/-- Steps of the destructor, which begins after the last call. -/
def stepDestructor (state : State n Dest) : Action n Dest → Option (State n Dest)
  | .destroy =>
      if state.destructor = .notCalled ∧ ∀ call, state.calls call = .idle then
        if state.loop = .notRunning then
          some { state with destructor := .joined }
        else some { state with destructor := .isRunning }
      else none
  | .destroyClear =>
      if state.destructor = .isRunning then
        some { state with event := false, destructor := .cleared }
      else none
  | .destroyBreak written =>
      if state.destructor = .cleared then
        let broken := state.breakPoll written
        some { broken with destructor := .joining broken.pipe.broken }
      else none
  | .destroyJoin =>
      match state.destructor with
      | .joining _ =>
          if state.loop = .notRunning then
            some { state with destructor := .joined }
          else none
      | _ => none
  | _ => none

/-- The loop fixes what it waits for. -/
def modeOf (state : State n Dest) : Mode Dest :=
  match state.listBuffer with
  | [] => .read
  | front :: _ => .write front.id front.data.length front.addr

/-- `poll` can report this, given the bytes in the breaker pipe. -/
def canPoll (bytes : Nat) : PollOutcome → Bool
  | .failed => bytes = 0
  | .ready breakerError socketError event =>
      breakerError || socketError || event || 0 < bytes

/-- `__DoSelect` returns -1. -/
def fail (state : State n Dest) : State n Dest :=
  { state with loop := .onError, failed := true }

/-- The tests of `__DoSelect` after its select. -/
def doSelect (state : State n Dest) (mode : Mode Dest) (polled : Polled) :
    State n Dest :=
  match polled.outcome with
  | .failed => state.fail
  | .ready breakerError socketError event =>
      if breakerError then state.fail
      else if polled.breakIn then { state with loop := .broke }
      else if socketError then state.fail
      else if event then
        match mode with
        | .write buf len addr => { state with loop := .sending buf len addr }
        | .read => { state with loop := .receiving }
      else state.fail

/-- An accepted `sendto` of the bytes behind the loop's pointer. -/
def sendDatagram (state : State n Dest) (buf len : Nat) (addr : Option Dest) :
    State n Dest :=
  match state.listBuffer.find? (fun node => node.id == buf) with
  | some node =>
      { state with
        handed := state.handed ++
          [(addr.getD state.addr, node.data.parray.take len)]
        loop := .sent }
  | none => { state with dangling := true, loop := .sent }

/-- Steps of the loop thread. -/
def stepLoop (state : State n Dest) : Action n Dest → Option (State n Dest)
  | .loopRead =>
      if state.loop = .top ∧ state.mutex = none then
        some { state with loop := .polling state.modeOf }
      else none
  | .pollReturn outcome =>
      match state.loop with
      | .polling mode =>
          if canPoll state.pipe.bytes outcome then
            some { state with
              loop := .clearing mode ⟨outcome, 0 < state.pipe.bytes⟩ }
          else none
      | _ => none
  | .clear =>
      match state.loop with
      | .clearing mode polled =>
          some { state with
            pipe := state.pipe.clear, loop := .testing mode polled }
      | _ => none
  | .test =>
      match state.loop with
      | .testing mode polled =>
          some ((state.reportBreak polled.breakIn).doSelect mode polled)
      | _ => none
  | .sendto accepted =>
      match state.loop with
      | .sending buf len addr =>
          if accepted then some (state.sendDatagram buf len addr)
          else some state.fail
      | _ => none
  | .popFront =>
      if state.loop = .sent ∧ state.mutex = none then
        match state.listBuffer with
        | [] => some { state with dangling := true, loop := .top }
        | _ :: rest =>
            some { state with
              listBuffer := rest, popped := state.popped + 1, loop := .top }
      else none
  | .recvfrom received =>
      if state.loop = .receiving then
        if received then some { state with loop := .top }
        else some state.fail
      else none
  | .eventTest =>
      if state.loop = .broke then
        if state.event then some { state with loop := .top }
        else some { state with loop := .leaving }
      else none
  | .errorDone =>
      if state.loop = .onError then some { state with loop := .leaving }
      else none
  | .exit =>
      if state.loop = .leaving then some { state with loop := .notRunning }
      else none
  | _ => none

/-- One step of the system. -/
def step (state : State n Dest) (action : Action n Dest) :
    Option (State n Dest) :=
  (state.stepCall action).or
    ((state.stepDestructor action).or (state.stepLoop action))

end Steps

/-- A new object.  The constructor of the server starts the loop thread, unless
its creation fails; the client leaves that to `SendAsync`. -/
def new (kind : Kind) (fdSocket : Bool) (addr : Dest) (created : Bool) :
    State n Dest where
  kind := kind
  fdSocket := fdSocket
  addr := addr
  event := true
  listBuffer := []
  mutex := none
  pipe := .new
  loop := match kind with
    | .client => .notRunning
    | .server => if created && fdSocket then .top else .notRunning
  calls := fun _ => .idle
  destructor := .notCalled
  queued := []
  handed := []
  popped := 0
  failed := false
  breakFailed := false
  createFailed := false
  dangling := false
  pending := none
  missed := false

end State

/-- The system with this many callers. -/
def system (n : Nat) (Dest : Type) [DecidableEq Dest] :
    Machine (State n Dest) (Action n Dest) where
  initial := fun state =>
    ∃ kind fdSocket addr created,
      state = State.new kind fdSocket addr created
  step := State.step

/-- The call of a system with a single one. -/
def onlyCall : Fin 1 := Fin.last 0

end Udp
end Skplat
