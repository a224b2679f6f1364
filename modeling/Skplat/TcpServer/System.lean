import Skplat.SocketSelect.Breaker
import Mathlib.Data.Fintype.Defs

/-!
# Starting and stopping a TCP server

`StartAndWait` starts the listening thread if none runs, clears the breaker for a
new one and waits until it has set up its socket.  `StopAndWait` breaks the
thread's `poll` and joins it.  Any number of calls of both run against the
listening thread.

A step is a part of a mutex-held section that no step without the mutex can
split, or an access without the mutex.  A new thread first waits for the mutex, so
starting it, clearing the breaker and going to wait are one step; a call that
finds the thread running reads `listen_sock_` in a second step.  Results of system
calls are chosen by the action.  `pthread_join` refuses a thread that another call
is joining already, and `join` refuses the thread it is called on.
-/

namespace Skplat
namespace TcpServer

/-- What `poll` reports to the listening thread. -/
inductive Polled
  | failed
  | ready (breakerException breakIn socketException readable : Bool)
  deriving DecidableEq, Repr

/-- How the set-up section ends. -/
inductive SetUp
  | socketFailed
  | reuseaddrFailed
  | bindFailed
  | listenFailed
  | listening
  deriving DecidableEq, Repr

/-- Where the listening thread stands.  A `poll` over a pipe that was closed or
replaced in the meantime is stale. -/
inductive ListenPc
  | notRunning
  | created
  | onCreate
  | top
  | polling (stale : Bool)
  | polled (result : Polled)
  | accepting
  | onAccept
  | left
  | onError
  deriving DecidableEq, Repr

/-- Where a call stands.  A `StopAndWait` remembers whether no `StartAndWait` has
begun since its `Break`. -/
inductive CallPc
  | idle
  | startFound
  | waiting
  | notified
  | stopClosing
  | stopReCreating
  | stopTesting (undisturbed : Bool)
  | stopJoining (undisturbed : Bool)
  | joining (thread : Nat) (undisturbed : Bool)
  deriving DecidableEq, Repr

/-- A server with its threads and its history. -/
structure State (n : Nat) where
  /-- `listen_sock_` is valid. -/
  listenSock : Bool
  /-- `breaker_`. -/
  breaker : SocketSelectBreaker
  /-- The call that holds `mutex_` between two steps. -/
  mutex : Option (Fin n)
  /-- The listening thread. -/
  listener : ListenPc
  /-- Number of listening threads so far. -/
  threads : Nat
  /-- The calls of `StartAndWait` and `StopAndWait`. -/
  calls : Fin n → CallPc
  /-- `Break` was called since the last listening thread was started. -/
  brokenSince : Bool
  /-- A `StartAndWait` was granted the socket, and since then there was no `Break`,
  no exception and no failed `accept`. -/
  granted : Bool
  /-- The listening thread closed its socket although it was granted. -/
  undone : Bool
  /-- A `StopAndWait` returned with no `StartAndWait` begun after its `Break`, but
  left the socket open or the thread running. -/
  unstopped : Bool

/-- One step. -/
inductive Action (n : Nat)
  | start (call : Fin n) (created : Bool)
  | startReturn (call : Fin n)
  | spuriousWake (call : Fin n)
  | wake (call : Fin n)
  | stop (call : Fin n) (written : Int)
  | stopClose (call : Fin n)
  | stopReCreate (call : Fin n) (result : CreateResult)
  | stopTest (call : Fin n)
  | stopJoin (call : Fin n) (self : Bool)
  | joined (call : Fin n)
  | setUp (result : SetUp)
  | created
  | select
  | pollReturn (result : Polled)
  | test
  | accept (accepted : Bool)
  | accepted
  | close
  | errorDone
  deriving DecidableEq

/-- Unread bytes in the pipe. -/
def pendingBytes : Pipes → Nat
  | .opened bytes => bytes
  | _ => 0

/-- The result of a non-blocking `read` of 128 bytes. -/
def readResult : Pipes → Int
  | .opened 0 => -1
  | .opened bytes => (min bytes 128 : Nat)
  | _ => -1

/-- A `StartAndWait` begins. -/
def CallPc.disturb : CallPc → CallPc
  | .stopTesting _ => .stopTesting false
  | .stopJoining _ => .stopJoining false
  | .joining thread _ => .joining thread false
  | pc => pc

/-- `cond_.notifyAll()` reaches a waiting call. -/
def CallPc.notify : CallPc → CallPc
  | .waiting => .notified
  | pc => pc

/-- The listening thread is in one of its callbacks. -/
def ListenPc.inCallback : ListenPc → Bool
  | .onCreate | .onAccept | .onError => true
  | _ => false

/-- The pipe of a running `poll` is closed or replaced.  The tests after it look
the breaker up by its new descriptor, so what they find is open again. -/
def ListenPc.swapPipe : ListenPc → ListenPc
  | .polling _ | .polled _ => .polling true
  | pc => pc

/-- The call is joining this thread. -/
def CallPc.joins (thread : Nat) : CallPc → Bool
  | .joining joinedThread _ => joinedThread == thread
  | _ => false

namespace State

variable {n : Nat}

/-- Move one call. -/
def setCall (state : State n) (call : Fin n) (pc : CallPc) : State n :=
  { state with calls := Function.update state.calls call pc }

/-- The account of the calls when a `StartAndWait` begins. -/
def disturb (state : State n) : State n :=
  { state with calls := fun call => (state.calls call).disturb }

/-- `cond_.notifyAll()`. -/
def notifyAll (state : State n) : State n :=
  { state with calls := fun call => (state.calls call).notify }

/-- `StopAndWait` returns. -/
def stopReturn (state : State n) (call : Fin n) (undisturbed : Bool) : State n :=
  { state with
    unstopped := state.unstopped ||
      (undisturbed &&
        (state.listenSock || decide (state.listener ≠ ListenPc.notRunning)))
    }.setCall call .idle

/-- Steps of `StartAndWait`. -/
def stepStart (state : State n) : Action n → Option (State n)
  | .start call created =>
      if state.calls call = .idle ∧ state.mutex = none then
        if state.listener = .notRunning then
          let cleared := { state.disturb with
            breaker := state.breaker.clear (readResult state.breaker.pipes) }
          if created then
            some ({ cleared with
              listener := .created
              threads := state.threads + 1
              brokenSince := false
              granted := true }.setCall call .waiting)
          else some (cleared.setCall call .waiting)
        else
          some ({ state.disturb with
            mutex := some call }.setCall call .startFound)
      else none
  | .startReturn call =>
      if state.calls call = .startFound then
        some ({ state with
          mutex := none
          granted := state.granted || state.listenSock }.setCall call .idle)
      else none
  | .spuriousWake call =>
      if state.calls call = .waiting then some (state.setCall call .notified)
      else none
  | .wake call =>
      if state.calls call = .notified ∧ state.mutex = none then
        some (state.setCall call .idle)
      else none
  | _ => none

/-- Steps of `StopAndWait`. -/
def stepStop (state : State n) : Action n → Option (State n)
  | .stop call written =>
      if state.calls call = .idle ∧ state.mutex = none ∧
          (state.breaker.broken = true ∨
            SocketSelectBreaker.Pipes.canWrite state.breaker.pipes
              written = true) then
        let broken := { state with
          breaker := state.breaker.breakPipe written
          brokenSince := true
          granted := false }
        if broken.breaker.broken then
          some (broken.setCall call (.stopTesting true))
        else
          some ({ broken with mutex := some call }.setCall call .stopClosing)
      else none
  | .stopClose call =>
      if state.calls call = .stopClosing then
        some ({ state with
          breaker := state.breaker.close
          listener := state.listener.swapPipe }.setCall call .stopReCreating)
      else none
  | .stopReCreate call result =>
      if state.calls call = .stopReCreating then
        some ({ state with
          breaker := state.breaker.reCreate result
          mutex := none
          listener := state.listener.swapPipe }.setCall call
            (.stopTesting true))
      else none
  | .stopTest call =>
      match state.calls call with
      | .stopTesting undisturbed =>
          if state.listener = .notRunning then
            some (state.stopReturn call undisturbed)
          else some (state.setCall call (.stopJoining undisturbed))
      | _ => none
  | .stopJoin call self =>
      match state.calls call with
      | .stopJoining undisturbed =>
          if self = true ∧ state.listener.inCallback = false then none
          else if self = true ∨ state.listener = .notRunning ∨
              ∃ other, (state.calls other).joins state.threads = true then
            some (state.stopReturn call undisturbed)
          else some (state.setCall call (.joining state.threads undisturbed))
      | _ => none
  | .joined call =>
      match state.calls call with
      | .joining thread undisturbed =>
          if thread ≠ state.threads ∨ state.listener = .notRunning then
            some (state.stopReturn call undisturbed)
          else none
      | _ => none
  | _ => none

/-- `poll` can report this.  A poll of the current pipe sees exactly whether it
holds a byte, and reports something. -/
def canPoll (state : State n) (stale : Bool) : Polled → Bool
  | .failed => true
  | .ready breakerException breakIn socketException readable =>
      if stale then
        !breakIn || 0 < pendingBytes state.breaker.pipes
      else
        breakIn == decide (0 < pendingBytes state.breaker.pipes) &&
          (breakerException || breakIn || socketException || readable)

/-- The listening thread leaves its loop, because of an exception, a failed call
or something unknown. -/
def leave (state : State n) : State n :=
  { state with listener := .left, granted := false }

/-- Steps of the listening thread. -/
def stepListen (state : State n) : Action n → Option (State n)
  | .setUp result =>
      if state.listener = .created ∧ state.mutex = none then
        match result with
        | .listening =>
            some { state.notifyAll with listenSock := true, listener := .onCreate }
        | .socketFailed | .reuseaddrFailed | .bindFailed | .listenFailed =>
            some { state.notifyAll with listener := .left, granted := false }
      else none
  | .created =>
      if state.listener = .onCreate then some { state with listener := .top }
      else none
  | .select =>
      if state.listener = .top then
        some { state with
          listener := .polling (decide (state.breaker.pipes = .closed)) }
      else none
  | .pollReturn result =>
      match state.listener with
      | .polling stale =>
          if state.canPoll stale result then
            some { state with listener := .polled result }
          else none
      | _ => none
  | .test =>
      match state.listener with
      | .polled .failed => some state.leave
      | .polled (.ready breakerException breakIn socketException readable) =>
          if breakerException then some state.leave
          else if breakIn then some { state with listener := .left }
          else if socketException then some state.leave
          else if readable then some { state with listener := .accepting }
          else some state.leave
      | _ => none
  | .accept accepted =>
      if state.listener = .accepting then
        if accepted then some { state with listener := .onAccept }
        else some state.leave
      else none
  | .accepted =>
      if state.listener = .onAccept then some { state with listener := .top }
      else none
  | .close =>
      if state.listener = .left then
        some { state with
          listenSock := false
          listener := .onError
          undone := state.undone || (state.listenSock && state.granted) }
      else none
  | .errorDone =>
      if state.listener = .onError then
        some { state with listener := .notRunning }
      else none
  | _ => none

/-- One step of the system. -/
def step (state : State n) (action : Action n) : Option (State n) :=
  (state.stepStart action).or
    ((state.stepStop action).or (state.stepListen action))

/-- A new server. -/
def new (result : CreateResult) : State n where
  listenSock := false
  breaker := .new result
  mutex := none
  listener := .notRunning
  threads := 0
  calls := fun _ => .idle
  brokenSince := false
  granted := false
  undone := false
  unstopped := false

end State

/-- The system with this many callers. -/
def system (n : Nat) : Machine (State n) (Action n) where
  initial := fun state => ∃ result, state = State.new result
  step := State.step

/-- The call of a system with a single one. -/
def onlyCall : Fin 1 := Fin.last 0

end TcpServer
end Skplat
