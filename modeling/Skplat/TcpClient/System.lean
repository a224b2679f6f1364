import Skplat.Machine.Basic
import Skplat.Utils.AutoBuffer
import Skplat.Utils.SocketSelectBreaker

/-!
# The TCP client as a system of threads

One socket thread runs `TcpClient::__Run` while any number of calls of `Write`,
`WritePostData`, `Read` and `Disconnect` run on other threads or inside its
callbacks.  A step is a mutex-held section, a `poll`, a `Break`, a `Clear`, a
callback, or an access without a mutex.  Calls keep their mutex across their
`Break`, so the two mutexes are part of the state.

Results of system calls are chosen by the action.  A `send` accepts at most
what it is offered and never more than `0x7ffff000` bytes at once.  Taking the
front of an empty list has no defined effect and leads to the `undefined` point.
-/

namespace Skplat
namespace TcpClient

/-- `TTcpStatus`. -/
inductive Status
  | kTcpInit
  | kTcpInitErr
  | kSocketThreadStart
  | kSocketThreadStartErr
  | kTcpConnecting
  | kTcpConnectIpErr
  | kTcpConnectingErr
  | kTcpConnectTimeoutErr
  | kTcpConnected
  | kTcpIOErr
  | kTcpDisConnectedbyRemote
  | kTcpDisConnected
  deriving DecidableEq, Repr

/-- Bytes passed to `Write` or `WritePostData`, whose length is an
`unsigned int`. -/
abbrev Payload := { data : List UInt8 // data.length < 2 ^ 32 }

/-- What `poll` reports about the socket.  Writability is reported only if the
socket is in the write set; a hang-up counts as readable even outside the read
set. -/
inductive PollResult
  | failed
  | ready (exception readable writable : Bool)
  deriving DecidableEq, Repr

/-- What the peeking `recv` of the read branch returns. -/
inductive RecvResult
  | data
  | closed
  | again
  | failed
  deriving DecidableEq, Repr

/-- Where the socket thread stands. -/
inductive LoopPc
  | notStarted
  | connecting
  | connectPolling
  | connectClearing (failure : Option Status)
  | connectTesting
  | onConnect
  | top
  | readTested (inRead : Bool)
  | polling (inRead inWrite : Bool)
  | clearing (result : PollResult)
  | testing (result : PollResult)
  | reading (readable writable : Bool)
  | onRead (writable : Bool)
  | writing (writable : Bool)
  | onWrote (len : Nat)
  | allTesting
  | onAllWrote (checked : Nat)
  | finished
  | undefined
  deriving DecidableEq, Repr

/-- Where a call stands.  The `Breaking` points lie between its change and its
`Break`. -/
inductive CallPc
  | idle
  | writing (data : Payload) (post : Bool)
  | writeBreaking (index : Nat)
  | reading
  | readBreaking
  | disconnecting
  | disconnectBreaking
  deriving DecidableEq

/-- A client with its threads and its history. -/
structure State where
  /-- `status_`. -/
  status : Status
  /-- `have_read_date_`. -/
  haveReadDate : Bool
  /-- `will_disconnect_`. -/
  willDisconnect : Bool
  /-- `writedbufid_`. -/
  writedbufid : Int
  /-- `lst_buffer_`. -/
  lstBuffer : List AutoBuffer
  /-- `pipe_`. -/
  pipe : Breaker
  /-- The call that holds `write_mutex_` across its `Break`. -/
  writeMutex : Option Nat
  /-- The call that holds `read_disconnect_mutex_` across its `Break`. -/
  readDisconnectMutex : Option Nat
  /-- The socket thread. -/
  loop : LoopPc
  /-- The local variable `write_id` of the socket thread. -/
  writeId : Int
  /-- The calls. -/
  calls : Nat → CallPc
  /-- Buffers accepted so far, in the order of the list. -/
  accepted : List (List UInt8)
  /-- Values returned by `Write` and `WritePostData`, each with the position of
  its buffer among the accepted ones. -/
  returned : List (Int × Nat)
  /-- Bytes accepted by `send`. -/
  sent : List UInt8
  /-- `OnWrote` callbacks. -/
  wrote : List (Int × Nat)
  /-- For each `OnAllWrote` callback the number of buffers accepted when the
  preceding test found the list empty, and when the callback was issued. -/
  allWrote : List (Nat × Nat)

/-- The value of an `int` after an arithmetic operation or a conversion. -/
def toInt32 (value : Int) : Int :=
  Int.bmod value (2 ^ 32)

/-- A value in the range of `int` is its own value as an `int`. -/
theorem toInt32_eq_self
    {value : Int}
    (lower : -2 ^ 31 ≤ value)
    (upper : value < 2 ^ 31) :
    toInt32 value = value :=
  Int.bmod_eq_of_le (by omega) (by omega)

/-- The largest count one `send` returns. -/
def sendMax : Nat := 0x7ffff000

/-- One step. -/
inductive Action
  | writeCheck (call : Nat) (data : Payload) (post : Bool)
  | writePush (call : Nat)
  | writeBreak (call : Nat)
  | readCheck (call : Nat)
  | readRecv (call : Nat)
  | readBreak (call : Nat)
  | disconnectCheck (call : Nat)
  | disconnectSet (call : Nat)
  | disconnectBreak (call : Nat)
  | connect
  | connectFail (status : Status)
  | connectSelect
  | connectPollReturn (failure : Option Status)
  | connectClear
  | connectTest
  | connected
  | readTest
  | writeTest
  | pollReturn (result : PollResult)
  | clear
  | disconnectTest
  | readBranch (result : RecvResult)
  | readDone
  | writeBranch (result : Int) (again : Bool)
  | wroteDone
  | allTest
  | allWroteDone
  deriving DecidableEq

namespace State

/-- Move one call. -/
def setCall (state : State) (call : Nat) (pc : CallPc) : State :=
  { state with calls := Function.update state.calls call pc }

/-- `__SendBreak`.  A pipe with at most one byte takes another one. -/
def sendBreak (state : State) : State :=
  { state with pipe := state.pipe.breakPipe true }

/-- The buffer that `Write` or `WritePostData` makes of its data. -/
def bufferOf (data : List UInt8) (post : Bool) : AutoBuffer :=
  if post then AutoBuffer.new.attach data
  else AutoBuffer.new.write 0 data (Nat.zero_le _)

/-- Steps of the calls. -/
def stepCall (state : State) : Action → Option State
  | .writeCheck call data post =>
      if state.calls call = .idle then
        if state.status = .kTcpConnected then
          some (state.setCall call (.writing data post))
        else some state
      else none
  | .writePush call =>
      match state.calls call with
      | .writing data post =>
          if state.writeMutex = none then
            some ({ state with
              lstBuffer := state.lstBuffer ++ [bufferOf data.val post]
              writedbufid := toInt32 (state.writedbufid + 1)
              writeMutex := some call
              accepted := state.accepted ++ [data.val] }.setCall call
                (.writeBreaking state.accepted.length))
          else none
      | _ => none
  | .writeBreak call =>
      match state.calls call with
      | .writeBreaking index =>
          some ({ state with
            writeMutex := none
            returned := state.returned ++
              [(state.writedbufid, index)] }.sendBreak.setCall call .idle)
      | _ => none
  | .readCheck call =>
      if state.calls call = .idle then
        if state.status = .kTcpConnected then
          some (state.setCall call .reading)
        else some state
      else none
  | .readRecv call =>
      if state.calls call = .reading ∧ state.readDisconnectMutex = none then
        some ({ state with
          haveReadDate := false
          readDisconnectMutex := some call }.setCall call .readBreaking)
      else none
  | .readBreak call =>
      if state.calls call = .readBreaking then
        some ({ state with
          readDisconnectMutex := none }.sendBreak.setCall call .idle)
      else none
  | .disconnectCheck call =>
      if state.calls call = .idle then
        if state.willDisconnect then some state
        else some (state.setCall call .disconnecting)
      else none
  | .disconnectSet call =>
      if state.calls call = .disconnecting ∧
          state.readDisconnectMutex = none then
        some ({ state with
          willDisconnect := true
          readDisconnectMutex := some call }.setCall call .disconnectBreaking)
      else none
  | .disconnectBreak call =>
      if state.calls call = .disconnectBreaking then
        some ({ state with
          readDisconnectMutex := none }.sendBreak.setCall call .idle)
      else none
  | _ => none

/-- End the socket thread with a status. -/
def finish (state : State) (status : Status) : State :=
  { state with status := status, loop := .finished }

/-- Steps of the socket thread until it is connected. -/
def stepConnect (state : State) : Action → Option State
  | .connect =>
      if state.loop = .notStarted ∧ state.status = .kTcpInit then
        some { state with status := .kTcpConnecting, loop := .connecting }
      else none
  | .connectFail status =>
      if state.loop = .connecting ∧
          (status = .kTcpConnectIpErr ∨ status = .kTcpConnectingErr) then
        some (state.finish status)
      else none
  | .connectSelect =>
      if state.loop = .connecting then
        some { state with loop := .connectPolling }
      else none
  | .connectPollReturn failure =>
      if state.loop = .connectPolling ∧
          (failure = none ∨ failure = some .kTcpConnectTimeoutErr ∨
            failure = some .kTcpConnectingErr) then
        some { state with loop := .connectClearing failure }
      else none
  | .connectClear =>
      match state.loop with
      | .connectClearing failure =>
          let cleared := { state with pipe := state.pipe.clear }
          match failure with
          | some status => some (cleared.finish status)
          | none => some { cleared with loop := .connectTesting }
      | _ => none
  | .connectTest =>
      if state.loop = .connectTesting then
        if state.willDisconnect then some (state.finish .kTcpDisConnected)
        else some { state with status := .kTcpConnected, loop := .onConnect }
      else none
  | .connected =>
      if state.loop = .onConnect then some { state with loop := .top }
      else none
  | _ => none

/-- The write branch on the front buffer, with the value returned by `send`. -/
def sendFront
    (state : State) (buffer : AutoBuffer) (rest : List AutoBuffer)
    (result : Int) (again : Bool) : Option State :=
  if buffer.pos < buffer.length then
    if -1 ≤ result ∧ result ≤ buffer.length - buffer.pos ∧
        result ≤ sendMax then
      let sendLen := toInt32 result
      let sent := state.sent ++ buffer.bytesAtPos result.toNat
      if sendLen = 0 ∨ (sendLen < 0 ∧ again = false) then
        some ({ state with sent := sent }.finish .kTcpIOErr)
      else if 0 < sendLen then
        some { state with
          lstBuffer := buffer.seek sendLen .seekCur :: rest
          sent := sent
          loop := .top }
      else some { state with sent := sent, loop := .top }
    else none
  else
    some { state with
      lstBuffer := rest
      loop := .onWrote (buffer.length % 2 ^ 32) }

/-- Steps of the read/write loop. -/
def stepLoop (state : State) : Action → Option State
  | .readTest =>
      if state.loop = .top then
        some { state with loop := .readTested (!state.haveReadDate) }
      else none
  | .writeTest =>
      match state.loop with
      | .readTested inRead =>
          if state.writeMutex = none then
            some { state with
              loop := .polling inRead (!state.lstBuffer.isEmpty) }
          else none
      | _ => none
  | .pollReturn result =>
      match state.loop, result with
      | .polling _ _, .failed => some { state with loop := .clearing .failed }
      | .polling _ inWrite, .ready exception readable writable =>
          if (writable → inWrite) ∧
              (exception ∨ readable ∨ writable ∨ 0 < state.pipe.bytes) then
            some { state with
              loop := .clearing (.ready exception readable writable) }
          else none
      | _, _ => none
  | .clear =>
      match state.loop with
      | .clearing result =>
          some { state with pipe := state.pipe.clear, loop := .testing result }
      | _ => none
  | .disconnectTest =>
      match state.loop with
      | .testing .failed => some (state.finish .kTcpIOErr)
      | .testing (.ready exception readable writable) =>
          if state.willDisconnect then some (state.finish .kTcpDisConnected)
          else if exception then some (state.finish .kTcpIOErr)
          else some { state with loop := .reading readable writable }
      | _ => none
  | .readBranch result =>
      match state.loop with
      | .reading false writable => some { state with loop := .writing writable }
      | .reading true writable =>
          if state.readDisconnectMutex = none then
            match result with
            | .data =>
                some { state with haveReadDate := true, loop := .onRead writable }
            | .closed =>
                some ({ state with haveReadDate := false }.finish
                  .kTcpDisConnected)
            | .again => some { state with loop := .writing writable }
            | .failed => some (state.finish .kTcpIOErr)
          else none
      | _ => none
  | .readDone =>
      match state.loop with
      | .onRead writable => some { state with loop := .writing writable }
      | _ => none
  | .writeBranch result again =>
      match state.loop with
      | .writing false => some { state with loop := .top }
      | .writing true =>
          if state.writeMutex = none then
            match state.lstBuffer with
            | [] => some { state with loop := .undefined }
            | buffer :: rest => state.sendFront buffer rest result again
          else none
      | _ => none
  | .wroteDone =>
      match state.loop with
      | .onWrote len =>
          some { state with
            writeId := toInt32 (state.writeId + 1)
            wrote := state.wrote ++ [(toInt32 (state.writeId + 1), len)]
            loop := .allTesting }
      | _ => none
  | .allTest =>
      if state.loop = .allTesting ∧ state.writeMutex = none then
        if state.lstBuffer.isEmpty then
          some { state with loop := .onAllWrote state.accepted.length }
        else some { state with loop := .top }
      else none
  | .allWroteDone =>
      match state.loop with
      | .onAllWrote checked =>
          some { state with
            allWrote := state.allWrote ++ [(checked, state.accepted.length)]
            loop := .top }
      | _ => none
  | _ => none

/-- One step of the system. -/
def step (state : State) (action : Action) : Option State :=
  match state.stepCall action with
  | some next => some next
  | none =>
      match state.stepConnect action with
      | some next => some next
      | none => state.stepLoop action

end State

/-- A new client. -/
def State.new : State where
  status := .kTcpInit
  haveReadDate := false
  willDisconnect := false
  writedbufid := 0
  lstBuffer := []
  pipe := .new
  writeMutex := none
  readDisconnectMutex := none
  loop := .notStarted
  writeId := 0
  calls := fun _ => .idle
  accepted := []
  returned := []
  sent := []
  wrote := []
  allWrote := []

/-- The client as a system. -/
def system : Machine State Action where
  initial := fun state => state = .new
  step := State.step

/-- Three bytes to write. -/
def threeBytes : Payload := ⟨[1, 2, 3], by decide⟩

/-- The socket thread connects and enters its loop. -/
def connectActions : List Action :=
  [.connect, .connectSelect, .connectPollReturn none, .connectClear,
    .connectTest, .connected]

end TcpClient
end Skplat
