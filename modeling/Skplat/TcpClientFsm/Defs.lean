import Skplat.SocketSelect.Defs
import Skplat.TcpClient.System

/-!
# The connection state machine

`TcpClientFSM` drives one nonblocking connection through `EStart`, `EConnecting`,
`EReadWrite` and `EEnd`.  `PreSelect` registers its socket with a select and
`AfterSelect` acts on the result.  Its callbacks are virtual, so the functions
here return the callbacks they make, together with the socket they create or
close.  Results of system calls, readings of the clock and the virtual timeouts
are arguments.
-/

namespace Skplat

open TcpClient (toInt32)

/-- `TSocketStatus`. -/
inductive TSocketStatus
  | eStart
  | eConnecting
  | eReadWrite
  | eEnd
  deriving DecidableEq, Repr

/-- The position of a status in the enumeration. -/
def TSocketStatus.rank : TSocketStatus → Nat
  | .eStart => 0
  | .eConnecting => 1
  | .eReadWrite => 2
  | .eEnd => 3

/-! ## Error numbers -/

def eAgain : Int := 11
def eTimedOut : Int := 110
def eInProgress : Int := 115

/-- `IS_NOBLOCK_CONNECT_ERRNO`. -/
def isNoblockConnectErrno (errno : Int) : Bool :=
  errno == eInProgress

/-- `IS_NOBLOCK_SEND_ERRNO` and `IS_NOBLOCK_READ_ERRNO`; `EWOULDBLOCK` is
`EAGAIN`. -/
def isNoblockErrno (errno : Int) : Bool :=
  errno == eAgain

/-- A callback of the machine. -/
inductive Callback
  | onCreate
  | onConnect
  | onConnected (rtt : Int)
  | onRequestSend
  | onSend (len : Int)
  | onRecv (len : Nat)
  | onClose (status : TSocketStatus) (error : Int) (userclose : Bool)
  deriving DecidableEq, Repr

/-- What a function of the machine does besides changing its fields. -/
structure Output where
  callbacks : List Callback
  /-- The socket created by `socket`. -/
  created : Option Int
  /-- The socket closed by `socket_close`. -/
  closed : Option Int
  deriving DecidableEq, Repr

/-- Callbacks only. -/
def Output.calls (callbacks : List Callback) : Output :=
  ⟨callbacks, none, none⟩

/-- Results of the system calls of `PreConnectSelect`. -/
structure ConnectCalls where
  /-- The result of `socket`, or none. -/
  socket : Option Int
  socketErrno : Int
  /-- `errno` of a failed `socket_set_nobio`. -/
  nobioErrno : Option Int
  startTime : Nat
  /-- `errno` of a `connect` that did not return 0. -/
  connectErrno : Option Int
  endTime : Nat
  deriving DecidableEq, Repr

/-- Results of the system calls of `AfterConnectSelect`. -/
structure ConnectedCalls where
  /-- `ConnectTimeout()`. -/
  timeout : Int
  /-- `SO_ERROR`, or `errno` if it cannot be read, after an exception. -/
  exceptionError : Int
  /-- `socket_error()`. -/
  socketError : Int
  endTime : Nat
  deriving DecidableEq, Repr

/-- The result of `recv`. -/
inductive RecvResult
  | data (first : UInt8) (rest : List UInt8)
  | closed
  | failed (errno : Int)
  deriving DecidableEq, Repr

/-- Results of the system calls of `AfterReadWriteSelect`. -/
structure ReadWriteCalls where
  /-- `ReadWriteTimeout()`. -/
  timeout : Int
  /-- `SO_ERROR`, or `errno` if it cannot be read, after an exception. -/
  exceptionError : Int
  sendRet : Int
  sendErrno : Int
  recv : RecvResult
  deriving DecidableEq, Repr

/-- The fields of a `TcpClientFSM`. -/
structure TcpClientFsm where
  /-- `status_`. -/
  status : TSocketStatus
  /-- `last_status_`. -/
  lastStatus : TSocketStatus
  /-- `error_`. -/
  error : Int
  /-- `remote_close_`. -/
  remoteClose : Bool
  /-- `request_send_`. -/
  requestSend : Bool
  /-- `sock_`, none if invalid. -/
  sock : Option Int
  /-- `start_connecttime_`. -/
  startConnecttime : Nat
  /-- `end_connecttime_`. -/
  endConnecttime : Nat
  /-- The content of `send_buf_`. -/
  sendBuf : List UInt8
  /-- The content of `recv_buf_`. -/
  recvBuf : List UInt8
  deriving DecidableEq, Repr

namespace TcpClientFsm

/-- The constructor. -/
def new : TcpClientFsm where
  status := .eStart
  lastStatus := .eStart
  error := 0
  remoteClose := false
  requestSend := false
  sock := none
  startConnecttime := 0
  endConnecttime := 0
  sendBuf := []
  recvBuf := []

/-- `RequestSend()`. -/
def request (fsm : TcpClientFsm) : TcpClientFsm :=
  { fsm with requestSend := true }

/-- `Rtt()`. -/
def rtt (fsm : TcpClientFsm) : Int :=
  toInt32 (fsm.endConnecttime - fsm.startConnecttime)

/-- Leave the current status. -/
def enter (fsm : TcpClientFsm) (status : TSocketStatus) : TcpClientFsm :=
  { fsm with lastStatus := fsm.status, status := status }

/-- `Close()`. -/
def close (fsm : TcpClientFsm) (notify : Bool) : TcpClientFsm × Output :=
  match fsm.sock with
  | none => (fsm, .calls [])
  | some sock =>
      if fsm.remoteClose ∨ 0 ≠ fsm.error then
        ({ fsm with sock := none }, ⟨[], none, some sock⟩)
      else
        ({ fsm.enter .eEnd with sock := none, error := 0 },
          ⟨if notify then [.onClose fsm.status (-1) fsm.remoteClose] else [],
            none, some sock⟩)

/-- `_sel.Write_FD_SET(sock_)` and `_sel.Exception_FD_SET(sock_)`. -/
def watchConnect (sel : SocketSelect) : Option Int → SocketSelect
  | some sock => (sel.writeFdSet sock).exceptionFdSet sock
  | none => sel

/-- The call of `connect` in `PreConnectSelect()`. -/
def callConnect
    (fsm : TcpClientFsm)
    (sel : SocketSelect)
    (calls : ConnectCalls) : TcpClientFsm × SocketSelect :=
  let started : TcpClientFsm := { fsm with startConnecttime := calls.startTime }
  match calls.connectErrno with
  | none => (started, watchConnect sel started.sock)
  | some errno =>
      if isNoblockConnectErrno errno then
        (started, watchConnect sel started.sock)
      else
        ({ started with endConnecttime := calls.endTime, error := errno }, sel)

/-- The part of `PreConnectSelect()` after the socket is in nonblocking mode. -/
def connect (fsm : TcpClientFsm) (sel : SocketSelect) (calls : ConnectCalls) :
    TcpClientFsm × SocketSelect × List Callback :=
  let called := fsm.callConnect sel calls
  if called.1.error ≠ 0 then (called.1.enter .eEnd, called.2, [])
  else (called.1.enter .eConnecting, called.2, [.onConnect])

/-- `PreConnectSelect()`. -/
def preConnectSelect
    (fsm : TcpClientFsm)
    (sel : SocketSelect)
    (calls : ConnectCalls) : TcpClientFsm × SocketSelect × Output :=
  match calls.socket with
  | none =>
      let ended := { fsm with sock := none, error := calls.socketErrno }
      (ended.enter .eEnd, sel,
        .calls [.onCreate, .onClose fsm.status calls.socketErrno false])
  | some sock =>
      let opened : TcpClientFsm := { fsm with
        sock := some sock
        error := calls.nobioErrno.getD fsm.error }
      if opened.error ≠ 0 then
        (opened.enter .eEnd, sel,
          ⟨[.onCreate, .onClose fsm.status opened.error false], some sock, none⟩)
      else
        let connected := opened.connect sel calls
        (connected.1, connected.2.1,
          ⟨.onCreate :: connected.2.2, some sock, none⟩)

/-- `PreReadWriteSelect()`. -/
def preReadWriteSelect (fsm : TcpClientFsm) (sel : SocketSelect) :
    SocketSelect :=
  match fsm.sock with
  | none => sel
  | some sock =>
      let sel := (sel.readFdSet sock).exceptionFdSet sock
      if 0 < fsm.sendBuf.length ∨ fsm.requestSend then sel.writeFdSet sock
      else sel

/-- `PreSelect()`. -/
def preSelect
    (fsm : TcpClientFsm)
    (sel : SocketSelect)
    (calls : ConnectCalls) : TcpClientFsm × SocketSelect × Output :=
  match fsm.status with
  | .eStart => fsm.preConnectSelect sel calls
  | .eConnecting => (fsm, watchConnect sel fsm.sock, .calls [])
  | .eReadWrite => (fsm, fsm.preReadWriteSelect sel, .calls [])
  | .eEnd => (fsm, sel, .calls [])

/-- What a select reports for the socket. -/
structure Ready where
  exception : Bool
  readable : Bool
  writable : Bool
  deriving DecidableEq, Repr

/-- The `FD_ISSET` functions at `sock_`. -/
def ready (fsm : TcpClientFsm) (sel : SocketSelect) : Ready :=
  match fsm.sock with
  | none => ⟨false, false, false⟩
  | some sock =>
      ⟨sel.exceptionFdIsSet sock != 0, sel.readFdIsSet sock != 0,
        sel.writeFdIsSet sock != 0⟩

/-- `AfterConnectSelect()`. -/
def afterConnectSelect
    (fsm : TcpClientFsm)
    (ready : Ready)
    (calls : ConnectedCalls) : TcpClientFsm × List Callback :=
  let ended := { fsm with endConnecttime := calls.endTime }
  if ready.exception then
    ({ ended with error := calls.exceptionError }.enter .eEnd, [])
  else if 0 ≠ calls.socketError then
    ({ ended with error := calls.socketError }.enter .eEnd, [])
  else if ready.writable then
    let connected := { ended with error := 0 }.enter .eReadWrite
    (connected, [.onConnected connected.rtt])
  else if 0 ≥ calls.timeout then
    ({ ended with error := eTimedOut }.enter .eEnd, [])
  else ({ fsm with error := 0 }, [])

/-- The write branch of `AfterReadWriteSelect()`, which may end the machine. -/
def sendBranch (fsm : TcpClientFsm) (calls : ReadWriteCalls) :
    TcpClientFsm × List Callback :=
  let (fsm, callbacks) :=
    if fsm.requestSend ∧ 0 = fsm.sendBuf.length then
      ({ fsm with requestSend := false }, [.onRequestSend])
    else (fsm, [])
  if 0 < calls.sendRet then
    ({ fsm with sendBuf := fsm.sendBuf.drop calls.sendRet.toNat },
      callbacks ++ [.onSend calls.sendRet])
  else if isNoblockErrno calls.sendErrno then (fsm, callbacks)
  else ({ fsm with error := calls.sendErrno }.enter .eEnd, callbacks)

/-- The read branch of `AfterReadWriteSelect()`, which may end the machine. -/
def recvBranch (fsm : TcpClientFsm) : RecvResult → TcpClientFsm × List Callback
  | .data first rest =>
      ({ fsm with recvBuf := fsm.recvBuf ++ first :: rest },
        [.onRecv (rest.length + 1)])
  | .closed =>
      ({ fsm with error := 0, remoteClose := true }.enter .eEnd, [])
  | .failed errno =>
      if isNoblockErrno errno then (fsm, [])
      else ({ fsm with error := errno }.enter .eEnd, [])

/-- `AfterReadWriteSelect()`. -/
def afterReadWriteSelect
    (fsm : TcpClientFsm)
    (ready : Ready)
    (calls : ReadWriteCalls) : TcpClientFsm × List Callback :=
  if ready.exception then
    ({ fsm with error := calls.exceptionError }.enter .eEnd, [])
  else
    let (fsm, sent) :=
      if ready.writable then fsm.sendBranch calls else (fsm, [])
    if fsm.status = .eEnd then (fsm, sent)
    else
      let (fsm, received) :=
        if ready.readable then fsm.recvBranch calls.recv else (fsm, [])
      if fsm.status = .eEnd then (fsm, sent ++ received)
      else if !ready.writable ∧ !ready.readable ∧ 0 ≥ calls.timeout then
        ({ fsm with error := eTimedOut }.enter .eEnd, sent ++ received)
      else (fsm, sent ++ received)

/-- Results of the system calls of `AfterSelect`. -/
structure AfterCalls where
  connected : ConnectedCalls
  readWrite : ReadWriteCalls
  deriving DecidableEq, Repr

/-- The part of `AfterSelect()` that depends on the status. -/
def act
    (fsm : TcpClientFsm)
    (sel : SocketSelect)
    (calls : AfterCalls) : TcpClientFsm × List Callback :=
  match fsm.status with
  | .eConnecting => fsm.afterConnectSelect (fsm.ready sel) calls.connected
  | .eReadWrite => fsm.afterReadWriteSelect (fsm.ready sel) calls.readWrite
  | .eStart | .eEnd => (fsm, [])

/-- The `_OnClose` at the end of `AfterSelect()`. -/
def closing (fsm : TcpClientFsm) : List Callback :=
  if fsm.status = .eEnd ∧ fsm.sock ≠ none then
    [.onClose fsm.lastStatus fsm.error false]
  else []

/-- `AfterSelect()`. -/
def afterSelect
    (fsm : TcpClientFsm)
    (sel : SocketSelect)
    (calls : AfterCalls) : TcpClientFsm × Output :=
  let acted := fsm.act sel calls
  (acted.1, .calls (acted.2 ++ acted.1.closing))

end TcpClientFsm
end Skplat
