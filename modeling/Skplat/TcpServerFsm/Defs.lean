import Skplat.Machine.Basic
import Skplat.TcpFsm.Streams

/-!
# The state machine of an accepted connection

`TcpServerFSM` serves one accepted socket.  Its virtual callbacks are the user's,
who may call `Close` in them, so a call of the machine takes what the callbacks do as
an argument.  The machine keeps the history of its callbacks and of the sockets it
closes, the invalid one included.  Results of system calls are arguments too, and a
call has no result if they are impossible.
-/

namespace Skplat

/-- `TcpServerFSM::TSocketStatus`. -/
inductive ServerStatus
  | kAccept
  | kReadWrite
  | kEnd
  deriving DecidableEq, Repr

/-- A callback of the machine. -/
inductive ServerCallback
  | onAccept
  | onSend (len : Nat)
  | onRecv (len : Nat)
  | onClose (status : ServerStatus) (error : Int) (userclose : Bool)
  deriving DecidableEq, Repr

/-- The callback is `_OnClose`. -/
def ServerCallback.isClose : ServerCallback → Bool
  | .onClose _ _ _ => true
  | _ => false

/-- What a callback does: changes of the buffers, and calls of `Close`. -/
structure Reaction where
  edits : List Edit
  /-- The arguments `_notify`. -/
  closes : List Bool
  deriving DecidableEq, Repr

/-- The fields of a `TcpServerFSM`. -/
structure TcpServerFsm where
  /-- `status_`. -/
  status : ServerStatus
  /-- `sock_`, none if invalid. -/
  sock : Option Int
  /-- `is_write_fd_set_`. -/
  isWriteFdSet : Bool
  /-- `send_buf_` and `recv_buf_`. -/
  streams : Streams
  callbacks : List ServerCallback
  /-- The arguments of `socket_close`. -/
  closed : List (Option Int)
  /-- `Close(false)` closed the socket. -/
  silenced : Bool
  deriving DecidableEq, Repr

/-- Results of the system calls of `AfterReadWriteSelect`, and the callbacks. -/
structure ServerCalls where
  /-- `ReadWriteTimeout()`. -/
  timeout : Int
  /-- `SO_ERROR`, or `errno` if it cannot be read, after an exception. -/
  exceptionError : Int
  sendRet : Int
  sendErrno : Int
  recv : RecvResult
  onSend : Reaction
  onRecv : Reaction
  deriving DecidableEq, Repr

namespace TcpServerFsm

/-- The constructor. -/
def new (sock : Int) : TcpServerFsm where
  status := .kAccept
  sock := some sock
  isWriteFdSet := false
  streams := .new
  callbacks := []
  closed := []
  silenced := false

/-- The value of `sock_`. -/
def fd (fsm : TcpServerFsm) : Int :=
  fsm.sock.getD (-1)

/-- A callback is called. -/
def note (fsm : TcpServerFsm) (callback : ServerCallback) : TcpServerFsm :=
  { fsm with callbacks := fsm.callbacks ++ [callback] }

/-- `Close()`. -/
def close (fsm : TcpServerFsm) (notify : Bool) : TcpServerFsm :=
  if fsm.sock = none then fsm
  else
    let ended := { fsm with
      sock := none
      status := .kEnd
      closed := fsm.closed ++ [fsm.sock] }
    if notify then ended.note (.onClose fsm.status 0 true)
    else { ended with silenced := true }

/-- What a callback does. -/
def react (fsm : TcpServerFsm) (reaction : Reaction) : TcpServerFsm :=
  reaction.closes.foldl close
    { fsm with streams := fsm.streams.editAll reaction.edits }

/-- `socket_close`, `sock_ = INVALID_SOCKET`, `status_ = kEnd` and `_OnClose`. -/
def finish (fsm : TcpServerFsm) (error : Int) : TcpServerFsm :=
  { fsm with
    sock := none
    status := .kEnd
    closed := fsm.closed ++ [fsm.sock] }.note (.onClose .kReadWrite error false)

/-- `PreReadWriteSelect()`. -/
def preReadWriteSelect (fsm : TcpServerFsm) (sel : SocketSelect) :
    TcpServerFsm × SocketSelect :=
  let watched := (sel.readFdSet fsm.fd).exceptionFdSet fsm.fd
  if 0 < fsm.streams.sendBuf.length then
    ({ fsm with isWriteFdSet := true }, watched.writeFdSet fsm.fd)
  else ({ fsm with isWriteFdSet := false }, watched)

/-- The `_OnAccept` of `PreSelect()`. -/
def accept (fsm : TcpServerFsm) (onAccept : Reaction) : TcpServerFsm :=
  if fsm.status = .kAccept then
    { (fsm.note .onAccept).react onAccept with status := .kReadWrite }
  else fsm

/-- `PreSelect()`. -/
def preSelect
    (fsm : TcpServerFsm)
    (sel : SocketSelect)
    (onAccept : Reaction) : TcpServerFsm × SocketSelect :=
  let fsm := fsm.accept onAccept
  if fsm.status = .kReadWrite then fsm.preReadWriteSelect sel else (fsm, sel)

/-- The write branch of `AfterReadWriteSelect()`.  The flag tells that it returned. -/
def sendBranch (fsm : TcpServerFsm) (calls : ServerCalls) :
    Option (TcpServerFsm × Bool) :=
  if 0 < calls.sendRet then
    (fsm.streams.send calls.sendRet.toNat).map fun streams =>
      (({ fsm with streams := streams }.note (.onSend calls.sendRet.toNat)).react
        calls.onSend, false)
  else if isNoblockErrno calls.sendErrno then some (fsm, false)
  else some (fsm.finish calls.sendErrno, true)

/-- The read branch of `AfterReadWriteSelect()`.  The flag tells that it returned. -/
def recvBranch (fsm : TcpServerFsm) (calls : ServerCalls) :
    Option (TcpServerFsm × Bool) :=
  (fsm.streams.recv calls.recv).map fun streams =>
    let tried := { fsm with streams := streams }
    match calls.recv with
    | .data _ rest =>
        ((tried.note (.onRecv (rest.length + 1))).react calls.onRecv, false)
    | .closed => (tried.finish 0, true)
    | .failed errno =>
        if isNoblockErrno errno then (tried, false)
        else (tried.finish errno, true)

/-- The end of `AfterReadWriteSelect()`. -/
def testTimeout (fsm : TcpServerFsm) (sel : SocketSelect) (timeout : Int) :
    TcpServerFsm :=
  if sel.writeFdIsSet fsm.fd = 0 ∧ sel.readFdIsSet fsm.fd = 0 ∧ 0 ≥ timeout then
    fsm.finish eTimedOut
  else fsm

/-- `AfterReadWriteSelect()`. -/
def afterReadWriteSelect
    (fsm : TcpServerFsm)
    (sel : SocketSelect)
    (calls : ServerCalls) : Option TcpServerFsm :=
  if sel.exceptionFdIsSet fsm.fd ≠ 0 then some (fsm.finish calls.exceptionError)
  else
    let sent :=
      if sel.writeFdIsSet fsm.fd ≠ 0 then fsm.sendBranch calls
      else some (fsm, false)
    sent.bind fun (fsm, returned) =>
      if returned then some fsm
      else
        let received :=
          if sel.readFdIsSet fsm.fd ≠ 0 then fsm.recvBranch calls
          else some (fsm, false)
        received.map fun (fsm, returned) =>
          if returned then fsm else fsm.testTimeout sel calls.timeout

/-- `AfterSelect()`. -/
def afterSelect
    (fsm : TcpServerFsm)
    (sel : SocketSelect)
    (calls : ServerCalls) : Option TcpServerFsm :=
  if fsm.status = .kReadWrite then fsm.afterReadWriteSelect sel calls
  else some fsm

/-! ## The machine in the hands of its owner -/

/-- `poll` reports nothing for the invalid socket. -/
def IgnoresInvalid (sel : SocketSelect) : Prop :=
  sel.exceptionFdIsSet (-1) = 0 ∧ sel.readFdIsSet (-1) = 0 ∧
    sel.writeFdIsSet (-1) = 0

instance : DecidablePred IgnoresInvalid := fun sel =>
  inferInstanceAs (Decidable (sel.exceptionFdIsSet (-1) = 0 ∧
    sel.readFdIsSet (-1) = 0 ∧ sel.writeFdIsSet (-1) = 0))

/-- A call. -/
inductive Action
  | edit (change : Edit)
  | preSelect (sel : SocketSelect) (onAccept : Reaction)
  | afterSelect (sel : SocketSelect) (calls : ServerCalls)
  | close (notify : Bool)

/-- One call. -/
def step (fsm : TcpServerFsm) : Action → Option TcpServerFsm
  | .edit change => some { fsm with streams := fsm.streams.edit change }
  | .preSelect sel onAccept => some (fsm.preSelect sel onAccept).1
  | .afterSelect sel calls =>
      if IgnoresInvalid sel then fsm.afterSelect sel calls else none
  | .close notify => some (fsm.close notify)

/-- The machine of an accepted socket. -/
def system (sock : Int) : Machine TcpServerFsm Action where
  initial := fun fsm => fsm = new sock
  step := step

end TcpServerFsm
end Skplat
