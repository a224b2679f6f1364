import Skplat.TcpClientFsm.Defs

/-!
# What a call of the connection state machine can do

The properties of the machine depend on five of its fields only: the two statuses,
the error, the mark of a remote close and the socket.  They form its standing.
The relations below say what `PreSelect`, `AfterSelect` and `Close` do to a
standing, which callbacks they make, and which results of system calls lead there.
-/

namespace Skplat

/-- The fields that decide how a machine ends. -/
structure Standing where
  status : TSocketStatus
  lastStatus : TSocketStatus
  error : Int
  remoteClose : Bool
  sock : Option Int
  deriving DecidableEq, Repr

/-- The standing of a machine. -/
def TcpClientFsm.standing (fsm : TcpClientFsm) : Standing where
  status := fsm.status
  lastStatus := fsm.lastStatus
  error := fsm.error
  remoteClose := fsm.remoteClose
  sock := fsm.sock

/-- The callback neither connects nor closes. -/
def Callback.isTransfer : Callback → Bool
  | .onRequestSend | .onSend _ | .onRecv _ => true
  | _ => false

/-- Callbacks of a transfer. -/
def Transfers (callbacks : List Callback) : Prop :=
  ∀ callback ∈ callbacks, callback.isTransfer = true

theorem Transfers.append
    {first second : List Callback}
    (left : Transfers first)
    (right : Transfers second) :
    Transfers (first ++ second) := by
  intro callback present
  rcases List.mem_append.mp present with inFirst | inSecond
  · exact left callback inFirst
  · exact right callback inSecond

/-- What `PreSelect` does. -/
inductive PreSelects (calls : ConnectCalls) (standing : Standing) :
    Standing → Output → Prop
  | watched :
      standing.status ≠ .eStart →
      PreSelects calls standing standing (.calls [])
  | noSocket :
      standing.status = .eStart →
      PreSelects calls standing
        ⟨.eEnd, .eStart, calls.socketErrno, standing.remoteClose, none⟩
        (.calls [.onCreate, .onClose .eStart calls.socketErrno false])
  | notNonblocking {sock : Int} {error : Int} :
      standing.status = .eStart → calls.socket = some sock →
      calls.nobioErrno.getD standing.error = error → error ≠ 0 →
      PreSelects calls standing
        ⟨.eEnd, .eStart, error, standing.remoteClose, some sock⟩
        ⟨[.onCreate, .onClose .eStart error false], some sock, none⟩
  | refused {sock : Int} {error : Int} :
      standing.status = .eStart → calls.socket = some sock → error ≠ 0 →
      PreSelects calls standing
        ⟨.eEnd, .eStart, error, standing.remoteClose, some sock⟩
        ⟨[.onCreate], some sock, none⟩
  | connecting {sock : Int} :
      standing.status = .eStart → calls.socket = some sock →
      PreSelects calls standing
        ⟨.eConnecting, .eStart, 0, standing.remoteClose, some sock⟩
        ⟨[.onCreate, .onConnect], some sock, none⟩

/-- `send` fails for good. -/
def ReadWriteCalls.sendFails (calls : ReadWriteCalls) : Bool :=
  decide (calls.sendRet ≤ 0) && !isNoblockErrno calls.sendErrno

/-- An exception or a failed `send` or `recv` comes with the error value zero. -/
def TcpClientFsm.zeroGiven
    (fsm : TcpClientFsm)
    (sel : SocketSelect)
    (calls : TcpClientFsm.AfterCalls) : Bool :=
  let ready := fsm.ready sel
  match fsm.status with
  | .eConnecting => ready.exception && calls.connected.exceptionError == 0
  | .eReadWrite =>
      if ready.exception then calls.readWrite.exceptionError == 0
      else if ready.writable && calls.readWrite.sendFails then
        calls.readWrite.sendErrno == 0
      else ready.readable && calls.readWrite.recv == .failed 0
  | _ => false

/-- What a part of `AfterReadWriteSelect` does to a standing. -/
inductive Transferred (zeroGiven : Bool) (standing : Standing) :
    Standing → Prop
  | going : Transferred zeroGiven standing standing
  | remoteClosed :
      Transferred zeroGiven standing
        { standing with
          status := .eEnd, lastStatus := .eReadWrite, error := 0
          remoteClose := true }
  | failed {error : Int} :
      (error ≠ 0 ∨ zeroGiven = true) →
      Transferred zeroGiven standing
        { standing with
          status := .eEnd, lastStatus := .eReadWrite, error := error }

/-- What `AfterSelect` does.  The error value is zero only if a system call gave
it. -/
inductive AfterSelects (zeroGiven : Bool) (standing : Standing) :
    Standing → List Callback → Prop
  | endedBefore :
      standing.status = .eEnd → standing.sock ≠ none →
      AfterSelects zeroGiven standing standing
        [.onClose standing.lastStatus standing.error false]
  | ignored :
      (standing.status = .eStart ∨
        standing.status = .eEnd ∧ standing.sock = none) →
      AfterSelects zeroGiven standing standing []
  | connecting :
      standing.status = .eConnecting →
      AfterSelects zeroGiven standing { standing with error := 0 } []
  | connected {rtt : Int} :
      standing.status = .eConnecting →
      AfterSelects zeroGiven standing
        { standing with
          status := .eReadWrite, lastStatus := .eConnecting, error := 0 }
        [.onConnected rtt]
  | connectFailed {error : Int} :
      standing.status = .eConnecting → (error ≠ 0 ∨ zeroGiven = true) →
      AfterSelects zeroGiven standing
        { standing with
          status := .eEnd, lastStatus := .eConnecting, error := error }
        [.onClose .eConnecting error false]
  | transferred {callbacks : List Callback} :
      standing.status = .eReadWrite → Transfers callbacks →
      AfterSelects zeroGiven standing standing callbacks
  | remoteClosed {callbacks : List Callback} :
      standing.status = .eReadWrite → Transfers callbacks →
      AfterSelects zeroGiven standing
        { standing with
          status := .eEnd, lastStatus := .eReadWrite, error := 0
          remoteClose := true }
        (callbacks ++ [.onClose .eReadWrite 0 false])
  | transferFailed {callbacks : List Callback} {error : Int} :
      standing.status = .eReadWrite → Transfers callbacks →
      (error ≠ 0 ∨ zeroGiven = true) →
      AfterSelects zeroGiven standing
        { standing with
          status := .eEnd, lastStatus := .eReadWrite, error := error }
        (callbacks ++ [.onClose .eReadWrite error false])

/-- What `Close` does. -/
inductive Closes (notify : Bool) (standing : Standing) :
    Standing → Output → Prop
  | noSocket :
      standing.sock = none → Closes notify standing standing (.calls [])
  | silent {sock : Int} :
      standing.sock = some sock →
      (standing.remoteClose = true ∨ standing.error ≠ 0) →
      Closes notify standing { standing with sock := none }
        ⟨[], none, some sock⟩
  | notified {sock : Int} :
      standing.sock = some sock → standing.remoteClose = false →
      standing.error = 0 →
      Closes notify standing
        ⟨.eEnd, standing.status, 0, false, none⟩
        ⟨if notify then [.onClose standing.status (-1) false] else [], none,
          some sock⟩

/-- A part that leaves the machine running leaves its standing. -/
theorem Transferred.eq_of_going
    {given : Bool}
    {standing next : Standing}
    (transferred : Transferred given standing next)
    (going : next.status ≠ .eEnd) :
    next = standing := by
  cases transferred with
  | going => rfl
  | remoteClosed => exact absurd rfl going
  | failed _ => exact absurd rfl going

namespace TcpClientFsm

theorem closes (fsm : TcpClientFsm) (notify : Bool) :
    Closes notify fsm.standing (fsm.close notify).1.standing
      (fsm.close notify).2 := by
  obtain ⟨status, lastStatus, error, remoteClose, requestSend, sock, _⟩ := fsm
  cases sock with
  | none => exact .noSocket rfl
  | some sock =>
      unfold close
      dsimp only
      split
      · rename_i silent
        exact .silent rfl (silent.imp id Ne.symm)
      · rename_i loud
        obtain ⟨notRemote, noError⟩ := not_or.mp loud
        cases Bool.eq_false_of_not_eq_true notRemote
        exact .notified rfl rfl (not_not.mp noError).symm

theorem standing_callConnect
    (fsm : TcpClientFsm)
    (sel : SocketSelect)
    (calls : ConnectCalls) :
    ∃ error, (fsm.callConnect sel calls).1.standing =
      { fsm.standing with error := error } := by
  unfold callConnect
  dsimp only
  split
  · exact ⟨fsm.error, rfl⟩
  · split
    · exact ⟨fsm.error, rfl⟩
    · exact ⟨_, rfl⟩

theorem standing_enter (fsm : TcpClientFsm) (status : TSocketStatus) :
    (fsm.enter status).standing =
      { fsm.standing with lastStatus := fsm.status, status := status } := rfl

/-- How `connect` decides. -/
theorem connect_cases
    (fsm : TcpClientFsm)
    (sel : SocketSelect)
    (calls : ConnectCalls) :
    (∃ error, error ≠ 0 ∧
      (fsm.connect sel calls).1.standing =
        ⟨.eEnd, fsm.status, error, fsm.remoteClose, fsm.sock⟩ ∧
      (fsm.connect sel calls).2.2 = []) ∨
      ((fsm.connect sel calls).1.standing =
          ⟨.eConnecting, fsm.status, 0, fsm.remoteClose, fsm.sock⟩ ∧
        (fsm.connect sel calls).2.2 = [.onConnect]) := by
  obtain ⟨error, called⟩ := fsm.standing_callConnect sel calls
  have sameStatus : (fsm.callConnect sel calls).1.status = fsm.status :=
    congrArg Standing.status called
  have sameError : (fsm.callConnect sel calls).1.error = error :=
    congrArg Standing.error called
  unfold connect
  dsimp only
  split
  · rename_i failed
    refine Or.inl ⟨error, sameError ▸ failed, ?_, rfl⟩
    rw [standing_enter, called, sameStatus]
    rfl
  · rename_i noError
    refine Or.inr ⟨?_, rfl⟩
    have zero : error = 0 := sameError.symm.trans (not_not.mp noError)
    rw [standing_enter, called, sameStatus, zero]
    rfl

theorem preConnectSelects
    {fsm : TcpClientFsm}
    (start : fsm.status = .eStart)
    (sel : SocketSelect)
    (calls : ConnectCalls) :
    PreSelects calls fsm.standing (fsm.preConnectSelect sel calls).1.standing
      (fsm.preConnectSelect sel calls).2.2 := by
  obtain ⟨status, lastStatus, error, remoteClose, requestSend, sock, _⟩ := fsm
  cases start
  unfold preConnectSelect
  split
  · exact .noSocket rfl
  · rename_i opened
    dsimp only
    split
    · rename_i failed
      exact .notNonblocking rfl opened rfl failed
    · rcases connect_cases _ sel calls with
        ⟨error, nonzero, view, callbacks⟩ | ⟨view, callbacks⟩
      · rw [view, callbacks]
        exact .refused rfl opened nonzero
      · rw [view, callbacks]
        exact .connecting rfl opened

theorem preSelects
    (fsm : TcpClientFsm)
    (sel : SocketSelect)
    (calls : ConnectCalls) :
    PreSelects calls fsm.standing (fsm.preSelect sel calls).1.standing
      (fsm.preSelect sel calls).2.2 := by
  cases status : fsm.status with
  | eStart =>
      simp only [preSelect, status]
      exact preConnectSelects status sel calls
  | _ =>
      simp only [preSelect, status]
      exact .watched (by simp [standing, status])

/-! ## After the select -/

theorem closing_eq
    {fsm : TcpClientFsm}
    {standing : Standing}
    (view : fsm.standing = standing) :
    fsm.closing =
      if standing.status = .eEnd ∧ standing.sock ≠ none then
        [.onClose standing.lastStatus standing.error false]
      else [] := by
  subst view
  rfl

/-- How `AfterConnectSelect` decides. -/
theorem afterConnectSelect_cases
    {fsm : TcpClientFsm}
    (connecting : fsm.status = .eConnecting)
    (ready : Ready)
    (calls : ConnectedCalls) :
    ((fsm.afterConnectSelect ready calls).1.standing =
        { fsm.standing with error := 0 } ∧
      (fsm.afterConnectSelect ready calls).2 = []) ∨
    (∃ rtt, (fsm.afterConnectSelect ready calls).1.standing =
        { fsm.standing with
          status := .eReadWrite, lastStatus := .eConnecting, error := 0 } ∧
      (fsm.afterConnectSelect ready calls).2 = [.onConnected rtt]) ∨
    ∃ error, (error ≠ 0 ∨
        (ready.exception && calls.exceptionError == 0) = true) ∧
      (fsm.afterConnectSelect ready calls).1.standing =
        { fsm.standing with
          status := .eEnd, lastStatus := .eConnecting, error := error } ∧
      (fsm.afterConnectSelect ready calls).2 = [] := by
  obtain ⟨status, lastStatus, error, remoteClose, requestSend, sock, _⟩ := fsm
  cases connecting
  unfold afterConnectSelect
  dsimp only
  split
  · rename_i exception
    refine Or.inr (Or.inr ⟨calls.exceptionError, ?_, rfl, rfl⟩)
    by_cases zero : calls.exceptionError = 0
    · exact Or.inr (by simp [exception, zero])
    · exact Or.inl zero
  split
  · rename_i nonzero
    exact Or.inr (Or.inr ⟨calls.socketError, Or.inl nonzero.symm, rfl, rfl⟩)
  split
  · exact Or.inr (Or.inl ⟨_, rfl, rfl⟩)
  split
  · exact Or.inr (Or.inr ⟨eTimedOut, Or.inl (by decide), rfl, rfl⟩)
  · exact Or.inl ⟨rfl, rfl⟩

theorem afterSelects_connecting
    {fsm : TcpClientFsm}
    (connecting : fsm.status = .eConnecting)
    (opened : fsm.sock ≠ none)
    (sel : SocketSelect)
    (calls : AfterCalls) :
    AfterSelects (fsm.zeroGiven sel calls) fsm.standing
      (fsm.afterSelect sel calls).1.standing
      (fsm.afterSelect sel calls).2.callbacks := by
  have given : fsm.zeroGiven sel calls =
      ((fsm.ready sel).exception && calls.connected.exceptionError == 0) := by
    simp only [zeroGiven, connecting]
  have acts : fsm.act sel calls =
      fsm.afterConnectSelect (fsm.ready sel) calls.connected := by
    simp only [act, connecting]
  unfold afterSelect
  simp only [acts, given, Output.calls]
  rcases afterConnectSelect_cases connecting (fsm.ready sel) calls.connected with
    ⟨view, callbacks⟩ | ⟨rtt, view, callbacks⟩ | ⟨error, nonzero, view, callbacks⟩
  · rw [closing_eq view, view, callbacks, if_neg (by simp [standing, connecting])]
    exact .connecting connecting
  · rw [closing_eq view, view, callbacks, if_neg (by simp)]
    exact .connected connecting
  · rw [closing_eq view, view, callbacks, if_pos ⟨rfl, opened⟩]
    exact .connectFailed connecting nonzero

theorem sendBranch_transfers
    (fsm : TcpClientFsm)
    (calls : ReadWriteCalls) :
    Transfers (fsm.sendBranch calls).2 := by
  unfold sendBranch
  split
  rename_i asked callbacks requested
  have asking : Transfers callbacks := by
    split at requested
    · cases requested
      simp [Transfers, Callback.isTransfer]
    · cases requested
      simp [Transfers]
  split
  · exact asking.append (by simp [Transfers, Callback.isTransfer])
  · split
    · exact asking
    · exact asking

theorem sendBranch_transferred
    {fsm : TcpClientFsm}
    (transferring : fsm.status = .eReadWrite)
    (calls : ReadWriteCalls) :
    (fsm.sendBranch calls).1.standing =
      if calls.sendFails then
        { fsm.standing with
          status := .eEnd, lastStatus := .eReadWrite, error := calls.sendErrno }
      else fsm.standing := by
  unfold sendBranch
  split
  rename_i asked callbacks requested
  have same : asked.standing = fsm.standing := by
    split at requested
    · cases requested
      rfl
    · cases requested
      rfl
  have sameStatus : asked.status = .eReadWrite :=
    (congrArg Standing.status same).trans transferring
  unfold ReadWriteCalls.sendFails
  by_cases sent : 0 < calls.sendRet
  · rw [if_pos sent, if_neg (by simp; omega)]
    exact same
  rw [if_neg sent]
  by_cases later : isNoblockErrno calls.sendErrno = true
  · rw [if_pos later, if_neg (by simp [later])]
    exact same
  · rw [if_neg later, if_pos (by simp [later]; omega), ← same, standing_enter]
    dsimp only
    rw [sameStatus]
    rfl

theorem recvBranch_transfers
    (fsm : TcpClientFsm)
    (recv : RecvResult) :
    Transfers (fsm.recvBranch recv).2 := by
  cases recv with
  | data first rest => simp [recvBranch, Transfers, Callback.isTransfer]
  | closed => simp [recvBranch, Transfers]
  | failed errno =>
      simp only [recvBranch]
      split <;> simp [Transfers]

theorem recvBranch_transferred
    {fsm : TcpClientFsm}
    (transferring : fsm.status = .eReadWrite)
    (recv : RecvResult) :
    Transferred (recv == .failed 0) fsm.standing
      (fsm.recvBranch recv).1.standing := by
  obtain ⟨status, lastStatus, error, remoteClose, requestSend, sock, _⟩ := fsm
  cases transferring
  cases recv with
  | data first rest => exact .going
  | closed => exact .remoteClosed
  | failed errno =>
      simp only [recvBranch]
      split
      · exact .going
      · refine .failed ?_
        by_cases zero : errno = 0
        · exact Or.inr (by simp [zero])
        · exact Or.inl zero

/-- The write part of `AfterReadWriteSelect`. -/
theorem writable_transferred
    {fsm : TcpClientFsm}
    (transferring : fsm.status = .eReadWrite)
    (writable : Bool)
    (calls : ReadWriteCalls) :
    let sent := if writable then fsm.sendBranch calls else (fsm, [])
    Transfers sent.2 ∧
      sent.1.standing =
        if writable && calls.sendFails then
          { fsm.standing with
            status := .eEnd, lastStatus := .eReadWrite
            error := calls.sendErrno }
        else fsm.standing := by
  cases writable with
  | false => exact ⟨by simp [Transfers], rfl⟩
  | true =>
      exact ⟨sendBranch_transfers fsm calls,
        sendBranch_transferred transferring calls⟩

/-- The read part of `AfterReadWriteSelect`. -/
theorem readable_transferred
    {fsm : TcpClientFsm}
    (transferring : fsm.status = .eReadWrite)
    (readable : Bool)
    (recv : RecvResult) :
    let received := if readable then fsm.recvBranch recv else (fsm, [])
    Transfers received.2 ∧
      Transferred (readable && recv == .failed 0) fsm.standing
        received.1.standing := by
  cases readable with
  | false => exact ⟨by simp [Transfers], .going⟩
  | true =>
      exact ⟨recvBranch_transfers fsm recv,
        recvBranch_transferred transferring recv⟩

/-- How `AfterReadWriteSelect` decides. -/
theorem afterReadWriteSelect_transferred
    {fsm : TcpClientFsm}
    (transferring : fsm.status = .eReadWrite)
    (ready : Ready)
    (calls : ReadWriteCalls) :
    Transfers (fsm.afterReadWriteSelect ready calls).2 ∧
      Transferred
        (if ready.exception then calls.exceptionError == 0
        else if ready.writable && calls.sendFails then calls.sendErrno == 0
        else ready.readable && calls.recv == .failed 0)
        fsm.standing (fsm.afterReadWriteSelect ready calls).1.standing := by
  unfold afterReadWriteSelect
  by_cases exception : ready.exception = true
  · simp only [exception, if_true]
    refine ⟨by simp [Transfers], ?_⟩
    rw [standing_enter]
    dsimp only
    rw [transferring]
    apply Transferred.failed
    by_cases zero : calls.exceptionError = 0
    · exact Or.inr (by simp [zero])
    · exact Or.inl zero
  simp only [exception, Bool.false_eq_true, if_false]
  obtain ⟨sends, sending⟩ := writable_transferred transferring ready.writable calls
  generalize (if ready.writable then fsm.sendBranch calls else (fsm, [])) = sent
    at sends sending
  obtain ⟨written, callbacks⟩ := sent
  dsimp only at sends sending ⊢
  by_cases failing : (ready.writable && calls.sendFails) = true
  · rw [if_pos failing] at sending ⊢
    have ended : written.status = .eEnd := congrArg Standing.status sending
    rw [if_pos ended]
    refine ⟨sends, ?_⟩
    rw [sending]
    refine .failed ?_
    by_cases zero : calls.sendErrno = 0
    · exact Or.inr (by simp [zero])
    · exact Or.inl zero
  rw [if_neg failing] at sending ⊢
  have stillTransferring : written.status = .eReadWrite :=
    (congrArg Standing.status sending).trans transferring
  rw [if_neg (by simp [stillTransferring])]
  obtain ⟨receives, receiving⟩ :=
    readable_transferred stillTransferring ready.readable calls.recv
  generalize (if ready.readable then written.recvBranch calls.recv
    else (written, [])) = received at receives receiving
  obtain ⟨read, later⟩ := received
  dsimp only at receives receiving ⊢
  rw [sending] at receiving
  by_cases endedReading : read.status = .eEnd
  · rw [if_pos endedReading]
    exact ⟨sends.append receives, receiving⟩
  rw [if_neg endedReading]
  have sameRead : read.standing = fsm.standing :=
    receiving.eq_of_going endedReading
  split
  · refine ⟨sends.append receives, ?_⟩
    have view : ({ read with error := eTimedOut }.enter .eEnd).standing =
        { fsm.standing with
          status := .eEnd, lastStatus := .eReadWrite, error := eTimedOut } := by
      have readTransferring : read.status = .eReadWrite :=
        (congrArg Standing.status sameRead).trans transferring
      rw [← sameRead, standing_enter, readTransferring]
      rfl
    rw [view]
    exact .failed (Or.inl (by decide))
  · exact ⟨sends.append receives, sameRead ▸ .going⟩

theorem afterSelects_readWrite
    {fsm : TcpClientFsm}
    (transferring : fsm.status = .eReadWrite)
    (opened : fsm.sock ≠ none)
    (sel : SocketSelect)
    (calls : AfterCalls) :
    AfterSelects (fsm.zeroGiven sel calls) fsm.standing
      (fsm.afterSelect sel calls).1.standing
      (fsm.afterSelect sel calls).2.callbacks := by
  have acts : fsm.act sel calls =
      fsm.afterReadWriteSelect (fsm.ready sel) calls.readWrite := by
    simp only [act, transferring]
  obtain ⟨transfers, transferredWith⟩ :=
    afterReadWriteSelect_transferred transferring (fsm.ready sel) calls.readWrite
  have transferred : Transferred (fsm.zeroGiven sel calls) fsm.standing
      (fsm.afterReadWriteSelect (fsm.ready sel) calls.readWrite).1.standing := by
    simp only [zeroGiven, transferring]
    exact transferredWith
  unfold afterSelect
  simp only [acts, Output.calls]
  generalize viewed : (fsm.afterReadWriteSelect (fsm.ready sel)
    calls.readWrite).1.standing = next at transferred
  rw [closing_eq viewed]
  cases transferred with
  | going =>
      rw [if_neg (by simp [standing, transferring]), List.append_nil]
      exact .transferred transferring transfers
  | remoteClosed =>
      rw [if_pos ⟨rfl, opened⟩]
      exact .remoteClosed transferring transfers
  | failed nonzero =>
      rw [if_pos ⟨rfl, opened⟩]
      exact .transferFailed transferring transfers nonzero

/-- `AfterSelect` of a machine whose socket is open while it runs. -/
theorem afterSelects
    {fsm : TcpClientFsm}
    (opened : fsm.status = .eConnecting ∨ fsm.status = .eReadWrite →
      fsm.sock ≠ none)
    (sel : SocketSelect)
    (calls : AfterCalls) :
    AfterSelects (fsm.zeroGiven sel calls) fsm.standing
      (fsm.afterSelect sel calls).1.standing
      (fsm.afterSelect sel calls).2.callbacks := by
  cases status : fsm.status with
  | eStart =>
      simp only [afterSelect, act, status, closing, Output.calls]
      exact .ignored (Or.inl status)
  | eConnecting =>
      exact afterSelects_connecting status (opened (Or.inl status)) sel calls
  | eReadWrite =>
      exact afterSelects_readWrite status (opened (Or.inr status)) sel calls
  | eEnd =>
      simp only [afterSelect, act, status, closing, Output.calls]
      by_cases noSocket : fsm.sock = none
      · rw [if_neg (by simp [noSocket])]
        exact .ignored (Or.inr ⟨status, noSocket⟩)
      · rw [if_pos ⟨trivial, noSocket⟩]
        exact .endedBefore status noSocket

/-- The timeouts play no part in the error values. -/
theorem zeroGiven_timeouts
    (fsm : TcpClientFsm)
    (sel : SocketSelect)
    (calls : AfterCalls)
    (connectTimeout readWriteTimeout : Int) :
    fsm.zeroGiven sel
        ⟨{ calls.connected with timeout := connectTimeout },
          { calls.readWrite with timeout := readWriteTimeout }⟩ =
      fsm.zeroGiven sel calls := by
  unfold zeroGiven
  dsimp only
  generalize fsm.ready sel = ready
  cases fsm.status <;> rfl

end TcpClientFsm
end Skplat
