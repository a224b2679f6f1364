import Skplat.TcpClientFsm.Steps
import Skplat.TcpServerFsm.Defs

/-!
# The byte streams of both state machines

What `AfterReadWriteSelect` of `TcpClientFSM` does to the buffers is followed here with
the buffers themselves, since `TcpClientFsm` knows their contents only.  The machine
of an accepted connection has its buffers.
-/

namespace Skplat

/-- What callbacks do to the buffers in a call of `AfterReadWriteSelect`. -/
structure ClientEdits where
  onRequestSend : List Edit
  onSend : List Edit
  onRecv : List Edit
  deriving DecidableEq, Repr

namespace TcpClientFsm

/-- The write branch of `AfterReadWriteSelect()`. -/
def sendStreams
    (fsm : TcpClientFsm)
    (streams : Streams)
    (calls : ReadWriteCalls)
    (edits : ClientEdits) : Option Streams :=
  let streams :=
    if fsm.requestSend ∧ 0 = streams.sendBuf.length then
      streams.editAll edits.onRequestSend
    else streams
  if 0 < calls.sendRet then
    (streams.send calls.sendRet.toNat).map fun sent => sent.editAll edits.onSend
  else some streams

/-- The read branch of `AfterReadWriteSelect()`. -/
def recvStreams
    (streams : Streams) (recv : RecvResult) (edits : ClientEdits) : Option Streams :=
  (streams.recv recv).map fun received =>
    if recv.isData then received.editAll edits.onRecv else received

/-- `AfterReadWriteSelect()`. -/
def transferStreams
    (fsm : TcpClientFsm)
    (streams : Streams)
    (ready : Ready)
    (calls : ReadWriteCalls)
    (edits : ClientEdits) : Option Streams :=
  if ready.exception then some streams
  else
    let sent :=
      if ready.writable then fsm.sendStreams streams calls edits else some streams
    if ready.writable ∧ calls.sendFails then sent
    else
      sent.bind fun streams =>
        if ready.readable then recvStreams streams calls.recv edits
        else some streams

end TcpClientFsm

/-- A client's machine with its buffers. -/
structure ClientStreams where
  fsm : TcpClientFsm
  streams : Streams
  deriving DecidableEq, Repr

namespace ClientStreams

/-- What is done to the machine. -/
inductive Action
  | edit (change : Edit)
  | requestSend
  | preSelect (sel : SocketSelect) (calls : ConnectCalls)
  | afterSelect
      (sel : SocketSelect) (calls : TcpClientFsm.AfterCalls) (edits : ClientEdits)
  | close (notify : Bool)

/-- A new machine. -/
def new : ClientStreams where
  fsm := .new
  streams := .new

/-- The machine knows the contents of the buffers. -/
def withStreams (fsm : TcpClientFsm) (streams : Streams) : ClientStreams where
  fsm := { fsm with
    sendBuf := streams.sendBuf.content
    recvBuf := streams.recvBuf.content }
  streams := streams

/-- One call. -/
def step (client : ClientStreams) : Action → Option ClientStreams
  | .edit change => some (withStreams client.fsm (client.streams.edit change))
  | .requestSend => some { client with fsm := client.fsm.request }
  | .preSelect sel calls =>
      some { client with fsm := (client.fsm.preSelect sel calls).1 }
  | .afterSelect sel calls edits =>
      let streams :=
        if client.fsm.status = .eReadWrite then
          client.fsm.transferStreams client.streams (client.fsm.ready sel)
            calls.readWrite edits
        else some client.streams
      streams.map (withStreams (client.fsm.afterSelect sel calls).1)
  | .close notify => some { client with fsm := (client.fsm.close notify).1 }

/-- The machine of a client. -/
def system : Machine ClientStreams Action where
  initial := fun client => client = new
  step := step

end ClientStreams

/-! ## The client's streams -/

namespace TcpClientFsm

variable {fsm : TcpClientFsm} {streams next : Streams}
variable {ready : Ready} {calls : ReadWriteCalls} {edits : ClientEdits}

theorem intact_sendStreams
    (intact : streams.Intact)
    (sent : fsm.sendStreams streams calls edits = some next) :
    next.Intact := by
  have asked :
      (if fsm.requestSend ∧ 0 = streams.sendBuf.length then
        streams.editAll edits.onRequestSend else streams).Intact := by
    split
    · exact intact.editAll edits.onRequestSend
    · exact intact
  rw [sendStreams] at sent
  split at sent
  · obtain ⟨accepted, sending, rfl⟩ := Option.map_eq_some_iff.mp sent
    exact (asked.send sending).editAll edits.onSend
  · cases sent
    exact asked

theorem intact_recvStreams
    {recv : RecvResult}
    (intact : streams.Intact)
    (received : recvStreams streams recv edits = some next) :
    next.Intact := by
  obtain ⟨delivered, receiving, rfl⟩ := Option.map_eq_some_iff.mp received
  have kept := intact.recv receiving
  split
  · exact kept.editAll edits.onRecv
  · exact kept

theorem intact_transferStreams
    (intact : streams.Intact)
    (transferred : fsm.transferStreams streams ready calls edits = some next) :
    next.Intact := by
  rw [transferStreams] at transferred
  split at transferred
  · cases transferred
    exact intact
  have afterSend : ∀ sent,
      (if ready.writable then fsm.sendStreams streams calls edits
        else some streams) = some sent → sent.Intact := by
    intro sent sending
    split at sending
    · exact intact_sendStreams intact sending
    · cases sending
      exact intact
  dsimp only at transferred
  split at transferred
  · exact afterSend next transferred
  · obtain ⟨sent, sending, receiving⟩ := Option.bind_eq_some_iff.mp transferred
    have kept := afterSend sent sending
    split at receiving
    · exact intact_recvStreams kept receiving
    · cases receiving
      exact kept

/-! ### The contents are those of the machine -/

/-- Callbacks leave the buffers alone. -/
def noEdits : ClientEdits := ⟨[], [], []⟩

/-- The machine knows the contents of the buffers. -/
def Knows (fsm : TcpClientFsm) (streams : Streams) : Prop :=
  fsm.sendBuf = streams.sendBuf.content ∧ fsm.recvBuf = streams.recvBuf.content

theorem Knows.sendBranch
    (knows : fsm.Knows streams)
    (sent : fsm.sendStreams streams calls noEdits = some next) :
    (fsm.sendBranch calls).1.Knows next := by
  have unchanged : streams.editAll noEdits.onRequestSend = streams := rfl
  rw [sendStreams, unchanged, ite_self] at sent
  unfold TcpClientFsm.sendBranch
  split
  rename_i asked callbacks requested
  have same : asked.Knows streams := by
    split at requested <;> cases requested <;> exact knows
  by_cases positive : 0 < calls.sendRet
  · rw [if_pos positive] at sent ⊢
    obtain ⟨accepted, sending, rfl⟩ := Option.map_eq_some_iff.mp sent
    obtain ⟨dropped, kept⟩ := Streams.content_send sending
    refine ⟨?_, ?_⟩
    · exact (congrArg (List.drop calls.sendRet.toNat) same.1).trans dropped.symm
    · exact same.2.trans (congrArg AutoBuffer.content kept.symm)
  · rw [if_neg positive] at sent ⊢
    cases sent
    split <;> exact same

theorem Knows.recvBranch
    {recv : RecvResult}
    (knows : fsm.Knows streams)
    (received : recvStreams streams recv noEdits = some next) :
    (fsm.recvBranch recv).1.Knows next := by
  obtain ⟨delivered, receiving, rfl⟩ := Option.map_eq_some_iff.mp received
  have unchanged : delivered.editAll noEdits.onRecv = delivered := rfl
  rw [unchanged, ite_self]
  obtain ⟨content, -, kept⟩ := Streams.content_recv receiving
  have sendKnown : fsm.sendBuf = delivered.sendBuf.content := by
    rw [kept]
    exact knows.1
  have recvKnown : fsm.recvBuf ++ recv.bytes = delivered.recvBuf.content := by
    rw [content, knows.2]
  cases recv with
  | data first rest => exact ⟨sendKnown, recvKnown⟩
  | closed => exact ⟨sendKnown, (List.append_nil _).symm.trans recvKnown⟩
  | failed errno =>
      simp only [TcpClientFsm.recvBranch]
      split <;> exact ⟨sendKnown, (List.append_nil _).symm.trans recvKnown⟩

theorem Knows.writable
    {writable : Bool}
    (knows : fsm.Knows streams)
    (sent :
      (if writable then fsm.sendStreams streams calls noEdits
        else some streams) = some next) :
    (if writable then fsm.sendBranch calls else (fsm, [])).1.Knows next := by
  cases writable with
  | true => exact knows.sendBranch sent
  | false =>
      cases sent
      exact knows

theorem Knows.readable
    {readable : Bool}
    {recv : RecvResult}
    (knows : fsm.Knows streams)
    (received :
      (if readable then recvStreams streams recv noEdits
        else some streams) = some next) :
    (if readable then fsm.recvBranch recv else (fsm, [])).1.Knows next := by
  cases readable with
  | true => exact knows.recvBranch received
  | false =>
      cases received
      exact knows

/-- Without the callbacks, `AfterReadWriteSelect` keeps the contents that the machine
knows. -/
theorem Knows.afterReadWriteSelect
    (knows : fsm.Knows streams)
    (transferring : fsm.status = .eReadWrite)
    (transferred : fsm.transferStreams streams ready calls noEdits = some next) :
    (fsm.afterReadWriteSelect ready calls).1.Knows next := by
  rw [transferStreams] at transferred
  unfold TcpClientFsm.afterReadWriteSelect
  by_cases exception : ready.exception = true
  · rw [if_pos exception] at transferred ⊢
    cases transferred
    exact knows
  rw [if_neg exception] at transferred ⊢
  have ended := (writable_transferred transferring ready.writable calls).2
  have sentKnows : ∀ sent,
      (if ready.writable then fsm.sendStreams streams calls noEdits
        else some streams) = some sent →
      (if ready.writable then fsm.sendBranch calls else (fsm, [])).1.Knows sent :=
    fun _ sending => knows.writable sending
  generalize (if ready.writable then fsm.sendBranch calls else (fsm, [])) =
    written at ended sentKnows
  obtain ⟨written, callbacks⟩ := written
  dsimp only at ended sentKnows transferred ⊢
  by_cases failing : ready.writable = true ∧ calls.sendFails = true
  · rw [if_pos (by simp [failing])] at ended
    have finished : written.status = .eEnd := congrArg Standing.status ended
    rw [if_pos failing] at transferred
    rw [if_pos finished]
    exact sentKnows next transferred
  rw [if_neg (by simpa using failing)] at ended
  rw [if_neg failing] at transferred
  have going : ¬written.status = .eEnd := by
    have same : written.status = .eReadWrite :=
      (congrArg Standing.status ended).trans transferring
    simp [same]
  rw [if_neg going]
  obtain ⟨sent, sending, receiving⟩ := Option.bind_eq_some_iff.mp transferred
  have readKnows := (sentKnows sent sending).readable receiving
  generalize (if ready.readable then written.recvBranch calls.recv
    else (written, [])) = read at readKnows
  obtain ⟨read, received⟩ := read
  dsimp only at readKnows ⊢
  split
  · exact readKnows
  · split <;> exact readKnows

end TcpClientFsm

/-! ## The accepted connection's streams -/

namespace TcpServerFsm

variable {fsm next : TcpServerFsm}

theorem streams_close (fsm : TcpServerFsm) (notify : Bool) :
    (fsm.close notify).streams = fsm.streams := by
  unfold close
  split
  · rfl
  · cases notify <;> rfl

theorem streams_react (fsm : TcpServerFsm) (reaction : Reaction) :
    (fsm.react reaction).streams = fsm.streams.editAll reaction.edits := by
  have folded : ∀ (closes : List Bool) (fsm : TcpServerFsm),
      (closes.foldl close fsm).streams = fsm.streams := by
    intro closes
    induction closes with
    | nil => exact fun _ => rfl
    | cons notify rest inductionHypothesis =>
        intro fsm
        rw [List.foldl_cons, inductionHypothesis, streams_close]
  exact folded _ _

theorem intact_react (intact : fsm.streams.Intact) (reaction : Reaction) :
    (fsm.react reaction).streams.Intact := by
  rw [streams_react]
  exact intact.editAll reaction.edits

theorem intact_preSelect
    (intact : fsm.streams.Intact) (sel : SocketSelect) (onAccept : Reaction) :
    (fsm.preSelect sel onAccept).1.streams.Intact := by
  have accepted : (fsm.accept onAccept).streams.Intact := by
    unfold accept
    split
    · have called : (fsm.note .onAccept).streams.Intact := intact
      exact intact_react called onAccept
    · exact intact
  unfold preSelect preReadWriteSelect
  dsimp only
  split
  · split <;> exact accepted
  · exact accepted

variable {sel : SocketSelect} {calls : ServerCalls} {result : TcpServerFsm × Bool}

theorem intact_sendBranch
    (intact : fsm.streams.Intact)
    (sent : fsm.sendBranch calls = some result) :
    result.1.streams.Intact := by
  rw [sendBranch] at sent
  split at sent
  · obtain ⟨streams, sending, rfl⟩ := Option.map_eq_some_iff.mp sent
    apply intact_react
    exact intact.send sending
  · split at sent <;> cases sent <;> exact intact

theorem intact_recvBranch
    (intact : fsm.streams.Intact)
    (received : fsm.recvBranch calls = some result) :
    result.1.streams.Intact := by
  obtain ⟨streams, receiving, rfl⟩ := Option.map_eq_some_iff.mp received
  have kept := intact.recv receiving
  split
  · apply intact_react
    exact kept
  · exact kept
  · split <;> exact kept

theorem intact_testTimeout
    (intact : fsm.streams.Intact) (sel : SocketSelect) (timeout : Int) :
    (fsm.testTimeout sel timeout).streams.Intact := by
  unfold testTimeout
  split <;> exact intact

theorem intact_afterReadWriteSelect
    (intact : fsm.streams.Intact)
    (selected : fsm.afterReadWriteSelect sel calls = some next) :
    next.streams.Intact := by
  rw [afterReadWriteSelect] at selected
  split at selected
  · cases selected
    exact intact
  obtain ⟨⟨written, returned⟩, sending, rest⟩ := Option.bind_eq_some_iff.mp selected
  have sent : written.streams.Intact := by
    split at sending
    · exact intact_sendBranch intact sending
    · cases sending
      exact intact
  dsimp only at rest
  split at rest
  · cases rest
    exact sent
  obtain ⟨⟨read, ended⟩, receiving, rfl⟩ := Option.map_eq_some_iff.mp rest
  have received : read.streams.Intact := by
    split at receiving
    · exact intact_recvBranch sent receiving
    · cases receiving
      exact sent
  dsimp only
  split
  · exact received
  · exact intact_testTimeout received sel calls.timeout

theorem intact_step
    {action : Action}
    (intact : fsm.streams.Intact)
    (stepped : fsm.step action = some next) :
    next.streams.Intact := by
  cases action with
  | edit change =>
      cases stepped
      exact intact.edit change
  | preSelect sel onAccept =>
      cases stepped
      exact intact_preSelect intact sel onAccept
  | afterSelect sel calls =>
      simp only [step, Option.ite_none_right_eq_some] at stepped
      obtain ⟨-, selected⟩ := stepped
      rw [afterSelect] at selected
      split at selected
      · exact intact_afterReadWriteSelect intact selected
      · cases selected
        exact intact
  | close notify =>
      cases stepped
      rw [streams_close]
      exact intact

theorem intact_of_reachable
    {sock : Int}
    (reached : (system sock).Reachable fsm) :
    fsm.streams.Intact := by
  induction reached with
  | initial start =>
      cases start
      exact Streams.intact_new
  | step prior permitted stepped inductionHypothesis =>
      exact intact_step inductionHypothesis stepped

end TcpServerFsm

/-! ## Both machines -/

namespace ClientStreams

variable {client next : ClientStreams}

theorem intact_step
    {action : Action}
    (intact : client.streams.Intact)
    (stepped : client.step action = some next) :
    next.streams.Intact := by
  cases action with
  | edit change =>
      cases stepped
      exact intact.edit change
  | requestSend | preSelect sel calls | close notify =>
      cases stepped
      exact intact
  | afterSelect sel calls edits =>
      obtain ⟨streams, transferred, rfl⟩ := Option.map_eq_some_iff.mp stepped
      split at transferred
      · exact TcpClientFsm.intact_transferStreams intact transferred
      · cases transferred
        exact intact

theorem intact_of_reachable (reached : system.Reachable client) :
    client.streams.Intact := by
  induction reached with
  | initial start =>
      cases start
      exact Streams.intact_new
  | step prior permitted stepped inductionHypothesis =>
      exact intact_step inductionHypothesis stepped

end ClientStreams

/-- In every run of either machine, `send_buf_` holds what was appended and not yet
accepted by `send`, `recv_buf_` holds what was received, and every `recv` was offered
enough space inside the array. -/
theorem byteStreams_intact :
    (∀ client, ClientStreams.system.Reachable client → client.streams.Intact) ∧
      ∀ sock fsm, (TcpServerFsm.system sock).Reachable fsm → fsm.streams.Intact :=
  ⟨fun _ reached => ClientStreams.intact_of_reachable reached,
    fun _ _ reached => TcpServerFsm.intact_of_reachable reached⟩

/-- The socket is readable and writable. -/
def bothReady : SocketSelect where
  breakerFd := 3
  vfds := [⟨7, pollIn ||| pollOut, pollIn ||| pollOut⟩]
  ret := 1
  errno := 0
  autoclear := false

/-- A client connects, appends three bytes, of which `send` accepts two, and receives
two.  `_OnSend` appends one more, and then one byte is received. -/
def clientSends : List ClientStreams.Action :=
  let calls : TcpClientFsm.AfterCalls :=
    { connected := ⟨1000, 0, 0, 0⟩
      readWrite := ⟨1000, 0, 2, 0, .data 5 [6]⟩ }
  [.preSelect (.new 3 false) ⟨some 7, 0, none, 0, none, 0⟩,
    .afterSelect bothReady calls ⟨[], [], []⟩,
    .edit (.append [1, 2, 3]),
    .afterSelect bothReady calls ⟨[], [.append [4]], []⟩,
    .afterSelect bothReady { calls with readWrite := ⟨1000, 0, 0, eAgain, .data 7 []⟩ }
      ⟨[], [], [.handleRecv (.addCapacity 100)]⟩]

/-- An accepted connection does the same. -/
def serverSends : List TcpServerFsm.Action :=
  let calls : ServerCalls :=
    { timeout := 1000
      exceptionError := 0
      sendRet := 2
      sendErrno := 0
      recv := .data 5 [6]
      onSend := ⟨[.append [4]], []⟩
      onRecv := ⟨[], []⟩ }
  [.preSelect (.new 3 false) ⟨[.append [1, 2, 3]], []⟩,
    .afterSelect bothReady calls,
    .afterSelect bothReady { calls with
      sendRet := 0
      sendErrno := eAgain
      recv := .data 7 []
      onSend := ⟨[], []⟩ }]

/-- Part of the content is accepted in both machines, and bytes are received twice. -/
theorem byteStreams_partial :
    (∃ client, ClientStreams.system.Reachable client ∧
      client.streams.accepted = [1, 2] ∧
      client.streams.accepted ++ client.streams.sendBuf.content = [1, 2, 3, 4] ∧
      client.streams.recvBuf.content = [5, 6, 7]) ∧
    ∃ fsm, (TcpServerFsm.system 7).Reachable fsm ∧
      fsm.streams.accepted = [1, 2] ∧
      fsm.streams.accepted ++ fsm.streams.sendBuf.content = [1, 2, 3, 4] ∧
      fsm.streams.recvBuf.content = [5, 6, 7] := by
  constructor
  · obtain ⟨client, -, reached, holds⟩ := Machine.exists_reachable_of_exec
      (show ClientStreams.system.initial .new from rfl)
      (by decide +kernel : (ClientStreams.system.exec .new clientSends).map
        (fun client => client.streams.accepted == [1, 2] &&
          client.streams.appended == [1, 2, 3, 4] &&
          client.streams.received == [5, 6, 7]) = some true)
    rw [Bool.and_eq_true, Bool.and_eq_true, beq_iff_eq, beq_iff_eq, beq_iff_eq] at holds
    obtain ⟨⟨accepted, appended⟩, received⟩ := holds
    have intact := byteStreams_intact.1 client reached
    exact ⟨client, reached, accepted, intact.sent.trans appended,
      intact.received.trans received⟩
  · obtain ⟨fsm, -, reached, holds⟩ := Machine.exists_reachable_of_exec
      (show (TcpServerFsm.system 7).initial (.new 7) from rfl)
      (by decide +kernel : ((TcpServerFsm.system 7).exec (.new 7) serverSends).map
        (fun fsm => fsm.streams.accepted == [1, 2] &&
          fsm.streams.appended == [1, 2, 3, 4] &&
          fsm.streams.received == [5, 6, 7]) = some true)
    rw [Bool.and_eq_true, Bool.and_eq_true, beq_iff_eq, beq_iff_eq, beq_iff_eq] at holds
    obtain ⟨⟨accepted, appended⟩, received⟩ := holds
    have intact := byteStreams_intact.2 7 fsm reached
    exact ⟨fsm, reached, accepted, intact.sent.trans appended,
      intact.received.trans received⟩

end Skplat
