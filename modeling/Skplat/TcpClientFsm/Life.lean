import Skplat.Machine.Basic
import Skplat.TcpClientFsm.Steps

/-!
# The life of one connection state machine

A record keeps what happened to one machine: its statuses, its callbacks and the
sockets it created and closed.  Two invariants relate a record to the standing of
its machine.  The first holds whatever the system calls return; the second needs
that no system call of a certain kind failed, and is about `_OnClose`.

Both are preserved by `PreSelect`, by the `AfterSelect` that follows it, and by
`Close`.
-/

namespace Skplat

/-- The history of one machine. -/
structure Record where
  /-- `PreSelect` was called and the `AfterSelect` that follows it was not. -/
  selected : Bool
  /-- The statuses after each call. -/
  statuses : List TSocketStatus
  callbacks : List Callback
  /-- The sockets it created. -/
  created : List Int
  /-- The sockets it closed. -/
  closed : List Int
  deriving DecidableEq, Repr

/-- The callback is `_OnClose`. -/
def Callback.isClose : Callback → Bool
  | .onClose _ _ _ => true
  | _ => false

/-- The error that an observer is told by `OnConnected`, if the callback leads to
one. -/
def Callback.connectedError : Callback → Option Int
  | .onConnected _ => some 0
  | .onClose status error userclose =>
      if userclose = false ∧ status = .eConnecting then some error else none
  | _ => none

namespace Record

/-- The record of a new machine. -/
def new : Record where
  selected := false
  statuses := [.eStart]
  callbacks := []
  created := []
  closed := []

/-- A call that leaves the machine in this status. -/
def note
    (record : Record)
    (selected : Bool)
    (status : TSocketStatus)
    (output : Output) : Record where
  selected := selected
  statuses := record.statuses ++ [status]
  callbacks := record.callbacks ++ output.callbacks
  created := record.created ++ output.created.toList
  closed := record.closed ++ output.closed.toList

/-- Number of calls of `_OnClose`. -/
def closeCalls (record : Record) : Nat :=
  record.callbacks.countP Callback.isClose

/-- The errors of the calls of `OnConnected`. -/
def connectedErrors (record : Record) : List Int :=
  record.callbacks.filterMap Callback.connectedError

@[simp] theorem closeCalls_note
    (record : Record)
    (selected : Bool)
    (status : TSocketStatus)
    (output : Output) :
    (record.note selected status output).closeCalls =
      record.closeCalls + output.callbacks.countP Callback.isClose := by
  simp [closeCalls, note]

@[simp] theorem connectedErrors_note
    (record : Record)
    (selected : Bool)
    (status : TSocketStatus)
    (output : Output) :
    (record.note selected status output).connectedErrors =
      record.connectedErrors ++
        output.callbacks.filterMap Callback.connectedError := by
  simp [connectedErrors, note]

/-- The status moved forward only. -/
def Forward (record : Record) : Prop :=
  record.statuses.Pairwise fun earlier later => earlier.rank ≤ later.rank

end Record

theorem Transfers.countP_isClose
    {callbacks : List Callback}
    (transfers : Transfers callbacks) :
    callbacks.countP Callback.isClose = 0 := by
  refine List.countP_eq_zero.mpr fun callback present => ?_
  have transfer := transfers callback present
  cases callback <;> simp_all [Callback.isTransfer, Callback.isClose]

theorem Transfers.filterMap_connectedError
    {callbacks : List Callback}
    (transfers : Transfers callbacks) :
    callbacks.filterMap Callback.connectedError = [] := by
  refine List.filterMap_eq_nil_iff.mpr fun callback present => ?_
  have transfer := transfers callback present
  cases callback <;> simp_all [Callback.isTransfer, Callback.connectedError]

/-- What `PreSelect` of a new machine leads to. -/
structure Opens (standing next : Standing) (output : Output) : Prop where
  started : next.status ≠ .eStart
  remoteClose : next.remoteClose = standing.remoteClose
  healthy : next.status ≠ .eEnd → next.error = 0
  notTransferring : next.status ≠ .eReadWrite
  lastStatus : next.lastStatus = .eStart
  opened : next.status = .eConnecting → next.sock ≠ none
  created : output.created = next.sock
  closed : output.closed = none
  silent : output.callbacks.filterMap Callback.connectedError = []

namespace PreSelects

variable {calls : ConnectCalls} {standing next : Standing} {output : Output}

theorem opens
    (done : PreSelects calls standing next output)
    (start : standing.status = .eStart) :
    Opens standing next output := by
  cases done with
  | watched started => exact absurd start started
  | noSocket | notNonblocking | refused | connecting =>
      constructor <;> simp [Output.calls, Callback.connectedError, List.filterMap]

/-- `PreSelect` starts the machine. -/
theorem started
    (done : PreSelects calls standing next output) :
    next.status ≠ .eStart := by
  cases done with
  | watched started => exact started
  | noSocket | notNonblocking | refused | connecting => simp

theorem eq_of_started
    (done : PreSelects calls standing next output)
    (started : standing.status ≠ .eStart) :
    next = standing ∧ output = .calls [] := by
  cases done with
  | watched _ => exact ⟨rfl, rfl⟩
  | noSocket start | notNonblocking start _ _ _ | refused start _ _
  | connecting start _ => exact absurd start started

end PreSelects

/-- What `AfterSelect` leads to. -/
structure Continues
    (standing next : Standing)
    (callbacks : List Callback) : Prop where
  later : standing.status.rank ≤ next.status.rank
  sock : next.sock = standing.sock
  healthy : next.status ≠ .eEnd → standing.status ≠ .eEnd ∧
    next.remoteClose = standing.remoteClose ∧
      (next.error = 0 ∨ next.error = standing.error)
  opened : next.status = .eConnecting ∨ next.status = .eReadWrite →
    standing.status = .eConnecting ∨ standing.status = .eReadWrite
  started : next.status = .eStart → standing.status = .eStart
  /-- A machine that is not connected yet has not told so. -/
  notConnected : next.status = .eStart ∨ next.status = .eConnecting →
    (standing.status = .eStart ∨ standing.status = .eConnecting) ∧
      callbacks.filterMap Callback.connectedError = []
  connectedOnce :
    callbacks.filterMap Callback.connectedError = [] ∨
      standing.status = .eConnecting ∧
        (callbacks.filterMap Callback.connectedError).length ≤ 1

theorem AfterSelects.continues
    {zeroGiven : Bool}
    {standing next : Standing}
    {callbacks : List Callback}
    (done : AfterSelects zeroGiven standing next callbacks)
    (endedEarly : standing.status = .eEnd → standing.lastStatus = .eStart) :
    Continues standing next callbacks := by
  cases done with
  | endedBefore ended _ =>
      have silent : [Callback.onClose standing.lastStatus standing.error
          false].filterMap Callback.connectedError = [] := by
        simp [List.filterMap, Callback.connectedError, endedEarly ended]
      exact ⟨le_rfl, rfl, fun running => ⟨running, rfl, Or.inr rfl⟩, id, id,
        fun early => ⟨early, silent⟩, Or.inl silent⟩
  | ignored _ =>
      exact ⟨le_rfl, rfl, fun running => ⟨running, rfl, Or.inr rfl⟩, id, id,
        fun early => ⟨early, rfl⟩, Or.inl rfl⟩
  | connecting _ =>
      exact ⟨le_rfl, rfl, fun running => ⟨running, rfl, Or.inl rfl⟩, id, id,
        fun early => ⟨early, rfl⟩, Or.inl rfl⟩
  | connected connecting =>
      refine ⟨?_, rfl, ?_, ?_, ?_, ?_, Or.inr ⟨connecting, ?_⟩⟩
      · simp [connecting, TSocketStatus.rank]
      · simp [connecting]
      · simp [connecting]
      · simp
      · simp
      · simp [List.filterMap, Callback.connectedError]
  | connectFailed connecting _ =>
      refine ⟨?_, rfl, ?_, ?_, ?_, ?_, Or.inr ⟨connecting, ?_⟩⟩
      · simp [connecting, TSocketStatus.rank]
      · simp
      · simp
      · simp
      · simp
      · simp [List.filterMap, Callback.connectedError]
  | transferred transferring transfers =>
      have silent := transfers.filterMap_connectedError
      exact ⟨le_rfl, rfl, fun running => ⟨running, rfl, Or.inr rfl⟩, id, id,
        fun early => ⟨early, silent⟩, Or.inl silent⟩
  | remoteClosed transferring transfers | transferFailed transferring transfers _ =>
      refine ⟨?_, rfl, ?_, ?_, ?_, ?_, Or.inl ?_⟩
      · simp [transferring, TSocketStatus.rank]
      · simp
      · simp
      · simp
      · simp
      · simp [transfers.filterMap_connectedError, List.filterMap,
          Callback.connectedError]

/-! ## Whatever the system calls return -/

/-- What a record tells of a machine in this standing. -/
structure Lives (standing : Standing) (record : Record) : Prop where
  forward : record.Forward
  latest : ∀ status ∈ record.statuses, status.rank ≤ standing.status.rank
  reached : standing.status ∈ record.statuses
  /-- The socket is the one created and not yet closed. -/
  account : record.created = record.closed ++ standing.sock.toList
  createdOnce : record.created.length ≤ 1
  notCreated : standing.status = .eStart → record.created = []
  opened : standing.status = .eConnecting ∨ standing.status = .eReadWrite →
    standing.sock ≠ none
  healthy : standing.status ≠ .eEnd →
    standing.error = 0 ∧ standing.remoteClose = false
  notConnected : standing.status = .eStart ∨ standing.status = .eConnecting →
    record.connectedErrors = []
  connectedOnce : record.connectedErrors.length ≤ 1
  /-- A machine that ended in `PreSelect` was not connecting. -/
  endedEarly : record.selected = true → standing.status = .eEnd →
    standing.lastStatus = .eStart ∧ record.connectedErrors = []

theorem lives_new : Lives TcpClientFsm.new.standing .new where
  forward := List.pairwise_singleton _ _
  latest := by simp [Record.new, TcpClientFsm.standing, TcpClientFsm.new]
  reached := by simp [Record.new, TcpClientFsm.standing, TcpClientFsm.new]
  account := rfl
  createdOnce := by simp [Record.new]
  notCreated := fun _ => rfl
  opened := by simp [TcpClientFsm.standing, TcpClientFsm.new]
  healthy := fun _ => ⟨rfl, rfl⟩
  notConnected := fun _ => rfl
  connectedOnce := by simp [Record.new, Record.connectedErrors]
  endedEarly := fun selected => by cases selected

namespace Lives

variable {standing next : Standing} {record : Record} {output : Output}

/-- The statuses after one more call. -/
theorem forward_note
    (lives : Lives standing record)
    (later : standing.status.rank ≤ next.status.rank)
    (selected : Bool)
    (output : Output) :
    (record.note selected next.status output).Forward ∧
      (∀ status ∈ (record.note selected next.status output).statuses,
        status.rank ≤ next.status.rank) ∧
      next.status ∈ (record.note selected next.status output).statuses := by
  have below : ∀ status ∈ record.statuses, status.rank ≤ next.status.rank :=
    fun status present => (lives.latest status present).trans later
  refine ⟨?_, ?_, by simp [Record.note]⟩
  · refine List.pairwise_append.mpr
      ⟨lives.forward, List.pairwise_singleton _ _, ?_⟩
    intro earlier present final isFinal
    rw [List.mem_singleton.mp isFinal]
    exact below earlier present
  · intro status present
    rcases List.mem_append.mp present with before | isFinal
    · exact below status before
    · rw [List.mem_singleton.mp isFinal]

/-- A machine that was not started has done nothing. -/
theorem fresh
    (lives : Lives standing record)
    (start : standing.status = .eStart) :
    record.created = [] ∧ record.closed = [] ∧ standing.sock = none ∧
      record.connectedErrors = [] := by
  have account := lives.account
  rw [lives.notCreated start, List.nil_eq, List.append_eq_nil_iff] at account
  refine ⟨lives.notCreated start, account.1, ?_, lives.notConnected (Or.inl start)⟩
  cases socket : standing.sock with
  | none => rfl
  | some sock => simp [socket] at account

/-- A call that changes nothing. -/
theorem unchanged
    (lives : Lives standing record)
    (selected : Bool)
    (notEnded : selected = true → standing.status ≠ .eEnd) :
    Lives standing (record.note selected standing.status (.calls [])) := by
  obtain ⟨forward, latest, reached⟩ :=
    lives.forward_note (le_refl standing.status.rank) selected (.calls [])
  exact {
    forward := forward
    latest := latest
    reached := reached
    account := by simpa [Record.note, Output.calls] using lives.account
    createdOnce := by simpa [Record.note, Output.calls] using lives.createdOnce
    notCreated := by simpa [Record.note, Output.calls] using lives.notCreated
    opened := lives.opened
    healthy := lives.healthy
    notConnected := by simpa [Output.calls] using lives.notConnected
    connectedOnce := by simpa [Output.calls] using lives.connectedOnce
    endedEarly := fun isSelected ended => absurd ended (notEnded isSelected) }

/-- `PreSelect` of a new machine. -/
theorem preSelect_start
    (lives : Lives standing record)
    (start : standing.status = .eStart)
    (opens : Opens standing next output) :
    Lives next (record.note true next.status output) := by
  have later : standing.status.rank ≤ next.status.rank := by
    rw [start]
    exact Nat.zero_le _
  obtain ⟨forward, latest, reached⟩ :=
    lives.forward_note later true output
  obtain ⟨created, closed, -, silent⟩ := lives.fresh start
  have stillSilent :
      (record.note true next.status output).connectedErrors = [] := by
    rw [Record.connectedErrors_note, silent, opens.silent]
    rfl
  have createdNow : (record.note true next.status output).created =
      next.sock.toList := by
    simp [Record.note, created, opens.created]
  exact {
    forward := forward
    latest := latest
    reached := reached
    account := by
      rw [createdNow]
      simp [Record.note, closed, opens.closed]
    createdOnce := by
      rw [createdNow]
      cases next.sock <;> simp
    notCreated := fun again => absurd again opens.started
    opened := fun running => by
      rcases running with connecting | transferring
      · exact opens.opened connecting
      · exact absurd transferring opens.notTransferring
    healthy := fun running => by
      refine ⟨opens.healthy running, ?_⟩
      rw [opens.remoteClose]
      exact (lives.healthy (by simp [start])).2
    notConnected := fun _ => stillSilent
    connectedOnce := by simp [stillSilent]
    endedEarly := fun _ _ => ⟨opens.lastStatus, stillSilent⟩ }

theorem preSelect
    {calls : ConnectCalls}
    (lives : Lives standing record)
    (notEnded : standing.status ≠ .eEnd)
    (done : PreSelects calls standing next output) :
    Lives next (record.note true next.status output) := by
  by_cases start : standing.status = .eStart
  · exact lives.preSelect_start start (done.opens start)
  · obtain ⟨rfl, rfl⟩ := done.eq_of_started start
    exact lives.unchanged true fun _ => notEnded

/-- An `AfterSelect` that finds the machine ended follows the `PreSelect` that ended
it. -/
theorem lastStatus_of_ended
    (lives : Lives standing record)
    (turn : record.selected = true ∨ standing.status ≠ .eEnd)
    (ended : standing.status = .eEnd) :
    standing.lastStatus = .eStart := by
  rcases turn with selected | running
  · exact (lives.endedEarly selected ended).1
  · exact absurd ended running

theorem continues
    {zeroGiven : Bool}
    {callbacks : List Callback}
    (lives : Lives standing record)
    (turn : record.selected = true ∨ standing.status ≠ .eEnd)
    (done : AfterSelects zeroGiven standing next callbacks) :
    Continues standing next callbacks :=
  done.continues (lives.lastStatus_of_ended turn)

theorem afterSelect
    {zeroGiven : Bool}
    {callbacks : List Callback}
    (lives : Lives standing record)
    (turn : record.selected = true ∨ standing.status ≠ .eEnd)
    (done : AfterSelects zeroGiven standing next callbacks) :
    Lives next (record.note false next.status (.calls callbacks)) := by
  have continues := lives.continues turn done
  obtain ⟨forward, latest, reached⟩ :=
    lives.forward_note continues.later false (.calls callbacks)
  have sameCreated : (record.note false next.status (.calls callbacks)).created =
      record.created := by
    simp [Record.note, Output.calls]
  exact {
    forward := forward
    latest := latest
    reached := reached
    account := by
      rw [sameCreated, continues.sock]
      simpa [Record.note, Output.calls] using lives.account
    createdOnce := by
      rw [sameCreated]
      exact lives.createdOnce
    notCreated := fun start => by
      rw [sameCreated]
      exact lives.notCreated (continues.started start)
    opened := fun running => by
      rw [continues.sock]
      exact lives.opened (continues.opened running)
    healthy := fun running => by
      obtain ⟨before, sameMark, error⟩ := continues.healthy running
      obtain ⟨noError, noMark⟩ := lives.healthy before
      refine ⟨?_, sameMark.trans noMark⟩
      rcases error with zero | same
      · exact zero
      · exact same.trans noError
    notConnected := fun early => by
      obtain ⟨before, silent⟩ := continues.notConnected early
      rw [Record.connectedErrors_note, lives.notConnected before]
      exact silent
    connectedOnce := by
      rw [Record.connectedErrors_note]
      rcases continues.connectedOnce with silent | ⟨connecting, single⟩
      · rw [show (Output.calls callbacks).callbacks = callbacks from rfl, silent,
          List.append_nil]
        exact lives.connectedOnce
      · rw [lives.notConnected (Or.inr connecting)]
        exact single
    endedEarly := fun selected => by cases selected }

/-- `Close` of a machine whose end is marked. -/
theorem close_silent
    {sock : Int}
    (lives : Lives standing record)
    (socket : standing.sock = some sock)
    (marked : standing.remoteClose = true ∨ standing.error ≠ 0) :
    Lives { standing with sock := none }
      (record.note false standing.status ⟨[], none, some sock⟩) := by
  have ended : standing.status = .eEnd := by
    by_contra running
    obtain ⟨noError, noMark⟩ := lives.healthy running
    rcases marked with remote | failed
    · simp [noMark] at remote
    · exact failed noError
  obtain ⟨forward, latest, reached⟩ :=
    lives.forward_note (le_refl standing.status.rank) false ⟨[], none, some sock⟩
  exact {
    forward := forward
    latest := latest
    reached := reached
    account := by simpa [Record.note, socket] using lives.account
    createdOnce := by simpa [Record.note] using lives.createdOnce
    notCreated := fun start => by simp [ended] at start
    opened := fun running => by simp [ended] at running
    healthy := fun running => absurd ended running
    notConnected := fun early => by simp [ended] at early
    connectedOnce := by simpa using lives.connectedOnce
    endedEarly := fun selected => by cases selected }

/-- `Close` of a machine that runs, as far as its fields tell. -/
theorem close_notified
    {sock : Int}
    (lives : Lives standing record)
    (notify : Bool)
    (socket : standing.sock = some sock) :
    Lives ⟨.eEnd, standing.status, 0, false, none⟩
      (record.note false .eEnd
        ⟨if notify then [.onClose standing.status (-1) false] else [], none,
          some sock⟩) := by
  have later : standing.status.rank ≤
      (⟨.eEnd, standing.status, 0, false, none⟩ : Standing).status.rank := by
    cases standing.status <;> decide
  obtain ⟨forward, latest, reached⟩ := lives.forward_note later false
    ⟨if notify then [.onClose standing.status (-1) false] else [], none, some sock⟩
  exact {
    forward := forward
    latest := latest
    reached := reached
    account := by simpa [Record.note, socket] using lives.account
    createdOnce := by simpa [Record.note] using lives.createdOnce
    notCreated := fun start => by cases start
    opened := fun running => by simp at running
    healthy := fun _ => ⟨rfl, rfl⟩
    notConnected := fun early => by simp at early
    connectedOnce := by
      rw [Record.connectedErrors_note]
      by_cases connecting : standing.status = .eConnecting
      · rw [lives.notConnected (Or.inr connecting)]
        cases notify <;> simp [List.filterMap, Callback.connectedError,
          connecting]
      · cases notify <;> simpa [List.filterMap, Callback.connectedError,
          connecting] using lives.connectedOnce
    endedEarly := fun selected => by cases selected }

theorem close
    {notify : Bool}
    (lives : Lives standing record)
    (done : Closes notify standing next output) :
    Lives next (record.note false next.status output) ∧ next.sock = none := by
  cases done with
  | noSocket noSocket =>
      refine ⟨lives.unchanged false ?_, noSocket⟩
      intro selected
      cases selected
  | silent socket marked => exact ⟨lives.close_silent socket marked, rfl⟩
  | notified socket _ _ => exact ⟨lives.close_notified notify socket, rfl⟩

end Lives

/-! ## If no failure is misread -/

/-- `_OnClose` was called at most once, and will not be called twice. -/
structure NotifiesOnce (standing : Standing) (record : Record) : Prop where
  atMostOnce : record.closeCalls ≤ 1
  running : standing.status ≠ .eEnd → record.closeCalls = 0
  /-- An `AfterSelect` that finds the machine ended is the first to tell. -/
  pending : record.selected = true → standing.status = .eEnd →
    standing.sock ≠ none → record.closeCalls = 0
  /-- `Close` will not tell a second time. -/
  silenced : standing.status = .eEnd → standing.sock ≠ none →
    standing.remoteClose = true ∨ standing.error ≠ 0
  /-- `OnConnected` with the error zero tells the truth. -/
  honest : 0 ∈ record.connectedErrors → .eReadWrite ∈ record.statuses

theorem notifiesOnce_new : NotifiesOnce TcpClientFsm.new.standing .new where
  atMostOnce := by simp [Record.new, Record.closeCalls]
  running := fun _ => rfl
  pending := fun selected => by cases selected
  silenced := fun ended => by cases ended
  honest := by simp [Record.new, Record.connectedErrors]

namespace NotifiesOnce

variable {standing next : Standing} {record : Record} {output : Output}

theorem honest_note
    (notifies : NotifiesOnce standing record)
    (selected : Bool)
    (output : Output)
    (news : 0 ∈ output.callbacks.filterMap Callback.connectedError →
      next.status = .eReadWrite) :
    0 ∈ (record.note selected next.status output).connectedErrors →
      .eReadWrite ∈ (record.note selected next.status output).statuses := by
  intro told
  rw [Record.connectedErrors_note] at told
  rcases List.mem_append.mp told with before | now
  · exact List.mem_append_left _ (notifies.honest before)
  · exact List.mem_append_right _ (by simp [news now])

theorem preSelect
    {calls : ConnectCalls}
    (notifies : NotifiesOnce standing record)
    (lives : Lives standing record)
    (notEnded : standing.status ≠ .eEnd)
    (nonblocking : standing.status = .eStart → calls.socket ≠ none →
      calls.nobioErrno.getD 0 = 0)
    (done : PreSelects calls standing next output) :
    NotifiesOnce next (record.note true next.status output) := by
  have none : record.closeCalls = 0 := notifies.running notEnded
  have honest : 0 ∈ output.callbacks.filterMap Callback.connectedError →
      next.status = .eReadWrite := by
    intro told
    by_cases start : standing.status = .eStart
    · rw [(done.opens start).silent] at told
      cases told
    · obtain ⟨rfl, rfl⟩ := done.eq_of_started start
      cases told
  have honestNow := notifies.honest_note true output honest
  cases done with
  | watched started =>
      exact {
        atMostOnce := by simp [none, Output.calls]
        running := fun _ => by simp [none, Output.calls]
        pending := fun _ ended => absurd ended notEnded
        silenced := notifies.silenced
        honest := honestNow }
  | noSocket start =>
      exact {
        atMostOnce := by simp [none, Output.calls, Callback.isClose]
        running := fun running => absurd rfl running
        pending := fun _ _ socket => absurd rfl socket
        silenced := fun _ socket => absurd rfl socket
        honest := honestNow }
  | notNonblocking start opened failed nonzero =>
      rw [(lives.healthy notEnded).1, nonblocking start (by simp [opened])] at failed
      exact absurd failed.symm nonzero
  | refused start _ nonzero =>
      exact {
        atMostOnce := by simp [none, Callback.isClose]
        running := fun running => absurd rfl running
        pending := fun _ _ _ => by simp [none, Callback.isClose]
        silenced := fun _ _ => Or.inr nonzero
        honest := honestNow }
  | connecting start _ =>
      exact {
        atMostOnce := by simp [none, Callback.isClose]
        running := fun _ => by simp [none, Callback.isClose]
        pending := fun _ ended => by cases ended
        silenced := fun ended => by cases ended
        honest := honestNow }

/-- An `AfterSelect` without `_OnClose` after which the machine runs. -/
theorem goesOn
    {callbacks : List Callback}
    (notifies : NotifiesOnce standing record)
    (before : standing.status ≠ .eEnd)
    (quiet : callbacks.countP Callback.isClose = 0)
    (after : next.status ≠ .eEnd)
    (honest : 0 ∈ callbacks.filterMap Callback.connectedError →
      next.status = .eReadWrite) :
    NotifiesOnce next (record.note false next.status (.calls callbacks)) := by
  have none : (record.note false next.status (.calls callbacks)).closeCalls = 0 := by
    rw [Record.closeCalls_note, notifies.running before]
    simpa [Output.calls] using quiet
  exact {
    atMostOnce := by rw [none]; exact Nat.zero_le 1
    running := fun _ => none
    pending := fun selected => by cases selected
    silenced := fun ended => absurd ended after
    honest := notifies.honest_note false (.calls callbacks) honest }

/-- An `AfterSelect` that ends the machine and leaves a mark for `Close`. -/
theorem ends
    {callbacks : List Callback}
    (notifies : NotifiesOnce standing record)
    (before : standing.status ≠ .eEnd)
    (once : callbacks.countP Callback.isClose = 1)
    (after : next.status = .eEnd)
    (marked : next.remoteClose = true ∨ next.error ≠ 0)
    (honest : 0 ∈ callbacks.filterMap Callback.connectedError →
      next.status = .eReadWrite) :
    NotifiesOnce next (record.note false next.status (.calls callbacks)) where
  atMostOnce := by
    rw [Record.closeCalls_note, notifies.running before]
    simpa [Output.calls] using once.le
  running := fun running => absurd after running
  pending := fun selected => by cases selected
  silenced := fun _ _ => marked
  honest := notifies.honest_note false (.calls callbacks) honest

/-- An `AfterSelect` after `PreSelect` ended the machine. -/
theorem ended
    (notifies : NotifiesOnce standing record)
    (selected : record.selected = true)
    (ended : standing.status = .eEnd)
    (socket : standing.sock ≠ none)
    (last : standing.lastStatus = .eStart) :
    NotifiesOnce standing (record.note false standing.status
      (.calls [.onClose standing.lastStatus standing.error false])) where
  atMostOnce := by
    simp [notifies.pending selected ended socket, Output.calls, Callback.isClose]
  running := fun running => absurd ended running
  pending := fun selected => by cases selected
  silenced := notifies.silenced
  honest := notifies.honest_note false _ fun told => by
    simp [Output.calls, List.filterMap, Callback.connectedError, last] at told

theorem afterSelect
    {callbacks : List Callback}
    (notifies : NotifiesOnce standing record)
    (lives : Lives standing record)
    (turn : record.selected = true ∨ standing.status ≠ .eEnd)
    (done : AfterSelects false standing next callbacks) :
    NotifiesOnce next (record.note false next.status (.calls callbacks)) := by
  cases done with
  | endedBefore ended socket =>
      rcases turn with selected | running
      · exact notifies.ended selected ended socket
          (lives.lastStatus_of_ended (Or.inl selected) ended)
      · exact absurd ended running
  | ignored _ =>
      exact {
        atMostOnce := by simpa [Output.calls] using notifies.atMostOnce
        running := by simpa [Output.calls] using notifies.running
        pending := fun selected => by cases selected
        silenced := notifies.silenced
        honest := notifies.honest_note false _ fun told => by cases told }
  | connecting connecting =>
      exact notifies.goesOn (by simp [connecting]) rfl (by simp [connecting])
        (by simp)
  | connected connecting =>
      exact notifies.goesOn (by simp [connecting]) rfl (by simp) (by simp)
  | connectFailed connecting nonzero =>
      simp only [Bool.false_eq_true, or_false] at nonzero
      refine notifies.ends (by simp [connecting]) rfl rfl (Or.inr nonzero) ?_
      simp [List.filterMap, Callback.connectedError, nonzero.symm]
  | transferred transferring transfers =>
      refine notifies.goesOn (by simp [transferring]) transfers.countP_isClose
        (by simp [transferring]) ?_
      simp [transfers.filterMap_connectedError]
  | remoteClosed transferring transfers =>
      refine notifies.ends (by simp [transferring]) ?_ rfl (Or.inl rfl) ?_
      · simp [transfers.countP_isClose, Callback.isClose]
      · simp [transfers.filterMap_connectedError, List.filterMap,
          Callback.connectedError]
  | transferFailed transferring transfers nonzero =>
      simp only [Bool.false_eq_true, or_false] at nonzero
      refine notifies.ends (by simp [transferring]) ?_ rfl (Or.inr nonzero) ?_
      · simp [transfers.countP_isClose, Callback.isClose]
      · simp [transfers.filterMap_connectedError, List.filterMap,
          Callback.connectedError]

theorem close
    {notify : Bool}
    (notifies : NotifiesOnce standing record)
    (done : Closes notify standing next output) :
    NotifiesOnce next (record.note false next.status output) := by
  cases done with
  | noSocket noSocket =>
      exact {
        atMostOnce := by simpa [Output.calls] using notifies.atMostOnce
        running := by simpa [Output.calls] using notifies.running
        pending := fun selected => by cases selected
        silenced := notifies.silenced
        honest := notifies.honest_note false _ fun told => by cases told }
  | silent _ _ =>
      exact {
        atMostOnce := by simpa using notifies.atMostOnce
        running := by simpa using notifies.running
        pending := fun selected => by cases selected
        silenced := fun _ socket => absurd rfl socket
        honest := notifies.honest_note false _ fun told => by cases told }
  | notified socket noMark noError =>
      have running : standing.status ≠ .eEnd := by
        intro ended
        rcases notifies.silenced ended (by simp [socket]) with remote | failed
        · simp [noMark] at remote
        · exact failed noError
      have untold := notifies.running running
      exact {
        atMostOnce := by
          cases notify <;> simp [untold, Callback.isClose]
        running := fun stillRunning => absurd rfl stillRunning
        pending := fun selected => by cases selected
        silenced := fun _ closed => absurd rfl closed
        honest := by
          refine notifies.honest_note false _ fun told => ?_
          cases notify with
          | false => cases told
          | true =>
              by_cases connecting : standing.status = .eConnecting
              · simp [List.filterMap, Callback.connectedError, connecting] at told
              · simp [List.filterMap, Callback.connectedError, connecting] at told }

end NotifiesOnce
end Skplat
