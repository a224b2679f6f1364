import Skplat.TcpClientFsm.Life
import Mathlib.Algebra.Ring.Nat

/-!
# Connecting to one of several addresses

`MultiConnect::TryConnect` races connections to a list of addresses.  It creates a
`ConnectCheckFSM` for each address, starts them one after the other, at most
`max_connect_` at a time, and returns the socket of the first one that is connected
and verified.

A step is one iteration of one of its inner loops, or the straight code between
them.  Readings of the clock, results of system calls and answers of the observer
are chosen by the action.  `socket` returns a descriptor that is not open.
-/

namespace Skplat
namespace MultiConnect

open TcpClient (toInt32)
open TcpClientFsm (AfterCalls)

def intMax : Int := 2147483647

/-! ## `ConnectCheckFSM` -/

/-- `TCheckStatus`. -/
inductive TCheckStatus
  | eCheckInit
  | eCheckOk
  | eCheckFail
  deriving DecidableEq, Repr

/-- The fields of a `ConnectCheckFSM`. -/
structure ConnectCheckFsm (Addr : Type) where
  /-- `addr_`. -/
  addr : Addr
  /-- The fields of `TcpClientFSM`. -/
  base : TcpClientFsm
  /-- `m_connect_timeout`. -/
  connectTimeoutMs : Nat
  /-- `m_check_status`. -/
  checkStatus : TCheckStatus
  deriving DecidableEq, Repr

/-- What the observer answers during one `AfterSelect`. -/
structure Answers where
  /-- `OnVerifySend`. -/
  verifySend : Bool
  /-- `send_buf_` after `OnVerifySend`. -/
  sendBuf : List UInt8
  /-- `OnVerifyRecv`. -/
  verifyRecv : Bool
  deriving DecidableEq, Repr

namespace ConnectCheckFsm

variable {Addr : Type}

/-- The constructor, with the answer of `ShouldVerify`. -/
def new
    (addr : Addr)
    (connectTimeoutMs : Nat)
    (observer shouldVerify : Bool) : ConnectCheckFsm Addr where
  addr := addr
  base := .new
  connectTimeoutMs := connectTimeoutMs
  checkStatus := if observer && shouldVerify then .eCheckInit else .eCheckOk

/-- `ConnectAbsTimeout()`. -/
def connectAbsTimeout (check : ConnectCheckFsm Addr) : Int :=
  toInt32 check.connectTimeoutMs

/-- `ConnectTimeout()`. -/
def connectTimeout (check : ConnectCheckFsm Addr) (now : Nat) : Int :=
  toInt32 (check.base.startConnecttime + check.connectAbsTimeout - now)

/-- `ReadWriteAbsTimeout()`. -/
def readWriteAbsTimeout (check : ConnectCheckFsm Addr) : Int :=
  max 1000 (min (toInt32 (6 * check.base.rtt))
    (toInt32 (check.connectAbsTimeout - check.base.rtt)))

/-- `ReadWriteTimeout()`. -/
def readWriteTimeout (check : ConnectCheckFsm Addr) (now : Nat) : Int :=
  toInt32 (check.base.endConnecttime + check.readWriteAbsTimeout - now)

/-- `Timeout()`. -/
def timeout (check : ConnectCheckFsm Addr) (now : Nat) : Int :=
  match check.base.status with
  | .eConnecting => check.connectTimeout now
  | .eReadWrite => check.readWriteTimeout now
  | .eEnd => 0
  | .eStart => intMax

/-- The callbacks, as far as they change a field. -/
def onCallback
    (observer : Bool)
    (answers : Answers)
    (check : ConnectCheckFsm Addr) : Callback → ConnectCheckFsm Addr
  | .onConnected _ =>
      if observer = true ∧ check.checkStatus ≠ .eCheckOk then
        { check with
          base := { check.base with sendBuf := answers.sendBuf }
          checkStatus :=
            if answers.verifySend then check.checkStatus else .eCheckFail }
      else check
  | .onRecv _ =>
      if observer = true ∧ check.checkStatus ≠ .eCheckOk then
        { check with
          checkStatus :=
            if answers.verifyRecv then .eCheckOk else .eCheckFail }
      else check
  | _ => check

/-- The results of the system calls of an `AfterSelect`, with the timeouts of this
machine. -/
def withTimeouts
    (check : ConnectCheckFsm Addr)
    (calls : AfterCalls)
    (now : Nat) : AfterCalls where
  connected := { calls.connected with timeout := check.connectTimeout now }
  readWrite := { calls.readWrite with timeout := check.readWriteTimeout now }

/-- `AfterSelect()`. -/
def afterSelect
    (check : ConnectCheckFsm Addr)
    (observer : Bool)
    (answers : Answers)
    (sel : SocketSelect)
    (calls : AfterCalls)
    (now : Nat) : ConnectCheckFsm Addr × Output :=
  let after := check.base.afterSelect sel (check.withTimeouts calls now)
  (after.2.callbacks.foldl (onCallback observer answers)
      { check with base := after.1 },
    after.2)

end ConnectCheckFsm

/-! ## `TryConnect` -/

/-- A `MultiConnect` and the arguments of `TryConnect`. -/
structure Config (Addr : Type) where
  /-- `_vecaddr`. -/
  addresses : List Addr
  /-- `timeout_`. -/
  timeout : Nat
  /-- `interval_`. -/
  interval : Nat
  /-- `error_interval_`. -/
  errorInterval : Nat
  /-- `max_connect_`. -/
  maxConnect : Nat
  /-- There is an observer. -/
  observer : Bool
  /-- `_breaker`. -/
  breaker : SocketSelectBreaker
  /-- `_breaker.BreakerFD()`. -/
  breakerFd : Int

/-- An entry of `vecsocketfsm` with its history. -/
structure Slot (Addr : Type) where
  /-- The machine, or none for `NULL`. -/
  check : Option (ConnectCheckFsm Addr)
  record : Record
  /-- The statuses with which the loop gave it up. -/
  removed : Option (TSocketStatus × TCheckStatus)
  /-- The socket that was taken from it. -/
  taken : Option Int
  deriving DecidableEq, Repr

namespace Slot

variable {Addr : Type}

/-- Nothing yet. -/
def empty : Slot Addr where
  check := none
  record := .new
  removed := none
  taken := none

/-- A new machine. -/
def new (check : ConnectCheckFsm Addr) : Slot Addr where
  check := some check
  record := .new
  removed := none
  taken := none

/-- `__isconnecting()`. -/
def isconnecting (slot : Slot Addr) : Bool :=
  match slot.check with
  | some check => check.base.sock.isSome
  | none => false

/-- After a call on its machine. -/
def called
    (slot : Slot Addr)
    (selected : Bool)
    (check : ConnectCheckFsm Addr)
    (output : Output) : Slot Addr :=
  { slot with
    check := some check
    record := slot.record.note selected check.base.status output }

/-- `Close()` and `delete`. -/
def delete (slot : Slot Addr) (check : ConnectCheckFsm Addr) : Slot Addr :=
  let closed := check.base.close true
  let deleted := closed.1.close false
  { slot with
    check := none
    record := (slot.record.note false closed.1.status closed.2).note false
      deleted.1.status deleted.2 }

/-- The loop gives the machine up. -/
def remove (slot : Slot Addr) (check : ConnectCheckFsm Addr) : Slot Addr :=
  { slot.delete check with
    removed := some (check.base.status, check.checkStatus) }

/-- `Socket(INVALID_SOCKET)` and `delete`. -/
def take (slot : Slot Addr) (check : ConnectCheckFsm Addr) : Slot Addr :=
  { slot with check := none, taken := check.base.sock }

end Slot

/-- Where `TryConnect` stands. -/
inductive Pc
  | creating (i : Nat)
  | top
  | preSelecting (i : Nat)
  | timing (i : Nat)
  | afterSelecting (i : Nat)
  | testing
  | cleaning (i : Nat)
  | returned
  deriving DecidableEq, Repr

/-- The start of an attempt. -/
structure Start where
  /-- `laststart_connecttime`. -/
  time : Nat
  /-- An attempt failed since the start before. -/
  afterFailure : Bool
  /-- The iteration of the loop, from 1. -/
  iteration : Nat
  deriving DecidableEq, Repr

/-- The locals of `TryConnect`, the fields it sets, and its history. -/
structure State (Addr : Type) where
  pc : Pc
  /-- `vecsocketfsm`. -/
  slots : Nat → Slot Addr
  /-- `vecsocketfsm.size()`. -/
  vecSize : Nat
  index : Nat
  lasterror : Int
  laststartConnecttime : Nat
  timeout : Int
  sel : SocketSelect
  retsocket : Option Int
  /-- `trycount_`. -/
  trycount : Nat
  /-- `index_`. -/
  usedIndex : Int
  /-- The open descriptors that were created here. -/
  isOpen : Int → Bool
  /-- The addresses of the attempts, in the order of their `PreConnectSelect`. -/
  attempts : List Addr
  starts : List Start
  /-- An attempt failed since the last start. -/
  failed : Bool
  /-- Number of iterations of the main loop. -/
  iterations : Nat
  /-- The first and the latest of the readings that pace the starts. -/
  origin : Nat
  clock : Nat
  /-- The index of the chosen socket and the slots when it was chosen. -/
  chosen : Option (Nat × (Nat → Slot Addr))

/-- One step. -/
inductive Action
  | create (shouldVerify : Bool)
  | enter (curtime : Nat)
  | start (curtime startTime : Nat)
  | preSelect (calls : ConnectCalls)
  | timeout (now : Nat)
  | select (poll : PollResult)
  | afterSelect (calls : AfterCalls) (answers : Answers) (now : Nat)
  | test
  | cleanup

/-- The open descriptors after a call. -/
def settle (isOpen : Int → Bool) (output : Output) : Int → Bool :=
  let opened :=
    match output.created with
    | some sock => Function.update isOpen sock true
    | none => isOpen
  match output.closed with
  | some sock => Function.update opened sock false
  | none => opened

namespace State

variable {Addr : Type}

/-- The state before the first statement after the test for an empty list. -/
def new (config : Config Addr) : State Addr where
  pc := if config.addresses = [] then .returned else .creating 0
  slots := fun _ => .empty
  vecSize := 0
  index := 0
  lasterror := 0
  laststartConnecttime := 0
  timeout := 0
  sel := SocketSelect.new config.breakerFd false
  retsocket := none
  trycount := 0
  usedIndex := -1
  isOpen := fun _ => false
  attempts := []
  starts := []
  failed := false
  iterations := 0
  origin := 0
  clock := 0
  chosen := none

/-- `next_connect_timeout`. -/
def nextConnectTimeout
    (state : State Addr)
    (config : Config Addr)
    (curtime : Nat) : Int :=
  toInt32 ((if state.lasterror = 0 then config.interval
    else config.errorInterval : Nat) -
      ((curtime : Int) - state.laststartConnecttime))

/-- `runing_count`. -/
def runingCount (state : State Addr) : Nat :=
  (List.range state.vecSize).countP fun i => (state.slots i).isconnecting

/-- Steps of the loop that creates the machines.  Its counter has 32 bits. -/
def stepCreate (config : Config Addr) (state : State Addr) :
    Action → Option (State Addr)
  | .create shouldVerify =>
      match state.pc with
      | .creating i =>
          match config.addresses[i]? with
          | some addr =>
              some { state with
                slots := Function.update state.slots state.vecSize
                  (.new (.new addr config.timeout config.observer shouldVerify))
                vecSize := state.vecSize + 1
                pc := .creating ((i + 1) % 2 ^ 32) }
          | none => none
      | _ => none
  | .enter curtime =>
      match state.pc with
      | .creating i =>
          if config.addresses.length ≤ i then
            some { state with
              laststartConnecttime := (curtime + (2 ^ 64 -
                max config.interval config.errorInterval)) % 2 ^ 64
              origin := curtime
              clock := curtime
              pc := .top }
          else none
      | _ => none
  | _ => none

/-- The main loop up to the first inner loop. -/
def stepStart (config : Config Addr) (state : State Addr) :
    Action → Option (State Addr)
  | .start curtime startTime =>
      if state.pc = .top then
        let next := state.nextConnectTimeout config curtime
        let begun := { state with
          sel := (SocketSelect.new config.breakerFd false).preSelect
          iterations := state.iterations + 1
          pc := .preSelecting 0 }
        if state.index < state.vecSize ∧ 0 ≥ next ∧
            state.runingCount < config.maxConnect then
          some { begun with
            timeout :=
              if state.runingCount + 1 < config.maxConnect then
                min (toInt32 config.timeout) (toInt32 config.interval)
              else toInt32 config.timeout
            laststartConnecttime := startTime
            lasterror := 0
            trycount := state.index + 1
            index := state.index + 1
            clock := startTime
            starts := state.starts ++
              [⟨startTime, state.failed, state.iterations + 1⟩]
            failed := false }
        else
          some { begun with
            timeout :=
              if state.index < state.vecSize ∧ 0 < next ∧
                  state.runingCount < config.maxConnect then
                min (toInt32 config.timeout) next
              else toInt32 config.timeout
            clock := curtime }
      else none
  | _ => none

/-- `PreSelect` of a machine. -/
def preSelect
    (state : State Addr)
    (i : Nat)
    (check : ConnectCheckFsm Addr)
    (calls : ConnectCalls) : State Addr :=
  let after := check.base.preSelect state.sel calls
  { state with
    slots := Function.update state.slots i
      ((state.slots i).called true { check with base := after.1 } after.2.2)
    sel := after.2.1
    isOpen := settle state.isOpen after.2.2
    attempts :=
      if check.base.status = .eStart then state.attempts ++ [check.addr]
      else state.attempts
    failed := state.failed || after.1.status == .eEnd
    pc := .timing i }

/-- `socket` returns a descriptor that is not open. -/
def canOpen (config : Config Addr) (state : State Addr) : Option Int → Bool
  | some sock => state.isOpen sock == false && sock != config.breakerFd
  | none => true

/-- `sel` after `Select()`. -/
def polled
    (config : Config Addr)
    (state : State Addr)
    (poll : PollResult) : SocketSelect :=
  (state.sel.select config.breaker poll 0).1

/-- The loop that calls `PreSelect`, and `Select`. -/
def stepSelect (config : Config Addr) (state : State Addr) :
    Action → Option (State Addr)
  | .preSelect calls =>
      match state.pc with
      | .preSelecting i =>
          if i < state.index then
            match (state.slots i).check with
            | none => some { state with pc := .preSelecting (i + 1) }
            | some check =>
                if state.canOpen config
                    (check.base.preSelect state.sel calls).2.2.created then
                  some (state.preSelect i check calls)
                else none
          else none
      | _ => none
  | .timeout now =>
      match state.pc with
      | .timing i =>
          match (state.slots i).check with
          | some check =>
              some { state with
                timeout := min state.timeout (check.timeout now)
                pc := .preSelecting (i + 1) }
          | none => none
      | _ => none
  | .select poll =>
      match state.pc with
      | .preSelecting i =>
          if i < state.index then none
          else
            let sel := state.polled config poll
            some { state with
              timeout :=
                if state.timeout = intMax then state.timeout
                else max 0 state.timeout
              sel := sel
              pc :=
                if sel.ret < 0 ∨ sel.isException = true ∨ sel.isBreak = true then
                  .cleaning 0
                else .afterSelecting 0 }
      | _ => none
  | _ => none

/-- The open descriptors after `Close()` and `delete`. -/
def openAfterDelete
    (state : State Addr)
    (check : ConnectCheckFsm Addr) : Int → Bool :=
  let closed := check.base.close true
  settle (settle state.isOpen closed.2) (closed.1.close false).2

/-- The loop gives a machine up. -/
def remove
    (state : State Addr)
    (i : Nat)
    (slot : Slot Addr)
    (check : ConnectCheckFsm Addr) : State Addr :=
  { state with
    slots := Function.update state.slots i (slot.remove check)
    isOpen := state.openAfterDelete check
    lasterror := -1
    failed := true
    pc := .afterSelecting (i + 1) }

/-- The loop takes the socket of a machine. -/
def choose
    (state : State Addr)
    (i : Nat)
    (slot : Slot Addr)
    (check : ConnectCheckFsm Addr) : State Addr :=
  { state with
    slots := Function.update state.slots i (slot.take check)
    retsocket := check.base.sock
    usedIndex := toInt32 i
    chosen := some (i, Function.update state.slots i slot)
    pc := .testing }

/-- The tests after an `AfterSelect`. -/
def judge
    (state : State Addr)
    (i : Nat)
    (slot : Slot Addr)
    (check : ConnectCheckFsm Addr) : State Addr :=
  if check.base.status = .eEnd then state.remove i slot check
  else if check.base.status = .eReadWrite ∧ check.checkStatus = .eCheckFail then
    state.remove i slot check
  else if check.base.status = .eReadWrite ∧ check.checkStatus = .eCheckOk then
    state.choose i slot check
  else
    { state with
      slots := Function.update state.slots i slot
      pc := .afterSelecting (i + 1) }

/-- The last loop deletes a machine. -/
def cleanup
    (state : State Addr)
    (i : Nat)
    (check : ConnectCheckFsm Addr) : State Addr :=
  { state with
    slots := Function.update state.slots i ((state.slots i).delete check)
    isOpen := state.openAfterDelete check
    pc := .cleaning (i + 1) }

/-- The loop that calls `AfterSelect`, and the end of the main loop. -/
def stepResult (config : Config Addr) (state : State Addr) :
    Action → Option (State Addr)
  | .afterSelect calls answers now =>
      match state.pc with
      | .afterSelecting i =>
          if i < state.index then
            match (state.slots i).check with
            | none => some { state with pc := .afterSelecting (i + 1) }
            | some check =>
                let after :=
                  check.afterSelect config.observer answers state.sel calls now
                some (state.judge i
                  ((state.slots i).called false after.1 after.2) after.1)
          else some { state with pc := .testing }
      | _ => none
  | .test =>
      if state.pc = .testing then
        if (∀ i < state.vecSize, (state.slots i).check = none) ∨
            state.retsocket ≠ none then
          some { state with pc := .cleaning 0 }
        else some { state with pc := .top }
      else none
  | .cleanup =>
      match state.pc with
      | .cleaning i =>
          if i < state.vecSize then
            match (state.slots i).check with
            | none => some { state with pc := .cleaning (i + 1) }
            | some check => some (state.cleanup i check)
          else some { state with pc := .returned }
      | _ => none
  | _ => none

/-- One step. -/
def step
    (config : Config Addr)
    (state : State Addr)
    (action : Action) : Option (State Addr) :=
  (state.stepCreate config action).or ((state.stepStart config action).or
    ((state.stepSelect config action).or (state.stepResult config action)))

end State

/-- A call of `TryConnect`. -/
def system {Addr : Type} (config : Config Addr) : Machine (State Addr) Action where
  initial := fun state => state = State.new config
  step := State.step config

end MultiConnect
end Skplat
