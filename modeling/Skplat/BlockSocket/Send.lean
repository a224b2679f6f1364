import Skplat.BlockSocket.Defs

/-!
# Sending with a timeout

`block_socket_send` counts what `send` has accepted in a `size_t` and returns the count
as an `int`, and it keeps the elapsed time in an `int32_t` and subtracts it from the
timeout.  The count is right as long as it is an `int`, and the timeout of a `Select` is
not negative as long as the difference is one.
-/

namespace Skplat
namespace BlockSocket

open MachineInt (toInt32 toInt32_lower toInt32_natCast toInt32_of_nonneg)

/-- The results of the system calls of one pass of the loop. -/
structure SendTurn where
  poll : PollResult
  /-- `gettickcount()`. -/
  tick : Int
  /-- `socket_error(_sock)`, if the socket has an exception. -/
  socketError : Int
  /-- What `send` returns, if it is called. -/
  nwrite : Int
  /-- `socket_errno` after it. -/
  sendErrno : Int

/-- The locals and the history of a call. -/
structure SendState where
  sel : SocketSelect
  costTime : Int
  sentLen : Nat
  /-- Set once the call has returned. -/
  exit : Option Exit
  /-- The turns so far. -/
  turns : List SendTurn
  /-- What each `Select` has passed to `poll`. -/
  timeouts : List Int
  /-- All bytes that `send` accepted. -/
  accepted : List UInt8

/-- The arguments of `block_socket_send`. -/
structure SendArgs extends Args where
  /-- The `_len` bytes at `_buffer`. -/
  bytes : List UInt8
  deriving DecidableEq, Repr

namespace SendState

variable (state : SendState)

/-- Return. -/
def leave (result errcode : Int) : SendState :=
  { state with exit := some ⟨result, errcode⟩ }

@[simp] theorem exit_leave (result errcode : Int) :
    (state.leave result errcode).exit = some ⟨result, errcode⟩ := rfl

/-- Return the count. -/
def leaveCount (errcode : Int) : SendState :=
  state.leave (toInt32 state.sentLen) errcode

@[simp] theorem exit_leaveCount (errcode : Int) :
    (state.leaveCount errcode).exit = some ⟨toInt32 state.sentLen, errcode⟩ := rfl

@[simp] theorem sentLen_leaveCount (errcode : Int) :
    (state.leaveCount errcode).sentLen = state.sentLen := rfl

end SendState

namespace SendTurn

variable (turn : SendTurn)

/-- The test of the result of `send`. -/
def sendFailed : Bool :=
  turn.nwrite == 0 || (decide (0 > turn.nwrite) && !isNoblockErrno turn.sendErrno)

end SendTurn

namespace SendArgs

variable (args : SendArgs)

/-- The test at the head of the loop. -/
def loopHead (state : SendState) : SendState :=
  if state.sentLen ≥ args.bytes.length then state.leaveCount 0 else state

/-- Up to the first `Select`. -/
def enter : SendState :=
  args.loopHead {
    sel := args.sel
    costTime := 0
    sentLen := 0
    exit := none
    turns := []
    timeouts := []
    accepted := [] }

/-- The call of `send` and what is done with its result. -/
def send (state : SendState) (turn : SendTurn) : SendState :=
  if turn.sendFailed then state.leave (-1) turn.sendErrno
  else if 0 < turn.nwrite then
    args.loopHead { state with
      sentLen := state.sentLen + turn.nwrite.toNat
      accepted := state.accepted ++
        (args.bytes.drop state.sentLen).take turn.nwrite.toNat }
  else args.loopHead state

/-- The `Select` and the reading of the clock. -/
def polled (state : SendState) (turn : SendTurn) : SendState :=
  { state with
    sel := args.pollSocket .writeFdSet state.sel turn.poll
    costTime := args.costTime turn.tick
    turns := state.turns ++ [turn]
    timeouts := state.timeouts ++ [args.selectTimeout state.costTime] }

/-- One pass of the loop, from the `Select` to the next one. -/
def pass (state : SendState) (turn : SendTurn) : SendState :=
  let next := args.polled state turn
  if next.sel.ret < 0 then next.leave (-1) next.sel.errno
  else if next.sel.ret = 0 then next.leaveCount eTimedOut
  else if next.sel.isException || next.sel.isBreak then next.leaveCount 0
  else if next.sel.exceptionFdIsSet args.sock != 0 then
    next.leave (-1) turn.socketError
  else if next.sel.writeFdIsSet args.sock != 0 then args.send next turn
  else args.loopHead next

/-- A turn that can happen: the call has not returned, and `send` accepts at most what
it is given. -/
def Possible (state : SendState) (turn : SendTurn) : Prop :=
  state.exit = none ∧ turn.nwrite ≤ (args.bytes.length - state.sentLen : Nat)

instance (state : SendState) : DecidablePred (args.Possible state) :=
  fun _ => inferInstanceAs (Decidable (_ ∧ _))

/-- A call as a system. -/
def system : Machine SendState SendTurn where
  initial := fun state => state = args.enter
  step := fun state turn =>
    if args.Possible state turn then some (args.pass state turn) else none

/-! ## What the call is for -/

/-- The select of a turn. -/
def selOf (turn : SendTurn) : SocketSelect :=
  args.pollSocket .writeFdSet args.sel turn.poll

/-- A break or an exception of the breaker was reported. -/
def Interrupted (turn : SendTurn) : Prop :=
  ((args.selOf turn).isException || (args.selOf turn).isBreak) = true

/-- `poll` has succeeded, and neither the breaker nor the socket has a problem. -/
def Clear (turn : SendTurn) : Prop :=
  0 < (args.selOf turn).ret ∧ ¬args.Interrupted turn ∧
    (args.selOf turn).exceptionFdIsSet args.sock = 0

/-- `send` is called. -/
def Sends (turn : SendTurn) : Prop :=
  args.Clear turn ∧ (args.selOf turn).writeFdIsSet args.sock ≠ 0

/-- `poll` or `send` fails, or the socket has an exception. -/
def Fails (turn : SendTurn) : Prop :=
  (args.selOf turn).ret < 0 ∨
    (0 < (args.selOf turn).ret ∧ ¬args.Interrupted turn ∧
      (args.selOf turn).exceptionFdIsSet args.sock ≠ 0) ∨
    args.Sends turn ∧ turn.sendFailed = true

/-- The call can go on. -/
def Calm (turn : SendTurn) : Prop :=
  ¬args.Fails turn ∧ ¬args.Interrupted turn

/-- What a turn in which something fails stores in `_errcode`. -/
def failureCode (turn : SendTurn) : Int :=
  if (args.selOf turn).ret < 0 then (args.selOf turn).errno
  else if (args.selOf turn).exceptionFdIsSet args.sock ≠ 0 then turn.socketError
  else turn.sendErrno

instance : DecidablePred args.Interrupted :=
  fun _ => inferInstanceAs (Decidable (_ = true))

instance : DecidablePred args.Clear :=
  fun _ => inferInstanceAs (Decidable (_ ∧ ¬_ ∧ _))

instance : DecidablePred args.Sends :=
  fun _ => inferInstanceAs (Decidable (_ ∧ _))

instance : DecidablePred args.Fails :=
  fun _ => inferInstanceAs (Decidable (_ ∨ (_ ∧ _) ∨ _))

/-- What a call promises, in every state of it. -/
structure Keeps (state : SendState) : Prop where
  /-- A count tells which bytes were accepted. -/
  counts : ∀ exit, state.exit = some exit → 0 ≤ exit.result →
    state.accepted = args.bytes.take exit.result.toNat ∧
      state.accepted.length = exit.result.toNat
  /-- Without an error and an interruption everything was accepted. -/
  complete : ∀ exit, state.exit = some exit → exit.errcode = 0 →
    (∀ turn ∈ state.turns, ¬args.Interrupted turn) →
      exit.result = args.bytes.length
  /-- With a timeout, every `Select` has one. -/
  waits : 0 ≤ args.timeout → ∀ timeout ∈ state.timeouts, 0 ≤ timeout
  /-- Only a failure returns -1. -/
  fails : ∀ exit, state.exit = some exit → exit.result = -1 →
    ∃ turn ∈ state.turns, args.Fails turn

/-- The bytes that `send` accepts in a turn. -/
def acceptedIn (turn : SendTurn) : Nat :=
  if args.Sends turn then turn.nwrite.toNat else 0

/-- The bytes that `send` accepts in all turns. -/
def total (turns : List SendTurn) : Nat :=
  (turns.map args.acceptedIn).sum

theorem total_append (turns : List SendTurn) (turn : SendTurn) :
    args.total (turns ++ [turn]) = args.total turns + args.acceptedIn turn := by
  simp only [total, List.map_append, List.sum_append, List.map_cons, List.map_nil,
    List.sum_cons, List.sum_nil, Nat.add_zero]

/-! ## What is kept -/

/-- The `poll` of a turn is the one of a new select. -/
theorem sel_polled
    {state : SendState} (same : state.sel.preSelect = args.sel.preSelect)
    (turn : SendTurn) :
    (args.polled state turn).sel = args.selOf turn :=
  args.pollSocket_eq same turn.poll

/-- Nothing is accepted where `send` is not called. -/
theorem acceptedIn_of_not_sends {turn : SendTurn} (quiet : ¬args.Sends turn) :
    args.acceptedIn turn = 0 :=
  if_neg quiet

/-- What one pass of the loop can do. -/
inductive Passed (state : SendState) (turn : SendTurn) : SendState → Prop
  | failed
      (fails : args.Fails turn) (nothing : args.acceptedIn turn = 0) :
      Passed state turn ((args.polled state turn).leave (-1) (args.failureCode turn))
  | left (errcode : Int)
      (good : ¬args.Fails turn) (nothing : args.acceptedIn turn = 0)
      (reason : errcode = 0 → args.Interrupted turn) :
      Passed state turn ((args.polled state turn).leaveCount errcode)
  | accepted
      (calm : args.Calm turn) (count : args.acceptedIn turn = turn.nwrite.toNat) :
      Passed state turn (args.loopHead { args.polled state turn with
        sentLen := state.sentLen + turn.nwrite.toNat
        accepted := state.accepted ++
          (args.bytes.drop state.sentLen).take turn.nwrite.toNat })
  | again
      (calm : args.Calm turn) (nothing : args.acceptedIn turn = 0) :
      Passed state turn (args.loopHead (args.polled state turn))

/-- A turn in which none of the three failures happens. -/
theorem not_fails
    {turn : SendTurn} (polled : ¬(args.selOf turn).ret < 0)
    (calm : ¬(0 < (args.selOf turn).ret ∧ ¬args.Interrupted turn ∧
      (args.selOf turn).exceptionFdIsSet args.sock ≠ 0))
    (sent : args.Sends turn → turn.sendFailed = false) :
    ¬args.Fails turn := by
  rintro (negative | raised | ⟨sends, failed⟩)
  · exact polled negative
  · exact calm raised
  · rw [sent sends] at failed
    cases failed

theorem passed_send
    {state : SendState} {turn : SendTurn} (sends : args.Sends turn) :
    args.Passed state turn (args.send (args.polled state turn) turn) := by
  have accepted : args.acceptedIn turn = turn.nwrite.toNat := if_pos sends
  unfold send
  by_cases failed : turn.sendFailed = true
  · have nothing : turn.nwrite.toNat = 0 := by
      simp only [SendTurn.sendFailed, Bool.or_eq_true, Bool.and_eq_true, beq_iff_eq,
        decide_eq_true_eq] at failed
      omega
    have code : args.failureCode turn = turn.sendErrno := by
      have positive := sends.1.1
      rw [failureCode, if_neg (by omega), if_neg (not_not_intro sends.1.2.2)]
    rw [if_pos failed, ← code]
    exact .failed (Or.inr (Or.inr ⟨sends, failed⟩)) (accepted.trans nothing)
  · have polled : ¬(args.selOf turn).ret < 0 := by
      have positive := sends.1.1
      omega
    have good := args.not_fails polled (fun raised => raised.2.2 sends.1.2.2)
      fun _ => Bool.eq_false_of_not_eq_true failed
    rw [if_neg failed]
    by_cases positive : 0 < turn.nwrite
    · rw [if_pos positive]
      exact .accepted ⟨good, sends.1.2.1⟩ accepted
    · rw [if_neg positive]
      exact .again ⟨good, sends.1.2.1⟩ (accepted.trans (by omega))

theorem passed_pass
    {state : SendState} (same : state.sel.preSelect = args.sel.preSelect)
    (turn : SendTurn) :
    args.Passed state turn (args.pass state turn) := by
  have sel := args.sel_polled same turn
  unfold pass
  dsimp only
  rw [sel]
  by_cases broken : (args.selOf turn).ret < 0
  · have quiet : ¬args.Sends turn := fun sends => by
      have positive := sends.1.1
      omega
    have code : args.failureCode turn = (args.selOf turn).errno := if_pos broken
    rw [if_pos broken, ← code]
    exact .failed (Or.inl broken) (acceptedIn_of_not_sends args quiet)
  rw [if_neg broken]
  by_cases late : (args.selOf turn).ret = 0
  · have quiet : ¬args.Sends turn := fun sends => by
      have positive := sends.1.1
      omega
    have good := args.not_fails broken (fun raised => by omega)
      fun sends => absurd sends quiet
    rw [if_pos late]
    refine .left eTimedOut good (acceptedIn_of_not_sends args quiet) fun zero => ?_
    cases zero
  rw [if_neg late]
  by_cases interrupted : args.Interrupted turn
  · have quiet : ¬args.Sends turn := fun sends => sends.1.2.1 interrupted
    have good := args.not_fails broken (fun raised => raised.2.1 interrupted)
      fun sends => absurd sends quiet
    rw [if_pos (show _ = true from interrupted)]
    exact .left 0 good (acceptedIn_of_not_sends args quiet) fun _ => interrupted
  rw [if_neg (show ¬_ = true from interrupted)]
  by_cases exception : (args.selOf turn).exceptionFdIsSet args.sock = 0
  · rw [if_neg (by simpa using exception)]
    have clear : args.Clear turn := ⟨by omega, interrupted, exception⟩
    by_cases writable : (args.selOf turn).writeFdIsSet args.sock = 0
    · have quiet : ¬args.Sends turn := fun sends => sends.2 writable
      have good := args.not_fails broken (fun raised => raised.2.2 exception)
        fun sends => absurd sends quiet
      rw [if_neg (by simpa using writable)]
      exact .again ⟨good, interrupted⟩ (acceptedIn_of_not_sends args quiet)
    · rw [if_pos (by simpa using writable)]
      exact args.passed_send ⟨clear, writable⟩
  · have quiet : ¬args.Sends turn := fun sends => exception sends.1.2.2
    have code : args.failureCode turn = turn.socketError := by
      rw [failureCode, if_neg broken, if_pos exception]
    rw [if_pos (by simpa using exception), ← code]
    exact .failed (Or.inr (Or.inl ⟨by omega, interrupted, exception⟩))
      (acceptedIn_of_not_sends args quiet)

/-- The locals and the history agree. -/
structure Tracks (state : SendState) : Prop where
  sel : state.sel.preSelect = args.sel.preSelect
  sentLen : state.sentLen = args.total state.turns
  bounded : state.sentLen ≤ args.bytes.length
  accepted : state.accepted = args.bytes.take state.sentLen
  /-- The timeouts so far and the next one. -/
  timeouts : state.timeouts ++ [args.selectTimeout state.costTime] =
    args.selectTimeout 0 ::
      state.turns.map fun turn => args.selectTimeout (args.costTime turn.tick)

/-- How a call has returned: after a failure, with the whole buffer sent, or with a part of
it. -/
inductive Returned (state : SendState) (exit : Exit) : Prop
  | failed (turn : SendTurn) (result : exit.result = -1) (present : turn ∈ state.turns)
      (fails : args.Fails turn) (code : exit.errcode = args.failureCode turn)
      (others : ∀ other ∈ state.turns, other = turn ∨ args.Calm other)
  | whole (result : exit.result = toInt32 state.sentLen) (code : exit.errcode = 0)
      (all : state.sentLen = args.bytes.length) (calm : ∀ turn ∈ state.turns, args.Calm turn)
  | part (result : exit.result = toInt32 state.sentLen)
      (some : state.sentLen < args.bytes.length)
      (good : ∀ turn ∈ state.turns, ¬args.Fails turn)
      (reason : exit.errcode = 0 → ∃ turn ∈ state.turns, args.Interrupted turn)

/-- A call goes on as long as something is left to be sent and nothing has happened. -/
structure Exits (state : SendState) : Prop where
  running : state.exit = none →
    state.sentLen < args.bytes.length ∧ ∀ turn ∈ state.turns, args.Calm turn
  returned : ∀ exit, state.exit = some exit → args.Returned state exit

/-- What holds in every state of a call. -/
structure Follows (state : SendState) : Prop where
  tracks : args.Tracks state
  exits : args.Exits state

variable {args}
variable {state : SendState} {turn : SendTurn}

theorem Tracks.leave (tracks : args.Tracks state) (result errcode : Int) :
    args.Tracks (state.leave result errcode) :=
  { tracks with }

theorem Tracks.loopHead (tracks : args.Tracks state) :
    args.Tracks (args.loopHead state) := by
  unfold SendArgs.loopHead
  split
  · exact tracks.leave _ _
  · exact tracks

theorem Tracks.polled
    (tracks : args.Tracks state) (nothing : args.acceptedIn turn = 0) :
    args.Tracks (args.polled state turn) := by
  refine ⟨tracks.sel, ?_, tracks.bounded, tracks.accepted, ?_⟩
  · change state.sentLen = args.total (state.turns ++ [turn])
    rw [total_append, nothing, ← tracks.sentLen, Nat.add_zero]
  · change state.timeouts ++ [args.selectTimeout state.costTime] ++ _ = _
    rw [tracks.timeouts, List.cons_append]
    simp only [SendArgs.polled, List.map_append, List.map_cons, List.map_nil]

theorem Tracks.accept
    (tracks : args.Tracks state) {count : Nat} (all : args.acceptedIn turn = count)
    (fits : count ≤ args.bytes.length - state.sentLen) :
    args.Tracks { args.polled state turn with
      sentLen := state.sentLen + count
      accepted := state.accepted ++ (args.bytes.drop state.sentLen).take count } := by
  have bounded := tracks.bounded
  refine ⟨tracks.sel, ?_, ?_, ?_, ?_⟩
  · change state.sentLen + count = args.total (state.turns ++ [turn])
    rw [total_append, all, ← tracks.sentLen]
  · dsimp only
    omega
  · dsimp only
    rw [tracks.accepted, List.take_add]
  · change state.timeouts ++ [args.selectTimeout state.costTime] ++ _ = _
    rw [tracks.timeouts, List.cons_append]
    simp only [SendArgs.polled, List.map_append, List.map_cons, List.map_nil]

/-- A call that goes on has seen no failure and no interruption. -/
theorem Exits.loopHead
    (tracks : args.Tracks state) (running : state.exit = none)
    (calm : ∀ turn ∈ state.turns, args.Calm turn) :
    args.Exits (args.loopHead state) := by
  unfold SendArgs.loopHead
  split
  · rename_i enough
    refine ⟨fun running => ?_, fun exit left => ?_⟩
    · cases running
    · rw [SendState.exit_leaveCount, Option.some.injEq] at left
      subst left
      exact .whole (by rw [SendState.sentLen_leaveCount]) rfl
        (tracks.bounded.antisymm enough) calm
  · rename_i less
    refine ⟨fun _ => ⟨Nat.lt_of_not_le less, calm⟩, fun exit left => ?_⟩
    rw [running] at left
    cases left

/-- Every pass of the loop keeps everything. -/
theorem Follows.pass
    (follows : args.Follows state) (possible : args.Possible state turn) :
    args.Follows (args.pass state turn) := by
  obtain ⟨tracks, exits⟩ := follows
  obtain ⟨less, calmBefore⟩ := exits.running possible.1
  have others : ∀ other ∈ state.turns ++ [turn], other = turn ∨ args.Calm other := by
    intro other present
    rcases List.mem_append.mp present with before | last
    · exact Or.inr (calmBefore other before)
    · exact Or.inl (List.mem_singleton.mp last)
  have calmAfter (calm : args.Calm turn) :
      ∀ other ∈ state.turns ++ [turn], args.Calm other := by
    intro other present
    rcases others other present with rfl | calmOther
    · exact calm
    · exact calmOther
  have last : turn ∈ (args.polled state turn).turns :=
    List.mem_append_right _ (List.mem_singleton.mpr rfl)
  have passed := args.passed_pass tracks.sel turn
  generalize args.pass state turn = next at passed ⊢
  cases passed with
  | failed fails nothing =>
      refine ⟨(tracks.polled nothing).leave _ _, fun running => ?_, fun exit left => ?_⟩
      · cases running
      · rw [SendState.exit_leave, Option.some.injEq] at left
        subst left
        exact .failed turn rfl last fails rfl others
  | left errcode good nothing reason =>
      refine ⟨(tracks.polled nothing).leave _ _, fun running => ?_, fun exit left => ?_⟩
      · cases running
      · rw [SendState.exit_leaveCount, Option.some.injEq] at left
        subst left
        refine .part (by rw [SendState.sentLen_leaveCount]) less (fun other present => ?_)
          fun zero => ⟨turn, last, reason zero⟩
        rcases others other present with rfl | calm
        · exact good
        · exact calm.1
  | accepted calm count =>
      have fits : turn.nwrite.toNat ≤ args.bytes.length - state.sentLen := by
        have most := possible.2
        omega
      have after := tracks.accept count fits
      exact ⟨after.loopHead, .loopHead after possible.1 (calmAfter calm)⟩
  | again calm nothing =>
      have after := tracks.polled nothing
      exact ⟨after.loopHead, .loopHead after possible.1 (calmAfter calm)⟩

theorem follows_of_reachable (reached : args.system.Reachable state) :
    args.Follows state := by
  refine reached.invariant ?_ ?_
  · rintro _ rfl
    have start : args.Tracks {
        sel := args.sel
        costTime := 0
        sentLen := 0
        exit := none
        turns := []
        timeouts := []
        accepted := [] } := ⟨rfl, rfl, Nat.zero_le _, rfl, rfl⟩
    exact ⟨start.loopHead, .loopHead start rfl fun _ present => by cases present⟩
  · intro before turn after _ follows _ stepped
    simp only [system, Option.ite_none_right_eq_some, Option.some.injEq] at stepped
    obtain ⟨possible, rfl⟩ := stepped
    exact follows.pass possible

/-! ## When the promises hold -/

/-- The count is an `int`, or it is not that of the whole buffer and becomes a result that is
neither a count nor -1. -/
def CountFits (count whole : Nat) : Prop :=
  count < 2 ^ 31 ∨
    count < whole ∧ 2 ^ 31 ≤ count % 2 ^ 32 ∧ count % 2 ^ 32 < 2 ^ 32 - 1

/-- A failure that comes with an error, or while the breaker is broken. -/
def Reported (turn : SendTurn) : Prop :=
  args.Fails turn ∧ (args.failureCode turn ≠ 0 ∨ args.Interrupted turn)

/-- The timeout of a `Select` is not negative iff the difference is an `int`. -/
theorem selectTimeout_nonneg_iff
    (limited : 0 ≤ args.timeout) {costTime : Int} (lower : -2 ^ 31 ≤ costTime) :
    0 ≤ args.selectTimeout costTime ↔ args.timeout - costTime < 2 ^ 31 := by
  have upper := args.timeout_lt
  unfold Args.selectTimeout
  rw [if_pos limited]
  split
  · have least := toInt32_lower (args.timeout - costTime)
    constructor
    · intro nonneg
      by_contra large
      have wrapped : toInt32 (args.timeout - costTime) =
          args.timeout - costTime - 2 ^ 32 := by
        have moved := Int.add_mul_bmod_self_right (args.timeout - costTime) (-1) (2 ^ 32)
        unfold toInt32
        rw [← moved, Int.bmod_eq_of_le (by omega) (by omega)]
        omega
      omega
    · intro small
      rw [toInt32_of_nonneg (by omega) small]
      omega
  · constructor
    · omega
    · omega

/-- Every `Select` has a timeout iff the differences are `int`s. -/
theorem Tracks.waits_iff (tracks : args.Tracks state) (limited : 0 ≤ args.timeout) :
    (∀ timeout ∈ state.timeouts, 0 ≤ timeout) ↔
      ∀ turn ∈ state.turns.dropLast,
        args.timeout - args.costTime turn.tick < 2 ^ 31 := by
  have upper := args.timeout_lt
  have first : 0 ≤ args.selectTimeout 0 :=
    (selectTimeout_nonneg_iff limited (by omega)).mpr (by omega)
  have later (turn : SendTurn) : 0 ≤ args.selectTimeout (args.costTime turn.tick) ↔
      args.timeout - args.costTime turn.tick < 2 ^ 31 :=
    selectTimeout_nonneg_iff limited (toInt32_lower _)
  have timeouts := congrArg List.dropLast tracks.timeouts
  rw [List.dropLast_concat] at timeouts
  rw [timeouts]
  cases turns : state.turns with
  | nil => simp
  | cons turn rest =>
      have more : (turn :: rest).map (fun turn =>
          args.selectTimeout (args.costTime turn.tick)) ≠ [] := List.cons_ne_nil _ _
      rw [List.dropLast_cons_of_ne_nil more, ← List.map_dropLast]
      simp only [List.forall_mem_cons, List.forall_mem_map, first, true_and, later]

theorem Tracks.length_accepted (tracks : args.Tracks state) :
    state.accepted.length = state.sentLen := by
  have bounded := tracks.bounded
  rw [tracks.accepted, List.length_take]
  omega

/-- A result that is a count tells everything. -/
theorem counts_of_small
    {exit : Exit} (result : exit.result = toInt32 state.sentLen)
    (fits : CountFits state.sentLen args.bytes.length) (nonneg : 0 ≤ exit.result) :
    state.sentLen = exit.result.toNat := by
  rw [result, toInt32_natCast] at nonneg ⊢
  unfold CountFits at fits
  split at nonneg
  · omega
  · omega

/-- What is kept after a failure. -/
theorem keeps_failed_iff
    {exit : Exit} (left : state.exit = some exit)
    (limited : 0 ≤ args.timeout → ∀ timeout ∈ state.timeouts, 0 ≤ timeout)
    {turn : SendTurn} (result : exit.result = -1) (present : turn ∈ state.turns)
    (fails : args.Fails turn) (code : exit.errcode = args.failureCode turn)
    (others : ∀ other ∈ state.turns, other = turn ∨ args.Calm other) :
    args.Keeps state ↔ ∃ turn ∈ state.turns, args.Reported turn := by
  constructor
  · intro keeps
    refine ⟨turn, present, fails, or_iff_not_imp_left.mpr fun noCode => ?_⟩
    by_contra quiet
    have whole := keeps.complete exit left (code.trans (not_not.mp noCode)) fun other isOther => by
      rcases others other isOther with rfl | calm
      · exact quiet
      · exact calm.2
    omega
  · rintro ⟨other, isOther, failsToo, reported⟩
    obtain rfl : other = turn := (others other isOther).resolve_right fun calm => calm.1 failsToo
    refine ⟨fun found isFound nonneg => ?_, fun found isFound zero quiet => ?_, limited,
      fun _ _ _ => ⟨other, present, fails⟩⟩
    · cases left.symm.trans isFound
      omega
    · cases left.symm.trans isFound
      rcases reported with hasCode | interrupted
      · exact absurd (code.symm.trans zero) hasCode
      · exact absurd interrupted (quiet other present)

/-- What is kept where the count is returned. -/
theorem keeps_counted_iff
    (follows : args.Follows state) {exit : Exit} (left : state.exit = some exit)
    (limited : 0 ≤ args.timeout → ∀ timeout ∈ state.timeouts, 0 ≤ timeout)
    (result : exit.result = toInt32 state.sentLen)
    (good : ∀ turn ∈ state.turns, ¬args.Fails turn)
    (complete : state.sentLen = args.bytes.length ↔
      exit.errcode = 0 ∧ ∀ turn ∈ state.turns, ¬args.Interrupted turn) :
    args.Keeps state ↔ CountFits state.sentLen args.bytes.length := by
  have length := follows.tracks.length_accepted
  have bounded := follows.tracks.bounded
  constructor
  · intro keeps
    have different : exit.result ≠ -1 := fun minus => by
      obtain ⟨turn, present, fails⟩ := keeps.fails exit left minus
      exact good turn present fails
    have counted := keeps.counts exit left
    have whole : state.sentLen = args.bytes.length → exit.result = args.bytes.length :=
      fun all => keeps.complete exit left (complete.mp all).1 (complete.mp all).2
    rw [length] at counted
    rw [result, toInt32_natCast] at different counted whole
    unfold CountFits
    split at counted
    · have same := (counted (by omega)).2
      omega
    · omega
  · intro fits
    have same := counts_of_small result fits
    refine ⟨fun found isFound nonneg => ?_, fun found isFound zero quiet => ?_, limited,
      fun found isFound minus => ?_⟩
    · cases left.symm.trans isFound
      rw [← same nonneg]
      exact ⟨follows.tracks.accepted, length⟩
    · cases left.symm.trans isFound
      have all := complete.mpr ⟨zero, quiet⟩
      have small := fits.resolve_right fun some => Nat.ne_of_lt some.1 all
      rw [result, toInt32_of_nonneg (by omega) (by omega), all]
    · cases left.symm.trans isFound
      rw [result, toInt32_natCast] at minus
      unfold CountFits at fits
      split at minus
      · omega
      · omega

/-- In every state of every call the promises hold iff a failure is reported with an error, the
count fits where it is returned, and the clock is in time, where `Select` is called again. -/
theorem block_socket_send_iff
    (args : SendArgs) (state : SendState) (reached : args.system.Reachable state) :
    args.Keeps state ↔
      (state.exit = none ∨ (∃ turn ∈ state.turns, args.Reported turn) ∨
        (∀ turn ∈ state.turns, ¬args.Fails turn) ∧
          CountFits (args.total state.turns) args.bytes.length) ∧
      (0 ≤ args.timeout → ∀ turn ∈ state.turns.dropLast,
        args.timeout - args.costTime turn.tick < 2 ^ 31) := by
  have follows := follows_of_reachable reached
  have inTime : (0 ≤ args.timeout → ∀ timeout ∈ state.timeouts, 0 ≤ timeout) ↔
      (0 ≤ args.timeout → ∀ turn ∈ state.turns.dropLast,
        args.timeout - args.costTime turn.tick < 2 ^ 31) :=
    forall_congr' fun limited => follows.tracks.waits_iff limited
  rw [← inTime, ← follows.tracks.sentLen]
  suffices kept : (0 ≤ args.timeout → ∀ timeout ∈ state.timeouts, 0 ≤ timeout) →
      (args.Keeps state ↔ (state.exit = none ∨ (∃ turn ∈ state.turns, args.Reported turn) ∨
        (∀ turn ∈ state.turns, ¬args.Fails turn) ∧
          CountFits state.sentLen args.bytes.length)) by
    constructor
    · exact fun keeps => ⟨(kept keeps.waits).mp keeps, keeps.waits⟩
    · exact fun both => (kept both.2).mpr both.1
  intro limited
  cases left : state.exit with
  | none =>
      refine iff_of_true ⟨?_, ?_, limited, ?_⟩ (Or.inl rfl)
      · rw [left]
        exact nofun
      · rw [left]
        exact nofun
      · rw [left]
        exact nofun
  | some exit =>
      have noneReported (good : ∀ turn ∈ state.turns, ¬args.Fails turn) :
          ¬∃ turn ∈ state.turns, args.Reported turn := by
        rintro ⟨turn, present, reported⟩
        exact good turn present reported.1
      rw [or_iff_right (Option.some_ne_none exit)]
      cases follows.exits.returned exit left with
      | failed turn result present fails code others =>
          rw [keeps_failed_iff left limited result present fails code others,
            or_iff_left fun both => both.1 turn present fails]
      | whole result code all calm =>
          have good : ∀ turn ∈ state.turns, ¬args.Fails turn :=
            fun turn present => (calm turn present).1
          rw [or_iff_right (noneReported good), and_iff_right good]
          exact keeps_counted_iff follows left limited result good
            (iff_of_true all ⟨code, fun turn present => (calm turn present).2⟩)
      | part result some good reason =>
          rw [or_iff_right (noneReported good), and_iff_right good]
          refine keeps_counted_iff follows left limited result good
            (iff_of_false (Nat.ne_of_lt some) ?_)
          rintro ⟨zero, quiet⟩
          obtain ⟨turn, present, interrupted⟩ := reason zero
          exact quiet turn present interrupted

/-! ## Particular calls -/

/-- A turn in which the socket is writable. -/
def writableTurn (tick nwrite sendErrno : Int) : SendTurn where
  poll := ⟨1, 0, fun index => if index = 1 then pollOut else 0⟩
  tick := tick
  socketError := 0
  nwrite := nwrite
  sendErrno := sendErrno

/-- Sending on socket 8 with the breaker 5 from the time 0 on. -/
def sendOn (bytes : List UInt8) (timeout : Int) (timeout_lt : timeout < 2 ^ 31) :
    SendArgs where
  sock := 8
  breakerFd := 5
  breaker := .new .created
  timeout := timeout
  start := 0
  timeout_lt := timeout_lt
  bytes := bytes

/-- Three bytes in two pieces, with the socket full in between. -/
theorem block_socket_send_iff_pieces :
    ∃ state, (sendOn [1, 2, 3] 100 (by decide)).system.Reachable state ∧
      state.exit = some ⟨3, 0⟩ ∧ (sendOn [1, 2, 3] 100 (by decide)).Keeps state := by
  have passes : (((sendOn [1, 2, 3] 100 (by decide)).system.exec
      (sendOn [1, 2, 3] 100 (by decide)).enter
      [writableTurn 10 2 0, writableTurn 20 (-1) eAgain, writableTurn 30 1 0]).map
        fun state => decide (state.exit = some ⟨3, 0⟩ ∧
          (sendOn [1, 2, 3] 100 (by decide)).total state.turns = 3 ∧
          (∀ turn ∈ state.turns, ¬(sendOn [1, 2, 3] 100 (by decide)).Fails turn) ∧
          state.turns.dropLast.all fun turn => decide
            (100 - (sendOn [1, 2, 3] 100 (by decide)).costTime turn.tick < 2 ^ 31))) =
      some true := by
    decide
  obtain ⟨state, _, reached, holds⟩ := Machine.exists_reachable_of_exec rfl passes
  obtain ⟨left, total, good, inTime⟩ := of_decide_eq_true holds
  refine ⟨state, reached, left, (block_socket_send_iff _ state reached).mpr ⟨?_, ?_⟩⟩
  · rw [total]
    exact Or.inr (Or.inr ⟨good, Or.inl (by decide)⟩)
  · intro _ turn present
    exact of_decide_eq_true (List.all_eq_true.mp inTime turn present)

/-- A step in which the socket takes bytes. -/
theorem step_of_sends
    (running : state.exit = none) (same : state.sel.preSelect = args.sel.preSelect)
    {sent : Nat} (before : state.sentLen = sent)
    (sends : args.Sends turn) (good : turn.sendFailed = false)
    (positive : 0 < turn.nwrite)
    (fits : turn.nwrite ≤ (args.bytes.length - sent : Nat)) :
    ∃ next, args.system.step state turn = some next ∧
      next.sel.preSelect = args.sel.preSelect ∧
      next.sentLen = sent + turn.nwrite.toNat ∧
      next.exit =
        if sent + turn.nwrite.toNat ≥ args.bytes.length then
          some ⟨toInt32 (sent + turn.nwrite.toNat : Nat), 0⟩
        else none := by
  obtain ⟨⟨polled, quiet, calm⟩, writable⟩ := sends
  subst before
  have possible : args.Possible state turn := ⟨running, fits⟩
  have passed : args.pass state turn =
      args.loopHead { args.polled state turn with
        sentLen := state.sentLen + turn.nwrite.toNat
        accepted := state.accepted ++
          (args.bytes.drop state.sentLen).take turn.nwrite.toNat } := by
    unfold pass
    dsimp only
    rw [args.sel_polled same turn, if_neg (by omega), if_neg (by omega),
      if_neg (show ¬_ = true from quiet), if_neg (by simpa using calm),
      if_pos (by simpa using writable), send, if_neg (by simpa using good),
      if_pos positive, args.sel_polled same turn]
    rfl
  refine ⟨args.pass state turn, if_pos possible, ?_⟩
  rw [passed]
  unfold loopHead
  split
  · exact ⟨same, rfl, rfl⟩
  · exact ⟨same, rfl, running⟩

/-- What the select reports in such a turn. -/
theorem selOf_writableTurn
    {bytes : List UInt8} {timeout : Int} (timeout_lt : timeout < 2 ^ 31)
    (tick nwrite sendErrno : Int) :
    (sendOn bytes timeout timeout_lt).selOf (writableTurn tick nwrite sendErrno) =
      { breakerFd := 5
        vfds := [⟨5, pollIn ||| pollPri ||| pollErr, 0⟩,
          ⟨8, pollOut ||| pollErr ||| pollErr, pollOut⟩]
        ret := 1
        errno := 0
        autoclear := false } := rfl

/-- In such a turn `send` is called. -/
theorem sends_writableTurn
    {bytes : List UInt8} {timeout : Int} (timeout_lt : timeout < 2 ^ 31)
    (tick nwrite sendErrno : Int) :
    (sendOn bytes timeout timeout_lt).Sends (writableTurn tick nwrite sendErrno) := by
  rw [Sends, Clear, Interrupted, selOf_writableTurn]
  change (_ ∧ _ ∧ SocketSelect.exceptionFdIsSet _ 8 = 0) ∧
    SocketSelect.writeFdIsSet _ 8 ≠ 0
  decide

/-- Four gigabytes in three pieces: the count that is returned is zero. -/
theorem block_socket_send_forgets :
    ∃ state, (sendOn (List.replicate (2 ^ 32) 0) 1000 (by decide)).system.Reachable
        state ∧
      state.exit = some ⟨0, 0⟩ ∧
      ¬(sendOn (List.replicate (2 ^ 32) 0) 1000 (by decide)).Keeps state := by
  have sends := @sends_writableTurn (List.replicate (2 ^ 32) 0) 1000 (by decide)
  have length : (sendOn (List.replicate (2 ^ 32) 0) 1000 (by decide)).bytes.length =
      2 ^ 32 := List.length_replicate
  generalize sendOn (List.replicate (2 ^ 32) 0) 1000 (by decide) = args at *
  obtain ⟨running, same, sent⟩ : args.enter.exit = none ∧
      args.enter.sel.preSelect = args.sel.preSelect ∧ args.enter.sentLen = 0 := by
    rw [enter, loopHead, if_neg (by dsimp only; omega)]
    exact ⟨rfl, rfl, rfl⟩
  have reached : args.system.Reachable args.enter := .initial rfl
  obtain ⟨first, stepped, same, sent, running⟩ :=
    step_of_sends running same sent (sends 1 0x7ffff000 0) rfl (by decide)
      (by rw [length]; decide)
  have reached := reached.step trivial stepped
  rw [length, if_neg (by decide)] at running
  obtain ⟨second, stepped, same, sent, running⟩ :=
    step_of_sends running same sent (sends 2 0x7ffff000 0) rfl (by decide)
      (by rw [length]; decide)
  have reached := reached.step trivial stepped
  rw [length, if_neg (by decide)] at running
  obtain ⟨third, stepped, same, sent, left⟩ :=
    step_of_sends running same sent (sends 3 8192 0) rfl (by decide)
      (by rw [length]; decide)
  have reached := reached.step trivial stepped
  rw [length, if_pos (by decide)] at left
  have result : third.exit = some ⟨0, 0⟩ := left.trans (by decide)
  refine ⟨third, reached, result, fun keeps => ?_⟩
  have none_ := (keeps.counts _ result le_rfl).2
  have all := (follows_of_reachable reached).tracks.length_accepted
  rw [sent, none_] at all
  cases all

/-- With a timeout of `2 ^ 31 - 1` milliseconds, of which `2 ^ 31` have passed when the
socket turns out to be full, the next `Select` waits without an end. -/
theorem block_socket_send_waits :
    ∃ state, (sendOn [1] (2 ^ 31 - 1) (by decide)).system.Reachable state ∧
      state.timeouts = [2 ^ 31 - 1, -1] ∧
      ¬(sendOn [1] (2 ^ 31 - 1) (by decide)).Keeps state := by
  have passes : (((sendOn [1] (2 ^ 31 - 1) (by decide)).system.exec
      (sendOn [1] (2 ^ 31 - 1) (by decide)).enter
      [writableTurn (2 ^ 31) (-1) eAgain, writableTurn (2 ^ 31 + 1) 1 0]).map
        fun state => decide (state.timeouts = [2 ^ 31 - 1, -1])) = some true := by
    decide
  obtain ⟨state, _, reached, holds⟩ := Machine.exists_reachable_of_exec rfl passes
  have timeouts := of_decide_eq_true holds
  refine ⟨state, reached, timeouts, fun keeps => ?_⟩
  have nonneg := keeps.waits (by decide) (-1) (by rw [timeouts]; decide)
  omega

end SendArgs
end BlockSocket
end Skplat
