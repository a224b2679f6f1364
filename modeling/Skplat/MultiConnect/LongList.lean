import Skplat.MultiConnect.Accounting

/-!
# A list that is too long for an `int`

`Index()` returns an `int`, and the loop variable that it is set from is unsigned.
In a run over a long list, in which every address but the last fails and the last
one connects, `Index()` is not the index of that address.
-/

namespace Skplat
namespace MultiConnect

open TcpClient (toInt32)
open TcpClientFsm (AfterCalls)

/-- One attempt at a time, as fast as possible. -/
def longList (n : Nat) : Config Nat where
  addresses := List.replicate (n + 1) 0
  timeout := 1000
  interval := 0
  errorInterval := 0
  maxConnect := 1
  observer := false
  breaker := .new .created
  breakerFd := 3

/-- A machine of the list when it is created. -/
def unstarted : ConnectCheckFsm Nat :=
  .new 0 1000 false false

/-- The select of each iteration. -/
def firstSelect : SocketSelect :=
  (SocketSelect.new 3 false).preSelect

variable {n k i : Nat} {state : State Nat}

/-! ## Single steps -/

section Steps

variable {config : Config Nat}

theorem reachable_step
    {next : State Nat}
    (action : Action)
    (reached : (system config).Reachable state)
    (stepped : state.step config action = some next) :
    (system config).Reachable next :=
  .step reached trivial stepped

theorem step_preSelect
    {check : ConnectCheckFsm Nat}
    {calls : ConnectCalls}
    (pc : state.pc = .preSelecting i)
    (below : i < state.index)
    (present : (state.slots i).check = some check)
    (possible : state.canOpen config
      (check.base.preSelect state.sel calls).2.2.created = true) :
    state.step config (.preSelect calls) =
      some (state.preSelect i check calls) := by
  simp only [State.step, State.stepCreate, State.stepStart, State.stepSelect, pc,
    present, possible, below, if_true]
  rfl

theorem step_timeout
    {check : ConnectCheckFsm Nat}
    (pc : state.pc = .timing i)
    (present : (state.slots i).check = some check) :
    state.step config (.timeout 0) = some { state with
      timeout := min state.timeout (check.timeout 0)
      pc := .preSelecting (i + 1) } := by
  simp only [State.step, State.stepCreate, State.stepStart, State.stepSelect, pc,
    present]
  rfl

theorem step_select
    {poll : PollResult}
    (pc : state.pc = .preSelecting i)
    (past : state.index ≤ i)
    (goesOn : ¬Interrupted (state.polled config poll)) :
    state.step config (.select poll) = some { state with
      timeout := if state.timeout = intMax then state.timeout
        else max 0 state.timeout
      sel := state.polled config poll
      pc := .afterSelecting 0 } := by
  unfold Interrupted at goesOn
  simp only [State.step, State.stepCreate, State.stepStart, State.stepSelect, pc,
    if_neg (Nat.not_lt.mpr past), if_neg goesOn]
  rfl

theorem step_afterSkip
    (pc : state.pc = .afterSelecting i)
    (below : i < state.index)
    (absent : (state.slots i).check = none) :
    state.step config (.afterSelect noError agrees 0) =
      some { state with pc := .afterSelecting (i + 1) } := by
  simp only [State.step, State.stepCreate, State.stepStart, State.stepSelect,
    State.stepResult, pc, absent, below, if_true]
  rfl

theorem step_cleanSkip
    (pc : state.pc = .cleaning i)
    (below : i < state.vecSize)
    (absent : (state.slots i).check = none) :
    state.step config .cleanup =
      some { state with pc := .cleaning (i + 1) } := by
  simp only [State.step, State.stepCreate, State.stepStart, State.stepSelect,
    State.stepResult, pc, absent, below, if_true]
  rfl

theorem step_returned
    (pc : state.pc = .cleaning i)
    (past : state.vecSize ≤ i) :
    state.step config .cleanup = some { state with pc := .returned } := by
  simp only [State.step, State.stepCreate, State.stepStart, State.stepSelect,
    State.stepResult, pc, if_neg (Nat.not_lt.mpr past)]
  rfl

theorem step_afterSelect
    {check : ConnectCheckFsm Nat}
    {after : ConnectCheckFsm Nat × Output}
    (pc : state.pc = .afterSelecting i)
    (below : i < state.index)
    (present : (state.slots i).check = some check)
    (selected :
      check.afterSelect config.observer agrees state.sel noError 0 = after) :
    state.step config (.afterSelect noError agrees 0) = some (state.judge i
      ((state.slots i).called false after.1 after.2) after.1) := by
  subst selected
  simp only [State.step, State.stepCreate, State.stepStart, State.stepSelect,
    State.stepResult, pc, present, below, if_true]
  rfl

theorem step_looped
    (pc : state.pc = .afterSelecting i)
    (past : state.index ≤ i) :
    state.step config (.afterSelect noError agrees 0) =
      some { state with pc := .testing } := by
  simp only [State.step, State.stepCreate, State.stepStart, State.stepSelect,
    State.stepResult, pc, if_neg (Nat.not_lt.mpr past)]
  rfl

theorem step_again
    {check : ConnectCheckFsm Nat}
    (pc : state.pc = .testing)
    (invalid : state.retsocket = none)
    (inside : i < state.vecSize)
    (present : (state.slots i).check = some check) :
    state.step config .test = some { state with pc := .top } := by
  have unfinished : ¬((∀ i < state.vecSize, (state.slots i).check = none) ∨
      state.retsocket ≠ none) := by
    rintro (finished | valid)
    · rw [finished i inside] at present
      cases present
    · exact valid invalid
  simp only [State.step, State.stepCreate, State.stepStart, State.stepSelect,
    State.stepResult, pc, if_true, if_neg unfinished]
  rfl

theorem step_finished
    (pc : state.pc = .testing)
    (valid : state.retsocket ≠ none) :
    state.step config .test = some { state with pc := .cleaning 0 } := by
  have finished : (∀ i < state.vecSize, (state.slots i).check = none) ∨
      state.retsocket ≠ none := Or.inr valid
  simp only [State.step, State.stepCreate, State.stepStart, State.stepSelect,
    State.stepResult, pc, if_true, if_pos finished]
  rfl

/-- A loop that changes nothing but its counter. -/
theorem reachable_loop
    (pcAt : Nat → Pc)
    (action : Action)
    (reached : (system config).Reachable state)
    (pc : state.pc = pcAt 0)
    (k : Nat)
    (stepped : ∀ i < k, ({ state with pc := pcAt i } : State Nat).step config
      action = some { state with pc := pcAt (i + 1) }) :
    (system config).Reachable { state with pc := pcAt k } := by
  induction k with
  | zero =>
      rw [← pc]
      exact reached
  | succ k inductionHypothesis =>
      exact reachable_step action
        (inductionHypothesis fun i below => stepped i (by omega))
        (stepped k (by omega))

end Steps

/-! ## The runs -/

/-- The first addresses have failed, and the next attempt is to be made. -/
structure Failing (n k : Nat) (state : State Nat) : Prop where
  vecSize : state.vecSize = n + 1
  index : state.index = k
  gone : ∀ i < k, (state.slots i).check = none
  fresh : ∀ i, k ≤ i → i ≤ n → (state.slots i).check = some unstarted
  laststart : state.laststartConnecttime = 0
  invalid : state.retsocket = none
  isOpen : ∀ sock, state.isOpen sock = false

/-- The machines are created. -/
theorem reachable_creating
    (short : n + 1 < 2 ^ 32)
    (k : Nat)
    (small : k ≤ n + 1) :
    ∃ state, (system (longList n)).Reachable state ∧ state.pc = .creating k ∧
      state.vecSize = k ∧ state.index = 0 ∧ state.retsocket = none ∧
      (∀ sock, state.isOpen sock = false) ∧
      ∀ i < k, (state.slots i).check = some unstarted := by
  induction k with
  | zero =>
      refine ⟨State.new (longList n), .initial rfl, ?_, rfl, rfl, rfl,
        fun _ => rfl, fun i below => absurd below (Nat.not_lt_zero i)⟩
      simp [State.new, longList]
  | succ k inductionHypothesis =>
      obtain ⟨state, reached, pc, size, index, invalid, isOpen, created⟩ :=
        inductionHypothesis (by omega)
      have found : (longList n).addresses[k]? = some 0 := by
        simp [longList, show k < n + 1 by omega]
      have stepped : state.step (longList n) (.create false) = some { state with
          slots := Function.update state.slots state.vecSize (.new unstarted)
          vecSize := state.vecSize + 1
          pc := .creating ((k + 1) % 2 ^ 32) } := by
        simp only [State.step, State.stepCreate, pc, found]
        rfl
      refine ⟨_, reachable_step _ reached stepped, ?_, congrArg (· + 1) size,
        index, invalid, isOpen, fun i below => ?_⟩
      · exact congrArg Pc.creating (Nat.mod_eq_of_lt (by omega))
      · dsimp only
        rw [size]
        by_cases last : i = k
        · rw [last, Function.update_self]
          rfl
        · rw [Function.update_of_ne last]
          exact created i (by omega)

theorem reachable_failing_zero
    (short : n + 1 < 2 ^ 32) :
    ∃ state, (system (longList n)).Reachable state ∧ state.pc = .top ∧
      Failing n 0 state := by
  obtain ⟨state, reached, pc, size, index, invalid, isOpen, created⟩ :=
    reachable_creating short (n + 1) le_rfl
  have stepped : state.step (longList n) (.enter 0) = some { state with
      laststartConnecttime := (0 + (2 ^ 64 - max 0 0)) % 2 ^ 64
      origin := 0
      clock := 0
      pc := .top } := by
    simp [State.step, State.stepCreate, pc, longList]
  exact ⟨_, reachable_step _ reached stepped, rfl, {
    vecSize := size
    index := index
    gone := fun i below => absurd below (Nat.not_lt_zero i)
    fresh := fun i _ inside => created i (by omega)
    laststart := rfl
    invalid := invalid
    isOpen := isOpen }⟩

/-- No machine is connecting before an attempt. -/
theorem runingCount_failing
    (failing : Failing n k state) :
    state.runingCount = 0 := by
  refine List.countP_eq_zero.mpr fun i inside => ?_
  rw [List.mem_range, failing.vecSize] at inside
  rcases Nat.lt_or_ge i k with below | past
  · simp [Slot.isconnecting, failing.gone i below]
  · simp [Slot.isconnecting, failing.fresh i past (by omega), unstarted,
      ConnectCheckFsm.new, TcpClientFsm.new]

/-- The next attempt is started, and its machine is reached. -/
theorem reachable_started
    (reached : (system (longList n)).Reachable state)
    (pc : state.pc = .top)
    (failing : Failing n k state)
    (small : k ≤ n) :
    ∃ next, (system (longList n)).Reachable next ∧
      next.pc = .preSelecting k ∧ Failing n k { next with index := k } ∧
      next.index = k + 1 ∧ next.sel = firstSelect := by
  have may : state.index < state.vecSize ∧
      0 ≥ state.nextConnectTimeout (longList n) 0 ∧
      state.runingCount < (longList n).maxConnect := by
    refine ⟨?_, ?_, ?_⟩
    · rw [failing.index, failing.vecSize]
      omega
    · simp [State.nextConnectTimeout, longList, failing.laststart, toInt32]
    · rw [runingCount_failing failing]
      exact Nat.one_pos
  obtain ⟨timeout, stepped⟩ : ∃ timeout,
      state.step (longList n) (.start 0 0) = some { state with
        sel := firstSelect
        iterations := state.iterations + 1
        pc := .preSelecting 0
        timeout := timeout
        laststartConnecttime := 0
        lasterror := 0
        trycount := state.index + 1
        index := state.index + 1
        clock := 0
        starts := state.starts ++ [⟨0, state.failed, state.iterations + 1⟩]
        failed := false } := by
    simp only [State.step, State.stepCreate, State.stepStart, pc, if_true,
      if_pos may]
    exact ⟨_, rfl⟩
  have arrived := reachable_loop .preSelecting (.preSelect (connecting 7))
    (reachable_step _ reached stepped) rfl k (fun i below => by
      simp [State.step, State.stepCreate, State.stepStart, State.stepSelect,
        failing.gone i below, failing.index, show i < k + 1 by omega])
  refine ⟨_, arrived, rfl, ?_, ?_, rfl⟩
  · exact ⟨failing.vecSize, rfl, failing.gone, failing.fresh, rfl,
      failing.invalid, failing.isOpen⟩
  · exact congrArg (· + 1) failing.index

/-- The machine of the attempt after its `PreSelect`. -/
def attempted (calls : ConnectCalls) : ConnectCheckFsm Nat :=
  { unstarted with base := (unstarted.base.preSelect firstSelect calls).1 }

/-- The select after it was polled. -/
def attemptPolled (calls : ConnectCalls) (poll : PollResult) : SocketSelect :=
  ((unstarted.base.preSelect firstSelect calls).2.1.select (.new .created) poll
    0).1

/-- The machine after its `AfterSelect`. -/
def attemptDone (calls : ConnectCalls) (poll : PollResult) :
    ConnectCheckFsm Nat × Output :=
  (attempted calls).afterSelect false agrees (attemptPolled calls poll) noError 0

/-- The loop of the results has reached the machine of the attempt. -/
structure Attempting
    (n k : Nat)
    (calls : ConnectCalls)
    (poll : PollResult)
    (state : State Nat) : Prop where
  pc : state.pc = .afterSelecting k
  vecSize : state.vecSize = n + 1
  index : state.index = k + 1
  present : (state.slots k).check = some (attempted calls)
  gone : ∀ i < k, (state.slots i).check = none
  fresh : ∀ i, k < i → i ≤ n → (state.slots i).check = some unstarted
  laststart : state.laststartConnecttime = 0
  invalid : state.retsocket = none
  sel : state.sel = attemptPolled calls poll
  isOpen : state.isOpen = settle (fun _ => false)
    (unstarted.base.preSelect firstSelect calls).2.2

/-- The attempt is made. -/
theorem reachable_attempted
    {calls : ConnectCalls}
    {poll : PollResult}
    (reached : (system (longList n)).Reachable state)
    (pc : state.pc = .preSelecting k)
    (failing : Failing n k { state with index := k })
    (index : state.index = k + 1)
    (sel : state.sel = firstSelect)
    (small : k ≤ n)
    (notBreaker :
      (unstarted.base.preSelect firstSelect calls).2.2.created ≠ some 3)
    (goesOn : ¬Interrupted (attemptPolled calls poll)) :
    ∃ next, (system (longList n)).Reachable next ∧
      Attempting n k calls poll next := by
  have present : (state.slots k).check = some unstarted :=
    failing.fresh k le_rfl small
  have possible : state.canOpen (longList n)
      (unstarted.base.preSelect state.sel calls).2.2.created = true := by
    rw [sel]
    cases created : (unstarted.base.preSelect firstSelect calls).2.2.created with
    | none => rfl
    | some sock =>
        have closed : state.isOpen sock = false := failing.isOpen sock
        have other : sock ≠ 3 := fun same => notBreaker (same ▸ created)
        simp [State.canOpen, closed, longList, other]
  have called : ((state.preSelect k unstarted calls).slots k).check =
      some (attempted calls) := by
    simp only [State.preSelect, Function.update_self, Slot.called, sel, attempted]
  have others : ∀ i < k, ((state.preSelect k unstarted calls).slots i).check =
      none := by
    intro i below
    simp only [State.preSelect, Function.update_of_ne below.ne]
    exact failing.gone i below
  have preSelected := reachable_step _ reached
    (step_preSelect pc (by omega) present possible)
  have timed := reachable_step _ preSelected (step_timeout rfl called)
  have polled : State.polled (longList n) { state.preSelect k unstarted calls with
      timeout := min (state.preSelect k unstarted calls).timeout
        ((attempted calls).timeout 0)
      pc := .preSelecting (k + 1) } poll = attemptPolled calls poll := by
    simp only [State.polled, State.preSelect, sel, attemptPolled, longList]
  have selected := reachable_step _ timed
    (step_select rfl index.le (polled ▸ goesOn))
  rw [polled] at selected
  have arrived := reachable_loop .afterSelecting (.afterSelect noError agrees 0)
    selected rfl k fun i below =>
      step_afterSkip rfl (below.trans (index.symm ▸ Nat.lt_succ_self k))
        (others i below)
  have isOpen : state.isOpen = fun _ => false := funext failing.isOpen
  exact ⟨_, arrived, {
    pc := rfl
    vecSize := failing.vecSize
    index := index
    present := called
    gone := others
    fresh := fun i above inside => by
      simp only [State.preSelect, Function.update_of_ne above.ne']
      exact failing.fresh i above.le inside
    laststart := failing.laststart
    invalid := failing.invalid
    sel := rfl
    isOpen := by simp only [State.preSelect, isOpen, sel] }⟩

theorem attemptDone_noSocket :
    (attemptDone noSocket nothing).1.base.status = .eEnd ∧
      (attemptDone noSocket nothing).1.base.sock = none ∧
      ¬Interrupted (attemptPolled noSocket nothing) ∧
      (unstarted.base.preSelect firstSelect noSocket).2.2.created = none ∧
      (unstarted.base.preSelect firstSelect noSocket).2.2.closed = none := by
  decide +kernel

theorem attemptDone_connecting :
    (attemptDone (connecting 7) writable).1.base.status = .eReadWrite ∧
      (attemptDone (connecting 7) writable).1.checkStatus = .eCheckOk ∧
      (attemptDone (connecting 7) writable).1.base.sock = some 7 ∧
      ¬Interrupted (attemptPolled (connecting 7) writable) ∧
      (unstarted.base.preSelect firstSelect (connecting 7)).2.2.created =
        some 7 := by
  decide +kernel

/-- Before an attempt its outcome can be chosen. -/
theorem reachable_attempting
    {calls : ConnectCalls}
    {poll : PollResult}
    (reached : (system (longList n)).Reachable state)
    (pc : state.pc = .top)
    (failing : Failing n k state)
    (small : k ≤ n)
    (notBreaker :
      (unstarted.base.preSelect firstSelect calls).2.2.created ≠ some 3)
    (goesOn : ¬Interrupted (attemptPolled calls poll)) :
    ∃ next, (system (longList n)).Reachable next ∧
      Attempting n k calls poll next := by
  obtain ⟨started, arrived, startedPc, still, index, sel⟩ :=
    reachable_started reached pc failing small
  exact reachable_attempted arrived startedPc still index sel small
    notBreaker goesOn

theorem step_attempting
    {calls : ConnectCalls}
    {poll : PollResult}
    (attempting : Attempting n k calls poll state) :
    state.step (longList n) (.afterSelect noError agrees 0) =
      some (state.judge k ((state.slots k).called false
        (attemptDone calls poll).1 (attemptDone calls poll).2)
        (attemptDone calls poll).1) := by
  refine step_afterSelect attempting.pc (by rw [attempting.index]; omega)
    attempting.present ?_
  rw [attempting.sel]
  rfl

/-- One more address fails. -/
theorem reachable_failing_succ
    (reached : (system (longList n)).Reachable state)
    (pc : state.pc = .top)
    (failing : Failing n k state)
    (small : k < n) :
    ∃ next, (system (longList n)).Reachable next ∧ next.pc = .top ∧
      Failing n (k + 1) next := by
  obtain ⟨ended, noSock, goesOn, created, closed⟩ := attemptDone_noSocket
  obtain ⟨middle, arrived, attempting⟩ := reachable_attempting reached pc failing
    small.le (by rw [created]; simp) goesOn
  have judged := reachable_step _ arrived (step_attempting attempting)
  rw [State.judge, if_pos ended] at judged
  have looped := reachable_step _ judged (step_looped rfl attempting.index.le)
  have fresh : ∀ i, k + 1 ≤ i → i ≤ n → ((middle.remove k
      ((middle.slots k).called false (attemptDone noSocket nothing).1
        (attemptDone noSocket nothing).2)
      (attemptDone noSocket nothing).1).slots i).check = some unstarted := by
    intro i above inside
    simp only [State.remove, Function.update_of_ne (show i ≠ k by omega)]
    exact attempting.fresh i above inside
  have inside : k + 1 < middle.vecSize := by
    rw [attempting.vecSize]
    omega
  have again := reachable_step _ looped (step_again rfl attempting.invalid inside
    (fresh (k + 1) le_rfl small))
  refine ⟨_, again, rfl, {
    vecSize := attempting.vecSize
    index := attempting.index
    gone := fun i below => ?_
    fresh := fresh
    laststart := attempting.laststart
    invalid := attempting.invalid
    isOpen := fun sock => ?_ }⟩
  · by_cases last : i = k
    · subst last
      simp only [State.remove, Function.update_self]
      rfl
    · simp only [State.remove, Function.update_of_ne last]
      exact attempting.gone i (by omega)
  · simp only [State.remove, State.openAfterDelete_eq, noSock, attempting.isOpen,
      settle, created, closed]

theorem reachable_failing
    (short : n + 1 < 2 ^ 32)
    (k : Nat)
    (small : k ≤ n) :
    ∃ state, (system (longList n)).Reachable state ∧ state.pc = .top ∧
      Failing n k state := by
  induction k with
  | zero => exact reachable_failing_zero short
  | succ k inductionHypothesis =>
      obtain ⟨state, reached, pc, failing⟩ := inductionHypothesis (by omega)
      exact reachable_failing_succ reached pc failing small

/-- The last address connects, and its socket is taken. -/
theorem reachable_lastChosen
    (short : n + 1 < 2 ^ 32) :
    ∃ state, (system (longList n)).Reachable state ∧ state.pc = .testing ∧
      state.vecSize = n + 1 ∧ (∀ i < n + 1, (state.slots i).check = none) ∧
      state.retsocket = some 7 ∧ state.usedIndex = toInt32 n := by
  obtain ⟨connected, verified, sock, goesOn, created⟩ := attemptDone_connecting
  obtain ⟨before, reached, pc, failing⟩ := reachable_failing short n le_rfl
  obtain ⟨middle, arrived, attempting⟩ := reachable_attempting reached pc failing
    le_rfl (by rw [created]; simp) goesOn
  have judged := reachable_step _ arrived (step_attempting attempting)
  rw [State.judge, if_neg (by rw [connected]; decide),
    if_neg (by rw [verified]; simp), if_pos ⟨connected, verified⟩] at judged
  refine ⟨_, judged, rfl, attempting.vecSize, fun i below => ?_, sock, ?_⟩
  · by_cases last : i = n
    · subst last
      simp only [State.choose, Function.update_self]
      rfl
    · simp only [State.choose, Function.update_of_ne last]
      exact attempting.gone i (by omega)
  · simp only [State.choose]

/-- `TryConnect` returns the socket of the last address. -/
theorem reachable_lastConnects
    (short : n + 1 < 2 ^ 32) :
    ∃ state, (system (longList n)).Reachable state ∧ state.pc = .returned ∧
      state.retsocket = some 7 ∧ state.usedIndex = toInt32 n := by
  obtain ⟨state, reached, pc, vecSize, gone, valid, index⟩ :=
    reachable_lastChosen short
  have finished := reachable_step _ reached (step_finished pc (by simp [valid]))
  have cleaned := reachable_loop .cleaning .cleanup finished rfl (n + 1)
    fun i below => step_cleanSkip rfl (vecSize.symm ▸ below) (gone i below)
  have returned := reachable_step _ cleaned (step_returned rfl vecSize.le)
  exact ⟨_, returned, rfl, valid, index⟩

/-- With 2147483649 addresses the result is valid and `Index()` is negative. -/
theorem negativeIndex_longList :
    ∃ state, (system (longList (2 ^ 31))).Reachable state ∧
      state.pc = .returned ∧
      ¬(state.retsocket ≠ none ↔
        ∃ i : Nat, state.usedIndex = i ∧ state.ResultAt i) := by
  obtain ⟨state, reached, returned, valid, index⟩ :=
    reachable_lastConnects (n := 2 ^ 31) (by omega)
  refine ⟨state, reached, returned, fun same => ?_⟩
  obtain ⟨i, isIndex, -⟩ := same.mp (by simp [valid])
  have negative : toInt32 ((2 ^ 31 : Nat) : Int) = -2 ^ 31 := by decide
  omega

end MultiConnect
end Skplat
