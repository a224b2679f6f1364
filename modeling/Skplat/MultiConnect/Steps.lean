import Skplat.MultiConnect.System

/-!
# What one step of a connection attempt can do

Inversion of the executable step function.
-/

namespace Skplat
namespace MultiConnect

open TcpClientFsm (AfterCalls)

variable {Addr : Type}

/-- Steps that move `TryConnect` on and change nothing but `timeout`. -/
inductive Moves (state : State Addr) : Pc → Pc → Prop
  | preSkipped {i : Nat} :
      (state.slots i).check = none →
      Moves state (.preSelecting i) (.preSelecting (i + 1))
  | timed {i : Nat} : Moves state (.timing i) (.preSelecting (i + 1))
  | afterSkipped {i : Nat} :
      (state.slots i).check = none →
      Moves state (.afterSelecting i) (.afterSelecting (i + 1))
  | looped {i : Nat} :
      state.index ≤ i → Moves state (.afterSelecting i) .testing
  | again :
      state.retsocket = none → Moves state .testing .top
  | finished :
      ((∀ i < state.vecSize, (state.slots i).check = none) ∨
        state.retsocket ≠ none) →
      Moves state .testing (.cleaning 0)
  | cleanSkipped {i : Nat} :
      (state.slots i).check = none →
      Moves state (.cleaning i) (.cleaning (i + 1))
  | returned {i : Nat} :
      state.vecSize ≤ i → Moves state (.cleaning i) .returned

/-- The condition for starting an attempt. -/
def State.MayStart
    (state : State Addr)
    (config : Config Addr)
    (curtime : Nat) : Prop :=
  state.index < state.vecSize ∧ 0 ≥ state.nextConnectTimeout config curtime ∧
    state.runingCount < config.maxConnect

/-- `Select` failed, or the breaker was in it. -/
def Interrupted (sel : SocketSelect) : Prop :=
  sel.ret < 0 ∨ sel.isException = true ∨ sel.isBreak = true

instance (sel : SocketSelect) : Decidable (Interrupted sel) :=
  inferInstanceAs (Decidable
    (sel.ret < 0 ∨ sel.isException = true ∨ sel.isBreak = true))

/-- The loop gives the machine up. -/
def ConnectCheckFsm.GivenUp (check : ConnectCheckFsm Addr) : Prop :=
  check.base.status = .eEnd ∨
    check.base.status = .eReadWrite ∧ check.checkStatus = .eCheckFail

/-- The machine is connected and verified. -/
def ConnectCheckFsm.Won (check : ConnectCheckFsm Addr) : Prop :=
  check.base.status = .eReadWrite ∧ check.checkStatus = .eCheckOk

/-- The step relation. -/
inductive Fires (config : Config Addr) (state : State Addr) :
    Action → State Addr → Prop
  | created {i : Nat} {addr : Addr} {shouldVerify : Bool} :
      state.pc = .creating i → config.addresses[i]? = some addr →
      Fires config state (.create shouldVerify)
        { state with
          slots := Function.update state.slots state.vecSize
            (.new (.new addr config.timeout config.observer shouldVerify))
          vecSize := state.vecSize + 1
          pc := .creating ((i + 1) % 2 ^ 32) }
  | entered {i curtime : Nat} :
      state.pc = .creating i → config.addresses.length ≤ i →
      Fires config state (.enter curtime)
        { state with
          laststartConnecttime := (curtime + (2 ^ 64 -
            max config.interval config.errorInterval)) % 2 ^ 64
          origin := curtime
          clock := curtime
          pc := .top }
  | started {curtime startTime : Nat} {timeout : Int} {sel : SocketSelect} :
      state.pc = .top → state.MayStart config curtime →
      Fires config state (.start curtime startTime)
        { state with
          sel := sel
          iterations := state.iterations + 1
          pc := .preSelecting 0
          timeout := timeout
          laststartConnecttime := startTime
          lasterror := 0
          trycount := state.index + 1
          index := state.index + 1
          clock := startTime
          starts := state.starts ++
            [⟨startTime, state.failed, state.iterations + 1⟩]
          failed := false }
  | waited {curtime startTime : Nat} {timeout : Int} {sel : SocketSelect} :
      state.pc = .top → ¬state.MayStart config curtime →
      Fires config state (.start curtime startTime)
        { state with
          sel := sel
          iterations := state.iterations + 1
          pc := .preSelecting 0
          timeout := timeout
          clock := curtime }
  | preSelected {i : Nat} {check : ConnectCheckFsm Addr} {calls : ConnectCalls} :
      state.pc = .preSelecting i → i < state.index →
      (state.slots i).check = some check →
      state.canOpen config
        (check.base.preSelect state.sel calls).2.2.created = true →
      Fires config state (.preSelect calls) (state.preSelect i check calls)
  | interrupted {i : Nat} {poll : PollResult} {timeout : Int} :
      state.pc = .preSelecting i → state.index ≤ i →
      Interrupted (state.polled config poll) →
      Fires config state (.select poll)
        { state with
          timeout := timeout
          sel := state.polled config poll
          pc := .cleaning 0 }
  | selected {i : Nat} {poll : PollResult} {timeout : Int} :
      state.pc = .preSelecting i → state.index ≤ i →
      Fires config state (.select poll)
        { state with
          timeout := timeout
          sel := state.polled config poll
          pc := .afterSelecting 0 }
  | kept {i : Nat} {check : ConnectCheckFsm Addr} {calls : AfterCalls}
      {answers : Answers} {now : Nat} {after : ConnectCheckFsm Addr × Output} :
      state.pc = .afterSelecting i → i < state.index →
      (state.slots i).check = some check →
      check.afterSelect config.observer answers state.sel calls now = after →
      ¬after.1.GivenUp → ¬after.1.Won →
      Fires config state (.afterSelect calls answers now)
        { state with
          slots := Function.update state.slots i
            ((state.slots i).called false after.1 after.2)
          pc := .afterSelecting (i + 1) }
  | removed {i : Nat} {check : ConnectCheckFsm Addr} {calls : AfterCalls}
      {answers : Answers} {now : Nat} {after : ConnectCheckFsm Addr × Output} :
      state.pc = .afterSelecting i → i < state.index →
      (state.slots i).check = some check →
      check.afterSelect config.observer answers state.sel calls now = after →
      after.1.GivenUp →
      Fires config state (.afterSelect calls answers now)
        (state.remove i ((state.slots i).called false after.1 after.2) after.1)
  | chosen {i : Nat} {check : ConnectCheckFsm Addr} {calls : AfterCalls}
      {answers : Answers} {now : Nat} {after : ConnectCheckFsm Addr × Output} :
      state.pc = .afterSelecting i → i < state.index →
      (state.slots i).check = some check →
      check.afterSelect config.observer answers state.sel calls now = after →
      after.1.Won →
      Fires config state (.afterSelect calls answers now)
        (state.choose i ((state.slots i).called false after.1 after.2) after.1)
  | cleaned {i : Nat} {check : ConnectCheckFsm Addr} :
      state.pc = .cleaning i → i < state.vecSize →
      (state.slots i).check = some check →
      Fires config state .cleanup (state.cleanup i check)
  | moved {action : Action} {pc : Pc} {timeout : Int} :
      Moves state state.pc pc →
      Fires config state action { state with pc := pc, timeout := timeout }

namespace State

variable {config : Config Addr} {state next : State Addr}

private theorem stepCreate_fires
    {action : Action}
    (stepped : state.stepCreate config action = some next) :
    Fires config state action next := by
  cases action with
  | create shouldVerify =>
      simp only [stepCreate] at stepped
      split at stepped
      · rename_i i pc
        split at stepped
        · rename_i addr found
          cases stepped
          exact .created pc found
        · cases stepped
      · cases stepped
  | enter curtime =>
      simp only [stepCreate] at stepped
      split at stepped
      · rename_i i pc
        simp only [Option.ite_none_right_eq_some, Option.some.injEq] at stepped
        obtain ⟨finished, rfl⟩ := stepped
        exact .entered pc finished
      · cases stepped
  | _ => cases stepped

private theorem stepStart_fires
    {action : Action}
    (stepped : state.stepStart config action = some next) :
    Fires config state action next := by
  cases action with
  | start curtime startTime =>
      simp only [stepStart, Option.ite_none_right_eq_some] at stepped
      obtain ⟨pc, stepped⟩ := stepped
      split at stepped
      · rename_i may
        cases stepped
        exact .started pc may
      · rename_i mayNot
        cases stepped
        exact .waited pc mayNot
  | _ => cases stepped

private theorem stepSelect_fires
    {action : Action}
    (stepped : state.stepSelect config action = some next) :
    Fires config state action next := by
  cases action with
  | preSelect calls =>
      simp only [stepSelect] at stepped
      split at stepped
      · rename_i i pc
        simp only [Option.ite_none_right_eq_some] at stepped
        obtain ⟨below, stepped⟩ := stepped
        split at stepped
        · rename_i empty
          cases stepped
          exact .moved (pc ▸ .preSkipped empty)
        · rename_i check present
          simp only [Option.ite_none_right_eq_some, Option.some.injEq] at stepped
          obtain ⟨possible, rfl⟩ := stepped
          exact .preSelected pc below present possible
      · cases stepped
  | timeout now =>
      simp only [stepSelect] at stepped
      split at stepped
      · rename_i i pc
        split at stepped
        · cases stepped
          exact .moved (pc ▸ .timed)
        · cases stepped
      · cases stepped
  | select poll =>
      simp only [stepSelect] at stepped
      split at stepped
      · rename_i i pc
        simp only [Option.ite_none_left_eq_some, Option.some.injEq] at stepped
        obtain ⟨notBelow, rfl⟩ := stepped
        split
        · rename_i interrupted
          exact .interrupted pc (Nat.le_of_not_lt notBelow) interrupted
        · exact .selected pc (Nat.le_of_not_lt notBelow)
      · cases stepped
  | _ => cases stepped

private theorem judge_fires
    {i : Nat}
    {check : ConnectCheckFsm Addr}
    {calls : AfterCalls}
    {answers : Answers}
    {now : Nat}
    {after : ConnectCheckFsm Addr × Output}
    (pc : state.pc = .afterSelecting i)
    (below : i < state.index)
    (present : (state.slots i).check = some check)
    (selected :
      check.afterSelect config.observer answers state.sel calls now = after) :
    Fires config state (.afterSelect calls answers now)
      (state.judge i ((state.slots i).called false after.1 after.2) after.1) := by
  unfold judge
  split
  · rename_i ended
    exact .removed pc below present selected (Or.inl ended)
  rename_i running
  split
  · rename_i failed
    exact .removed pc below present selected (Or.inr failed)
  rename_i notFailed
  split
  · rename_i won
    exact .chosen pc below present selected won
  · rename_i notWon
    exact .kept pc below present selected (not_or.mpr ⟨running, notFailed⟩) notWon

private theorem stepResult_fires
    {action : Action}
    (stepped : state.stepResult config action = some next) :
    Fires config state action next := by
  cases action with
  | afterSelect calls answers now =>
      simp only [stepResult] at stepped
      split at stepped
      · rename_i i pc
        split at stepped
        · rename_i below
          split at stepped
          · rename_i empty
            cases stepped
            exact .moved (pc ▸ .afterSkipped empty)
          · rename_i check present
            cases stepped
            exact judge_fires pc below present rfl
        · rename_i notBelow
          cases stepped
          exact .moved (pc ▸ .looped (Nat.le_of_not_lt notBelow))
      · cases stepped
  | test =>
      simp only [stepResult, Option.ite_none_right_eq_some] at stepped
      obtain ⟨pc, stepped⟩ := stepped
      split at stepped
      · rename_i finished
        cases stepped
        exact .moved (pc ▸ .finished finished)
      · rename_i unfinished
        cases stepped
        exact .moved (pc ▸ .again (not_not.mp (not_or.mp unfinished).2))
  | cleanup =>
      simp only [stepResult] at stepped
      split at stepped
      · rename_i i pc
        split at stepped
        · rename_i below
          split at stepped
          · rename_i empty
            cases stepped
            exact .moved (pc ▸ .cleanSkipped empty)
          · rename_i check present
            cases stepped
            exact .cleaned pc below present
        · rename_i notBelow
          cases stepped
          exact .moved (pc ▸ .returned (Nat.le_of_not_lt notBelow))
      · cases stepped
  | _ => cases stepped

theorem step_fires
    {action : Action}
    (stepped : state.step config action = some next) :
    Fires config state action next := by
  unfold step at stepped
  rcases Option.or_eq_some_iff.mp stepped with byCreate | ⟨-, others⟩
  · exact stepCreate_fires byCreate
  rcases Option.or_eq_some_iff.mp others with byStart | ⟨-, later⟩
  · exact stepStart_fires byStart
  rcases Option.or_eq_some_iff.mp later with bySelect | ⟨-, byResult⟩
  · exact stepSelect_fires bySelect
  · exact stepResult_fires byResult

end State
end MultiConnect
end Skplat
