import Skplat.MultiConnect.LifeCycle

/-!
# The order of the attempts

There is one slot for each address.  Machines are started in the order of the
addresses: those below `index` were started, except that the last one waits for its
first `PreSelect`, and those from `index` on are as they were created.
-/

namespace Skplat
namespace MultiConnect

open TcpClientFsm (AfterCalls)

variable {Addr : Type} {config : Config Addr} {state next : State Addr}

namespace ConnectCheckFsm

theorem addr_afterSelect
    {check : ConnectCheckFsm Addr}
    {observer : Bool}
    {answers : Answers}
    {sel : SocketSelect}
    {calls : AfterCalls}
    {now : Nat}
    {after : ConnectCheckFsm Addr × Output}
    (selected : check.afterSelect observer answers sel calls now = after) :
    after.1.addr = check.addr := by
  obtain ⟨-, sendBuf, checkStatus, sameCheck⟩ := afterSelect_eq selected
  rw [sameCheck]

end ConnectCheckFsm

/-- A machine after a step was there before the step, or it is new. -/
theorem Fires.present
    {action : Action}
    {i : Nat}
    {check : ConnectCheckFsm Addr}
    (fires : Fires config state action next)
    (present : (next.slots i).check = some check) :
    (∃ before, (state.slots i).check = some before ∧ check.addr = before.addr) ∨
      (i = state.vecSize ∧ next.vecSize = state.vecSize + 1 ∧
        check.base.status = .eStart ∧ ∃ k, state.pc = .creating k ∧
          config.addresses[k]? = some check.addr) := by
  have unchanged : (state.slots i).check = some check →
      ∃ before, (state.slots i).check = some before ∧ check.addr = before.addr :=
    fun same => ⟨check, same, rfl⟩
  cases fires with
  | created pc found =>
      rcases update_map_cases present with ⟨rfl, new⟩ | ⟨-, same⟩
      · cases new
        exact Or.inr ⟨rfl, rfl, rfl, _, pc, found⟩
      · exact Or.inl (unchanged same)
  | preSelected _ _ before _ =>
      rcases update_map_cases present with ⟨rfl, new⟩ | ⟨-, same⟩
      · cases new
        exact Or.inl ⟨_, before, rfl⟩
      · exact Or.inl (unchanged same)
  | kept _ _ before selected _ _ =>
      rcases update_map_cases present with ⟨rfl, new⟩ | ⟨-, same⟩
      · cases new
        exact Or.inl ⟨_, before, ConnectCheckFsm.addr_afterSelect selected⟩
      · exact Or.inl (unchanged same)
  | removed _ _ _ _ _ | chosen _ _ _ _ _ | cleaned _ _ _ =>
      rcases update_map_cases present with ⟨-, absent⟩ | ⟨-, same⟩
      · cases absent
      · exact Or.inl (unchanged same)
  | entered _ _ | started _ _ | waited _ _ | interrupted _ _ _ | selected _ _
  | moved _ => exact Or.inl (unchanged present)

/-- The loop that creates the machines is over. -/
def Pc.created : Pc → Bool
  | .creating _ => false
  | _ => true

/-- One slot for each address.  The counter of the loop that creates them has 32
bits, so that the loop does not end on a longer list. -/
structure Sized (config : Config Addr) (state : State Addr) : Prop where
  creating : ∀ k, state.pc = .creating k → k = state.vecSize % 2 ^ 32 ∧
    (config.addresses.length < 2 ^ 32 →
      state.vecSize ≤ config.addresses.length)
  size : state.pc.created = true →
    state.vecSize = config.addresses.length ∧ config.addresses.length < 2 ^ 32
  beyond : ∀ i, state.vecSize ≤ i → (state.slots i).check = none
  address : ∀ i check, (state.slots i).check = some check →
    config.addresses[i % 2 ^ 32]? = some check.addr

namespace Sized

theorem new (config : Config Addr) : Sized config (State.new config) := by
  refine ⟨?_, ?_, fun _ _ => rfl, fun i check present => by cases present⟩
  · intro k pc
    by_cases empty : config.addresses = []
    · simp [State.new, empty] at pc
    · simp only [State.new, empty, if_false, Pc.creating.injEq] at pc
      simp [State.new, ← pc]
  · intro created
    by_cases empty : config.addresses = []
    · simp [State.new, empty]
    · simp [State.new, empty, Pc.created] at created

/-- Steps after the creation keep the number of slots. -/
theorem vecSize_step
    {action : Action}
    (fires : Fires config state action next) :
    (∃ k addr, state.pc = .creating k ∧ config.addresses[k]? = some addr ∧
      next.vecSize = state.vecSize + 1 ∧
      next.pc = .creating ((k + 1) % 2 ^ 32)) ∨
      next.vecSize = state.vecSize ∧ next.pc.created = true ∧
        ((∃ k, state.pc = .creating k ∧ config.addresses.length ≤ k) ∨
          state.pc.created = true) := by
  cases fires with
  | created pc found => exact Or.inl ⟨_, _, pc, found, rfl, rfl⟩
  | entered pc finished => exact Or.inr ⟨rfl, rfl, Or.inl ⟨_, pc, finished⟩⟩
  | started pc _ | waited pc _ | preSelected pc _ _ _ | interrupted pc _ _
  | selected pc _ | kept pc _ _ _ _ _ | removed pc _ _ _ _ | chosen pc _ _ _ _
  | cleaned pc _ _ => exact Or.inr ⟨rfl, rfl, Or.inr (by rw [pc]; rfl)⟩
  | moved moves =>
      refine Or.inr ⟨rfl, ?_⟩
      generalize state.pc = pc at moves
      cases moves <;> exact ⟨rfl, Or.inr rfl⟩

theorem step
    {action : Action}
    (sized : Sized config state)
    (fires : Fires config state action next) :
    Sized config next := by
  have address : ∀ i check, (next.slots i).check = some check →
      config.addresses[i % 2 ^ 32]? = some check.addr := by
    intro i check present
    rcases fires.present present with ⟨before, was, same⟩ |
      ⟨rfl, -, -, k, pc, found⟩
    · rw [same]
      exact sized.address i before was
    · rw [← (sized.creating k pc).1]
      exact found
  have beyond : ∀ i, next.vecSize ≤ i → (next.slots i).check = none := by
    intro i past
    cases still : (next.slots i).check with
    | none => rfl
    | some check =>
        rcases fires.present still with ⟨before, was, -⟩ | ⟨rfl, more, -⟩
        · have grows : state.vecSize ≤ next.vecSize := by
            rcases vecSize_step fires with ⟨_, _, _, _, more, _⟩ | ⟨same, _⟩
            · exact more ▸ Nat.le_succ _
            · exact same.ge
          rw [sized.beyond i (grows.trans past)] at was
          cases was
        · omega
  rcases vecSize_step fires with
    ⟨k, addr, pc, found, more, nextPc⟩ | ⟨same, created, phase⟩
  · obtain ⟨counter, room⟩ := sized.creating k pc
    refine ⟨?_, ?_, beyond, address⟩
    · intro other otherPc
      rw [nextPc, Pc.creating.injEq] at otherPc
      have inList : k < config.addresses.length :=
        (List.getElem?_eq_some_iff.mp found).1
      refine ⟨by omega, fun short => ?_⟩
      have := room short
      omega
    · intro created
      rw [nextPc] at created
      cases created
  · have sizes : next.vecSize = config.addresses.length ∧
        config.addresses.length < 2 ^ 32 := by
      rw [same]
      rcases phase with ⟨k, pc, finished⟩ | already
      · obtain ⟨counter, room⟩ := sized.creating k pc
        have short : config.addresses.length < 2 ^ 32 := by omega
        have := room short
        exact ⟨by omega, short⟩
      · exact sized.size already
    refine ⟨?_, fun _ => sizes, beyond, address⟩
    intro k pc
    rw [pc] at created
    cases created

theorem of_reachable
    (reached : (system config).Reachable state) :
    Sized config state := by
  refine reached.invariant ?_ ?_
  · rintro state rfl
    exact Sized.new config
  · intro state action next _ sized _ stepped
    exact sized.step (State.step_fires stepped)

end Sized

/-- `TryConnect` deletes the machines that are left. -/
def Pc.leaving : Pc → Bool
  | .cleaning _ | .returned => true
  | _ => false

/-- A first `PreSelect` is due after so many attempts. -/
def Pc.Due (pc : Pc) (attempts : Nat) : Prop :=
  match pc with
  | .preSelecting k => k ≤ attempts
  | .timing k => k < attempts
  | _ => False

/-- The machines are started in the order of the addresses. -/
structure Ordered (config : Config Addr) (state : State Addr) : Prop where
  trycount : state.trycount = state.index
  indexLe : state.index ≤ state.vecSize
  attempts : state.attempts = config.addresses.take state.attempts.length
  attemptsLe : state.attempts.length ≤ state.index
  due : state.attempts.length < state.index →
    state.index = state.attempts.length + 1 ∧ state.pc.Due state.attempts.length
  status : ∀ i check, (state.slots i).check = some check →
    (check.base.status = .eStart ↔ state.attempts.length ≤ i)
  waiting : state.pc.leaving = false → ∀ i, state.attempts.length ≤ i →
    i < state.vecSize → (state.slots i).check ≠ none

namespace Ordered

theorem new (config : Config Addr) : Ordered config (State.new config) where
  trycount := rfl
  indexLe := le_rfl
  attempts := rfl
  attemptsLe := le_rfl
  due := fun due => absurd due (Nat.lt_irrefl 0)
  status := fun i check present => by cases present
  waiting := fun _ i _ below => absurd below (Nat.not_lt_zero i)

/-- Outside the first inner loop every machine below `index` was started. -/
theorem settled
    (ordered : Ordered config state)
    (notDue : ¬state.pc.Due state.attempts.length) :
    state.attempts.length = state.index := by
  refine le_antisymm ordered.attemptsLe ?_
  by_contra less
  exact notDue (ordered.due (Nat.lt_of_not_le less)).2

/-- The machine of a started attempt stays started. -/
theorem afterSelect_started
    {i : Nat}
    {check : ConnectCheckFsm Addr}
    {calls : AfterCalls}
    {answers : Answers}
    {now : Nat}
    {after : ConnectCheckFsm Addr × Output}
    (ordered : Ordered config state)
    (sound : Sound state)
    (pc : state.pc = .afterSelecting i)
    (below : i < state.index)
    (present : (state.slots i).check = some check)
    (selected :
      check.afterSelect config.observer answers state.sel calls now = after) :
    after.1.base.status ≠ .eStart := by
  have settled := ordered.settled (by rw [pc]; exact id)
  have started : check.base.status ≠ .eStart := fun start => by
    have := (ordered.status i check present).mp start
    omega
  have before := (sound.slots i).lives.present present
  have later := (sound.slots i).afterSelect_lives present selected
  have rises : check.base.status.rank ≤ after.1.base.status.rank :=
    later.latest _ (List.mem_append_left _ before.1.reached)
  intro start
  rw [start] at rises
  cases status : check.base.status with
  | eStart => exact started status
  | eConnecting | eReadWrite | eEnd =>
      rw [status] at rises
      exact absurd rises (by decide)

/-- Deleting a machine leaves the others as they are. -/
theorem status_delete
    {k : Nat}
    {slot : Slot Addr}
    (ordered : Ordered config state)
    (deleted : slot.check = none)
    (i : Nat)
    (check : ConnectCheckFsm Addr)
    (present : (Function.update state.slots k slot i).check = some check) :
    check.base.status = .eStart ↔ state.attempts.length ≤ i := by
  rcases update_map_cases present with ⟨-, gone⟩ | ⟨-, same⟩
  · rw [deleted] at gone
    cases gone
  · exact ordered.status i check same

section PreSelect

variable {k : Nat} {check : ConnectCheckFsm Addr} {calls : ConnectCalls}

/-- A machine that waits is left after the `PreSelect` of a machine. -/
theorem waiting_preSelect
    (ordered : Ordered config state)
    (pc : state.pc = .preSelecting k)
    (i : Nat)
    (past : state.attempts.length ≤ i)
    (inside : i < state.vecSize) :
    ((state.preSelect k check calls).slots i).check ≠ none := by
  intro absent
  rcases update_map_cases absent with ⟨-, gone⟩ | ⟨-, same⟩
  · cases gone
  · exact ordered.waiting (by rw [pc]; rfl) i past inside same

/-- The `PreSelect` that starts a machine. -/
theorem preSelect_start
    (ordered : Ordered config state)
    (sized : Sized config state)
    (pc : state.pc = .preSelecting k)
    (below : k < state.index)
    (present : (state.slots k).check = some check)
    (start : check.base.status = .eStart) :
    Ordered config (state.preSelect k check calls) := by
  have started := (check.base.preSelects state.sel calls).started
  have first : k = state.attempts.length := by
    have reached := (ordered.status k check present).mp start
    have := (ordered.due (reached.trans_lt below)).1
    omega
  have attempts : (state.preSelect k check calls).attempts =
      state.attempts ++ [check.addr] := if_pos start
  have count : (state.preSelect k check calls).attempts.length = k + 1 := by
    rw [attempts, List.length_append, ← first]
    rfl
  have last : state.index = k + 1 := by
    have := (ordered.due (first ▸ below)).1
    omega
  have address : config.addresses[k]? = some check.addr := by
    obtain ⟨size, short⟩ := sized.size (by rw [pc]; rfl)
    have inside := below.trans_le ordered.indexLe
    have found := sized.address k check present
    rwa [Nat.mod_eq_of_lt (by omega)] at found
  refine {
    trycount := ordered.trycount
    indexLe := ordered.indexLe
    attempts := ?_
    attemptsLe := by rw [count]; exact last.ge
    due := fun due => by
      rw [count] at due
      exact absurd last due.ne'
    status := ?_
    waiting := fun _ i past => by
      rw [count] at past
      exact ordered.waiting_preSelect pc i (by omega) }
  · rw [count, attempts, List.take_add_one, address, first]
    exact congrArg (· ++ [check.addr]) ordered.attempts
  · intro i other has
    rw [count]
    rcases update_map_cases has with ⟨rfl, new⟩ | ⟨different, same⟩
    · cases new
      exact ⟨fun again => absurd again started, fun past => by omega⟩
    · rw [ordered.status i other same]
      omega

/-- The `PreSelect` of a machine that was started before. -/
theorem preSelect_again
    (ordered : Ordered config state)
    (pc : state.pc = .preSelecting k)
    (present : (state.slots k).check = some check)
    (start : check.base.status ≠ .eStart) :
    Ordered config (state.preSelect k check calls) := by
  have started := (check.base.preSelects state.sel calls).started
  have attempts : (state.preSelect k check calls).attempts = state.attempts :=
    if_neg start
  have passed : k < state.attempts.length := by
    by_contra notBelow
    exact start
      ((ordered.status k check present).mpr (Nat.le_of_not_lt notBelow))
  refine {
    trycount := ordered.trycount
    indexLe := ordered.indexLe
    attempts := by rw [attempts]; exact ordered.attempts
    attemptsLe := by rw [attempts]; exact ordered.attemptsLe
    due := fun due => by
      rw [attempts] at due ⊢
      exact ⟨(ordered.due due).1, passed⟩
    status := ?_
    waiting := fun _ i past => by
      rw [attempts] at past
      exact ordered.waiting_preSelect pc i past }
  intro i other has
  rw [attempts]
  rcases update_map_cases has with ⟨rfl, new⟩ | ⟨-, same⟩
  · cases new
    exact ⟨fun again => absurd again started, fun past => by omega⟩
  · exact ordered.status i other same

theorem preSelect
    (ordered : Ordered config state)
    (sized : Sized config state)
    (pc : state.pc = .preSelecting k)
    (below : k < state.index)
    (present : (state.slots k).check = some check) :
    Ordered config (state.preSelect k check calls) := by
  by_cases start : check.base.status = .eStart
  · exact ordered.preSelect_start sized pc below present start
  · exact ordered.preSelect_again pc present start

end PreSelect

theorem moved
    {pc : Pc}
    {timeout : Int}
    (ordered : Ordered config state)
    (moves : Moves state state.pc pc) :
    Ordered config { state with pc := pc, timeout := timeout } := by
  have due := ordered.due
  have waiting := ordered.waiting
  refine { ordered with due := fun early => ?_, waiting := ?_ }
  · obtain ⟨next, isDue⟩ := due early
    refine ⟨next, ?_⟩
    generalize state.pc = old at moves isDue waiting
    cases moves with
    | @preSkipped k absent =>
        have notAttempt : k ≠ state.attempts.length := by
          rintro rfl
          exact waiting rfl _ le_rfl (early.trans_le ordered.indexLe) absent
        exact Nat.lt_of_le_of_ne isDue notAttempt
    | timed => exact isDue
    | afterSkipped _ | looped _ | again _ | finished _ | cleanSkipped _
    | returned _ => cases isDue
  · generalize state.pc = old at moves waiting
    intro staying
    cases moves with
    | finished _ | cleanSkipped _ | returned _ => cases staying
    | preSkipped _ | timed | afterSkipped _ | looped _ | again _ =>
        exact waiting rfl

theorem step
    {action : Action}
    (ordered : Ordered config state)
    (sound : Sound state)
    (sized : Sized config state)
    (fires : Fires config state action next) :
    Ordered config next := by
  have waiting := ordered.waiting
  cases fires with
  | created pc found =>
      have settled := ordered.settled (by rw [pc]; exact id)
      exact { ordered with
        indexLe := ordered.indexLe.trans (Nat.le_succ _)
        due := fun due => absurd settled due.ne
        status := fun i check present => by
          rcases update_map_cases present with ⟨rfl, new⟩ | ⟨-, same⟩
          · cases new
            exact ⟨fun _ => settled.le.trans ordered.indexLe, fun _ => rfl⟩
          · exact ordered.status i check same
        waiting := fun _ i past below absent => by
          rcases update_map_cases absent with ⟨-, gone⟩ | ⟨different, same⟩
          · cases gone
          · exact waiting (by rw [pc]; rfl) i past
              (Nat.lt_of_le_of_ne (Nat.le_of_lt_succ below) different) same }
  | entered pc _ | waited pc _ =>
      have settled := ordered.settled (by rw [pc]; exact id)
      exact { ordered with
        due := fun due => absurd settled due.ne
        waiting := fun _ => waiting (by rw [pc]; rfl) }
  | started pc may =>
      have settled := ordered.settled (by rw [pc]; exact id)
      exact { ordered with
        trycount := rfl
        indexLe := may.1
        attemptsLe := settled.le.trans (Nat.le_succ _)
        due := fun _ => ⟨by rw [settled], Nat.zero_le _⟩
        waiting := fun _ => waiting (by rw [pc]; rfl) }
  | preSelected pc below present _ => exact ordered.preSelect sized pc below present
  | interrupted pc past _ | selected pc past =>
      have settled : state.attempts.length = state.index := by
        by_contra different
        have early := Nat.lt_of_le_of_ne ordered.attemptsLe different
        have isDue := (ordered.due early).2
        rw [pc] at isDue
        exact absurd (past.trans isDue) (Nat.not_le_of_lt early)
      exact { ordered with
        due := fun due => absurd settled due.ne
        waiting := fun _ => waiting (by rw [pc]; rfl) }
  | @kept k _ _ _ _ _ pc below present selected _ _ =>
      have settled := ordered.settled (by rw [pc]; exact id)
      have started := ordered.afterSelect_started sound pc below present selected
      refine { ordered with
        due := fun due => absurd settled due.ne, status := ?_, waiting := ?_ }
      · intro i other has
        rcases update_map_cases has with ⟨rfl, new⟩ | ⟨-, same⟩
        · cases new
          exact ⟨fun again => absurd again started,
            fun past => absurd (settled ▸ past) (Nat.not_le_of_lt below)⟩
        · exact ordered.status i other same
      · intro _ i past inside absent
        rcases update_map_cases absent with ⟨-, gone⟩ | ⟨-, same⟩
        · cases gone
        · exact waiting (by rw [pc]; rfl) i past inside same
  | @removed k _ _ _ _ _ pc below present selected _
  | @chosen k _ _ _ _ _ pc below present selected _ =>
      have settled := ordered.settled (by rw [pc]; exact id)
      exact { ordered with
        due := fun due => absurd settled due.ne
        status := ordered.status_delete rfl
        waiting := fun _ i past inside absent => by
          rcases update_map_cases absent with ⟨rfl, -⟩ | ⟨-, same⟩
          · exact absurd (settled ▸ past) (Nat.not_le_of_lt below)
          · exact waiting (by rw [pc]; rfl) i past inside same }
  | cleaned pc _ _ =>
      have settled := ordered.settled (by rw [pc]; exact id)
      exact { ordered with
        due := fun due => absurd settled due.ne
        status := ordered.status_delete rfl
        waiting := fun staying => by cases staying }
  | moved moves => exact ordered.moved moves

theorem of_reachable
    (reached : (system config).Reachable state) :
    Ordered config state := by
  refine reached.invariant ?_ ?_
  · rintro state rfl
    exact Ordered.new config
  · intro state action next prior ordered _ stepped
    exact ordered.step (Sound.of_reachable prior) (Sized.of_reachable prior)
      (State.step_fires stepped)

end Ordered
end MultiConnect
end Skplat
