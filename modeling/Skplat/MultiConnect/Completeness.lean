import Skplat.MultiConnect.Accounting

/-!
# What it means that no connection was made

Unless `Select` fails or the breaker is broken, `TryConnect` leaves its main loop
only when every slot is empty or a socket was chosen.  A slot becomes empty when its
machine is given up, and machines that were not started are never given up.
-/

namespace Skplat
namespace MultiConnect

variable {Addr : Type} {config : Config Addr} {state next : State Addr}

/-- `Select` does not fail, and the breaker is not in it. -/
def Uninterrupted (config : Config Addr) (state : State Addr) : Action → Prop
  | .select poll => ¬Interrupted (state.polled config poll)
  | _ => True

instance
    (config : Config Addr)
    (state : State Addr) :
    DecidablePred (Uninterrupted config state)
  | .select poll =>
      inferInstanceAs (Decidable (¬Interrupted (state.polled config poll)))
  | .create _ | .enter _ | .start _ _ | .preSelect _ | .timeout _
  | .afterSelect _ _ _ | .test | .cleanup => inferInstanceAs (Decidable True)

/-- An empty slot was given up, as long as no socket is chosen. -/
def EmptyGivenUp (state : State Addr) : Prop :=
  state.chosen = none → ∀ i < state.vecSize, (state.slots i).check = none →
    (state.slots i).removed ≠ none

/-- The main loop ends without a result only when all machines were started and
all slots are empty. -/
def LeavesEmpty (state : State Addr) : Prop :=
  state.pc.leaving = true → state.chosen = none →
    state.vecSize ≤ state.attempts.length ∧
      ∀ i < state.vecSize, (state.slots i).check = none

/-- Both, in a run that is not interrupted. -/
structure Completes (state : State Addr) : Prop where
  given : EmptyGivenUp state
  leaves : LeavesEmpty state

theorem emptyGivenUp_step
    {action : Action}
    (given : EmptyGivenUp state)
    (leaves : LeavesEmpty state)
    (fires : Fires config state action next) :
    EmptyGivenUp next := by
  intro notChosen i inside absent
  cases fires with
  | created _ _ =>
      by_cases last : i = state.vecSize
      · subst last
        simp only [Function.update_self] at absent
        cases absent
      · simp only [Function.update_of_ne last] at absent ⊢
        exact given notChosen i
          (Nat.lt_of_le_of_ne (Nat.le_of_lt_succ inside) last) absent
  | @preSelected k _ _ _ _ _ _ | @kept k _ _ _ _ _ _ _ _ _ _ _ =>
      by_cases same : i = k
      · subst same
        simp only [State.preSelect, Function.update_self] at absent
        cases absent
      · simp only [State.preSelect, Function.update_of_ne same] at absent ⊢
        exact given notChosen i inside absent
  | @removed k _ _ _ _ _ _ _ _ _ _ =>
      by_cases same : i = k
      · subst same
        simp only [State.remove, Function.update_self]
        simp [Slot.remove]
      · simp only [State.remove, Function.update_of_ne same] at absent ⊢
        exact given notChosen i inside absent
  | chosen _ _ _ _ _ => cases notChosen
  | @cleaned k check pc below present =>
      have empty := (leaves (by rw [pc]; rfl) notChosen).2 k below
      rw [present] at empty
      cases empty
  | entered _ _ | started _ _ | waited _ _ | interrupted _ _ _ | selected _ _
  | moved _ => exact given notChosen i inside absent

theorem leavesEmpty_step
    {action : Action}
    (leaves : LeavesEmpty state)
    (ordered : Ordered config state)
    (resulted : Resulted state)
    (uninterrupted : Uninterrupted config state action)
    (fires : Fires config state action next) :
    LeavesEmpty next := by
  intro leaving notChosen
  cases fires with
  | interrupted _ _ broken => exact absurd broken uninterrupted
  | @cleaned k check pc below present =>
      have empty := (leaves (by rw [pc]; rfl) notChosen).2 k below
      rw [present] at empty
      cases empty
  | moved moves =>
      have before := leaves
      have waiting := ordered.waiting
      unfold LeavesEmpty at before
      generalize state.pc = pc at moves before waiting
      cases moves with
      | finished done =>
          rcases done with empty | valid
          · refine ⟨?_, empty⟩
            by_contra early
            have inside := Nat.lt_of_not_le early
            exact waiting rfl _ le_rfl inside (empty _ inside)
          · exact absurd (resulted.notChosen notChosen).1 valid
      | cleanSkipped _ | returned _ => exact before rfl notChosen
      | preSkipped _ | timed | afterSkipped _ | looped _ | again _ => cases leaving
  | _ => cases leaving

/-- The loop of the results has passed no machine that has won. -/
structure PassedNone (state : State Addr) : Prop where
  passed : ∀ k, state.pc = .afterSelecting k → ∀ j < k, ∀ check,
    (state.slots j).check = some check → ¬check.Won
  first : ∀ i slots, state.chosen = some (i, slots) → ∀ j < i, ∀ check,
    (slots j).check = some check → ¬check.Won

theorem passedNone_step
    {action : Action}
    (passes : PassedNone state)
    (fires : Fires config state action next) :
    PassedNone next := by
  cases fires with
  | selected _ _ =>
      refine ⟨fun k pc j below => ?_, passes.first⟩
      cases pc
      exact absurd below (Nat.not_lt_zero j)
  | @kept k _ _ _ _ _ pc _ _ _ _ notWon =>
      refine ⟨fun m nextPc j below check present => ?_, passes.first⟩
      cases nextPc
      rcases update_map_cases present with ⟨-, new⟩ | ⟨other, same⟩
      · cases new
        exact notWon
      · exact passes.passed k pc j (by omega) check same
  | @removed k _ _ _ _ _ pc _ _ _ _ =>
      refine ⟨fun m nextPc j below check present => ?_, passes.first⟩
      cases nextPc
      rcases update_map_cases present with ⟨-, gone⟩ | ⟨other, same⟩
      · cases gone
      · exact passes.passed k pc j (by omega) check same
  | @chosen k _ _ _ _ _ pc _ _ _ _ =>
      refine ⟨fun m nextPc => (by cases nextPc), ?_⟩
      intro i slots chosen j below check present
      cases chosen
      rw [Function.update_of_ne below.ne] at present
      exact passes.passed k pc j below check present
  | moved moves =>
      obtain ⟨passed, first⟩ := passes
      refine ⟨?_, first⟩
      generalize state.pc = pc at moves passed
      intro m nextPc j below check present
      cases moves with
      | @afterSkipped k absent =>
          cases nextPc
          by_cases same : j = k
          · rw [same, absent] at present
            cases present
          · exact passed k rfl j (by omega) check present
      | preSkipped _ | timed | looped _ | again _ | finished _ | cleanSkipped _
      | returned _ => cases nextPc
  | _ => exact ⟨fun m nextPc => (by cases nextPc), passes.first⟩

/-- Every address was tried and given up. -/
structure AllFailed (config : Config Addr) (state : State Addr) : Prop where
  trycount : state.trycount = config.addresses.length
  /-- Each machine was started. -/
  attempts : state.attempts = config.addresses
  /-- Each machine ended, or was connected and failed its verification. -/
  givenUp : ∀ i < config.addresses.length, ∃ status checkStatus,
    (state.slots i).removed = some (status, checkStatus) ∧
      (status = .eEnd ∨ status = .eReadWrite ∧ checkStatus = .eCheckFail)

theorem completes_of_reachable
    (reached : (system config).ReachableUnder (Uninterrupted config) state) :
    Completes state := by
  refine reached.invariant ?_ ?_
  · rintro state rfl
    exact ⟨fun _ i inside => absurd inside (Nat.not_lt_zero i),
      fun _ _ => ⟨le_rfl, fun i inside => absurd inside (Nat.not_lt_zero i)⟩⟩
  · rintro state action next prior ⟨given, leaves⟩ uninterrupted stepped
    have fires := State.step_fires stepped
    have ordered := Ordered.of_reachable prior.reachable
    have resulted := Resulted.of_reachable prior.reachable
    exact ⟨emptyGivenUp_step given leaves fires,
      leavesEmpty_step leaves ordered resulted uninterrupted fires⟩

theorem passedNone_of_reachable
    (reached : (system config).Reachable state) :
    PassedNone state := by
  refine reached.invariant ?_ ?_
  · rintro state rfl
    exact ⟨fun k _ j _ check present => (by cases present),
      fun i slots chosen => by cases chosen⟩
  · intro state action next _ passes _ stepped
    exact passedNone_step passes (State.step_fires stepped)

theorem allFailed_of_notChosen
    (reached : (system config).ReachableUnder (Uninterrupted config) state)
    (returned : state.pc = .returned)
    (notChosen : state.chosen = none) :
    AllFailed config state := by
  obtain ⟨given, leaves⟩ := completes_of_reachable reached
  obtain ⟨started, empty⟩ := leaves (by rw [returned]; rfl) notChosen
  have sound := Sound.of_reachable reached.reachable
  have ordered := Ordered.of_reachable reached.reachable
  obtain ⟨size, -⟩ :=
    (Sized.of_reachable reached.reachable).size (by rw [returned]; rfl)
  have attempted := ordered.attemptsLe
  have bound := ordered.indexLe
  refine ⟨?_, ?_, fun i inside => ?_⟩
  · rw [ordered.trycount]
    omega
  · rw [ordered.attempts]
    exact List.take_of_length_le (size ▸ started)
  · rw [← size] at inside
    obtain ⟨⟨status, checkStatus⟩, removed⟩ :=
      Option.ne_none_iff_exists'.mp (given notChosen i inside (empty i inside))
    exact ⟨status, checkStatus, removed,
      (sound.slots i).judged status checkStatus removed⟩

/-- In a run in which `Select` never fails and the breaker is never reported, a
`TryConnect` that returns no socket has tried every address, and a socket that it
returns was the first one to be connected and verified. -/
theorem completeness_of_uninterrupted
    {config : Config Addr}
    {state : State Addr}
    (reached : (system config).ReachableUnder (Uninterrupted config) state)
    (returned : state.pc = .returned) :
    (state.retsocket = none → AllFailed config state) ∧
      (state.retsocket ≠ none → ∃ i slots, state.chosen = some (i, slots) ∧
        ∀ j < i, ∀ check, (slots j).check = some check →
          ¬(check.base.status = .eReadWrite ∧ check.checkStatus = .eCheckOk)) := by
  have sound := Sound.of_reachable reached.reachable
  have resulted := Resulted.of_reachable reached.reachable
  constructor
  · intro invalid
    refine allFailed_of_notChosen reached returned ?_
    by_contra chosen
    exact (sound.chosen chosen).1 invalid
  · intro valid
    cases chosen : state.chosen with
    | none => exact absurd (resulted.notChosen chosen).1 valid
    | some choice =>
        obtain ⟨i, slots⟩ := choice
        exact ⟨i, slots, rfl,
          (passedNone_of_reachable reached.reachable).first i slots chosen⟩

/-- No socket can be created. -/
def bothFail : List Action :=
  [.create false, .create true, .enter 100, .start 100 100, .preSelect noSocket,
    .timeout 100, .select nothing, .afterSelect noError agrees 100,
    .afterSelect noError agrees 100, .test, .start 100 100, .preSelect noSocket,
    .preSelect noSocket, .timeout 100, .select nothing,
    .afterSelect noError agrees 100, .afterSelect noError agrees 100,
    .afterSelect noError agrees 100, .test, .cleanup, .cleanup, .cleanup]

/-- Completeness where no socket can be created. -/
theorem completeness_bothFail :
    ∃ state, (system twoAddresses).ReachableUnder (Uninterrupted twoAddresses)
        state ∧
      state.pc = .returned ∧ state.retsocket = none ∧
      AllFailed twoAddresses state := by
  obtain ⟨state, reached, holds⟩ := Machine.ReachableUnder.exists_of_execUnder
    (.initial rfl : (system twoAddresses).ReachableUnder
      (Uninterrupted twoAddresses) (State.new twoAddresses))
    (by decide +kernel : ((system twoAddresses).execUnder
      (Uninterrupted twoAddresses) (State.new twoAddresses) bothFail).map
        (fun state => state.pc == .returned && state.retsocket == none) =
          some true)
  simp only [Bool.and_eq_true, beq_iff_eq] at holds
  exact ⟨state, reached, holds.1, holds.2,
    (completeness_of_uninterrupted reached holds.1).1 holds.2⟩

end MultiConnect
end Skplat
