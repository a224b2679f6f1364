import Skplat.MultiConnect.Slots

/-!
# The life cycle of the machines

The status of each machine moves forward only, `PreSelect` is never called on an
ended machine, and `Timeout` never on one that was not started.
-/

namespace Skplat
namespace MultiConnect

open TcpClientFsm (AfterCalls)

variable {Addr : Type} {config : Config Addr} {state next : State Addr}

/-- No `AfterSelect` is due for this slot. -/
def Pc.Idle (pc : Pc) (index i : Nat) : Prop :=
  match pc with
  | .creating _ | .top | .testing => True
  | .preSelecting k => k ≤ i ∨ index ≤ i
  | .timing k => k < i ∨ index ≤ i
  | .afterSelecting k => i < k ∨ index ≤ i
  | .cleaning _ | .returned => False

/-- `TryConnect` is past its result loop. -/
def Pc.ending : Pc → Bool
  | .testing | .cleaning _ | .returned => true
  | _ => false

/-- The machines are treated as their life cycle demands. -/
structure Sound (state : State Addr) : Prop where
  slots : ∀ i, (state.slots i).Sound
  idle : state.chosen = none → ∀ i, state.pc.Idle state.index i →
    (state.slots i).record.selected = false
  /-- A chosen socket ends the main loop. -/
  chosen : state.chosen ≠ none → state.retsocket ≠ none ∧ state.pc.ending = true

namespace Sound

theorem notChosen
    (sound : Sound state)
    (going : state.pc.ending = false) :
    state.chosen = none := by
  by_contra chosen
  rw [(sound.chosen chosen).2] at going
  cases going

/-- The next `PreSelect` is on a machine that does not wait for its
`AfterSelect`. -/
theorem idle_preSelecting
    {i : Nat}
    (sound : Sound state)
    (pc : state.pc = .preSelecting i) :
    (state.slots i).record.selected = false := by
  refine sound.idle (sound.notChosen ?_) i ?_
  · rw [pc]
    rfl
  · rw [pc]
    exact Or.inl le_rfl

/-- The next `PreSelect` is on a machine that has not ended. -/
theorem notEnded_preSelecting
    {i : Nat}
    {check : ConnectCheckFsm Addr}
    (sound : Sound state)
    (pc : state.pc = .preSelecting i)
    (present : (state.slots i).check = some check) :
    check.base.status ≠ .eEnd :=
  (sound.slots i).running check present (sound.idle_preSelecting pc)

theorem new (config : Config Addr) : Sound (State.new config) where
  slots := fun _ => Slot.sound_empty
  idle := fun _ _ _ => rfl
  chosen := fun chosen => absurd rfl chosen

theorem slots_step
    {action : Action}
    (sound : Sound state)
    (fires : Fires config state action next) :
    ∀ i, (next.slots i).Sound := by
  have updated : ∀ {i : Nat} {slot : Slot Addr}, slot.Sound →
      ∀ j, (Function.update state.slots i slot j).Sound :=
    fun new => (Function.forall_update_iff _ fun _ => Slot.Sound).mpr
      ⟨new, fun j _ => sound.slots j⟩
  cases fires with
  | created _ _ => exact updated (Slot.sound_new _ _ _ _)
  | preSelected pc _ present _ =>
      exact updated
        ((sound.slots _).preSelect present (sound.idle_preSelecting pc))
  | kept _ _ present selected running _ =>
      exact updated ((sound.slots _).kept present selected running)
  | removed _ _ present selected givenUp =>
      exact updated ((sound.slots _).remove present selected givenUp)
  | chosen _ _ present selected _ =>
      exact updated ((sound.slots _).take present selected)
  | cleaned _ _ present => exact updated ((sound.slots _).delete present)
  | entered _ _ | started _ _ | waited _ _ | interrupted _ _ _ | selected _ _
  | moved _ => exact sound.slots

theorem idle_step
    {action : Action}
    (sound : Sound state)
    (fires : Fires config state action next)
    (notChosen : next.chosen = none)
    (i : Nat)
    (idle : next.pc.Idle next.index i) :
    (next.slots i).record.selected = false := by
  cases fires with
  | created pc _ =>
      have before := sound.idle notChosen i (by rw [pc]; trivial)
      by_cases same : i = state.vecSize
      · subst same
        simp only [Function.update_self]
        rfl
      · simpa only [Function.update_of_ne same] using before
  | entered pc _ | started pc _ | waited pc _ =>
      exact sound.idle notChosen i (by rw [pc]; trivial)
  | @preSelected k _ _ pc below _ _ =>
      have other : i ≠ k := by
        rcases idle with later | beyond
        · exact later.ne'
        · exact (below.trans_le beyond).ne'
      have before := sound.idle notChosen i
        (by rw [pc]; exact idle.imp le_of_lt id)
      simpa only [State.preSelect, Function.update_of_ne other] using before
  | interrupted _ _ _ => cases idle
  | selected pc past =>
      have beyond : state.index ≤ i := by simpa [Pc.Idle] using idle
      exact sound.idle notChosen i (by rw [pc]; exact Or.inr beyond)
  | @kept k _ _ _ _ _ pc _ _ _ _ _ | @removed k _ _ _ _ _ pc _ _ _ _ =>
      by_cases same : i = k
      · subst same
        simp only [State.remove, Function.update_self]
        rfl
      · have before := sound.idle notChosen i (by
          rw [pc]
          exact idle.imp (fun earlier => by omega) id)
        simpa only [State.remove, Function.update_of_ne same] using before
  | chosen _ _ _ _ _ => cases notChosen
  | cleaned _ _ _ => cases idle
  | moved moves =>
      have before : state.pc.Idle state.index i →
          (state.slots i).record.selected = false := sound.idle notChosen i
      generalize state.pc = pc at moves before
      cases moves with
      | preSkipped _ => exact before (idle.imp (fun later => by omega) id)
      | timed => exact before (idle.imp (fun later => by omega) id)
      | @afterSkipped k absent =>
          by_cases same : i = k
          · subst same
            exact (sound.slots i).gone absent
          · exact before (idle.imp (fun earlier => by omega) id)
      | looped past =>
          exact before (by
            rcases Nat.lt_or_ge i state.index with below | beyond
            · exact Or.inl (below.trans_le past)
            · exact Or.inr beyond)
      | again _ => exact before trivial
      | finished _ | cleanSkipped _ | returned _ => cases idle

theorem chosen_step
    {action : Action}
    (sound : Sound state)
    (fires : Fires config state action next)
    (chosen : next.chosen ≠ none) :
    next.retsocket ≠ none ∧ next.pc.ending = true := by
  cases fires with
  | created pc _ | entered pc _ | started pc _ | waited pc _
  | preSelected pc _ _ _ | interrupted pc _ _ | selected pc _
  | kept pc _ _ _ _ _ | removed pc _ _ _ _ =>
      exact absurd (sound.notChosen (by rw [pc]; rfl)) chosen
  | chosen _ _ present selected won =>
      have lives := (sound.slots _).afterSelect_lives present selected
      exact ⟨lives.opened (Or.inr won.1), rfl⟩
  | cleaned _ _ _ => exact ⟨(sound.chosen chosen).1, rfl⟩
  | moved moves =>
      obtain ⟨valid, ending⟩ := sound.chosen chosen
      refine ⟨valid, ?_⟩
      generalize state.pc = pc at moves ending
      cases moves with
      | preSkipped _ | timed | afterSkipped _ => cases ending
      | again invalid => exact absurd invalid valid
      | looped _ | finished _ | cleanSkipped _ | returned _ => rfl

theorem step
    {action : Action}
    (sound : Sound state)
    (fires : Fires config state action next) :
    Sound next :=
  ⟨sound.slots_step fires, sound.idle_step fires, sound.chosen_step fires⟩

theorem of_reachable
    (reached : (system config).Reachable state) :
    Sound state := by
  refine reached.invariant ?_ ?_
  · rintro state rfl
    exact Sound.new config
  · intro state action next _ sound _ stepped
    exact sound.step (State.step_fires stepped)

end Sound

/-- `Timeout` is due for a started machine. -/
def TimesStarted (state : State Addr) : Prop :=
  ∀ i check, state.pc = .timing i → (state.slots i).check = some check →
    check.base.status ≠ .eStart

theorem timesStarted_step
    {action : Action}
    (fires : Fires config state action next) :
    TimesStarted next := by
  intro i check pc present
  cases fires with
  | @preSelected k before calls _ _ _ _ =>
      cases pc
      simp only [State.preSelect, Function.update_self, Slot.called,
        Option.some.injEq] at present
      rw [← present]
      exact (before.base.preSelects state.sel calls).started
  | moved moves =>
      cases pc
      generalize state.pc = old at moves
      cases moves
  | _ => cases pc

/-- In every run of `TryConnect` the status of each machine moves forward only,
`PreSelect` is called on machines that have not ended, and `Timeout` is evaluated
on machines that were started. -/
theorem lifeCycle_of_reachable
    {config : Config Addr}
    {state : State Addr}
    (reached : (system config).Reachable state) :
    (∀ i, (state.slots i).record.Forward) ∧
      (∀ i check, state.pc = .preSelecting i → i < state.index →
        (state.slots i).check = some check → check.base.status ≠ .eEnd) ∧
      ∀ i check, state.pc = .timing i → (state.slots i).check = some check →
        check.base.status ≠ .eStart := by
  have sound := Sound.of_reachable reached
  have times : TimesStarted state := by
    refine reached.invariant ?_ ?_
    · rintro state rfl i check pc
      simp only [State.new] at pc
      split at pc <;> cases pc
    · intro state action next _ _ _ stepped
      exact timesStarted_step (State.step_fires stepped)
  refine ⟨fun i => ?_, fun i check pc _ present => ?_, times⟩
  · obtain ⟨standing, lives, -⟩ := (sound.slots i).lives
    exact lives.forward
  · exact sound.notEnded_preSelecting pc present

/-! ## A run -/

/-- Two addresses and an observer. -/
def twoAddresses : Config Nat where
  addresses := [10, 20]
  timeout := 1000
  interval := 0
  errorInterval := 0
  maxConnect := 3
  observer := true
  breaker := .new .created
  breakerFd := 3

/-- A `socket` that succeeds and a `connect` that is in progress. -/
def connecting (sock : Int) : ConnectCalls where
  socket := some sock
  socketErrno := 0
  nobioErrno := none
  startTime := 5
  connectErrno := some eInProgress
  endTime := 5

/-- Every descriptor is writable. -/
def writable : PollResult := ⟨1, 0, fun _ => pollOut⟩

/-- A `socket` that fails. -/
def noSocket : ConnectCalls :=
  { connecting 0 with socket := none, socketErrno := 24 }

/-- Nothing is ready. -/
def nothing : PollResult := ⟨0, 0, fun _ => 0⟩

/-- No error is pending. -/
def noError : AfterCalls :=
  ⟨⟨0, 0, 0, 7⟩, ⟨0, 0, 0, 0, .closed⟩⟩

/-- The observer agrees. -/
def agrees : Answers := ⟨true, [], true⟩

/-- The first address connects at once. -/
def firstConnects : List Action :=
  [.create false, .create true, .enter 100, .start 100 100,
    .preSelect (connecting 7), .timeout 100, .select writable,
    .afterSelect noError agrees 100, .test, .cleanup, .cleanup, .cleanup]

/-- The life cycle where the timeout of the first machine is evaluated. -/
theorem lifeCycle_firstConnects :
    ∃ state, (system twoAddresses).Reachable state ∧ state.pc = .timing 0 ∧
      ∃ check, (state.slots 0).check = some check ∧
        check.base.status ≠ .eStart := by
  obtain ⟨state, -, reached, holds⟩ := Machine.exists_reachable_of_exec
    (rfl : (system twoAddresses).initial (State.new twoAddresses))
    (by decide +kernel : ((system twoAddresses).exec (State.new twoAddresses)
      (firstConnects.take 5)).map (fun state =>
        state.pc == .timing 0 && (state.slots 0).check.isSome) = some true)
  simp only [Bool.and_eq_true, beq_iff_eq] at holds
  obtain ⟨check, present⟩ := Option.isSome_iff_exists.mp holds.2
  obtain ⟨-, -, times⟩ := lifeCycle_of_reachable reached
  exact ⟨state, reached, holds.1, check, present, times 0 check holds.1 present⟩

end MultiConnect
end Skplat
