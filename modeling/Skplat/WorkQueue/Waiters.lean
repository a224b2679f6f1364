import Mathlib.Data.Fintype.Basic
import Skplat.WorkQueue.Threads

/-!
# Waits for room

`schedule` waits while the queue is at least as long as its limit, and is woken when a thread
takes a unit.  It is not woken when `cancel` takes a unit out of the queue: if that makes the
queue shorter than the limit, the caller goes on waiting although there is room.
-/

namespace Skplat
namespace WorkQueue

variable {Caller WorkUnit : Type}

/-- The limit with which `schedule` waits. -/
def Call.waits : Call WorkUnit → Option Nat
  | .waiting _ limit => some limit
  | _ => none

/-- A caller waits only while the queue is too long for it. -/
def WaitsForRoom (state : State Caller WorkUnit) : Prop :=
  ∀ caller, ∀ limit ∈ (state.call caller).waits,
    state.canceled = false ∧ limit ≤ state.workUnits.length

/-- `cancel` does not take a unit out of a queue that is just long enough for a caller to
wait. -/
def StaysLong [DecidableEq WorkUnit] (state : State Caller WorkUnit) :
    Action Caller WorkUnit → Prop
  | .cancel _ (some unit) =>
      state.finished = false → state.canceled = false →
        (∃ entry ∈ state.workUnits, entry.unit = unit) →
          ∀ other, ∀ limit ∈ (state.call other).waits, limit < state.workUnits.length
  | _ => True

instance [Fintype Caller] [DecidableEq WorkUnit] (state : State Caller WorkUnit) :
    DecidablePred (StaysLong state)
  | .cancel _ (some _) => by
      unfold StaysLong
      infer_instance
  | .cancel _ none | .schedule .. | .resume _ | .wake _ | .cancelAll _ | .scan _
  | .finish _ _ | .join _ | .enter _ | .rouse _ | .returnRun _ _ | .release _ | .leave _
  | .exit _ => isTrue trivial

theorem waits_notified (call : Call WorkUnit) : call.notified.waits = none := by
  cases call <;> rfl

namespace WaitsForRoom

variable [DecidableEq Caller] [DecidableEq WorkUnit]
variable {maxThreads : Nat} {state next : State Caller WorkUnit}
variable {action : Action Caller WorkUnit} {caller : Caller}

omit [DecidableEq Caller] [DecidableEq WorkUnit] in
/-- All callers are woken. -/
theorem of_notified (notified : ∀ caller, next.call caller = (state.call caller).notified) :
    WaitsForRoom next := by
  intro caller limit waits
  rw [notified caller, waits_notified] at waits
  cases waits

omit [DecidableEq Caller] [DecidableEq WorkUnit] in
/-- The queue does not get shorter, and callers that wait waited before. -/
theorem of_longer (waitsForRoom : WaitsForRoom state)
    (waits : ∀ caller, ∀ limit ∈ (next.call caller).waits,
      limit ∈ (state.call caller).waits)
    (canceled : next.canceled = state.canceled)
    (longer : state.workUnits.length ≤ next.workUnits.length) : WaitsForRoom next := by
  intro caller limit isWaiting
  obtain ⟨notCanceled, full⟩ := waitsForRoom caller limit (waits caller limit isWaiting)
  exact ⟨canceled.trans notCanceled, Nat.le_trans full longer⟩

omit [DecidableEq WorkUnit] in
/-- One caller is at another place, where it may be. -/
theorem callAt (waitsForRoom : WaitsForRoom state) {place : Call WorkUnit}
    (mayWait : ∀ limit ∈ place.waits,
      state.canceled = false ∧ limit ≤ state.workUnits.length) :
    WaitsForRoom (state.callAt caller place) := by
  intro other limit waits
  change limit ∈ (Function.update state.call caller place other).waits at waits
  by_cases same : other = caller
  · rw [same, Function.update_self] at waits
    exact mayWait limit waits
  · rw [Function.update_of_ne same] at waits
    exact waitsForRoom other limit waits

omit [DecidableEq WorkUnit] in
theorem returns (waitsForRoom : WaitsForRoom state) (status : Status) :
    WaitsForRoom (state.returns caller status) :=
  waitsForRoom.callAt nofun

omit [DecidableEq WorkUnit] in
theorem accept (waitsForRoom : WaitsForRoom state) (unit : WorkUnit) :
    WaitsForRoom (state.accept caller unit) := by
  suffices queued : WaitsForRoom (State.workChanged { state with
      workUnits := state.workUnits ++ [⟨unit, state.accepted.length⟩]
      accepted := state.accepted ++ [unit] }) from queued.returns .ok
  refine waitsForRoom.of_longer (fun _ _ => id) rfl ?_
  exact Nat.le_trans (Nat.le_add_right _ _) (Nat.le_of_eq List.length_append.symm)

/-- Only a unit that is taken out of the queue can make a caller wait for nothing. -/
theorem step (waitsForRoom : WaitsForRoom state)
    (fires : State.Fires maxThreads state action next) (staysLong : StaysLong state action) :
    WaitsForRoom next := by
  cases fires with
  | answered status => exact waitsForRoom.returns status
  | grown =>
      have added : WaitsForRoom state.addThread :=
        waitsForRoom.of_longer (fun _ _ => id) rfl (Nat.le_refl _)
      exact added.accept _
  | admitted | admittedAgain => exact waitsForRoom.accept _
  | blocked calls isOpen full backlogs long =>
      refine waitsForRoom.callAt fun limit waits => ?_
      cases waits
      exact ⟨isOpen.notCanceled, long⟩
  | blockedAgain resumes isOpen long =>
      refine waitsForRoom.callAt fun limit waits => ?_
      cases waits
      exact ⟨isOpen.notCanceled, long⟩
  | woken | passed | hit | unitCanceled | joinedThread =>
      exact waitsForRoom.callAt nofun
  | canceled => exact returns (of_notified fun _ => rfl) .ok
  | @removed caller unit entry calls isOpen found =>
      refine returns ?_ .ok
      obtain ⟨before, after, isQueue, erased⟩ := exists_append_of_find? found
      have isUnit : entry.unit = unit := by simpa using List.find?_some found
      intro other limit waits
      have long := staysLong isOpen.notFinished isOpen.notCanceled
        ⟨entry, List.mem_of_find?_eq_some found, isUnit⟩ other limit waits
      refine ⟨isOpen.notCanceled, ?_⟩
      change limit ≤ (state.workUnits.eraseP fun entry => entry.unit = unit).length
      rw [erased]
      rw [isQueue] at long
      simp only [List.length_append, List.length_cons] at long ⊢
      omega
  | @scanBegun caller unit =>
      have moved : WaitsForRoom (state.callAt caller (.scanning unit 0)) :=
        waitsForRoom.callAt nofun
      exact moved.of_longer (fun _ _ => id) rfl (Nat.le_refl _)
  | crash => exact waitsForRoom
  | @cleared caller =>
      have moved : WaitsForRoom (state.returns caller .ok) := waitsForRoom.returns .ok
      exact moved.of_longer (fun _ _ => id) rfl (Nat.le_refl _)
  | @notFound caller =>
      have moved : WaitsForRoom
          (state.workChanged.workDequeued.returns caller .nameNotFound) :=
        returns (of_notified fun _ => rfl) .nameNotFound
      exact moved.of_longer (fun _ _ => id) rfl (Nat.le_refl _)
  | @finishBegun action caller =>
      have moved : WaitsForRoom (state.callAt caller (.joining 0)) := waitsForRoom.callAt nofun
      exact moved.of_longer (fun _ _ => id) rfl (Nat.le_refl _)
  | @finishReturned action caller =>
      have moved : WaitsForRoom (state.returns caller .ok) := waitsForRoom.returns .ok
      exact moved.of_longer (fun _ _ => id) rfl (Nat.le_refl _)
  | took => exact of_notified fun _ => rfl
  | slept | left | roused | ran | released | continued | stopped | exited =>
      exact waitsForRoom.of_longer (fun _ _ => id) rfl (Nat.le_refl _)
  | stoppedAll => exact of_notified fun _ => rfl

/-- A caller that waits for nothing is left by a step that takes a unit out of the queue when
it is just long enough. -/
theorem staysLong_of_step (stepped : State.step maxThreads state action = some next)
    (waitsForRoom : WaitsForRoom next) : StaysLong state action := by
  cases action with
  | cancel caller unit =>
      cases unit with
      | none => trivial
      | some unit =>
          intro notFinished notCanceled queued other limit waits
          simp only [State.step] at stepped
          split at stepped
          · cases stepped
          split at stepped
          · rename_i free
            obtain ⟨⟨result, inNoCall⟩, -⟩ := State.calls_of_free free
            cases stepped
            obtain ⟨entry, found⟩ : ∃ entry,
                (state.workUnits.find? fun entry => entry.unit = unit) = some entry := by
              rw [← Option.isSome_iff_exists, List.find?_isSome]
              simpa using queued
            obtain ⟨before, after, isQueue, erased⟩ := exists_append_of_find? found
            rw [State.cancel, notFinished, notCanceled, found] at waitsForRoom
            have notCaller : other ≠ caller := by
              rintro rfl
              rw [inNoCall] at waits
              cases waits
            have long := (waitsForRoom other limit (by
              change limit ∈ (Function.update state.call caller _ other).waits
              rw [Function.update_of_ne notCaller]
              exact waits)).2
            change limit ≤ (state.workUnits.eraseP fun entry => entry.unit = unit).length at long
            rw [erased] at long
            rw [isQueue]
            simp only [List.length_append, List.length_cons] at long ⊢
            omega
          · cases stepped
  | _ => trivial

end WaitsForRoom

namespace State

variable [DecidableEq Caller] [DecidableEq WorkUnit]

/-- If no unit is taken out of a queue that is just long enough for a caller to wait, then in
every reached state a caller waits only while the queue is too long for it; and a step to such
a state is a step of this kind. -/
theorem waitsForRoom
    (maxThreads : Nat) (state : State Caller WorkUnit)
    (reached : (system Caller WorkUnit maxThreads).ReachableUnder StaysLong state) :
    WaitsForRoom state ∧
      ∀ action next, (system Caller WorkUnit maxThreads).step state action = some next →
        (WaitsForRoom next ↔ StaysLong state action) := by
  have roomy : WaitsForRoom state := by
    refine reached.invariant ?_ fun state action next _ roomy permitted stepped =>
      roomy.step (step_fires stepped).1 permitted
    rintro state rfl
    exact nofun
  refine ⟨roomy, fun action next stepped => ⟨WaitsForRoom.staysLong_of_step stepped, ?_⟩⟩
  exact roomy.step (step_fires stepped).1

/-- After the first unit is taken the third one may be added, and the fourth one waits again. -/
theorem waitsForRoom_fourUnits :
    ∃ state : State (Fin 2) Nat, WaitsForRoom state ∧ state.call 1 = .waiting 10 2 ∧
      state.accepted = [7, 8, 9] := by
  have run : ((system (Fin 2) Nat 1).execUnder StaysLong .new [
      .schedule 0 7 2 true, .schedule 0 8 2 true, .schedule 1 9 2 true, .enter 0, .resume 1,
      .schedule 1 10 2 true]).map (fun state =>
        decide (state.call 1 = .waiting 10 2 ∧ state.accepted = [7, 8, 9])) = some true := by
    decide
  obtain ⟨state, reached, isEnd⟩ := Machine.ReachableUnder.exists_of_execUnder
    (.initial rfl) run
  exact ⟨state, (waitsForRoom 1 state reached).1, of_decide_eq_true isEnd⟩

-- with two units in the queue the second caller waits; one of them is taken out, and the
-- caller still waits
example : ((system (Fin 2) Nat 1).exec .new [
    .schedule 0 7 2 true, .schedule 0 8 2 true, .schedule 1 9 2 true,
    .cancel 0 (some 8)]).map (fun state => (state.call 1, state.workUnits)) =
      some (.waiting 9 2, [⟨7, 0⟩]) := by
  decide

end State
end WorkQueue
end Skplat
