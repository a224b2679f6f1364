import Skplat.Data.ListSet
import Skplat.WorkQueue.Steps

/-!
# Every unit is handled once

An accepted unit is in the queue, or it was taken by one thread, taken out by `cancel`, or
discarded with the whole queue.  The threads take the units in the order in which they were
accepted, and each one that was taken runs once.
-/

namespace Skplat
namespace WorkQueue

variable {Caller WorkUnit : Type}

/-- Where the units are. -/
structure Units (WorkUnit : Type) where
  canceled : Bool
  workUnits : List (Entry WorkUnit)
  accepted : List WorkUnit
  taken : List (Entry WorkUnit)
  completed : List (Entry WorkUnit)
  removed : List (Entry WorkUnit)
  discarded : List (Entry WorkUnit)
  /-- The entries that are run by a thread. -/
  running : List (Entry WorkUnit)

/-- The units of a state. -/
def State.units (state : State Caller WorkUnit) : Units WorkUnit where
  canceled := state.canceled
  workUnits := state.workUnits
  accepted := state.accepted
  taken := state.taken
  completed := state.completed
  removed := state.removed
  discarded := state.discarded
  running := state.workers.filterMap Worker.inHand

/-- The accepted units with their numbers. -/
def entriesOf (accepted : List WorkUnit) : List (Entry WorkUnit) :=
  accepted.mapIdx fun ticket unit => ⟨unit, ticket⟩

namespace Units

/-- What a step does to the units. -/
inductive Moves [DecidableEq WorkUnit] (units : Units WorkUnit) : Units WorkUnit → Prop
  | same : Moves units units
  | accept (unit : WorkUnit) :
      units.canceled = false →
      Moves units { units with
        workUnits := units.workUnits ++ [⟨unit, units.accepted.length⟩]
        accepted := units.accepted ++ [unit] }
  | discard :
      Moves units { units with
        canceled := true
        discarded := units.discarded ++ units.workUnits
        workUnits := [] }
  | remove {unit : WorkUnit} {entry : Entry WorkUnit} :
      (units.workUnits.find? fun entry => entry.unit = unit) = some entry →
      Moves units { units with
        workUnits := units.workUnits.eraseP fun entry => entry.unit = unit
        removed := units.removed ++ [entry] }
  | take {entry : Entry WorkUnit} {rest running : List (Entry WorkUnit)} :
      units.canceled = false →
      units.workUnits = entry :: rest → running.Perm (entry :: units.running) →
      Moves units { units with
        workUnits := rest
        taken := units.taken ++ [entry]
        running := running }
  | complete {entry : Entry WorkUnit} {running : List (Entry WorkUnit)} :
      units.running.Perm (entry :: running) →
      Moves units { units with
        completed := units.completed ++ [entry]
        running := running }

/-- Each accepted unit is at one place; the units are taken in order and run once; and nothing
is left in the queue when all is cancelled. -/
structure HandledOnce (units : Units WorkUnit) : Prop where
  places : (units.workUnits ++ units.taken ++ units.removed ++ units.discarded).Perm
    (entriesOf units.accepted)
  inOrder : (units.taken ++ units.workUnits).Pairwise fun first second =>
    first.ticket < second.ticket
  runs : units.taken.Perm (units.completed ++ units.running)
  stops : units.canceled = true → units.workUnits = []

end Units

/-! ## Steps -/

@[simp] theorem inHand_notified (worker : Worker WorkUnit) :
    worker.notified.inHand = worker.inHand := by
  obtain ⟨place, work⟩ := worker
  cases place <;> rfl

theorem filterMap_inHand_notified (workers : List (Worker WorkUnit)) :
    (workers.map Worker.notified).filterMap Worker.inHand =
      workers.filterMap Worker.inHand := by
  rw [List.filterMap_map]
  exact List.filterMap_congr fun worker _ => inHand_notified worker

theorem mem_entriesOf {accepted : List WorkUnit} {entry : Entry WorkUnit}
    (present : entry ∈ entriesOf accepted) : entry.ticket < accepted.length := by
  obtain ⟨ticket, inside, rfl⟩ := List.mem_mapIdx.mp present
  exact inside

theorem entriesOf_concat (accepted : List WorkUnit) (unit : WorkUnit) :
    entriesOf (accepted ++ [unit]) = entriesOf accepted ++ [⟨unit, accepted.length⟩] :=
  List.mapIdx_concat

namespace State

variable {state : State Caller WorkUnit}

theorem units_workChanged (state : State Caller WorkUnit) :
    state.workChanged.units = state.units := by
  rw [units, workChanged, filterMap_inHand_notified]
  rfl

/-- A thread at another place that runs what it ran before. -/
theorem units_workerAt {index : Nat} {worker replaced : Worker WorkUnit}
    (found : state.workers[index]? = some worker)
    (same : replaced.inHand = worker.inHand) :
    (state.workerAt index replaced).units = state.units := by
  rw [units, workerAt, filterMap_set_of_same found same]
  rfl

theorem units_addThread (state : State Caller WorkUnit) :
    state.addThread.units = state.units := by
  rw [units, addThread, List.filterMap_append]
  exact congrArg (fun running => { state.units with running := running })
    (List.append_nil _)

theorem units_discardAll (state : State Caller WorkUnit) :
    state.discardAll.units = { state.units with
      canceled := true
      discarded := state.discarded ++ state.workUnits
      workUnits := [] } := by
  exact units_workChanged { state with
    canceled := true
    discarded := state.discarded ++ state.workUnits
    workUnits := [] }

theorem WorkerIs.inHand {index : Nat} {worker : Worker WorkUnit} {place : Place WorkUnit}
    (isPlace : state.WorkerIs index worker place) :
    worker.inHand = (⟨place, none⟩ : Worker WorkUnit).inHand := by
  rw [Worker.inHand, isPlace.place, Worker.inHand]

end State

variable [DecidableEq WorkUnit]
variable {units moved : Units WorkUnit}

namespace Units

theorem Moves.of_eq (same : moved = units) : units.Moves moved :=
  same ▸ .same

/-- What a thread or a cancellation takes is one of the units in the queue. -/
theorem HandledOnce.step (once : units.HandledOnce) (moves : units.Moves moved) :
    moved.HandledOnce := by
  obtain ⟨places, inOrder, runs, stops⟩ := once
  cases moves with
  | same => exact ⟨places, inOrder, runs, stops⟩
  | accept unit notCanceled =>
      refine ⟨?_, ?_, runs, fun isCanceled => ?_⟩
      · dsimp only
        rw [entriesOf_concat]
        refine List.Perm.trans ?_ (places.append_right _)
        simp only [List.perm_iff_count, List.count_append]
        intro entry
        omega
      · dsimp only
        rw [← List.append_assoc, List.pairwise_append]
        refine ⟨inOrder, List.pairwise_singleton _ _, fun entry present last isLast => ?_⟩
        rw [List.mem_singleton.mp isLast]
        have known : entry ∈ entriesOf units.accepted := by
          refine places.mem_iff.mp ?_
          simp only [List.mem_append] at present ⊢
          tauto
        exact mem_entriesOf known
      · exact absurd (isCanceled.symm.trans notCanceled) (by decide)
  | discard =>
      refine ⟨?_, ?_, runs, fun _ => rfl⟩
      · refine List.Perm.trans ?_ places
        simp only [List.perm_iff_count, List.count_append, List.count_nil]
        intro entry
        omega
      · exact inOrder.sublist (List.Sublist.append_left (List.nil_sublist _) _)
  | @remove unit entry found =>
      obtain ⟨before, after, isQueue, erased⟩ := exists_append_of_find? found
      rw [erased]
      rw [isQueue] at places inOrder
      refine ⟨?_, ?_, runs, fun isCanceled => ?_⟩
      · refine List.Perm.trans ?_ places
        simp only [List.perm_iff_count, List.count_append, List.count_cons, List.count_nil]
        intro entry
        omega
      · exact inOrder.sublist (List.Sublist.append_left
          (List.Sublist.append_left (List.sublist_cons_self _ _) _) _)
      · have empty := stops isCanceled
        rw [isQueue] at empty
        simp at empty
  | @take entry rest running notCanceled isQueue runsMore =>
      rw [isQueue] at places inOrder
      refine ⟨?_, ?_, ?_, fun isCanceled => ?_⟩
      · refine List.Perm.trans ?_ places
        simp only [List.perm_iff_count, List.count_append, List.count_cons, List.count_nil]
        intro entry
        omega
      · dsimp only
        rw [List.append_assoc]
        exact inOrder
      · dsimp only
        refine List.Perm.trans ?_ (runsMore.symm.append_left units.completed)
        rw [List.perm_iff_count] at runs ⊢
        intro other
        have counted := runs other
        simp only [List.count_append, List.count_cons, List.count_nil] at counted ⊢
        omega
      · exact absurd (isCanceled.symm.trans notCanceled) (by decide)
  | complete runsLess =>
      refine ⟨places, inOrder, ?_, stops⟩
      refine runs.trans ?_
      refine (runsLess.append_left units.completed).trans ?_
      simp only [List.append_assoc, List.singleton_append]
      exact List.Perm.refl _

end Units

variable [DecidableEq Caller]
variable {maxThreads : Nat} {state next : State Caller WorkUnit}
variable {action : Action Caller WorkUnit}

namespace State

omit [DecidableEq WorkUnit] in
theorem units_accept (state : State Caller WorkUnit) (caller : Caller) (unit : WorkUnit) :
    (state.accept caller unit).units = { state.units with
      workUnits := state.workUnits ++ [⟨unit, state.accepted.length⟩]
      accepted := state.accepted ++ [unit] } := by
  exact units_workChanged { state with
    workUnits := state.workUnits ++ [⟨unit, state.accepted.length⟩]
    accepted := state.accepted ++ [unit] }

theorem Fires.moves (fires : Fires maxThreads state action next) :
    state.units.Moves next.units := by
  cases fires with
  | answered | blocked | blockedAgain | woken | scanBegun | passed | hit | crash
  | unitCanceled | joinedThread | finishReturned => exact .same
  | grown calls isOpen =>
      rw [units_accept, units_addThread]
      exact .accept _ isOpen.notCanceled
  | admitted calls isOpen =>
      rw [units_accept]
      exact .accept _ isOpen.notCanceled
  | admittedAgain resumes isOpen =>
      rw [units_accept]
      exact .accept _ isOpen.notCanceled
  | canceled =>
      have discards : state.units.Moves state.discardAll.units := by
        rw [units_discardAll]
        exact .discard
      exact discards
  | removed calls isOpen found => exact .remove found
  | cleared scans place found => exact .of_eq (units_workerAt found rfl)
  | notFound => exact .of_eq (units_workChanged state)
  | finishBegun => exact .of_eq (units_workChanged { state with finished := true })
  | @took index worker entry rest isPlace notLocked notCanceled isQueue =>
      obtain ⟨others, before, after⟩ := exists_others_of_filterMap_set isPlace.found
        ⟨.running entry, some entry.unit⟩ Worker.inHand
      rw [isPlace.inHand] at before
      exact .take notCanceled isQueue (after.trans (before.symm.cons entry))
  | slept isPlace => exact .of_eq (units_workerAt isPlace.found isPlace.inHand.symm)
  | left isPlace => exact .of_eq (units_workerAt isPlace.found isPlace.inHand.symm)
  | roused isPlace => exact .of_eq (units_workerAt isPlace.found isPlace.inHand.symm)
  | @ran index worker entry shouldContinue isPlace =>
      obtain ⟨others, before, after⟩ := exists_others_of_filterMap_set isPlace.found
        { worker with place := .returned entry shouldContinue } Worker.inHand
      rw [isPlace.inHand] at before
      exact .complete (before.trans (after.symm.cons entry))
  | released isPlace => exact .of_eq (units_workerAt isPlace.found isPlace.inHand.symm)
  | continued isPlace => exact .of_eq (units_workerAt isPlace.found isPlace.inHand.symm)
  | stopped isPlace => exact .of_eq (units_workerAt isPlace.found isPlace.inHand.symm)
  | @stoppedAll index worker isPlace =>
      have found : (discardAll { state with
          idleThreads := state.idleThreads + 1 }).workers[index]? = some worker.notified := by
        rw [discardAll]
        exact (List.getElem?_map).trans (congrArg _ isPlace.found)
      have same : Worker.inHand ⟨.leaving true, worker.runningWork⟩ =
          worker.notified.inHand := ((inHand_notified worker).trans isPlace.inHand).symm
      rw [units_workerAt found same, units_discardAll]
      exact .discard
  | exited isPlace => exact .of_eq (units_workerAt isPlace.found isPlace.inHand.symm)

/-- In every reached state each accepted unit was handled once. -/
theorem handledOnce_of_reachable
    (reached : (system Caller WorkUnit maxThreads).Reachable state) :
    state.units.HandledOnce := by
  induction reached with
  | initial start =>
      cases start
      exact ⟨List.Perm.refl _, List.Pairwise.nil, List.Perm.refl _, fun _ => rfl⟩
  | step _ _ stepped once => exact once.step (step_fires stepped).1.moves

theorem Fires.accepted_eq (fires : Fires maxThreads state action next)
    (closed : ¬state.IsOpen) : next.accepted = state.accepted := by
  cases fires with
  | grown _ isOpen | admitted _ isOpen | admittedAgain _ isOpen => exact absurd isOpen closed
  | _ => rfl

theorem Fires.taken_eq (fires : Fires maxThreads state action next)
    (isCanceled : state.canceled = true) : next.taken = state.taken := by
  cases fires with
  | took _ _ notCanceled => exact absurd (isCanceled.symm.trans notCanceled) (by decide)
  | _ => rfl

/-- In every reached state each accepted unit was handled once, and from then on nothing is
accepted after `finish` or a cancellation, and nothing is taken after a cancellation. -/
theorem handledOnce
    (maxThreads : Nat) (state : State Caller WorkUnit)
    (reached : (system Caller WorkUnit maxThreads).Reachable state) :
    state.units.HandledOnce ∧
      ∀ action next, (system Caller WorkUnit maxThreads).step state action = some next →
        (state.finished = true ∨ state.canceled = true → next.accepted = state.accepted) ∧
        (state.canceled = true → next.taken = state.taken) := by
  refine ⟨handledOnce_of_reachable reached, fun action next stepped => ⟨?_, ?_⟩⟩
  · intro isClosed
    refine (step_fires stepped).1.accepted_eq fun isOpen => ?_
    obtain isFinished | isCanceled := isClosed
    · exact absurd (isFinished.symm.trans isOpen.notFinished) (by decide)
    · exact absurd (isCanceled.symm.trans isOpen.notCanceled) (by decide)
  · exact (step_fires stepped).1.taken_eq

/-- The first unit is run, the second one is taken out of the queue, and the third one is
discarded. -/
theorem handledOnce_threeUnits :
    ∃ state : State (Fin 1) Nat, state.units.HandledOnce ∧
      (state.completed, state.removed, state.discarded) =
        ([⟨7, 0⟩], [⟨8, 1⟩], [⟨7, 2⟩]) := by
  have run : ((system (Fin 1) Nat 1).exec .new [
      .schedule 0 7 2 true, .enter 0, .schedule 0 8 2 true, .schedule 0 7 2 true,
      .cancel 0 (some 8), .returnRun 0 false, .release 0, .leave 0]).map (fun state =>
        decide ((state.completed, state.removed, state.discarded) =
          ([⟨7, 0⟩], [⟨8, 1⟩], [⟨7, 2⟩]))) = some true := by
    decide
  obtain ⟨state, -, reached, isEnd⟩ := Machine.exists_reachable_of_exec rfl run
  exact ⟨state, (handledOnce 1 state reached).1, of_decide_eq_true isEnd⟩

end State
end WorkQueue
end Skplat
