import Skplat.WorkQueue.Threads

/-!
# `finish`

`finish` returns after all threads have ended.  From then on no unit runs, and a unit may be
left in the queue only if the last unit of each thread returned `false` when `finish` had
begun: the queue is not cancelled any more then, but the thread ends.  This is so if no unit
of the queue called `finish`, for the thread of such a unit is not waited for.

While a caller is in `finish`, no other action makes more work, each step of a thread makes
less of it, and one of them can be taken until `finish` returns.
-/

namespace Skplat
namespace WorkQueue

variable {Caller WorkUnit : Type}

/-- A thread has ended if `finish` waits for it. -/
def State.Joined (state : State Caller WorkUnit) (index : Nat) : Prop :=
  state.finisher ≠ some index → state.Exited index

/-- How far `finish` is. -/
structure Joins (state : State Caller WorkUnit) : Prop where
  notLocked : state.finished = true → state.scanner = none
  working : state.joined = false → state.workThreads = state.workers.length
  joiner : state.finished = true → state.joined = false →
    ∃ caller index, state.call caller = .joining index
  joining : ∀ caller index, state.call caller = .joining index →
    state.finished = true ∧ state.joined = false ∧ index ≤ state.workers.length ∧
      ∀ earlier < index, state.Joined earlier
  unique : ∀ caller other index further, state.call caller = .joining index →
    state.call other = .joining further → caller = other
  ended : state.joined = true →
    state.finished = true ∧ ∀ index < state.workers.length, state.Joined index

/-- A step that leaves `finish` where it is. -/
structure SameJoins (state next : State Caller WorkUnit) : Prop where
  finished : next.finished = state.finished
  finisher : next.finisher = state.finisher
  joined : next.joined = state.joined
  workThreads : next.workThreads = state.workThreads
  workers : next.workers.length = state.workers.length
  exited : ∀ index, state.Exited index → next.Exited index
  joining : ∀ caller index, next.call caller = .joining index ↔
    state.call caller = .joining index
  notLocked : state.finished = true → state.scanner = none → next.scanner = none

variable {state next last : State Caller WorkUnit}

theorem State.Exited.of_workers {index : Nat} (isExited : state.Exited index)
    (workers : next.workers = state.workers) : next.Exited index := by
  obtain ⟨worker, stopped, found, place⟩ := isExited
  exact ⟨worker, stopped, workers ▸ found, place⟩

namespace SameJoins

theorem isJoined (same : SameJoins state next) {index : Nat} (isJoined : state.Joined index) :
    next.Joined index := by
  intro notSelf
  rw [same.finisher] at notSelf
  exact same.exited index (isJoined notSelf)

theorem trans (first : SameJoins state next) (second : SameJoins next last) :
    SameJoins state last where
  finished := second.finished.trans first.finished
  finisher := second.finisher.trans first.finisher
  joined := second.joined.trans first.joined
  workThreads := second.workThreads.trans first.workThreads
  workers := second.workers.trans first.workers
  exited index isExited := second.exited index (first.exited index isExited)
  joining caller index := (second.joining caller index).trans (first.joining caller index)
  notLocked isFinished free :=
    second.notLocked (first.finished.trans isFinished) (first.notLocked isFinished free)

theorem through (next : State Caller WorkUnit) (first : SameJoins state next)
    (second : SameJoins next last) : SameJoins state last :=
  first.trans second

/-- The queue and the units do not matter. -/
theorem of_eq (finished : next.finished = state.finished)
    (finisher : next.finisher = state.finisher) (joined : next.joined = state.joined)
    (workThreads : next.workThreads = state.workThreads)
    (workers : next.workers = state.workers) (call : next.call = state.call)
    (notLocked : state.finished = true → state.scanner = none → next.scanner = none) :
    SameJoins state next where
  finished := finished
  finisher := finisher
  joined := joined
  workThreads := workThreads
  workers := congrArg List.length workers
  exited _ isExited := isExited.of_workers workers
  joining caller index := by rw [call]
  notLocked := notLocked

theorem workChanged (state : State Caller WorkUnit) : SameJoins state state.workChanged where
  finished := rfl
  finisher := rfl
  joined := rfl
  workThreads := rfl
  workers := List.length_map _
  exited index := by
    rintro ⟨worker, stopped, found, place⟩
    refine ⟨worker.notified, stopped, List.getElem?_map.trans (congrArg _ found), ?_⟩
    rw [Worker.notified, place]
    exact place
  joining _ _ := Iff.rfl
  notLocked _ := id

theorem workDequeued (state : State Caller WorkUnit) :
    SameJoins state state.workDequeued where
  finished := rfl
  finisher := rfl
  joined := rfl
  workThreads := rfl
  workers := rfl
  exited _ isExited := isExited.of_workers rfl
  joining caller index := by
    refine ⟨notified_eq_joining, fun place => ?_⟩
    change (state.call caller).notified = _
    rw [place]
    rfl
  notLocked _ := id

/-- A thread that has not ended is at another place, or it stays where it is. -/
theorem workerAt {index : Nat} {worker replaced : Worker WorkUnit}
    (found : state.workers[index]? = some worker)
    (ended : ∀ stopped, worker.place = .exited stopped →
      replaced.place = .exited stopped) :
    SameJoins state (state.workerAt index replaced) where
  finished := rfl
  finisher := rfl
  joined := rfl
  workThreads := rfl
  workers := List.length_set
  exited other := by
    rintro ⟨old, stopped, isOld, place⟩
    by_cases same : index = other
    · subst same
      obtain ⟨inside, -⟩ := List.getElem?_eq_some_iff.mp found
      cases found.symm.trans isOld
      exact ⟨replaced, stopped, List.getElem?_set_self inside, ended stopped place⟩
    · exact ⟨old, stopped, (List.getElem?_set_ne same).trans isOld, place⟩
  joining _ _ := Iff.rfl
  notLocked _ := id

variable [DecidableEq Caller] {caller : Caller}

/-- A caller that is not in `finish` goes elsewhere, but not to `finish`. -/
theorem callAt {place : Call WorkUnit} (notJoining : ∀ index, place ≠ .joining index)
    (wasNot : ∀ index, state.call caller ≠ .joining index) :
    SameJoins state (state.callAt caller place) where
  finished := rfl
  finisher := rfl
  joined := rfl
  workThreads := rfl
  workers := rfl
  exited _ isExited := isExited.of_workers rfl
  joining other index := by
    change Function.update state.call caller place other = _ ↔ _
    by_cases same : other = caller
    · rw [same, Function.update_self]
      exact iff_of_false (notJoining index) (wasNot index)
    · rw [Function.update_of_ne same]
  notLocked _ := id

end SameJoins

/-! ## Steps -/

namespace Joins

theorem of_same (joins : Joins state) (same : SameJoins state next) : Joins next where
  notLocked isFinished := by
    rw [same.finished] at isFinished
    exact same.notLocked isFinished (joins.notLocked isFinished)
  working notJoined := by
    rw [same.joined] at notJoined
    rw [same.workThreads, same.workers]
    exact joins.working notJoined
  joiner isFinished notJoined := by
    rw [same.finished] at isFinished
    rw [same.joined] at notJoined
    obtain ⟨caller, index, place⟩ := joins.joiner isFinished notJoined
    exact ⟨caller, index, (same.joining caller index).mpr place⟩
  joining caller index place := by
    obtain ⟨isFinished, notJoined, few, ended⟩ :=
      joins.joining caller index ((same.joining caller index).mp place)
    exact ⟨same.finished.trans isFinished, same.joined.trans notJoined, same.workers ▸ few,
      fun earlier before => same.isJoined (ended earlier before)⟩
  unique caller other index further place otherPlace :=
    joins.unique caller other index further ((same.joining caller index).mp place)
      ((same.joining other further).mp otherPlace)
  ended isJoined := by
    rw [same.joined] at isJoined
    obtain ⟨isFinished, ended⟩ := joins.ended isJoined
    refine ⟨same.finished.trans isFinished, fun index inside => ?_⟩
    exact same.isJoined (ended index (same.workers ▸ inside))

theorem place_of_joined (joins : Joins state) (joined : state.joined = true)
    (outside : state.finisher = none) {index : Nat} {worker : Worker WorkUnit}
    {place : Place WorkUnit} (isPlace : state.WorkerIs index worker place) :
    ∃ stopped, place = .exited stopped := by
  obtain ⟨inside, -⟩ := List.getElem?_eq_some_iff.mp isPlace.found
  obtain ⟨other, stopped, found, isExited⟩ :=
    (joins.ended joined).2 index inside (by simp [outside])
  cases isPlace.found.symm.trans found
  exact ⟨stopped, isPlace.place.symm.trans isExited⟩

variable [DecidableEq Caller] [DecidableEq WorkUnit]
variable {maxThreads : Nat} {action : Action Caller WorkUnit} {caller : Caller}

omit [DecidableEq Caller] [DecidableEq WorkUnit] in
theorem addThread (joins : Joins state) (notFinished : state.finished = false) :
    Joins state.addThread := by
  have open' : ¬state.finished = true := by simp [notFinished]
  refine ⟨joins.notLocked, fun notJoined => ?_, fun isFinished => absurd isFinished open',
    fun caller index place => absurd (joins.joining caller index place).1 open',
    joins.unique, fun isJoined => absurd (joins.ended isJoined).1 open'⟩
  have same := joins.working notJoined
  simp only [State.addThread, List.length_append, List.length_singleton, same]

omit [DecidableEq WorkUnit] in
theorem begin (joins : Joins state) (calls : state.Calls caller)
    (notFinished : state.finished = false) (self : Option Nat) :
    Joins (State.callAt
      (State.workChanged { state with finished := true, finisher := self }) caller
      (.joining 0)) := by
  have open' : ¬state.finished = true := by simp [notFinished]
  have notJoined : state.joined = false := by
    rw [← Bool.not_eq_true]
    exact fun isJoined => open' (joins.ended isJoined).1
  -- no other caller is in `finish`
  have alone : ∀ other index, Function.update state.call caller (.joining 0) other =
      .joining index → other = caller ∧ index = 0 := by
    intro other index place
    obtain ⟨same, isPlace⟩ | ⟨_, old⟩ := update_cases place
    · exact ⟨same, (Call.joining.inj isPlace).symm⟩
    · exact absurd (joins.joining other index old).1 open'
  refine ⟨fun _ => calls.unlocked, fun _ => ?_, fun _ _ => ⟨caller, 0, ?_⟩, ?_, ?_, ?_⟩
  · exact (joins.working notJoined).trans (List.length_map _).symm
  · exact Function.update_self ..
  · intro other index place
    obtain ⟨-, rfl⟩ := alone other index place
    exact ⟨rfl, notJoined, Nat.zero_le _, nofun⟩
  · intro first second index further place furtherPlace
    exact (alone first index place).1.trans (alone second further furtherPlace).1.symm
  · exact fun isJoined => absurd (joins.ended isJoined).1 open'

omit [DecidableEq WorkUnit] in
theorem goesOn {index : Nat} (joins : Joins state) (place : state.call caller = .joining index)
    (inside : index < state.workThreads) (isJoined : state.Joined index) :
    Joins (state.callAt caller (.joining (index + 1))) := by
  obtain ⟨isFinished, notJoined, few, ended⟩ := joins.joining caller index place
  have working := joins.working notJoined
  have alone : ∀ other further,
      Function.update state.call caller (.joining (index + 1)) other = .joining further →
        other = caller ∧ further = index + 1 := by
    intro other further isJoining
    obtain ⟨same, isPlace⟩ | ⟨notSame, old⟩ := update_cases isJoining
    · exact ⟨same, (Call.joining.inj isPlace).symm⟩
    · exact absurd (joins.unique other caller further index old place) notSame
  refine ⟨joins.notLocked, joins.working, fun _ _ => ⟨caller, index + 1, ?_⟩, ?_, ?_, ?_⟩
  · exact Function.update_self ..
  · intro other further isJoining
    obtain ⟨-, rfl⟩ := alone other further isJoining
    refine ⟨isFinished, notJoined, Nat.lt_of_lt_of_eq inside working, fun earlier before => ?_⟩
    have isEnded : state.Joined earlier := by
      obtain before | rfl := Nat.lt_succ_iff_lt_or_eq.mp before
      · exact ended earlier before
      · exact isJoined
    exact fun notSelf => (isEnded notSelf).of_workers rfl
  · intro first second further later isJoining laterJoining
    exact (alone first further isJoining).1.trans (alone second later laterJoining).1.symm
  · exact fun isJoined => absurd (isJoined.symm.trans notJoined) (by decide)

omit [DecidableEq WorkUnit] in
theorem returned {index : Nat} (joins : Joins state)
    (place : state.call caller = .joining index) (all : state.workThreads ≤ index) :
    Joins { state.returns caller .ok with workThreads := 0, joined := true } := by
  obtain ⟨isFinished, notJoined, few, ended⟩ := joins.joining caller index place
  have working := joins.working notJoined
  have nobody : ∀ other further,
      Function.update state.call caller (.idle (some .ok)) other ≠ .joining further := by
    intro other further isJoining
    obtain ⟨_, isPlace⟩ | ⟨notSame, old⟩ := update_cases isJoining
    · cases isPlace
    · exact absurd (joins.unique other caller further index old place) notSame
  refine ⟨joins.notLocked, nofun, fun _ => nofun,
    fun other further isJoining => absurd isJoining (nobody other further),
    fun first _ further _ isJoining => absurd isJoining (nobody first further),
    fun _ => ⟨isFinished, fun earlier inside => ?_⟩⟩
  rw [working] at all
  exact fun notSelf => (ended earlier (Nat.lt_of_lt_of_le inside all) notSelf).of_workers rfl

end Joins

namespace State

variable [DecidableEq Caller] [DecidableEq WorkUnit]
variable {maxThreads : Nat} {action : Action Caller WorkUnit} {caller : Caller}

omit [DecidableEq Caller] [DecidableEq WorkUnit] in
theorem Calls.notJoining (calls : state.Calls caller) (index : Nat) :
    state.call caller ≠ .joining index := by
  obtain ⟨⟨result, place⟩, -⟩ := calls
  rw [place]
  exact nofun

omit [DecidableEq Caller] [DecidableEq WorkUnit] in
theorem Resumes.notJoining {unit : WorkUnit} {limit : Nat}
    (resumes : state.Resumes caller unit limit) (index : Nat) :
    state.call caller ≠ .joining index := by
  rw [resumes.place]
  exact nofun

omit [DecidableEq WorkUnit] in
theorem sameJoins_accept (state : State Caller WorkUnit)
    (wasNot : ∀ index, state.call caller ≠ .joining index) (unit : WorkUnit) :
    SameJoins state (state.accept caller unit) := by
  refine SameJoins.through { state with
    workUnits := state.workUnits ++ [⟨unit, state.accepted.length⟩]
    accepted := state.accepted ++ [unit] } ?_ ((SameJoins.workChanged _).trans ?_)
  · exact .of_eq rfl rfl rfl rfl rfl rfl fun _ => id
  · exact .callAt nofun wasNot

omit [DecidableEq Caller] [DecidableEq WorkUnit] in
theorem sameJoins_discardAll (state : State Caller WorkUnit) :
    SameJoins state state.discardAll := by
  refine SameJoins.through { state with
    canceled := true
    discarded := state.discarded ++ state.workUnits
    workUnits := [] } ?_ ((SameJoins.workChanged _).trans (.workDequeued _))
  exact .of_eq rfl rfl rfl rfl rfl rfl fun _ => id

omit [DecidableEq Caller] [DecidableEq WorkUnit] in
theorem WorkerIs.notExited {index : Nat} {worker : Worker WorkUnit} {place : Place WorkUnit}
    (isPlace : state.WorkerIs index worker place)
    (notExited : ∀ stopped, place ≠ .exited stopped) {replaced : Place WorkUnit}
    (stopped : Bool) (isExited : worker.place = .exited stopped) :
    replaced = .exited stopped :=
  absurd (isPlace.place.symm.trans isExited) (notExited stopped)

/-- Only `finish` changes how far it is, and a thread is added only before. -/
theorem Fires.joins (fires : Fires maxThreads state action next) (joins : Joins state) :
    Joins next := by
  cases fires with
  | answered status _ from' =>
      obtain calls | ⟨unit, limit, resumes⟩ := from'
      · exact joins.of_same (.callAt nofun calls.notJoining)
      · exact joins.of_same (.callAt nofun resumes.notJoining)
  | grown calls isOpen =>
      exact (joins.addThread isOpen.notFinished).of_same
        (sameJoins_accept state.addThread calls.notJoining _)
  | blocked calls => exact joins.of_same (.callAt nofun calls.notJoining)
  | admitted calls => exact joins.of_same (sameJoins_accept state calls.notJoining _)
  | blockedAgain resumes => exact joins.of_same (.callAt nofun resumes.notJoining)
  | admittedAgain resumes => exact joins.of_same (sameJoins_accept state resumes.notJoining _)
  | woken place =>
      refine joins.of_same (.callAt nofun fun index => ?_)
      rw [place]
      exact nofun
  | canceled calls =>
      refine joins.of_same ((sameJoins_discardAll state).trans ?_)
      refine .callAt nofun fun index place => ?_
      exact calls.notJoining index ((sameJoins_discardAll state).joining _ _ |>.mp place)
  | @removed caller unit entry calls =>
      refine joins.of_same (SameJoins.through (state.remove unit entry) ?_ ?_)
      · exact .of_eq rfl rfl rfl rfl rfl rfl fun _ => id
      · exact .callAt nofun calls.notJoining
  | @scanBegun caller unit calls isOpen =>
      refine joins.of_same (SameJoins.through (state.callAt caller (.scanning unit 0))
        (.callAt nofun calls.notJoining) ?_)
      refine .of_eq rfl rfl rfl rfl rfl rfl fun isFinished => ?_
      exact absurd (isFinished.symm.trans isOpen.notFinished) (by decide)
  | passed scans place | hit scans place | unitCanceled scans place =>
      refine joins.of_same (.callAt nofun fun index => ?_)
      rw [place]
      exact nofun
  | crash => exact joins.of_same (.of_eq rfl rfl rfl rfl rfl rfl fun _ => id)
  | @cleared caller index worker scans place found =>
      have moved : SameJoins state
          (state.workerAt index { worker with runningWork := none }) :=
        .workerAt found fun _ => id
      have answered : SameJoins state ((state.workerAt index
          { worker with runningWork := none }).returns caller .ok) :=
        moved.trans (.callAt nofun fun _ isJoining => absurd (place.symm.trans isJoining) nofun)
      exact joins.of_same (answered.trans (.of_eq rfl rfl rfl rfl rfl rfl fun _ _ => rfl))
  | @notFound caller unit index scans place =>
      have woken : SameJoins state state.workChanged.workDequeued :=
        (SameJoins.workChanged state).trans (.workDequeued _)
      have answered : SameJoins state
          (state.workChanged.workDequeued.returns caller .nameNotFound) := by
        refine woken.trans (.callAt nofun fun further isJoining => ?_)
        exact absurd (place.symm.trans ((woken.joining caller further).mp isJoining)) nofun
      exact joins.of_same (answered.trans (.of_eq rfl rfl rfl rfl rfl rfl fun _ _ => rfl))
  | finishBegun calls notFinished => exact joins.begin calls notFinished _
  | joinedThread place inside isJoined => exact joins.goesOn place inside isJoined
  | finishReturned place all => exact joins.returned place all
  | @took index worker entry rest isPlace =>
      refine joins.of_same (SameJoins.through (state.workerAt index
        ⟨.running entry, some entry.unit⟩) ?_ (SameJoins.through (State.workerAt
          { state with
            workUnits := rest
            idleThreads := state.idleThreads - 1
            taken := state.taken ++ [entry] } index ⟨.running entry, some entry.unit⟩)
          ?_ (.workDequeued _)))
      · exact .workerAt isPlace.found (isPlace.notExited nofun)
      · exact .of_eq rfl rfl rfl rfl rfl rfl fun _ => id
  | slept isPlace | left isPlace | roused isPlace | released isPlace | exited isPlace =>
      exact joins.of_same (.workerAt isPlace.found (isPlace.notExited nofun))
  | ran shouldContinue isPlace =>
      exact joins.of_same ((SameJoins.workerAt isPlace.found (isPlace.notExited nofun)).trans
        (.of_eq rfl rfl rfl rfl rfl rfl fun _ => id))
  | continued isPlace | stopped isPlace =>
      exact joins.of_same ((SameJoins.workerAt isPlace.found (isPlace.notExited nofun)).trans
        (.of_eq rfl rfl rfl rfl rfl rfl fun _ => id))
  | @stoppedAll index worker isPlace =>
      have found : state.discardAll.workers[index]? = some worker.notified :=
        (List.getElem?_map).trans (congrArg _ isPlace.found)
      have moved : SameJoins state.discardAll
          (state.discardAll.workerAt index { worker with place := .leaving true }) := by
        refine .workerAt found fun stopped isExited => ?_
        rw [Worker.notified, isPlace.place] at isExited
        exact isPlace.notExited nofun stopped isExited
      exact joins.of_same (((sameJoins_discardAll state).trans moved).trans
        (.of_eq rfl rfl rfl rfl rfl rfl fun _ => id))

theorem joins_of_reachable (reached : (system Caller WorkUnit maxThreads).Reachable state) :
    Joins state := by
  refine reached.invariant ?_ fun state action next _ joins _ stepped => ?_
  · rintro state rfl
    exact ⟨fun _ => rfl, fun _ => rfl, nofun, nofun, nofun, nofun⟩
  · exact (step_fires stepped).1.joins joins

theorem Fires.joined_of (fires : Fires maxThreads state action next)
    (joined : state.joined = true) : next.joined = true := by
  cases fires with
  | finishReturned => rfl
  | _ => exact joined

theorem Fires.finisher_of (fires : Fires maxThreads state action next)
    (isFinished : state.finished = true) : next.finisher = state.finisher := by
  cases fires with
  | finishBegun _ notFinished => exact absurd (isFinished.symm.trans notFinished) (by decide)
  | _ => rfl

/-- After `finish` has returned the units are as they are. -/
theorem Fires.units_eq_of_joined (fires : Fires maxThreads state action next)
    (joins : Joins state) (joined : state.joined = true) (outside : state.finisher = none) :
    next.units = state.units := by
  have isFinished := (joins.ended joined).1
  have closed : ¬state.IsOpen := fun isOpen =>
    absurd (isFinished.symm.trans isOpen.notFinished) (by decide)
  have notScanned : ∀ caller, state.scanner ≠ some caller := by
    intro caller scans
    cases (joins.notLocked isFinished).symm.trans scans
  have ended := fun (index : Nat) (worker : Worker WorkUnit) (place : Place WorkUnit)
    (isPlace : state.WorkerIs index worker place) =>
      joins.place_of_joined joined outside isPlace
  cases fires with
  | answered | blocked | blockedAgain | woken | passed | hit | crash | unitCanceled
  | joinedThread | finishReturned => rfl
  | grown _ isOpen | admitted _ isOpen | admittedAgain _ isOpen | canceled _ isOpen
  | removed _ isOpen | scanBegun _ isOpen => exact absurd isOpen closed
  | cleared scans | notFound scans => exact absurd scans (notScanned _)
  | finishBegun _ notFinished => exact absurd (isFinished.symm.trans notFinished) (by decide)
  | took isPlace | slept isPlace | left isPlace | roused isPlace | ran shouldContinue isPlace
  | released isPlace | continued isPlace | stopped isPlace | stoppedAll isPlace =>
      obtain ⟨stopped, isExited⟩ := ended _ _ _ isPlace
      cases isExited
  | exited isPlace =>
      obtain ⟨stopped, isExited⟩ := ended _ _ _ isPlace
      cases isExited

/-- When `finish` has returned, and was not called by a unit of the queue, all threads have
ended and every unit that a thread took has been run.  If a unit is left in the queue, the last
unit of each thread returned `false`.  No step takes, runs, accepts, removes or discards a unit
any more. -/
theorem finishedAll
    (maxThreads : Nat) (state : State Caller WorkUnit)
    (reached : (system Caller WorkUnit maxThreads).Reachable state)
    (returned : state.joined = true) (outside : state.finisher = none) :
    (∀ worker ∈ state.workers, ∃ stopped, worker.place = .exited stopped) ∧
      state.taken.Perm state.completed ∧
      (state.workUnits = [] ∨ ∀ worker ∈ state.workers, worker.place = .exited true) ∧
      ∀ action next, (system Caller WorkUnit maxThreads).step state action = some next →
        next.joined = true ∧ next.finisher = none ∧ next.units = state.units := by
  have joins := joins_of_reachable reached
  have once := handledOnce_of_reachable reached
  have settled := threadsSettled_of_reachable reached
  have ended : ∀ worker ∈ state.workers, ∃ stopped, worker.place = .exited stopped := by
    intro worker present
    obtain ⟨index, found⟩ := List.mem_iff_getElem?.mp present
    exact joins.place_of_joined returned outside ⟨found, rfl⟩
  refine ⟨ended, ?_, ?_, fun action next stepped => ?_⟩
  · have nothing : state.workers.filterMap Worker.inHand = [] := by
      rw [List.filterMap_eq_nil_iff]
      intro worker present
      obtain ⟨stopped, place⟩ := ended worker present
      rw [Worker.inHand, place]
    have runs := once.runs
    change state.taken.Perm (state.completed ++ state.workers.filterMap Worker.inHand) at runs
    rw [nothing, List.append_nil] at runs
    exact runs
  · by_cases empty : state.workUnits = []
    · exact Or.inl empty
    · refine Or.inr fun worker present => ?_
      have isSettled := settled worker present
      obtain ⟨stopped, place⟩ := ended worker present
      rw [place] at isSettled ⊢
      obtain isCanceled | ⟨-, drained⟩ := isSettled
      · exact absurd (once.stops isCanceled) empty
      · cases stopped with
        | true => rfl
        | false => exact absurd (drained rfl) empty
  · have fires := (step_fires stepped).1
    exact ⟨fires.joined_of returned, (fires.finisher_of (joins.ended returned).1).trans outside,
      fires.units_eq_of_joined joins returned outside⟩

/-- One of the two threads stops after its unit, and the other one runs the last unit. -/
theorem finishedAll_twoThreads :
    ∃ state : State (Fin 1) Nat, state.joined = true ∧ state.workUnits = [] ∧
      state.completed = [⟨7, 0⟩, ⟨8, 1⟩, ⟨9, 2⟩] ∧ state.taken.Perm state.completed := by
  have run : ((system (Fin 1) Nat 2).exec .new [
      .schedule 0 7 2 true, .schedule 0 8 2 true, .schedule 0 9 2 true, .finish 0 none,
      .enter 0, .enter 1, .returnRun 0 false, .release 0, .leave 0, .exit 0, .join 0,
      .returnRun 1 true, .release 1, .leave 1, .enter 1, .returnRun 1 true, .release 1,
      .leave 1, .enter 1,
      .exit 1, .join 0, .join 0]).map (fun state =>
        decide (state.joined = true ∧ state.finisher = none ∧ state.workUnits = [] ∧
          state.completed = [⟨7, 0⟩, ⟨8, 1⟩, ⟨9, 2⟩])) = some true := by
    decide
  obtain ⟨state, -, reached, isEnd⟩ := Machine.exists_reachable_of_exec rfl run
  obtain ⟨joined, outside, empty, completed⟩ := of_decide_eq_true isEnd
  exact ⟨state, joined, empty, completed, (finishedAll 2 state reached joined outside).2.1⟩

-- a unit that calls `finish` is not waited for, nor are the units behind it
example : ((system (Fin 1) Nat 1).exec .new [
    .schedule 0 7 2 true, .enter 0, .schedule 0 8 2 true, .finish 0 (some 0), .join 0,
    .join 0]).map (fun state => (state.call 0, state.completed, state.workUnits)) =
      some (.idle (some .ok), [], [⟨8, 1⟩]) := by
  decide

end State

/-! ## `finish` returns -/

/-- How many steps a thread at a place needs to end, without further units. -/
def Place.remaining : Place WorkUnit → Nat
  | .exited _ => 0
  | .leaving _ => 1
  | .entering => 2
  | .asleep | .released _ => 3
  | .returned _ _ => 4
  | .running _ => 5

/-- How many threads `finish` has to join before it returns. -/
def Call.remaining (workers : Nat) : Call WorkUnit → Nat
  | .joining index => workers + 1 - index
  | _ => 0

namespace State

/-- How many steps are left until a caller that is in `finish` returns, at most. -/
def remaining (state : State Caller WorkUnit) (caller : Caller) : Nat :=
  4 * state.workUnits.length + (state.workers.map fun worker => worker.place.remaining).sum +
    (state.call caller).remaining state.workers.length

variable [DecidableEq Caller] [DecidableEq WorkUnit]
variable {maxThreads : Nat} {action : Action Caller WorkUnit} {caller : Caller}

omit [DecidableEq Caller] [DecidableEq WorkUnit] in
/-- A thread is at another place, and the queue may be shorter. -/
theorem remaining_workerAt {index : Nat} {worker replaced : Worker WorkUnit}
    {place : Place WorkUnit} (isPlace : state.WorkerIs index worker place)
    (workers : next.workers = state.workers.set index replaced)
    (call : (next.call caller).remaining next.workers.length =
      (state.call caller).remaining state.workers.length)
    (less : 4 * next.workUnits.length + replaced.place.remaining <
      4 * state.workUnits.length + place.remaining) :
    next.remaining caller < state.remaining caller := by
  have sums := sum_map_set_add isPlace.found replaced fun worker => worker.place.remaining
  rw [remaining, remaining, call, workers]
  rw [isPlace.place] at sums
  omega

omit [DecidableEq Caller] [DecidableEq WorkUnit] in
theorem remaining_eq (workUnits : next.workUnits = state.workUnits)
    (workers : next.workers = state.workers)
    (call : next.call caller = state.call caller) :
    next.remaining caller = state.remaining caller := by
  rw [remaining, remaining, workUnits, workers, call]

/-- What a step does to a caller that is in `finish`. -/
structure ComesCloser (state : State Caller WorkUnit) (caller : Caller)
    (action : Action Caller WorkUnit) (next : State Caller WorkUnit) : Prop where
  bounded : next.remaining caller ≤ state.remaining caller
  closer : action.isWork = true → next.remaining caller < state.remaining caller
  goesOn : (∃ index, next.call caller = .joining index) ∨
    next.joined = true ∧ next.call caller = .idle (some .ok)

omit [DecidableEq WorkUnit] in
/-- Another caller goes elsewhere. -/
theorem comesCloser_callAt {other : Caller} {elsewhere : Call WorkUnit} {index : Nat}
    (place : state.call caller = .joining index) (notSame : caller ≠ other)
    (notWork : action.isWork = false) :
    ComesCloser state caller action (state.callAt other elsewhere) := by
  have stays : (state.callAt other elsewhere).call caller = state.call caller :=
    Function.update_of_ne notSame ..
  refine ⟨Nat.le_of_eq (remaining_eq rfl rfl stays), fun isWork => ?_,
    Or.inl ⟨index, stays.trans place⟩⟩
  exact absurd (notWork.symm.trans isWork) (by decide)

omit [DecidableEq Caller] [DecidableEq WorkUnit] in
/-- A thread gets closer to its end. -/
theorem comesCloser_workerAt {index further : Nat} {worker replaced : Worker WorkUnit}
    {isAt : Place WorkUnit} (place : state.call caller = .joining index)
    (isPlace : state.WorkerIs further worker isAt)
    (workers : next.workers = state.workers.set further replaced)
    (call : next.call = state.call) (workUnits : next.workUnits = state.workUnits)
    (less : replaced.place.remaining < isAt.remaining) :
    ComesCloser state caller action next := by
  have closer : next.remaining caller < state.remaining caller := by
    refine remaining_workerAt isPlace workers ?_ ?_
    · rw [call, workers, List.length_set]
    · rw [workUnits]
      exact Nat.add_lt_add_left less _
  exact ⟨Nat.le_of_lt closer, fun _ => closer, Or.inl ⟨index, call ▸ place⟩⟩

theorem Fires.comesCloser (fires : Fires maxThreads state action next) (joins : Joins state)
    (settled : ThreadsSettled state) {index : Nat} (place : state.call caller = .joining index) :
    ComesCloser state caller action next := by
  obtain ⟨isFinished, notJoined, few, ended⟩ := joins.joining caller index place
  have closed : ¬state.IsOpen := fun isOpen =>
    absurd (isFinished.symm.trans isOpen.notFinished) (by decide)
  have notScanned : ∀ caller, state.scanner ≠ some caller := by
    intro caller scans
    cases (joins.notLocked isFinished).symm.trans scans
  cases fires with
  | @answered action other status notWork from' =>
      refine comesCloser_callAt place ?_ notWork
      rintro rfl
      obtain calls | ⟨unit, limit, resumes⟩ := from'
      · exact calls.notJoining index place
      · exact resumes.notJoining index place
  | @woken other unit limit isWaiting =>
      refine comesCloser_callAt place ?_ rfl
      rintro rfl
      cases place.symm.trans isWaiting
  | @joinedThread action other further isJoining inside isJoined =>
      obtain rfl := joins.unique caller other index further place isJoining
      cases place.symm.trans isJoining
      have moved : (state.callAt caller (.joining (index + 1))).call caller =
          .joining (index + 1) := Function.update_self ..
      have working := joins.working notJoined
      have less : (state.callAt caller (.joining (index + 1))).remaining caller <
          state.remaining caller := by
        rw [remaining, remaining, moved, place, Call.remaining, Call.remaining]
        simp only [callAt]
        omega
      exact ⟨Nat.le_of_lt less, fun _ => less, Or.inl ⟨index + 1, moved⟩⟩
  | @finishReturned action other further isJoining all =>
      obtain rfl := joins.unique caller other index further place isJoining
      have moved : (state.returns caller .ok).call caller = .idle (some .ok) :=
        Function.update_self ..
      have less : State.remaining
          { state.returns caller .ok with workThreads := 0, joined := true } caller <
          state.remaining caller := by
        rw [remaining, remaining, moved, place]
        simp only [returns, callAt, Call.remaining]
        omega
      exact ⟨Nat.le_of_lt less, fun _ => less, Or.inr ⟨rfl, moved⟩⟩
  | grown _ isOpen | admitted _ isOpen | admittedAgain _ isOpen | canceled _ isOpen
  | removed _ isOpen | scanBegun _ isOpen | blocked _ isOpen | blockedAgain _ isOpen =>
      exact absurd isOpen closed
  | cleared scans | notFound scans | passed scans | hit scans | crash scans
  | unitCanceled scans => exact absurd scans (notScanned _)
  | finishBegun _ notFinished => exact absurd (isFinished.symm.trans notFinished) (by decide)
  | slept _ _ isOpen | stoppedAll _ _ isOpen => exact absurd isOpen closed
  | roused isPlace =>
      have isSettled := settled _ (List.mem_of_getElem? isPlace.found)
      rw [isPlace.place] at isSettled
      exact absurd isSettled.1 closed
  | @took further worker entry rest isPlace notLocked notCanceled isQueue =>
      have stays : (state.take further entry rest).call caller = .joining index := by
        change (state.call caller).notified = .joining index
        rw [place]
        rfl
      have less : (state.take further entry rest).remaining caller <
          state.remaining caller := by
        refine remaining_workerAt isPlace rfl ?_ ?_
        · rw [stays, place]
          exact congrArg (Call.remaining · (.joining index)) List.length_set
        · rw [isQueue]
          simp only [take, workerAt, workDequeued, Place.remaining, List.length_cons]
          omega
      exact ⟨Nat.le_of_lt less, fun _ => less, Or.inl ⟨index, stays⟩⟩
  | left isPlace | ran shouldContinue isPlace | released isPlace | continued isPlace
  | stopped isPlace | exited isPlace =>
      refine comesCloser_workerAt place isPlace rfl rfl rfl ?_
      simp [Place.remaining]

theorem joined_exec {actions : List (Action Caller WorkUnit)} (joined : state.joined = true)
    (executed : (system Caller WorkUnit maxThreads).exec state actions = some last) :
    last.joined = true := by
  induction actions generalizing state with
  | nil =>
      rw [Machine.exec_nil, Option.some_inj] at executed
      exact executed ▸ joined
  | cons action rest ih =>
      rw [Machine.exec_cons, Option.bind_eq_some_iff] at executed
      obtain ⟨next, stepped, executed⟩ := executed
      exact ih ((step_fires stepped).1.joined_of joined) executed

theorem Fires.crashed_of (fires : Fires maxThreads state action next)
    (joins : Joins state) (notCrashed : state.crashed = false)
    (isFinished : next.finished = true) : next.crashed = false := by
  cases fires with
  | crash scans =>
      cases (joins.notLocked isFinished).symm.trans scans
  | _ => exact notCrashed

theorem notCrashed_of_reachable
    (reached : (system Caller WorkUnit maxThreads).Reachable state)
    (isFinished : state.finished = true) : state.crashed = false := by
  cases reached with
  | initial start =>
      cases start
      rfl
  | step before _ stepped =>
      obtain ⟨fires, notCrashed⟩ := step_fires stepped
      exact fires.crashed_of (joins_of_reachable before) notCrashed isFinished

/-- A thread that has not ended can go on, and if all have ended `finish` can. -/
theorem exists_work (joins : Joins state) (settled : ThreadsSettled state) {index : Nat}
    (place : state.call caller = .joining index) (notCrashed : state.crashed = false) :
    ∃ action, action.isWork = true ∧ (state.step maxThreads action).isSome = true := by
  obtain ⟨isFinished, notJoined, -, -⟩ := joins.joining caller index place
  have unlocked : state.unlocked = true := by
    rw [State.unlocked, joins.notLocked isFinished]
    rfl
  by_cases allEnded : ∀ further < state.workers.length, state.Joined further
  · by_cases inside : index < state.workThreads
    · refine ⟨.join caller, rfl, ?_⟩
      by_cases isSelf : state.finisher = some index
      · simp [step, notCrashed, place, join, inside, isSelf]
      · obtain ⟨worker, stopped, found, isExited⟩ :=
          allEnded index (joins.working notJoined ▸ inside) isSelf
        simp [step, notCrashed, place, join, inside, isSelf, found, isExited]
    · refine ⟨.join caller, rfl, ?_⟩
      simp [step, notCrashed, place, join, inside]
  · simp only [not_forall, Joined] at allEnded
    obtain ⟨further, inside, notSelf, goesOn⟩ := allEnded
    have found : state.workers[further]? = some state.workers[further] :=
      List.getElem?_eq_getElem inside
    have isSettled := settled _ (List.mem_of_getElem? found)
    generalize state.workers[further] = worker at found isSettled
    cases isPlace : worker.place with
    | entering =>
        refine ⟨.enter further, rfl, ?_⟩
        simp [step, notCrashed, found, work, isPlace, unlocked]
    | asleep =>
        rw [isPlace] at isSettled
        exact absurd (isFinished.symm.trans isSettled.1.notFinished) (by decide)
    | running entry =>
        refine ⟨.returnRun further true, rfl, ?_⟩
        simp [step, notCrashed, found, work, isPlace, inFinish, notSelf]
    | returned entry shouldContinue =>
        refine ⟨.release further, rfl, ?_⟩
        simp [step, notCrashed, found, work, isPlace]
    | released shouldContinue =>
        refine ⟨.leave further, rfl, ?_⟩
        simp [step, notCrashed, found, work, isPlace, unlocked]
    | leaving stopped =>
        refine ⟨.exit further, rfl, ?_⟩
        simp [step, notCrashed, found, work, isPlace]
    | exited stopped => exact absurd ⟨worker, stopped, found, isPlace⟩ goesOn

/-- Each step of a thread or of `finish` is counted, until `finish` returns. -/
theorem remaining_exec (reached : (system Caller WorkUnit maxThreads).Reachable state)
    {index : Nat} (place : state.call caller = .joining index)
    {actions : List (Action Caller WorkUnit)}
    (executed : (system Caller WorkUnit maxThreads).exec state actions = some last) :
    last.joined = true ∨ (∃ further, last.call caller = .joining further) ∧
      actions.countP Action.isWork + last.remaining caller ≤ state.remaining caller := by
  induction actions generalizing state index with
  | nil =>
      rw [Machine.exec_nil, Option.some_inj] at executed
      subst executed
      exact Or.inr ⟨⟨index, place⟩, Nat.le_of_eq (Nat.zero_add _)⟩
  | cons action rest ih =>
      rw [Machine.exec_cons, Option.bind_eq_some_iff] at executed
      obtain ⟨next, stepped, executed⟩ := executed
      have nextReached : (system Caller WorkUnit maxThreads).Reachable next :=
        .step reached trivial stepped
      have closer := (step_fires stepped).1.comesCloser (joins_of_reachable reached)
        (threadsSettled_of_reachable reached) place
      obtain ⟨further, goesOn⟩ | ⟨joined, -⟩ := closer.goesOn
      · refine (ih nextReached goesOn executed).imp_right fun ⟨stays, counted⟩ => ⟨stays, ?_⟩
        have bounded := closer.bounded
        rw [List.countP_cons]
        split
        · have less := closer.closer (by assumption)
          omega
        · omega
      · exact Or.inl (joined_exec joined executed)

/-- While a caller is in `finish`, a thread can go on or `finish` can.  In any run from there,
`finish` has returned, or the caller is still in it and fewer of these steps were taken than
`remaining` says. -/
theorem finishReturns
    (maxThreads : Nat) (state : State Caller WorkUnit)
    (reached : (system Caller WorkUnit maxThreads).Reachable state)
    (caller : Caller) (index : Nat) (place : state.call caller = .joining index) :
    (∃ action, action.isWork = true ∧
      ((system Caller WorkUnit maxThreads).step state action).isSome = true) ∧
      ∀ actions last, (system Caller WorkUnit maxThreads).exec state actions = some last →
        last.joined = true ∨ (∃ further, last.call caller = .joining further) ∧
          actions.countP Action.isWork < state.remaining caller := by
  have joins := joins_of_reachable reached
  have settled := threadsSettled_of_reachable reached
  have isFinished := (joins.joining caller index place).1
  refine ⟨exists_work joins settled place (notCrashed_of_reachable reached isFinished), ?_⟩
  intro actions last executed
  refine (remaining_exec reached place executed).imp_right fun ⟨stays, counted⟩ => ⟨stays, ?_⟩
  obtain ⟨further, stays⟩ := stays
  have lastReached := Machine.ReachableUnder.exec reached (fun _ _ _ => trivial) executed
  have few := ((joins_of_reachable lastReached).joining caller further stays).2.2.1
  have left : 0 < last.remaining caller := by
    rw [remaining, stays, Call.remaining]
    omega
  omega

/-- A thread runs its last unit while a caller is in `finish`: seven steps are left. -/
theorem finishReturns_runningUnit :
    ∃ state : State (Fin 2) Nat, state.call 1 = .joining 0 ∧ state.remaining 1 = 7 ∧
      ∀ actions last, (system (Fin 2) Nat 1).exec state actions = some last →
        last.joined = true ∨ (∃ further, last.call 1 = .joining further) ∧
          actions.countP Action.isWork < state.remaining 1 := by
  have run : ((system (Fin 2) Nat 1).exec .new [
      .schedule 0 7 2 true, .enter 0, .finish 1 none]).map (fun state =>
        decide (state.call 1 = .joining 0 ∧ state.remaining 1 = 7)) = some true := by
    decide
  obtain ⟨state, -, reached, isEnd⟩ := Machine.exists_reachable_of_exec rfl run
  obtain ⟨place, left⟩ := of_decide_eq_true isEnd
  exact ⟨state, place, left, (finishReturns 1 state reached 1 0 place).2⟩

end State
end WorkQueue
end Skplat
