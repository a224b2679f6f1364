import Skplat.WorkQueue.Order

/-!
# Threads that work while there is work

`mIdleThreads` counts the threads without a unit, and a thread is created whenever the queue
would get longer than this count.  So the queue is longer only when all `mMaxThreads` threads
exist, and `schedule` blocks only then, unless the product that it compares with is too large
for a `size_t`.  A thread sleeps only while the queue is empty.
-/

namespace Skplat
namespace WorkQueue

variable {Caller WorkUnit : Type}

/-- The unit and the limit with which `schedule` waits or is woken. -/
def Call.limit : Call WorkUnit → Option Nat
  | .waiting _ limit => some limit
  | .resuming _ limit => some limit
  | _ => none

/-- The count of idle threads is right, there are at most `maxThreads` threads, and units wait
and `schedule` blocks only if all of them exist. -/
structure Staffed (maxThreads : Nat) (state : State Caller WorkUnit) : Prop where
  idle : state.idleThreads = state.workers.countP Worker.isIdle
  bounded : state.workers.length ≤ maxThreads
  served : state.workUnits.length ≤ state.idleThreads ∨ state.workers.length = maxThreads
  blocked : ∀ caller, (state.call caller).limit ≠ none → state.workers.length = maxThreads
  /-- `mWorkThreads` holds all threads until `finish` has returned. -/
  held : state.finished = false → state.workThreads = state.workers.length
  joining : ∀ caller index, state.call caller = .joining index → state.finished = true

/-- The limit of `schedule` fits in a `size_t`. -/
def LimitFits (maxThreads : Nat) (_ : State Caller WorkUnit) : Action Caller WorkUnit → Prop
  | .schedule _ _ backlog _ => maxThreads * backlog < 2 ^ 64
  | _ => True

instance (maxThreads : Nat) (state : State Caller WorkUnit) :
    DecidablePred (LimitFits maxThreads state)
  | .schedule _ _ backlog _ => inferInstanceAs (Decidable (maxThreads * backlog < 2 ^ 64))
  | .resume _ | .wake _ | .cancelAll _ | .cancel _ _ | .scan _ | .finish _ _ | .join _
  | .enter _ | .rouse _ | .returnRun _ _ | .release _ | .leave _ | .exit _ => isTrue trivial

/-- A thread sleeps only while it has nothing to do, and leaves only after `finish` or a
cancellation, with the queue empty unless the last unit asked for it. -/
def State.Settled (state : State Caller WorkUnit) : Place WorkUnit → Prop
  | .asleep => state.IsOpen ∧ state.workUnits = []
  | .leaving stopped | .exited stopped =>
      state.canceled = true ∨
        state.finished = true ∧ (stopped = false → state.workUnits = [])
  | _ => True

/-- All threads are at a place where they may be. -/
def ThreadsSettled (state : State Caller WorkUnit) : Prop :=
  ∀ worker ∈ state.workers, state.Settled worker.place

/-! ## Steps -/

@[simp] theorem isIdle_notified (worker : Worker WorkUnit) :
    worker.notified.isIdle = worker.isIdle := by
  obtain ⟨place, work⟩ := worker
  cases place <;> rfl

theorem countP_isIdle_notified (workers : List (Worker WorkUnit)) :
    (workers.map Worker.notified).countP Worker.isIdle = workers.countP Worker.isIdle := by
  rw [List.countP_map]
  exact List.countP_congr fun worker _ => by simp

theorem limit_notified (call : Call WorkUnit) : call.notified.limit = call.limit := by
  cases call <;> rfl

theorem notified_eq_joining {call : Call WorkUnit} {index : Nat}
    (place : call.notified = .joining index) : call = .joining index := by
  cases call with
  | waiting _ _ => cases place
  | _ => exact place

theorem notified_ne_asleep (worker : Worker WorkUnit) : worker.notified.place ≠ .asleep := by
  obtain ⟨place, work⟩ := worker
  cases place <;> exact nofun

theorem countP_isIdle_set {workers : List (Worker WorkUnit)} {index : Nat}
    {worker replaced : Worker WorkUnit} (found : workers[index]? = some worker)
    (same : replaced.isIdle = worker.isIdle) :
    (workers.set index replaced).countP Worker.isIdle =
      workers.countP Worker.isIdle := by
  have counted := countP_set_add found replaced Worker.isIdle
  rw [same] at counted
  exact Nat.add_right_cancel counted

theorem State.WorkerIs.isIdle {state : State Caller WorkUnit} {index : Nat}
    {worker : Worker WorkUnit} {place : Place WorkUnit}
    (isPlace : state.WorkerIs index worker place) :
    worker.isIdle = (⟨place, none⟩ : Worker WorkUnit).isIdle := by
  rw [Worker.isIdle, isPlace.place, Worker.isIdle]

variable [DecidableEq Caller] [DecidableEq WorkUnit]
variable {maxThreads : Nat} {state next : State Caller WorkUnit}
variable {action : Action Caller WorkUnit} {caller : Caller}

namespace Staffed

/-- A step that changes no number but the length of the queue, which does not grow, and after
which no caller waits that did not wait before. -/
structure SameNumbers (state next : State Caller WorkUnit) : Prop where
  idleThreads : next.idleThreads = state.idleThreads
  workThreads : next.workThreads = state.workThreads
  workers : next.workers.length = state.workers.length
  idle : next.workers.countP Worker.isIdle = state.workers.countP Worker.isIdle
  workUnits : next.workUnits.length ≤ state.workUnits.length
  finished : next.finished = state.finished
  waits : ∀ caller, (next.call caller).limit = (state.call caller).limit
  joins : ∀ caller index, next.call caller = .joining index →
    state.call caller = .joining index

omit [DecidableEq Caller] [DecidableEq WorkUnit] in
theorem of_same (staffed : Staffed maxThreads state) (same : SameNumbers state next) :
    Staffed maxThreads next where
  idle := by
    rw [same.idleThreads, same.idle]
    exact staffed.idle
  bounded := by
    rw [same.workers]
    exact staffed.bounded
  served := by
    rw [same.idleThreads, same.workers]
    exact staffed.served.imp_left (Nat.le_trans same.workUnits)
  blocked caller waits := by
    rw [same.waits caller] at waits
    rw [same.workers]
    exact staffed.blocked caller waits
  held notFinished := by
    rw [same.finished] at notFinished
    rw [same.workThreads, same.workers]
    exact staffed.held notFinished
  joining caller index place := by
    rw [same.finished]
    exact staffed.joining caller index (same.joins caller index place)

omit [DecidableEq Caller] [DecidableEq WorkUnit] in
/-- All threads and callers that sleep are woken, and the queue may be cleared. -/
theorem sameNumbers_notified {workUnits : List (Entry WorkUnit)} {canceled : Bool}
    {discarded : List (Entry WorkUnit)}
    (fewer : workUnits.length ≤ state.workUnits.length) :
    SameNumbers state (State.workDequeued (State.workChanged { state with
      canceled := canceled
      discarded := discarded
      workUnits := workUnits })) where
  idleThreads := rfl
  workThreads := rfl
  workers := List.length_map _
  idle := countP_isIdle_notified _
  workUnits := fewer
  finished := rfl
  waits _ := limit_notified _
  joins _ _ place := notified_eq_joining place

omit [DecidableEq Caller] [DecidableEq WorkUnit] in
/-- A thread is at another place that is counted alike. -/
theorem sameNumbers_workerAt {index : Nat} {worker replaced : Worker WorkUnit}
    (found : state.workers[index]? = some worker)
    (same : replaced.isIdle = worker.isIdle) :
    SameNumbers state (state.workerAt index replaced) where
  idleThreads := rfl
  workThreads := rfl
  workers := List.length_set
  idle := countP_isIdle_set found same
  workUnits := Nat.le_refl _
  finished := rfl
  waits _ := rfl
  joins _ _ place := place

omit [DecidableEq WorkUnit] in
/-- A caller is at another place. -/
theorem callAt (staffed : Staffed maxThreads state) (place : Call WorkUnit)
    (waits : place.limit ≠ none → state.workers.length = maxThreads)
    (joins : ∀ index, place = .joining index → state.finished = true) :
    Staffed maxThreads (state.callAt caller place) where
  idle := staffed.idle
  bounded := staffed.bounded
  served := staffed.served
  held := staffed.held
  blocked other waiting := by
    change (Function.update state.call caller place other).limit ≠ none at waiting
    by_cases same : other = caller
    · rw [same, Function.update_self] at waiting
      exact waits waiting
    · rw [Function.update_of_ne same] at waiting
      exact staffed.blocked other waiting
  joining other index isJoining := by
    obtain ⟨_, isPlace⟩ | ⟨_, old⟩ := update_cases isJoining
    · exact joins index isPlace
    · exact staffed.joining other index old

omit [DecidableEq WorkUnit] in
theorem returns (staffed : Staffed maxThreads state) (status : Status) :
    Staffed maxThreads (state.returns caller status) :=
  staffed.callAt _ (fun waits => absurd rfl waits) (fun _ => nofun)

omit [DecidableEq Caller] [DecidableEq WorkUnit] in
theorem unlock (staffed : Staffed maxThreads state) :
    Staffed maxThreads { state with scanner := none } :=
  ⟨staffed.idle, staffed.bounded, staffed.served, staffed.blocked, staffed.held,
    staffed.joining⟩

omit [DecidableEq WorkUnit] in
/-- A unit is added, for which there is an idle thread, or all threads exist. -/
theorem accept (staffed : Staffed maxThreads state) (unit : WorkUnit)
    (room : state.workUnits.length < state.idleThreads ∨
      state.workers.length = maxThreads) :
    Staffed maxThreads (state.accept caller unit) := by
  suffices queued : Staffed maxThreads (State.workChanged { state with
      workUnits := state.workUnits ++ [⟨unit, state.accepted.length⟩]
      accepted := state.accepted ++ [unit] }) from queued.returns .ok
  exact {
    idle := staffed.idle.trans (countP_isIdle_notified _).symm
    bounded := Nat.le_trans (Nat.le_of_eq (List.length_map _)) staffed.bounded
    served := by
      refine room.imp (fun fits => ?_) (List.length_map _).trans
      exact Nat.le_trans (Nat.le_of_eq List.length_append) fits
    blocked := fun caller waits => (List.length_map _).trans (staffed.blocked caller waits)
    held := fun notFinished =>
      (staffed.held notFinished).trans (List.length_map _).symm
    joining := staffed.joining }

omit [DecidableEq Caller] [DecidableEq WorkUnit] in
/-- A thread is created because the queue would be longer than the count of idle threads. -/
theorem addThread (staffed : Staffed maxThreads state) (grows : state.Grows maxThreads)
    (notFinished : state.finished = false) :
    Staffed maxThreads state.addThread ∧
      state.addThread.workUnits.length < state.addThread.idleThreads := by
  have held := staffed.held notFinished
  have room := grows.1
  have served := staffed.served
  refine ⟨⟨?_, ?_, ?_, ?_, ?_, staffed.joining⟩, ?_⟩
  · simp only [State.addThread, List.countP_append, staffed.idle]
    rfl
  · simp only [State.addThread, List.length_append, List.length_singleton]
    omega
  · refine Or.inl ?_
    simp only [State.addThread]
    omega
  · intro caller waits
    have all := staffed.blocked caller waits
    omega
  · intro _
    simp only [State.addThread, List.length_append, List.length_singleton, held]
  · simp only [State.addThread]
    omega

omit [DecidableEq Caller] [DecidableEq WorkUnit] in
/-- A thread returns from a unit, and is counted as idle again. -/
theorem idleAgain (staffed : Staffed maxThreads state) {index : Nat}
    {worker replaced : Worker WorkUnit} (found : state.workers[index]? = some worker)
    (busy : worker.isIdle = false) (idle : replaced.isIdle = true) :
    Staffed maxThreads (State.workerAt { state with idleThreads := state.idleThreads + 1 }
      index replaced) where
  idle := by
    have counted := countP_set_add found replaced Worker.isIdle
    rw [busy, idle] at counted
    exact (congrArg (· + 1) staffed.idle).trans counted.symm
  bounded := Nat.le_trans (Nat.le_of_eq List.length_set) staffed.bounded
  served := by
    refine staffed.served.imp (fun fits => ?_) List.length_set.trans
    exact Nat.le_succ_of_le fits
  blocked caller waits := List.length_set.trans (staffed.blocked caller waits)
  held notFinished := (staffed.held notFinished).trans List.length_set.symm
  joining := staffed.joining

omit [DecidableEq Caller] [DecidableEq WorkUnit] in
theorem take (staffed : Staffed maxThreads state) {index : Nat} {worker : Worker WorkUnit}
    {entry : Entry WorkUnit} {rest : List (Entry WorkUnit)}
    (found : state.workers[index]? = some worker) (idle : worker.isIdle = true)
    (isQueue : state.workUnits = entry :: rest) :
    Staffed maxThreads (state.take index entry rest) where
  idle := by
    have counted := countP_set_add found ⟨.running entry, some entry.unit⟩ Worker.isIdle
    have isIdle := staffed.idle
    rw [idle] at counted
    simp only [State.take, State.workerAt, State.workDequeued]
    simp only [Worker.isIdle, Bool.toNat_true, Bool.toNat_false] at counted isIdle ⊢
    omega
  bounded := Nat.le_trans (Nat.le_of_eq List.length_set) staffed.bounded
  served := by
    have served := staffed.served
    rw [isQueue, List.length_cons] at served
    refine served.imp (fun fits => ?_) List.length_set.trans
    exact Nat.le_sub_one_of_lt fits
  blocked caller waits := by
    refine List.length_set.trans (staffed.blocked caller ?_)
    rw [← limit_notified]
    exact waits
  held notFinished := (staffed.held notFinished).trans List.length_set.symm
  joining caller index place := staffed.joining caller index (notified_eq_joining place)

theorem step (staffed : Staffed maxThreads state)
    (fires : State.Fires maxThreads state action next)
    (fits : LimitFits maxThreads state action) : Staffed maxThreads next := by
  cases fires with
  | answered status => exact staffed.returns status
  | grown calls isOpen grows =>
      obtain ⟨added, room⟩ := staffed.addThread grows isOpen.notFinished
      exact added.accept _ (Or.inl room)
  | @blocked caller unit backlog started calls isOpen full backlogs long =>
      refine staffed.callAt _ (fun _ => ?_) (fun _ => nofun)
      -- with an idle thread for each unit more, there are more than `maxThreads` units
      have idle := staffed.idle
      have few := List.countP_le_length (p := Worker.isIdle) (l := state.workers)
      have held := staffed.held isOpen.notFinished
      have bounded := staffed.bounded
      have times : maxThreads * 1 ≤ maxThreads * backlog :=
        Nat.mul_le_mul_left maxThreads (Nat.one_le_iff_ne_zero.mpr backlogs)
      rw [State.limitOf, Nat.mod_eq_of_lt fits] at long
      rw [State.Grows] at full
      omega
  | admitted calls isOpen full =>
      refine staffed.accept _ ?_
      have held := staffed.held isOpen.notFinished
      have bounded := staffed.bounded
      rw [State.Grows] at full
      omega
  | @blockedAgain action caller unit limit resumes isOpen long =>
      refine staffed.callAt _ (fun _ => staffed.blocked caller ?_) (fun _ => nofun)
      rw [resumes.place]
      exact nofun
  | @admittedAgain action caller unit limit resumes isOpen short =>
      refine staffed.accept _ (Or.inr (staffed.blocked caller ?_))
      rw [resumes.place]
      exact nofun
  | @woken caller unit limit place =>
      refine staffed.callAt _ (fun _ => staffed.blocked caller ?_) (fun _ => nofun)
      rw [place]
      exact nofun
  | canceled =>
      exact (staffed.of_same (sameNumbers_notified (Nat.zero_le _))).returns .ok
  | removed calls isOpen found =>
      obtain ⟨before, after, isQueue, erased⟩ := exists_append_of_find? found
      refine returns (staffed.of_same ?_) .ok
      refine ⟨rfl, rfl, rfl, rfl, ?_, rfl, fun _ => rfl, fun _ _ place => place⟩
      exact List.length_eraseP_le
  | @scanBegun caller unit =>
      have moved : Staffed maxThreads (state.callAt caller (.scanning unit 0)) :=
        staffed.callAt _ (fun waits => absurd rfl waits) (fun _ => nofun)
      exact ⟨moved.idle, moved.bounded, moved.served, moved.blocked, moved.held,
        moved.joining⟩
  | passed | hit | unitCanceled =>
      exact staffed.callAt _ (fun waits => absurd rfl waits) (fun _ => nofun)
  | crash => exact ⟨staffed.idle, staffed.bounded, staffed.served, staffed.blocked,
      staffed.held, staffed.joining⟩
  | @cleared caller index worker scans place found =>
      have returned : Staffed maxThreads
          ((state.workerAt index { worker with runningWork := none }).returns caller .ok) := by
        refine returns (staffed.of_same (sameNumbers_workerAt found ?_)) .ok
        rfl
      exact returned.unlock
  | @notFound caller =>
      have returned : Staffed maxThreads
          (state.workChanged.workDequeued.returns caller .nameNotFound) :=
        (staffed.of_same (sameNumbers_notified (Nat.le_refl _))).returns .nameNotFound
      exact returned.unlock
  | @finishBegun action caller self =>
      suffices marked : Staffed maxThreads
          (State.workChanged { state with finished := true, finisher := self }) from
        marked.callAt _ (fun waits => absurd rfl waits) (fun _ _ => rfl)
      exact {
        idle := staffed.idle.trans (countP_isIdle_notified _).symm
        bounded := Nat.le_trans (Nat.le_of_eq (List.length_map _)) staffed.bounded
        served := staffed.served.imp_right (List.length_map _).trans
        blocked := fun caller waits => (List.length_map _).trans (staffed.blocked caller waits)
        held := nofun
        joining := fun _ _ _ => rfl }
  | @joinedThread action caller index place =>
      exact staffed.callAt _ (fun waits => absurd rfl waits)
        (fun _ _ => staffed.joining caller index place)
  | @finishReturned action caller index place =>
      have returned : Staffed maxThreads (state.returns caller .ok) := staffed.returns .ok
      refine ⟨returned.idle, returned.bounded, returned.served, returned.blocked,
        fun notFinished => ?_, returned.joining⟩
      have isFinished := staffed.joining caller index place
      exact absurd (isFinished.symm.trans notFinished) (by decide)
  | took isPlace notLocked notCanceled isQueue =>
      exact staffed.take isPlace.found isPlace.isIdle isQueue
  | slept isPlace | left isPlace | roused isPlace | released isPlace | exited isPlace =>
      exact staffed.of_same (sameNumbers_workerAt isPlace.found isPlace.isIdle.symm)
  | @ran index worker entry shouldContinue isPlace =>
      have moved : Staffed maxThreads
          (state.workerAt index { worker with place := .returned entry shouldContinue }) :=
        staffed.of_same (sameNumbers_workerAt isPlace.found isPlace.isIdle.symm)
      exact ⟨moved.idle, moved.bounded, moved.served, moved.blocked, moved.held,
        moved.joining⟩
  | continued isPlace | stopped isPlace =>
      exact staffed.idleAgain isPlace.found isPlace.isIdle rfl
  | @stoppedAll index worker isPlace =>
      have discarded : Staffed maxThreads state.discardAll :=
        staffed.of_same (sameNumbers_notified (Nat.zero_le _))
      have found : state.discardAll.workers[index]? = some worker.notified :=
        (List.getElem?_map).trans (congrArg _ isPlace.found)
      exact discarded.idleAgain found ((isIdle_notified worker).trans isPlace.isIdle) rfl

end Staffed

/-! ## Where the threads are -/

namespace State

omit [DecidableEq Caller] [DecidableEq WorkUnit]

/-- A thread that does not sleep may stay where it is if nothing is opened again. -/
theorem Settled.mono {place : Place WorkUnit} (settled : state.Settled place)
    (awake : place ≠ .asleep) (canceled : state.canceled = true → next.canceled = true)
    (finished : state.finished = true → next.finished = true)
    (empty : state.finished = true → state.workUnits = [] → next.workUnits = []) :
    next.Settled place := by
  cases place with
  | asleep => exact absurd rfl awake
  | entering | running | returned | released => trivial
  | leaving stopped | exited stopped =>
      refine settled.imp canceled fun ⟨isFinished, isEmpty⟩ => ?_
      exact ⟨finished isFinished, fun notStopped => empty isFinished (isEmpty notStopped)⟩

/-- The flags and the queue are the same. -/
theorem Settled.of_eq {place : Place WorkUnit} (settled : state.Settled place)
    (canceled : next.canceled = state.canceled) (finished : next.finished = state.finished)
    (workUnits : next.workUnits = state.workUnits) : next.Settled place := by
  cases place with
  | asleep =>
      obtain ⟨isOpen, empty⟩ := settled
      exact ⟨⟨finished.trans isOpen.notFinished, canceled.trans isOpen.notCanceled⟩,
        workUnits.trans empty⟩
  | _ => exact settled.mono nofun (canceled ▸ id) (finished ▸ id) (fun _ => workUnits ▸ id)

end State

namespace ThreadsSettled

omit [DecidableEq Caller] [DecidableEq WorkUnit]

/-- The threads are where they were, and flags and queue are the same. -/
theorem of_eq (settled : ThreadsSettled state) (workers : next.workers = state.workers)
    (canceled : next.canceled = state.canceled) (finished : next.finished = state.finished)
    (workUnits : next.workUnits = state.workUnits) : ThreadsSettled next := by
  intro worker present
  rw [workers] at present
  exact (settled worker present).of_eq canceled finished workUnits

/-- One thread is at another place where it may be. -/
theorem set (settled : ThreadsSettled state) {index : Nat} {replaced : Worker WorkUnit}
    (workers : next.workers = state.workers.set index replaced)
    (isSettled : next.Settled replaced.place)
    (canceled : next.canceled = state.canceled) (finished : next.finished = state.finished)
    (workUnits : next.workUnits = state.workUnits) : ThreadsSettled next := by
  intro worker present
  rw [workers] at present
  obtain wasPresent | rfl := List.mem_or_eq_of_mem_set present
  · exact (settled worker wasPresent).of_eq canceled finished workUnits
  · exact isSettled

/-- All threads are woken, and nothing is opened again. -/
theorem notified (settled : ThreadsSettled state)
    (workers : next.workers = state.workers.map Worker.notified)
    (canceled : state.canceled = true → next.canceled = true)
    (finished : state.finished = true → next.finished = true)
    (empty : state.finished = true → state.workUnits = [] → next.workUnits = []) :
    ThreadsSettled next := by
  intro worker present
  rw [workers] at present
  obtain ⟨old, wasPresent, rfl⟩ := List.mem_map.mp present
  refine State.Settled.mono ?_ (notified_ne_asleep old) canceled finished empty
  have wasSettled := settled old wasPresent
  obtain ⟨place, work⟩ := old
  cases place <;> first | exact wasSettled | trivial

theorem addThread (settled : ThreadsSettled state) : ThreadsSettled state.addThread := by
  intro worker present
  obtain old | new := List.mem_append.mp present
  · exact (settled worker old).of_eq rfl rfl rfl
  · rw [List.mem_singleton.mp new]
    trivial

variable [DecidableEq Caller] [DecidableEq WorkUnit]

omit [DecidableEq WorkUnit] in
theorem accept (settled : ThreadsSettled state) (notFinished : state.finished = false)
    (unit : WorkUnit) : ThreadsSettled (state.accept caller unit) := by
  refine settled.notified rfl id id fun isFinished => ?_
  exact absurd (isFinished.symm.trans notFinished) (by decide)

theorem step (settled : ThreadsSettled state)
    (fires : State.Fires maxThreads state action next) : ThreadsSettled next := by
  cases fires with
  | answered | blocked | blockedAgain | woken | scanBegun | passed | hit | crash
  | unitCanceled | joinedThread | finishReturned => exact settled.of_eq rfl rfl rfl rfl
  | grown calls isOpen => exact settled.addThread.accept isOpen.notFinished _
  | admitted calls isOpen => exact settled.accept isOpen.notFinished _
  | admittedAgain resumes isOpen => exact settled.accept isOpen.notFinished _
  | canceled => exact settled.notified rfl (fun _ => rfl) id fun _ _ => rfl
  | removed calls isOpen found =>
      intro worker present
      have old := settled worker present
      refine old.mono (fun asleep => ?_) id id fun isFinished => ?_
      · rw [asleep] at old
        rw [old.2] at found
        cases found
      · exact absurd (isFinished.symm.trans isOpen.notFinished) (by decide)
  | cleared scans place found =>
      have old := settled _ (List.mem_of_getElem? found)
      exact settled.set rfl (old.of_eq rfl rfl rfl) rfl rfl rfl
  | notFound => exact settled.notified rfl id id fun _ => id
  | finishBegun => exact settled.notified rfl id (fun _ => rfl) fun _ => id
  | @took index worker entry rest isPlace notLocked notCanceled isQueue =>
      intro other present
      obtain wasPresent | rfl := List.mem_or_eq_of_mem_set present
      · have old := settled other wasPresent
        refine old.mono (fun asleep => ?_) id id fun _ empty => ?_
        · rw [asleep] at old
          rw [old.2] at isQueue
          cases isQueue
        · rw [empty] at isQueue
          cases isQueue
      · trivial
  | slept isPlace notLocked isOpen empty =>
      exact settled.set rfl ⟨⟨isOpen.notFinished, isOpen.notCanceled⟩, empty⟩ rfl rfl rfl
  | left isPlace notLocked closed =>
      refine settled.set rfl ?_ rfl rfl rfl
      exact closed.imp_right fun ⟨isFinished, empty⟩ => ⟨isFinished, fun _ => empty⟩
  | roused isPlace | ran shouldContinue isPlace | released isPlace | continued isPlace =>
      exact settled.set rfl trivial rfl rfl rfl
  | stopped isPlace notLocked closed =>
      refine settled.set rfl ?_ rfl rfl rfl
      by_cases isCanceled : state.canceled = true
      · exact Or.inl isCanceled
      · rw [Bool.not_eq_true] at isCanceled
        by_cases isFinished : state.finished = true
        · exact Or.inr ⟨isFinished, nofun⟩
        · exact absurd ⟨by simpa using isFinished, isCanceled⟩ closed
  | stoppedAll isPlace =>
      have discarded : ThreadsSettled state.discardAll :=
        settled.notified rfl (fun _ => rfl) id fun _ _ => rfl
      exact discarded.set rfl (Or.inl rfl) rfl rfl rfl
  | exited isPlace =>
      have old := settled _ (List.mem_of_getElem? isPlace.found)
      rw [isPlace.place] at old
      exact settled.set rfl old rfl rfl rfl

end ThreadsSettled

/-! ## Runs -/

namespace State

theorem staffed_of_reachable
    (reached : (system Caller WorkUnit maxThreads).ReachableUnder (LimitFits maxThreads) state) :
    Staffed maxThreads state := by
  refine reached.invariant ?_ fun state action next _ staffed fits stepped =>
    staffed.step (step_fires stepped).1 fits
  rintro state rfl
  refine ⟨rfl, Nat.zero_le _, Or.inl (Nat.le_refl 0), ?_, fun _ => rfl, nofun⟩
  exact fun _ waits => absurd rfl waits

theorem threadsSettled_of_reachable
    (reached : (system Caller WorkUnit maxThreads).Reachable state) : ThreadsSettled state := by
  refine reached.invariant ?_ fun state action next _ settled _ stepped =>
    settled.step (step_fires stepped).1
  rintro state rfl
  exact nofun

/-- If `mMaxThreads * backlog` fits in a `size_t` in every call, then in every reached state
`mIdleThreads` counts the threads without a unit, at most `maxThreads` threads exist, and
`schedule` waits only if all do.  While units are accepted and some wait, one of the threads
can take the first one or goes to it, or all `maxThreads` threads have a unit. -/
theorem workServed
    (maxThreads : Nat) (state : State Caller WorkUnit)
    (reached : (system Caller WorkUnit maxThreads).ReachableUnder (LimitFits maxThreads) state) :
    Staffed maxThreads state ∧ ThreadsSettled state ∧
      (state.IsOpen → state.workUnits ≠ [] →
        (∃ index worker, state.WorkerIs index worker .entering) ∨
          (state.workers.length = maxThreads ∧
            ∀ worker ∈ state.workers, worker.isIdle = false)) := by
  have staffed := staffed_of_reachable reached
  have settled := threadsSettled_of_reachable reached.reachable
  refine ⟨staffed, settled, fun isOpen isQueue => ?_⟩
  by_cases someIdle : ∃ worker ∈ state.workers, worker.isIdle = true
  · refine Or.inl ?_
    obtain ⟨worker, present, isIdle⟩ := someIdle
    obtain ⟨index, found⟩ := List.mem_iff_getElem?.mp present
    refine ⟨index, worker, found, ?_⟩
    have isSettled := settled worker present
    have stays : ¬(state.canceled = true ∨ state.finished = true) := by
      simp [isOpen.notCanceled, isOpen.notFinished]
    obtain ⟨place, work⟩ := worker
    cases place with
    | entering => rfl
    | asleep => exact absurd isSettled.2 isQueue
    | running | returned | released => cases isIdle
    | leaving stopped | exited stopped => exact absurd (isSettled.imp_right And.left) stays
  · have noneIdle : ∀ worker ∈ state.workers, worker.isIdle = false := by
      simpa using someIdle
    refine Or.inr ⟨?_, noneIdle⟩
    have nobody : state.idleThreads = 0 := by
      rw [staffed.idle, List.countP_eq_zero]
      intro worker present
      rw [noneIdle worker present]
      decide
    obtain fits | all := staffed.served
    · rw [nobody, Nat.le_zero, List.length_eq_zero_iff] at fits
      exact absurd fits isQueue
    · exact all

/-- The only thread has a unit, two more wait, and `schedule` waits with a fourth one. -/
theorem workServed_oneThread :
    ∃ state : State Unit Nat, Staffed 1 state ∧ state.workUnits ≠ [] ∧
      state.call () = .waiting 10 2 := by
  have run : ((system Unit Nat 1).execUnder (LimitFits 1) .new [
      .schedule () 7 2 true, .enter 0, .schedule () 8 2 true, .schedule () 9 2 true,
      .schedule () 10 2 true]).map (fun state =>
        decide (state.workUnits ≠ [] ∧ state.call () = .waiting 10 2)) = some true := by
    decide
  obtain ⟨state, reached, isEnd⟩ := Machine.ReachableUnder.exists_of_execUnder
    (.initial rfl) run
  exact ⟨state, (workServed 1 state reached).1, of_decide_eq_true isEnd⟩

-- the product of 2 and 2^63 is 0: `schedule` waits with one thread of two and an empty queue
example : ((system Unit Nat 2).exec .new [
    .schedule () 7 1 true, .enter 0, .returnRun 0 true, .release 0, .leave 0,
    .schedule () 8 (2 ^ 63) true]).map (fun state =>
      (state.call (), state.workers.length)) = some (.waiting 8 0, 1) := by
  decide

end State
end WorkQueue
end Skplat
