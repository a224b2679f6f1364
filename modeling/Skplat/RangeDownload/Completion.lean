import Skplat.Data.Counting
import Skplat.RangeDownload.Manager

/-!
# The completion protocol of a range manager

Two things break the protocol.  A thread whose part file cannot be opened returns
without a callback.  And `setFailed` comes before `onFailed` takes the mutex, so
`recoverFailedTask`, which holds the mutex, may join a thread that waits for it.
-/

namespace Skplat
namespace RangeManager

variable {n : Nat}

/-- The run is in progress: its callback has not got the mutex. -/
def Pc.inProgress : Pc n → Bool
  | .working | .completing | .failing => true
  | _ => false

/-- The thread is in `recoverFailedTask`. -/
def Pc.holds : Pc n → Bool
  | .testing _ | .joining _ => true
  | _ => false

/-- The range is done, and that was reported. -/
def Worker.reportedDone (worker : Worker n) : Bool :=
  decide (worker.state = .rangeDone ∧ worker.pc ≠ .completing)

/-- The range is failed and not restarted, and that was reported. -/
def Worker.reportedFailed (worker : Worker n) : Bool :=
  decide (worker.state = .rangeFailed ∧ worker.pc ≠ .failing)

namespace Manager

/-- What the protocol promises. -/
structure Protocol (manager : Manager n) : Prop where
  /-- Every run is in progress or was followed by one callback. -/
  answered : ∀ k, (manager.workers k).calls + (manager.workers k).pc.inProgress.toNat =
    (manager.workers k).runs
  completeCount : manager.completeCount = count Worker.reportedDone manager.workers
  failedCount : manager.mutex = none →
    manager.failedCount = count Worker.reportedFailed manager.workers
  /-- `wait4Complete` returns `OK` only if every range is done. -/
  returned : manager.returned = some true →
    ∀ k, (manager.workers k).state = .rangeDone
  /-- A thread that is joined under the mutex needs the mutex no more. -/
  joins : ∀ k i, (manager.workers k).pc = .joining i →
    (manager.workers i).pc = .returning ∨ (manager.workers i).pc = .notRunning

/-- Every part file can be opened, and `recoverFailedTask` does not come upon a
downloader between its `setFailed` and its `onFailed`. -/
def Careful (manager : Manager n) : Action n → Prop
  | .finish _ outcome => outcome ≠ .unopened
  | .test k => ∀ i : Fin n, (manager.workers k).pc = .testing i →
      (manager.workers i).pc ≠ .failing
  | _ => True

instance (manager : Manager n) : DecidablePred manager.Careful := fun action =>
  match action with
  | .finish _ _ => inferInstanceAs (Decidable (_ ≠ _))
  | .test k => inferInstanceAs (Decidable (∀ i : Fin n,
      (manager.workers k).pc = .testing i → (manager.workers i).pc ≠ .failing))
  | .start | .lock _ | .joined _ | .exit _ | .wait4Complete _ =>
      inferInstanceAs (Decidable True)

end Manager

/-! ## The invariant -/

/-- The state of the range fits to the place of the thread. -/
def Worker.Consistent (worker : Worker n) : Prop :=
  match worker.pc with
  | .notRunning | .returning => True
  | .working => worker.state = .rangeInit
  | .completing | .testing _ | .joining _ => worker.state = .rangeDone
  | .failing => worker.state = .rangeFailed

namespace Pc

variable {pc : Pc n}

theorem inProgress_of_holds (holds : pc.holds = true) : pc.inProgress = false := by
  cases pc with
  | testing i | joining i => rfl
  | notRunning | working | completing | failing | returning => cases holds

end Pc

namespace Worker

variable {worker : Worker n}

/-- A thread in `recoverFailedTask` has completed its range. -/
theorem consistent_of_holds (holds : worker.pc.holds = true) :
    worker.Consistent ↔ worker.state = .rangeDone := by
  unfold Consistent
  cases place : worker.pc with
  | testing i | joining i => exact Iff.rfl
  | notRunning | working | completing | failing | returning =>
      simp [place, Pc.holds] at holds

theorem reportedDone_of_holds
    (holds : worker.pc.holds = true)
    (isDone : worker.state = .rangeDone) :
    worker.reportedDone = true := by
  have reported : worker.pc ≠ .completing := by
    intro place
    simp [place, Pc.holds] at holds
  simp [reportedDone, isDone, reported]

theorem reportedFailed_of_ne (notFailed : worker.state ≠ .rangeFailed) :
    worker.reportedFailed = false := by
  simp [reportedFailed, notFailed]

end Worker

namespace Manager

/-- What holds between the steps. -/
structure Inv (manager : Manager n) : Prop where
  consistent : ∀ k, (manager.workers k).Consistent
  answered : ∀ k, (manager.workers k).calls + (manager.workers k).pc.inProgress.toNat =
    (manager.workers k).runs
  started : ∀ k : Fin n, manager.started ≤ k → manager.workers k = .new
  mutex : ∀ k, (manager.workers k).pc.holds = true ↔ manager.mutex = some k
  completeCount : manager.completeCount = count Worker.reportedDone manager.workers
  failedCount : manager.mutex = none →
    manager.failedCount = count Worker.reportedFailed manager.workers
  /-- The loop of `recoverFailedTask` has left no reported failure behind. -/
  testing : ∀ k i, (manager.workers k).pc = .testing i →
    ∀ j : Fin n, (manager.workers j).reportedFailed = true → i ≤ j
  joining : ∀ k i, (manager.workers k).pc = .joining i →
    ∀ j : Fin n, (manager.workers j).reportedFailed = true → i < j
  joins : ∀ k i, (manager.workers k).pc = .joining i →
    i < manager.started ∧ (manager.workers i).state = .rangeInit ∧
      ((manager.workers i).pc = .returning ∨ (manager.workers i).pc = .notRunning)
  returned : manager.returned = some true →
    ∀ k, (manager.workers k).state = .rangeDone

variable {manager next : Manager n}

theorem Inv.protocol (inv : manager.Inv) : manager.Protocol where
  answered := inv.answered
  completeCount := inv.completeCount
  failedCount := inv.failedCount
  returned := inv.returned
  joins := fun k i joining => (inv.joins k i joining).2.2

theorem inv_new : (new : Manager n).Inv where
  consistent := fun _ => trivial
  answered := fun _ => rfl
  started := fun _ _ => rfl
  mutex := by simp [new, Worker.new, Pc.holds]
  completeCount := (count_eq_zero fun _ => rfl).symm
  failedCount := fun _ => (count_eq_zero fun _ => rfl).symm
  testing := by simp [new, Worker.new]
  joining := by simp [new, Worker.new]
  joins := by simp [new, Worker.new]
  returned := by simp [new]

@[simp] theorem setWorker_self (k : Fin n) (worker : Worker n) :
    (manager.setWorker k worker).workers k = worker := by
  simp only [setWorker, Function.update_self]

theorem setWorker_of_ne
    {j k : Fin n} (differs : j ≠ k) (worker : Worker n) :
    (manager.setWorker k worker).workers j = manager.workers j := by
  simp only [setWorker, Function.update_of_ne differs]

/-- A property of all downloaders after one was replaced. -/
theorem forall_setWorker
    (property : Fin n → Worker n → Prop)
    {k : Fin n} {worker : Worker n}
    (others : ∀ j, property j (manager.workers j))
    (replaced : property k worker) :
    ∀ j, property j ((manager.setWorker k worker).workers j) :=
  (Function.forall_update_iff manager.workers property).mpr
    ⟨replaced, fun j _ => others j⟩

namespace Inv

/-- Only one thread is in `recoverFailedTask`. -/
theorem eq_of_holds
    (inv : manager.Inv)
    {j k : Fin n}
    (holder : manager.mutex = some k)
    (holds : (manager.workers j).pc.holds = true) :
    j = k := by
  have same := (inv.mutex j).mp holds
  rw [holder] at same
  exact (Option.some.inj same).symm

/-- A downloader whose range is not initial was started. -/
theorem began_of_ne
    (inv : manager.Inv)
    {k : Fin n}
    (used : manager.workers k ≠ .new) :
    k < manager.started := by
  by_contra notYet
  exact used (inv.started k (Nat.le_of_not_lt notYet))

/-- Only a downloader that is done gets to `recoverFailedTask`. -/
theorem isDone_of_holds
    (inv : manager.Inv)
    {k : Fin n}
    (held : (manager.workers k).pc.holds = true) :
    (manager.workers k).state = .rangeDone :=
  (Worker.consistent_of_holds held).mp (inv.consistent k)

theorem began_of_holds
    (inv : manager.Inv)
    {k : Fin n}
    (held : (manager.workers k).pc.holds = true) :
    k < manager.started := by
  apply inv.began_of_ne
  intro isNew
  rw [isNew] at held
  cases held

/-- The downloaders that were not started are still new. -/
theorem started_setWorker
    (inv : manager.Inv)
    {k : Fin n} {worker : Worker n}
    (began : k < manager.started) :
    ∀ j : Fin n, manager.started ≤ j →
      (manager.setWorker k worker).workers j = .new := by
  intro j notYet
  have differs : j ≠ k := by
    rintro rfl
    exact absurd began (Nat.not_lt.mpr notYet)
  rw [setWorker_of_ne differs]
  exact inv.started j notYet

/-- A thread outside of `recoverFailedTask` moves on, and its range is counted as
before. -/
theorem replace
    (inv : manager.Inv)
    {k : Fin n} {worker : Worker n}
    (began : k < manager.started)
    (consistent : worker.Consistent)
    (answered : worker.calls + worker.pc.inProgress.toNat = worker.runs)
    (outside : (manager.workers k).pc.holds = false)
    (stays : worker.pc.holds = false)
    (sameDone : worker.reportedDone = (manager.workers k).reportedDone)
    (sameFailed : worker.reportedFailed = (manager.workers k).reportedFailed ∨
      (manager.mutex ≠ none ∧ worker.reportedFailed = false))
    (joined : ∀ other, (manager.workers other).pc = .joining k →
      worker.state = .rangeInit ∧ (worker.pc = .returning ∨ worker.pc = .notRunning))
    (done : (manager.workers k).state = .rangeDone → worker.state = .rangeDone) :
    (manager.setWorker k worker).Inv := by
  have origin : ∀ j, ((manager.setWorker k worker).workers j).pc.holds = true →
      (manager.setWorker k worker).workers j = manager.workers j := by
    intro j holds
    by_cases same : j = k
    · subst same
      rw [setWorker_self, stays] at holds
      cases holds
    · exact setWorker_of_ne same worker
  have failedBefore : ∀ j,
      ((manager.setWorker k worker).workers j).reportedFailed = true →
      (manager.workers j).reportedFailed = true := by
    intro j failed
    by_cases same : j = k
    · subst same
      rw [setWorker_self] at failed
      rcases sameFailed with same | ⟨-, never⟩
      · exact same ▸ failed
      · rw [never] at failed
        cases failed
    · rw [setWorker_of_ne same] at failed
      exact failed
  refine
    { consistent := forall_setWorker (fun _ => Worker.Consistent) inv.consistent
        consistent
      answered := forall_setWorker
        (fun _ w => w.calls + w.pc.inProgress.toNat = w.runs)
        inv.answered answered
      started := inv.started_setWorker began
      mutex := forall_setWorker
        (fun j w => w.pc.holds = true ↔ manager.mutex = some j)
        inv.mutex (by rw [stays, ← outside]; exact inv.mutex k)
      completeCount := inv.completeCount.trans (count_update_same sameDone).symm
      failedCount := ?_
      testing := ?_
      joining := ?_
      joins := ?_
      returned := fun isOk => forall_setWorker
        (fun _ w => w.state = .rangeDone)
        (inv.returned isOk) (done (inv.returned isOk k)) }
  · intro free
    rcases sameFailed with same | ⟨held, -⟩
    · exact (inv.failedCount free).trans (count_update_same same).symm
    · exact absurd free held
  · intro j i testing other failed
    rw [origin j (by rw [testing]; rfl)] at testing
    exact inv.testing j i testing other (failedBefore other failed)
  · intro j i joining other failed
    rw [origin j (by rw [joining]; rfl)] at joining
    exact inv.joining j i joining other (failedBefore other failed)
  · intro j i joining
    rw [origin j (by rw [joining]; rfl)] at joining
    obtain ⟨early, state, place⟩ := inv.joins j i joining
    by_cases same : i = k
    · subst same
      rw [setWorker_self]
      exact ⟨early, joined j joining⟩
    · rw [setWorker_of_ne same]
      exact ⟨early, state, place⟩

/-- The thread in `recoverFailedTask` moves on. -/
theorem advance
    (inv : manager.Inv)
    {k : Fin n} {pc : Pc n}
    (holder : manager.mutex = some k)
    (holds : pc.holds = true)
    (testing : ∀ i, pc = .testing i →
      ∀ j : Fin n, (manager.workers j).reportedFailed = true → i ≤ j)
    (joining : ∀ i, pc = .joining i →
      i < manager.started ∧ (manager.workers i).state = .rangeInit ∧
        ((manager.workers i).pc = .returning ∨ (manager.workers i).pc = .notRunning) ∧
        ∀ j : Fin n, (manager.workers j).reportedFailed = true → i < j) :
    (manager.setWorker k ((manager.workers k).goto pc)).Inv := by
  have held : (manager.workers k).pc.holds = true := (inv.mutex k).mpr holder
  have isDone := inv.isDone_of_holds held
  have moves : ((manager.workers k).goto pc).pc.holds = true := holds
  have notFailed : (manager.workers k).state ≠ .rangeFailed := by simp [isDone]
  have failedBefore : ∀ j,
      ((manager.setWorker k ((manager.workers k).goto pc)).workers j).reportedFailed =
        (manager.workers j).reportedFailed := by
    intro j
    by_cases same : j = k
    · subst same
      rw [setWorker_self, Worker.reportedFailed_of_ne notFailed]
      exact Worker.reportedFailed_of_ne notFailed
    · rw [setWorker_of_ne same]
  have mover : ∀ j, ((manager.setWorker k ((manager.workers k).goto pc)).workers
      j).pc.holds = true → j = k := by
    intro j others
    by_contra differs
    rw [setWorker_of_ne differs] at others
    exact differs (inv.eq_of_holds holder others)
  refine
    { consistent := forall_setWorker (fun _ => Worker.Consistent) inv.consistent
        ((Worker.consistent_of_holds moves).mpr isDone)
      answered := forall_setWorker
        (fun _ w => w.calls + w.pc.inProgress.toNat = w.runs) inv.answered ?_
      started := inv.started_setWorker (inv.began_of_holds held)
      mutex := forall_setWorker
        (fun j w => w.pc.holds = true ↔ manager.mutex = some j) inv.mutex
        (iff_of_true moves holder)
      completeCount := ?_
      failedCount := ?_
      testing := ?_
      joining := ?_
      joins := ?_
      returned := fun isOk => forall_setWorker (fun _ w => w.state = .rangeDone)
        (inv.returned isOk) isDone }
  · have answered := inv.answered k
    rw [Pc.inProgress_of_holds held] at answered
    rw [Pc.inProgress_of_holds moves]
    exact answered
  · apply inv.completeCount.trans (count_update_same _).symm
    rw [Worker.reportedDone_of_holds held isDone]
    exact Worker.reportedDone_of_holds moves isDone
  · intro free
    exact absurd (holder.symm.trans free) (by simp)
  · intro j i place other failed
    obtain rfl := mover j (by rw [place]; rfl)
    rw [setWorker_self] at place
    rw [failedBefore] at failed
    exact testing i place other failed
  · intro j i place other failed
    obtain rfl := mover j (by rw [place]; rfl)
    rw [setWorker_self] at place
    rw [failedBefore] at failed
    exact (joining i place).2.2.2 other failed
  · intro j i place
    obtain rfl := mover j (by rw [place]; rfl)
    rw [setWorker_self] at place
    obtain ⟨early, state, resting, -⟩ := joining i place
    have differs : i ≠ j := by
      rintro rfl
      rw [isDone] at state
      cases state
    rw [setWorker_of_ne differs]
    exact ⟨early, state, resting⟩

/-! ### The steps -/

theorem start
    (inv : manager.Inv)
    (stepped : manager.step .start = some next) :
    next.Inv := by
  simp only [step, Option.dite_none_right_eq_some, Option.some.injEq] at stepped
  obtain ⟨inside, rfl⟩ := stepped
  generalize atEnd : (⟨manager.started, inside⟩ : Fin n) = k
  have index : (k : Nat) = manager.started := by rw [← atEnd]
  have isNew : manager.workers k = .new := inv.started k index.symm.le
  have begun : { manager with started := manager.started + 1 }.Inv :=
    { inv with
      started := fun j later => inv.started j (Nat.le_of_succ_le later)
      joins := fun j i joining =>
        have before := inv.joins j i joining
        ⟨Nat.lt_succ_of_lt before.1, before.2⟩ }
  refine begun.replace (k := k) ?_ ?_ ?_ ?_ rfl ?_ (Or.inl ?_) ?_ ?_
  · exact Nat.lt_succ_of_le index.le
  · simp [Worker.Consistent, Worker.run, isNew, Worker.new]
  · simp [Worker.run, isNew, Worker.new, Pc.inProgress]
  · simp [isNew, Worker.new, Pc.holds]
  · simp [Worker.reportedDone, Worker.run, isNew, Worker.new]
  · simp [Worker.reportedFailed, Worker.run, isNew, Worker.new]
  · intro other joining
    have before := (inv.joins other k joining).1
    omega
  · exact id

theorem finish
    {k : Fin n} {outcome : Outcome}
    (inv : manager.Inv)
    (opened : outcome ≠ .unopened)
    (stepped : manager.step (.finish k outcome) = some next) :
    next.Inv := by
  simp only [step, Option.ite_none_right_eq_some, Option.some.injEq] at stepped
  obtain ⟨working, rfl⟩ := stepped
  have used : manager.workers k ≠ .new := by
    intro isNew
    rw [isNew] at working
    cases working
  have initial : (manager.workers k).state = .rangeInit := by
    simpa [Worker.Consistent, working] using inv.consistent k
  have answered := inv.answered k
  have notJoined : ∀ other, (manager.workers other).pc ≠ .joining k := by
    intro other joining
    have resting := (inv.joins other k joining).2.2
    rw [working] at resting
    rcases resting with returning | notRunning
    · cases returning
    · cases notRunning
  rw [working] at answered
  have outside : (manager.workers k).pc.holds = false := by rw [working]; rfl
  cases outcome with
  | unopened => exact absurd rfl opened
  | succeeded | failed =>
      exact inv.replace (inv.began_of_ne used) rfl answered outside rfl
        (by simp [Worker.reportedDone, Worker.finish, initial])
        (Or.inl (by simp [Worker.reportedFailed, Worker.finish, initial]))
        (fun other joining => absurd joining (notJoined other))
        (by simp [initial])

theorem exit
    {k : Fin n}
    (inv : manager.Inv)
    (stepped : manager.step (.exit k) = some next) :
    next.Inv := by
  simp only [step, Option.ite_none_right_eq_some, Option.some.injEq] at stepped
  obtain ⟨returning, rfl⟩ := stepped
  have used : manager.workers k ≠ .new := by
    intro isNew
    rw [isNew] at returning
    cases returning
  have answered := inv.answered k
  rw [returning] at answered
  refine inv.replace (inv.began_of_ne used) trivial answered ?_ rfl ?_ (Or.inl ?_) ?_ id
  · rw [returning]
    rfl
  · simp [Worker.reportedDone, Worker.goto, returning]
  · simp [Worker.reportedFailed, Worker.goto, returning]
  · intro other joining
    exact ⟨(inv.joins other k joining).2.1, Or.inr rfl⟩

/-- A callback that gets the mutex.  It releases it, or goes on to
`recoverFailedTask`. -/
theorem call
    (inv : manager.Inv)
    {k : Fin n} {pc : Pc n} {completeCount failedCount : Nat} {mutex : Option (Fin n)}
    (free : manager.mutex = none)
    (waiting : (manager.workers k).pc.inProgress = true)
    (going : pc = .returning ∨ pc = .testing 0)
    (consistent : ((manager.workers k).call pc).Consistent)
    (completed : completeCount + (manager.workers k).reportedDone.toNat =
      manager.completeCount + ((manager.workers k).call pc).reportedDone.toNat)
    (failed : pc = .returning →
      failedCount + (manager.workers k).reportedFailed.toNat =
        manager.failedCount + ((manager.workers k).call pc).reportedFailed.toNat)
    (taken : mutex = if pc.holds then some k else none) :
    { manager.setWorker k ((manager.workers k).call pc) with
      completeCount := completeCount
      failedCount := failedCount
      mutex := mutex }.Inv := by
  have nobody : ∀ j, (manager.workers j).pc.holds = false := by
    intro j
    by_contra holds
    have held := (inv.mutex j).mp (by simpa using holds)
    simp [free] at held
  have used : manager.workers k ≠ .new := by
    intro isNew
    simp [isNew, Worker.new, Pc.inProgress] at waiting
  have holder : ∀ j, ((manager.setWorker k ((manager.workers k).call pc)).workers
      j).pc.holds = true → j = k ∧ pc.holds = true := by
    intro j holds
    by_cases same : j = k
    · subst same
      rw [setWorker_self] at holds
      exact ⟨rfl, holds⟩
    · rw [setWorker_of_ne same, nobody] at holds
      cases holds
  have noJoin : ∀ j i, ((manager.setWorker k ((manager.workers k).call pc)).workers
      j).pc ≠ .joining i := by
    intro j i joining
    obtain ⟨rfl, -⟩ := holder j (by rw [joining]; rfl)
    rw [setWorker_self] at joining
    rcases going with rfl | rfl <;> cases joining
  have counted := count_update Worker.reportedDone manager.workers k
    ((manager.workers k).call pc)
  have answered := inv.answered k
  rw [waiting] at answered
  refine
    { consistent := forall_setWorker (fun _ => Worker.Consistent) inv.consistent
        consistent
      answered := forall_setWorker
        (fun _ w => w.calls + w.pc.inProgress.toNat = w.runs) inv.answered ?_
      started := inv.started_setWorker (inv.began_of_ne used)
      mutex := ?_
      completeCount := ?_
      failedCount := ?_
      testing := ?_
      joining := ?_
      joins := ?_
      returned := fun isOk => forall_setWorker (fun _ w => w.state = .rangeDone)
        (inv.returned isOk) (inv.returned isOk k) }
  · rcases going with rfl | rfl <;> exact answered
  · intro j
    constructor
    · intro holds
      obtain ⟨rfl, isHolding⟩ := holder j holds
      rw [taken, if_pos isHolding]
    · intro held
      dsimp only at held
      rw [taken] at held
      split at held
      · rename_i isHolding
        cases held
        rw [setWorker_self]
        exact isHolding
      · cases held
  · have total := inv.completeCount
    dsimp only [setWorker] at counted ⊢
    omega
  · intro released
    have returning : pc = .returning := by
      rcases going with returning | testing
      · exact returning
      · subst testing
        rw [taken] at released
        cases released
    have tally := count_update Worker.reportedFailed manager.workers k
      ((manager.workers k).call pc)
    have total := inv.failedCount free
    have added := failed returning
    dsimp only [setWorker] at tally ⊢
    omega
  · intro j i testing other _
    have place : ((manager.setWorker k ((manager.workers k).call pc)).workers j).pc =
      .testing i := testing
    obtain ⟨rfl, -⟩ := holder j (by rw [place]; rfl)
    rw [setWorker_self] at place
    rcases going with rfl | rfl
    · cases place
    · cases place
      exact Nat.zero_le _
  · exact fun j i joining => absurd joining (noJoin j i)
  · exact fun j i joining => absurd joining (noJoin j i)

theorem onComplete
    {k : Fin n}
    (inv : manager.Inv)
    (free : manager.mutex = none)
    (completing : (manager.workers k).pc = .completing) :
    (manager.onComplete k).Inv := by
  have isDone : (manager.workers k).state = .rangeDone := by
    simpa [Worker.Consistent, completing] using inv.consistent k
  have waiting : (manager.workers k).pc.inProgress = true := by rw [completing]; rfl
  unfold Manager.onComplete
  dsimp only
  split
  · refine inv.call free waiting (Or.inr rfl) isDone ?_ (fun returning => ?_) rfl
    · simp [Worker.reportedDone, Worker.call, completing, isDone, setWorker]
    · cases returning
  · refine inv.call free waiting (Or.inl rfl) trivial ?_ (fun _ => ?_) free
    · simp [Worker.reportedDone, Worker.call, completing, isDone]
    · simp [Worker.reportedFailed, Worker.call, isDone]

theorem onFailed
    {k : Fin n}
    (inv : manager.Inv)
    (free : manager.mutex = none)
    (failing : (manager.workers k).pc = .failing) :
    (manager.onFailed k).Inv := by
  have isFailed : (manager.workers k).state = .rangeFailed := by
    simpa [Worker.Consistent, failing] using inv.consistent k
  have waiting : (manager.workers k).pc.inProgress = true := by rw [failing]; rfl
  refine inv.call free waiting (Or.inl rfl) trivial ?_ (fun _ => ?_) free
  · simp [Worker.reportedDone, Worker.call, isFailed]
  · simp [Worker.reportedFailed, Worker.call, failing, isFailed]

theorem lock
    {k : Fin n}
    (inv : manager.Inv)
    (stepped : manager.step (.lock k) = some next) :
    next.Inv := by
  simp only [step, Option.ite_none_right_eq_some] at stepped
  obtain ⟨free, stepped⟩ := stepped
  split at stepped
  · rename_i completing
    cases stepped
    exact inv.onComplete free completing
  · rename_i failing
    cases stepped
    exact inv.onFailed free failing
  · cases stepped

/-- `recoverFailedTask` resets a failed downloader whose failure was reported. -/
theorem resetWorker
    {k i : Fin n}
    (inv : manager.Inv)
    (holder : manager.mutex = some k)
    (isFailed : (manager.workers i).state = .rangeFailed)
    (reported : (manager.workers i).pc ≠ .failing) :
    (manager.setWorker i (manager.workers i).reset).Inv ∧ i < manager.started ∧
      ((manager.workers i).pc = .returning ∨ (manager.workers i).pc = .notRunning) := by
  have consistent := inv.consistent i
  have resting :
      (manager.workers i).pc = .returning ∨ (manager.workers i).pc = .notRunning := by
    cases place : (manager.workers i).pc with
    | returning => exact Or.inl rfl
    | notRunning => exact Or.inr rfl
    | failing => exact absurd place reported
    | working | completing | testing _ | joining _ =>
        simp [Worker.Consistent, place, isFailed] at consistent
  have used : manager.workers i ≠ .new := by
    intro isNew
    simp [isNew, Worker.new] at isFailed
  have outside : (manager.workers i).pc.holds = false := by
    rcases resting with place | place <;> rw [place] <;> rfl
  refine ⟨?_, inv.began_of_ne used, resting⟩
  refine inv.replace (inv.began_of_ne used) ?_ (inv.answered i) outside outside ?_
    (Or.inr ⟨by simp [holder], by simp [Worker.reportedFailed, Worker.reset]⟩) ?_ ?_
  · rcases resting with place | place <;> simp [Worker.Consistent, Worker.reset, place]
  · simp [Worker.reportedDone, Worker.reset, isFailed]
  · exact fun other joining => ⟨rfl, resting⟩
  · simp [isFailed]

/-- The end of `onComplete` after the loop. -/
theorem release
    {k : Fin n} {i : Nat}
    (inv : manager.Inv)
    (testing : (manager.workers k).pc = .testing i)
    (past : n ≤ i) :
    { manager.setWorker k ((manager.workers k).goto .returning) with
      failedCount := 0
      mutex := none }.Inv := by
  have held : (manager.workers k).pc.holds = true := by rw [testing]; rfl
  have holder := (inv.mutex k).mp held
  have isDone := inv.isDone_of_holds held
  have nobody : ∀ j, ((manager.setWorker k ((manager.workers k).goto
      .returning)).workers j).pc.holds = false := by
    intro j
    by_cases same : j = k
    · subst same
      rw [setWorker_self]
      rfl
    · rw [setWorker_of_ne same]
      by_contra holds
      exact same (inv.eq_of_holds holder (by simpa using holds))
  have noFailure : ∀ j, ((manager.setWorker k ((manager.workers k).goto
      .returning)).workers j).reportedFailed = false := by
    intro j
    by_cases same : j = k
    · subst same
      rw [setWorker_self]
      exact Worker.reportedFailed_of_ne (by simp [Worker.goto, isDone])
    · rw [setWorker_of_ne same]
      by_contra failed
      have after := inv.testing k i testing j (by simpa using failed)
      have below := j.isLt
      omega
  have answered := inv.answered k
  rw [Pc.inProgress_of_holds held] at answered
  refine
    { consistent := forall_setWorker (fun _ => Worker.Consistent) inv.consistent
        trivial
      answered := forall_setWorker
        (fun _ w => w.calls + w.pc.inProgress.toNat = w.runs) inv.answered answered
      started := inv.started_setWorker (inv.began_of_holds held)
      mutex := fun j => ?_
      completeCount := ?_
      failedCount := fun _ => (count_eq_zero noFailure).symm
      testing := fun j i testing => ?_
      joining := fun j i joining => ?_
      joins := fun j i joining => ?_
      returned := fun isOk => forall_setWorker (fun _ w => w.state = .rangeDone)
        (inv.returned isOk) isDone }
  · have outside := nobody j
    simpa using outside
  · apply inv.completeCount.trans (count_update_same _).symm
    rw [Worker.reportedDone_of_holds held isDone]
    simp [Worker.reportedDone, Worker.goto, isDone]
  · have outside := nobody j
    rw [show _ = Pc.testing i from testing] at outside
    cases outside
  · have outside := nobody j
    rw [show _ = Pc.joining i from joining] at outside
    cases outside
  · have outside := nobody j
    rw [show _ = Pc.joining i from joining] at outside
    cases outside

theorem test
    {k : Fin n}
    (inv : manager.Inv)
    (careful : manager.Careful (.test k))
    (stepped : manager.step (.test k) = some next) :
    next.Inv := by
  simp only [step] at stepped
  split at stepped
  · rename_i i testing
    cases stepped
    have held : (manager.workers k).pc.holds = true := by rw [testing]; rfl
    have holder := (inv.mutex k).mp held
    have isDone := inv.isDone_of_holds held
    unfold testWorker
    split
    · rename_i inside
      split
      · rename_i isFailed
        have differs : k ≠ ⟨i, inside⟩ := by
          rintro rfl
          simp [isDone] at isFailed
        obtain ⟨isReset, began, resting⟩ :=
          inv.resetWorker holder isFailed (careful ⟨i, inside⟩ testing)
        rw [← setWorker_of_ne differs (manager.workers ⟨i, inside⟩).reset]
        refine isReset.advance holder rfl (fun _ other => by cases other) ?_
        intro other here
        cases here
        rw [setWorker_self]
        refine ⟨began, rfl, resting, fun j failed => ?_⟩
        have elsewhere : j ≠ ⟨i, inside⟩ := by
          rintro rfl
          rw [setWorker_self] at failed
          simp [Worker.reportedFailed, Worker.reset] at failed
        rw [setWorker_of_ne elsewhere] at failed
        have after := inv.testing k i testing j failed
        exact lt_of_le_of_ne after (Ne.symm elsewhere)
      · rename_i notFailed
        refine inv.advance holder rfl ?_ (fun _ other => by cases other)
        intro other here j failed
        cases here
        have after := inv.testing k i testing j failed
        have elsewhere : (j : Nat) ≠ i := by
          rintro rfl
          simp [Worker.reportedFailed_of_ne notFailed] at failed
        omega
    · rename_i past
      exact inv.release testing (Nat.le_of_not_lt past)
  · cases stepped

theorem joined
    {k : Fin n}
    (inv : manager.Inv)
    (stepped : manager.step (.joined k) = some next) :
    next.Inv := by
  simp only [step] at stepped
  split at stepped
  · rename_i i joining
    rw [Option.ite_none_right_eq_some] at stepped
    obtain ⟨resting, stepped⟩ := stepped
    cases stepped
    have held : (manager.workers k).pc.holds = true := by rw [joining]; rfl
    have holder := (inv.mutex k).mp held
    obtain ⟨began, initial, -⟩ := inv.joins k i joining
    have isDone := inv.isDone_of_holds held
    have differs : i ≠ k := by
      rintro rfl
      rw [isDone] at initial
      cases initial
    have advanced : (manager.setWorker k
        ((manager.workers k).goto (.testing (i + 1)))).Inv := by
      refine inv.advance holder rfl ?_ (fun _ other => by cases other)
      intro other here j failed
      cases here
      exact inv.joining k i joining j failed
    have same : (manager.setWorker k
        ((manager.workers k).goto (.testing (i + 1)))).workers i = manager.workers i :=
      setWorker_of_ne differs _
    have swapped : (manager.setWorker i (manager.workers i).run).setWorker k
          ((manager.workers k).goto (.testing (i + 1))) =
        (manager.setWorker k ((manager.workers k).goto (.testing (i + 1)))).setWorker i
          (manager.workers i).run := by
      simp only [setWorker]
      rw [Function.update_comm differs]
    rw [swapped]
    have answered := inv.answered i
    rw [resting] at answered
    refine advanced.replace began initial ?_ ?_ rfl ?_ (Or.inl ?_) ?_ ?_
    · simpa [Worker.run, Pc.inProgress] using answered
    · rw [same, resting]
      rfl
    · rw [same]
      simp [Worker.reportedDone, Worker.run, initial]
    · rw [same]
      simp [Worker.reportedFailed, Worker.run, initial]
    · intro other joins
      obtain rfl := advanced.eq_of_holds holder (by rw [joins]; rfl)
      rw [setWorker_self] at joins
      cases joins
    · rw [same, initial]
      exact fun never => by cases never
  · cases stepped

theorem wait4Complete
    {opened : Bool}
    (inv : manager.Inv)
    (stepped : manager.step (.wait4Complete opened) = some next) :
    next.Inv := by
  simp only [step, Option.ite_none_right_eq_some, Option.some.injEq] at stepped
  obtain ⟨-, rfl⟩ := stepped
  refine { inv with returned := fun isOk k => ?_ }
  simp only [Option.some.injEq, Bool.and_eq_true, decide_eq_true_eq] at isOk
  have enough : Fintype.card (Fin n) ≤ count Worker.reportedDone manager.workers := by
    rw [Fintype.card_fin, ← inv.completeCount]
    exact isOk.2
  have reported := test_of_card_le_count enough k
  exact (of_decide_eq_true reported).1

theorem step
    {action : Action n}
    (inv : manager.Inv)
    (careful : manager.Careful action)
    (stepped : manager.step action = some next) :
    next.Inv := by
  cases action with
  | start => exact inv.start stepped
  | finish k outcome => exact inv.finish careful stepped
  | lock k => exact inv.lock stepped
  | test k => exact inv.test careful stepped
  | joined k => exact inv.joined stepped
  | exit k => exact inv.exit stepped
  | wait4Complete opened => exact inv.wait4Complete stepped

end Inv
end Manager

/-- In every run in which part files can be opened and `recoverFailedTask` does not
come upon a downloader that has yet to report its failure, the protocol is kept. -/
theorem protocol_of_careful
    {manager : Manager n}
    (reached : (system n).ReachableUnder Manager.Careful manager) :
    manager.Protocol := by
  have inv : manager.Inv := by
    refine reached.invariant ?_ ?_
    · intro start isNew
      cases isNew
      exact Manager.inv_new
    · intro manager action next _ inv careful stepped
      exact inv.step careful stepped
  exact inv.protocol

/-- One of three ranges fails, is restarted by another one and is done then. -/
def restarted : List (Action 3) :=
  [.start, .start, .start, .finish 0 .failed, .lock 0, .exit 0, .finish 1 .succeeded,
    .lock 1, .test 1, .joined 1, .test 1, .test 1, .test 1, .exit 1,
    .finish 0 .succeeded, .lock 0, .finish 2 .succeeded, .lock 2, .wait4Complete true]

/-- `wait4Complete` returns `OK`, and all ranges are done. -/
theorem protocol_restarted :
    ∃ manager, (system 3).ReachableUnder Manager.Careful manager ∧
      manager.returned = some true ∧ (manager.workers 0).runs = 2 ∧
      (manager.workers 0).calls = 2 ∧ manager.Protocol := by
  obtain ⟨manager, reached, holds⟩ := Machine.ReachableUnder.exists_of_execUnder
    (.initial rfl : (system 3).ReachableUnder Manager.Careful .new)
    (by decide +kernel : ((system 3).execUnder Manager.Careful .new restarted).map
      (fun manager => decide (manager.returned = some true ∧
        (manager.workers 0).runs = 2 ∧ (manager.workers 0).calls = 2)) = some true)
  obtain ⟨isOk, runs, calls⟩ := of_decide_eq_true holds
  exact ⟨manager, reached, isOk, runs, calls, protocol_of_careful reached⟩

/-- A range fails and reports, a second one fails, and the third one completes before
the second one has reported. -/
def joinsUnreported : List (Action 3) :=
  [.start, .start, .start, .finish 0 .failed, .lock 0, .exit 0, .finish 1 .failed,
    .finish 2 .succeeded, .lock 2, .test 2, .joined 2, .test 2]

/-- The third thread holds the mutex and joins the second one, which waits for it.  And
a thread whose part file cannot be opened ends without a callback. -/
theorem not_protocol :
    (∃ manager, (system 3).exec .new joinsUnreported = some manager ∧
      (system 3).Reachable manager ∧ manager.mutex = some 2 ∧
      (manager.workers 2).pc = .joining 1 ∧ (manager.workers 1).pc = .failing ∧
      ¬manager.Protocol) ∧
    ∃ manager, (system 3).exec .new [.start, .finish 0 .unopened, .exit 0] =
        some manager ∧
      (system 3).Reachable manager ∧ (manager.workers 0).runs = 1 ∧
      (manager.workers 0).calls = 0 ∧ (manager.workers 0).pc = .notRunning ∧
      ¬manager.Protocol := by
  constructor
  · obtain ⟨manager, executed, reached, holds⟩ := Machine.exists_reachable_of_exec
      (show (system 3).initial .new from rfl)
      (by decide +kernel : ((system 3).exec .new joinsUnreported).map
        (fun manager => decide (manager.mutex = some 2 ∧
          (manager.workers 2).pc = .joining 1 ∧ (manager.workers 1).pc = .failing)) =
            some true)
    obtain ⟨mutex, joining, failing⟩ := of_decide_eq_true holds
    refine ⟨manager, executed, reached, mutex, joining, failing, fun protocol => ?_⟩
    have resting := protocol.joins 2 1 joining
    simp [failing] at resting
  · obtain ⟨manager, executed, reached, holds⟩ := Machine.exists_reachable_of_exec
      (show (system 3).initial .new from rfl)
      (by decide +kernel : ((system 3).exec .new
        [.start, .finish 0 .unopened, .exit 0]).map
          (fun manager => decide ((manager.workers 0).runs = 1 ∧
            (manager.workers 0).calls = 0 ∧
            (manager.workers 0).pc = .notRunning)) = some true)
    obtain ⟨runs, calls, ended⟩ := of_decide_eq_true holds
    refine ⟨manager, executed, reached, runs, calls, ended, fun protocol => ?_⟩
    have answered := protocol.answered 0
    simp [runs, calls, ended, Pc.inProgress] at answered

end RangeManager
end Skplat
