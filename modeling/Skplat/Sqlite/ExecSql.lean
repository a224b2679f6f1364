import Skplat.Machine.Basic
import Mathlib.Data.List.Range

/-!
# The lock of `sqlitew_exec_sql`

`sqlitew_exec_sql` locks the handle's mutex, prepares the text, steps the statement
under a callback, finalizes it and unlocks.  What SQLite and the callback answer is the
choice of the action, so a run is a sequence of calls with arbitrary answers.  When no
statement comes back from `sqlitew_prepare_sql`, the function returns with the mutex
still locked, and the next call on the handle waits for ever.
-/

namespace Skplat
namespace Sqlite
namespace ExecSql

/-- `SQLITE_OK`. -/
def sqliteOk : Int := 0

/-- `SQLITE_ROW`. -/
def sqliteRow : Int := 100

/-- What `sqlite3_prepare_v2` answers: its result, and whether `*ppStmt` is a
statement.  A text without a statement gives `SQLITE_OK` and a null pointer. -/
structure Prepared where
  err : Int
  statement : Bool
  deriving DecidableEq, Repr

/-- `sqlitew_prepare_sql` on a handle and a text: whether it returns a statement. -/
def sqlitewPrepareSql (prepared : Prepared) : Bool :=
  if prepared.err ≠ sqliteOk then false else prepared.statement

/-- The arguments of a call, as far as they are tested. -/
structure Call where
  /-- `sqlitedb` and `sqlitedb->db` are not null. -/
  handle : Bool
  /-- `sql`, or a null pointer. -/
  sql : Option String
  /-- `xCallback` is not null. -/
  callback : Bool
  deriving DecidableEq, Repr

/-- Where the thread is. -/
inductive Location
  /-- Between two calls. -/
  | idle
  /-- At `pthread_mutex_lock`. -/
  | locking
  /-- Before `sqlitew_prepare_sql`. -/
  | preparing
  /-- In `sqlitew_exec_stmt`, before `sqlite3_step`. -/
  | stepping
  /-- In `sqlitew_exec_stmt`, before `xCallback`. -/
  | calling
  /-- Before `sqlite3_finalize`. -/
  | finalizing
  /-- Before `pthread_mutex_unlock`, with the result of `sqlite3_finalize`. -/
  | unlocking (rc : Int)
  deriving DecidableEq, Repr

/-- The handle and the thread that uses it. -/
structure State where
  location : Location
  /-- `xCallback` of the call in progress is not null. -/
  callback : Bool
  /-- `sqlitedb->mutex` is locked. -/
  locked : Bool
  /-- How many statements were prepared; they are numbered in this order. -/
  prepared : ℕ
  /-- The statements handed to `sqlite3_finalize`. -/
  finalized : List ℕ
  /-- What the calls have returned. -/
  results : List Int
  deriving DecidableEq, Repr

/-- A step of the thread, with the answer it gets. -/
inductive Action
  | call (arguments : Call)
  | lock
  | prepare (prepared : Prepared)
  | step (rc : Int)
  | callback (result : Int)
  | finalize (rc : Int)
  | unlock
  deriving DecidableEq, Repr

namespace State

/-- A handle after `sqlitew_open`. -/
def new : State where
  location := .idle
  callback := false
  locked := false
  prepared := 0
  finalized := []
  results := []

/-- The entry of `sqlitew_exec_sql`. -/
def call (state : State) (arguments : Call) : State :=
  if arguments.handle = false ∨ arguments.sql = none then
    { state with results := state.results ++ [-1] }
  else
    { state with location := .locking, callback := arguments.callback }

/-- `sqlitew_prepare_sql` and the test of its result. -/
def prepare (state : State) (prepared : Prepared) : State :=
  if sqlitewPrepareSql prepared then
    { state with location := .stepping, prepared := state.prepared + 1 }
  else
    { state with location := .idle, results := state.results ++ [-1] }

/-- `sqlite3_step` and the tests that follow it: the loops of `sqlitew_exec_stmt` go
on as long as there is a row. -/
def step (state : State) (rc : Int) : State :=
  if rc = sqliteRow then
    if state.callback then { state with location := .calling } else state
  else
    { state with location := .finalizing }

/-- `xCallback` and the test of its result. -/
def callbackResult (state : State) (result : Int) : State :=
  if result < 0 then
    { state with location := .finalizing }
  else
    { state with location := .stepping }

/-- `sqlite3_finalize` on the statement prepared last. -/
def finalize (state : State) (rc : Int) : State :=
  { state with
    location := .unlocking rc
    finalized := state.finalized ++ [state.prepared - 1] }

/-- The steps of one thread that calls `sqlitew_exec_sql` again and again.  A locked
mutex has no further `lock`. -/
def next (state : State) : Action → Option State
  | .call arguments =>
      if state.location = .idle then some (state.call arguments) else none
  | .lock =>
      if state.location = .locking ∧ state.locked = false then
        some { state with location := .preparing, locked := true }
      else none
  | .prepare prepared =>
      if state.location = .preparing then some (state.prepare prepared) else none
  | .step rc =>
      if state.location = .stepping then some (state.step rc) else none
  | .callback result =>
      if state.location = .calling then some (state.callbackResult result)
      else none
  | .finalize rc =>
      if state.location = .finalizing then some (state.finalize rc) else none
  | .unlock =>
      match state.location with
      | .unlocking rc =>
          some { state with
            location := .idle
            locked := false
            results := state.results ++ [rc] }
      | _ => none

end State

/-- One thread on one handle. -/
def system : Machine State Action where
  initial state := state = .new
  step := State.next

namespace State

/-- The thread is between a successful `sqlitew_prepare_sql` and `sqlite3_finalize`. -/
def holdsStatement (state : State) : Bool :=
  match state.location with
  | .stepping | .calling | .finalizing => true
  | _ => false

/-- The mutex is unlocked after each call, no call waits for it, no statement is
finalized twice, and each one is finalized when its call has returned. -/
structure Releases (state : State) : Prop where
  returned : state.location = .idle → state.locked = false
  notBlocked : state.location = .locking → state.locked = false
  atMostOnce : state.finalized.Nodup
  onlyPrepared : ∀ statement ∈ state.finalized, statement < state.prepared
  finalized : state.location = .idle →
    ∀ statement < state.prepared, state.finalized.count statement = 1

/-- The text handed to `sqlite3_prepare_v2` gives a statement. -/
def Prepares (_ : State) : Action → Prop
  | .prepare prepared => prepared.err = sqliteOk ∧ prepared.statement = true
  | _ => True

instance (state : State) : DecidablePred state.Prepares
  | .prepare prepared =>
      inferInstanceAs
        (Decidable (prepared.err = sqliteOk ∧ prepared.statement = true))
  | .call _ | .lock | .step _ | .callback _ | .finalize _ | .unlock => isTrue trivial

/-- Which statements were finalized: all of them but the one in hand. -/
structure FinalizedInv (state : State) : Prop where
  holds : state.holdsStatement = true →
    0 < state.prepared ∧ state.finalized = List.range (state.prepared - 1)
  others : state.holdsStatement = false →
    state.finalized = List.range state.prepared

/-- The mutex is unlocked between two calls, and locked from `pthread_mutex_lock` to
the end of a call. -/
structure LockInv (state : State) : Prop where
  released : state.location = .idle ∨ state.location = .locking →
    state.locked = false
  held : state.location ≠ .idle → state.location ≠ .locking → state.locked = true

/-- What a step does, with the place at which it is taken. -/
inductive Taken (state : State) : Action → State → Prop
  | call (arguments : Call) :
      state.location = .idle → Taken state (.call arguments) (state.call arguments)
  | lock :
      state.location = .locking → state.locked = false →
      Taken state .lock { state with location := .preparing, locked := true }
  | prepare (prepared : Prepared) :
      state.location = .preparing →
      Taken state (.prepare prepared) (state.prepare prepared)
  | step (rc : Int) :
      state.location = .stepping → Taken state (.step rc) (state.step rc)
  | callback (result : Int) :
      state.location = .calling →
      Taken state (.callback result) (state.callbackResult result)
  | finalize (rc : Int) :
      state.location = .finalizing → Taken state (.finalize rc) (state.finalize rc)
  | unlock (rc : Int) :
      state.location = .unlocking rc →
      Taken state .unlock
        { state with
          location := .idle
          locked := false
          results := state.results ++ [rc] }

/-- A step that is enabled is one of these. -/
theorem taken_of_next
    {state next : State}
    {action : Action}
    (stepped : state.next action = some next) :
    state.Taken action next := by
  cases action with
  | unlock =>
      simp only [State.next] at stepped
      split at stepped
      · rename_i rc located
        cases stepped
        exact .unlock rc located
      · cases stepped
  | _ =>
      simp only [State.next, Option.ite_none_right_eq_some] at stepped
      obtain ⟨enabled, isNext⟩ := stepped
      cases isNext
      first
        | exact .lock enabled.1 enabled.2
        | constructor
          exact enabled

theorem finalizedInv_new : State.new.FinalizedInv where
  holds held := by cases held
  others _ := rfl

theorem lockInv_new : State.new.LockInv where
  released _ := rfl
  held outside := absurd rfl outside

/-- A failed `sqlitew_prepare_sql` is one whose answer is no statement. -/
theorem sqlitewPrepareSql_iff (prepared : Prepared) :
    sqlitewPrepareSql prepared = true ↔
      prepared.err = sqliteOk ∧ prepared.statement = true := by
  unfold sqlitewPrepareSql
  split
  · rename_i failed
    simp [failed]
  · rename_i succeeded
    simp [not_not.mp succeeded]

namespace FinalizedInv

variable {state : State}

/-- A step that keeps the statements and whether one is in hand. -/
theorem keep
    (inv : state.FinalizedInv)
    {next : State}
    (sameHeld : next.holdsStatement = state.holdsStatement)
    (samePrepared : next.prepared = state.prepared)
    (sameFinalized : next.finalized = state.finalized) :
    next.FinalizedInv where
  holds held := by
    rw [samePrepared, sameFinalized]
    exact inv.holds (sameHeld ▸ held)
  others free := by
    rw [samePrepared, sameFinalized]
    exact inv.others (sameHeld ▸ free)

/-- The statements after a successful `sqlitew_prepare_sql`, and after a failed one. -/
theorem prepare
    (inv : state.FinalizedInv)
    (located : state.location = .preparing)
    (prepared : Prepared) :
    (state.prepare prepared).FinalizedInv := by
  have free : state.holdsStatement = false := by
    simp only [holdsStatement, located]
  unfold State.prepare
  split
  · constructor
    · intro _
      exact ⟨Nat.succ_pos _, inv.others free⟩
    · intro absent
      cases absent
  · exact inv.keep (by rw [free]; rfl) rfl rfl

/-- `sqlite3_finalize` finishes the list of the prepared statements. -/
theorem finalize
    (inv : state.FinalizedInv)
    (located : state.location = .finalizing)
    (rc : Int) :
    (state.finalize rc).FinalizedInv := by
  have held : state.holdsStatement = true := by
    simp only [holdsStatement, located]
  obtain ⟨positive, finalized⟩ := inv.holds held
  constructor
  · intro absurdity
    cases absurdity
  · intro _
    show state.finalized ++ [state.prepared - 1] = List.range state.prepared
    rw [finalized, ← List.range_succ, Nat.succ_eq_add_one, Nat.sub_add_cancel positive]

/-- Every step keeps the account of the statements. -/
theorem taken
    (inv : state.FinalizedInv)
    {action : Action}
    {next : State}
    (stepped : state.Taken action next) :
    next.FinalizedInv := by
  cases stepped with
  | call arguments located =>
      unfold State.call
      split
      · exact inv.keep rfl rfl rfl
      · exact inv.keep (by simp only [holdsStatement, located]) rfl rfl
  | lock located _ =>
      exact inv.keep (by simp only [holdsStatement, located]) rfl rfl
  | prepare prepared located => exact inv.prepare located prepared
  | step rc located =>
      unfold State.step
      split
      · split
        · exact inv.keep (by simp only [holdsStatement, located]) rfl rfl
        · exact inv
      · exact inv.keep (by simp only [holdsStatement, located]) rfl rfl
  | callback result located =>
      unfold State.callbackResult
      split
      · exact inv.keep (by simp only [holdsStatement, located]) rfl rfl
      · exact inv.keep (by simp only [holdsStatement, located]) rfl rfl
  | finalize rc located => exact inv.finalize located rc
  | unlock rc located =>
      exact inv.keep (by simp only [holdsStatement, located]) rfl rfl

end FinalizedInv

namespace LockInv

variable {state : State}

/-- A step within a call. -/
theorem inside
    (locked : state.locked = true)
    {next : State}
    (sameLock : next.locked = state.locked)
    (notIdle : next.location ≠ .idle)
    (notLocking : next.location ≠ .locking) :
    next.LockInv where
  released outside := by
    cases outside with
    | inl idle => exact absurd idle notIdle
    | inr locking => exact absurd locking notLocking
  held _ _ := sameLock.trans locked

/-- Every step at which the text gives a statement keeps the lock within a call. -/
theorem taken
    (inv : state.LockInv)
    {action : Action}
    {next : State}
    (prepares : state.Prepares action)
    (stepped : state.Taken action next) :
    next.LockInv := by
  have heldAt : ∀ {location}, state.location = location →
      location ≠ .idle → location ≠ .locking → state.locked = true := by
    intro location located notIdle notLocking
    exact inv.held (located ▸ notIdle) (located ▸ notLocking)
  cases stepped with
  | call arguments located =>
      have free : state.locked = false := inv.released (Or.inl located)
      unfold State.call
      split
      · exact ⟨inv.released, inv.held⟩
      · exact ⟨fun _ => free, fun _ notLocking => absurd rfl notLocking⟩
  | lock located _ =>
      exact ⟨by simp, fun _ _ => rfl⟩
  | prepare prepared located =>
      have locked := heldAt located (by simp) (by simp)
      unfold State.prepare
      rw [if_pos ((sqlitewPrepareSql_iff prepared).mpr prepares)]
      exact inside locked rfl (by simp) (by simp)
  | step rc located =>
      have locked := heldAt located (by simp) (by simp)
      unfold State.step
      split
      · split
        · exact inside locked rfl (by simp) (by simp)
        · exact inv
      · exact inside locked rfl (by simp) (by simp)
  | callback result located =>
      have locked := heldAt located (by simp) (by simp)
      unfold State.callbackResult
      split
      · exact inside locked rfl (by simp) (by simp)
      · exact inside locked rfl (by simp) (by simp)
  | finalize rc located =>
      have locked := heldAt located (by simp) (by simp)
      exact inside locked rfl (by simp [State.finalize]) (by simp [State.finalize])
  | unlock rc located =>
      exact ⟨fun _ => rfl, fun notIdle => absurd rfl notIdle⟩

end LockInv

/-- The account of the statements gives what is promised about them. -/
theorem Releases.of_inv
    {state : State}
    (statements : state.FinalizedInv)
    (lock : state.LockInv) :
    state.Releases := by
  have shape : ∃ count ≤ state.prepared, state.finalized = List.range count := by
    cases held : state.holdsStatement with
    | true => exact ⟨state.prepared - 1, Nat.sub_le _ _, (statements.holds held).2⟩
    | false => exact ⟨state.prepared, le_rfl, statements.others held⟩
  obtain ⟨count, bound, isRange⟩ := shape
  refine ⟨fun idle => lock.released (Or.inl idle),
    fun locking => lock.released (Or.inr locking), ?_, ?_, ?_⟩
  · rw [isRange]
    exact List.nodup_range
  · intro statement present
    rw [isRange, List.mem_range] at present
    omega
  · intro idle statement isPrepared
    have free : state.holdsStatement = false := by
      simp only [holdsStatement, idle]
    rw [statements.others free]
    rw [List.nodup_range.count, if_pos (List.mem_range.mpr isPrepared)]

end State

/-- In every run, whatever the texts are, every prepared statement is finalized exactly
once. -/
theorem finalizedInv_of_reachable
    {state : State}
    (reached : system.Reachable state) :
    state.FinalizedInv := by
  refine reached.invariant ?_ ?_
  · intro start isNew
    cases isNew
    exact State.finalizedInv_new
  · intro state action next _ inv _ stepped
    exact inv.taken (State.taken_of_next stepped)

/-- In every run all of whose texts give a statement, only a call in progress holds the
mutex. -/
theorem lockInv_of_prepares
    {state : State}
    (reached : system.ReachableUnder State.Prepares state) :
    state.LockInv := by
  refine reached.invariant ?_ ?_
  · intro start isNew
    cases isNew
    exact State.lockInv_new
  · intro state action next _ inv prepares stepped
    exact inv.taken prepares (State.taken_of_next stepped)

/-- In every run all of whose texts give a statement, the mutex is unlocked after each
call and every statement is finalized exactly once. -/
theorem releases_of_prepares
    {state : State}
    (reached : system.ReachableUnder State.Prepares state) :
    state.Releases :=
  .of_inv (finalizedInv_of_reachable reached.reachable) (lockInv_of_prepares reached)

/-- A text that gives no statement leaves the mutex locked, whatever the calls before it
were. -/
theorem not_releases_of_not_prepares
    {state next : State}
    {action : Action}
    (reached : system.ReachableUnder State.Prepares state)
    (stepped : system.step state action = some next)
    (rejected : ¬state.Prepares action) :
    ¬next.Releases := by
  have lock : state.LockInv := lockInv_of_prepares reached
  cases State.taken_of_next stepped with
  | prepare prepared located =>
      have locked : state.locked = true :=
        lock.held (by simp [located]) (by simp [located])
      have failed : sqlitewPrepareSql prepared ≠ true :=
        fun succeeds => rejected ((State.sqlitewPrepareSql_iff prepared).mp succeeds)
      unfold State.prepare
      rw [if_neg failed]
      intro releases
      have free : state.locked = false := releases.returned rfl
      rw [locked] at free
      cases free
  | _ => exact absurd trivial rejected

/-- A query with two rows whose callback stops at the second one. -/
def stoppedQuery : List Action :=
  [.call ⟨true, some "select ip from xdns;", true⟩, .lock, .prepare ⟨0, true⟩, .step 100,
    .callback 0, .step 100, .callback (-1), .finalize 0, .unlock]

/-- The mutex is free after it. -/
theorem releases_stoppedQuery :
    ∃ state, system.ReachableUnder State.Prepares state ∧ state.results = [0] ∧
      state.prepared = 1 ∧ state.Releases := by
  obtain ⟨state, reached, holds⟩ := Machine.ReachableUnder.exists_of_execUnder
    (.initial rfl : system.ReachableUnder State.Prepares .new)
    (by decide +kernel : (system.execUnder State.Prepares .new
      stoppedQuery).map (fun state =>
        decide (state.results = [0] ∧ state.prepared = 1)) = some true)
  obtain ⟨results, prepared⟩ := of_decide_eq_true holds
  exact ⟨state, reached, results, prepared, releases_of_prepares reached⟩

/-- A text with a syntax error, and the next call. -/
def rejectedText : List Action :=
  [.call ⟨true, some "select", true⟩, .lock, .prepare ⟨1, false⟩,
    .call ⟨true, some "select 1;", true⟩]

/-- The first call returns -1 with the mutex locked, and the second one waits for it. -/
theorem locked_rejectedText :
    ∃ state, system.exec .new rejectedText = some state ∧ system.Reachable state ∧
      state.results = [-1] ∧ state.location = .locking ∧ state.locked = true ∧
      ¬state.Releases := by
  obtain ⟨state, executed, reached, holds⟩ := Machine.exists_reachable_of_exec
    (show system.initial .new from rfl)
    (by decide +kernel : (system.exec .new rejectedText).map
      (fun state => decide (state.results = [-1] ∧ state.location = .locking ∧
        state.locked = true)) = some true)
  obtain ⟨results, locking, locked⟩ := of_decide_eq_true holds
  refine ⟨state, executed, reached, results, locking, locked, ?_⟩
  intro releases
  have free : state.locked = false := releases.notBlocked locking
  rw [locked] at free
  cases free

end ExecSql
end Sqlite
end Skplat
