/-!
# The shared record of a thread object

A `Thread` and the pthreads it starts share a `RunnableReference`, which they change
under its spin lock.  The functions here are the bodies of these sections.  Assertions
only write a log, unless they are enabled.
-/

namespace Skplat

/-- The fields of a `RunnableReference` that `start`, `join`, `cancel_after` and the
started routine use. -/
structure RunnableReference where
  count : Int
  /-- `tid`, none if zero. -/
  tid : Option Nat
  isjoined : Bool
  isended : Bool
  iscanceldelaystart : Bool
  isinthread : Bool
  /-- `anyway_notify_` of `condtime`. -/
  anywayNotify : Bool
  deriving DecidableEq, Repr

/-- The started routine. -/
inductive Routine
  | startRoutine
  | startRoutineAfter
  | startRoutinePeriodic
  deriving DecidableEq, Repr

/-- The result of `pthread_create`.  If it fails, it may change `tid`. -/
inductive PthreadCreate
  | created (tid : Nat)
  | failed (tid : Option Nat)
  deriving DecidableEq, Repr

namespace RunnableReference

/-- `AddRef()`. -/
def addRef (ref : RunnableReference) : RunnableReference :=
  { ref with count := ref.count + 1 }

/-- `RemoveRef()`. -/
def removeRef (ref : RunnableReference) : RunnableReference :=
  { ref with count := ref.count - 1 }

/-- The reference made by the constructor of a `Thread`. -/
def new : RunnableReference :=
  addRef
    { count := 0
      tid := none
      isjoined := false
      isended := true
      iscanceldelaystart := false
      isinthread := false
      anywayNotify := false }

/-- `start_after` and `start_periodic` withdraw an earlier cancellation. -/
def prepare (ref : RunnableReference) : Routine → RunnableReference
  | .startRoutine => ref
  | .startRoutineAfter | .startRoutinePeriodic =>
      { ref with anywayNotify := false, iscanceldelaystart := false }

/-- `start()`, `start_after()` and `start_periodic()`. -/
def start
    (ref : RunnableReference)
    (routine : Routine)
    (create : PthreadCreate) : RunnableReference :=
  if ref.isended = false then ref
  else
    let starting := { (ref.prepare routine).addRef with isended := false }
    match create with
    | .created tid => { starting with tid := some tid }
    | .failed tid => { starting with tid := tid, isended := true }.removeRef

/-- `init()`. -/
def init (ref : RunnableReference) : RunnableReference :=
  { ref with isinthread := true }

/-- `cleanup()`.  The flag tells whether the routine detaches its own thread. -/
def cleanup (ref : RunnableReference) : RunnableReference × Bool :=
  ({ ref with isinthread := false, isended := true, isjoined := false }.removeRef,
    !ref.isjoined)

/-- The locked section of `join()`, called by the thread `self`.  The flag tells
whether a call of `pthread_join` follows. -/
def join (ref : RunnableReference) (self : Option Nat) : RunnableReference × Bool :=
  if self ≠ none ∧ ref.tid = self then (ref, false)
  else if ref.isended = false then ({ ref with isjoined := true }, true)
  else (ref, false)

/-- A `start` that creates a pthread. -/
theorem start_created
    {ref : RunnableReference}
    (ended : ref.isended = true)
    (routine : Routine) (tid : Nat) :
    (ref.start routine (.created tid)).count = ref.count + 1 ∧
      (ref.start routine (.created tid)).tid = some tid ∧
      (ref.start routine (.created tid)).isjoined = ref.isjoined ∧
      (ref.start routine (.created tid)).isended = false := by
  rw [start, if_neg (by simp [ended])]
  cases routine <;> exact ⟨rfl, rfl, rfl, rfl⟩

/-- A `start` whose `pthread_create` fails. -/
theorem start_failed
    {ref : RunnableReference}
    (ended : ref.isended = true)
    (routine : Routine) (tid : Option Nat) :
    (ref.start routine (.failed tid)).count = ref.count ∧
      (ref.start routine (.failed tid)).isjoined = ref.isjoined ∧
      (ref.start routine (.failed tid)).isended = true := by
  rw [start, if_neg (by simp [ended])]
  cases routine <;> exact ⟨Int.add_sub_cancel _ _, rfl, rfl⟩

end RunnableReference
end Skplat
