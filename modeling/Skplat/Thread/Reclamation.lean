import Mathlib.Data.List.Basic
import Skplat.Machine.Basic
import Skplat.Thread.Defs

/-!
# Reclaiming the pthreads of a thread object

Every pthread must be joined or detached.  `cleanup` detaches its own thread unless a
call of `join` has set `isjoined`, and that call then joins.  But it reads `tid` only
after it has released the lock, and a `start` in between overwrites `tid`: the call
joins the new pthread, which will be detached too, and nobody reclaims the old one.

The pthreads are numbered in the order of their creation, and so are the calls of
`join` that found one of them running.
-/

namespace Skplat
namespace ThreadObject

/-- How far a pthread got. -/
inductive Phase
  | created
  | running
  /-- `cleanup` is done. -/
  | cleaned
  | terminated
  deriving DecidableEq, Repr

/-- A pthread, with the calls that reclaim it. -/
structure Instance where
  phase : Phase
  /-- Calls of `pthread_join`. -/
  joins : Nat
  /-- Calls of `pthread_detach`. -/
  detaches : Nat
  deriving DecidableEq, Repr

/-- `cleanup` is not done. -/
def Instance.unfinished (item : Instance) : Bool :=
  item.phase == .created || item.phase == .running

/-- How far a call of `join` got. -/
inductive Progress
  /-- The lock is released, and `tid` is not read yet. -/
  | unlocked
  /-- In `pthread_join`. -/
  | joining (target : Option Nat)
  | returned (target : Option Nat)
  deriving DecidableEq, Repr

/-- A call of `join` that found a pthread running. -/
structure JoinCall where
  /-- The pthread that was running when the lock was taken. -/
  found : Nat
  progress : Progress
  deriving DecidableEq, Repr

/-- The call will join, and has not read `tid` yet. -/
def JoinCall.awaits (call : JoinCall) (number : Nat) : Bool :=
  decide (call.progress = .unlocked ∧ call.found = number)

/-- The call returned. -/
def JoinCall.isReturned (call : JoinCall) : Bool :=
  match call.progress with
  | .returned _ => true
  | _ => false

/-- A thread object and the pthreads it started. -/
structure State where
  ref : RunnableReference
  /-- The `Thread` is not destructed. -/
  alive : Bool
  instances : List Instance
  calls : List JoinCall
  deriving DecidableEq, Repr

/-- A step of a caller or of a pthread. -/
inductive Action
  /-- `pthread_create` may fail and change `tid`. -/
  | start (routine : Routine) (failed : Option (Option Nat))
  | init (number : Nat)
  | cleanup (number : Nat)
  | exit (number : Nat)
  | lockJoin (self : Option Nat)
  | pthreadJoin (call : Nat)
  | returnJoin (call : Nat)
  | destruct
  deriving DecidableEq, Repr

namespace State

/-- A new thread object. -/
def new : State where
  ref := .new
  alive := true
  instances := []
  calls := []

/-- How far the pthread got, if it exists. -/
def phaseOf (state : State) (number : Nat) : Option Phase :=
  (state.instances[number]?).map Instance.phase

/-- Calls of `pthread_join` with this target. -/
def joinTarget (instances : List Instance) : Option Nat → List Instance
  | some number =>
      instances.modify number fun item => { item with joins := item.joins + 1 }
  | none => instances

/-- `pthread_join` waits for a pthread.  It returns an error for anything else. -/
def mayReturn (state : State) : Option Nat → Bool
  | some number =>
      match state.phaseOf number with
      | some phase => phase == .terminated
      | none => true
  | none => true

/-- One step. -/
def step (state : State) : Action → Option State
  | .start routine failed =>
      if state.alive = true then
        if state.ref.isended = false then some state
        else
          match failed with
          | none =>
              some { state with
                ref := state.ref.start routine (.created state.instances.length)
                instances := state.instances ++ [⟨.created, 0, 0⟩] }
          | some tid =>
              some { state with ref := state.ref.start routine (.failed tid) }
      else none
  | .init number =>
      if state.phaseOf number = some .created then
        some { state with
          ref := state.ref.init
          instances := state.instances.modify number fun item =>
            { item with phase := .running } }
      else none
  | .cleanup number =>
      if state.phaseOf number = some .running then
        some { state with
          ref := state.ref.cleanup.1
          instances := state.instances.modify number fun item =>
            { item with
              phase := .cleaned
              detaches := item.detaches + state.ref.cleanup.2.toNat } }
      else none
  | .exit number =>
      if state.phaseOf number = some .cleaned then
        some { state with
          instances := state.instances.modify number fun item =>
            { item with phase := .terminated } }
      else none
  | .lockJoin self =>
      if state.alive = true ∧ ∀ number ∈ self, state.phaseOf number = some .running then
        if (state.ref.join self).2 then
          some { state with
            ref := (state.ref.join self).1
            calls := state.calls ++
              [⟨state.instances.findIdx Instance.unfinished, .unlocked⟩] }
        else some { state with ref := (state.ref.join self).1 }
      else none
  | .pthreadJoin number =>
      match state.calls[number]? with
      | some ⟨found, .unlocked⟩ =>
          some { state with
            instances := joinTarget state.instances state.ref.tid
            calls := state.calls.set number ⟨found, .joining state.ref.tid⟩ }
      | _ => none
  | .returnJoin number =>
      match state.calls[number]? with
      | some ⟨found, .joining target⟩ =>
          if state.mayReturn target then
            some { state with
              calls := state.calls.set number ⟨found, .returned target⟩ }
          else none
      | _ => none
  | .destruct =>
      if state.alive = true ∧ ∀ call ∈ state.calls, call.isReturned = true then
        some { state with alive := false, ref := state.ref.removeRef }
      else none

attribute [grind =] step

end State

/-- A thread object. -/
def system : Machine State Action where
  initial := fun state => state = .new
  step := State.step

/-! ## What must hold -/

namespace State

/-- The call of `pthread_join` is for the pthread that was found. -/
def Hits (call : JoinCall) : Prop :=
  ∀ target, call.progress = .joining target ∨ call.progress = .returned target →
    target = some call.found

/-- Every pthread is reclaimed once, by the call that found it running or by itself. -/
structure Reclaims (state : State) : Prop where
  atMostOnce : ∀ item ∈ state.instances, item.joins + item.detaches ≤ 1
  /-- No pthread is forgotten. -/
  reclaimed : ∀ (number : Nat) (item : Instance),
    state.instances[number]? = some item → item.unfinished = false →
    (∀ call ∈ state.calls, call.found = number → call.isReturned = true) →
    item.joins + item.detaches = 1
  hits : ∀ call ∈ state.calls, Hits call
  counted : state.ref.count =
    state.alive.toNat + state.instances.countP Instance.unfinished

/-- No `start` creates a pthread while a call of `join` has released the lock but has
not read `tid`, and `join` is not called while `isjoined` is set. -/
def Careful (state : State) : Action → Prop
  | .start _ _ =>
      state.ref.isended = true → ∀ call ∈ state.calls, call.progress ≠ .unlocked
  | .lockJoin self =>
      state.ref.isjoined = true → self ≠ none ∧ state.ref.tid = self
  | _ => True

instance (state : State) : DecidablePred state.Careful := fun action =>
  match action with
  | .start _ _ => inferInstanceAs (Decidable (_ → ∀ call ∈ state.calls, _))
  | .lockJoin _ => inferInstanceAs (Decidable (_ → _ ∧ _))
  | .init _ | .cleanup _ | .exit _ | .pthreadJoin _ | .returnJoin _ | .destruct =>
      inferInstanceAs (Decidable True)

/-! ## The invariant -/

/-- How many calls of `join` will join this pthread. -/
def awaiting (calls : List JoinCall) (number : Nat) : Nat :=
  calls.countP (JoinCall.awaits · number)

/-- Who reclaims a pthread. -/
def Owned (item : Instance) (isjoined : Bool) (awaiting : Nat) : Prop :=
  if item.unfinished = true then
    item.detaches = 0 ∧ item.joins + awaiting = isjoined.toNat
  else item.joins + item.detaches + awaiting = 1

/-- What holds between the steps. -/
structure Inv (state : State) : Prop where
  /-- Only the last pthread may be unfinished. -/
  last : ∀ (number : Nat) (item : Instance), state.instances[number]? = some item →
    (item.unfinished = true ↔
      state.ref.isended = false ∧ number + 1 = state.instances.length)
  tid : state.ref.isended = false →
    ∃ number, state.ref.tid = some number ∧ number + 1 = state.instances.length
  isjoined : state.ref.isjoined = true → state.ref.isended = false
  unlocked : ∀ call ∈ state.calls, call.progress = .unlocked →
    state.ref.tid = some call.found ∧ call.found + 1 = state.instances.length
  hits : ∀ call ∈ state.calls, Hits call
  owned : ∀ (number : Nat) (item : Instance),
    state.instances[number]? = some item →
    Owned item state.ref.isjoined (awaiting state.calls number)
  counted : state.ref.count = state.alive.toNat + (!state.ref.isended).toNat

variable {state next : State}

theorem inv_new : new.Inv where
  last := by simp [new]
  tid := by simp [new, RunnableReference.new, RunnableReference.addRef]
  isjoined := by simp [new, RunnableReference.new, RunnableReference.addRef]
  unlocked := by simp [new]
  hits := by simp [new]
  owned := by simp [new]
  counted := rfl

theorem getElem?_modify_some
    {instances : List Instance} {change : Instance → Instance}
    {changed number : Nat} {item : Instance}
    (present : (instances.modify changed change)[number]? = some item) :
    ∃ old, instances[number]? = some old ∧
      item = if changed = number then change old else old := by
  rw [List.getElem?_modify] at present
  obtain ⟨old, before, rfl⟩ := Option.map_eq_some_iff.mp present
  refine ⟨old, before, ?_⟩
  split <;> rfl

theorem getElem?_concat_some
    {instances : List Instance} {added item : Instance} {number : Nat}
    (present : (instances ++ [added])[number]? = some item) :
    (number < instances.length ∧ instances[number]? = some item) ∨
      (number = instances.length ∧ item = added) := by
  by_cases below : number < instances.length
  · rw [List.getElem?_append_left below] at present
    exact Or.inl ⟨below, present⟩
  · rw [List.getElem?_append_right (Nat.le_of_not_lt below),
      List.getElem?_singleton] at present
    split at present
    · cases present
      exact Or.inr ⟨by omega, rfl⟩
    · cases present

/-- Nobody awaits a pthread if no call has yet to read `tid`. -/
theorem awaiting_eq_zero
    {calls : List JoinCall}
    (number : Nat)
    (nobody : ∀ call ∈ calls, call.found = number → call.progress ≠ .unlocked) :
    awaiting calls number = 0 := by
  apply List.countP_eq_zero.mpr
  intro call present awaits
  have both := of_decide_eq_true awaits
  exact nobody call present both.2 both.1

theorem awaiting_concat (calls : List JoinCall) (call : JoinCall) (number : Nat) :
    awaiting (calls ++ [call]) number =
      awaiting calls number + (call.awaits number).toNat := by
  rw [awaiting, List.countP_append, List.countP_singleton]
  cases call.awaits number <;> rfl

theorem awaiting_set
    {calls : List JoinCall} {old : JoinCall} {position : Nat}
    (present : calls[position]? = some old)
    (changed : JoinCall)
    (number : Nat) :
    awaiting (calls.set position changed) number + (old.awaits number).toNat =
      awaiting calls number + (changed.awaits number).toNat := by
  obtain ⟨inside, here⟩ := List.getElem?_eq_some_iff.mp present
  have counted : old.awaits number = true → 0 < awaiting calls number := by
    intro awaits
    exact List.countP_pos_iff.mpr ⟨old, List.mem_of_getElem? present, awaits⟩
  simp only [awaiting] at counted ⊢
  rw [List.countP_set inside, here]
  cases before : old.awaits number with
  | false => cases changed.awaits number <;> simp
  | true =>
      have positive := counted before
      cases changed.awaits number <;> simp <;> omega

namespace Inv

/-- As many pthreads are unfinished as `isended` tells. -/
theorem countP_unfinished (inv : state.Inv) :
    state.instances.countP Instance.unfinished = (!state.ref.isended).toNat := by
  cases ended : state.ref.isended with
  | true =>
      apply List.countP_eq_zero.mpr
      intro item present
      obtain ⟨number, found⟩ := List.mem_iff_getElem?.mp present
      rw [inv.last number item found, ended]
      simp
  | false =>
      obtain ⟨number, -, size⟩ := inv.tid ended
      obtain ⟨front, final, shape⟩ : ∃ front final,
          state.instances = front ++ [final] := by
        have nonempty : state.instances ≠ [] := by
          intro empty
          simp [empty] at size
        exact ⟨_, _, (List.dropLast_append_getLast nonempty).symm⟩
      have sizes : state.instances.length = front.length + 1 := by simp [shape]
      have finished : front.countP Instance.unfinished = 0 := by
        apply List.countP_eq_zero.mpr
        intro item present
        obtain ⟨position, found⟩ := List.mem_iff_getElem?.mp present
        have below : position < front.length := (List.getElem?_eq_some_iff.mp found).1
        have same : state.instances[position]? = some item := by
          rw [shape, List.getElem?_append_left below, found]
        rw [inv.last position item same]
        omega
      have going : final.unfinished = true := by
        apply (inv.last front.length final ?_).mpr ⟨ended, sizes.symm⟩
        simp [shape]
      rw [shape, List.countP_append, finished, List.countP_singleton, if_pos going]
      rfl

theorem reclaims (inv : state.Inv) : state.Reclaims where
  atMostOnce := by
    intro item present
    obtain ⟨number, found⟩ := List.mem_iff_getElem?.mp present
    have owned := inv.owned number item found
    have once := state.ref.isjoined.toNat_le
    unfold Owned at owned
    split at owned <;> omega
  reclaimed := by
    intro number item found finished allReturned
    have owned := inv.owned number item found
    have nobody : awaiting state.calls number = 0 := by
      apply awaiting_eq_zero
      intro call present found pending
      have returned := allReturned call present found
      simp [JoinCall.isReturned, pending] at returned
    simpa [Owned, finished, nobody] using owned
  hits := inv.hits
  counted := by
    rw [inv.counted, inv.countP_unfinished]

/-! ### The steps of a pthread -/

/-- A pthread moves on without being finished or unfinished by that. -/
theorem rephase
    (inv : state.Inv)
    {number : Nat} {phase : Phase}
    (same : ∀ item, state.instances[number]? = some item →
      { item with phase := phase }.unfinished = item.unfinished) :
    { state with
      instances := state.instances.modify number fun item =>
        { item with phase := phase } }.Inv := by
  have origin : ∀ (other : Nat) (item : Instance),
      (state.instances.modify number fun item =>
        { item with phase := phase })[other]? = some item →
      ∃ old, state.instances[other]? = some old ∧
        item.unfinished = old.unfinished ∧ item.joins = old.joins ∧
        item.detaches = old.detaches := by
    intro other item present
    obtain ⟨old, before, rfl⟩ := getElem?_modify_some present
    refine ⟨old, before, ?_⟩
    split
    · rename_i here
      exact ⟨same old (here ▸ before), rfl, rfl⟩
    · exact ⟨rfl, rfl, rfl⟩
  refine { inv with last := ?_, tid := ?_, unlocked := ?_, owned := ?_ }
  · intro other item present
    obtain ⟨old, before, sameUnfinished, -⟩ := origin other item present
    rw [sameUnfinished, List.length_modify]
    exact inv.last other old before
  · rw [List.length_modify]
    exact inv.tid
  · rw [List.length_modify]
    exact inv.unlocked
  · intro other item present
    obtain ⟨old, before, sameUnfinished, sameJoins, sameDetaches⟩ :=
      origin other item present
    have owned := inv.owned other old before
    unfold Owned at owned ⊢
    rw [sameUnfinished, sameJoins, sameDetaches]
    exact owned

theorem init
    {number : Nat}
    (inv : state.Inv)
    (stepped : state.step (.init number) = some next) :
    next.Inv := by
  simp only [step, Option.ite_none_right_eq_some, Option.some.injEq] at stepped
  obtain ⟨created, rfl⟩ := stepped
  have moved : { state with
      instances := state.instances.modify number fun item =>
        { item with phase := .running } }.Inv := by
    apply inv.rephase
    intro item found
    simp only [phaseOf, found, Option.map_some, Option.some.injEq] at created
    simp [Instance.unfinished, created]
  exact ⟨moved.last, moved.tid, moved.isjoined, moved.unlocked, moved.hits,
    moved.owned, moved.counted⟩

theorem exit
    {number : Nat}
    (inv : state.Inv)
    (stepped : state.step (.exit number) = some next) :
    next.Inv := by
  simp only [step, Option.ite_none_right_eq_some, Option.some.injEq] at stepped
  obtain ⟨cleaned, rfl⟩ := stepped
  exact inv.rephase fun item found => by
    simp only [phaseOf, found, Option.map_some, Option.some.injEq] at cleaned
    simp only [Instance.unfinished, cleaned]
    rfl

theorem cleanup
    {number : Nat}
    (inv : state.Inv)
    (stepped : state.step (.cleanup number) = some next) :
    next.Inv := by
  simp only [step, Option.ite_none_right_eq_some, Option.some.injEq] at stepped
  obtain ⟨running, rfl⟩ := stepped
  obtain ⟨final, found, phase⟩ := Option.map_eq_some_iff.mp running
  have going : final.unfinished = true := by simp [Instance.unfinished, phase]
  obtain ⟨notEnded, size⟩ := (inv.last number final found).mp going
  have finished : ∀ other item, other ≠ number →
      state.instances[other]? = some item → item.unfinished = false := by
    intro other item differs present
    by_contra unfinished
    have atEnd := (inv.last other item present).mp (by simpa using unfinished)
    omega
  refine
    { last := ?_, tid := by simp [RunnableReference.cleanup,
        RunnableReference.removeRef]
      isjoined := by simp [RunnableReference.cleanup, RunnableReference.removeRef]
      unlocked := ?_, hits := inv.hits, owned := ?_, counted := ?_ }
  · intro other item present
    obtain ⟨old, before, rfl⟩ := getElem?_modify_some present
    simp only [RunnableReference.cleanup, RunnableReference.removeRef]
    split
    · simp [Instance.unfinished]
    · rename_i differs
      simp [finished other old (Ne.symm differs) before]
  · rw [List.length_modify]
    exact inv.unlocked
  · intro other item present
    obtain ⟨old, before, rfl⟩ := getElem?_modify_some present
    have owned := inv.owned other old before
    split
    · rename_i here
      subst here
      obtain rfl : old = final := by simpa [found] using before.symm
      rw [Owned, if_pos going] at owned
      rw [Owned, if_neg (by simp [Instance.unfinished])]
      simp only [RunnableReference.cleanup]
      cases joined : state.ref.isjoined with
      | true =>
          rw [joined] at owned
          simp only [Bool.not_true, Bool.toNat_false, Bool.toNat_true] at owned ⊢
          omega
      | false =>
          rw [joined] at owned
          simp only [Bool.not_false, Bool.toNat_false, Bool.toNat_true] at owned ⊢
          omega
    · rename_i differs
      have done := finished other old (Ne.symm differs) before
      simpa [Owned, done] using owned
  · have counted := inv.counted
    rw [notEnded] at counted
    simp only [RunnableReference.cleanup, RunnableReference.removeRef, Bool.not_true,
      Bool.not_false, Bool.toNat_true, Bool.toNat_false] at counted ⊢
    omega

/-! ### The steps of a caller -/

theorem start
    {routine : Routine} {failed : Option (Option Nat)}
    (inv : state.Inv)
    (careful : state.Careful (.start routine failed))
    (stepped : state.step (.start routine failed) = some next) :
    next.Inv := by
  simp only [step, Option.ite_none_right_eq_some] at stepped
  obtain ⟨-, stepped⟩ := stepped
  cases ended : state.ref.isended with
  | false =>
      rw [if_pos ended] at stepped
      cases stepped
      exact inv
  | true =>
      rw [if_neg (by simp [ended])] at stepped
      have nobody : ∀ call ∈ state.calls, call.progress ≠ .unlocked := careful ended
      have notJoined : state.ref.isjoined = false := by
        by_contra joined
        have running := inv.isjoined (by simpa using joined)
        simp [ended] at running
      have finished : ∀ (number : Nat) (item : Instance),
          state.instances[number]? = some item → item.unfinished = false := by
        intro number item present
        have last := inv.last number item present
        simpa [ended] using last
      have counted := inv.counted
      cases failed with
      | none =>
          cases stepped
          obtain ⟨count, tid, isjoined, isended⟩ :=
            RunnableReference.start_created ended routine state.instances.length
          refine
            { last := ?_
              tid := fun _ => ⟨state.instances.length, tid, by simp⟩
              isjoined := fun _ => isended
              unlocked := fun call present pending =>
                absurd pending (nobody call present)
              hits := inv.hits
              owned := ?_
              counted := ?_ }
          · intro number item present
            rw [isended, List.length_append, List.length_singleton]
            rcases getElem?_concat_some present with ⟨below, old⟩ | ⟨here, rfl⟩
            · rw [finished number item old]
              simp
              omega
            · simp [here, Instance.unfinished]
          · intro number item present
            rw [isjoined]
            rcases getElem?_concat_some present with ⟨-, old⟩ | ⟨here, rfl⟩
            · exact inv.owned number item old
            · rw [notJoined, awaiting_eq_zero number fun call present _ =>
                nobody call present]
              exact ⟨rfl, rfl⟩
          · rw [count, isended, counted, ended]
            simp
      | some tid =>
          cases stepped
          obtain ⟨count, isjoined, isended⟩ :=
            RunnableReference.start_failed ended routine tid
          refine
            { last := ?_
              tid := fun running => by simp [isended] at running
              isjoined := fun joined => by simp [isjoined, notJoined] at joined
              unlocked := fun call present pending =>
                absurd pending (nobody call present)
              hits := inv.hits
              owned := ?_
              counted := ?_ }
          · intro number item present
            rw [finished number item present, isended]
            simp
          · intro number item present
            rw [isjoined]
            exact inv.owned number item present
          · rw [count, isended, ← ended]
            exact counted

/-- The pthread that `join` finds is the last one. -/
theorem findIdx_unfinished (inv : state.Inv) (running : state.ref.isended = false) :
    state.instances.findIdx Instance.unfinished + 1 = state.instances.length := by
  obtain ⟨number, -, size⟩ := inv.tid running
  have below : number < state.instances.length := by omega
  have here : state.instances.findIdx Instance.unfinished = number := by
    apply (List.findIdx_eq below).mpr
    refine ⟨?_, fun other before => ?_⟩
    · exact (inv.last number _ (List.getElem?_eq_getElem below)).mpr ⟨running, size⟩
    · by_contra unfinished
      have inside : other < state.instances.length := by omega
      have atEnd := (inv.last other _ (List.getElem?_eq_getElem inside)).mp
        (by simpa using unfinished)
      omega
  omega

theorem lockJoin
    {self : Option Nat}
    (inv : state.Inv)
    (careful : state.Careful (.lockJoin self))
    (stepped : state.step (.lockJoin self) = some next) :
    next.Inv := by
  simp only [step, Option.ite_none_right_eq_some] at stepped
  obtain ⟨-, stepped⟩ := stepped
  unfold RunnableReference.join at stepped
  by_cases itself : self ≠ none ∧ state.ref.tid = self
  · rw [if_pos itself] at stepped
    cases stepped
    exact inv
  rw [if_neg itself] at stepped
  by_cases running : state.ref.isended = false
  · rw [if_pos running] at stepped
    cases stepped
    have notJoined : state.ref.isjoined = false := by
      by_contra joined
      exact itself (careful (by simpa using joined))
    have found := inv.findIdx_unfinished running
    generalize state.instances.findIdx Instance.unfinished = final at found
    refine { inv with isjoined := fun _ => running, unlocked := ?_, hits := ?_, owned := ?_ }
    · intro call present pending
      rcases List.mem_append.mp present with old | new
      · exact inv.unlocked call old pending
      · cases List.mem_singleton.mp new
        obtain ⟨number, tid, size⟩ := inv.tid running
        obtain rfl : number = final := by omega
        exact ⟨tid, found⟩
    · intro call present
      rcases List.mem_append.mp present with old | new
      · exact inv.hits call old
      · cases List.mem_singleton.mp new
        rintro target (joining | returned)
        · cases joining
        · cases returned
    · intro number item present
      have owned := inv.owned number item present
      rw [awaiting_concat]
      unfold Owned at owned ⊢
      split
      · rename_i unfinished
        rw [if_pos unfinished, notJoined] at owned
        obtain ⟨-, size⟩ := (inv.last number item present).mp unfinished
        have here : final = number := by omega
        have more : (JoinCall.awaits ⟨final, .unlocked⟩ number).toNat = 1 := by
          simp [JoinCall.awaits, here]
        simp only [Bool.toNat_false, Bool.toNat_true, more] at owned ⊢
        omega
      · rename_i finished
        rw [if_neg finished] at owned
        have elsewhere : final ≠ number := by
          intro here
          exact finished ((inv.last number item present).mpr ⟨running, here ▸ found⟩)
        simpa [JoinCall.awaits, elsewhere] using owned
  · rw [if_neg running] at stepped
    cases stepped
    exact inv

/-- The call reads the `tid` of the pthread it found. -/
theorem pthreadJoin
    {position : Nat}
    (inv : state.Inv)
    (stepped : state.step (.pthreadJoin position) = some next) :
    next.Inv := by
  simp only [step] at stepped
  split at stepped
  · rename_i found present
    have member := List.mem_of_getElem? present
    obtain ⟨tid, size⟩ := inv.unlocked _ member rfl
    dsimp only at tid size
    rw [tid] at stepped
    cases stepped
    have counts := awaiting_set present ⟨found, .joining (some found)⟩
    have origin : ∀ (number : Nat) (item : Instance),
        (joinTarget state.instances (some found))[number]? = some item →
        ∃ old, state.instances[number]? = some old ∧
          item.unfinished = old.unfinished ∧ item.detaches = old.detaches ∧
          item.joins = old.joins + if found = number then 1 else 0 := by
      intro number item stored
      obtain ⟨old, before, rfl⟩ := getElem?_modify_some stored
      refine ⟨old, before, ?_⟩
      split <;> exact ⟨rfl, rfl, rfl⟩
    refine
      { last := ?_, tid := ?_, isjoined := inv.isjoined, unlocked := ?_
        hits := ?_, owned := ?_, counted := inv.counted }
    · intro number item stored
      obtain ⟨old, before, sameUnfinished, -⟩ := origin number item stored
      rw [sameUnfinished, joinTarget, List.length_modify]
      exact inv.last number old before
    · rw [joinTarget, List.length_modify]
      exact inv.tid
    · intro call stored pending
      rw [joinTarget, List.length_modify]
      rcases List.mem_or_eq_of_mem_set stored with old | rfl
      · exact inv.unlocked call old pending
      · cases pending
    · intro call stored
      rcases List.mem_or_eq_of_mem_set stored with old | rfl
      · exact inv.hits call old
      · rintro target (joining | returned)
        · cases joining
          rfl
        · cases returned
    · intro number item stored
      obtain ⟨old, before, sameUnfinished, sameDetaches, moreJoins⟩ :=
        origin number item stored
      have owned := inv.owned number old before
      have moved : item.joins +
          awaiting (state.calls.set position ⟨found, .joining (some found)⟩) number =
          old.joins + awaiting state.calls number := by
        have count := counts number
        rw [moreJoins]
        by_cases here : found = number
        · subst here
          simp only [JoinCall.awaits, and_self, decide_true, reduceCtorEq,
            false_and, decide_false, Bool.toNat_true, Bool.toNat_false] at count
          rw [if_pos rfl]
          omega
        · simpa [JoinCall.awaits, here] using count
      unfold Owned at owned ⊢
      rw [sameUnfinished, sameDetaches]
      split
      · rename_i unfinished
        rw [if_pos unfinished] at owned
        exact ⟨owned.1, moved.trans owned.2⟩
      · rename_i finished
        rw [if_neg finished] at owned
        dsimp only
        omega
  · cases stepped

theorem returnJoin
    {position : Nat}
    (inv : state.Inv)
    (stepped : state.step (.returnJoin position) = some next) :
    next.Inv := by
  simp only [step] at stepped
  split at stepped
  · rename_i found target present
    rw [Option.ite_none_right_eq_some] at stepped
    obtain ⟨-, stepped⟩ := stepped
    cases stepped
    have member := List.mem_of_getElem? present
    have hit := inv.hits _ member target (Or.inl rfl)
    have counts := awaiting_set present ⟨found, .returned target⟩
    refine { inv with unlocked := ?_, hits := ?_, owned := ?_ }
    · intro call stored pending
      rcases List.mem_or_eq_of_mem_set stored with old | rfl
      · exact inv.unlocked call old pending
      · cases pending
    · intro call stored
      rcases List.mem_or_eq_of_mem_set stored with old | rfl
      · exact inv.hits call old
      · rintro other (joining | returned)
        · cases joining
        · cases returned
          exact hit
    · intro number item stored
      have same : awaiting (state.calls.set position ⟨found, .returned target⟩)
          number = awaiting state.calls number := by
        simpa [JoinCall.awaits] using counts number
      rw [same]
      exact inv.owned number item stored
  · cases stepped

theorem destruct
    (inv : state.Inv)
    (stepped : state.step .destruct = some next) :
    next.Inv := by
  simp only [step, Option.ite_none_right_eq_some, Option.some.injEq] at stepped
  obtain ⟨⟨alive, -⟩, rfl⟩ := stepped
  refine ⟨inv.last, inv.tid, inv.isjoined, inv.unlocked, inv.hits, inv.owned, ?_⟩
  have counted := inv.counted
  rw [alive] at counted
  simp only [RunnableReference.removeRef, Bool.toNat_true, Bool.toNat_false] at counted ⊢
  omega

theorem step
    {action : Action}
    (inv : state.Inv)
    (careful : state.Careful action)
    (stepped : state.step action = some next) :
    next.Inv := by
  cases action with
  | start routine failed => exact inv.start careful stepped
  | init number => exact inv.init stepped
  | cleanup number => exact inv.cleanup stepped
  | exit number => exact inv.exit stepped
  | lockJoin self => exact inv.lockJoin careful stepped
  | pthreadJoin position => exact inv.pthreadJoin stepped
  | returnJoin position => exact inv.returnJoin stepped
  | destruct => exact inv.destruct stepped

end Inv
end State

/-- In every run in which `start` does not create a pthread between the two halves of
a `join`, and `join` is not called while another call has set `isjoined`, every
pthread is reclaimed once, and every call joins the pthread it found. -/
theorem reclaims_of_careful
    {state : State}
    (reached : system.ReachableUnder State.Careful state) :
    state.Reclaims := by
  have inv : state.Inv := by
    refine reached.invariant ?_ ?_
    · intro start isNew
      cases isNew
      exact State.inv_new
    · intro state action next _ inv careful stepped
      exact inv.step careful stepped
  exact inv.reclaims

/-- A pthread is joined, and the next one is not. -/
def joinedThenDetached : List Action :=
  [.start .startRoutine none, .init 0, .lockJoin none, .pthreadJoin 0, .cleanup 0,
    .exit 0, .returnJoin 0, .start .startRoutine none, .init 1, .cleanup 1, .exit 1]

/-- The first pthread is reclaimed by the caller and the second one by itself. -/
theorem reclaims_joinedThenDetached :
    ∃ state, system.ReachableUnder State.Careful state ∧
      state.instances = [⟨.terminated, 1, 0⟩, ⟨.terminated, 0, 1⟩] ∧
      state.Reclaims := by
  obtain ⟨state, reached, holds⟩ := Machine.ReachableUnder.exists_of_execUnder
    (.initial rfl : system.ReachableUnder State.Careful .new)
    (by decide +kernel : (system.execUnder State.Careful .new
      joinedThenDetached).map (fun state => state.instances ==
        [⟨.terminated, 1, 0⟩, ⟨.terminated, 0, 1⟩]) = some true)
  exact ⟨state, reached, beq_iff_eq.mp holds, reclaims_of_careful reached⟩

/-- A pthread ends after `join` has released the lock, and another one is started
before `tid` is read. -/
def startedBetween : List Action :=
  [.start .startRoutine none, .init 0, .lockJoin none, .cleanup 0, .exit 0,
    .start .startRoutine none, .init 1, .pthreadJoin 0, .cleanup 1, .exit 1,
    .returnJoin 0]

/-- The first pthread is never reclaimed, and the second one is joined and
detached. -/
theorem not_reclaims_startedBetween :
    ∃ state, system.exec .new startedBetween = some state ∧
      system.Reachable state ∧
      state.instances = [⟨.terminated, 0, 0⟩, ⟨.terminated, 1, 1⟩] ∧
      state.calls = [⟨0, .returned (some 1)⟩] ∧ ¬state.Reclaims := by
  obtain ⟨state, executed, reached, holds⟩ := Machine.exists_reachable_of_exec
    (show system.initial .new from rfl)
    (by decide +kernel : (system.exec .new startedBetween).map
      (fun state => state.instances ==
          [⟨.terminated, 0, 0⟩, ⟨.terminated, 1, 1⟩] &&
        state.calls == [⟨0, .returned (some 1)⟩]) = some true)
  rw [Bool.and_eq_true, beq_iff_eq, beq_iff_eq] at holds
  refine ⟨state, executed, reached, holds.1, holds.2, fun reclaims => ?_⟩
  have twice := reclaims.atMostOnce ⟨.terminated, 1, 1⟩ (by simp [holds.1])
  simp at twice

end ThreadObject
end Skplat
