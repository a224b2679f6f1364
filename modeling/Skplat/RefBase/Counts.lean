import Mathlib.Algebra.Order.BigOperators.Group.List
import Mathlib.Algebra.Order.Group.Nat
import Mathlib.Data.Nat.Cast.Basic
import Skplat.Data.ListSet
import Skplat.RefBase.Defs

/-!
# The counts are the numbers of references

`mWeak` is the number of all references, and `mStrong` the number of `sp`, to which
`INITIAL_STRONG_VALUE` is added until the first `sp` has subtracted it.  The object lives while
there is an `sp`, or any reference if there was no `sp` yet or the lifetime is extended.

This needs that there are fewer than 2^28 references at a time, so that no number of `sp` is
`INITIAL_STRONG_VALUE`, and that `attemptIncStrong` which has read `INITIAL_STRONG_VALUE` does
not increment `mStrong` after all `sp` of other threads came and went: the object is deleted
then.
-/

namespace Skplat
namespace RefBase

open MachineInt

/-! ## What a reference counts for -/

namespace Place

/-- It is counted in `mWeak`. -/
def weakly : Place → Nat
  | .starting _ _ | .lastWeak | .gone => 0
  | _ => 1

/-- It is counted in `mStrong`. -/
def strongly : Place → Nat
  | .adjusting | .firstRef | .strong | .unneeded | .releasing => 1
  | _ => 0

/-- It has to subtract `INITIAL_STRONG_VALUE`. -/
def adjusts : Place → Nat
  | .adjusting => 1
  | _ => 0

/-- It has to call `onFirstRef`. -/
def isFirst : Place → Nat
  | .firstRef => 1
  | _ => 0

/-- It has to delete the object. -/
def isLast : Place → Nat
  | .lastStrong => 1
  | _ => 0

/-- It has to free `mRefs`. -/
def ends : Place → Nat
  | .lastWeak => 1
  | _ => 0

/-- It is the first reference, and not counted. -/
def creates : Place → Nat
  | .starting _ none => 1
  | _ => 0

/-- It is the first reference, before `mStrong` is incremented. -/
def isFresh : Place → Bool
  | .starting _ none | .raising none => true
  | _ => false

/-- It is not dropped, or is being dropped. -/
def isLive : Place → Nat
  | .gone => 0
  | _ => 1

/-- The reference of which it is a copy stays. -/
def Stays (state : State) : Place → Prop
  | .starting kind (some source) =>
      ∃ place, state.places[source]? = some place ∧ kind.isFrom place = true
  | .raising (some source) => state.places[source]? = some .strong
  | _ => True

end Place

namespace State

/-- The sum over all references. -/
def total (state : State) (count : Place → Nat) : Nat :=
  (state.places.map count).sum

/-- The phases of `mStrong`. -/
inductive StrongCount (state : State) : Prop
  /-- There was no `sp`. -/
  | fresh :
      state.mStrong = initialStrongValue → state.total Place.strongly = 0 →
      state.total Place.isLast = 0 →
      state.total Place.isFirst + state.firstRefs = 0 → StrongCount state
  /-- `INITIAL_STRONG_VALUE` is not subtracted yet. -/
  | first :
      state.mStrong = initialStrongValue + state.total Place.strongly →
      state.total Place.adjusts = 1 → state.total Place.isLast = 0 →
      state.total Place.isFirst + state.firstRefs = 0 → StrongCount state
  | counted :
      state.mStrong = state.total Place.strongly → state.total Place.adjusts = 0 →
      state.total Place.isFirst + state.firstRefs = 1 → StrongCount state

/-- What a copy needs stays, and what a thread has read is in its range. -/
structure Linked (state : State) : Prop where
  /-- The first reference is alone until it is counted. -/
  fresh : ∀ place ∈ state.places, place.isFresh = true →
    state.places.length = 1 ∧ state.mStrong = initialStrongValue
  stays : ∀ place ∈ state.places, place.Stays state
  exchanging : ∀ curCount, Place.exchanging curCount ∈ state.places →
    0 < curCount ∧ curCount ≠ initialStrongValue

/-- The counts are right, and nothing that was destroyed is accessed. -/
structure Sound (lifetime : Lifetime) (state : State) : Prop where
  noFault : state.fault = false
  few : state.total Place.isLive < 2 ^ 28
  linked : state.Linked
  mWeak : state.mWeak = state.total Place.weakly
  mStrong : state.StrongCount
  /-- The last reference frees `mRefs` when there is no other one. -/
  ended : 0 < state.total Place.ends →
    state.total Place.weakly = 0 ∧ state.total Place.creates = 0 ∧ state.total Place.ends = 1
  refsAlive : state.refsAlive = true ↔
    0 < state.total Place.weakly + state.total Place.ends + state.total Place.creates
  objectAlive : state.objectAlive = true ↔
    if lifetime = .weak ∨ state.mStrong = initialStrongValue then state.refsAlive = true
    else 0 < state.total Place.strongly + state.total Place.isLast
  /-- The last `sp` deletes the object when there is no other one. -/
  last : lifetime = .strong → state.total Place.isLast = 0 ∨
    state.total Place.isLast = 1 ∧ state.total Place.strongly = 0

/-! ## Sums -/

variable {state next : State} {index : Nat} {old replaced : Place}

theorem total_le_total {less more : Place → Nat} (bounded : ∀ place, less place ≤ more place)
    (state : State) : state.total less ≤ state.total more :=
  List.sum_le_sum fun place _ => bounded place

theorem le_total_of_mem {place : Place} (present : place ∈ state.places)
    (count : Place → Nat) : count place ≤ state.total count :=
  List.single_le_sum (fun _ _ => Nat.zero_le _) _ (List.mem_map_of_mem present)

theorem total_set (found : state.places[index]? = some old)
    (places : next.places = state.places.set index replaced) (count : Place → Nat) :
    next.total count + count old = state.total count + count replaced := by
  rw [total, places]
  exact sum_map_set_add found replaced count

theorem strongly_add_isLast_le (state : State) :
    state.total Place.strongly + state.total Place.isLast ≤ state.total Place.weakly := by
  have sums : state.total Place.strongly + state.total Place.isLast =
      state.total fun place => place.strongly + place.isLast := List.sum_map_add.symm
  rw [sums]
  refine total_le_total (fun place => ?_) state
  cases place <;> simp [Place.weakly, Place.strongly, Place.isLast]

theorem adjusts_add_isFirst_le (state : State) :
    state.total Place.adjusts + state.total Place.isFirst ≤ state.total Place.strongly := by
  have sums : state.total Place.adjusts + state.total Place.isFirst =
      state.total fun place => place.adjusts + place.isFirst := List.sum_map_add.symm
  rw [sums]
  refine total_le_total (fun place => ?_) state
  cases place <;> simp [Place.strongly, Place.adjusts, Place.isFirst]

theorem weakly_le (state : State) : state.total Place.weakly ≤ state.total Place.isLive := by
  refine total_le_total (fun place => ?_) state
  cases place <;> simp [Place.weakly, Place.isLive]

/-! ## Links -/

theorem eq_of_length_one {place other : Place} (alone : state.places.length = 1)
    (present : place ∈ state.places) (otherPresent : other ∈ state.places) :
    place = other := by
  obtain ⟨only, same⟩ := List.length_eq_one_iff.mp alone
  rw [same, List.mem_singleton] at present otherPresent
  rw [present, otherPresent]

namespace Linked

/-- If some reference is not the first one, there is no first one any more. -/
theorem creates_eq_zero (linked : state.Linked) (present : old ∈ state.places)
    (notFresh : old.isFresh = false) : state.total Place.creates = 0 := by
  refine List.sum_eq_zero fun count counted => ?_
  obtain ⟨place, otherPresent, rfl⟩ := List.mem_map.mp counted
  by_cases isFresh : place.isFresh = true
  · have alone := (linked.fresh place otherPresent isFresh).1
    rw [eq_of_length_one alone otherPresent present, notFresh] at isFresh
    cases isFresh
  · obtain ⟨kind, source⟩ | _ := place
    case starting =>
      cases source with
      | none => exact absurd rfl isFresh
      | some source => rfl
    all_goals rfl

/-- What another reference needs stays. -/
theorem stays_set {place : Place} (stays : place.Stays state)
    (places : next.places = state.places.set index replaced)
    (notSource : place.source ≠ some index) : place.Stays next := by
  cases place with
  | starting kind source =>
      cases source with
      | none => trivial
      | some source =>
          obtain ⟨lender, isLender, isFrom⟩ := stays
          refine ⟨lender, ?_, isFrom⟩
          rw [places, List.getElem?_set_ne fun same => notSource (congrArg some same.symm)]
          exact isLender
  | raising source =>
      cases source with
      | none => trivial
      | some source =>
          change next.places[source]? = some .strong
          rw [places, List.getElem?_set_ne fun same => notSource (congrArg some same.symm)]
          exact stays
  | _ => trivial

/-- A reference goes on, from which no copy is being made. -/
theorem set (linked : state.Linked) (found : state.places[index]? = some old)
    (places : next.places = state.places.set index replaced)
    (fresh : replaced.isFresh = true → old.isFresh = true ∧ next.mStrong = state.mStrong)
    (notLent : ∀ kind : Kind, kind.isFrom old = true → state.unused index = true)
    (stays : replaced.Stays state)
    (sources : replaced.source = old.source ∨ replaced.source = none)
    (exchanging : ∀ curCount, replaced = .exchanging curCount →
      0 < curCount ∧ curCount ≠ initialStrongValue) : next.Linked := by
  obtain ⟨inside, isOld⟩ := List.getElem?_eq_some_iff.mp found
  have oldPresent := List.mem_of_getElem? found
  have notSource : ∀ place ∈ state.places, place.source ≠ some index := by
    intro place present isSource
    have unused : ∀ kind : Kind, ¬kind.isFrom old = true := by
      intro kind isFrom
      have all := List.all_eq_true.mp (notLent kind isFrom) place present
      exact of_decide_eq_true all isSource
    have placeStays := linked.stays place present
    cases place with
    | starting kind source =>
        cases isSource
        obtain ⟨lender, isLender, isFrom⟩ := placeStays
        cases isLender.symm.trans found
        exact unused kind isFrom
    | raising source =>
        cases isSource
        cases placeStays.symm.trans found
        exact unused .share rfl
    | _ => cases isSource
  refine ⟨fun place present isFresh => ?_, fun place present => ?_, fun curCount present => ?_⟩
  · rw [places] at present ⊢
    rw [List.length_set]
    have isReplaced : place = replaced := by
      obtain wasPresent | isNew := List.mem_or_eq_of_mem_set present
      · obtain ⟨only, same⟩ :=
          List.length_eq_one_iff.mp (linked.fresh place wasPresent isFresh).1
        have first : index = 0 := by
          rw [same, List.length_singleton] at inside
          omega
        rw [same, first] at present
        exact List.mem_singleton.mp present
      · exact isNew
    obtain ⟨oldFresh, sameStrong⟩ := fresh (isReplaced ▸ isFresh)
    rw [sameStrong]
    exact linked.fresh old oldPresent oldFresh
  · rw [places] at present
    obtain wasPresent | rfl := List.mem_or_eq_of_mem_set present
    · exact stays_set (linked.stays place wasPresent) places (notSource place wasPresent)
    · refine stays_set stays places fun isSource => ?_
      obtain same | none := sources
      · exact notSource old oldPresent (same.symm.trans isSource)
      · cases none.symm.trans isSource
  · rw [places] at present
    obtain wasPresent | isNew := List.mem_or_eq_of_mem_set present
    · exact linked.exchanging curCount wasPresent
    · exact exchanging curCount isNew.symm

end Linked

/-- What the sums are after a reference went on. -/
structure Totals (state next : State) (old replaced : Place) : Prop where
  weakly : next.total Place.weakly + old.weakly = state.total Place.weakly + replaced.weakly
  strongly : next.total Place.strongly + old.strongly =
    state.total Place.strongly + replaced.strongly
  adjusts : next.total Place.adjusts + old.adjusts =
    state.total Place.adjusts + replaced.adjusts
  isFirst : next.total Place.isFirst + old.isFirst =
    state.total Place.isFirst + replaced.isFirst
  isLast : next.total Place.isLast + old.isLast = state.total Place.isLast + replaced.isLast
  ends : next.total Place.ends + old.ends = state.total Place.ends + replaced.ends
  creates : next.total Place.creates + old.creates =
    state.total Place.creates + replaced.creates
  live : next.total Place.isLive ≤ state.total Place.isLive

theorem totals_set (found : state.places[index]? = some old)
    (places : next.places = state.places.set index replaced) (lives : old ≠ .gone) :
    Totals state next old replaced where
  weakly := total_set found places _
  strongly := total_set found places _
  adjusts := total_set found places _
  isFirst := total_set found places _
  isLast := total_set found places _
  ends := total_set found places _
  creates := total_set found places _
  live := by
    have moved := total_set found places Place.isLive
    have one : old.isLive = 1 := by cases old <;> first | rfl | exact absurd rfl lives
    have bounded : replaced.isLive ≤ 1 := by cases replaced <;> simp [Place.isLive]
    omega

end State
end RefBase
end Skplat
