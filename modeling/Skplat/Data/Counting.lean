import Mathlib.Algebra.BigOperators.Group.Finset.Piecewise
import Mathlib.Data.Fintype.Card

/-!
# Counting the members of a finite family

How many members of a family pass a test, and how that changes when one member is
replaced.
-/

namespace Skplat

variable {Index Value : Type*} [Fintype Index]

/-- The number of members that pass a test. -/
def count (test : Value → Bool) (family : Index → Value) : Nat :=
  (Finset.univ.filter fun index => test (family index) = true).card

variable {test : Value → Bool} {family : Index → Value}

/-- Nothing is counted if no member passes. -/
theorem count_eq_zero (none : ∀ index, test (family index) = false) :
    count test family = 0 := by
  rw [count, Finset.card_eq_zero, Finset.filter_eq_empty_iff]
  intro index _
  simp [none index]

/-- All members pass if as many as there are pass. -/
theorem test_of_card_le_count
    (all : Fintype.card Index ≤ count test family)
    (index : Index) :
    test (family index) = true := by
  have full := Finset.eq_univ_of_card _
    ((Finset.card_le_univ _).antisymm all)
  have member : index ∈ Finset.univ.filter fun index => test (family index) = true := by
    rw [full]
    exact Finset.mem_univ index
  exact (Finset.mem_filter.mp member).2

/-- Replacing a member counts the new one instead of the old one. -/
theorem count_update
    [DecidableEq Index]
    (test : Value → Bool) (family : Index → Value) (index : Index) (value : Value) :
    count test (Function.update family index value) + (test (family index)).toNat =
      count test family + (test value).toNat := by
  have summed : ∀ other : Index → Value,
      count test other = ∑ i, (test (other i)).toNat := by
    intro other
    rw [count, Finset.card_filter]
    refine Finset.sum_congr rfl fun i _ => ?_
    cases test (other i) <;> rfl
  have pushed : ∀ i, (test (Function.update family index value i)).toNat =
      Function.update (fun j => (test (family j)).toNat) index (test value).toNat i :=
    fun i => Function.apply_update (fun _ member => (test member).toNat) family index
      value i
  rw [summed, summed, Finset.sum_congr rfl fun i _ => pushed i,
    Finset.sum_update_of_mem (Finset.mem_univ index),
    ← Finset.add_sum_erase Finset.univ (fun j => (test (family j)).toNat)
      (Finset.mem_univ index), Finset.sdiff_singleton_eq_erase]
  omega

/-- Replacing a member by one that tests alike changes nothing. -/
theorem count_update_same
    [DecidableEq Index]
    {index : Index} {value : Value}
    (same : test value = test (family index)) :
    count test (Function.update family index value) = count test family := by
  have replaced := count_update test family index value
  rw [same] at replaced
  exact Nat.add_right_cancel replaced

end Skplat
