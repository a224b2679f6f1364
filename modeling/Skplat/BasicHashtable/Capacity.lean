import Mathlib.Tactic.NormNum.Prime
import Skplat.BasicHashtable.Chains
import Skplat.Data.LucasTest

/-!
# Capacities

`determineCapacity` gives a prime number of buckets, of which one stays free, and a capacity of
more than half of the minimum.  Its five roundings can only make it less than the minimum if
that is 2^22 or more.
-/

namespace Skplat
namespace BasicHashtable

open Binary32

/-! ## `PRIMES` -/

theorem prime_52679969 : Nat.Prime 52679969 := by
  have passes : PassesLucas 26 52679969 6 [2, 2, 2, 2, 2, 11, 103, 1453] := by decide +kernel
  exact passes.prime (by norm_num)

/-- The last ones are too large for trial divisions. -/
theorem prime_of_mem_primes : ∀ prime ∈ primes, prime.Prime := by
  have small : ∀ prime ∈ primes.take 22, prime.Prime := by
    simp only [primes, List.take_succ_cons, List.take_zero, List.forall_mem_cons,
      List.not_mem_nil, IsEmpty.forall_iff, implies_true, and_true]
    norm_num
  have large : ∀ prime ∈ primes.drop 22, prime.Prime := by
    have first : PassesLucas 25 26339969 3 [2, 2, 2, 2, 2, 2, 2, 23, 23, 389] := by
      decide +kernel
    have third : PassesLucas 27 105359939 2 [2, 52679969] := by decide +kernel
    have fourth : PassesLucas 28 210719881 13 [2, 2, 2, 3, 3, 3, 3, 3, 5, 7, 19, 163] := by
      decide +kernel
    have fifth : PassesLucas 29 421439783 5 [2, 53, 67, 59341] := by decide +kernel
    have sixth : PassesLucas 30 842879579 2 [2, 61, 313, 22073] := by decide +kernel
    have last : PassesLucas 31 1685759167 6 [2, 3, 3, 7, 13, 1029157] := by decide +kernel
    simp only [primes, List.drop_succ_cons, List.drop_zero, List.forall_mem_cons,
      List.not_mem_nil, IsEmpty.forall_iff, implies_true, and_true]
    refine ⟨first.prime (by norm_num), prime_52679969, third.prime ?_,
      fourth.prime (by norm_num), fifth.prime (by norm_num), sixth.prime (by norm_num),
      last.prime (by norm_num)⟩
    simp only [List.forall_mem_cons, List.not_mem_nil, IsEmpty.forall_iff, implies_true, and_true]
    exact ⟨Nat.prime_two, prime_52679969⟩
  intro prime present
  rw [← List.take_append_drop 22 primes, List.mem_append] at present
  exact present.elim (small prime) (large prime)

/-! ## `determineCapacity` -/

variable {minimum count capacity : Nat} {loadFactor : Number}

/-- What is determined. -/
structure Determined (minimum : Nat) (loadFactor : ℚ) (count capacity : Nat) : Prop where
  positive : 0 < loadFactor
  small : loadFactor ≤ 1
  isCount : count ∈ primes
  needed : ⌊nearest (⌈nearest (nearest minimum / loadFactor)⌉₊ + 1)⌋₊ ≤ count
  capacity : capacity = ⌈nearest (nearest (count - 1 : Nat) * loadFactor)⌉₊

theorem determined_of_eq
    (determined : determineCapacity minimum loadFactor = some (count, capacity)) :
    Determined minimum loadFactor.value count capacity := by
  rw [determineCapacity] at determined
  obtain ⟨valid, determined⟩ := Option.ite_none_left_eq_some.mp determined
  obtain ⟨prime, isPrime, same⟩ := Option.map_eq_some_iff.mp determined
  cases same
  rw [not_or, not_le, not_lt] at valid
  have needed := List.find?_some isPrime
  exact ⟨valid.1, valid.2, List.mem_of_find?_eq_some isPrime, of_decide_eq_true needed, rfl⟩

/-- All buckets but one, as a number. -/
theorem nearest_pred_of_mem_primes : ∀ prime ∈ primes,
    nearest (prime - 1 : Nat) ≤ (prime - 1 : Nat) ∧
      nearest (nearest (prime - 1 : Nat)) = nearest (prime - 1 : Nat) := by
  decide +kernel

theorem five_le_of_mem_primes : ∀ prime ∈ primes, 5 ≤ prime := by
  decide

namespace Determined

variable {factor : ℚ}

/-- The quotient, the sum with one and their conversions to the number of buckets. -/
theorem le_pred (determined : Determined minimum factor count capacity)
    (large : 1 / 2 ≤ nearest minimum) :
    nearest minimum * (1 - 1 / 2 ^ 24) ^ 2 - 1 / 2 ^ 24 ≤ ((count - 1 : Nat) : ℚ) * factor := by
  have positive := determined.positive
  have small := determined.small
  have counts := five_le_of_mem_primes count determined.isCount
  have needed := determined.needed
  have quotient : 1 / 2 ≤ nearest minimum / factor := by
    rw [le_div_iff₀ positive]
    linarith
  have divided : nearest minimum / factor * (1 - 1 / 2 ^ 24) ≤
      nearest (nearest minimum / factor) :=
    le_nearest (le_trans (by norm_num) quotient)
  have rounded := Nat.le_ceil (nearest (nearest minimum / factor))
  generalize ⌈nearest (nearest minimum / factor)⌉₊ = ceiling at needed rounded
  have successor : (ceiling + 1 : ℚ) * (1 - 1 / 2 ^ 24) ≤ nearest (ceiling + 1) :=
    le_nearest (le_trans (by norm_num) (le_add_of_nonneg_left (Nat.cast_nonneg ceiling)))
  obtain ⟨whole, isWhole, -⟩ := exists_nearest_natCast (ceiling + 1)
  rw [Nat.cast_succ] at isWhole
  rw [isWhole, Nat.floor_natCast] at needed
  rw [isWhole] at successor
  have enough : (whole : ℚ) ≤ ((count - 1 : Nat) : ℚ) + 1 := by
    exact_mod_cast (by omega : whole ≤ count - 1 + 1)
  -- the sum loses at most 1 / 2 ^ 24 more than the quotient
  have scaled : nearest minimum * (1 - 1 / 2 ^ 24) ≤ ceiling * factor := by
    calc nearest minimum * (1 - 1 / 2 ^ 24)
        = nearest minimum / factor * (1 - 1 / 2 ^ 24) * factor := by
          field_simp
      _ ≤ ceiling * factor :=
          mul_le_mul_of_nonneg_right (divided.trans rounded) positive.le
  have multiplied := mul_le_mul_of_nonneg_right (successor.trans enough) positive.le
  nlinarith

/-- The product loses two further 2^24th parts. -/
theorem le_capacity (determined : Determined minimum factor count capacity)
    (large : 1 / 2 ≤ nearest minimum) :
    nearest minimum * (1 - 1 / 2 ^ 24) ^ 4 - 1 / 2 ^ 24 ≤ capacity := by
  have counts := five_le_of_mem_primes count determined.isCount
  have positive := determined.positive
  have pred := determined.le_pred large
  have many : (1 : ℚ) ≤ ((count - 1 : Nat) : ℚ) := by
    exact_mod_cast (by omega : 1 ≤ count - 1)
  have converted := le_nearest (le_trans (by norm_num) many)
  have product : nearest minimum * (1 - 1 / 2 ^ 24) ^ 3 - 1 / 2 ^ 24 ≤
      nearest (count - 1 : Nat) * factor := by
    have scaled := mul_le_mul_of_nonneg_right converted positive.le
    nlinarith
  have notSmall : (2 : ℚ) ^ (-126 : ℤ) ≤ nearest (count - 1 : Nat) * factor := by
    refine le_trans ?_ product
    norm_num
    linarith
  have rounded := (le_nearest notSmall).trans (Nat.le_ceil _)
  rw [← determined.capacity] at rounded
  nlinarith

theorem positive_capacity (determined : Determined minimum loadFactor.value count capacity) :
    0 < capacity := by
  have counts := five_le_of_mem_primes count determined.isCount
  have many : (1 : ℚ) ≤ ((count - 1 : Nat) : ℚ) := by
    exact_mod_cast (by omega : 1 ≤ count - 1)
  obtain ⟨whole, isWhole, -⟩ := exists_nearest_natCast (count - 1)
  have one : (1 : ℚ) ≤ nearest (count - 1 : Nat) := by
    have converted := le_nearest (le_trans (by norm_num) many)
    have positive : 0 < nearest (count - 1 : Nat) := by linarith
    rw [isWhole] at positive ⊢
    exact_mod_cast positive
  have kept := nearest_mono determined.positive
    (le_mul_of_one_le_left determined.positive.le one)
  rw [loadFactor.isNumber] at kept
  rw [determined.capacity, Nat.ceil_pos]
  exact determined.positive.trans_le kept

theorem capacity_lt (determined : Determined minimum factor count capacity) :
    capacity < count := by
  have counts := five_le_of_mem_primes count determined.isCount
  obtain ⟨below, same⟩ := nearest_pred_of_mem_primes count determined.isCount
  have notNegative := nearest_nonneg (Nat.cast_nonneg (α := ℚ) (count - 1))
  have product : nearest (nearest (count - 1 : Nat) * factor) ≤ (count - 1 : Nat) := by
    obtain zero | positive := notNegative.eq_or_lt
    · rw [← zero, zero_mul, ← Nat.cast_zero]
      obtain ⟨whole, isWhole, kept⟩ := exists_nearest_natCast 0
      rw [isWhole, kept (by decide)]
      exact_mod_cast Nat.zero_le _
    · have less := nearest_mono (mul_pos positive determined.positive)
        (mul_le_of_le_one_right notNegative determined.small)
      rw [same] at less
      exact less.trans below
  have bounded := Nat.ceil_le.mpr product
  rw [← determined.capacity] at bounded
  omega

end Determined

/-- What `determineCapacity` gives. -/
structure Suits (minimum count capacity : Nat) : Prop where
  isCount : IsBucketCount count
  positive : 0 < capacity
  free : capacity < count
  half : minimum < 2 * capacity
  enough : minimum < 2 ^ 22 → minimum ≤ capacity

theorem suits_of_determineCapacity
    (isSome : determineCapacity minimum loadFactor = some (count, capacity)) :
    Suits minimum count capacity := by
  have determined := determined_of_eq isSome
  have counts := five_le_of_mem_primes count determined.isCount
  have positive := determined.positive_capacity
  have isCount : IsBucketCount count := ⟨prime_of_mem_primes count determined.isCount, by omega⟩
  obtain ⟨whole, isWhole, kept⟩ := exists_nearest_natCast minimum
  by_cases zero : minimum = 0
  · exact ⟨isCount, positive, determined.capacity_lt, by omega, fun _ => by omega⟩
  · have one : (1 : ℚ) ≤ minimum := by
      exact_mod_cast Nat.pos_of_ne_zero zero
    have converted := le_nearest (le_trans (by norm_num) one)
    have bounded := determined.le_capacity (by linarith)
    refine ⟨isCount, positive, determined.capacity_lt, ?_, fun small => ?_⟩
    · have half : (minimum : ℚ) < 2 * capacity := by nlinarith
      exact_mod_cast half
    · rw [isWhole, kept (by omega)] at bounded
      have few : (minimum : ℚ) ≤ 2 ^ 22 - 1 := by
        have cast : ((minimum + 1 : Nat) : ℚ) ≤ ((2 ^ 22 : Nat) : ℚ) := by exact_mod_cast small
        push_cast at cast
        linarith
      have near : (minimum : ℚ) < capacity + 1 := by nlinarith
      exact Nat.lt_succ_iff.mp (by exact_mod_cast near)

end BasicHashtable
end Skplat
