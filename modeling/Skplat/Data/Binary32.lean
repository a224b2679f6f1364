import Mathlib.Data.Int.Log
import Mathlib.Data.Rat.Floor
import Mathlib.Tactic.Linarith
import Mathlib.Tactic.NormNum

/-!
# Rounding to 24 bits

The result of an operation on binary32 numbers is the exact one, rounded to the nearest number
of 24 bits, or to the even one of two.  The numbers here are not negative, and there is no
largest one.

Rounding is monotone, keeps what is a number already, and changes a value that is not too small
by a 2^24th part at most.
-/

namespace Skplat
namespace Binary32

/-- The nearest integer, or the even one of two. -/
def roundEven (value : ℚ) : ℤ :=
  if value - ⌊value⌋ < 1 / 2 then ⌊value⌋
  else if 1 / 2 < value - ⌊value⌋ then ⌊value⌋ + 1
  else if ⌊value⌋ % 2 = 0 then ⌊value⌋
  else ⌊value⌋ + 1

/-- The numbers around a value are the multiples of a power of two. -/
def exponent (value : ℚ) : ℤ := max (Int.log 2 value - 23) (-149)

/-- The nearest number. -/
def nearest (value : ℚ) : ℚ := roundEven (value / 2 ^ exponent value) * 2 ^ exponent value

/-- A number that is not negative. -/
structure Number where
  value : ℚ
  /-- Rounding keeps it. -/
  isNumber : nearest value = value
  deriving DecidableEq

/-! ## Integers -/

theorem roundEven_cases (value : ℚ) :
    (roundEven value = ⌊value⌋ ∧ value - ⌊value⌋ ≤ 1 / 2) ∨
      (roundEven value = ⌊value⌋ + 1 ∧ 1 / 2 ≤ value - ⌊value⌋) := by
  rw [roundEven]
  split
  · exact Or.inl ⟨rfl, by linarith⟩
  · split
    · exact Or.inr ⟨rfl, by linarith⟩
    · split
      · exact Or.inl ⟨rfl, by linarith⟩
      · exact Or.inr ⟨rfl, by linarith⟩

theorem roundEven_intCast (value : ℤ) : roundEven value = value := by
  rw [roundEven, Int.floor_intCast, sub_self, if_pos (by norm_num)]

theorem abs_roundEven_sub_le (value : ℚ) : |(roundEven value : ℚ) - value| ≤ 1 / 2 := by
  have below := Int.floor_le value
  have above := Int.lt_floor_add_one value
  rw [abs_le]
  obtain ⟨isBelow, near⟩ | ⟨isAbove, near⟩ := roundEven_cases value
  · rw [isBelow]
    constructor <;> linarith
  · rw [isAbove]
    push_cast
    constructor <;> linarith

theorem roundEven_mono {value other : ℚ} (less : value ≤ other) :
    roundEven value ≤ roundEven other := by
  obtain rfl | less := less.eq_or_lt
  · exact le_refl _
  have floors := Int.floor_mono less.le
  obtain ⟨isBelow, near⟩ | ⟨isAbove, near⟩ := roundEven_cases value
  · obtain ⟨otherBelow, -⟩ | ⟨otherAbove, -⟩ := roundEven_cases other <;> omega
  · obtain ⟨otherBelow, otherNear⟩ | ⟨otherAbove, -⟩ := roundEven_cases other
    · -- the other value is above the half of its own integer
      have apart : ⌊value⌋ ≠ ⌊other⌋ := by
        intro same
        rw [same] at near
        linarith
      omega
    · omega

/-! ## Numbers -/

variable {value other : ℚ}

theorem two_zpow_pos (power : ℤ) : (0 : ℚ) < 2 ^ power :=
  zpow_pos two_pos power

theorem exponent_mono (positive : 0 < value) (less : value ≤ other) :
    exponent value ≤ exponent other :=
  max_le_max_right _ (sub_le_sub_right (Int.log_mono_right positive less) 23)

theorem two_zpow_div {power unit : ℤ} (larger : unit ≤ power) :
    (2 : ℚ) ^ power / 2 ^ unit = ((2 ^ (power - unit).toNat : ℤ) : ℚ) := by
  rw [← zpow_sub₀ (by norm_num), Int.cast_pow, ← zpow_natCast,
    Int.toNat_of_nonneg (by omega)]
  norm_num

/-- A power of two is not crossed. -/
theorem nearest_le_zpow {power : ℤ} (less : value ≤ 2 ^ power) (larger : exponent value ≤ power) :
    nearest value ≤ 2 ^ power := by
  have unit := two_zpow_pos (exponent value)
  have rounds : roundEven (value / 2 ^ exponent value) ≤
      2 ^ (power - exponent value).toNat := by
    rw [← roundEven_intCast (2 ^ (power - exponent value).toNat), ← two_zpow_div larger]
    exact roundEven_mono (div_le_div_of_nonneg_right less unit.le)
  rw [nearest, ← le_div_iff₀ unit, two_zpow_div larger]
  exact_mod_cast rounds

theorem zpow_le_nearest {power : ℤ} (less : 2 ^ power ≤ value) (larger : exponent value ≤ power) :
    2 ^ power ≤ nearest value := by
  have unit := two_zpow_pos (exponent value)
  have rounds : 2 ^ (power - exponent value).toNat ≤
      roundEven (value / 2 ^ exponent value) := by
    rw [← roundEven_intCast (2 ^ (power - exponent value).toNat), ← two_zpow_div larger]
    exact roundEven_mono (div_le_div_of_nonneg_right less unit.le)
  rw [nearest, ← div_le_iff₀ unit, two_zpow_div larger]
  exact_mod_cast rounds

theorem nearest_mono (positive : 0 < value) (less : value ≤ other) :
    nearest value ≤ nearest other := by
  obtain same | larger := (exponent_mono positive less).eq_or_lt
  · rw [nearest, nearest, same]
    refine mul_le_mul_of_nonneg_right ?_ (two_zpow_pos _).le
    exact_mod_cast roundEven_mono (div_le_div_of_nonneg_right less (two_zpow_pos _).le)
  · -- the larger value is not below the power of two that ends the range of the smaller one
    have isOther : exponent other = Int.log 2 other - 23 := by
      rw [exponent, exponent, lt_max_iff] at larger
      rw [exponent]
      omega
    have logs : Int.log 2 value + 1 ≤ Int.log 2 other := by
      rw [isOther, exponent] at larger
      omega
    have below : nearest value ≤ 2 ^ Int.log 2 other := by
      refine nearest_le_zpow ?_ (by omega)
      refine (Int.lt_zpow_succ_log_self one_lt_two value).le.trans ?_
      exact zpow_le_zpow_right₀ one_le_two logs
    have above : 2 ^ Int.log 2 other ≤ nearest other :=
      zpow_le_nearest (Int.zpow_log_le_self one_lt_two (positive.trans_le less)) (by omega)
    exact below.trans above

theorem nearest_nonneg (notNegative : 0 ≤ value) : 0 ≤ nearest value := by
  refine mul_nonneg ?_ (two_zpow_pos _).le
  have rounds := roundEven_mono (div_nonneg notNegative (two_zpow_pos (exponent value)).le)
  rw [← Int.cast_zero, roundEven_intCast] at rounds
  exact_mod_cast rounds

/-- A value that is not too small loses a 2^24th part at most. -/
theorem le_nearest (large : 2 ^ (-126 : ℤ) ≤ value) :
    value * (1 - 1 / 2 ^ 24) ≤ nearest value := by
  have positive : 0 < value := (two_zpow_pos _).trans_le large
  have isExponent : exponent value = Int.log 2 value - 23 := by
    have logs := (Int.zpow_le_iff_le_log one_lt_two positive).mp (by exact_mod_cast large)
    rw [exponent]
    omega
  have unit := two_zpow_pos (exponent value)
  have small : 2 ^ exponent value ≤ value / 2 ^ 23 := by
    rw [isExponent, zpow_sub₀ (by norm_num)]
    refine div_le_div_of_nonneg_right ?_ (by norm_num)
    exact_mod_cast Int.zpow_log_le_self one_lt_two positive
  have near := (abs_le.mp (abs_roundEven_sub_le (value / 2 ^ exponent value))).1
  have scaled := mul_le_mul_of_nonneg_right near unit.le
  rw [sub_mul, div_mul_cancel₀ _ unit.ne'] at scaled
  rw [nearest]
  linarith

/-- Integers of 24 bits are numbers, and all numbers around larger ones are integers. -/
theorem exists_nearest_natCast (integer : ℕ) :
    ∃ rounded : ℕ, nearest integer = rounded ∧ (integer < 2 ^ 24 → rounded = integer) := by
  by_cases small : exponent integer ≤ 0
  · refine ⟨integer, ?_, fun _ => rfl⟩
    have whole : (integer : ℚ) / 2 ^ exponent integer =
        ((integer * 2 ^ (-exponent integer).toNat : ℤ) : ℚ) := by
      rw [Int.cast_mul, Int.cast_pow, ← zpow_natCast, Int.toNat_of_nonneg (by omega), zpow_neg,
        div_eq_mul_inv]
      norm_num
    rw [nearest, whole, roundEven_intCast, ← whole, div_mul_cancel₀ _ (two_zpow_pos _).ne']
  · have notNegative := nearest_nonneg (Nat.cast_nonneg integer)
    have whole : nearest integer =
        ((roundEven (integer / 2 ^ exponent integer) * 2 ^ (exponent integer).toNat : ℤ) : ℚ) := by
      rw [nearest, Int.cast_mul, Int.cast_pow, ← zpow_natCast, Int.toNat_of_nonneg (by omega)]
      norm_num
    rw [whole] at notNegative ⊢
    refine ⟨_, (congrArg _ (Int.toNat_of_nonneg (by exact_mod_cast notNegative)).symm).trans
      (Int.cast_natCast _), fun few => absurd ?_ small⟩
    have logs : Int.log 2 (integer : ℚ) < 24 := by
      by_cases zero : integer = 0
      · rw [zero, Nat.cast_zero, Int.log_zero_right]
        decide
      · rw [← Int.lt_zpow_iff_log_lt one_lt_two (by exact_mod_cast Nat.pos_of_ne_zero zero)]
        exact_mod_cast few
    rw [exponent]
    omega

end Binary32
end Skplat
