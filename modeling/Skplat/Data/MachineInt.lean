import Mathlib.Algebra.Ring.Int.Defs
import Mathlib.Algebra.Ring.Nat

/-!
# Conversions between integer types

Converting to a signed type keeps the value modulo a power of two and converting to
an unsigned type likewise, so a value in the range of the target is kept.
-/

namespace Skplat
namespace MachineInt

/-- Conversion to a signed type of 32 bits. -/
def toInt32 (value : Int) : Int :=
  value.bmod (2 ^ 32)

theorem toInt32_lower (value : Int) : -2 ^ 31 ≤ toInt32 value := by
  have lower := Int.le_bmod (x := value) (m := 2 ^ 32) (by decide)
  unfold toInt32
  omega

theorem toInt32_upper (value : Int) : toInt32 value < 2 ^ 31 := by
  have upper := Int.bmod_lt (x := value) (m := 2 ^ 32) (by decide)
  unfold toInt32
  omega

/-- The converted value is the value iff the type can hold it. -/
theorem toInt32_eq_self_iff {value : Int} :
    toInt32 value = value ↔ -2 ^ 31 ≤ value ∧ value < 2 ^ 31 := by
  constructor
  · intro same
    rw [← same]
    exact ⟨toInt32_lower value, toInt32_upper value⟩
  · rintro ⟨lower, upper⟩
    exact Int.bmod_eq_of_le (by omega) (by omega)

theorem toInt32_of_nonneg {value : Int} (nonneg : 0 ≤ value) (small : value < 2 ^ 31) :
    toInt32 value = value :=
  toInt32_eq_self_iff.mpr ⟨by omega, small⟩

/-- A natural number keeps its value modulo `2 ^ 32`. -/
theorem toInt32_natCast (value : Nat) :
    toInt32 value =
      if value % 2 ^ 32 < 2 ^ 31 then ((value % 2 ^ 32 : Nat) : Int)
      else (value % 2 ^ 32 : Nat) - 2 ^ 32 := by
  unfold toInt32
  rw [Int.bmod_eq_emod]
  by_cases low : value % 2 ^ 32 < 2 ^ 31
  · rw [if_pos low, if_neg (by omega)]
    omega
  · rw [if_neg low, if_pos (by omega)]
    omega

end MachineInt
end Skplat
