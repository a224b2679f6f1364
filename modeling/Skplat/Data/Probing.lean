import Mathlib.Data.Nat.ModEq
import Mathlib.Data.Nat.Prime.Basic
import Mathlib.Data.Fintype.EquivFin

/-!
# Double hashing

The buckets of a table of prime size that are visited from a start with a fixed increment:
each of them is visited once in as many steps as the table has buckets.
-/

namespace Skplat

/-- The bucket that is visited after some steps. -/
def probe (start increment count : Nat) (steps : Nat) : Nat :=
  (start + steps * increment) % count

variable {start increment count : Nat}

theorem probe_lt (positive : 0 < count) (steps : Nat) :
    probe start increment count steps < count :=
  Nat.mod_lt _ positive

theorem probe_zero (small : start < count) : probe start increment count 0 = start := by
  rw [probe, Nat.zero_mul, Nat.add_zero, Nat.mod_eq_of_lt small]

theorem probe_succ (steps : Nat) :
    probe start increment count (steps + 1) =
      (probe start increment count steps + increment) % count := by
  rw [probe, probe, Nat.mod_add_mod, Nat.succ_mul, Nat.add_assoc]

/-- No bucket is visited twice. -/
theorem probe_injective (prime : count.Prime) (positive : 0 < increment)
    (small : increment < count) {steps other : Nat} (inside : steps < count)
    (otherInside : other < count)
    (same : probe start increment count steps = probe start increment count other) :
    steps = other := by
  have coprime : count.gcd increment = 1 :=
    Nat.Coprime.gcd_eq_one
      ((Nat.Prime.coprime_iff_not_dvd prime).mpr (Nat.not_dvd_of_pos_of_lt positive small))
  have products : steps * increment ≡ other * increment [MOD count] :=
    Nat.ModEq.add_left_cancel' start same
  have steps_eq := Nat.ModEq.cancel_right_of_coprime coprime products
  rwa [Nat.ModEq, Nat.mod_eq_of_lt inside, Nat.mod_eq_of_lt otherInside] at steps_eq

/-- Every bucket is visited. -/
theorem exists_probe (prime : count.Prime) (positive : 0 < increment)
    (small : increment < count) {index : Nat} (inside : index < count) :
    ∃ steps < count, probe start increment count steps = index := by
  have injective : Function.Injective fun steps : Fin count =>
      (⟨probe start increment count steps, probe_lt prime.pos steps⟩ : Fin count) := by
    intro steps other same
    exact Fin.ext (probe_injective prime positive small steps.isLt other.isLt
      (Fin.mk.inj same))
  obtain ⟨steps, isIndex⟩ := Finite.injective_iff_surjective.mp injective ⟨index, inside⟩
  exact ⟨steps, steps.isLt, Fin.mk.inj isIndex⟩

end Skplat
