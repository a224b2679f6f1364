import Mathlib.NumberTheory.LucasPrimality

/-!
# Lucas' test by computation

A number is prime if some base has the order of its predecessor, which the prime factors of the
predecessor decide.  The powers are computed by squaring.
-/

namespace Skplat

/-- A power modulo a number, for an exponent of at most so many binary digits. -/
def powMod (modulus base : ℕ) : ℕ → ℕ → ℕ
  | 0, _ => 1 % modulus
  | digits + 1, exponent =>
      let half := powMod modulus base digits (exponent / 2)
      if exponent % 2 = 0 then half * half % modulus
      else half * half % modulus * base % modulus

variable {modulus base number digits exponent : ℕ} {factors : List ℕ}

theorem powMod_eq (small : exponent < 2 ^ digits) :
    powMod modulus base digits exponent = base ^ exponent % modulus := by
  induction digits generalizing exponent with
  | zero =>
      rw [Nat.pow_zero, Nat.lt_one_iff] at small
      rw [small, powMod, Nat.pow_zero]
  | succ digits ih =>
      have halves := Nat.div_add_mod exponent 2
      have square : base ^ (exponent / 2) % modulus * (base ^ (exponent / 2) % modulus) % modulus =
          base ^ (2 * (exponent / 2)) % modulus := by
        rw [← Nat.mul_mod, ← Nat.pow_add, ← Nat.two_mul]
      rw [powMod, ih (by omega)]
      rw [square]
      split
      · rw [show 2 * (exponent / 2) = exponent by omega]
      · rw [Nat.mod_mul_mod, ← Nat.pow_succ, show (2 * (exponent / 2)).succ = exponent by omega]

/-- The test for a base and the prime factors of the predecessor. -/
def PassesLucas (digits number base : ℕ) (factors : List ℕ) : Prop :=
  1 < number ∧ number < 2 ^ digits ∧ factors.prod = number - 1 ∧
    powMod number base digits (number - 1) = 1 ∧
    ∀ factor ∈ factors, powMod number base digits ((number - 1) / factor) ≠ 1

instance : Decidable (PassesLucas digits number base factors) :=
  inferInstanceAs (Decidable (_ ∧ _ ∧ _ ∧ _ ∧ _))

theorem PassesLucas.prime (passes : PassesLucas digits number base factors)
    (arePrime : ∀ factor ∈ factors, factor.Prime) : number.Prime := by
  obtain ⟨large, small, product, power, powers⟩ := passes
  have isOne : ∀ exponent ≤ number - 1, (base : ZMod number) ^ exponent = 1 ↔
      powMod number base digits exponent = 1 := by
    intro exponent few
    have cast := ZMod.natCast_eq_natCast_iff' (base ^ exponent) 1 number
    rw [powMod_eq (by omega)]
    rwa [Nat.cast_pow, Nat.cast_one, Nat.mod_eq_of_lt large] at cast
  refine lucas_primality number base ((isOne _ (Nat.le_refl _)).mpr power) ?_
  intro factor isPrime divides
  rw [← product, Prime.dvd_prod_iff isPrime.prime] at divides
  obtain ⟨other, present, divides⟩ := divides
  obtain rfl := (Nat.prime_dvd_prime_iff_eq isPrime (arePrime other present)).mp divides
  rw [ne_eq, isOne _ (Nat.div_le_self _ _)]
  exact powers factor present

end Skplat
