import Mathlib.Data.List.TakeWhile
import Skplat.Data.MachineInt

/-!
# Numbers in C texts

The decimal numbers that `printf` writes, and the number that `strtol` and `atoi` read at the
beginning of a text.  A `long` has 64 bits.
-/

namespace Skplat
namespace Numeral

open MachineInt (toInt32 toInt32_of_nonneg)

/-- `isspace`. -/
def isSpace (byte : UInt8) : Bool :=
  byte == 32 || decide (9 ≤ byte ∧ byte ≤ 13)

/-- The value of a digit or a letter, and 36 for any other byte. -/
def byteValue (byte : UInt8) : Nat :=
  if 48 ≤ byte ∧ byte ≤ 57 then byte.toNat - 48
  else if 97 ≤ byte ∧ byte ≤ 122 then byte.toNat - 87
  else if 65 ≤ byte ∧ byte ≤ 90 then byte.toNat - 55
  else 36

/-- The number that digits stand for. -/
def ofDigits (base : Nat) (digits : List UInt8) : Nat :=
  digits.foldl (fun number byte => base * number + byteValue byte) 0

/-- A sign, and what follows it. -/
def splitSign : List UInt8 → Bool × List UInt8
  | 45 :: rest => (true, rest)
  | 43 :: rest => (false, rest)
  | text => (false, text)

/-- A hexadecimal number may begin with `0x`. -/
def skipPrefix (base : Nat) : List UInt8 → List UInt8
  | 48 :: letter :: digit :: rest =>
      if base = 16 ∧ (letter = 120 ∨ letter = 88) ∧ byteValue digit < 16 then digit :: rest
      else 48 :: letter :: digit :: rest
  | text => text

/-- The nearest `long`. -/
def clamp (value : Int) : Int :=
  if value < -2 ^ 63 then -2 ^ 63 else if 2 ^ 63 - 1 < value then 2 ^ 63 - 1 else value

/-- `strtol`. -/
def strtol (base : Nat) (text : List UInt8) : Int :=
  let (negative, unsigned) := splitSign (text.dropWhile isSpace)
  let value : Int := ofDigits base
    ((skipPrefix base unsigned).takeWhile fun byte => decide (byteValue byte < base))
  clamp (if negative then -value else value)

/-- `atoi`. -/
def atoi (text : List UInt8) : Int :=
  toInt32 (strtol 10 text)

/-- The digits of a natural number. -/
def digits (number : Nat) : List UInt8 :=
  (Nat.toDigits 10 number).map fun digit => UInt8.ofNat digit.toNat

/-- `%d`. -/
def decimal (number : Int) : List UInt8 :=
  (if number < 0 then [45] else []) ++ digits number.natAbs

variable {base number : Nat} {text rest : List UInt8} {byte : UInt8}

/-! ## Digits -/

/-- A digit is neither white space nor a sign. -/
theorem of_byteValue_lt (small : byteValue byte < 36) :
    isSpace byte = false ∧ byte ≠ 45 ∧ byte ≠ 43 := by
  unfold byteValue at small
  simp only [isSpace, UInt8.le_iff_toNat_le, Bool.or_eq_false_iff, beq_eq_false_iff_ne,
    decide_eq_false_iff_not, ne_eq, ← UInt8.toNat_inj, UInt8.reduceToNat] at small ⊢
  split at small
  · omega
  · split at small
    · omega
    · split at small
      · omega
      · omega

theorem skipPrefix_of_ne (decimal : base ≠ 16) (text : List UInt8) :
    skipPrefix base text = text := by
  unfold skipPrefix
  split
  · rw [if_neg fun hexadecimal => decimal hexadecimal.1]
  · rfl

/-- A text that begins with a digit has neither white space nor a sign in front. -/
theorem strtol_cons (small : byteValue byte < 36) (rest : List UInt8) :
    strtol base (byte :: rest) =
      clamp (ofDigits base ((skipPrefix base (byte :: rest)).takeWhile
        fun byte => decide (byteValue byte < base))) := by
  obtain ⟨notSpace, notMinus, notPlus⟩ := of_byteValue_lt small
  have unsigned : splitSign (byte :: rest) = (false, byte :: rest) := by
    unfold splitSign
    split
    · rename_i minus
      exact absurd (List.cons.inj minus).1 notMinus
    · rename_i plus
      exact absurd (List.cons.inj plus).1 notPlus
    · rfl
  rw [strtol, List.dropWhile_cons_of_neg (by simp [notSpace]), unsigned]
  rfl

/-- What is read of a decimal number that something else follows. -/
theorem strtol_ten_append
    (nonempty : text ≠ []) (areDigits : ∀ byte ∈ text, byteValue byte < 10)
    (ends : ∀ byte ∈ rest.head?, 10 ≤ byteValue byte) :
    strtol 10 (text ++ rest) = clamp (ofDigits 10 text) := by
  obtain ⟨first, others, rfl⟩ := List.exists_cons_of_ne_nil nonempty
  have small := areDigits first List.mem_cons_self
  have read : ((first :: others) ++ rest).takeWhile
      (fun byte => decide (byteValue byte < 10)) = first :: others := by
    rw [List.takeWhile_append_of_pos fun byte present =>
      decide_eq_true (areDigits byte present)]
    cases rest with
    | nil => rw [List.takeWhile_nil, List.append_nil]
    | cons next rest =>
        have stops := ends next rfl
        rw [List.takeWhile_cons_of_neg (by simpa using stops), List.append_nil]
  rw [List.cons_append, strtol_cons (by omega), skipPrefix_of_ne (by decide),
    ← List.cons_append, read]

/-- `atoi` reads a number that an `int` can hold. -/
theorem atoi_append
    (nonempty : text ≠ []) (areDigits : ∀ byte ∈ text, byteValue byte < 10)
    (ends : ∀ byte ∈ rest.head?, 10 ≤ byteValue byte)
    (fits : ofDigits 10 text < 2 ^ 31) :
    atoi (text ++ rest) = ofDigits 10 text := by
  rw [atoi, strtol_ten_append nonempty areDigits ends, clamp, if_neg (by omega),
    if_neg (by omega)]
  exact toInt32_of_nonneg (by omega) (by omega)

/-- A hexadecimal number of two digits. -/
theorem strtol_sixteen_pair
    {high low : UInt8} (highSmall : byteValue high < 16) (lowSmall : byteValue low < 16)
    (ends : ∀ byte ∈ rest.head?, 16 ≤ byteValue byte) :
    strtol 16 (high :: low :: rest) = (16 * byteValue high + byteValue low : Nat) := by
  have noPrefix : skipPrefix 16 (high :: low :: rest) = high :: low :: rest := by
    unfold skipPrefix
    split
    · rename_i letter digit more same
      rw [List.cons.injEq, List.cons.injEq] at same
      obtain ⟨rfl, rfl, rfl⟩ := same
      refine if_neg ?_
      rintro ⟨-, rfl | rfl, -⟩
      · exact absurd lowSmall (by decide)
      · exact absurd lowSmall (by decide)
    · rfl
  have read : (high :: low :: rest).takeWhile (fun byte => decide (byteValue byte < 16)) =
      [high, low] := by
    rw [List.takeWhile_cons_of_pos (by simpa using highSmall),
      List.takeWhile_cons_of_pos (by simpa using lowSmall)]
    cases rest with
    | nil => rfl
    | cons next rest =>
        have stops := ends next rfl
        rw [List.takeWhile_cons_of_neg (by simpa using stops)]
  rw [strtol_cons (by omega), noPrefix, read, ofDigits, List.foldl_cons, List.foldl_cons,
    List.foldl_nil, Nat.mul_zero, Nat.zero_add, clamp, if_neg (by omega), if_neg (by omega)]

/-! ## Decimal numbers -/

theorem byteValue_digitChar :
    ∀ digit < 10, byteValue (UInt8.ofNat digit.digitChar.toNat) = digit := by
  decide

theorem ofDigits_append_singleton (base : Nat) (text : List UInt8) (byte : UInt8) :
    ofDigits base (text ++ [byte]) = base * ofDigits base text + byteValue byte := by
  rw [ofDigits, List.foldl_append, ← ofDigits]
  rfl

/-- The digits of a number are digits, and they stand for it. -/
theorem digits_spec (number : Nat) :
    digits number ≠ [] ∧ (∀ byte ∈ digits number, byteValue byte < 10) ∧
      ofDigits 10 (digits number) = number := by
  induction number using Nat.strongRecOn with
  | _ number inductionHypothesis =>
      by_cases small : number < 10
      · have single : digits number = [UInt8.ofNat number.digitChar.toNat] := by
          rw [digits, Nat.toDigits_of_lt_base small]
          rfl
        have value := byteValue_digitChar number small
        rw [single]
        refine ⟨List.cons_ne_nil _ _, ?_, ?_⟩
        · intro byte present
          rw [List.mem_singleton.mp present, value]
          exact small
        · rw [ofDigits, List.foldl_cons, List.foldl_nil, value, Nat.mul_zero,
            Nat.zero_add]
      · have step : digits number =
            digits (number / 10) ++ [UInt8.ofNat (number % 10).digitChar.toNat] := by
          rw [digits, Nat.toDigits_of_base_le (by decide) (by omega), List.map_append]
          rfl
        have value := byteValue_digitChar (number % 10) (Nat.mod_lt _ (by decide))
        obtain ⟨_, areDigits, front⟩ := inductionHypothesis (number / 10) (by omega)
        rw [step]
        refine ⟨by simp, ?_, ?_⟩
        · intro byte present
          rcases List.mem_append.mp present with inFront | last
          · exact areDigits byte inFront
          · rw [List.mem_singleton.mp last, value]
            omega
        · rw [ofDigits_append_singleton, front, value]
          omega

/-- `atoi` reads what `%d` has written. -/
theorem atoi_digits_append
    (fits : number < 2 ^ 31) (ends : ∀ byte ∈ rest.head?, 10 ≤ byteValue byte) :
    atoi (digits number ++ rest) = number := by
  obtain ⟨nonempty, areDigits, value⟩ := digits_spec number
  rw [atoi_append nonempty areDigits ends (by rwa [value]), value]

end Numeral
end Skplat
