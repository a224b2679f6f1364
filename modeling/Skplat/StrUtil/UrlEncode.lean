import Skplat.Data.CString
import Skplat.Data.PrefixCode

/-!
# `URLEncode`

Letters, digits and four signs are copied, a space becomes a plus sign, and any other byte a
percent sign with two digits.  A `char` is compared as a signed number.
-/

namespace Skplat
namespace StrUtil

open CString (cstr)

/-- The number that a `char` is. -/
def charValue (ch : UInt8) : Int :=
  if ch.toNat < 128 then ch.toNat else ch.toNat - 256

/-- The test of the characters that are copied. -/
def isCopied (ch : UInt8) : Bool :=
  decide ((65 ≤ charValue ch ∧ charValue ch ≤ 90) ∨ (97 ≤ charValue ch ∧ charValue ch ≤ 122) ∨
    (48 ≤ charValue ch ∧ charValue ch ≤ 57) ∨ charValue ch = 46 ∨ charValue ch = 45 ∨
    charValue ch = 95 ∨ charValue ch = 42)

/-- A hexadecimal digit in upper case. -/
def upperDigit (value : Nat) : UInt8 :=
  if value < 10 then UInt8.ofNat (48 + value) else UInt8.ofNat (55 + value)

/-- `%%%02X` of an `unsigned char`. -/
def format02X (byte : UInt8) : List UInt8 :=
  [37, upperDigit (byte.toNat / 16), upperDigit (byte.toNat % 16)]

/-- The size of `transferr`. -/
def transferrSize : Nat := 4

/-- What is appended for a character. -/
def encodeChar (ch : UInt8) : List UInt8 :=
  if isCopied ch then [ch]
  else if charValue ch = 32 then [43]
  -- `snprintf` leaves room for the zero, and `append` reads up to it
  else cstr ((format02X ch).take (transferrSize - 1))

/-- `URLEncode`. -/
def urlEncode (url encode_url : List UInt8) : List UInt8 :=
  url.foldl (fun encode_url ch => encode_url ++ encodeChar ch) encode_url

/-! ## One character -/

/-- A letter, a digit, or one of `.`, `-`, `_`, `*`. -/
def IsPlainChar (byte : UInt8) : Prop :=
  (65 ≤ byte ∧ byte ≤ 90) ∨ (97 ≤ byte ∧ byte ≤ 122) ∨ (48 ≤ byte ∧ byte ≤ 57) ∨
    byte = 46 ∨ byte = 45 ∨ byte = 95 ∨ byte = 42

/-- A digit, or a letter from `A` to `F`. -/
def IsUpperDigit (byte : UInt8) : Prop :=
  (48 ≤ byte ∧ byte ≤ 57) ∨ (65 ≤ byte ∧ byte ≤ 70)

/-- A text of plain characters, plus signs, and percent signs with two digits. -/
inductive IsUrlText : List UInt8 → Prop
  | nil : IsUrlText []
  | plain {byte : UInt8} {text : List UInt8} :
      IsPlainChar byte ∨ byte = 43 → IsUrlText text → IsUrlText (byte :: text)
  | escaped {high low : UInt8} {text : List UInt8} :
      IsUpperDigit high → IsUpperDigit low → IsUrlText text →
        IsUrlText (37 :: high :: low :: text)

variable {ch other : UInt8} {first second text : List UInt8}

/-- The sign of a `char` does not matter. -/
theorem isCopied_iff : isCopied ch = true ↔ IsPlainChar ch := by
  have small := ch.toNat_lt
  rw [isCopied, decide_eq_true_eq]
  simp only [charValue, IsPlainChar, UInt8.le_iff_toNat_le, ← UInt8.toNat_inj,
    UInt8.reduceToNat]
  split
  · omega
  · omega

theorem charValue_eq_space_iff : charValue ch = 32 ↔ ch = 32 := by
  have small := ch.toNat_lt
  simp only [charValue, ← UInt8.toNat_inj, UInt8.reduceToNat]
  split
  · omega
  · omega

/-- The digits are told apart, and none of them is a zero byte. -/
theorem upperDigit_spec {value : Nat} (small : value < 16) :
    IsUpperDigit (upperDigit value) ∧
      (upperDigit value).toNat = if value < 10 then 48 + value else 55 + value := by
  simp only [upperDigit, IsUpperDigit, UInt8.le_iff_toNat_le, UInt8.reduceToNat]
  split
  · rw [UInt8.toNat_ofNat']
    omega
  · rw [UInt8.toNat_ofNat']
    omega

theorem upperDigit_injective {value another : Nat} (small : value < 16)
    (anotherSmall : another < 16) (same : upperDigit value = upperDigit another) :
    value = another := by
  have values := congrArg UInt8.toNat same
  rw [(upperDigit_spec small).2, (upperDigit_spec anotherSmall).2] at values
  split at values
  · split at values
    · omega
    · omega
  · split at values
    · omega
    · omega

/-- What stands for a byte that is not copied and no space. -/
theorem cstr_format02X (byte : UInt8) :
    cstr ((format02X byte).take (transferrSize - 1)) = format02X byte := by
  have nonzero {value : Nat} (small : value < 16) : upperDigit value ≠ 0 := by
    intro zero
    have values := (upperDigit_spec small).2
    have zeroValue : (0 : UInt8).toNat = 0 := rfl
    rw [zero, zeroValue] at values
    split at values
    · omega
    · omega
  have small := byte.toNat_lt
  have high : upperDigit (byte.toNat / 16) ≠ 0 := nonzero (by omega)
  have low : upperDigit (byte.toNat % 16) ≠ 0 := nonzero (by omega)
  change cstr (format02X byte) = format02X byte
  rw [CString.cstr_eq_self_iff, format02X]
  simp [high.symm, low.symm]

/-- A character becomes itself, a plus sign, or a percent sign with two digits. -/
theorem encodeChar_cases (ch : UInt8) :
    (IsPlainChar ch ∧ encodeChar ch = [ch]) ∨
      (ch = 32 ∧ encodeChar ch = [43]) ∨ encodeChar ch = format02X ch := by
  by_cases copied : isCopied ch = true
  · exact Or.inl ⟨isCopied_iff.mp copied, if_pos copied⟩
  · rw [encodeChar, if_neg copied]
    by_cases space : charValue ch = 32
    · exact Or.inr (Or.inl ⟨charValue_eq_space_iff.mp space, if_pos space⟩)
    · rw [if_neg space, cstr_format02X]
      exact Or.inr (Or.inr rfl)

theorem IsPlainChar.ne_sign (plain : IsPlainChar ch) : ch ≠ 43 ∧ ch ≠ 37 := by
  constructor
  · rintro rfl
    revert plain
    unfold IsPlainChar
    decide
  · rintro rfl
    revert plain
    unfold IsPlainChar
    decide

theorem format02X_injective (same : format02X ch = format02X other) : ch = other := by
  have small := ch.toNat_lt
  have otherSmall := other.toNat_lt
  rw [format02X, format02X, List.cons.injEq, List.cons.injEq, List.cons.injEq] at same
  have high := upperDigit_injective (by omega) (by omega) same.2.1
  have low := upperDigit_injective (by omega) (by omega) same.2.2.1
  exact UInt8.toNat_inj.mp (by omega)

/-- What stands for one character does not begin what stands for another one. -/
theorem eq_of_encodeChar_begins (begins : encodeChar ch <+: encodeChar other) :
    ch = other := by
  obtain ⟨plain, isChar⟩ | ⟨space, isChar⟩ | isChar := encodeChar_cases ch
  · obtain ⟨_, isOther⟩ | ⟨_, isOther⟩ | isOther := encodeChar_cases other
    · rw [isChar, isOther, List.cons_prefix_cons] at begins
      exact begins.1
    · rw [isChar, isOther, List.cons_prefix_cons] at begins
      exact absurd begins.1 plain.ne_sign.1
    · rw [isChar, isOther, format02X, List.cons_prefix_cons] at begins
      exact absurd begins.1 plain.ne_sign.2
  · obtain ⟨plain, isOther⟩ | ⟨otherSpace, _⟩ | isOther := encodeChar_cases other
    · rw [isChar, isOther, List.cons_prefix_cons] at begins
      exact absurd begins.1.symm plain.ne_sign.1
    · rw [space, otherSpace]
    · rw [isChar, isOther, format02X, List.cons_prefix_cons] at begins
      exact absurd begins.1 (by decide)
  · obtain ⟨plain, isOther⟩ | ⟨_, isOther⟩ | isOther := encodeChar_cases other
    · rw [isChar, isOther, format02X] at begins
      exact absurd begins.length_le (by simp)
    · rw [isChar, isOther, format02X] at begins
      exact absurd begins.length_le (by simp)
    · rw [isChar, isOther] at begins
      exact format02X_injective (begins.eq_of_length rfl)

/-! ## Whole texts -/

theorem urlEncode_eq (url encode_url : List UInt8) :
    urlEncode url encode_url = encode_url ++ url.flatMap encodeChar := by
  induction url generalizing encode_url with
  | nil => rw [urlEncode, List.foldl_nil, List.flatMap_nil, List.append_nil]
  | cons ch url inductionHypothesis =>
      rw [urlEncode, List.foldl_cons, ← urlEncode, inductionHypothesis, List.flatMap_cons,
        List.append_assoc]

theorem prefixFree_encodeChar : PrefixFree (Set.range encodeChar) where
  nonempty := by
    rintro ⟨ch, empty⟩
    obtain ⟨_, isChar⟩ | ⟨_, isChar⟩ | isChar := encodeChar_cases ch
    · rw [isChar] at empty
      cases empty
    · rw [isChar] at empty
      cases empty
    · rw [isChar] at empty
      cases empty
  eq_of_begins := by
    rintro _ ⟨ch, rfl⟩ _ ⟨other, rfl⟩ begins
    rw [eq_of_encodeChar_begins begins]

theorem encodeChar_injective : Function.Injective encodeChar := by
  intro ch other same
  exact eq_of_encodeChar_begins (same ▸ List.prefix_refl _)

theorem isUrlText_encodeChar_append (ch : UInt8) (isText : IsUrlText text) :
    IsUrlText (encodeChar ch ++ text) := by
  have small := ch.toNat_lt
  obtain ⟨plain, isChar⟩ | ⟨_, isChar⟩ | isChar := encodeChar_cases ch
  · rw [isChar]
    exact .plain (Or.inl plain) isText
  · rw [isChar]
    exact .plain (Or.inr rfl) isText
  · rw [isChar]
    exact .escaped (upperDigit_spec (by omega)).1 (upperDigit_spec (by omega)).1 isText

theorem isUrlText_flatMap (url : List UInt8) : IsUrlText (url.flatMap encodeChar) := by
  induction url with
  | nil => exact .nil
  | cons ch url inductionHypothesis =>
      rw [List.flatMap_cons]
      exact isUrlText_encodeChar_append ch inductionHypothesis

/-- Different texts have different codes, every code is a text for an url, and the code of
two texts in a row is that of the first and that of the second. -/
theorem urlEncode_law :
    (∀ first second : List UInt8, urlEncode first [] = urlEncode second [] → first = second) ∧
    (∀ url : List UInt8, IsUrlText (urlEncode url [])) ∧
    ∀ first second : List UInt8,
      urlEncode (first ++ second) [] = urlEncode first [] ++ urlEncode second [] := by
  refine ⟨?_, ?_, ?_⟩
  · intro first second same
    rw [urlEncode_eq, urlEncode_eq, List.nil_append, List.nil_append] at same
    exact prefixFree_encodeChar.flatMap_injective encodeChar_injective same
  · intro url
    rw [urlEncode_eq, List.nil_append]
    exact isUrlText_flatMap url
  · intro first second
    rw [urlEncode_eq, urlEncode_eq, urlEncode_eq, List.nil_append, List.nil_append,
      List.nil_append, List.flatMap_append]

end StrUtil
end Skplat
