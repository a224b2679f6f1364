import Mathlib.Algebra.Ring.Nat
import Mathlib.Data.List.Basic

/-!
# Numbers written as fields

A number is cut into fields of the same number of bits, and the fields are written from
the highest on, in some base and with a separator in between, as in dotted decimal
notation.  What is written is read back, and everything that is read has the shape of
what is written.
-/

namespace Skplat

/-- The value of a hexadecimal digit, and 16 for any other character. -/
def digitValue (char : Char) : Nat :=
  if char.isDigit then char.toNat - 48
  else if 'a' ≤ char ∧ char ≤ 'f' then char.toNat - 87
  else if 'A' ≤ char ∧ char ≤ 'F' then char.toNat - 55
  else 16

/-- The number that digits stand for. -/
def ofDigitValues (base : Nat) (digits : List Char) : Nat :=
  digits.foldl (fun number char => base * number + digitValue char) 0

/-- A notation. -/
structure FieldText where
  separator : Char
  base : Nat
  /-- Number of bits of a field. -/
  bits : Nat
  /-- Largest number of digits of a field. -/
  digits : Nat
  /-- Number of fields. -/
  count : Nat
  base_bounds : 2 ≤ base ∧ base ≤ 16
  digits_pos : 0 < digits
  /-- Every field can be written. -/
  enough : 2 ^ bits ≤ base ^ digits
  several : 2 ≤ count
  /-- The separator is no digit. -/
  separates : digitValue separator = 16

/-! ## Digits -/

theorem digitValue_digitChar : ∀ digit < 16, digitValue digit.digitChar = digit := by
  decide

theorem ofDigitValues_append (base : Nat) (digits : List Char) (char : Char) :
    ofDigitValues base (digits ++ [char]) =
      base * ofDigitValues base digits + digitValue char := by
  rw [ofDigitValues, List.foldl_append, ← ofDigitValues]
  rfl

/-- The digits of a number stand for it, and each is smaller than the base. -/
theorem ofDigitValues_toDigits
    {base : Nat} (bounds : 2 ≤ base ∧ base ≤ 16) (number : Nat) :
    ofDigitValues base (Nat.toDigits base number) = number ∧
      ∀ char ∈ Nat.toDigits base number, digitValue char < base := by
  induction number using Nat.strongRecOn with
  | ind number inductionHypothesis =>
      rw [Nat.toDigits_eq_if bounds.1]
      split
      · rename_i small
        have digit := digitValue_digitChar number (by omega)
        refine ⟨by simpa [ofDigitValues] using digit, ?_⟩
        intro char present
        rw [List.mem_singleton.mp present, digit]
        exact small
      · rename_i large
        obtain ⟨front, smaller⟩ := inductionHypothesis (number / base)
          (Nat.div_lt_self (by omega) (by omega))
        have rest := Nat.mod_lt number (show 0 < base by omega)
        have digit := digitValue_digitChar (number % base) (by omega)
        refine ⟨?_, ?_⟩
        · rw [ofDigitValues_append, front, digit]
          exact Nat.div_add_mod number base
        · intro char present
          rcases List.mem_append.mp present with before | last
          · exact smaller char before
          · rw [List.mem_singleton.mp last, digit]
            exact rest

/-! ## Fields -/

/-- The fields of a number, the highest one first. -/
def fieldsOf (bits : Nat) : Nat → Nat → List Nat
  | 0, _ => []
  | count + 1, number => fieldsOf bits count (number / 2 ^ bits) ++ [number % 2 ^ bits]

/-- The number with such fields. -/
def ofFields (bits : Nat) (fields : List Nat) : Nat :=
  fields.foldl (fun number field => number * 2 ^ bits + field) 0

theorem ofFields_fieldsOf (bits count number : Nat) :
    ofFields bits (fieldsOf bits count number) = number % 2 ^ (bits * count) := by
  induction count generalizing number with
  | zero => rw [Nat.mul_zero, Nat.pow_zero, Nat.mod_one]; rfl
  | succ count inductionHypothesis =>
      rw [fieldsOf, ofFields, List.foldl_append, ← ofFields, inductionHypothesis,
        Nat.mul_succ, Nat.add_comm (bits * count), Nat.pow_add, Nat.mod_mul,
        Nat.mul_comm (2 ^ bits), Nat.add_comm]
      rfl

theorem length_fieldsOf (bits count number : Nat) :
    (fieldsOf bits count number).length = count := by
  induction count generalizing number with
  | zero => rfl
  | succ count inductionHypothesis =>
      rw [fieldsOf, List.length_append, inductionHypothesis]
      rfl

theorem lt_of_mem_fieldsOf
    {bits count number field : Nat} (present : field ∈ fieldsOf bits count number) :
    field < 2 ^ bits := by
  induction count generalizing number with
  | zero => cases present
  | succ count inductionHypothesis =>
      rcases List.mem_append.mp present with before | last
      · exact inductionHypothesis before
      · rw [List.mem_singleton.mp last]
        exact Nat.mod_lt _ (Nat.two_pow_pos bits)

/-! ## Separated parts -/

/-- Characters of a text in parts. -/
theorem mem_intercalate
    {Item : Type*} {separator item : Item} {parts : List (List Item)}
    (present : item ∈ [separator].intercalate parts) :
    item = separator ∨ ∃ part ∈ parts, item ∈ part := by
  induction parts with
  | nil => cases present
  | cons first rest inductionHypothesis =>
      cases rest with
      | nil => exact Or.inr ⟨first, List.mem_singleton.mpr rfl, by simpa using present⟩
      | cons second more =>
          rw [List.intercalate_cons_cons, List.mem_append, List.mem_append,
            List.mem_singleton] at present
          rcases present with (inFirst | same) | later
          · exact Or.inr ⟨first, List.mem_cons_self, inFirst⟩
          · exact Or.inl same
          · rcases inductionHypothesis later with same | ⟨part, isPart, inPart⟩
            · exact Or.inl same
            · exact Or.inr ⟨part, List.mem_cons_of_mem _ isPart, inPart⟩

/-- The length of a text in parts. -/
theorem length_intercalate_le
    {Item : Type*} {separator : Item} {parts : List (List Item)} {most : Nat}
    (nonempty : parts ≠ []) (short : ∀ part ∈ parts, part.length ≤ most) :
    ([separator].intercalate parts).length + 1 ≤ parts.length * (most + 1) := by
  induction parts with
  | nil => exact absurd rfl nonempty
  | cons first rest inductionHypothesis =>
      have firstShort := short first List.mem_cons_self
      cases rest with
      | nil =>
          rw [List.intercalate_singleton, List.length_singleton]
          omega
      | cons second more =>
          have later := inductionHypothesis (List.cons_ne_nil _ _)
            fun part present => short part (List.mem_cons_of_mem _ present)
          rw [List.intercalate_cons_cons, List.length_append, List.length_append,
            List.length_cons (a := first), Nat.succ_mul, List.length_singleton]
          omega

namespace FieldText

variable (notated : FieldText)

/-- Write a number. -/
def print (number : Nat) : List Char :=
  [notated.separator].intercalate
    ((fieldsOf notated.bits notated.count number).map (Nat.toDigits notated.base))

/-- A part is the text of a field. -/
def IsField (part : List Char) : Prop :=
  part ≠ [] ∧ part.length ≤ notated.digits ∧
    (∀ char ∈ part, digitValue char < notated.base) ∧
    ofDigitValues notated.base part < 2 ^ notated.bits

-- The characters of the text are tried, not all characters.
instance : DecidablePred notated.IsField :=
  fun part =>
    have : Decidable (∀ char ∈ part, digitValue char < notated.base) :=
      List.decidableBAll _ part
    inferInstanceAs (Decidable (_ ∧ _ ∧ _ ∧ _))

/-- Read a number. -/
def parse (text : List Char) : Option Nat :=
  if (text.splitOn notated.separator).length = notated.count ∧
      ∀ part ∈ text.splitOn notated.separator, notated.IsField part then
    some (ofFields notated.bits
      ((text.splitOn notated.separator).map (ofDigitValues notated.base)))
  else none

variable {notated} {text : List Char} {number : Nat}

theorem isField_toDigits {field : Nat} (small : field < 2 ^ notated.bits) :
    notated.IsField (Nat.toDigits notated.base field) := by
  obtain ⟨value, digits⟩ := ofDigitValues_toDigits notated.base_bounds field
  refine ⟨Nat.toDigits_ne_nil, ?_, digits, by rwa [value]⟩
  exact (Nat.length_toDigits_le_iff notated.base_bounds.1 notated.digits_pos).mpr
    (Nat.lt_of_lt_of_le small notated.enough)

/-- What is written is read back. -/
theorem parse_print (small : number < 2 ^ (notated.bits * notated.count)) :
    notated.parse (notated.print number) = some number := by
  have field : ∀ part ∈
      (fieldsOf notated.bits notated.count number).map (Nat.toDigits notated.base),
      notated.IsField part := by
    intro part present
    obtain ⟨value, isValue, rfl⟩ := List.mem_map.mp present
    exact isField_toDigits (lt_of_mem_fieldsOf isValue)
  have apart : ∀ part ∈
      (fieldsOf notated.bits notated.count number).map (Nat.toDigits notated.base),
      notated.separator ∉ part := by
    intro part present inside
    have isDigit := (field part present).2.2.1 _ inside
    have bounds := notated.base_bounds
    rw [notated.separates] at isDigit
    omega
  have length : ((fieldsOf notated.bits notated.count number).map
      (Nat.toDigits notated.base)).length = notated.count := by
    rw [List.length_map, length_fieldsOf]
  have parts : (notated.print number).splitOn notated.separator =
      (fieldsOf notated.bits notated.count number).map (Nat.toDigits notated.base) := by
    refine List.splitOn_intercalate _ apart fun none_ => ?_
    have several := notated.several
    rw [none_, List.length_nil] at length
    omega
  have values : ((fieldsOf notated.bits notated.count number).map
      (Nat.toDigits notated.base)).map (ofDigitValues notated.base) =
        fieldsOf notated.bits notated.count number := by
    rw [List.map_map]
    exact List.map_id'' (fun value =>
      (ofDigitValues_toDigits notated.base_bounds value).1) _
  rw [parse, parts, if_pos ⟨length, field⟩, values, ofFields_fieldsOf,
    Nat.mod_eq_of_lt small]

/-- A text that is read consists of separated fields. -/
theorem exists_parts_of_parse (read : notated.parse text = some number) :
    ∃ parts, text = [notated.separator].intercalate parts ∧
      parts.length = notated.count ∧ ∀ part ∈ parts, notated.IsField part := by
  rw [parse, Option.ite_none_right_eq_some] at read
  exact ⟨text.splitOn notated.separator, (List.intercalate_splitOn _).symm, read.1⟩

theorem mem_of_parse
    (read : notated.parse text = some number) {char : Char} (present : char ∈ text) :
    char = notated.separator ∨ digitValue char < notated.base := by
  obtain ⟨parts, rfl, _, fields⟩ := exists_parts_of_parse read
  rcases mem_intercalate present with same | ⟨part, isPart, inside⟩
  · exact Or.inl same
  · exact Or.inr ((fields part isPart).2.2.1 char inside)

theorem length_of_parse (read : notated.parse text = some number) :
    text.length + 1 ≤ notated.count * (notated.digits + 1) := by
  obtain ⟨parts, rfl, length, fields⟩ := exists_parts_of_parse read
  have several := notated.several
  rw [← length]
  refine length_intercalate_le ?_ fun part present => (fields part present).2.1
  rintro rfl
  rw [List.length_nil] at length
  omega

/-- A text that is read has a separator. -/
theorem separator_mem_of_parse (read : notated.parse text = some number) :
    notated.separator ∈ text := by
  obtain ⟨parts, rfl, length, fields⟩ := exists_parts_of_parse read
  have several := notated.several
  match parts with
  | [] | [_] =>
      simp only [List.length_nil, List.length_singleton] at length
      omega
  | first :: second :: more =>
      rw [List.intercalate_cons_cons]
      simp

end FieldText
end Skplat
