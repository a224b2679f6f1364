import Mathlib.Algebra.Ring.Nat
import Mathlib.Data.List.TakeWhile

/-!
# Formatted input

`sscanf` with ordinary characters, scansets with a width and unsigned short numbers.
The result is the list of what was assigned, which ends at the first directive that
fails.  `sscanf` returns the length of this list, or a negative number in place of zero
at the end of the input.
-/

namespace Skplat
namespace Scanf

/-- A part of a format string. -/
inductive Directive
  /-- An ordinary character that is not white space. -/
  | literal (char : Char)
  /-- `%width[...]`. -/
  | scanset (width : Nat) (member : Char → Bool)
  /-- `%widthhu`. -/
  | ushort (width : Nat)

/-- What a directive assigns. -/
inductive Item
  | text (chars : List Char)
  | number (value : BitVec 16)
  deriving DecidableEq, Repr

/-- `isspace`. -/
def isSpace (char : Char) : Bool :=
  char == ' ' || decide (9 ≤ char.toNat ∧ char.toNat ≤ 13)

/-- The longest part of the input, but no longer than the width, whose characters are in
the set. -/
def scansetField (width : Nat) (member : Char → Bool) (input : List Char) : List Char :=
  (input.takeWhile member).take width

/-- A sign, and what follows it. -/
def splitSign : List Char → Bool × List Char
  | '-' :: rest => (true, rest)
  | '+' :: rest => (false, rest)
  | field => (false, field)

/-- An unsigned short number with an optional sign, behind white space, and the rest of
the input. -/
def scanUshort (width : Nat) (input : List Char) : Option (BitVec 16 × List Char) :=
  let start := input.dropWhile isSpace
  let (negative, unsigned) := splitSign (start.take width)
  let digits := unsigned.takeWhile Char.isDigit
  if digits = [] then none
  else
    let value := BitVec.ofNat 16 (Nat.ofDigitChars 10 digits 0)
    some (if negative then -value else value,
      start.drop ((start.take width).length - unsigned.length + digits.length))

/-- What `sscanf` assigns. -/
def scan : List Directive → List Char → List Item
  | [], _ => []
  | .literal _ :: _, [] => []
  | .literal char :: format, first :: input =>
      if first = char then scan format input else []
  | .scanset width member :: format, input =>
      let field := scansetField width member input
      if field = [] then [] else .text field :: scan format (input.drop field.length)
  | .ushort width :: format, input =>
      match scanUshort width input with
      | none => []
      | some (value, rest) => .number value :: scan format rest

variable {format : List Directive} {input text rest : List Char} {char first : Char}
variable {width : Nat} {member : Char → Bool}

@[simp] theorem scan_nil_format (input : List Char) : scan [] input = [] := rfl

theorem scan_scanset_cons :
    scan (.scanset width member :: format) input =
      if scansetField width member input = [] then []
      else .text (scansetField width member input) ::
        scan format (input.drop (scansetField width member input).length) := rfl

@[simp] theorem scan_literal :
    scan (.literal char :: format) (char :: input) = scan format input :=
  if_pos rfl

theorem scan_literal_of_ne (other : first ≠ char) :
    scan (.literal char :: format) (first :: input) = [] :=
  if_neg other

/-- A text of members that ends at a character that is none. -/
theorem scansetField_append
    (inside : ∀ char ∈ text, member char = true)
    (stops : ∀ char ∈ rest.head?, member char = false) :
    scansetField width member (text ++ rest) = text.take width := by
  have ends : rest.takeWhile member = [] := by
    cases rest with
    | nil => rfl
    | cons first more =>
        rw [List.takeWhile_cons_of_neg]
        rw [stops first rfl]
        exact Bool.false_ne_true
  rw [scansetField, List.takeWhile_append_of_pos inside, ends, List.append_nil]

theorem length_scansetField_le : (scansetField width member input).length ≤ width :=
  List.length_take_le _ _

/-- A scanset reads a text of members that is not too long. -/
theorem scan_scanset
    (inside : ∀ char ∈ text, member char = true)
    (stops : ∀ char ∈ rest.head?, member char = false)
    (nonempty : text ≠ []) (short : text.length ≤ width) :
    scan (.scanset width member :: format) (text ++ rest) =
      .text text :: scan format rest := by
  have field : scansetField width member (text ++ rest) = text := by
    rw [scansetField_append inside stops, List.take_of_length_le short]
  rw [scan_scanset_cons, field, if_neg nonempty, List.drop_left]

/-- A scanset without a member in front of it fails. -/
theorem scan_scanset_of_not_mem
    (outside : ∀ char ∈ input.head?, member char = false) :
    scan (.scanset width member :: format) input = [] := by
  have field : scansetField width member ([] ++ input) = List.take width [] :=
    scansetField_append (by simp) outside
  rw [List.nil_append, List.take_nil] at field
  rw [scan_scanset_cons, field, if_pos rfl]

/-- A digit is neither white space nor a sign. -/
theorem not_isSpace_of_isDigit (isDigit : char.isDigit = true) : isSpace char = false := by
  have lower : 48 ≤ char.toNat := (Char.isDigit_iff_toNat.mp isDigit).1
  have notBlank : char ≠ ' ' := by
    rintro rfl
    exact absurd isDigit (by decide)
  simp only [isSpace, Bool.or_eq_false_iff, beq_eq_false_iff_ne, decide_eq_false_iff_not]
  exact ⟨notBlank, by omega⟩

theorem splitSign_of_isDigit (isDigit : char.isDigit = true) :
    splitSign (char :: rest) = (false, char :: rest) := by
  unfold splitSign
  split
  · rename_i same
    obtain ⟨rfl, _⟩ := List.cons.inj same
    exact absurd isDigit (by decide)
  · rename_i same
    obtain ⟨rfl, _⟩ := List.cons.inj same
    exact absurd isDigit (by decide)
  · rfl

/-- Nothing but digits. -/
theorem scanUshort_digits
    (digits : ∀ char ∈ text, char.isDigit = true) (nonempty : text ≠ [])
    (short : text.length ≤ width) :
    scanUshort width text = some (BitVec.ofNat 16 (Nat.ofDigitChars 10 text 0), []) := by
  cases text with
  | nil => exact absurd rfl nonempty
  | cons first more =>
      have isDigit : first.isDigit = true := digits first List.mem_cons_self
      have start : (first :: more).dropWhile isSpace = first :: more := by
        rw [List.dropWhile_cons_of_neg]
        rw [not_isSpace_of_isDigit isDigit]
        exact Bool.false_ne_true
      have all : (first :: more).takeWhile Char.isDigit = first :: more :=
        List.takeWhile_eq_self_iff.mpr digits
      rw [scanUshort, start, List.take_of_length_le short, splitSign_of_isDigit isDigit]
      dsimp only
      rw [all, if_neg nonempty, if_neg Bool.false_ne_true, Nat.sub_self, Nat.zero_add,
        List.drop_length]

/-- A number is read from its digits. -/
theorem scan_ushort_toDigits
    {value : BitVec 16} (short : (Nat.toDigits 10 value.toNat).length ≤ width) :
    scan (.ushort width :: format) (Nat.toDigits 10 value.toNat) =
      .number value :: scan format [] := by
  have isDigit : ∀ char ∈ Nat.toDigits 10 value.toNat, char.isDigit = true :=
    fun char present => Nat.isDigit_of_mem_toDigits (by decide) (by decide) present
  rw [scan, scanUshort_digits isDigit Nat.toDigits_ne_nil short,
    Nat.ofDigitChars_ten_toDigits, BitVec.ofNat_toNat, BitVec.setWidth_eq]

end Scanf
end Skplat
