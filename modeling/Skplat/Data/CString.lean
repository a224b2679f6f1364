import Mathlib.Data.List.Basic
import Mathlib.Data.List.TakeWhile

/-!
# Strings that end at a zero byte

A C string is what memory holds before the first zero byte.  Memory is a list of bytes,
and a zero follows its last byte.
-/

namespace Skplat
namespace CString

variable {needle text more front : List UInt8}
variable {position : Nat}

/-- The bytes of a text of the source. -/
def ascii (text : String) : List UInt8 :=
  text.toList.map fun char => UInt8.ofNat char.toNat

/-- `c_str()`: what a reader of a C string sees of some bytes. -/
def cstr (text : List UInt8) : List UInt8 :=
  text.takeWhile (· ≠ 0)

/-- `strlen`: how many bytes there are before the first zero. -/
def strlen (text : List UInt8) : Nat :=
  (text.takeWhile (· ≠ 0)).length

/-- `strstr`: where a needle without zeros occurs first in a string. -/
def strstr (needle : List UInt8) : List UInt8 → Option Nat
  | [] => if needle = [] then some 0 else none
  | byte :: rest =>
      if needle <+: byte :: rest then some 0
      else if byte = 0 then none
      else (strstr needle rest).map (· + 1)

attribute [grind =] strstr

/-- `strchr`: what stands before and behind the first occurrence of a byte. -/
def strchr (byte : UInt8) : List UInt8 → Option (List UInt8 × List UInt8)
  | [] => none
  | first :: rest =>
      if first = byte then some ([], rest)
      else (strchr byte rest).map fun parts => (first :: parts.1, parts.2)

attribute [grind =] strchr

/-- A C string has no zeros. -/
theorem zero_notMem_cstr (text : List UInt8) : 0 ∉ cstr text := by
  intro present
  have nonzero := List.mem_takeWhile_imp present
  simp at nonzero

/-- A string without zeros is seen as it is. -/
theorem cstr_eq_self_iff :
    cstr text = text ↔ 0 ∉ text := by
  constructor
  · intro same
    rw [← same]
    exact zero_notMem_cstr text
  · intro nonzero
    rw [cstr, List.takeWhile_eq_self_iff]
    intro byte present
    exact decide_eq_true fun zero => nonzero (zero ▸ present)

@[simp] theorem cstr_cstr (text : List UInt8) : cstr (cstr text) = cstr text :=
  cstr_eq_self_iff.mpr (zero_notMem_cstr text)

/-- A string is at least as long as a part without zeros in front. -/
theorem length_le_strlen_append
    (nonzero : ∀ byte ∈ front, byte ≠ 0) :
    front.length ≤ strlen (front ++ text) := by
  rw [strlen, List.takeWhile_append_of_pos (by simpa using nonzero), List.length_append]
  exact Nat.le_add_right _ _

/-- An occurrence is inside. -/
theorem add_length_le_of_strstr
    (found : strstr needle text = some position) :
    position + needle.length ≤ text.length := by
  induction text generalizing position with
  | nil =>
      rw [strstr, Option.ite_none_right_eq_some] at found
      obtain ⟨rfl, atStart⟩ := found
      cases atStart
      exact Nat.le_refl _
  | cons byte rest inductionHypothesis =>
      rw [strstr] at found
      split at found
      · rename_i here
        cases found
        rw [Nat.zero_add]
        exact here.length_le
      · rw [Option.ite_none_left_eq_some, Option.map_eq_some_iff] at found
        obtain ⟨-, later, inRest, rfl⟩ := found
        have inside := inductionHypothesis inRest
        rw [List.length_cons]
        omega

/-- More memory behind an occurrence does not move it. -/
theorem strstr_append
    (found : strstr needle text = some position) :
    strstr needle (text ++ more) = some position := by
  induction text generalizing position with
  | nil =>
      rw [strstr, Option.ite_none_right_eq_some] at found
      obtain ⟨rfl, atStart⟩ := found
      cases more with
      | nil => simpa [strstr] using atStart
      | cons byte rest => simpa [strstr] using atStart
  | cons byte rest inductionHypothesis =>
      rw [strstr] at found
      rw [List.cons_append, strstr]
      split at found
      · rename_i here
        have stillHere : needle <+: byte :: (rest ++ more) :=
          here.trans (List.prefix_append (byte :: rest) more)
        rw [if_pos stillHere]
        exact found
      · rename_i notHere
        rw [Option.ite_none_left_eq_some, Option.map_eq_some_iff] at found
        obtain ⟨nonzero, later, inRest, rfl⟩ := found
        have short := add_length_le_of_strstr inRest
        have stillNotHere : ¬needle <+: byte :: (rest ++ more) := by
          intro here
          exact notHere (List.prefix_of_prefix_length_le here
            (List.prefix_append (byte :: rest) more) (by rw [List.length_cons]; omega))
        rw [if_neg stillNotHere, if_neg nonzero, inductionHypothesis inRest,
          Option.map_some]

/-- An occurrence that needs the memory behind a text reaches into it. -/
theorem length_lt_of_strstr_append
    (missing : strstr needle text = none)
    (found : strstr needle (text ++ more) = some position) :
    text.length < position + needle.length := by
  induction text generalizing position with
  | nil =>
      have nonempty : needle ≠ [] := by
        rintro rfl
        simp [strstr] at missing
      have positive := List.length_pos_iff.mpr nonempty
      rw [List.length_nil]
      omega
  | cons byte rest inductionHypothesis =>
      rw [strstr] at missing
      rw [List.cons_append, strstr] at found
      split at missing
      · cases missing
      · rename_i notHere
        split at found
        · rename_i here
          cases found
          by_contra short
          exact notHere (List.prefix_of_prefix_length_le here
            (List.prefix_append (byte :: rest) more) (by omega))
        · rw [Option.ite_none_left_eq_some, Option.map_eq_some_iff] at found
          obtain ⟨nonzero, later, inRest, rfl⟩ := found
          rw [if_neg nonzero, Option.map_eq_none_iff] at missing
          have reaches := inductionHypothesis missing inRest
          rw [List.length_cons]
          omega

/-- The search passes a part without the first byte of the needle, unless the string ends
there. -/
theorem strstr_skip
    {first : UInt8} {others : List UInt8}
    (different : first ∉ front) :
    strstr (first :: others) (front ++ text) =
      if 0 ∈ front then none
      else (strstr (first :: others) text).map (· + front.length) := by
  induction front with
  | nil => simp
  | cons byte rest inductionHypothesis =>
      rw [List.mem_cons, not_or] at different
      have apart : ¬first :: others <+: byte :: (rest ++ text) := by
        intro here
        exact different.1 (List.cons_prefix_cons.mp here).1
      rw [List.cons_append, strstr, if_neg apart, inductionHypothesis different.2]
      by_cases zero : byte = 0
      · simp [zero]
      · have notZero : ¬(0 : UInt8) = byte := fun same => zero same.symm
        by_cases later : 0 ∈ rest
        · simp [zero, later]
        · rw [if_neg zero, if_neg later, if_neg (by simp [notZero, later]), Option.map_map]
          congr 1

/-- A text is searched up to the first byte of the needle. -/
theorem strstr_of_notMem
    {first : UInt8} {others : List UInt8}
    (nonzero : ∀ byte ∈ front, byte ≠ 0)
    (different : first ∉ front) :
    strstr (first :: others) (front ++ first :: others ++ text) =
      some front.length := by
  have here : strstr (first :: others) (first :: others ++ text) = some 0 := by
    have atFront : first :: others <+: first :: (others ++ text) :=
      List.prefix_append (first :: others) text
    rw [List.cons_append, strstr, if_pos atFront]
  rw [List.append_assoc, strstr_skip different, if_neg fun zero => nonzero 0 zero rfl, here,
    Option.map_some, Nat.zero_add]

/-- A text that ends before the needle is complete does not contain it. -/
theorem strstr_eq_none_of_cut
    {first : UInt8} {others : List UInt8}
    (nonzero : ∀ byte ∈ front, byte ≠ 0)
    (different : first ∉ front)
    (cut : text <+: front ++ first :: others ++ more)
    (short : text.length < front.length + (first :: others).length) :
    strstr (first :: others) text = none := by
  rw [Option.eq_none_iff_forall_ne_some]
  intro position found
  obtain ⟨rest, joined⟩ := cut
  have inside := add_length_le_of_strstr found
  have later : strstr (first :: others) (text ++ rest) = some position :=
    strstr_append found
  rw [joined, strstr_of_notMem nonzero different] at later
  cases later
  omega

/-! ## Single bytes -/

theorem strchr_append_cons {byte : UInt8} (absent : byte ∉ front) (rest : List UInt8) :
    strchr byte (front ++ byte :: rest) = some (front, rest) := by
  induction front with
  | nil => exact if_pos rfl
  | cons first front inductionHypothesis =>
      rw [List.cons_append, strchr,
        if_neg fun same : first = byte => absent (same ▸ List.mem_cons_self),
        inductionHypothesis fun present => absent (List.mem_cons_of_mem _ present)]
      rfl

theorem strchr_eq_none_iff {byte : UInt8} : strchr byte text = none ↔ byte ∉ text := by
  induction text with
  | nil => exact ⟨fun _ => List.not_mem_nil, fun _ => rfl⟩
  | cons first rest inductionHypothesis =>
      rw [strchr, List.mem_cons, not_or]
      split
      · rename_i here
        exact iff_of_false (by simp) fun absent => absent.1 here.symm
      · rename_i notHere
        rw [Option.map_eq_none_iff, inductionHypothesis,
          and_iff_right fun same : byte = first => notHere same.symm]

theorem strchr_eq_some_iff {byte : UInt8} {rest : List UInt8} :
    strchr byte text = some (front, rest) ↔ text = front ++ byte :: rest ∧ byte ∉ front := by
  constructor
  · intro found
    have present : byte ∈ text := by
      by_contra absent
      rw [strchr_eq_none_iff.mpr absent] at found
      cases found
    obtain ⟨before, after, rfl, absent⟩ := List.eq_append_cons_of_mem present
    rw [strchr_append_cons absent] at found
    cases found
    exact ⟨rfl, absent⟩
  · rintro ⟨rfl, absent⟩
    exact strchr_append_cons absent rest

/-- A string contains what stands in it. -/
theorem strstr_ne_none (nonzero : 0 ∉ text) (inside : needle <:+: text) :
    strstr needle text ≠ none := by
  induction text with
  | nil =>
      rw [List.infix_nil.mp inside]
      simp [strstr]
  | cons byte rest inductionHypothesis =>
      rw [List.mem_cons, not_or] at nonzero
      rw [strstr]
      split
      · exact Option.some_ne_none 0
      · rename_i notHere
        have later := (List.infix_cons_iff.mp inside).resolve_left notHere
        rw [if_neg fun zero : byte = 0 => nonzero.1 zero.symm, ne_eq, Option.map_eq_none_iff]
        exact inductionHypothesis nonzero.2 later

end CString
end Skplat
