import Skplat.Data.FieldText
import Skplat.SocketAddress.Defs

/-!
# A part of the texts of addresses

Printing and reading of addresses that does what is documented: IPv4 addresses in dotted
decimal notation, IPv4-mapped addresses with the IPv4 address, and any other IPv6 address
in eight groups.  Leading zeros of numbers are read, and of the texts with two colons
only those with the IPv4-mapped or the NAT64 prefix in front of an IPv4 address.
-/

namespace Skplat.Network
namespace Inet

open Network.SocketAddress

/-- Dotted decimal notation. -/
def dottedText : FieldText where
  separator := '.'
  base := 10
  bits := 8
  digits := 3
  count := 4
  base_bounds := by decide
  digits_pos := by decide
  enough := by decide
  several := by decide
  separates := by decide

/-- Eight groups of hexadecimal digits. -/
def colonText : FieldText where
  separator := ':'
  base := 16
  bits := 16
  digits := 4
  count := 8
  base_bounds := by decide
  digits_pos := by decide
  enough := by decide
  several := by decide
  separates := by decide

/-- The text in front of an IPv4-mapped address. -/
def mappedFront : List Char :=
  [':', ':', 'f', 'f', 'f', 'f', ':']

def printDotted (addr : BitVec 32) : List Char :=
  dottedText.print addr.toNat

def readDotted (text : List Char) : Option (BitVec 32) :=
  (dottedText.parse text).map (BitVec.ofNat 32)

def readGroups (text : List Char) : Option (BitVec 128) :=
  (colonText.parse text).map (BitVec.ofNat 128)

/-- An IPv4 address behind a prefix. -/
def readBehind (front : List Char) (embed : BitVec 32 → BitVec 128)
    (text : List Char) : Option (BitVec 128) :=
  if front <+: text then (readDotted (text.drop front.length)).map embed else none

/-- The functions. -/
def plain : Inet where
  ntop4 := printDotted
  ntop6 := fun addr =>
    if addr = in6SetAddrV4mapped (lastWord addr) then
      mappedFront ++ printDotted (lastWord addr)
    else colonText.print addr.toNat
  pton4 := readDotted
  pton6 := fun text =>
    (readGroups text).or
      ((readBehind mappedFront in6SetAddrV4mapped text).or
        (readBehind kWellKnownNat64Prefix in6SetAddrNat64 text))

/-! ## What is read -/

theorem isDigit_of_digitValue_lt {char : Char} (small : digitValue char < 10) :
    char.isDigit = true := by
  by_contra notDigit
  rw [digitValue, if_neg notDigit] at small
  split at small
  · rename_i lower
    have bound : 97 ≤ char.toNat := lower.1
    omega
  · split at small
    · rename_i upper
      have bound : 65 ≤ char.toNat := upper.1
      omega
    · omega

theorem isHexText_of_digitValue_lt {char : Char} (small : digitValue char < 16) :
    isHexText char = true := by
  by_contra other
  simp only [isHexText, Bool.or_eq_true, decide_eq_true_eq, not_or] at other
  obtain ⟨⟨⟨⟨notDigit, notLower⟩, notUpper⟩, _⟩, _⟩ := other
  rw [digitValue, if_neg notDigit, if_neg notLower, if_neg notUpper] at small
  omega

theorem readDotted_printDotted (addr : BitVec 32) :
    readDotted (printDotted addr) = some addr := by
  rw [readDotted, printDotted, FieldText.parse_print addr.isLt, Option.map_some,
    BitVec.ofNat_toNat, BitVec.setWidth_eq]

/-- An IPv4 text has digits and dots and at most 15 characters. -/
theorem dotted_of_readDotted
    {text : List Char} {addr : BitVec 32} (read : readDotted text = some addr) :
    (∀ char ∈ text, isDotted char = true) ∧ '.' ∈ text ∧ text.length ≤ 15 := by
  obtain ⟨number, parsed, _⟩ := Option.map_eq_some_iff.mp read
  have length : text.length + 1 ≤ 4 * (3 + 1) := FieldText.length_of_parse parsed
  refine ⟨fun char present => ?_, FieldText.separator_mem_of_parse parsed, by omega⟩
  rcases FieldText.mem_of_parse parsed present with rfl | small
  · decide
  · rw [isDotted, isDigit_of_digitValue_lt small, Bool.true_or]

/-- A text with a dot has no eight groups. -/
theorem readGroups_of_dot {text : List Char} (dot : '.' ∈ text) :
    readGroups text = none := by
  by_contra accepted
  obtain ⟨addr, read⟩ := Option.ne_none_iff_exists'.mp accepted
  obtain ⟨number, parsed, _⟩ := Option.map_eq_some_iff.mp read
  rcases FieldText.mem_of_parse parsed dot with same | small
  · exact absurd same (by decide)
  · exact absurd small (by decide)

theorem readBehind_append
    (front : List Char) (embed : BitVec 32 → BitVec 128) (addr : BitVec 32) :
    readBehind front embed (front ++ printDotted addr) = some (embed addr) := by
  rw [readBehind, if_pos (List.prefix_append _ _), List.drop_left,
    readDotted_printDotted, Option.map_some]

theorem dot_mem_append (front : List Char) (addr : BitVec 32) :
    '.' ∈ front ++ printDotted addr :=
  List.mem_append_right _ (dotted_of_readDotted (readDotted_printDotted addr)).2.1

/-- An address that is read behind a prefix has the characters of both. -/
theorem colons_of_readBehind
    {front text : List Char} {embed : BitVec 32 → BitVec 128} {addr : BitVec 128}
    (hex : ∀ char ∈ front, isHexText char = true) (colon : ':' ∈ front)
    (read : readBehind front embed text = some addr) :
    (∀ char ∈ text, isHexText char = true) ∧ ':' ∈ text := by
  rw [readBehind, Option.ite_none_right_eq_some, Option.map_eq_some_iff] at read
  obtain ⟨⟨rest, rfl⟩, value, readRest, _⟩ := read
  rw [List.drop_left] at readRest
  refine ⟨fun char present => ?_, List.mem_append_left _ colon⟩
  rcases List.mem_append.mp present with inFront | inRest
  · exact hex char inFront
  · exact isHexText_of_isDotted ((dotted_of_readDotted readRest).1 char inRest)

theorem ntop6_mapped (addr : BitVec 32) :
    plain.ntop6 (in6SetAddrV4mapped addr) = mappedFront ++ printDotted addr := by
  simp only [plain, lastWord_in6SetAddrV4mapped, if_true]

/-- The functions do what is documented. -/
theorem documented_plain : plain.Documented where
  pton4_ntop4 := readDotted_printDotted
  pton6_ntop6 := by
    intro addr
    by_cases mapped : addr = in6SetAddrV4mapped (lastWord addr)
    · rw [mapped, ntop6_mapped]
      simp only [plain, readGroups_of_dot (dot_mem_append _ _), readBehind_append,
        Option.none_or, Option.some_or]
    · simp only [plain, if_neg mapped, readGroups]
      rw [FieldText.parse_print addr.isLt, Option.map_some, Option.some_or,
        BitVec.ofNat_toNat, BitVec.setWidth_eq]
  dotted := by
    intro text addr read
    obtain ⟨dotted, dot, short⟩ := dotted_of_readDotted read
    exact ⟨dotted, List.ne_nil_of_mem dot, short⟩
  colons := by
    intro text addr read
    rcases Option.or_eq_some_iff.mp read with groups | ⟨_, behind⟩
    · obtain ⟨number, parsed, _⟩ := Option.map_eq_some_iff.mp groups
      refine ⟨fun char present => ?_, FieldText.separator_mem_of_parse parsed⟩
      rcases FieldText.mem_of_parse parsed present with rfl | small
      · decide
      · exact isHexText_of_digitValue_lt small
    · rcases Option.or_eq_some_iff.mp behind with mapped | ⟨_, nat64⟩
      · exact colons_of_readBehind (List.all_eq_true.mp (by decide)) (by decide) mapped
      · exact colons_of_readBehind (List.all_eq_true.mp (by decide)) (by decide) nat64
  length_ntop6 := by
    intro addr
    by_cases mapped : addr = in6SetAddrV4mapped (lastWord addr)
    · rw [mapped, ntop6_mapped, List.length_append]
      have short := (dotted_of_readDotted
        (readDotted_printDotted (lastWord addr))).2.2
      simp only [mappedFront, List.length_cons, List.length_nil]
      omega
    · have length : (colonText.print addr.toNat).length + 1 ≤ 8 * (4 + 1) :=
        FieldText.length_of_parse (FieldText.parse_print addr.isLt)
      simp only [plain, if_neg mapped]
      omega
  mapped := ntop6_mapped
  nat64 := by
    intro addr
    have notMapped : readBehind mappedFront in6SetAddrV4mapped
        (kWellKnownNat64Prefix ++ printDotted addr) = none := by
      refine if_neg fun isPrefix => ?_
      exact absurd (List.cons_prefix_cons.mp isPrefix).1 (by decide)
    simp only [plain, readGroups_of_dot (dot_mem_append _ _), notMapped,
      readBehind_append, Option.none_or]

end Inet
end Skplat.Network
