import Skplat.SocketAddress.InetText

/-!
# Two ways to read a host

A URL and a host with a port give the same address for every IPv4 text and for every
IPv6 text of less than 40 characters in brackets.  Without brackets an IPv6 text that
begins with a digit is taken for an IPv4 text, and 40 characters do not fit into the
buffer of the URL constructor, together with their terminator.
-/

namespace Skplat.Network
namespace SocketAddress

open Scanf

variable {inet : Inet} {text rest url : List Char} {port : BitVec 16} {char : Char}

/-- A text begins with a character of an IPv4 address. -/
def startsDotted (url : List Char) : Bool :=
  url.head?.any isDotted

/-- A text without a bracket in front. -/
def dropBracket : List Char → List Char
  | '[' :: rest => rest
  | url => url

/-- The characters of an IPv6 address in front. -/
def hexRun (url : List Char) : List Char :=
  (dropBracket url).takeWhile isHexText

/-! ## Characters -/

theorem dropBracket_of_isHexText (hex : ∀ char ∈ url, isHexText char = true) :
    dropBracket url = url := by
  unfold dropBracket
  split
  · rename_i rest
    exact absurd (hex '[' List.mem_cons_self) (by decide)
  · rfl

theorem length_portText_le (port : BitVec 16) : (portText port).length ≤ 5 :=
  (Nat.length_toDigits_le_iff (by decide) (by decide)).mpr
    (port.isLt.trans (by decide))

/-! ## What is assigned -/

theorem scan_scanset_eq_nil_iff {width : Nat} {member : Char → Bool}
    {format : List Directive} :
    scan (.scanset width member :: format) url = [] ↔
      scansetField width member url = [] := by
  rw [scan]
  split
  · rename_i empty
    exact iff_of_true rfl empty
  · rename_i nonempty
    exact iff_of_false (List.cons_ne_nil _ _) nonempty

/-- The first scanset of a format gives the text of the host. -/
theorem ipField_scan {width : Nat} {member : Char → Bool} {format : List Directive} :
    ipField (scan (.scanset width member :: format) url) =
      scansetField width member url := by
  rw [scan]
  split
  · rename_i empty
    rw [empty, ipField]
    exact fun _ _ isItem => by cases isItem
  · rw [ipField]

/-- An IPv4 address is looked for iff the URL begins like one. -/
theorem scan_dottedFormat_eq_nil_iff :
    scan dottedFormat url = [] ↔ startsDotted url = false := by
  rw [dottedFormat, scan_scanset_eq_nil_iff]
  cases url with
  | nil => exact iff_of_true rfl rfl
  | cons first more =>
      by_cases dotted : isDotted first = true
      · simp [scansetField, startsDotted, dotted]
      · simp [scansetField, startsDotted, dotted]

/-- The two attempts at an IPv6 address read the same run of characters. -/
theorem scan6_eq_nil_iff_and_ipField_scan6 (url : List Char) :
    (scan6 url = [] ↔ hexRun url = []) ∧ ipField (scan6 url) = (hexRun url).take 40 := by
  have empty (field : List Char) : field.take 40 = [] ↔ field = [] := by simp
  cases url with
  | nil => exact ⟨iff_of_true rfl rfl, rfl⟩
  | cons first rest =>
      by_cases bracket : first = '['
      · subst bracket
        have inside : scan bracketFormat ('[' :: rest) =
            scan (.scanset 40 isHexText :: [.literal ']', .literal ':', .ushort 8])
              rest := scan_literal
        have bare : scan bareFormat ('[' :: rest) = [] :=
          scan_scanset_of_not_mem (by simp [isHexText])
        have isEmpty :
            scan (.scanset 40 isHexText :: [.literal ']', .literal ':', .ushort 8])
              rest = [] ↔ scansetField 40 isHexText rest = [] :=
          scan_scanset_eq_nil_iff
        rw [scan6, inside, bare]
        by_cases nothing : scansetField 40 isHexText rest = []
        · have run := (empty _).mp nothing
          rw [if_neg (not_not.mpr (isEmpty.mpr nothing))]
          exact ⟨iff_of_true rfl run, by rw [hexRun, dropBracket, run]; rfl⟩
        · rw [if_pos (mt isEmpty.mp nothing), isEmpty, ipField_scan]
          exact ⟨empty _, rfl⟩
      · have outside : scan bracketFormat (first :: rest) = [] :=
          scan_literal_of_ne bracket
        have run : hexRun (first :: rest) = (first :: rest).takeWhile isHexText := by
          unfold hexRun dropBracket
          split
          · rename_i same
            exact absurd (List.cons.inj same).1 bracket
          · rfl
        rw [scan6, outside, if_neg (not_not.mpr rfl), bareFormat, scan_scanset_eq_nil_iff,
          ipField_scan, run]
        exact ⟨empty _, rfl⟩

/-- The stored bytes fit unless 40 characters of an IPv6 address are read. -/
theorem storedBytes_le_iff (url : List Char) :
    storedBytes url ≤ ipSize ↔
      (startsDotted url = true ∨ (hexRun url).length < 40) := by
  obtain ⟨isEmpty, field⟩ := scan6_eq_nil_iff_and_ipField_scan6 url
  unfold storedBytes ipSize
  by_cases dotted : startsDotted url = true
  · have found : scan dottedFormat url ≠ [] := by
      rw [ne_eq, scan_dottedFormat_eq_nil_iff, dotted]
      exact Bool.noConfusion
    have short : (ipField (scan dottedFormat url)).length ≤ 15 := by
      rw [dottedFormat, ipField_scan]
      exact length_scansetField_le
    rw [if_pos found]
    exact iff_of_true (by omega) (Or.inl dotted)
  · have missed : scan dottedFormat url = [] :=
      scan_dottedFormat_eq_nil_iff.mpr (Bool.eq_false_iff.mpr dotted)
    rw [if_neg (not_not.mpr missed), field, List.length_take]
    by_cases nothing : hexRun url = []
    · rw [if_neg (not_not.mpr (isEmpty.mpr nothing)), nothing]
      exact iff_of_true (by decide) (Or.inr (by decide))
    · rw [if_pos (mt isEmpty.mp nothing)]
      constructor
      · intro fits
        exact Or.inr (by omega)
      · rintro (starts | short)
        · exact absurd starts dotted
        · omega

/-! ## Addresses that are read -/

/-- A URL with an IPv4 text. -/
theorem ofUrl_dotted
    (dotted : ∀ char ∈ text, isDotted char = true) (nonempty : text ≠ [])
    (short : text.length ≤ 15) (port : BitVec 16) :
    ofUrl inet (text ++ ':' :: portText port) =
      some (init inet (.inet ((inet.pton4 text).getD 0) port)) := by
  have portShort := length_portText_le port
  have scanned : scan dottedFormat (text ++ ':' :: portText port) =
      [.text text, .number port] := by
    rw [dottedFormat, scan_scanset dotted (by simp [isDotted]) nonempty short,
      scan_literal, portText, scan_ushort_toDigits (portShort.trans (by decide)),
      scan_nil_format]
  have starts : startsDotted (text ++ ':' :: portText port) = true := by
    by_contra missed
    rw [Bool.not_eq_true, ← scan_dottedFormat_eq_nil_iff, scanned] at missed
    cases missed
  rw [ofUrl, if_pos ((storedBytes_le_iff _).mpr (Or.inl starts)), scanned,
    if_pos (List.cons_ne_nil _ _)]
  rfl

/-- The run of an IPv6 text in brackets is the text. -/
theorem hexRun_bracket (hex : ∀ char ∈ text, isHexText char = true) :
    hexRun ('[' :: (text ++ ']' :: rest)) = text := by
  have ends : (']' :: rest).takeWhile isHexText = [] :=
    List.takeWhile_cons_of_neg (by decide)
  rw [hexRun, dropBracket, List.takeWhile_append_of_pos hex, ends, List.append_nil]

/-- The run of an IPv6 text alone is the text. -/
theorem hexRun_bare (hex : ∀ char ∈ text, isHexText char = true) :
    hexRun text = text := by
  rw [hexRun, dropBracket_of_isHexText hex, List.takeWhile_eq_self_iff.mpr hex]

/-- A URL with an IPv6 text in brackets. -/
theorem ofUrl_bracket
    (hex : ∀ char ∈ text, isHexText char = true) (nonempty : text ≠ [])
    (short : text.length < 40) (port : BitVec 16) :
    ofUrl inet ('[' :: (text ++ ']' :: ':' :: portText port)) =
      some (init inet (.inet6 ((inet.pton6 text).getD 0) port 0 0)) := by
  have portShort := length_portText_le port
  have missed : scan dottedFormat ('[' :: (text ++ ']' :: ':' :: portText port)) = [] :=
    scan_dottedFormat_eq_nil_iff.mpr rfl
  have bracketed : scan bracketFormat ('[' :: (text ++ ']' :: ':' :: portText port)) =
      [.text text, .number port] := by
    rw [bracketFormat, scan_literal,
      scan_scanset hex (by simp [isHexText]) nonempty (by omega), scan_literal,
      scan_literal, portText, scan_ushort_toDigits (portShort.trans (by decide)),
      scan_nil_format]
  have scanned : scan6 ('[' :: (text ++ ']' :: ':' :: portText port)) =
      [.text text, .number port] := by
    rw [scan6, bracketed, if_pos (List.cons_ne_nil _ _)]
  have fits : storedBytes ('[' :: (text ++ ']' :: ':' :: portText port)) ≤ ipSize := by
    rw [storedBytes_le_iff, hexRun_bracket hex]
    exact Or.inr short
  rw [ofUrl, if_pos fits, if_neg (not_not.mpr missed), scanned,
    if_pos (List.cons_ne_nil _ _)]
  rfl

/-- An IPv6 text without brackets that does not begin like an IPv4 text. -/
theorem ofUrl_bare
    (hex : ∀ char ∈ text, isHexText char = true) (nonempty : text ≠ [])
    (short : text.length < 40) (other : startsDotted text = false) :
    ofUrl inet text =
      some (init inet (.inet6 ((inet.pton6 text).getD 0) 0 0 0)) := by
  have missed : scan dottedFormat text = [] := scan_dottedFormat_eq_nil_iff.mpr other
  have noBracket : scan bracketFormat text = [] := by
    cases text with
    | nil => exact absurd rfl nonempty
    | cons first more =>
        refine scan_literal_of_ne fun same => ?_
        exact absurd (hex first List.mem_cons_self) (by rw [same]; decide)
  have bare : scan bareFormat text = [.text text] := by
    have read : scan bareFormat (text ++ []) = .text text :: scan [] [] :=
      scan_scanset hex (by simp) nonempty (by omega)
    rwa [List.append_nil, scan_nil_format] at read
  have scanned : scan6 text = [.text text] := by
    rw [scan6, noBracket, if_neg (not_not.mpr rfl), bare]
  have fits : storedBytes text ≤ ipSize := by
    rw [storedBytes_le_iff, hexRun_bare hex]
    exact Or.inr short
  rw [ofUrl, if_pos fits, if_neg (not_not.mpr missed), scanned,
    if_pos (List.cons_ne_nil _ _)]
  rfl

/-- A URL that begins like an IPv4 text gives no IPv6 address. -/
theorem ofUrl_startsDotted
    (inet : Inet) (starts : startsDotted url = true) :
    ∃ addr port, ofUrl inet url = some (init inet (.inet addr port)) := by
  have found : scan dottedFormat url ≠ [] := by
    rw [ne_eq, scan_dottedFormat_eq_nil_iff, starts]
    exact Bool.noConfusion
  rw [ofUrl, if_pos ((storedBytes_le_iff url).mpr (Or.inl starts)), if_pos found]
  exact ⟨_, _, rfl⟩

@[simp] theorem addr_init (addr : Sockaddr) : (init inet addr).addr = addr := by
  cases addr <;> rfl

/-! ## Hosts that are read -/

theorem ofIp_of_pton4 {addr : BitVec 32} (read : inet.pton4 text = some addr) :
    ofIp inet text port = init inet (.inet addr port) := by
  rw [ofIp, read]

/-- An IPv6 text is no IPv4 text. -/
theorem ofIp_of_pton6
    (documented : inet.Documented) {addr : BitVec 128}
    (read : inet.pton6 text = some addr) :
    ofIp inet text port = init inet (.inet6 addr port 0 0) := by
  have colon := (documented.colons text addr read).2
  have notDotted : inet.pton4 text = none := by
    by_contra accepted
    obtain ⟨other, read4⟩ := Option.ne_none_iff_exists'.mp accepted
    exact absurd ((documented.dotted text other read4).1 ':' colon) (by decide)
  rw [ofIp, notDotted, read]

/-- In brackets an IPv6 text is read iff it fits into the buffer. -/
theorem ofUrl_bracket_iff
    (documented : inet.Documented) {addr : BitVec 128}
    (read : inet.pton6 text = some addr) :
    ofUrl inet ('[' :: (text ++ ']' :: ':' :: portText port)) =
        some (ofIp inet text port) ↔
      text.length < 40 := by
  obtain ⟨hex, colon⟩ := documented.colons text addr read
  constructor
  · intro same
    by_contra long
    have overflows :
        ¬storedBytes ('[' :: (text ++ ']' :: ':' :: portText port)) ≤ ipSize := by
      rw [storedBytes_le_iff, hexRun_bracket hex]
      rintro (starts | short)
      · exact absurd starts (by simp [startsDotted, isDotted])
      · exact long short
    rw [ofUrl, if_neg overflows] at same
    cases same
  · intro short
    rw [ofUrl_bracket hex (List.ne_nil_of_mem colon) short, read,
      ofIp_of_pton6 documented read]
    rfl

/-- Without brackets it is read iff it fits and does not begin like an IPv4 text. -/
theorem ofUrl_bare_iff
    (documented : inet.Documented) {addr : BitVec 128}
    (read : inet.pton6 text = some addr) :
    ofUrl inet text = some (ofIp inet text 0) ↔
      text.length < 40 ∧ startsDotted text = false := by
  obtain ⟨hex, colon⟩ := documented.colons text addr read
  constructor
  · intro same
    rw [ofIp_of_pton6 documented read] at same
    have other : startsDotted text = false := by
      by_contra starts
      obtain ⟨addr4, port, isIpv4⟩ :=
        ofUrl_startsDotted inet (Bool.not_eq_false _ ▸ starts)
      rw [isIpv4, Option.some.injEq] at same
      have families := congrArg SocketAddress.addr same
      rw [addr_init, addr_init] at families
      cases families
    refine ⟨?_, other⟩
    by_contra long
    have overflows : ¬storedBytes text ≤ ipSize := by
      rw [storedBytes_le_iff, hexRun_bare hex, other]
      rintro (starts | short)
      · cases starts
      · exact long short
    rw [ofUrl, if_neg overflows] at same
    cases same
  · rintro ⟨short, other⟩
    rw [ofUrl_bare hex (List.ne_nil_of_mem colon) short other, read,
      ofIp_of_pton6 documented read]
    rfl

/-- The two constructors agree on every IPv4 text, on an IPv6 text in brackets iff it has
less than 40 characters, and on an IPv6 text alone iff it does not begin like an IPv4
text, too.  The URL constructor stays inside its buffer iff the URL begins like an IPv4
text or has less than 40 characters of an IPv6 text behind an optional bracket. -/
theorem parsers_agree_iff (inet : Inet) (documented : inet.Documented) :
    (∀ text addr port, inet.pton4 text = some addr →
      ofUrl inet (text ++ ':' :: portText port) = some (ofIp inet text port)) ∧
    (∀ text addr port, inet.pton6 text = some addr →
      (ofUrl inet ('[' :: (text ++ ']' :: ':' :: portText port)) =
          some (ofIp inet text port) ↔
        text.length < 40)) ∧
    (∀ text addr, inet.pton6 text = some addr →
      (ofUrl inet text = some (ofIp inet text 0) ↔
        text.length < 40 ∧ startsDotted text = false)) ∧
    ∀ url, storedBytes url ≤ 40 ↔
      startsDotted url = true ∨ (hexRun url).length < 40 := by
  refine ⟨?_, fun text addr port read => ofUrl_bracket_iff documented read,
    fun text addr read => ofUrl_bare_iff documented read, storedBytes_le_iff⟩
  intro text addr port read
  obtain ⟨dotted, nonempty, short⟩ := documented.dotted text addr read
  rw [ofUrl_dotted dotted nonempty short, read, ofIp_of_pton4 read]
  rfl

/-- `fe80:1:2:3:4:5:6:7`. -/
def linkLocalText : List Char :=
  ['f', 'e', '8', '0', ':', '1', ':', '2', ':', '3', ':', '4', ':', '5', ':', '6', ':', '7']

/-- `2001:1:2:3:4:5:6:7`. -/
def globalText : List Char :=
  ['2', '0', '0', '1', ':', '1', ':', '2', ':', '3', ':', '4', ':', '5', ':', '6', ':', '7']

/-- A text that begins with a letter is read in both ways. -/
theorem parsers_agree_iff_linkLocal :
    ofUrl .plain linkLocalText = some (ofIp .plain linkLocalText 0) ∧
      ofUrl .plain ('[' :: (linkLocalText ++ ']' :: ':' :: portText 443)) =
        some (ofIp .plain linkLocalText 443) := by
  have read : Inet.plain.pton6 linkLocalText =
      some 0xfe800001000200030004000500060007#128 := by
    decide
  obtain ⟨_, bracket, bare, _⟩ := parsers_agree_iff .plain Inet.documented_plain
  exact ⟨(bare _ _ read).mpr (by decide), (bracket _ _ 443 read).mpr (by decide)⟩

/-- A text that begins with a digit is taken for an IPv4 text, and 40 digits and their
terminator do not fit. -/
theorem parsers_differ :
    (Inet.plain.pton6 globalText).isSome ∧
      ofUrl .plain globalText ≠ some (ofIp .plain globalText 0) ∧
      storedBytes (List.replicate 40 'a') = 41 := by
  decide

end SocketAddress
end Skplat.Network
