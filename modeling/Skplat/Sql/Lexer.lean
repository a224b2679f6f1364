import Mathlib.Data.List.Basic
import Mathlib.Data.List.DropRight
import Mathlib.Data.List.Induction
import Mathlib.Data.List.Infix
import Mathlib.Tactic.SplitIfs

/-!
# The lexical structure of SQL text

A text is cut into statements at the semicolons outside of literals, quoted names and
comments.  A string literal stands between single quotes, and two of them inside of it
stand for one.

`lex` keeps every byte, so a text can be read back from its elements.  What is written
between two quotes is therefore the value of the literal only if it has no quote itself.
-/

namespace Skplat
namespace Sql

/-- An element of a text. -/
inductive Elem
  /-- A byte outside of string literals. -/
  | other (byte : UInt8)
  /-- A byte of a comment. -/
  | comment (byte : UInt8)
  /-- A string literal with the string it denotes. -/
  | literal (value : List UInt8)
  /-- A string literal without its closing quote. -/
  | unterminated (value : List UInt8)
  /-- The end of a statement. -/
  | semicolon
  deriving DecidableEq, Repr

/-- What the lexer is in the middle of. -/
inductive Mode
  | plain
  /-- A string literal, of which this part has been read. -/
  | literal (value : List UInt8)
  /-- A quoted name, up to this byte. -/
  | quoted (close : UInt8)
  /-- A comment up to the end of the line. -/
  | line
  /-- At the `*` that opens a comment. -/
  | opening
  | block
  /-- At the `/` that closes a comment. -/
  | closing
  deriving DecidableEq, Repr

/-- The mode after a byte that is neither a single quote nor a semicolon. -/
def Mode.after (byte : UInt8) (next : Option UInt8) : Mode :=
  if byte = 34 then .quoted 34
  else if byte = 96 then .quoted 96
  else if byte = 91 then .quoted 93
  else if byte = 45 ∧ next = some 45 then .line
  else if byte = 47 ∧ next = some 42 then .opening
  else .plain

/-- A byte outside of string literals, before the lexer enters a mode. -/
def Mode.elem (mode : Mode) (byte : UInt8) : Elem :=
  match mode with
  | .line | .opening => .comment byte
  | _ => .other byte

/-- The elements of a text. -/
def lex : Mode → List UInt8 → List Elem
  | .literal value, [] => [.unterminated value]
  | _, [] => []
  | .plain, byte :: rest =>
      if byte = 39 then lex (.literal []) rest
      else if byte = 59 then .semicolon :: lex .plain rest
      else (Mode.after byte rest.head?).elem byte :: lex (.after byte rest.head?) rest
  | .literal value, byte :: rest =>
      if byte = 39 then
        match rest with
        | [] => [.literal value]
        | next :: more =>
            if next = 39 then lex (.literal (value ++ [39])) more
            else .literal value :: lex .plain (next :: more)
      else lex (.literal (value ++ [byte])) rest
  | .quoted close, byte :: rest =>
      .other byte :: lex (if byte = close then .plain else .quoted close) rest
  | .line, byte :: rest => .comment byte :: lex (if byte = 10 then .plain else .line) rest
  | .opening, byte :: rest => .comment byte :: lex .block rest
  | .block, byte :: rest =>
      .comment byte ::
        lex (if byte = 42 ∧ rest.head? = some 47 then .closing else .block) rest
  | .closing, byte :: rest => .comment byte :: lex .plain rest

/-- A string as it has to be written between quotes. -/
def encode (value : List UInt8) : List UInt8 :=
  value.flatMap fun byte => if byte = 39 then [39, 39] else [byte]

/-- The bytes of an element. -/
def Elem.render : Elem → List UInt8
  | .other byte | .comment byte => [byte]
  | .literal value => 39 :: encode value ++ [39]
  | .unterminated value => 39 :: encode value
  | .semicolon => [59]

/-- The bytes of an unfinished literal. -/
def Mode.begun : Mode → List UInt8
  | .literal value => 39 :: encode value
  | _ => []

theorem encode_append
    (first second : List UInt8) :
    encode (first ++ second) = encode first ++ encode second :=
  List.flatMap_append

/-- A string without quotes is written as it is. -/
theorem encode_of_notMem
    {value : List UInt8}
    (quoteFree : 39 ∉ value) :
    encode value = value := by
  induction value with
  | nil => rfl
  | cons byte rest inductionHypothesis =>
      rw [List.mem_cons, not_or] at quoteFree
      have different : byte ≠ 39 := fun same => quoteFree.1 same.symm
      have unfolded : encode (byte :: rest) =
          (if byte = 39 then [39, 39] else [byte]) ++ encode rest := rfl
      rw [unfolded, if_neg different, inductionHypothesis quoteFree.2]
      rfl

/-- The lexer does not begin a literal at another byte than a quote. -/
theorem Mode.begun_after
    (byte : UInt8) (next : Option UInt8) :
    (Mode.after byte next).begun = [] := by
  unfold Mode.after
  split_ifs
  · rfl
  · rfl
  · rfl
  · rfl
  · rfl
  · rfl

theorem Mode.render_elem
    (mode : Mode) (byte : UInt8) :
    (mode.elem byte).render = [byte] := by
  cases mode with
  | _ => rfl

/-- The elements render as the text they come from. -/
theorem render_lex
    (mode : Mode) (text : List UInt8) :
    (lex mode text).flatMap Elem.render = mode.begun ++ text := by
  fun_induction lex mode text with
  | case1 value => simp [Elem.render, Mode.begun]
  | case2 mode notLiteral =>
      cases mode with
      | literal value => exact absurd rfl (notLiteral value)
      | _ => rfl
  | case3 rest inductionHypothesis =>
      rw [inductionHypothesis]
      rfl
  | case4 rest _ inductionHypothesis =>
      rw [List.flatMap_cons, inductionHypothesis]
      rfl
  | case5 byte rest _ _ inductionHypothesis =>
      rw [List.flatMap_cons, inductionHypothesis, Mode.begun_after, Mode.render_elem]
      rfl
  | case6 value => simp [Elem.render, Mode.begun]
  | case7 value more inductionHypothesis =>
      rw [inductionHypothesis, Mode.begun, encode_append]
      simp [encode, Mode.begun]
  | case8 value next more _ inductionHypothesis =>
      rw [List.flatMap_cons, inductionHypothesis]
      simp [Elem.render, Mode.begun]
  | case9 value byte rest different inductionHypothesis =>
      rw [inductionHypothesis, Mode.begun, encode_append]
      simp [encode, Mode.begun, different]
  | case10 close byte rest inductionHypothesis =>
      rw [List.flatMap_cons, inductionHypothesis]
      split
      · rfl
      · rfl
  | case11 byte rest inductionHypothesis =>
      rw [List.flatMap_cons, inductionHypothesis]
      split
      · rfl
      · rfl
  | case12 byte rest inductionHypothesis =>
      rw [List.flatMap_cons, inductionHypothesis]
      rfl
  | case13 byte rest inductionHypothesis =>
      rw [List.flatMap_cons, inductionHypothesis]
      split
      · rfl
      · rfl
  | case14 byte rest inductionHypothesis =>
      rw [List.flatMap_cons, inductionHypothesis]
      rfl

/-! ## Statements -/

/-- Blanks and comments between the words of a statement. -/
def Elem.isBlank : Elem → Bool
  | .other byte => byte = 32 ∨ (9 ≤ byte ∧ byte ≤ 13)
  | .comment _ => true
  | _ => false

/-- The parts between the semicolons. -/
def split : List Elem → List (List Elem)
  | [] => [[]]
  | elem :: rest =>
      if elem = .semicolon then [] :: split rest
      else
        match split rest with
        | [] => [[elem]]
        | first :: others => (elem :: first) :: others

/-- The statements of a text, without the blanks at their ends.  Parts of blanks only
are none. -/
def statements (text : List UInt8) : List (List Elem) :=
  ((split (lex .plain text)).map (List.rdropWhile Elem.isBlank)).filter (· ≠ [])

/-- There is one part if there is no semicolon. -/
theorem split_of_notMem
    {elems : List Elem}
    (none : .semicolon ∉ elems) :
    split elems = [elems] := by
  induction elems with
  | nil => rfl
  | cons elem rest inductionHypothesis =>
      rw [List.mem_cons, not_or] at none
      unfold split
      rw [if_neg (Ne.symm none.1), inductionHypothesis none.2]

/-- The part before the first semicolon. -/
theorem split_append_semicolon
    {front : List Elem}
    (none : .semicolon ∉ front)
    (rest : List Elem) :
    split (front ++ .semicolon :: rest) = front :: split rest := by
  induction front with
  | nil =>
      rw [List.nil_append, split, if_pos rfl]
  | cons elem more inductionHypothesis =>
      rw [List.mem_cons, not_or] at none
      rw [List.cons_append, split, if_neg (Ne.symm none.1), inductionHypothesis none.2]

/-- The first part stands in front. -/
theorem exists_split
    (elems : List Elem) :
    ∃ first others, split elems = first :: others ∧ first <+: elems := by
  induction elems with
  | nil => exact ⟨[], [], rfl, List.prefix_refl _⟩
  | cons elem rest inductionHypothesis =>
      obtain ⟨first, others, isSplit, front⟩ := inductionHypothesis
      unfold split
      split
      · exact ⟨[], _, rfl, List.nil_prefix⟩
      · rw [isSplit]
        exact ⟨elem :: first, others, rfl, (List.prefix_cons_inj elem).mpr front⟩

/-- Blanks at the end are dropped. -/
theorem rdropWhile_append_of_forall
    {Item : Type*} {test : Item → Bool} {tail : List Item}
    (all : ∀ item ∈ tail, test item = true)
    (front : List Item) :
    (front ++ tail).rdropWhile test = front.rdropWhile test := by
  induction tail using List.reverseRecOn with
  | nil => rw [List.append_nil]
  | append_singleton rest last inductionHypothesis =>
      rw [← List.append_assoc, List.rdropWhile_concat_pos _ _ _ (all last (by simp))]
      exact inductionHypothesis fun item present => all item (by simp [present])

/-- A statement, perhaps with blanks and a semicolon behind it. -/
theorem statements_of_lex
    {text : List UInt8} {statement blanks ending : List Elem}
    (isText : lex .plain text = statement ++ blanks ++ ending)
    (none : .semicolon ∉ statement)
    (areBlanks : ∀ elem ∈ blanks, elem.isBlank = true)
    (isEnding : ending = [] ∨ ending = [.semicolon])
    (nonempty : statement ≠ [])
    (ends : (statement.getLast nonempty).isBlank = false) :
    statements text = [statement] := by
  have noSemicolon : .semicolon ∉ statement ++ blanks := by
    rw [List.mem_append, not_or]
    refine ⟨none, ?_⟩
    intro present
    cases areBlanks _ present
  have trimmed : (statement ++ blanks).rdropWhile Elem.isBlank = statement := by
    rw [rdropWhile_append_of_forall areBlanks, List.rdropWhile_eq_self_iff]
    intro _
    rw [ends]
    exact Bool.false_ne_true
  unfold statements
  rw [isText]
  cases isEnding with
  | inl nothing =>
      subst nothing
      rw [List.append_nil, split_of_notMem noSemicolon]
      simp [trimmed, nonempty]
  | inr terminated =>
      subst terminated
      rw [split_append_semicolon noSemicolon]
      simp [split, trimmed, nonempty]

/-- A text that begins with neither a blank nor a semicolon begins with its first
statement. -/
theorem exists_statements
    {text : List UInt8} {elem : Elem} {rest : List Elem}
    (isText : lex .plain text = elem :: rest)
    (notSemicolon : elem ≠ .semicolon)
    (notBlank : elem.isBlank = false) :
    ∃ first others, statements text = first :: others ∧ first <+: lex .plain text := by
  obtain ⟨first, others, isSplit, front⟩ := exists_split rest
  have wholeSplit : split (elem :: rest) = (elem :: first) :: others := by
    rw [split, if_neg notSemicolon, isSplit]
  have kept : (elem :: first).rdropWhile Elem.isBlank ≠ [] := by
    rw [Ne, List.rdropWhile_eq_nil_iff]
    intro allBlank
    have blank := allBlank elem (by simp)
    rw [notBlank] at blank
    cases blank
  have isFirst : statements text = (elem :: first).rdropWhile Elem.isBlank ::
      (others.map (List.rdropWhile Elem.isBlank)).filter (· ≠ []) := by
    unfold statements
    rw [isText, wholeSplit, List.map_cons, List.filter_cons, if_pos (decide_eq_true kept)]
  refine ⟨_, _, isFirst, ?_⟩
  rw [isText]
  exact (List.rdropWhile_prefix _ _).trans ((List.prefix_cons_inj elem).mpr front)

/-- A statement in front of a text is written there. -/
theorem render_isPrefix
    {text : List UInt8} {statement : List Elem}
    (inFront : statement <+: lex .plain text) :
    statement.flatMap Elem.render <+: text := by
  obtain ⟨tail, whole⟩ := inFront
  have rendered := render_lex .plain text
  rw [← whole, List.flatMap_append] at rendered
  exact ⟨_, rendered⟩

end Sql
end Skplat
