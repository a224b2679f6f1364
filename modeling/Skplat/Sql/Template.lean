import Skplat.Data.CString
import Skplat.Sql.Lexer

/-!
# SQL text made with `snprintf`

A format string that puts strings between single quotes, and numbers, into a fixed text.
The text that comes out, cut to the size of a buffer, is the statement that was meant
exactly if no string has a single quote and nothing but the semicolon at the end is cut
off.
-/

namespace Skplat
namespace Sql

/-- `%d` and `%ld`. -/
def decimal (number : Int) : List UInt8 :=
  (if number < 0 then [45] else []) ++
    (Nat.toDigits 10 number.natAbs).map fun digit => UInt8.ofNat digit.toNat

/-- A part of a formatted text. -/
inductive Piece
  /-- Text of the format string. -/
  | text (bytes : List UInt8)
  /-- `'%s'`. -/
  | literal (value : List UInt8)
  /-- `%d` or `%ld`. -/
  | number (value : Int)
  deriving DecidableEq, Repr

namespace Piece

/-- What `snprintf` writes. -/
def raw : Piece → List UInt8
  | .text bytes => bytes
  | .literal value => 39 :: value ++ [39]
  | .number value => decimal value

attribute [grind =] raw

/-- What is meant. -/
def elems : Piece → List Elem
  | .text bytes => bytes.map .other
  | .literal value => [.literal value]
  | .number value => (decimal value).map .other

/-- Text of at least one byte. -/
def isText : Piece → Bool
  | .text bytes => bytes ≠ []
  | _ => false

/-- A piece that does not end with a blank. -/
def closes : Piece → Bool
  | .text bytes => bytes.getLast?.any fun byte => !(Elem.other byte).isBlank
  | _ => true

end Piece

/-- A byte that begins neither a literal, a quoted name nor a comment. -/
def isPlain (byte : UInt8) : Bool :=
  byte ≠ 34 ∧ byte ≠ 39 ∧ byte ≠ 45 ∧ byte ≠ 47 ∧ byte ≠ 59 ∧ byte ≠ 91 ∧ byte ≠ 96

/-- The text of the format string is plain. -/
def Plain (pieces : List Piece) : Prop :=
  ∀ bytes, .text bytes ∈ pieces → ∀ byte ∈ bytes, isPlain byte = true

/-- The text is plain if a check of its bytes says so. -/
theorem plain_of_all
    {pieces : List Piece}
    (all : (pieces.all fun
      | .text bytes => bytes.all isPlain
      | _ => true) = true) :
    Plain pieces := by
  intro bytes present
  exact List.all_eq_true.mp (List.all_eq_true.mp all _ present)

/-- There is text between two arguments. -/
def Separated (pieces : List Piece) : Prop :=
  pieces.IsChain fun piece next => piece.isText ∨ next.isText

instance (pieces : List Piece) : Decidable (Separated pieces) :=
  inferInstanceAs (Decidable (pieces.IsChain fun piece next => piece.isText ∨ next.isText))

/-- No string has a quote. -/
def QuoteFree (pieces : List Piece) : Prop :=
  ∀ value, .literal value ∈ pieces → 39 ∉ value

/-- No string has a quote if a check of them says so. -/
theorem quoteFree_of_all
    {pieces : List Piece}
    (all : (pieces.all fun
      | .literal value => 39 ∉ value
      | _ => true) = true) :
    QuoteFree pieces := by
  intro value present
  exact of_decide_eq_true (List.all_eq_true.mp all _ present)

/-- Digits are plain and no blanks. -/
theorem isPlain_digit :
    ∀ digit < 58, 48 ≤ digit →
      isPlain (UInt8.ofNat digit) = true ∧
        (Elem.other (UInt8.ofNat digit)).isBlank = false := by
  decide

/-- The bytes of a number are digits, after a sign. -/
theorem decimal_cases
    (number : Int) :
    ∃ digits, (decimal number = digits ∨ decimal number = 45 :: digits) ∧
      digits ≠ [] ∧ ∀ byte ∈ digits, isPlain byte = true ∧ (Elem.other byte).isBlank = false := by
  refine ⟨(Nat.toDigits 10 number.natAbs).map fun digit => UInt8.ofNat digit.toNat, ?_, ?_, ?_⟩
  · unfold decimal
    split
    · exact Or.inr rfl
    · exact Or.inl rfl
  · simp [Nat.toDigits_ne_nil]
  · intro byte present
    obtain ⟨digit, isDigit, rfl⟩ := List.mem_map.mp present
    have bounds := Nat.isDigit_of_mem_toDigits (by decide) (by decide) isDigit
    obtain ⟨low, high⟩ := Char.isDigit_iff_toNat.mp bounds
    exact isPlain_digit _ (Nat.lt_succ_of_le high) low

variable {pieces : List Piece} {bytes value rest : List UInt8}

/-- A plain byte leaves the lexer in plain mode. -/
theorem after_of_isPlain
    {byte : UInt8} (plain : isPlain byte = true) (next : Option UInt8) :
    Mode.after byte next = .plain := by
  have facts := of_decide_eq_true plain
  simp [Mode.after, facts]

/-- Plain text. -/
theorem lex_text
    (plain : ∀ byte ∈ bytes, isPlain byte = true) :
    lex .plain (bytes ++ rest) = bytes.map .other ++ lex .plain rest := by
  induction bytes with
  | nil => rfl
  | cons byte more inductionHypothesis =>
      have isPlain := plain byte (by simp)
      have facts := of_decide_eq_true isPlain
      rw [List.cons_append, lex, if_neg facts.2.1, if_neg facts.2.2.2.2.1,
        after_of_isPlain isPlain,
        inductionHypothesis fun other present => plain other (by simp [present])]
      rfl

/-- A literal without quotes. -/
theorem lex_literal
    (quoteFree : 39 ∉ value)
    (after : rest.head? ≠ some 39)
    (read : List UInt8) :
    lex (.literal read) (value ++ 39 :: rest) =
      .literal (read ++ value) :: lex .plain rest := by
  induction value generalizing read with
  | nil =>
      cases rest with
      | nil => simp [lex]
      | cons next more =>
          have different : next ≠ 39 := fun same => after (by rw [same]; rfl)
          simp [lex, different]
  | cons byte more inductionHypothesis =>
      rw [List.mem_cons, not_or] at quoteFree
      have different : byte ≠ 39 := fun same => quoteFree.1 same.symm
      rw [List.cons_append, lex.eq_def]
      simp only [if_neg different]
      rw [inductionHypothesis quoteFree.2]
      simp

/-- A number. -/
theorem lex_number
    (number : Int) :
    lex .plain (decimal number ++ rest) = (decimal number).map .other ++ lex .plain rest := by
  obtain ⟨digits, written, nonempty, areDigits⟩ := decimal_cases number
  have plain : ∀ byte ∈ digits, isPlain byte = true :=
    fun byte present => (areDigits byte present).1
  cases written with
  | inl unsigned =>
      rw [unsigned]
      exact lex_text plain
  | inr signed =>
      have noSign : (digits ++ rest).head? ≠ some 45 := by
        cases digits with
        | nil => exact absurd rfl nonempty
        | cons digit more =>
            intro same
            cases same
            cases plain 45 (by simp)
      rw [signed, List.cons_append, lex, if_neg (by decide), if_neg (by decide)]
      have mode : Mode.after 45 (digits ++ rest).head? = .plain := by
        rw [Mode.after, if_neg (by decide), if_neg (by decide), if_neg (by decide),
          if_neg (fun signs => noSign signs.2),
          if_neg (fun opens => absurd opens.1 (by decide))]
      rw [mode, lex_text plain]
      rfl

/-- What follows an argument is no quote. -/
theorem head_ne_of_separated
    {piece : Piece} {tail : List UInt8}
    (separated : Separated (piece :: pieces))
    (argument : piece.isText = false)
    (plain : Plain pieces)
    (noQuote : tail.head? ≠ some 39) :
    (pieces.flatMap Piece.raw ++ tail).head? ≠ some 39 := by
  cases pieces with
  | nil => exact noQuote
  | cons next more =>
      have nextIsText : next.isText = true := by
        have first := (List.isChain_cons_cons.mp separated).1
        rw [argument] at first
        simpa using first
      cases next with
      | text bytes =>
          cases bytes with
          | nil => simp [Piece.isText] at nextIsText
          | cons front others =>
              intro same
              have isFront : front = 39 := by simpa [Piece.raw] using same
              have isPlain := plain (front :: others) (by simp) front (by simp)
              rw [isFront] at isPlain
              cases isPlain
      | literal _ => cases nextIsText
      | number _ => cases nextIsText

/-- The elements of a formatted text without quotes in its strings. -/
theorem lex_pieces
    {tail : List UInt8}
    (plain : Plain pieces)
    (separated : Separated pieces)
    (quoteFree : QuoteFree pieces)
    (noQuote : tail.head? ≠ some 39) :
    lex .plain (pieces.flatMap Piece.raw ++ tail) =
      pieces.flatMap Piece.elems ++ lex .plain tail := by
  induction pieces with
  | nil => rfl
  | cons piece more inductionHypothesis =>
      have morePlain : Plain more := fun bytes present => plain bytes (by simp [present])
      have moreFree : QuoteFree more := fun value present => quoteFree value (by simp [present])
      have moreLexed := inductionHypothesis morePlain (List.IsChain.of_cons separated) moreFree
      rw [List.flatMap_cons, List.flatMap_cons, List.append_assoc, List.append_assoc]
      cases piece with
      | text bytes =>
          rw [Piece.raw, Piece.elems, lex_text (plain bytes (by simp)), moreLexed]
      | literal value =>
          have after := head_ne_of_separated separated rfl morePlain noQuote
          rw [Piece.raw, Piece.elems, List.append_assoc, List.cons_append, lex, if_pos rfl,
            List.singleton_append, lex_literal (quoteFree value (by simp)) after, moreLexed]
          rfl
      | number value => rw [Piece.raw, Piece.elems, lex_number, moreLexed]

namespace Piece

/-- The bytes of what is meant: quotes in strings are doubled. -/
def written (piece : Piece) : List UInt8 :=
  piece.elems.flatMap Elem.render

theorem render_map_other
    (bytes : List UInt8) :
    (bytes.map Elem.other).flatMap Elem.render = bytes := by
  induction bytes with
  | nil => rfl
  | cons byte rest inductionHypothesis =>
      rw [List.map_cons, List.flatMap_cons, inductionHypothesis]
      rfl

@[simp] theorem written_text : (Piece.text bytes).written = bytes :=
  render_map_other bytes

@[simp] theorem written_literal :
    (Piece.literal value).written = 39 :: encode value ++ [39] := by
  simp [written, elems, Elem.render]

@[simp] theorem written_number (number : Int) :
    (Piece.number number).written = decimal number :=
  render_map_other (decimal number)

end Piece

/-- A byte behind a run of equal bytes belongs to the run. -/
theorem replicate_append_cons
    {Item : Type*} (count : ℕ) (item : Item) (rest : List Item) :
    List.replicate count item ++ item :: rest =
      item :: (List.replicate count item ++ rest) := by
  induction count with
  | zero => rfl
  | succ count inductionHypothesis =>
      rw [List.replicate_succ, List.cons_append, inductionHypothesis]
      rfl

section Shift

variable {meant got : List UInt8}

/-- Within a string, what is meant stays behind what was written once it is ahead by some
quotes. -/
theorem not_isPrefix_value
    (later : ∀ count, ¬List.replicate (count + 1) 39 ++ meant <+: got)
    (value : List UInt8) (count : ℕ) :
    ¬List.replicate (count + 1) 39 ++ (encode value ++ 39 :: meant) <+:
      value ++ 39 :: got := by
  induction value generalizing count with
  | nil =>
      intro inFront
      rw [encode, List.flatMap_nil, List.nil_append, List.nil_append,
        replicate_append_cons, List.prefix_cons_inj] at inFront
      exact later count inFront
  | cons byte rest inductionHypothesis =>
      intro inFront
      rw [List.replicate_succ, List.cons_append, List.cons_append,
        List.cons_prefix_cons] at inFront
      obtain ⟨isQuote, inFront⟩ := inFront
      subst isQuote
      apply inductionHypothesis (count + 1)
      have doubled : encode (39 :: rest) = 39 :: 39 :: encode rest := rfl
      rw [doubled, List.cons_append, List.cons_append, replicate_append_cons,
        replicate_append_cons] at inFront
      rw [List.replicate_succ, List.replicate_succ]
      exact inFront

/-- The same for the pieces that follow. -/
theorem not_isPrefix_pieces
    (plain : Plain pieces)
    {tail : List UInt8}
    (noQuote : tail.head? ≠ some 39)
    (count : ℕ) :
    ¬List.replicate (count + 1) 39 ++ pieces.flatMap Piece.written <+:
      pieces.flatMap Piece.raw ++ tail := by
  induction pieces generalizing count with
  | nil =>
      intro inFront
      obtain ⟨rest, isTail⟩ := inFront
      apply noQuote
      rw [List.flatMap_nil, List.flatMap_nil, List.nil_append, List.append_nil] at isTail
      rw [← isTail, List.replicate_succ]
      rfl
  | cons piece more inductionHypothesis =>
      have later := inductionHypothesis fun bytes present => plain bytes (by simp [present])
      intro inFront
      rw [List.flatMap_cons, List.flatMap_cons, List.append_assoc] at inFront
      cases piece with
      | text bytes =>
          cases bytes with
          | nil => exact later count inFront
          | cons byte rest =>
              rw [Piece.raw, List.replicate_succ, List.cons_append, List.cons_append,
                List.cons_prefix_cons] at inFront
              have isPlain := plain (byte :: rest) (by simp) byte (by simp)
              rw [← inFront.1] at isPlain
              cases isPlain
      | literal value =>
          apply not_isPrefix_value later value count
          simp only [Piece.raw, Piece.written_literal, List.cons_append,
            replicate_append_cons, List.prefix_cons_inj, List.append_assoc,
            List.nil_append] at inFront
          exact inFront
      | number number =>
          obtain ⟨digits, written, nonempty, areDigits⟩ := decimal_cases number
          rw [Piece.raw, List.replicate_succ] at inFront
          cases written with
          | inl unsigned =>
              cases digits with
              | nil => exact nonempty rfl
              | cons digit rest =>
                  rw [unsigned, List.cons_append, List.cons_append,
                    List.cons_prefix_cons] at inFront
                  have isPlain := (areDigits digit (by simp)).1
                  rw [← inFront.1] at isPlain
                  cases isPlain
          | inr signed =>
              rw [signed, List.cons_append, List.cons_append,
                List.cons_prefix_cons] at inFront
              exact absurd inFront.1 (by decide)

/-- A string that is written as it is meant has no quotes. -/
theorem notMem_of_isPrefix
    (later : ∀ count, ¬List.replicate (count + 1) 39 ++ meant <+: got)
    {value : List UInt8}
    (inFront : encode value ++ 39 :: meant <+: value ++ 39 :: got) :
    39 ∉ value ∧ meant <+: got := by
  induction value with
  | nil => exact ⟨List.not_mem_nil, (List.prefix_cons_inj 39).mp inFront⟩
  | cons byte rest inductionHypothesis =>
      by_cases isQuote : byte = 39
      · subst isQuote
        have doubled : encode (39 :: rest) = 39 :: 39 :: encode rest := rfl
        rw [doubled, List.cons_append, List.cons_append, List.cons_append,
          List.prefix_cons_inj] at inFront
        exact absurd inFront (not_isPrefix_value later rest 0)
      · have single : encode (byte :: rest) = byte :: encode rest := by
          simp [encode, isQuote]
        rw [single, List.cons_append, List.cons_append, List.prefix_cons_inj] at inFront
        obtain ⟨restFree, behind⟩ := inductionHypothesis inFront
        refine ⟨?_, behind⟩
        rw [List.mem_cons, not_or]
        exact ⟨fun same => isQuote same.symm, restFree⟩

/-- A text that begins with what is meant has no quotes in its strings. -/
theorem quoteFree_of_isPrefix
    (plain : Plain pieces)
    {tail : List UInt8}
    (noQuote : tail.head? ≠ some 39)
    (inFront : pieces.flatMap Piece.written <+: pieces.flatMap Piece.raw ++ tail) :
    QuoteFree pieces := by
  induction pieces with
  | nil =>
      intro value absent
      cases absent
  | cons piece more inductionHypothesis =>
      have morePlain : Plain more := fun bytes present => plain bytes (by simp [present])
      rw [List.flatMap_cons, List.flatMap_cons, List.append_assoc] at inFront
      cases piece with
      | text bytes =>
          rw [Piece.written_text, Piece.raw, List.prefix_append_right_inj] at inFront
          intro value present
          rw [List.mem_cons] at present
          cases present with
          | inl absurdity => cases absurdity
          | inr inMore => exact inductionHypothesis morePlain inFront value inMore
      | number number =>
          rw [Piece.written_number, Piece.raw, List.prefix_append_right_inj] at inFront
          intro value present
          rw [List.mem_cons] at present
          cases present with
          | inl absurdity => cases absurdity
          | inr inMore => exact inductionHypothesis morePlain inFront value inMore
      | literal string =>
          simp only [Piece.raw, Piece.written_literal, List.cons_append,
            List.prefix_cons_inj, List.append_assoc, List.nil_append] at inFront
          obtain ⟨free, behind⟩ :=
            notMem_of_isPrefix (not_isPrefix_pieces morePlain noQuote) inFront
          intro value present
          rw [List.mem_cons] at present
          cases present with
          | inl same =>
              cases same
              exact free
          | inr inMore => exact inductionHypothesis morePlain behind value inMore

end Shift

/-- A text ends with a semicolon, or a blank and a semicolon. -/
def Terminates (terminator : List UInt8) : Prop :=
  terminator = [59] ∨ terminator = [32, 59]

theorem terminates_semicolon : Terminates (CString.ascii ";") := Or.inl rfl

theorem terminates_blank_semicolon : Terminates (CString.ascii " ;") := Or.inr rfl

/-- A format string with its arguments. -/
structure Template where
  pieces : List Piece
  /-- The end: a semicolon, perhaps after a blank. -/
  terminator : List UInt8
  plain : Plain pieces
  separated : Separated pieces
  starts : ∃ byte rest more, pieces = .text (byte :: rest) :: more ∧
    (Elem.other byte).isBlank = false
  ends : ∀ piece ∈ pieces.getLast?, piece.closes = true
  terminated : Terminates terminator

namespace Template

variable (template : Template)

/-- What `snprintf` writes before the terminator. -/
def core : List UInt8 :=
  template.pieces.flatMap Piece.raw

/-- What `snprintf` writes into a buffer that can take this many bytes. -/
def text (size : ℕ) : List UInt8 :=
  (template.core ++ template.terminator).take size

/-- The statement that is meant. -/
def statement : List Elem :=
  template.pieces.flatMap Piece.elems

/-- A quote-free text is written as it is meant. -/
theorem written_eq_raw
    {pieces : List Piece}
    (quoteFree : QuoteFree pieces) :
    pieces.flatMap Piece.written = pieces.flatMap Piece.raw := by
  induction pieces with
  | nil => rfl
  | cons piece more inductionHypothesis =>
      have moreFree : QuoteFree more := fun value present => quoteFree value (by simp [present])
      rw [List.flatMap_cons, List.flatMap_cons, inductionHypothesis moreFree]
      cases piece with
      | text bytes => rw [Piece.written_text, Piece.raw]
      | literal value =>
          rw [Piece.written_literal, Piece.raw, encode_of_notMem (quoteFree value (by simp))]
      | number number => rw [Piece.written_number, Piece.raw]

/-- No statement ends within a statement. -/
theorem semicolon_notMem_statement :
    .semicolon ∉ template.statement := by
  intro present
  obtain ⟨piece, _, inPiece⟩ := List.mem_flatMap.mp present
  cases piece with
  | text bytes => simp [Piece.elems] at inPiece
  | literal value => simp [Piece.elems] at inPiece
  | number number => simp [Piece.elems] at inPiece

/-- A statement is not empty. -/
theorem statement_ne_nil :
    template.statement ≠ [] := by
  obtain ⟨byte, rest, more, isStart, _⟩ := template.starts
  simp [statement, isStart, Piece.elems]

/-- A piece that closes a statement. -/
theorem elems_of_closes
    {piece : Piece}
    (closes : piece.closes = true) :
    ∃ front last, piece.elems = front ++ [last] ∧ last.isBlank = false := by
  cases piece with
  | literal value => exact ⟨[], .literal value, rfl, rfl⟩
  | text bytes =>
      obtain ⟨last, isLast, notBlank⟩ := Option.any_eq_true _ _ |>.mp closes
      obtain ⟨front, rfl⟩ := List.getLast?_eq_some_iff.mp isLast
      refine ⟨front.map .other, .other last, ?_, ?_⟩
      · simp [Piece.elems]
      · simpa using notBlank
  | number number =>
      obtain ⟨digits, written, nonempty, areDigits⟩ := decimal_cases number
      obtain ⟨front, last, rfl⟩ := List.eq_nil_or_concat digits |>.resolve_left nonempty
      have notBlank := (areDigits last (by simp)).2
      cases written with
      | inl unsigned =>
          exact ⟨front.map .other, .other last, by simp [Piece.elems, unsigned], notBlank⟩
      | inr signed =>
          exact ⟨.other 45 :: front.map .other, .other last,
            by simp [Piece.elems, signed], notBlank⟩

/-- A statement does not end with a blank. -/
theorem getLast_statement :
    (template.statement.getLast template.statement_ne_nil).isBlank = false := by
  obtain ⟨byte, rest, more, isStart, _⟩ := template.starts
  have nonempty : template.pieces ≠ [] := by simp [isStart]
  obtain ⟨front, last, isPieces⟩ := List.eq_nil_or_concat template.pieces |>.resolve_left
    nonempty
  have closes := template.ends last (by simp [isPieces])
  obtain ⟨others, final, isElems, notBlank⟩ := elems_of_closes closes
  have isStatement : template.statement =
      front.flatMap Piece.elems ++ others ++ [final] := by
    rw [statement, isPieces]
    simp [isElems]
  simp only [isStatement, List.getLast_append_singleton]
  exact notBlank

/-- The text in the buffer is the statement that is meant if no string has a quote and
the statement fits. -/
theorem statements_of_quoteFree
    {size : ℕ}
    (quoteFree : QuoteFree template.pieces)
    (fits : template.core.length ≤ size) :
    statements (template.text size) = [template.statement] := by
  have cut : template.text size =
      template.core ++ template.terminator.take (size - template.core.length) := by
    rw [text, List.take_append, List.take_of_length_le fits]
  have single : ∀ (tail : List UInt8) (blanks ending : List Elem), tail.head? ≠ some 39 →
      lex .plain tail = blanks ++ ending → (∀ elem ∈ blanks, elem.isBlank = true) →
      ending = [] ∨ ending = [.semicolon] →
      statements (template.core ++ tail) = [template.statement] := by
    intro tail blanks ending noQuote isTail areBlanks isEnding
    apply statements_of_lex _ template.semicolon_notMem_statement areBlanks isEnding
      template.statement_ne_nil template.getLast_statement
    rw [core, lex_pieces template.plain template.separated quoteFree noQuote, isTail,
      List.append_assoc]
    rfl
  rw [cut]
  cases template.terminated with
  | inl isTerminator =>
      rw [isTerminator]
      match size - template.core.length with
      | 0 => exact single [] [] [] (by decide) rfl (by simp) (Or.inl rfl)
      | room + 1 =>
          rw [List.take_of_length_le (by simp)]
          exact single [59] [] [.semicolon] (by decide) (by decide) (by simp) (Or.inr rfl)
  | inr isTerminator =>
      rw [isTerminator]
      match size - template.core.length with
      | 0 => exact single [] [] [] (by decide) rfl (by simp) (Or.inl rfl)
      | 1 =>
          exact single [32] [.other 32] [] (by decide) (by decide) (by simp [Elem.isBlank])
            (Or.inl rfl)
      | room + 2 =>
          rw [List.take_of_length_le (by simp)]
          exact single [32, 59] [.other 32] [.semicolon] (by decide) (by decide)
            (by simp [Elem.isBlank]) (Or.inr rfl)

/-- The text in the buffer begins with a statement. -/
theorem exists_statements
    {size : ℕ}
    (positive : 0 < size) :
    ∃ first others, statements (template.text size) = first :: others ∧
      first <+: lex .plain (template.text size) := by
  obtain ⟨byte, rest, more, isStart, notBlank⟩ := template.starts
  have bytePlain : isPlain byte = true :=
    template.plain (byte :: rest) (by simp [isStart]) byte (by simp)
  have facts := of_decide_eq_true bytePlain
  obtain ⟨remaining, isText⟩ : ∃ remaining, template.text size = byte :: remaining := by
    obtain ⟨count, rfl⟩ := Nat.exists_eq_add_of_lt positive
    rw [text, core, isStart]
    simp [Piece.raw]
  have isLexed : lex .plain (template.text size) = .other byte :: lex .plain remaining := by
    rw [isText, lex, if_neg facts.2.1, if_neg facts.2.2.2.2.1, after_of_isPlain bytePlain]
    rfl
  exact Sql.exists_statements isLexed (by simp) notBlank

/-- A text with this statement only has no quotes in its strings, and all of the
statement fits. -/
theorem quoteFree_of_statements
    {size : ℕ}
    (positive : 0 < size)
    (only : statements (template.text size) = [template.statement]) :
    QuoteFree template.pieces ∧ template.core.length ≤ size := by
  obtain ⟨first, others, isList, inText⟩ := template.exists_statements positive
  rw [only] at isList
  cases isList
  have inFront : template.pieces.flatMap Piece.written <+: template.text size := by
    have rendered := render_isPrefix inText
    rwa [statement, List.flatMap_assoc] at rendered
  have noQuote : template.terminator.head? ≠ some 39 := by
    cases template.terminated with
    | inl isTerminator => rw [isTerminator]; decide
    | inr isTerminator => rw [isTerminator]; decide
  have quoteFree : QuoteFree template.pieces :=
    quoteFree_of_isPrefix template.plain noQuote (inFront.trans (List.take_prefix _ _))
  refine ⟨quoteFree, ?_⟩
  rw [written_eq_raw quoteFree] at inFront
  exact inFront.length_le.trans (List.length_take_le _ _)

/-- When the text in the buffer is the statement that is meant. -/
theorem statements_text_iff
    {size : ℕ}
    (positive : 0 < size) :
    statements (template.text size) = [template.statement] ↔
      QuoteFree template.pieces ∧ template.core.length ≤ size := by
  constructor
  · exact template.quoteFree_of_statements positive
  · rintro ⟨quoteFree, fits⟩
    exact template.statements_of_quoteFree quoteFree fits

end Template
end Sql
end Skplat
