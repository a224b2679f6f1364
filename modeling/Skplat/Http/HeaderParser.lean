import Skplat.Http.Header

/-!
# What `parser` makes of a head

The head of a response is a status line, any lines, and a blank line.  The loop in
`parser` stops at the line whose end is the start of `\r\n\r\n`, so the last line is not
read; a line without a colon before it ends the program.
-/

namespace Skplat
namespace Http

open CString HttpFilter

/-! ## Blanks and colons -/

/-- Removing blanks at the end and at the front commute. -/
theorem dropWhile_rdropWhile
    {Item : Type*} (isDropped : Item → Bool) (items : List Item) :
    (items.rdropWhile isDropped).dropWhile isDropped =
      (items.dropWhile isDropped).rdropWhile isDropped := by
  induction items using List.reverseRecOn with
  | nil => rfl
  | append_singleton items last inductionHypothesis =>
      by_cases dropped : isDropped last = true
      · rw [List.rdropWhile_concat_pos _ _ _ dropped, inductionHypothesis,
          List.dropWhile_append]
        split
        · rename_i none
          rw [List.isEmpty_iff.mp none, List.dropWhile_cons_of_pos dropped]
          rfl
        · rw [List.rdropWhile_concat_pos _ _ _ dropped]
      · rw [List.rdropWhile_concat_neg _ _ _ dropped, List.dropWhile_append]
        split
        · rw [List.dropWhile_cons_of_neg dropped, List.rdropWhile_singleton, if_neg dropped]
        · rw [List.rdropWhile_concat_neg _ _ _ dropped]

/-- Blanks at the front do not matter. -/
theorem strip_dropWhile
    (text : List UInt8) :
    strip (text.dropWhile isBlank) = strip text := by
  rw [strip, List.dropWhile_idempotent, strip]

/-- Blanks at the end do not matter. -/
theorem strip_rdropWhile
    (text : List UInt8) :
    strip (text.rdropWhile isBlank) = strip text := by
  rw [strip, dropWhile_rdropWhile, List.rdropWhile_idempotent, strip]

/-- Blanks behind a colon are removed up to it. -/
theorem rdropWhile_colon
    (key value : List UInt8) :
    (key ++ 58 :: value).rdropWhile isBlank = key ++ 58 :: value.rdropWhile isBlank := by
  induction value using List.reverseRecOn with
  | nil => exact List.rdropWhile_concat_neg _ _ _ (by decide)
  | append_singleton value last inductionHypothesis =>
      have joined : key ++ 58 :: (value ++ [last]) = key ++ 58 :: value ++ [last] := by simp
      rw [joined]
      by_cases blank : isBlank last = true
      · rw [List.rdropWhile_concat_pos _ _ _ blank, inductionHypothesis,
          List.rdropWhile_concat_pos _ _ _ blank]
      · rw [List.rdropWhile_concat_neg _ _ _ blank, List.rdropWhile_concat_neg _ _ _ blank,
          joined]

/-- A line with a colon keeps its blanks on both sides of the colon. -/
theorem strip_colon
    (key value : List UInt8) :
    strip (key ++ 58 :: value) = key.dropWhile isBlank ++ 58 :: value.rdropWhile isBlank := by
  have front : (key ++ 58 :: value).dropWhile isBlank = key.dropWhile isBlank ++ 58 :: value := by
    rw [List.dropWhile_append]
    split
    · rename_i none
      rw [List.isEmpty_iff.mp none, List.dropWhile_cons_of_neg (by decide)]
      rfl
    · rfl
  rw [strip, front, rdropWhile_colon]

/-- The key and the value of a line, without the blanks at their ends. -/
def field (line : List UInt8) : Option (List UInt8 × List UInt8) :=
  if 58 ∈ line then
    some (strip (line.takeWhile (· ≠ 58)), strip (line.dropWhile (· ≠ 58)).tail)
  else none

theorem field_colon
    {key : List UInt8} (value : List UInt8) (colonFree : 58 ∉ key) :
    field (key ++ 58 :: value) = some (strip key, strip value) := by
  have before : ∀ byte ∈ key, decide (byte ≠ 58) = true := by
    intro byte present
    exact decide_eq_true fun isColon => colonFree (isColon ▸ present)
  rw [field, if_pos (by simp), List.takeWhile_append_of_pos before,
    List.dropWhile_append_of_pos before]
  simp

/-- A trim of a text that is not longer than an `int`. -/
theorem trim_asInt
    (text : List UInt8) {length : ℕ} (small : length < 2 ^ 31) :
    trim text (asInt length) = .ok (strip (text.take length)) := by
  rw [asInt_of_lt small, trim, if_neg (by omega), Int.toNat_natCast]

@[simp] theorem ok_bind
    {Result Next : Type} (result : Result) (rest : Result → Except Fault Next) :
    (Except.ok result >>= rest) = rest result :=
  rfl

@[simp] theorem error_bind
    {Result Next : Type} (fault : Fault) (rest : Result → Except Fault Next) :
    (Except.error fault >>= rest) = Except.error fault :=
  rfl

/-- A line whose three trims succeed. -/
theorem parseEntry_ok
    (header : HttpHeader) {text entryString key value : List UInt8} {length : ℕ}
    (isEntry : trim text (asInt length) = .ok entryString)
    (isKey : trim entryString (asInt (findColon entryString)) = .ok key)
    (isValue : trim (entryString.drop (findColon entryString + 1))
      (asInt (entryString.length - findColon entryString - 1)) = .ok value) :
    header.parseEntry text length = .ok (header.setEntry key value) := by
  rw [HttpHeader.parseEntry, isEntry, ok_bind, HttpHeader.splitEntry,
    if_neg (Nat.not_lt_zero _), isKey, ok_bind, isValue, ok_bind]
  rfl

/-- A line without a colon: the position is no negative number, and no length either. -/
theorem parseEntry_error
    (header : HttpHeader) {text entryString : List UInt8} {length : ℕ}
    (isEntry : trim text (asInt length) = .ok entryString)
    (noColon : 58 ∉ entryString) :
    header.parseEntry text length = .error .lengthError := by
  have negative : asInt npos < 0 := by decide
  have pos : findColon entryString = npos := if_neg noColon
  rw [HttpHeader.parseEntry, isEntry, ok_bind, HttpHeader.splitEntry,
    if_neg (Nat.not_lt_zero _), pos, trim, if_pos negative, error_bind]

/-- What the loop does with a line. -/
theorem parseEntry_eq
    (header : HttpHeader) {line : List UInt8} (more : List UInt8)
    (small : line.length < 2 ^ 31) :
    header.parseEntry (line ++ more) line.length =
      match field line with
      | none => .error .lengthError
      | some (key, value) => .ok (header.setEntry key value) := by
  have isEntry : trim (line ++ more) (asInt line.length) = .ok (strip line) := by
    rw [trim_asInt _ small, List.take_left]
  by_cases colon : 58 ∈ line
  · obtain ⟨key, value, isLine, colonFree⟩ := List.eq_append_cons_of_mem colon
    have shorter : (key.dropWhile isBlank).length ≤ key.length :=
      (List.dropWhile_sublist isBlank).length_le
    have valueShorter : (value.rdropWhile isBlank).length ≤ value.length :=
      (List.rdropWhile_prefix isBlank value).length_le
    have lengths : line.length = key.length + (value.length + 1) := by
      rw [isLine, List.length_append, List.length_cons]
    have keyFree : 58 ∉ key.dropWhile isBlank :=
      fun present => colonFree ((List.dropWhile_sublist isBlank).subset present)
    have pos : findColon (key.dropWhile isBlank ++ 58 :: value.rdropWhile isBlank) =
        (key.dropWhile isBlank).length := by
      rw [findColon, if_pos (by simp), List.idxOf_append_of_notMem keyFree]
      simp
    have isField : field line = some (strip key, strip value) := by
      rw [isLine, field_colon value colonFree]
    rw [isField]
    rw [isLine, strip_colon, ← isLine] at isEntry
    apply parseEntry_ok header isEntry
    · rw [pos, trim_asInt _ (by omega), List.take_left, strip_dropWhile]
    · have rest : (key.dropWhile isBlank ++ 58 :: value.rdropWhile isBlank).drop
          ((key.dropWhile isBlank).length + 1) = value.rdropWhile isBlank := by
        rw [← List.drop_drop, List.drop_left]
        rfl
      have restLength : (key.dropWhile isBlank ++ 58 :: value.rdropWhile isBlank).length -
          (key.dropWhile isBlank).length - 1 = (value.rdropWhile isBlank).length := by
        rw [List.length_append, List.length_cons]
        omega
      rw [pos, rest, restLength, trim_asInt _ (by omega), List.take_length, strip_rdropWhile]
  · have noColon : 58 ∉ strip line := by
      intro present
      have inFront := (List.rdropWhile_prefix isBlank _).subset present
      exact colon ((List.dropWhile_sublist isBlank).subset inFront)
    have isField : field line = none := if_neg colon
    rw [isField, parseEntry_error header isEntry noColon]

/-! ## The lines of a head -/

/-- Lines with their ends. -/
def lineText (lines : List (List UInt8)) : List UInt8 :=
  lines.flatMap (· ++ lineHints)

@[simp] theorem lineText_nil : lineText [] = [] := rfl

@[simp] theorem lineText_cons (line : List UInt8) (rest : List (List UInt8)) :
    lineText (line :: rest) = line ++ lineHints ++ lineText rest :=
  List.flatMap_cons

/-- A byte that does not end a line. -/
def isInLine (byte : UInt8) : Bool :=
  byte ≠ 0 ∧ byte ≠ 10 ∧ byte ≠ 13

/-- The end of a line. -/
theorem strstr_lineHints
    {line : List UInt8} (clean : line.all isInLine = true) (more : List UInt8) :
    strstr lineHints (line ++ lineHints ++ more) = some line.length := by
  rw [List.all_eq_true] at clean
  apply strstr_of_notMem
  · intro byte present
    exact (of_decide_eq_true (clean byte present)).1
  · intro present
    cases clean 13 present

/-- The end of a line that is not followed by a blank line. -/
theorem strstr_after_lineHints
    (text : List UInt8) (noLineEnd : text.head? ≠ some 13) :
    strstr headerHints (13 :: 10 :: text) = (strstr headerHints text).map (· + 2) := by
  have notHere : ¬headerHints <+: 13 :: 10 :: text := by
    intro here
    rw [headerHints, List.cons_prefix_cons, List.cons_prefix_cons] at here
    obtain ⟨-, -, more, isText⟩ := here
    exact noLineEnd (by rw [← isText]; rfl)
  have notThere : ¬headerHints <+: 10 :: text := by
    intro here
    exact absurd (List.cons_prefix_cons.mp here).1 (by decide)
  rw [strstr, if_neg notHere, if_neg (by decide), strstr, if_neg notThere,
    if_neg (by decide), Option.map_map]
  rfl

/-- A line that is not blank does not begin with the end of a line. -/
theorem head_lineText_ne
    {line : List UInt8} {others : List (List UInt8)} {tail : List UInt8}
    (unbroken : 13 ∉ line)
    (nonempty : line ≠ []) :
    (lineText (line :: others) ++ lineHints ++ tail).head? ≠ some 13 := by
  cases line with
  | nil => exact absurd rfl nonempty
  | cons byte rest =>
      rw [List.mem_cons, not_or] at unbroken
      intro same
      simp only [lineText_cons, List.cons_append, List.head?_cons, Option.some.injEq] at same
      exact unbroken.1 same.symm

/-- The blank line is found right before the end of the last line, unless a zero comes
before it. -/
theorem strstr_headerHints
    (first : List UInt8) (rest : List (List UInt8)) (tail : List UInt8)
    (unbroken : ∀ line ∈ first :: rest, 13 ∉ line)
    (nonempty : [] ∉ rest) :
    strstr headerHints (lineText (first :: rest) ++ lineHints ++ tail) =
      if ∃ line ∈ first :: rest, 0 ∈ line then none
      else some (first.length + (lineText rest).length) := by
  induction rest generalizing first with
  | nil =>
      have here : strstr headerHints (headerHints ++ tail) = some 0 := by
        simp [headerHints, strstr]
      have joined : lineText [first] ++ lineHints ++ tail = first ++ (headerHints ++ tail) := by
        simp [lineHints, headerHints]
      rw [joined, headerHints, strstr_skip (unbroken first (by simp)), ← headerHints, here]
      by_cases zero : 0 ∈ first
      · simp [zero]
      · simp [zero]
  | cons next others inductionHypothesis =>
      have later := inductionHypothesis next
        (fun line present => unbroken line (List.mem_cons_of_mem _ present))
        (fun present => nonempty (List.mem_cons_of_mem _ present))
      have joined : lineText (first :: next :: others) ++ lineHints ++ tail =
          first ++ (13 :: 10 :: (lineText (next :: others) ++ lineHints ++ tail)) := by
        simp [lineHints]
      rw [joined, headerHints, strstr_skip (unbroken first (by simp)), ← headerHints,
        strstr_after_lineHints _ (head_lineText_ne (unbroken next (by simp))
          (fun same => nonempty (by simp [same]))), later]
      by_cases zero : 0 ∈ first
      · simp [zero]
      · by_cases zeroLater : ∃ line ∈ next :: others, 0 ∈ line
        · rw [if_neg zero, if_pos zeroLater, if_pos]
          · rfl
          · obtain ⟨line, present, isZero⟩ := zeroLater
            exact ⟨line, List.mem_cons_of_mem _ present, isZero⟩
        · rw [if_neg zero, if_neg zeroLater, if_neg]
          · simp only [Option.map_some, lineText_cons, List.length_append, lineHints,
              List.length_cons, List.length_nil]
            congr 1
            omega
          · rintro ⟨line, present, isZero⟩
            cases List.mem_cons.mp present with
            | inl isFirst => exact zero (isFirst ▸ isZero)
            | inr inRest => exact zeroLater ⟨line, inRest, isZero⟩

/-! ## The loop -/

/-- The entries of lines, one after the other. -/
def collect (header : HttpHeader) : List (List UInt8) → Except Fault HttpHeader
  | [] => .ok header
  | line :: rest =>
      match field line with
      | none => .error .lengthError
      | some (key, value) => collect (header.setEntry key value) rest

/-- The loop at a line of so many bytes. -/
theorem parseEntries_of_found
    {memory : List UInt8} {headerEnd lineStart length : ℕ} (header : HttpHeader)
    (found : strstr lineHints (memory.drop lineStart) = some length) :
    HttpHeader.parseEntries memory headerEnd lineStart header =
      if lineStart + length < headerEnd then do
        let next ← header.parseEntry (memory.drop lineStart) length
        HttpHeader.parseEntries memory headerEnd (lineStart + length + 2) next
      else .ok header := by
  rw [HttpHeader.parseEntries, found]

/-- The loop reads all lines but the last. -/
theorem parseEntries_eq
    {memory tail : List UInt8} {headerEnd lineStart : ℕ}
    (lines : List (List UInt8)) (header : HttpHeader)
    (atLine : memory.drop lineStart = lineText lines ++ lineHints ++ tail)
    (atEnd : headerEnd + 2 = lineStart + (lineText lines).length)
    (clean : ∀ line ∈ lines, line.all isInLine = true)
    (small : ∀ line ∈ lines, line.length < 2 ^ 31) :
    HttpHeader.parseEntries memory headerEnd lineStart header =
      collect header lines.dropLast := by
  induction lines generalizing lineStart header with
  | nil =>
      have found : strstr lineHints (memory.drop lineStart) = some 0 := by
        rw [atLine]
        exact strstr_lineHints (by rfl) tail
      rw [lineText_nil, List.length_nil] at atEnd
      rw [parseEntries_of_found header found, if_neg (by omega)]
      rfl
  | cons line rest inductionHypothesis =>
      have atThisLine : memory.drop lineStart =
          line ++ lineHints ++ (lineText rest ++ lineHints ++ tail) := by
        rw [atLine, lineText_cons]
        simp only [List.append_assoc]
      have found : strstr lineHints (memory.drop lineStart) = some line.length := by
        rw [atThisLine]
        exact strstr_lineHints (clean line (by simp)) _
      rw [lineText_cons, List.length_append, List.length_append] at atEnd
      have two : lineHints.length = 2 := rfl
      rw [parseEntries_of_found header found]
      cases rest with
      | nil =>
          rw [lineText_nil, List.length_nil] at atEnd
          rw [if_neg (by omega)]
          rfl
      | cons next others =>
          have longer : 2 ≤ (lineText (next :: others)).length := by
            rw [lineText_cons, List.length_append, List.length_append]
            omega
          have read : header.parseEntry (memory.drop lineStart) line.length =
              match field line with
              | none => .error .lengthError
              | some (key, value) => .ok (header.setEntry key value) := by
            rw [atThisLine, List.append_assoc]
            exact parseEntry_eq header _ (small line (by simp))
          have behind : memory.drop (lineStart + line.length + 2) =
              lineText (next :: others) ++ lineHints ++ tail := by
            rw [Nat.add_assoc, ← List.drop_drop, atThisLine, ← two, ← List.length_append,
              List.drop_left]
          rw [if_pos (by omega), read, List.dropLast_cons_of_ne_nil (List.cons_ne_nil _ _),
            collect]
          cases field line with
          | none => rfl
          | some entry =>
              exact inductionHypothesis (header.setEntry entry.1 entry.2) behind (by omega)
                (fun other present => clean other (List.mem_cons_of_mem _ present))
                (fun other present => small other (List.mem_cons_of_mem _ present))

/-- The value of the last line with a key. -/
def lastValue (lines : List (List UInt8)) (key : List UInt8) : Option (List UInt8) :=
  ((lines.filterMap field).reverse.find? (·.1 = key)).map Prod.snd

/-- Later lines come first. -/
theorem lastValue_append
    (front rest : List (List UInt8)) (key : List UInt8) :
    lastValue (front ++ rest) key = (lastValue rest key).or (lastValue front key) := by
  rw [lastValue, List.filterMap_append, List.reverse_append, List.find?_append, Option.map_or]
  rfl

/-- A single line. -/
theorem lastValue_singleton
    {line key value : List UInt8} (isField : field line = some (key, value))
    (other : List UInt8) :
    lastValue [line] other = if key = other then some value else none := by
  by_cases same : key = other
  · simp [lastValue, isField, same]
  · simp [lastValue, isField, same]

/-- The entries of lines that all have a colon. -/
theorem exists_collect
    {lines : List (List UInt8)} (header : HttpHeader)
    (colons : ∀ line ∈ lines, 58 ∈ line) :
    ∃ result, collect header lines = .ok result ∧
      ∀ key, result.lookup key = (lastValue lines key).or (header.lookup key) := by
  induction lines generalizing header with
  | nil => exact ⟨header, rfl, fun key => rfl⟩
  | cons line rest inductionHypothesis =>
      have isField : field line = some (strip (line.takeWhile (· ≠ 58)),
          strip (line.dropWhile (· ≠ 58)).tail) := if_pos (colons line (by simp))
      obtain ⟨result, collected, lookups⟩ := inductionHypothesis
        (header.setEntry (strip (line.takeWhile (· ≠ 58)))
          (strip (line.dropWhile (· ≠ 58)).tail))
        fun other present => colons other (List.mem_cons_of_mem _ present)
      refine ⟨result, by rw [collect, isField]; exact collected, ?_⟩
      intro key
      have joined : line :: rest = [line] ++ rest := rfl
      rw [lookups, HttpHeader.lookup_setEntry, joined, lastValue_append,
        lastValue_singleton isField, Option.or_assoc]
      congr 1
      by_cases same : key = strip (line.takeWhile (· ≠ 58))
      · rw [if_pos same, if_pos same.symm]
        rfl
      · rw [if_neg same, if_neg fun equal => same equal.symm]
        rfl

/-- A line without a colon ends the program. -/
theorem collect_eq_error
    {lines : List (List UInt8)} (header : HttpHeader) {line : List UInt8}
    (present : line ∈ lines)
    (noColon : 58 ∉ line) :
    collect header lines = .error .lengthError := by
  induction lines generalizing header with
  | nil => cases present
  | cons first rest inductionHypothesis =>
      rw [collect]
      cases isField : field first with
      | none => rfl
      | some entry =>
          cases List.mem_cons.mp present with
          | inl isFirst =>
              rw [← isFirst, field, if_neg noColon] at isField
              cases isField
          | inr inRest => exact inductionHypothesis _ inRest

/-- The head of a response with what follows it in the buffer.  The size of a buffer is an
`int`. -/
structure ResponseHead where
  status : List UInt8
  lines : List (List UInt8)
  body : List UInt8
  statusClean : status.all isInLine = true
  linesClean : ∀ line ∈ lines, line.all isInLine = true
  nonempty : [] ∉ lines
  small : (status ++ lineHints ++ lineText lines ++ lineHints ++ body).length < 2 ^ 31

namespace ResponseHead

variable (head : ResponseHead)

/-- The content of the buffer. -/
def bytes : List UInt8 :=
  head.status ++ lineHints ++ lineText head.lines ++ lineHints ++ head.body

/-- Every key has the value of its last line, and there are no other keys. -/
structure RecoveredBy (header : HttpHeader) : Prop where
  holds : ∀ key, header.lookup key = lastValue head.lines key
  returns : ∀ key, header.getValues key = (lastValue head.lines key).getD []

/-- `parser` gives an empty header all entries of the head. -/
def Recovered (beyond : List UInt8) : Prop :=
  ∃ header, HttpHeader.parser head.bytes beyond HttpHeader.new = .ok (some header) ∧
    head.RecoveredBy header

/-- All lines but the last have a colon, and the last line says nothing new. -/
def Recoverable : Prop :=
  (∀ line ∈ head.lines.dropLast, 58 ∈ line) ∧
    ∀ last ∈ head.lines.getLast?, ∀ key value, field last = some (key, value) →
      lastValue head.lines.dropLast key = some value

/-- No byte of the status line or of a line is a zero. -/
theorem no_zero :
    ¬∃ line ∈ head.status :: head.lines, 0 ∈ line := by
  rintro ⟨line, present, zero⟩
  have clean : line.all isInLine = true := by
    cases List.mem_cons.mp present with
    | inl isStatus => exact isStatus ▸ head.statusClean
    | inr inLines => exact head.linesClean line inLines
  cases List.all_eq_true.mp clean 0 zero

/-- Where `parser` sees the end of the head. -/
theorem strstr_bytes
    (beyond : List UInt8) :
    strstr headerHints (head.bytes ++ beyond) =
      some (head.status.length + (lineText head.lines).length) := by
  have unbroken : ∀ line ∈ head.status :: head.lines, 13 ∉ line := by
    intro line present carriageReturn
    have clean : line.all isInLine = true := by
      cases List.mem_cons.mp present with
      | inl isStatus => exact isStatus ▸ head.statusClean
      | inr inLines => exact head.linesClean line inLines
    cases List.all_eq_true.mp clean 13 carriageReturn
  have joined : head.bytes ++ beyond =
      lineText (head.status :: head.lines) ++ lineHints ++ (head.body ++ beyond) := by
    simp [bytes]
  rw [joined, strstr_headerHints _ _ _ unbroken head.nonempty, if_neg head.no_zero]

/-- `parser` takes all lines but the last. -/
theorem parser_bytes
    (beyond : List UInt8) (header : HttpHeader) :
    HttpHeader.parser head.bytes beyond header =
      (collect header head.lines.dropLast).map some := by
  have two : lineHints.length = 2 := rfl
  have nonzero : ¬head.bytes.length = 0 := by
    simp only [bytes, List.length_append, two]
    omega
  have firstLine : strstr lineHints (head.bytes ++ beyond) = some head.status.length := by
    have joined : head.bytes ++ beyond = head.status ++ lineHints ++
        (lineText head.lines ++ lineHints ++ (head.body ++ beyond)) := by
      simp [bytes]
    rw [joined]
    exact strstr_lineHints head.statusClean _
  have atLine : (head.bytes ++ beyond).drop (head.status.length + 2) =
      lineText head.lines ++ lineHints ++ (head.body ++ beyond) := by
    have joined : head.bytes ++ beyond = (head.status ++ lineHints) ++
        (lineText head.lines ++ lineHints ++ (head.body ++ beyond)) := by
      simp [bytes]
    rw [joined, ← two, ← List.length_append, List.drop_left]
  have small : ∀ line ∈ head.lines, line.length < 2 ^ 31 := by
    intro line present
    have whole := head.small
    have inText : line.length ≤ (lineText head.lines).length := by
      have inFlat : line ++ lineHints <:+: lineText head.lines :=
        List.infix_of_mem_flatten (List.mem_map_of_mem present)
      have shorter := inFlat.length_le
      rw [List.length_append] at shorter
      omega
    simp only [List.length_append] at whole
    omega
  simp only [HttpHeader.parser]
  rw [if_neg nonzero, firstLine, head.strstr_bytes]
  simp only [Option.getD_some]
  rw [parseEntries_eq head.lines header atLine (by omega) head.linesClean small]

/-- The last line says nothing new. -/
theorem lastValue_dropLast_iff :
    (∀ key, lastValue head.lines.dropLast key = lastValue head.lines key) ↔
      ∀ last ∈ head.lines.getLast?, ∀ key value, field last = some (key, value) →
        lastValue head.lines.dropLast key = some value := by
  constructor
  · intro same last isLast key value isField
    have joined := List.dropLast_append_getLast? last isLast
    rw [same key]
    nth_rewrite 1 [← joined]
    rw [lastValue_append, lastValue_singleton isField, if_pos rfl, Option.some_or]
  · intro nothingNew key
    cases isLast : head.lines.getLast? with
    | none =>
        rw [List.getLast?_eq_none_iff] at isLast
        rw [isLast]
        rfl
    | some last =>
        have joined := List.dropLast_append_getLast? last isLast
        nth_rewrite 2 [← joined]
        rw [lastValue_append]
        cases isField : field last with
        | none =>
            have none : lastValue [last] key = none := by simp [lastValue, isField]
            rw [none, Option.none_or]
        | some entry =>
            have known := nothingNew last isLast entry.1 entry.2 isField
            rw [lastValue_singleton isField]
            by_cases same : entry.1 = key
            · rw [if_pos same, Option.some_or, ← same, known]
            · rw [if_neg same, Option.none_or]

/-- For every head of a response, whatever memory holds behind the buffer: `parser`
recovers its entries exactly if all lines but the last have a colon and the last line
says nothing new. -/
theorem recovered_iff_recoverable
    (beyond : List UInt8) :
    head.Recovered beyond ↔ head.Recoverable := by
  rw [Recovered, Recoverable, ← head.lastValue_dropLast_iff, head.parser_bytes]
  constructor
  · rintro ⟨header, parsed, recovered⟩
    have colons : ∀ line ∈ head.lines.dropLast, 58 ∈ line := by
      intro line present
      by_contra noColon
      rw [collect_eq_error _ present noColon] at parsed
      cases parsed
    obtain ⟨result, collected, lookups⟩ := exists_collect HttpHeader.new colons
    rw [collected] at parsed
    cases parsed
    refine ⟨colons, ?_⟩
    intro key
    rw [← recovered.holds, lookups, HttpHeader.lookup_new, Option.or_none]
  · rintro ⟨colons, same⟩
    obtain ⟨result, collected, lookups⟩ := exists_collect HttpHeader.new colons
    have holds : ∀ key, result.lookup key = lastValue head.lines key := by
      intro key
      rw [lookups, HttpHeader.lookup_new, Option.or_none, same]
    refine ⟨result, by rw [collected]; rfl, holds, ?_⟩
    intro key
    rw [HttpHeader.getValues_eq, holds]

end ResponseHead

/-- A head with one line. -/
def oneLine : ResponseHead where
  status := [79, 75]
  lines := [[97, 58, 98]]
  body := []
  statusClean := by decide
  linesClean := by decide
  nonempty := by decide
  small := by decide

/-- A head with a line without a colon before another line. -/
def noColon : ResponseHead where
  status := [79, 75]
  lines := [[97], [97, 58, 98]]
  body := []
  statusClean := by decide
  linesClean := by decide
  nonempty := by decide
  small := by decide

/-- The only entry of a head is lost, and a line without a colon ends the program. -/
theorem lost_and_thrown :
    (∃ header, HttpHeader.parser oneLine.bytes [] HttpHeader.new = .ok (some header) ∧
      header.getValues [97] = [] ∧ lastValue oneLine.lines [97] = some [98]) ∧
    ¬oneLine.Recovered [] ∧
    HttpHeader.parser noColon.bytes [] HttpHeader.new = .error .lengthError ∧
    ¬noColon.Recovered [] := by
  have parsed := oneLine.parser_bytes [] HttpHeader.new
  have thrown : HttpHeader.parser noColon.bytes [] HttpHeader.new = .error .lengthError := by
    rw [noColon.parser_bytes]
    rfl
  refine ⟨⟨HttpHeader.new, parsed, rfl, by decide⟩, ?_, thrown, ?_⟩
  · rintro ⟨header, again, recovered⟩
    rw [parsed] at again
    cases again
    have missing := recovered.holds [97]
    revert missing
    decide
  · rintro ⟨header, returned, _⟩
    rw [thrown] at returned
    cases returned

end Http
end Skplat
