import Skplat.Data.Words

/-!
# `Tokenizer`

A `Tokenizer` remembers how far it has come in a string and looks from there for the next
character that is no delimiter, and behind it for the next one that is.  `SplitToken`
collects the tokens and `MergeToken` joins them.
-/

namespace Skplat
namespace StrUtil

variable {Letter : Type} [DecidableEq Letter]

/-- `find_first_not_of`. -/
def findFirstNotOf (str delimiters : List Letter) (pos : Nat) : Option Nat :=
  ((str.drop pos).findIdx? fun letter => !delimiters.contains letter).map (pos + ·)

/-- `find_first_of`. -/
def findFirstOf (str delimiters : List Letter) (pos : Nat) : Option Nat :=
  ((str.drop pos).findIdx? fun letter => delimiters.contains letter).map (pos + ·)

/-- A `Tokenizer`. -/
structure Tokenizer (Letter : Type) where
  offset : Nat
  string : List Letter
  token : List Letter
  delimiters : List Letter
  deriving DecidableEq, Repr

namespace Tokenizer

/-- The constructor. -/
def new (str delimiters : List Letter) : Tokenizer Letter where
  offset := 0
  string := str
  token := []
  delimiters := delimiters

/-- `NextToken()`. -/
def nextToken (tokenizer : Tokenizer Letter) : Bool × Tokenizer Letter :=
  match findFirstNotOf tokenizer.string tokenizer.delimiters tokenizer.offset with
  | none => (false, { tokenizer with offset := tokenizer.string.length })
  | some i =>
      match findFirstOf tokenizer.string tokenizer.delimiters i with
      | none =>
          (true, { tokenizer with
            token := (tokenizer.string.drop i).take (tokenizer.string.length - i)
            offset := tokenizer.string.length })
      | some j =>
          (true, { tokenizer with
            token := (tokenizer.string.drop i).take (j - i)
            offset := j })

end Tokenizer

/-- The loop of `SplitToken`, as far as the fuel reaches. -/
def splitLoop : Nat → Tokenizer Letter → List (List Letter) → Option (List (List Letter))
  | 0, _, _ => none
  | fuel + 1, tokenizer, ss =>
      if tokenizer.nextToken.1 then
        splitLoop fuel tokenizer.nextToken.2 (ss ++ [tokenizer.nextToken.2.token])
      else some ss

/-- `SplitToken`. -/
def splitToken (fuel : Nat) (str delimiters : List Letter) (ss : List (List Letter)) :
    Option (List (List Letter)) :=
  splitLoop fuel (.new str delimiters) ss

/-- The loop of `MergeToken`. -/
def mergeLoop (delimiter : List Letter) : List (List Letter) → List Letter → List Letter
  | [], result => result
  | [token], result => result ++ token
  | token :: next :: rest, result =>
      mergeLoop delimiter (next :: rest) (result ++ token ++ delimiter)

/-- `MergeToken`. -/
def mergeToken (tokens : List (List Letter)) (delimiter result : List Letter) :
    Bool × List Letter :=
  if tokens = [] then (false, result)
  else if delimiter = [] then (false, result)
  else (true, mergeLoop delimiter tokens [])

/-! ## Tokens are words -/

omit [DecidableEq Letter] in
/-- The item that is found and what stands in front of it. -/
theorem exists_of_findIdx?
    {test : Letter → Bool} {text : List Letter} {i : Nat} (found : text.findIdx? test = some i) :
    (∃ letter rest, text.drop i = letter :: rest ∧ test letter = true) ∧
      ∀ letter ∈ text.take i, test letter = false := by
  obtain ⟨inside, holds, before⟩ := List.findIdx?_eq_some_iff_getElem.mp found
  refine ⟨⟨text[i], text.drop (i + 1), List.drop_eq_getElem_cons inside, holds⟩, ?_⟩
  intro letter present
  obtain ⟨j, below, rfl⟩ := List.mem_take_iff_getElem.mp present
  simpa using before j (by omega)

namespace Tokenizer

variable {tokenizer : Tokenizer Letter}

/-- What has not been read. -/
def left (tokenizer : Tokenizer Letter) : List Letter :=
  tokenizer.string.drop tokenizer.offset

/-- The words between delimiters. -/
abbrev wordsOf (delimiters text : List Letter) : List (List Letter) :=
  words (fun letter => delimiters.contains letter) text

/-- A call that finds no token leaves nothing but delimiters. -/
theorem wordsOf_of_nextToken_false (absent : tokenizer.nextToken.1 = false) :
    wordsOf tokenizer.delimiters tokenizer.left = [] := by
  cases found : findFirstNotOf tokenizer.string tokenizer.delimiters tokenizer.offset with
  | none =>
      rw [findFirstNotOf, Option.map_eq_none_iff, List.findIdx?_eq_none_iff] at found
      have separate :
          wordsOf tokenizer.delimiters (tokenizer.left ++ []) =
            wordsOf tokenizer.delimiters [] :=
        words_append_of_separators fun letter present => by
          simpa using found letter present
      rwa [List.append_nil, wordsOf, wordsOf, words_nil] at separate
  | some i =>
      simp only [nextToken, found] at absent
      split at absent <;> cases absent

/-- Where the next token begins. -/
theorem wordsOf_of_findFirstNotOf
    {str delimiters : List Letter} {pos i : Nat}
    (found : findFirstNotOf str delimiters pos = some i) :
    (∃ letter rest, str.drop i = letter :: rest ∧ letter ∉ delimiters) ∧
      wordsOf delimiters (str.drop pos) = wordsOf delimiters (str.drop i) := by
  obtain ⟨ahead, index, rfl⟩ := Option.map_eq_some_iff.mp found
  obtain ⟨⟨letter, rest, here, isToken⟩, before⟩ := exists_of_findIdx? index
  rw [List.drop_drop] at here
  refine ⟨⟨letter, rest, here, by simpa using isToken⟩, ?_⟩
  rw [← List.take_append_drop ahead (str.drop pos), List.drop_drop]
  exact words_append_of_separators fun letter present => by simpa using before letter present

/-- Where a token ends. -/
theorem wordsOf_of_findFirstOf
    {str delimiters : List Letter} {i j : Nat}
    (begins : ∃ letter rest, str.drop i = letter :: rest ∧ letter ∉ delimiters)
    (found : findFirstOf str delimiters i = some j) :
    wordsOf delimiters (str.drop i) =
      (str.drop i).take (j - i) :: wordsOf delimiters (str.drop j) := by
  obtain ⟨length, index, rfl⟩ := Option.map_eq_some_iff.mp found
  obtain ⟨⟨letter, rest, here, isDelimiter⟩, before⟩ := exists_of_findIdx? index
  obtain ⟨first, others, start, isToken⟩ := begins
  have positive : length ≠ 0 := by
    rintro rfl
    rw [List.drop_zero, start, List.cons.injEq] at here
    exact isToken (by simpa [here.1] using isDelimiter)
  have split : str.drop i = (str.drop i).take length ++ str.drop (i + length) := by
    rw [← List.drop_drop, List.take_append_drop]
  rw [Nat.add_sub_cancel_left]
  conv_lhs => rw [split]
  refine words_append_of_clear ?_ (fun letter present => before letter present) ?_
  · rw [start]
    simp [positive]
  · rw [← List.drop_drop, here]
    rintro _ ⟨⟩
    exact isDelimiter

/-- A call that finds a token has read the next word. -/
theorem wordsOf_of_nextToken_true (present : tokenizer.nextToken.1 = true) :
    wordsOf tokenizer.delimiters tokenizer.left =
      tokenizer.nextToken.2.token ::
        wordsOf tokenizer.delimiters tokenizer.nextToken.2.left := by
  unfold nextToken at present ⊢
  cases start : findFirstNotOf tokenizer.string tokenizer.delimiters tokenizer.offset with
  | none =>
      rw [start] at present
      cases present
  | some i =>
      obtain ⟨begins, same⟩ := wordsOf_of_findFirstNotOf start
      rw [left, same]
      cases stop : findFirstOf tokenizer.string tokenizer.delimiters i with
      | some j =>
          simp only [stop]
          exact wordsOf_of_findFirstOf begins stop
      | none =>
          have clear := stop
          rw [findFirstOf, Option.map_eq_none_iff, List.findIdx?_eq_none_iff] at clear
          obtain ⟨first, others, here, _⟩ := begins
          have whole : (tokenizer.string.drop i).take (tokenizer.string.length - i) =
              tokenizer.string.drop i :=
            List.take_of_length_le (by rw [List.length_drop])
          simp only [stop, left, List.drop_length, words_nil, whole]
          exact words_of_clear (by rw [here]; exact List.cons_ne_nil _ _) clear

theorem string_nextToken (tokenizer : Tokenizer Letter) :
    tokenizer.nextToken.2.string = tokenizer.string ∧
      tokenizer.nextToken.2.delimiters = tokenizer.delimiters := by
  unfold nextToken
  split
  · exact ⟨rfl, rfl⟩
  · split
    · exact ⟨rfl, rfl⟩
    · exact ⟨rfl, rfl⟩

end Tokenizer

open Tokenizer (wordsOf)

/-- With fuel for every word the loop ends and has appended the words. -/
theorem splitLoop_eq
    {fuel : Nat} {tokenizer : Tokenizer Letter}
    (enough : (wordsOf tokenizer.delimiters tokenizer.left).length < fuel)
    (ss : List (List Letter)) :
    splitLoop fuel tokenizer ss =
      some (ss ++ wordsOf tokenizer.delimiters tokenizer.left) := by
  induction fuel generalizing tokenizer ss with
  | zero => cases enough
  | succ fuel inductionHypothesis =>
      rw [splitLoop]
      split
      · rename_i present
        rw [Tokenizer.wordsOf_of_nextToken_true present, List.length_cons] at enough
        rw [Tokenizer.wordsOf_of_nextToken_true present]
        have later := @inductionHypothesis tokenizer.nextToken.2
        rw [tokenizer.string_nextToken.2] at later
        rw [later (by omega), List.append_assoc, List.singleton_append]
      · rename_i absent
        rw [Tokenizer.wordsOf_of_nextToken_false (by simpa using absent), List.append_nil]

/-- A text has no more words than items. -/
theorem splitToken_eq
    {fuel : Nat} {str : List Letter} (enough : str.length < fuel)
    (delimiters : List Letter) (ss : List (List Letter)) :
    splitToken fuel str delimiters ss = some (ss ++ wordsOf delimiters str) := by
  refine splitLoop_eq ?_ ss
  exact Nat.lt_of_le_of_lt length_words_le enough

omit [DecidableEq Letter] in
/-- `MergeToken` joins the tokens. -/
theorem mergeLoop_eq (delimiter : List Letter) (tokens : List (List Letter))
    (result : List Letter) :
    mergeLoop delimiter tokens result = result ++ delimiter.intercalate tokens := by
  induction tokens generalizing result with
  | nil => rw [mergeLoop, List.intercalate_nil, List.append_nil]
  | cons token tokens inductionHypothesis =>
      cases tokens with
      | nil => rw [mergeLoop, List.intercalate_singleton]
      | cons next rest =>
          rw [mergeLoop, inductionHypothesis, List.intercalate_cons_cons]
          simp only [List.append_assoc]

/-- `SplitToken` ends and appends the parts without delimiters that cannot be made longer,
in their order, and it finds the tokens again that `MergeToken` has joined. -/
theorem splitToken_law (Letter : Type) [DecidableEq Letter] :
    (∀ (str delimiters : List Letter) (ss : List (List Letter)),
      ∃ places : List (Nat × List Letter),
        places.Pairwise (fun earlier later => earlier.1 < later.1) ∧
        (∀ pos token, (pos, token) ∈ places ↔
          IsWordAt (fun letter => delimiters.contains letter) str pos token) ∧
        ∀ fuel > str.length,
          splitToken fuel str delimiters ss = some (ss ++ places.map Prod.snd)) ∧
    ∀ (tokens : List (List Letter)) (delimiter result : List Letter),
      tokens ≠ [] → (∀ token ∈ tokens, token ≠ []) → delimiter ≠ [] →
      (∀ token ∈ tokens, ∀ letter ∈ token, letter ∉ delimiter) →
        ∃ merged, mergeToken tokens delimiter result = (true, merged) ∧
          ∀ fuel > merged.length, splitToken fuel merged delimiter [] = some tokens := by
  refine ⟨fun str delimiters ss => ?_, fun tokens delimiter result several nonempty
    delimiterNonempty clear => ?_⟩
  · obtain ⟨places, increasing, complete, wordsEq⟩ :=
      exists_places (fun letter => delimiters.contains letter) str
    refine ⟨places, increasing, complete, fun fuel enough => ?_⟩
    rw [splitToken_eq enough, wordsOf, wordsEq]
  · refine ⟨delimiter.intercalate tokens, ?_, fun fuel enough => ?_⟩
    · rw [mergeToken, if_neg several, if_neg delimiterNonempty, mergeLoop_eq,
        List.nil_append]
    · rw [splitToken_eq enough, List.nil_append, wordsOf,
        words_intercalate delimiterNonempty (by simp) nonempty (by simpa using clear)]

/-- Two letters are joined by a comma and a blank, and found again. -/
theorem splitToken_merged :
    ∃ merged, mergeToken [['a'], ['b']] [',', ' '] [] = (true, merged) ∧
      ∀ fuel > merged.length, splitToken fuel merged [',', ' '] [] = some [['a'], ['b']] :=
  (splitToken_law Char).2 [['a'], ['b']] [',', ' '] [] (by simp) (by simp) (by simp) (by simp)

end StrUtil
end Skplat
