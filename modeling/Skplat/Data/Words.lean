import Mathlib.Data.List.Basic
import Mathlib.Data.List.TakeWhile

/-!
# The words of a text

Some items separate words.  A word is a part of a text that has items but no separators
and that cannot be made longer on either side.
-/

namespace Skplat

variable {Item : Type*}

/-- The words of a text, in their order. -/
def words (isSeparator : Item → Bool) (text : List Item) : List (List Item) :=
  (text.splitOnP isSeparator).filter fun word => !word.isEmpty

/-- A word stands at a position: it has no separators, and there is one, or an end of the
text, on both sides of it. -/
def IsWordAt (isSeparator : Item → Bool) (text : List Item) (pos : Nat)
    (word : List Item) : Prop :=
  ∃ left right, text = left ++ word ++ right ∧ left.length = pos ∧ word ≠ [] ∧
    (∀ item ∈ word, isSeparator item = false) ∧
    (∀ item ∈ left.getLast?, isSeparator item = true) ∧
    ∀ item ∈ right.head?, isSeparator item = true

variable {isSeparator : Item → Bool} {text word rest : List Item} {pos : Nat}

/-! ## Equations -/

@[simp] theorem words_nil : words isSeparator ([] : List Item) = [] := rfl

/-- A separator ends a word. -/
theorem words_append_cons
    (left right : List Item) {separator : Item}
    (separates : isSeparator separator = true) :
    words isSeparator (left ++ separator :: right) =
      words isSeparator left ++ words isSeparator right := by
  rw [words, List.splitOnP_append_cons _ _ separates, List.filter_append]
  rfl

theorem words_cons {separator : Item} (separates : isSeparator separator = true) :
    words isSeparator (separator :: rest) = words isSeparator rest :=
  words_append_cons [] rest separates

/-- Separators in front play no part. -/
theorem words_append_of_separators
    {front : List Item} (separate : ∀ item ∈ front, isSeparator item = true) :
    words isSeparator (front ++ rest) = words isSeparator rest := by
  induction front with
  | nil => rfl
  | cons item front inductionHypothesis =>
      rw [List.cons_append, words_cons (separate item List.mem_cons_self)]
      exact inductionHypothesis fun later present =>
        separate later (List.mem_cons_of_mem _ present)

theorem words_of_clear
    (nonempty : word ≠ []) (clear : ∀ item ∈ word, isSeparator item = false) :
    words isSeparator word = [word] := by
  rw [words, List.splitOnP_eq_singleton clear]
  simp [nonempty]

/-- A word in front is the first one. -/
theorem words_append_of_clear
    (nonempty : word ≠ []) (clear : ∀ item ∈ word, isSeparator item = false)
    (ends : ∀ item ∈ rest.head?, isSeparator item = true) :
    words isSeparator (word ++ rest) = word :: words isSeparator rest := by
  cases rest with
  | nil => rw [List.append_nil, words_of_clear nonempty clear, words_nil]
  | cons separator rest =>
      have separates : isSeparator separator = true := ends separator rfl
      rw [words_append_cons _ _ separates, words_of_clear nonempty clear,
        words_cons separates]
      rfl

/-- Words that are joined by separators are found again. -/
theorem words_intercalate
    {separator : List Item} (hasItems : separator ≠ [])
    (separate : ∀ item ∈ separator, isSeparator item = true)
    {tokens : List (List Item)}
    (nonempty : ∀ token ∈ tokens, token ≠ [])
    (clear : ∀ token ∈ tokens, ∀ item ∈ token, isSeparator item = false) :
    words isSeparator (separator.intercalate tokens) = tokens := by
  induction tokens with
  | nil => rfl
  | cons token tokens inductionHypothesis =>
      have later := inductionHypothesis
        (fun other present => nonempty other (List.mem_cons_of_mem _ present))
        (fun other present => clear other (List.mem_cons_of_mem _ present))
      have tokenNonempty := nonempty token List.mem_cons_self
      have tokenClear := clear token List.mem_cons_self
      cases tokens with
      | nil =>
          rw [List.intercalate_singleton]
          exact words_of_clear tokenNonempty tokenClear
      | cons next tokens =>
          rw [List.intercalate_cons_cons, List.append_assoc,
            words_append_of_clear tokenNonempty tokenClear,
            words_append_of_separators separate, later]
          intro item first
          refine separate item (List.mem_of_mem_head? ?_)
          rwa [List.head?_append_of_ne_nil _ hasItems] at first

/-- A text that begins with no separator begins with a word. -/
theorem exists_word_append {first : Item} (rest : List Item)
    (clear : isSeparator first = false) :
    ∃ word others, first :: rest = word ++ others ∧ word ≠ [] ∧
      (∀ item ∈ word, isSeparator item = false) ∧
      ∀ item ∈ others.head?, isSeparator item = true := by
  refine ⟨(first :: rest).takeWhile fun item => !isSeparator item,
    (first :: rest).dropWhile fun item => !isSeparator item,
    List.takeWhile_append_dropWhile.symm, ?_, fun item present => ?_,
    fun item isHead => ?_⟩
  · rw [List.takeWhile_cons_of_pos (by rw [clear]; rfl)]
    exact List.cons_ne_nil _ _
  · simpa using List.mem_takeWhile_imp present
  · have stops := List.head?_dropWhile_not (fun item => !isSeparator item) (first :: rest)
    rw [isHead] at stops
    simpa using stops

/-- A text has no more words than items. -/
theorem length_words_le : (words isSeparator text).length ≤ text.length := by
  induction length : text.length using Nat.strongRecOn generalizing text with
  | _ bound inductionHypothesis =>
      cases text with
      | nil => exact Nat.zero_le _
      | cons first rest =>
          rw [List.length_cons] at length
          by_cases separates : isSeparator first = true
          · have shorter := inductionHypothesis rest.length (by omega) rfl
            rw [words_cons separates]
            omega
          · obtain ⟨word, others, joined, nonempty, clear, ends⟩ :=
              exists_word_append rest (by simpa using separates)
            have lengths := congrArg List.length joined
            have positive := List.length_pos_iff.mpr nonempty
            rw [List.length_cons, List.length_append] at lengths
            have shorter := inductionHypothesis others.length (by omega) rfl
            rw [joined, words_append_of_clear nonempty clear ends, List.length_cons]
            omega

/-! ## Positions -/

theorem isWordAt_cons_iff {separator : Item} (separates : isSeparator separator = true) :
    IsWordAt isSeparator (separator :: rest) pos word ↔
      ∃ before, pos = before + 1 ∧ IsWordAt isSeparator rest before word := by
  constructor
  · rintro ⟨left, right, joined, rfl, nonempty, clear, starts, ends⟩
    cases left with
    | nil =>
        obtain ⟨first, others, rfl⟩ := List.exists_cons_of_ne_nil nonempty
        obtain ⟨rfl, _⟩ := List.cons.inj joined
        rw [clear separator List.mem_cons_self] at separates
        cases separates
    | cons first left =>
        obtain ⟨_, rfl⟩ := List.cons.inj joined
        refine ⟨left.length, rfl, left, right, rfl, rfl, nonempty, clear, ?_, ends⟩
        intro item isLast
        refine starts item ?_
        rw [List.getLast?_cons, isLast]
        rfl
  · rintro ⟨_, rfl, left, right, rfl, rfl, nonempty, clear, starts, ends⟩
    refine ⟨separator :: left, right, rfl, rfl, nonempty, clear, ?_, ends⟩
    intro item isLast
    rw [List.getLast?_cons, Option.mem_some_iff] at isLast
    cases last : left.getLast? with
    | none =>
        rw [last] at isLast
        exact isLast ▸ separates
    | some other =>
        rw [last] at isLast
        exact isLast ▸ starts other last

/-- A part without separators that a separator or the end follows is what is read up to
the first separator. -/
theorem takeWhile_append_of_clear
    {first : List Item} (clear : ∀ item ∈ first, isSeparator item = false)
    (ends : ∀ item ∈ rest.head?, isSeparator item = true) :
    (first ++ rest).takeWhile (fun item => !isSeparator item) = first := by
  rw [List.takeWhile_append_of_pos fun item present => by rw [clear item present]; rfl]
  cases rest with
  | nil => rw [List.takeWhile_nil, List.append_nil]
  | cons separator rest =>
      rw [List.takeWhile_cons_of_neg (by simp [ends separator rfl]), List.append_nil]

theorem isWordAt_append_iff
    {first : List Item}
    (nonempty : first ≠ []) (clear : ∀ item ∈ first, isSeparator item = false)
    (ends : ∀ item ∈ rest.head?, isSeparator item = true) :
    IsWordAt isSeparator (first ++ rest) pos word ↔
      (pos = 0 ∧ word = first) ∨
        ∃ before, pos = before + first.length ∧ IsWordAt isSeparator rest before word := by
  constructor
  · rintro ⟨left, right, joined, rfl, wordNonempty, wordClear, starts, wordEnds⟩
    by_cases atFront : left = []
    · subst atFront
      refine Or.inl ⟨rfl, ?_⟩
      rw [List.nil_append] at joined
      rw [← takeWhile_append_of_clear wordClear wordEnds, ← joined,
        takeWhile_append_of_clear clear ends]
    · obtain ⟨before, last, rfl⟩ := List.eq_nil_or_concat left |>.resolve_left atFront
      have separates : isSeparator last = true := starts last (by simp)
      rw [List.append_assoc] at joined
      rcases List.append_eq_append_iff.mp joined with
        ⟨behind, isLeft, isRest⟩ | ⟨behind, isFirst, _⟩
      · refine Or.inr ⟨behind.length, ?_, behind, right, ?_, rfl, wordNonempty, wordClear,
          ?_, wordEnds⟩
        · rw [isLeft, List.length_append, Nat.add_comm]
        · rw [isRest, List.append_assoc]
        · intro item isLast
          refine starts item ?_
          have hasItems : behind ≠ [] := fun present => by rw [present] at isLast; cases isLast
          rw [isLeft, List.getLast?_append_of_ne_nil _ hasItems]
          exact isLast
      · have inFirst : last ∈ first := by
          rw [isFirst]
          simp
        rw [clear last inFirst] at separates
        cases separates
  · rintro (⟨rfl, rfl⟩ | ⟨_, rfl, left, right, rfl, rfl, wordNonempty, wordClear, starts,
      wordEnds⟩)
    · exact ⟨[], rest, rfl, rfl, nonempty, clear, (fun _ present => by cases present), ends⟩
    · refine ⟨first ++ left, right, by simp, by rw [List.length_append, Nat.add_comm],
        wordNonempty, wordClear, ?_, wordEnds⟩
      have hasItems : left ≠ [] := by
        rintro rfl
        obtain ⟨letter, others, rfl⟩ := List.exists_cons_of_ne_nil wordNonempty
        have separates : isSeparator letter = true := ends letter rfl
        rw [wordClear letter List.mem_cons_self] at separates
        cases separates
      rwa [List.getLast?_append_of_ne_nil _ hasItems]

/-- The places of a text, moved behind some items. -/
theorem mem_map_shift
    {places : List (Nat × List Item)}
    (complete : ∀ pos word, (pos, word) ∈ places ↔ IsWordAt isSeparator rest pos word)
    (shift : Nat) :
    (pos, word) ∈ places.map (fun place => (place.1 + shift, place.2)) ↔
      ∃ before, pos = before + shift ∧ IsWordAt isSeparator rest before word := by
  rw [List.mem_map]
  constructor
  · rintro ⟨⟨before, other⟩, present, same⟩
    obtain ⟨rfl, rfl⟩ := Prod.mk.inj same
    exact ⟨before, rfl, (complete _ _).mp present⟩
  · rintro ⟨before, rfl, isWord⟩
    exact ⟨(before, word), (complete _ _).mpr isWord, rfl⟩

/-- Places that are moved stay in order. -/
theorem pairwise_map_shift
    {places : List (Nat × List Item)}
    (increasing : places.Pairwise fun earlier later => earlier.1 < later.1) (shift : Nat) :
    (places.map fun place => (place.1 + shift, place.2)).Pairwise
      fun earlier later => earlier.1 < later.1 :=
  List.pairwise_map.mpr (increasing.imp fun less => Nat.add_lt_add_right less shift)

/-- The words are what stands at the places of words, in order. -/
theorem exists_places (isSeparator : Item → Bool) (text : List Item) :
    ∃ places : List (Nat × List Item),
      places.Pairwise (fun earlier later => earlier.1 < later.1) ∧
      (∀ pos word, (pos, word) ∈ places ↔ IsWordAt isSeparator text pos word) ∧
      words isSeparator text = places.map Prod.snd := by
  induction length : text.length using Nat.strongRecOn generalizing text with
  | _ bound inductionHypothesis =>
      cases text with
      | nil =>
          refine ⟨[], .nil, fun pos word => ⟨(fun present => by cases present), ?_⟩, rfl⟩
          rintro ⟨left, right, joined, _, nonempty, _⟩
          simp only [List.nil_eq, List.append_eq_nil_iff] at joined
          exact absurd joined.1.2 nonempty
      | cons first rest =>
          by_cases separates : isSeparator first = true
          · obtain ⟨places, increasing, complete, wordsEq⟩ :=
              inductionHypothesis rest.length (by rw [← length]; exact Nat.lt_succ_self _)
                rest rfl
            refine ⟨places.map fun place => (place.1 + 1, place.2),
              pairwise_map_shift increasing 1, ?_, ?_⟩
            · intro pos word
              rw [mem_map_shift complete, isWordAt_cons_iff separates]
            · rw [words_cons separates, wordsEq, List.map_map]
              rfl
          · obtain ⟨word, others, joined, nonempty, clear, ends⟩ :=
              exists_word_append rest (by simpa using separates)
            have shorter : others.length < bound := by
              have wordLength := List.length_pos_iff.mpr nonempty
              rw [← length, joined, List.length_append]
              omega
            obtain ⟨places, increasing, complete, wordsEq⟩ :=
              inductionHypothesis others.length shorter others rfl
            rw [joined]
            refine ⟨(0, word) :: places.map fun place => (place.1 + word.length, place.2),
              ?_, ?_, ?_⟩
            · refine List.pairwise_cons.mpr
                ⟨fun place present => ?_, pairwise_map_shift increasing word.length⟩
              obtain ⟨_, _, rfl⟩ := List.mem_map.mp present
              exact Nat.add_pos_right _ (List.length_pos_iff.mpr nonempty)
            · intro pos other
              rw [List.mem_cons, mem_map_shift complete, Prod.mk.injEq,
                isWordAt_append_iff nonempty clear ends]
            · rw [words_append_of_clear nonempty clear ends, wordsEq, List.map_cons,
                List.map_map]
              rfl

end Skplat
