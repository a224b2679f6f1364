import Mathlib.Data.List.Infix
import Mathlib.InformationTheory.Coding.UniquelyDecodable

/-!
# Codes without prefixes

Texts that are put together of words can be taken apart again if no word begins another one.
-/

namespace Skplat

open InformationTheory (UniquelyDecodable)

variable {Symbol Letter : Type*} {words : Set (List Letter)} {code : Symbol → List Letter}

/-- No word is empty, and no word begins another one. -/
structure PrefixFree (words : Set (List Letter)) : Prop where
  nonempty : [] ∉ words
  eq_of_begins : ∀ first ∈ words, ∀ second ∈ words, first <+: second → first = second

/-- Of two words with which one text begins, one is the other. -/
theorem PrefixFree.eq_of_append_eq
    (free : PrefixFree words) {first second left right : List Letter}
    (isFirst : first ∈ words) (isSecond : second ∈ words)
    (same : first ++ left = second ++ right) : first = second := by
  have firstBegins : first <+: second ++ right := ⟨left, same⟩
  have secondBegins : second <+: second ++ right := List.prefix_append second right
  obtain shorter | longer := List.prefix_or_prefix_of_prefix firstBegins secondBegins
  · exact free.eq_of_begins first isFirst second isSecond shorter
  · exact (free.eq_of_begins second isSecond first isFirst longer).symm

/-- A sequence of words that makes up the empty text is empty. -/
theorem PrefixFree.eq_nil_of_flatten
    (free : PrefixFree words) {texts : List (List Letter)}
    (areWords : ∀ word ∈ texts, word ∈ words) (empty : texts.flatten = []) : texts = [] := by
  cases texts with
  | nil => rfl
  | cons word texts =>
      have noLetter : word = [] := List.flatten_eq_nil_iff.mp empty word List.mem_cons_self
      exact absurd (noLetter ▸ areWords word List.mem_cons_self) free.nonempty

theorem PrefixFree.uniquelyDecodable (free : PrefixFree words) : UniquelyDecodable words := by
  intro first
  induction first with
  | nil =>
      intro second _ areWords same
      exact (free.eq_nil_of_flatten areWords same.symm).symm
  | cons word first inductionHypothesis =>
      intro second firstWords secondWords same
      cases second with
      | nil => exact free.eq_nil_of_flatten firstWords same
      | cons other second =>
          rw [List.flatten_cons, List.flatten_cons] at same
          have begins := free.eq_of_append_eq (firstWords word List.mem_cons_self)
            (secondWords other List.mem_cons_self) same
          subst begins
          have rest := inductionHypothesis second
            (fun later present => firstWords later (List.mem_cons_of_mem _ present))
            (fun later present => secondWords later (List.mem_cons_of_mem _ present))
            (List.append_cancel_left same)
          rw [rest]

/-- A code with different words for different symbols, none of which begins another one, is
injective on texts. -/
theorem PrefixFree.flatMap_injective
    (free : PrefixFree (Set.range code)) (injective : Function.Injective code) :
    Function.Injective (List.flatMap code) := by
  intro first second same
  have areWords (text : List Symbol) : ∀ word ∈ text.map code, word ∈ Set.range code := by
    intro word present
    obtain ⟨symbol, _, isWord⟩ := List.mem_map.mp present
    exact ⟨symbol, isWord⟩
  rw [List.flatMap_def, List.flatMap_def] at same
  have words := free.uniquelyDecodable _ _ (areWords first) (areWords second) same
  exact List.map_injective_iff.mpr injective words

end Skplat
