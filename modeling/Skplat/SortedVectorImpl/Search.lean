import Skplat.Data.Ascending
import Skplat.SortedVectorImpl.Defs
import Skplat.VectorImpl.Runs

/-!
# Binary search

The items before the range that is searched are less than the item, and those behind it are greater.
-/

namespace Skplat
namespace SortedVectorImpl

open VectorImpl

variable {Item : Type} {traits : Traits} {less : Item → Item → Bool} {item same : Item}
variable {items lower middle upper : List Item} {heap : Heap Item} {vector : Vector}
variable {origin : Pointer Item}

theorem compareType_of_alike (alike : Alike less same item) : compareType less same item = 0 := by
  rw [compareType, strictlyOrderType, strictlyOrderType, alike.1, alike.2]
  rfl

theorem compareType_of_less (comparison : IsComparison less) (isLess : less same item = true) :
    compareType less same item = -1 := by
  rw [compareType, strictlyOrderType, strictlyOrderType, isLess,
    comparison.asymm same item isLess]
  rfl

theorem compareType_of_greater (comparison : IsComparison less)
    (isGreater : less item same = true) : compareType less same item = 1 := by
  rw [compareType, strictlyOrderType, strictlyOrderType, isGreater,
    comparison.asymm item same isGreater]
  rfl

/-- What the search returns. -/
inductive Found (less : Item → Item → Bool) (items : List Item) (item : Item) :
    Option Nat × Nat → Prop
  | absent (lower upper : List Item) (parts : items = lower ++ upper)
      (between : Between less lower item upper) : Found less items item (none, lower.length)
  | present (lower : List Item) (same : Item) (upper : List Item)
      (parts : items = lower ++ same :: upper) (alike : Alike less same item)
      (between : Between less lower item upper) :
      Found less items item (some lower.length, lower.length)

/-- What the index says that is found. -/
def Finds (less : Item → Item → Bool) (items : List Item) (item : Item) : Option Nat → Prop
  | none => ∀ other ∈ items, ¬Alike less other item
  | some index => ∃ same, items[index]? = some same ∧ Alike less same item

theorem Found.finds {index : Option Nat} {order : Nat}
    (found : Found less items item (index, order)) : Finds less items item index := by
  cases found with
  | absent lower upper parts between =>
      intro other present alike
      rw [parts] at present
      obtain isLower | isUpper := List.mem_append.mp present
      · exact Bool.false_ne_true (alike.1.symm.trans (between.below other isLower))
      · exact Bool.false_ne_true (alike.2.symm.trans (between.above other isUpper))
  | present lower same upper parts alike between =>
      refine ⟨same, ?_, alike⟩
      rw [parts, List.getElem?_append_right (Nat.le_refl _), Nat.sub_self]
      rfl

theorem exists_middle (notEmpty : middle ≠ []) :
    ∃ front curr back, middle = front ++ curr :: back ∧
      front.length = (middle.length - 1) / 2 := by
  have inside : (middle.length - 1) / 2 < middle.length := by
    have positive := List.length_pos_of_ne_nil notEmpty
    omega
  refine ⟨middle.take ((middle.length - 1) / 2), middle[(middle.length - 1) / 2],
    middle.drop ((middle.length - 1) / 2 + 1), ?_, List.length_take_of_le (Nat.le_of_lt inside)⟩
  rw [List.getElem_cons_drop, List.take_append_drop]

theorem indexOrderLoop_spec (comparison : IsComparison less)
    (ascending : Ascending less (lower ++ middle ++ upper))
    (holds : Holds traits heap vector (lower ++ middle ++ upper))
    (reads : Reads heap origin [item]) (between : Between less lower item upper) {rounds : Nat}
    (enough : middle.length < rounds) :
    ∃ result, indexOrderLoop less heap vector origin rounds lower.length
        ((lower.length : Int) + middle.length - 1) = some result ∧
      Found less (lower ++ middle ++ upper) item result := by
  induction rounds generalizing lower middle upper with
  | zero => exact absurd enough (Nat.not_lt_zero _)
  | succ rounds ih =>
      rw [indexOrderLoop]
      by_cases isEmpty : middle = []
      · subst isEmpty
        have passed :
            ¬(lower.length : Int) ≤ (lower.length : Int) + ([] : List Item).length - 1 := by
          simp only [List.length_nil]
          omega
        rw [if_neg passed, List.append_nil]
        exact ⟨_, rfl, .absent lower upper rfl between⟩
      · obtain ⟨front, curr, back, rfl, isFront⟩ := exists_middle isEmpty
        have length : (front ++ curr :: back).length = front.length + back.length + 1 := by
          rw [List.length_append, List.length_cons]
          rfl
        have lowerLength : (lower ++ front).length = lower.length + front.length :=
          List.length_append
        have inRange : (lower.length : Int) ≤
            (lower.length : Int) + (front ++ curr :: back).length - 1 := by omega
        have isMid : (lower.length : Int) + ((lower.length : Int) +
            (front ++ curr :: back).length - 1 - lower.length) / 2 =
              ((lower ++ front).length : Nat) := by
          rw [length] at isFront ⊢
          rw [lowerLength]
          omega
        have parts : lower ++ (front ++ curr :: back) ++ upper =
            lower ++ front ++ [curr] ++ (back ++ upper) := by simp
        have readsCurr : heap.read (vector.itemLocation (lower ++ front).length) = some curr := by
          rw [parts] at holds
          exact (reads_itemLocation holds (List.cons_ne_nil curr []) rfl).1
        simp only [if_pos inRange, isMid, Int.toNat_natCast, readsCurr, reads.1,
          Option.bind_eq_bind, Option.bind_some]
        rw [parts, List.append_assoc _ [curr]] at ascending
        obtain ⟨frontAscending, currAscending, across⟩ := Ascending.append_iff.mp ascending
        obtain ⟨currBelow, -⟩ := Ascending.cons_iff.mp currAscending
        cases isLess : less curr item with
        | true =>
            rw [compareType_of_less comparison isLess, if_neg (by decide), if_pos (by decide)]
            have below : ∀ other ∈ lower ++ front ++ [curr], less other item = true := by
              intro other present
              obtain inFront | isCurr := List.mem_append.mp present
              · exact comparison.less_trans
                  (across other inFront curr List.mem_cons_self) isLess
              · exact List.mem_singleton.mp isCurr ▸ isLess
            have again : lower ++ (front ++ curr :: back) ++ upper =
                lower ++ front ++ [curr] ++ back ++ upper := by simp
            have behind : (lower ++ front ++ [curr]).length = (lower ++ front).length + 1 :=
              List.length_append
            have isLower : ((lower ++ front).length : Int) + 1 =
                ((lower ++ front ++ [curr]).length : Nat) := by omega
            have isUpper : (lower.length : Int) + (front ++ curr :: back).length - 1 =
                ((lower ++ front ++ [curr]).length : Nat) + (back.length : Nat) - 1 := by
              omega
            rw [isLower, isUpper, again]
            rw [again] at holds
            refine ih ?_ holds ⟨below, between.above⟩ (by omega)
            rw [List.append_assoc _ back, List.append_assoc _ [curr]]
            exact ascending
        | false =>
            cases isGreater : less item curr with
            | true =>
                rw [compareType_of_greater comparison isGreater, if_neg (by decide),
                  if_neg (by decide)]
                have above : ∀ other ∈ curr :: (back ++ upper), less item other = true := by
                  intro other present
                  obtain rfl | behind := List.mem_cons.mp present
                  · exact isGreater
                  · exact comparison.less_trans isGreater (currBelow other behind)
                have again : lower ++ (front ++ curr :: back) ++ upper =
                    lower ++ front ++ curr :: (back ++ upper) := by simp
                have isUpper : ((lower ++ front).length : Int) - 1 =
                    (lower.length : Int) + (front.length : Nat) - 1 := by
                  rw [lowerLength]
                  rfl
                rw [isUpper, again]
                rw [again] at holds
                exact ih ascending holds ⟨between.below, above⟩ (by omega)
            | false =>
                rw [compareType_of_alike ⟨isLess, isGreater⟩, if_pos rfl]
                have again : lower ++ (front ++ curr :: back) ++ upper =
                    lower ++ front ++ curr :: (back ++ upper) := by simp
                have alike : Alike less curr item := ⟨isLess, isGreater⟩
                exact ⟨_, rfl, .present (lower ++ front) curr (back ++ upper) again alike
                  (ascending.between_of_alike comparison alike)⟩

theorem indexOrderOf_spec (comparison : IsComparison less) (ascending : Ascending less items)
    (holds : Holds traits heap vector items) (reads : Reads heap origin [item]) :
    ∃ result, indexOrderOf less heap vector origin = some result ∧
      Found less items item result := by
  have count := holds.count
  have whole : [] ++ items ++ [] = items := List.append_nil items
  have between : Between less ([] : List Item) item [] := ⟨nofun, nofun⟩
  rw [← whole] at ascending holds
  obtain ⟨result, searches, found⟩ := indexOrderLoop_spec comparison ascending holds reads between
    (Nat.lt_succ_self items.length)
  rw [whole] at found
  refine ⟨result, ?_, found⟩
  rw [indexOrderOf, count, ← searches]
  simp

end SortedVectorImpl
end Skplat
