import Mathlib.Data.List.DropRight
import Mathlib.Data.List.Induction

/-!
# Stable insertion at the end

An item is put behind the last one that is not greater.  Inserting the items of a list one after
the other sorts it, and leaves items in their order of which none is greater than the other.
-/

namespace Skplat

variable {α : Type*} {greater : α → α → Bool} {items more : List α} {item last : α}

/-- No cycle, and no item is between two that are not greater than each other. -/
structure IsComparison (greater : α → α → Bool) : Prop where
  asymm : ∀ first second, greater first second = true → greater second first = false
  trans : ∀ first second third, greater first second = false → greater second third = false →
    greater first third = false

/-- No item is greater than a later one. -/
def InOrder (greater : α → α → Bool) (items : List α) : Prop :=
  items.Pairwise fun first second => greater first second = false

/-- The items that are greater are behind the inserted one. -/
def insertLast (greater : α → α → Bool) (items : List α) (item : α) : List α :=
  items.rdropWhile (greater · item) ++ item :: items.rtakeWhile (greater · item)

theorem insertLast_concat_of_greater (isGreater : greater last item = true) :
    insertLast greater (items ++ [last]) item = insertLast greater items item ++ [last] := by
  rw [insertLast, List.rdropWhile_concat, List.rtakeWhile_concat, if_pos isGreater,
    if_pos isGreater, insertLast, List.append_assoc, List.cons_append]

theorem insertLast_concat_of_not (notGreater : greater last item = false) :
    insertLast greater (items ++ [last]) item = items ++ [last] ++ [item] := by
  have stays : ¬greater last item = true := Bool.eq_false_iff.mp notGreater
  rw [insertLast, List.rdropWhile_concat, List.rtakeWhile_concat, if_neg stays, if_neg stays]

theorem insertLast_perm (greater : α → α → Bool) (items : List α) (item : α) :
    (insertLast greater items item).Perm (items ++ [item]) := by
  have parts : items.rdropWhile (greater · item) ++ items.rtakeWhile (greater · item) = items :=
    List.rdropWhile_append_rtakeWhile
  calc
    (insertLast greater items item).Perm (item :: (items.rdropWhile (greater · item) ++
        items.rtakeWhile (greater · item))) := List.perm_middle
    _ = item :: items := by rw [parts]
    (item :: items).Perm (items ++ [item]) := (List.perm_append_singleton item items).symm

theorem InOrder.insertLast (inOrder : InOrder greater items) (comparison : IsComparison greater)
    (item : α) : InOrder greater (insertLast greater items item) := by
  induction items using List.reverseRecOn with
  | nil => exact List.pairwise_singleton _ _
  | append_singleton init last ih =>
      obtain ⟨initInOrder, -, below⟩ := List.pairwise_append.mp inOrder
      cases isGreater : greater last item with
      | true =>
          rw [insertLast_concat_of_greater isGreater]
          refine List.pairwise_append.mpr ⟨ih initInOrder, List.pairwise_singleton _ _, ?_⟩
          intro other present _ isLast
          rw [List.mem_singleton.mp isLast]
          have isIn := (insertLast_perm greater init item).mem_iff.mp present
          obtain inInit | isItem := List.mem_append.mp isIn
          · exact below other inInit last List.mem_cons_self
          · rw [List.mem_singleton.mp isItem]
            exact comparison.asymm last item isGreater
      | false =>
          rw [insertLast_concat_of_not isGreater]
          refine List.pairwise_append.mpr ⟨inOrder, List.pairwise_singleton _ _, ?_⟩
          intro other present _ isItem
          rw [List.mem_singleton.mp isItem]
          obtain inInit | isLast := List.mem_append.mp present
          · exact comparison.trans other last item
              (below other inInit last List.mem_cons_self) isGreater
          · rw [List.mem_singleton.mp isLast]
            exact isGreater

/-- Items are inserted one after the other. -/
def insertAll (greater : α → α → Bool) (items more : List α) : List α :=
  more.foldl (insertLast greater) items

theorem InOrder.insertAll (comparison : IsComparison greater) (inOrder : InOrder greater items)
    (more : List α) : InOrder greater (insertAll greater items more) := by
  induction more generalizing items with
  | nil => exact inOrder
  | cons item rest ih => exact ih (inOrder.insertLast comparison item)

end Skplat
