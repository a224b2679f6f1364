import Skplat.SortedVectorImpl.Operations

/-!
# Runs on sorted vectors

Sorted vectors are copied and changed as other vectors are.  In each of them the items stay in
ascending order, and no two are alike.
-/

namespace Skplat
namespace SortedVectorImpl

open VectorImpl

variable {Item : Type}

/-- The calls; vectors are numbered as they are constructed. -/
inductive Action (Item : Type) where
  | construct
  | copyConstruct (other : Nat)
  | assign (handle other : Nat)
  | add (handle : Nat) (item : Source Item)
  | merge (handle other : Nat)
  | remove (handle : Nat) (item : Source Item)
  | removeItemsAt (handle index count : Nat)
  | clear (handle : Nat)
  | setCapacity (handle newCapacity : Nat)
  | finishVector (handle : Nat)

def step (traits : Traits) (less : Item → Item → Bool) (state : State Item) :
    Action Item → Option (State Item)
  | .construct => state.step traits .construct
  | .copyConstruct other => state.step traits (.copyConstruct other)
  | .assign handle other => state.step traits (.assign handle other)
  | .add handle item => do
      let item ← state.pointer item
      state.change handle fun heap vector => withoutResult (add traits less heap vector item)
  | .merge handle other => do
      let other ← state.vectors[other]?
      state.change handle fun heap vector => withoutResult (merge traits less heap vector other)
  | .remove handle item => do
      let item ← state.pointer item
      state.change handle fun heap vector =>
        (remove traits less heap vector item).map fun (heap, vector, _) => (heap, vector)
  | .removeItemsAt handle index count => state.step traits (.removeItemsAt handle index count)
  | .clear handle => state.step traits (.clear handle)
  | .setCapacity handle newCapacity => state.step traits (.setCapacity handle newCapacity)
  | .finishVector handle => state.step traits (.finishVector handle)

/-- No item at an end of one list is alike to one at an end of the other list, where these may meet;
items are not merged into an empty list. -/
def mergeable (less : Item → Item → Bool) (items otherItems : List Item) : Bool :=
  match items.head?, items.getLast?, otherItems.head?, otherItems.getLast? with
  | some first, some last, some otherFirst, some otherLast =>
      (less otherLast first || less first otherLast) &&
        (less otherFirst last || less last otherFirst)
  | _, _, _, _ => otherItems.isEmpty

/-- The preconditions of the calls.  There is storage for the items of both that are merged. -/
def Permitted (traits : Traits) (less : Item → Item → Bool) (values : List (List Item)) :
    Action Item → Prop
  | .construct => True
  | .copyConstruct other => other < values.length
  | .assign handle other => handle < values.length ∧ other < values.length
  | .add handle item => handle < values.length ∧ item.Readable values 1 ∧ item.NotIn handle ∧
      traits.GrowFits ((itemsOf values handle).length + 1)
  | .merge handle other => handle < values.length ∧ other < values.length ∧ other ≠ handle ∧
      mergeable less (itemsOf values handle) (itemsOf values other) = true ∧
      traits.GrowFits ((itemsOf values handle).length + (itemsOf values other).length)
  | .remove handle item => handle < values.length ∧ item.Readable values 1
  | .removeItemsAt handle index count =>
      handle < values.length ∧ CanRemove traits (itemsOf values handle) index count
  | .clear handle => handle < values.length
  | .setCapacity handle newCapacity =>
      handle < values.length ∧
        (newCapacity ≤ (itemsOf values handle).length ∨ traits.Fits newCapacity)
  | .finishVector handle => handle < values.length

instance (traits : Traits) (less : Item → Item → Bool) (values : List (List Item)) :
    DecidablePred (Permitted traits less values)
  | .construct => .isTrue trivial
  | .copyConstruct _ => inferInstanceAs (Decidable (_ < _))
  | .assign _ _ => inferInstanceAs (Decidable (_ ∧ _))
  | .add _ _ => inferInstanceAs (Decidable (_ ∧ _ ∧ _ ∧ _))
  | .merge _ _ => inferInstanceAs (Decidable (_ ∧ _ ∧ _ ∧ _ ∧ _))
  | .remove _ _ => inferInstanceAs (Decidable (_ ∧ _))
  | .removeItemsAt _ _ _ => inferInstanceAs (Decidable (_ ∧ _))
  | .setCapacity _ _ => inferInstanceAs (Decidable (_ ∧ _))
  | .clear _ | .finishVector _ => inferInstanceAs (Decidable (_ < _))

/-- What the calls do to the lists. -/
def apply (less : Item → Item → Bool) (values : List (List Item)) :
    Action Item → List (List Item)
  | .construct => values ++ [[]]
  | .copyConstruct other => values ++ [itemsOf values other]
  | .assign handle other => values.set handle (itemsOf values other)
  | .add handle item => values.set handle
      (placeAll less (itemsOf values handle) ((item.items values).take 1))
  | .merge handle other => values.set handle
      (placeAll less (itemsOf values handle) (itemsOf values other))
  | .remove handle item => values.set handle
      (((item.items values).take 1).foldl (without less) (itemsOf values handle))
  | .removeItemsAt handle index count =>
      values.set handle (removeItems (itemsOf values handle) index count)
  | .clear handle => values.set handle []
  | .setCapacity _ _ => values
  | .finishVector handle => values.set handle []

variable {traits : Traits} {less : Item → Item → Bool} {state : State Item}
variable {values : List (List Item)} {items otherItems : List Item} {handle otherHandle : Nat}

/-- The lists are in order. -/
def AllAscending (less : Item → Item → Bool) (values : List (List Item)) : Prop :=
  ∀ handle, Ascending less (itemsOf values handle)

theorem AllAscending.set (all : AllAscending less values) (inside : handle < values.length)
    (ascending : Ascending less items) : AllAscending less (values.set handle items) := by
  intro other
  by_cases same : other = handle
  · rw [same, itemsOf_set_self inside]
    exact ascending
  · rw [itemsOf_set_ne same]
    exact all other

theorem AllAscending.concat (all : AllAscending less values) (ascending : Ascending less items) :
    AllAscending less (values ++ [items]) := by
  intro other
  rw [itemsOf]
  obtain inside | notInside := Nat.lt_or_ge other values.length
  · rw [List.getElem?_append_left inside]
    exact all other
  · rw [List.getElem?_append_right notInside]
    cases other - values.length with
    | zero => exact ascending
    | succ => exact List.Pairwise.nil

theorem Ascending.removeItems (ascending : Ascending less items) (index count : Nat) :
    Ascending less (removeItems items index count) := by
  refine List.Pairwise.sublist ?_ ascending
  conv => rhs; rw [← List.take_append_drop index items]
  rw [VectorImpl.removeItems, ← List.drop_drop]
  exact List.Sublist.append_left (List.drop_sublist _ _) _

theorem AllAscending.apply (all : AllAscending less values) (comparison : IsComparison less)
    {action : Action Item} (permitted : Permitted traits less values action) :
    AllAscending less (apply less values action) := by
  cases action with
  | construct => exact all.concat List.Pairwise.nil
  | copyConstruct other => exact all.concat (all other)
  | assign handle other => exact all.set permitted.1 (all other)
  | add handle item => exact all.set permitted.1 ((all handle).placeAll comparison _)
  | merge handle other => exact all.set permitted.1 ((all handle).placeAll comparison _)
  | remove handle item => exact all.set permitted.1 ((all handle).foldl_without comparison _)
  | removeItemsAt handle index count =>
      exact all.set permitted.1 (Ascending.removeItems (all handle) index count)
  | clear handle => exact all.set permitted List.Pairwise.nil
  | setCapacity => exact all
  | finishVector handle => exact all.set permitted List.Pairwise.nil

/-! ## `merge` -/

/-- Each vector holds the items of its list, which are in order. -/
structure Sorts (traits : Traits) (less : Item → Item → Bool) (state : State Item)
    (values : List (List Item)) : Prop where
  represents : Represents traits state values
  ascending : AllAscending less values

variable {vector other : Vector} {item : Source Item}

theorem Sorts.add (sorts : Sorts traits less state values) (comparison : IsComparison less)
    (inside : handle < values.length) (readable : item.Readable values 1)
    (notIn : item.NotIn handle)
    (fits : traits.GrowFits ((itemsOf values handle).length + 1)) :
    ∃ pointer, state.pointer item = some pointer ∧ ∃ next,
      state.change handle (fun heap vector =>
        withoutResult (add traits less heap vector pointer)) = some next ∧
      Represents traits next (values.set handle
        (placeAll less (itemsOf values handle) ((item.items values).take 1))) := by
  obtain ⟨pointer, isPointer, isLength, reads, foreign⟩ :=
    sorts.represents.exists_pointer handle readable
  obtain ⟨new, isNew⟩ := List.length_eq_one_iff.mp isLength
  rw [isNew] at reads ⊢
  refine ⟨pointer, isPointer, sorts.represents.change inside fun vector owned => ?_⟩
  obtain ⟨next, edited, index, adds, becomes⟩ :=
    add_spec comparison (sorts.ascending handle) owned reads (foreign notIn) fits
  exact ⟨next, edited, by rw [adds]; rfl, becomes⟩

theorem Sorts.remove (sorts : Sorts traits less state values) (comparison : IsComparison less)
    (inside : handle < values.length) (readable : item.Readable values 1) :
    ∃ pointer, state.pointer item = some pointer ∧ ∃ next,
      state.change handle (fun heap vector =>
        (remove traits less heap vector pointer).map fun (heap, vector, _) => (heap, vector)) =
          some next ∧
      Represents traits next (values.set handle
        (((item.items values).take 1).foldl (without less) (itemsOf values handle))) := by
  obtain ⟨pointer, isPointer, isLength, reads, -⟩ :=
    sorts.represents.exists_pointer handle readable
  obtain ⟨old, isOld⟩ := List.length_eq_one_iff.mp isLength
  rw [isOld] at reads ⊢
  refine ⟨pointer, isPointer, sorts.represents.change inside fun vector owned => ?_⟩
  obtain ⟨next, shrunk, index, removes, becomes⟩ :=
    remove_spec comparison (sorts.ascending handle) owned reads
  exact ⟨next, shrunk, by rw [removes]; rfl, becomes⟩

theorem Sorts.merge (sorts : Sorts traits less state values) (comparison : IsComparison less)
    (inside : handle < values.length) (isOther : state.vectors[otherHandle]? = some other)
    (differs : otherHandle ≠ handle)
    (notEmpty : itemsOf values otherHandle ≠ [] → itemsOf values handle ≠ [])
    (fits : traits.GrowFits
      ((itemsOf values handle).length + (itemsOf values otherHandle).length)) :
    ∃ next, state.change handle (fun heap vector =>
        withoutResult (merge traits less heap vector other)) = some next ∧
      Represents traits next (values.set handle
        (mergeItems less (itemsOf values handle) (itemsOf values otherHandle))) := by
  refine sorts.represents.change inside fun vector owned => ?_
  obtain ⟨next, merged, result, merges, becomes⟩ := merge_spec comparison
    (sorts.ascending handle) owned (sorts.represents.holds otherHandle other isOther)
    (State.mem_others isOther differs) notEmpty fits
  exact ⟨next, merged, by rw [merges]; rfl, becomes⟩

end SortedVectorImpl
end Skplat
