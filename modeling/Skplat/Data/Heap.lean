import Mathlib.Data.List.Sort

/-!
# Heaps in arrays

The algorithms of the C++ library on a heap, by what is documented of them.  The children of
an index `i` are at `2 * i + 1` and `2 * i + 2`, and no item is less than one of its children.
-/

namespace Skplat
namespace Heap

variable {Item : Type*} {less : Item → Item → Bool} {items : List Item} {first item : Item}

/-- No item is less than one of its children. -/
def IsHeap (less : Item → Item → Bool) (items : List Item) : Prop :=
  ∀ index parent child, 0 < index → items[(index - 1) / 2]? = some parent →
    items[index]? = some child → less parent child = false

/-- A strict weak order, as the algorithms require it. -/
structure StrictWeakOrder (less : Item → Item → Bool) : Prop where
  irrefl : ∀ item, less item item = false
  asymm : ∀ first second, less first second = true → less second first = false
  trans_false : ∀ first second third, less first second = false →
    less second third = false → less first third = false

/-- The front of a heap is not less than any item. -/
theorem IsHeap.less_front
    (isHeap : IsHeap less items) (order : StrictWeakOrder less)
    (isFront : items.head? = some first) (present : item ∈ items) :
    less first item = false := by
  obtain ⟨index, isItem⟩ := List.mem_iff_getElem?.mp present
  -- from an item to its parent, up to the front
  induction index using Nat.strongRecOn generalizing item with
  | _ index inductionHypothesis =>
      by_cases atFront : index = 0
      · rw [atFront, ← List.head?_eq_getElem?, isFront] at isItem
        rw [Option.some.inj isItem]
        exact order.irrefl item
      · have inside := (List.getElem?_eq_some_iff.mp isItem).1
        have parentInside : (index - 1) / 2 < items.length := by omega
        have isParent := List.getElem?_eq_getElem parentInside
        have above := inductionHypothesis ((index - 1) / 2) (by omega)
          (List.getElem_mem parentInside) isParent
        exact order.trans_false _ _ _ above
          (isHeap index _ _ (Nat.pos_of_ne_zero atFront) isParent isItem)

/-- A change that the order does not see. -/
theorem IsHeap.map
    (isHeap : IsHeap less items) (change : Item → Item)
    (unseen : ∀ first second, less (change first) (change second) = less first second) :
    IsHeap less (items.map change) := by
  intro index parent child positive isParent isChild
  rw [List.getElem?_map, Option.map_eq_some_iff] at isParent isChild
  obtain ⟨oldParent, wasParent, rfl⟩ := isParent
  obtain ⟨oldChild, wasChild, rfl⟩ := isChild
  rw [unseen]
  exact isHeap index oldParent oldChild positive wasParent wasChild

theorem isHeap_nil (less : Item → Item → Bool) : IsHeap less [] := by
  intro _ _ _ _ isParent
  cases isParent

/-- What the library has for a heap. -/
structure Algorithms (less : Item → Item → Bool) where
  /-- `push_heap`. -/
  pushHeap : List Item → List Item
  /-- `pop_heap`. -/
  popHeap : List Item → List Item
  /-- `make_heap`. -/
  makeHeap : List Item → List Item
  /-- An item behind a heap is put into it. -/
  pushHeap_spec : ∀ items item, IsHeap less items →
    (pushHeap (items ++ [item])).Perm (items ++ [item]) ∧
      IsHeap less (pushHeap (items ++ [item]))
  /-- The front of a heap is put behind the others, which are a heap again. -/
  popHeap_spec : ∀ first rest, IsHeap less (first :: rest) →
    ∃ others, popHeap (first :: rest) = others ++ [first] ∧ others.Perm rest ∧
      IsHeap less others
  /-- Any items are made a heap. -/
  makeHeap_spec : ∀ items, (makeHeap items).Perm items ∧ IsHeap less (makeHeap items)

/-! ## Sorted heaps -/

/-- An item may stand in front of another one. -/
def NotLess (less : Item → Item → Bool) (first second : Item) : Prop :=
  less first second = false

instance (less : Item → Item → Bool) : DecidableRel (NotLess less) :=
  fun first second => inferInstanceAs (Decidable (less first second = false))

/-- Sorted items are a heap. -/
theorem isHeap_of_pairwise (sorted : items.Pairwise (NotLess less)) : IsHeap less items := by
  intro index parent child positive isParent isChild
  obtain ⟨_, rfl⟩ := List.getElem?_eq_some_iff.mp isParent
  obtain ⟨_, rfl⟩ := List.getElem?_eq_some_iff.mp isChild
  exact List.pairwise_iff_getElem.mp sorted _ _ _ _ (by omega)

theorem isHeap_insertionSort (order : StrictWeakOrder less) (items : List Item) :
    IsHeap less (items.insertionSort (NotLess less)) := by
  have total : Std.Total (NotLess less) := by
    constructor
    intro first second
    by_cases isLess : less first second = true
    · exact Or.inr (order.asymm first second isLess)
    · exact Or.inl (Bool.eq_false_of_not_eq_true isLess)
  have transitive : IsTrans Item (NotLess less) := ⟨order.trans_false⟩
  exact isHeap_of_pairwise (List.pairwise_insertionSort _ items)

/-- The algorithms, if they sort. -/
def sorting (order : StrictWeakOrder less) : Algorithms less where
  pushHeap items := items.insertionSort (NotLess less)
  popHeap
    | [] => []
    | first :: rest => rest.insertionSort (NotLess less) ++ [first]
  makeHeap items := items.insertionSort (NotLess less)
  pushHeap_spec _ _ _ := ⟨List.perm_insertionSort _ _, isHeap_insertionSort order _⟩
  popHeap_spec _ rest _ :=
    ⟨_, rfl, List.perm_insertionSort _ rest, isHeap_insertionSort order rest⟩
  makeHeap_spec items := ⟨List.perm_insertionSort _ items, isHeap_insertionSort order items⟩

end Heap
end Skplat
