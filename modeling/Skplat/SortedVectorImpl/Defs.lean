import Skplat.VectorImpl.Defs

/-!
# Sorted vectors

`SortedVectorImpl` is a `VectorImpl` whose items are in ascending order, so that items are found by
binary search.
-/

namespace Skplat
namespace SortedVectorImpl

open VectorImpl

variable {Item : Type}

/-! ## `TypeHelpers.h` -/

def strictlyOrderType (less : Item → Item → Bool) (lhs rhs : Item) : Int :=
  if less lhs rhs then 1 else 0

def compareType (less : Item → Item → Bool) (lhs rhs : Item) : Int :=
  strictlyOrderType less rhs lhs - strictlyOrderType less lhs rhs

/-! ## Finding -/

/-- The loop of `_indexOrderOf`; without an item that is alike, the index is `NAME_NOT_FOUND`.  The
first argument bounds the number of rounds. -/
def indexOrderLoop (less : Item → Item → Bool) (heap : Heap Item) (vector : Vector)
    (item : Pointer Item) : Nat → Int → Int → Option (Option Nat × Nat)
  | 0, _, _ => none
  | rounds + 1, l, h =>
      if l ≤ h then do
        let mid := l + (h - l) / 2
        let curr ← heap.read (vector.itemLocation mid.toNat)
        let item' ← heap.read item
        let c := compareType less curr item'
        if c = 0 then some (some mid.toNat, mid.toNat)
        else if c < 0 then indexOrderLoop less heap vector item rounds (mid + 1) h
        else indexOrderLoop less heap vector item rounds l (mid - 1)
      else some (none, l.toNat)

/-- `_indexOrderOf`: the index of an item, and the index where it belongs. -/
def indexOrderOf (less : Item → Item → Bool) (heap : Heap Item) (vector : Vector)
    (item : Pointer Item) : Option (Option Nat × Nat) :=
  indexOrderLoop less heap vector item (vector.mCount + 1) 0 (vector.mCount - 1)

def indexOf (less : Item → Item → Bool) (heap : Heap Item) (vector : Vector)
    (item : Pointer Item) : Option (Option Nat) :=
  (indexOrderOf less heap vector item).map Prod.fst

def orderOf (less : Item → Item → Bool) (heap : Heap Item) (vector : Vector)
    (item : Pointer Item) : Option Nat :=
  (indexOrderOf less heap vector item).map Prod.snd

/-! ## Changing -/

def add (traits : Traits) (less : Item → Item → Bool) (heap : Heap Item) (vector : Vector)
    (item : Pointer Item) : Option (Heap Item × Vector × Result) := do
  let (index, order) ← indexOrderOf less heap vector item
  match index with
  | none => insertAt traits heap vector item order 1
  | some index => replaceAt traits heap vector item index

/-- The loop of `merge`, from an item of the other vector on. -/
def mergeLoop (traits : Traits) (less : Item → Item → Bool) :
    Nat → Heap Item → Vector → Pointer Item → Option (Heap Item × Vector × Result)
  | 0, heap, vector, _ => some (heap, vector, .index 0)
  | rest + 1, heap, vector, item => do
      let (heap, vector, err) ← add traits less heap vector item
      match err with
      | .index _ => mergeLoop traits less rest heap vector item.next
      | err => some (heap, vector, err)

/-- `merge` with a vector that need not be sorted. -/
def mergeVector (traits : Traits) (less : Item → Item → Bool) (heap : Heap Item)
    (vector other : Vector) : Option (Heap Item × Vector × Result) :=
  if other.mCount = 0 then some (heap, vector, .index 0)
  else mergeLoop traits less other.mCount heap vector (other.itemLocation 0)

/-- `itemLocation(size()-1)`; without items the assertion there fails. -/
def lastLocation (vector : Vector) : Option (Pointer Item) :=
  if vector.mCount = 0 then none else some (vector.itemLocation (vector.mCount - 1))

/-- `merge` with a sorted vector. -/
def merge (traits : Traits) (less : Item → Item → Bool) (heap : Heap Item)
    (vector other : Vector) : Option (Heap Item × Vector × Result) :=
  if other.mCount = 0 then some (heap, vector, .index 0)
  else do
    let otherLast ← heap.read (other.itemLocation (other.mCount - 1))
    let first ← heap.read (vector.itemLocation 0)
    if compareType less otherLast first ≤ 0 then insertVectorAt traits heap vector other 0
    else do
      let otherFirst ← heap.read (other.itemLocation 0)
      let lastItem ← lastLocation vector
      let last ← heap.read lastItem
      if 0 ≤ compareType less otherFirst last then appendVector traits heap vector other
      else mergeVector traits less heap vector other

/-- `remove` returns the index of the item that was removed. -/
def remove (traits : Traits) (less : Item → Item → Bool) (heap : Heap Item) (vector : Vector)
    (item : Pointer Item) : Option (Heap Item × Vector × Option Nat) := do
  let index ← indexOf less heap vector item
  match index with
  | none => some (heap, vector, none)
  | some index => do
      let (heap, vector, _) ← removeItemsAt traits heap vector index 1
      some (heap, vector, some index)

end SortedVectorImpl
end Skplat
