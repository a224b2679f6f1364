import Mathlib.Data.List.Basic
import Skplat.Sknet.SharedBuffer

/-!
# Vectors that share their storage

`VectorImpl` keeps its items in a `SharedBuffer`, and a copy of a vector refers to the same
buffer.  A vector that is changed first takes a buffer of its own, unless it is the only owner.

The memory of a buffer is a list of slots, of which `none` holds no item.  What is undefined in
C++ is `none` here: the use of a freed buffer, reading or destroying an item that is not there,
constructing an item over another one, and freeing a buffer that still holds items.  A failed
assertion and an `alloc` whose size does not fit in the `int` are `none`, too.
-/

namespace Skplat
namespace VectorImpl

/-- The traits of the type of the items. -/
structure Traits where
  itemSize : Nat
  /-- The destructor is a no-op. -/
  trivialDtor : Bool
  /-- Items are copied with `memcpy`. -/
  trivialCopy : Bool
  /-- Items are moved with `memmove`. -/
  trivialMove : Bool

/-- Items are moved with `memmove`, and not by constructing and destroying them. -/
def Traits.movable (traits : Traits) : Bool :=
  traits.trivialDtor && traits.trivialCopy || traits.trivialMove

/-- Memory for items. -/
abbrev Slots (Item : Type) := List (Option Item)

/-- The header of a buffer, and its memory. -/
structure SharedBuffer (Item : Type) where
  mRefs : Nat
  slots : Slots Item
deriving DecidableEq

/-- All buffers; a freed one is `none`. -/
abbrev Heap (Item : Type) := List (Option (SharedBuffer Item))

/-- Where an argument is: in memory of the caller, or in a slot of a buffer. -/
inductive Pointer (Item : Type) where
  | outside (items : List Item)
  | slot (buffer index : Nat)
deriving DecidableEq

/-- The fields of `VectorImpl`. -/
structure Vector where
  mStorage : Option Nat
  mCount : Nat
deriving DecidableEq

/-- What the calls that change a vector return. -/
inductive Result where
  | index (value : Nat)
  | badIndex
deriving DecidableEq

variable {Item : Type}

/-! ## `TypeHelpers.h`, on the slots of one buffer -/

def readAt (slots : Slots Item) (index : Nat) : Option Item :=
  slots[index]?.join

/-- `new(p) TYPE(item)`. -/
def constructAt (traits : Traits) (slots : Slots Item) (index : Nat) (item : Item) :
    Option (Slots Item) :=
  match slots[index]? with
  | none => none
  | some old =>
      if old.isSome && !traits.trivialDtor then none else some (slots.set index (some item))

/-- `p->~TYPE()`. -/
def destroyAt (traits : Traits) (slots : Slots Item) (index : Nat) : Option (Slots Item) :=
  if traits.trivialDtor then some slots
  else (readAt slots index).map fun _ => slots.set index none

def destroyType (traits : Traits) : Nat → Slots Item → Nat → Option (Slots Item)
  | 0, slots, _ => some slots
  | num + 1, slots, index => do
      let slots ← destroyAt traits slots index
      destroyType traits num slots (index + 1)

/-- The slots from an index on are overwritten. -/
def overwrite (slots : Slots Item) (index : Nat) (bits : Slots Item) : Slots Item :=
  slots.take index ++ bits ++ slots.drop (index + bits.length)

/-- The items are in their new place afterwards; where they were, there is none, unless the
destructor is a no-op. -/
def memmove (traits : Traits) (slots : Slots Item) (dest origin num : Nat) :
    Option (Slots Item) :=
  if dest + num ≤ slots.length ∧ origin + num ≤ slots.length then
    some (overwrite
      (if traits.trivialDtor then slots else overwrite slots origin (List.replicate num none))
      dest ((slots.drop origin).take num))
  else none

/-- An item is constructed from another one, which is destroyed. -/
def moveOne (traits : Traits) (slots : Slots Item) (dest origin : Nat) :
    Option (Slots Item) := do
  let item ← readAt slots origin
  let slots ← constructAt traits slots dest item
  destroyAt traits slots origin

/-- The loop of `move_forward_type`, which begins with the last item. -/
def moveForwardLoop (traits : Traits) : Nat → Slots Item → Nat → Nat → Option (Slots Item)
  | 0, slots, _, _ => some slots
  | num + 1, slots, dest, origin => do
      let slots ← moveOne traits slots (dest + num) (origin + num)
      moveForwardLoop traits num slots dest origin

def moveForwardType (traits : Traits) (num : Nat) (slots : Slots Item) (dest origin : Nat) :
    Option (Slots Item) :=
  if traits.movable then memmove traits slots dest origin num
  else moveForwardLoop traits num slots dest origin

/-- The loop of `move_backward_type`. -/
def moveBackwardLoop (traits : Traits) : Nat → Slots Item → Nat → Nat → Option (Slots Item)
  | 0, slots, _, _ => some slots
  | num + 1, slots, dest, origin => do
      let slots ← moveOne traits slots dest origin
      moveBackwardLoop traits num slots (dest + 1) (origin + 1)

def moveBackwardType (traits : Traits) (num : Nat) (slots : Slots Item) (dest origin : Nat) :
    Option (Slots Item) :=
  if traits.movable then memmove traits slots dest origin num
  else moveBackwardLoop traits num slots dest origin

/-! ## Buffers -/

/-- A buffer that is not freed. -/
def Heap.bufferAt (heap : Heap Item) (place : Nat) : Option (SharedBuffer Item) :=
  heap[place]?.join

/-- The slots of a buffer change. -/
def Heap.onSlots (heap : Heap Item) (place : Nat)
    (change : Slots Item → Option (Slots Item)) : Option (Heap Item) := do
  let buffer ← heap.bufferAt place
  let slots ← change buffer.slots
  some (heap.set place (some { buffer with slots := slots }))

def Heap.read (heap : Heap Item) : Pointer Item → Option Item
  | .outside items => items.head?
  | .slot place index => do
      let buffer ← heap.bufferAt place
      readAt buffer.slots index

def Pointer.next : Pointer Item → Pointer Item
  | .outside items => .outside items.tail
  | .slot place index => .slot place (index + 1)

/-- `copy_type`, into a buffer. -/
def copyType (traits : Traits) : Nat → Heap Item → Nat → Nat → Pointer Item →
    Option (Heap Item)
  | 0, heap, _, _, _ => some heap
  | num + 1, heap, place, index, origin => do
      let item ← heap.read origin
      let heap ← heap.onSlots place fun slots => constructAt traits slots index item
      copyType traits num heap place (index + 1) origin.next

/-- `splat_type`, into a buffer. -/
def splatType (traits : Traits) : Nat → Heap Item → Nat → Nat → Pointer Item →
    Option (Heap Item)
  | 0, heap, _, _, _ => some heap
  | num + 1, heap, place, index, origin => do
      let item ← heap.read origin
      let heap ← heap.onSlots place fun slots => constructAt traits slots index item
      splatType traits num heap place (index + 1) origin

namespace SharedBuffer

/-- `malloc` succeeds, as everywhere below. -/
def alloc (traits : Traits) (heap : Heap Item) (size : Nat) : Option (Heap Item × Nat) :=
  if Sknet.AllocFits (size * traits.itemSize) then
    some (heap ++ [some ⟨1, List.replicate size none⟩], heap.length)
  else none

/-- `free`; no item may be left. -/
def free (traits : Traits) (heap : Heap Item) (place : Nat) : Option (Heap Item) := do
  let buffer ← heap.bufferAt place
  if !traits.trivialDtor && buffer.slots.any Option.isSome then none
  else some (heap.set place none)

/-- The buffer is freed if nobody refers to it. -/
def dealloc (traits : Traits) (heap : Heap Item) (place : Nat) : Option (Heap Item) := do
  let buffer ← heap.bufferAt place
  if buffer.mRefs ≠ 0 then some heap else free traits heap place

def acquire (heap : Heap Item) (place : Nat) : Option (Heap Item) := do
  let buffer ← heap.bufferAt place
  some (heap.set place (some { buffer with mRefs := buffer.mRefs + 1 }))

/-- Without `eKeepStorage` the last owner frees the buffer. -/
def release (traits : Traits) (heap : Heap Item) (place : Nat) (keepStorage : Bool) :
    Option (Heap Item × Nat) := do
  let buffer ← heap.bufferAt place
  let heap := heap.set place (some { buffer with mRefs := buffer.mRefs - 1 })
  if buffer.mRefs = 1 ∧ !keepStorage then
    let heap ← free traits heap place
    some (heap, buffer.mRefs)
  else some (heap, buffer.mRefs)

def onlyOwner (heap : Heap Item) (place : Nat) : Option Bool := do
  let buffer ← heap.bufferAt place
  some (buffer.mRefs = 1)

/-- The first slots of a buffer, and empty ones up to the size. -/
def resized (slots : Slots Item) (newSize : Nat) : Slots Item :=
  slots.take newSize ++ List.replicate (newSize - slots.length) none

/-- `realloc` may move the buffer, and nobody may use its old place. -/
def editResize (traits : Traits) (heap : Heap Item) (place newSize : Nat) :
    Option (Heap Item × Nat) := do
  let buffer ← heap.bufferAt place
  if buffer.mRefs = 1 then
    if buffer.slots.length = newSize then some (heap, place)
    else some (heap.set place none ++ [some ⟨1, resized buffer.slots newSize⟩], heap.length)
  else
    let (heap, fresh) ← alloc traits heap newSize
    let heap := heap.set fresh (some ⟨1, resized buffer.slots newSize⟩)
    let (heap, _) ← release traits heap place false
    some (heap, fresh)

end SharedBuffer

open SharedBuffer

/-! ## `VectorImpl` -/

/-- `arrayImpl() + index`. -/
def Vector.itemLocation (vector : Vector) (index : Nat) : Pointer Item :=
  match vector.mStorage with
  | none => .outside []
  | some place => .slot place index

def capacity (heap : Heap Item) (vector : Vector) : Option Nat :=
  match vector.mStorage with
  | none => some 0
  | some place => (heap.bufferAt place).map fun buffer => buffer.slots.length

def releaseStorage (traits : Traits) (heap : Heap Item) (vector : Vector) :
    Option (Heap Item) :=
  match vector.mStorage with
  | none => some heap
  | some place => do
      let (heap, refs) ← release traits heap place true
      if refs = 1 then
        let heap ← heap.onSlots place fun slots => destroyType traits vector.mCount slots 0
        dealloc traits heap place
      else some heap

def editArrayImpl (traits : Traits) (heap : Heap Item) (vector : Vector) :
    Option (Heap Item × Vector) :=
  match vector.mStorage with
  | none => some (heap, vector)
  | some place => do
      let only ← onlyOwner heap place
      if only then some (heap, vector)
      else
        let size ← capacity heap vector
        let (heap, fresh) ← alloc traits heap size
        let heap ← copyType traits vector.mCount heap fresh 0 (vector.itemLocation 0)
        let heap ← releaseStorage traits heap vector
        some (heap, { vector with mStorage := some fresh })

def kMinVectorCapacity : Nat := 4

/-- `if (num != 0) _do_copy(...)`. -/
def copyPart (traits : Traits) (num : Nat) (heap : Heap Item) (place index : Nat)
    (origin : Pointer Item) : Option (Heap Item) :=
  if num = 0 then some heap else copyType traits num heap place index origin

/-- The items in two parts are copied to a new buffer, which replaces the storage. -/
def replaceStorage (traits : Traits) (heap : Heap Item) (vector : Vector)
    (newCapacity front skipped dest back : Nat) : Option (Heap Item × Nat) := do
  let (heap, fresh) ← alloc traits heap newCapacity
  let heap ← copyPart traits front heap fresh 0 (vector.itemLocation 0)
  let heap ← copyPart traits back heap fresh dest (vector.itemLocation skipped)
  let heap ← releaseStorage traits heap vector
  some (heap, fresh)

/-- The items from an index on are moved behind the gap, if there are any. -/
def openGap (traits : Traits) (heap : Heap Item) (vector : Vector) (index amount : Nat) :
    Option (Heap Item) :=
  if index = vector.mCount then some heap
  else do
    let place ← vector.mStorage
    heap.onSlots place fun slots =>
      moveForwardType traits (vector.mCount - index) slots (index + amount) index

/-- The items behind the gap are moved to an index, if there are any. -/
def closeGap (traits : Traits) (heap : Heap Item) (place newSize index amount : Nat) :
    Option (Heap Item) :=
  if index = newSize then some heap
  else heap.onSlots place fun slots =>
    moveBackwardType traits (newSize - index) slots index (index + amount)

/-- What `_grow` does before its last line: a gap of `amount` slots is made. -/
def makeGap (traits : Traits) (heap : Heap Item) (vector : Vector) (index amount : Nat) :
    Option (Heap Item × Vector) := do
  let newSize := vector.mCount + amount
  let size ← capacity heap vector
  if size < newSize then
    let newCapacity := max kMinVectorCapacity ((newSize * 3 + 1) / 2)
    if vector.mStorage.isSome ∧ vector.mCount = index ∧ traits.trivialCopy ∧
        traits.trivialDtor then
      let place ← vector.mStorage
      let (heap, place) ← editResize traits heap place newCapacity
      some (heap, ⟨some place, newSize⟩)
    else
      let (heap, fresh) ← replaceStorage traits heap vector newCapacity index index
        (index + amount) (vector.mCount - index)
      some (heap, ⟨some fresh, newSize⟩)
  else
    let (heap, vector) ← editArrayImpl traits heap vector
    let heap ← openGap traits heap vector index amount
    some (heap, { vector with mCount := newSize })

/-- `_grow`.  The last line asks `itemLocation` for the gap, which must begin inside the storage,
also if nothing is inserted. -/
def grow (traits : Traits) (heap : Heap Item) (vector : Vector) (index amount : Nat) :
    Option (Heap Item × Vector) := do
  let (heap, vector) ← makeGap traits heap vector index amount
  let size ← capacity heap vector
  if index < size then some (heap, vector) else none

/-- `_shrink`: `amount` items are taken out. -/
def shrink (traits : Traits) (heap : Heap Item) (vector : Vector) (index amount : Nat) :
    Option (Heap Item × Vector) :=
  match vector.mStorage with
  | none => some (heap, vector)
  | some place => do
      let newSize := vector.mCount - amount
      let size ← capacity heap vector
      if newSize * 3 < size then
        let newCapacity := max kMinVectorCapacity (newSize * 2)
        if index = newSize ∧ traits.trivialCopy ∧ traits.trivialDtor then
          let (heap, place) ← editResize traits heap place newCapacity
          some (heap, ⟨some place, newSize⟩)
        else
          let (heap, fresh) ← replaceStorage traits heap vector newCapacity index
            (index + amount) index (newSize - index)
          some (heap, ⟨some fresh, newSize⟩)
      else
        let (heap, vector) ← editArrayImpl traits heap vector
        let place ← vector.mStorage
        let heap ← heap.onSlots place fun slots => destroyType traits amount slots index
        let heap ← closeGap traits heap place newSize index amount
        some (heap, { vector with mCount := newSize })

def insertArrayAt (traits : Traits) (heap : Heap Item) (vector : Vector)
    (array : Pointer Item) (index length : Nat) :
    Option (Heap Item × Vector × Result) :=
  if vector.mCount < index then some (heap, vector, .badIndex)
  else do
    let (heap, vector) ← grow traits heap vector index length
    let place ← vector.mStorage
    let heap ← copyType traits length heap place index array
    some (heap, vector, .index index)

/-- `insertAt` with a prototype. -/
def insertAt (traits : Traits) (heap : Heap Item) (vector : Vector) (item : Pointer Item)
    (index numItems : Nat) : Option (Heap Item × Vector × Result) :=
  if vector.mCount < index then some (heap, vector, .badIndex)
  else do
    let (heap, vector) ← grow traits heap vector index numItems
    let place ← vector.mStorage
    let heap ← splatType traits numItems heap place index item
    some (heap, vector, .index index)

def insertVectorAt (traits : Traits) (heap : Heap Item) (vector other : Vector) (index : Nat) :
    Option (Heap Item × Vector × Result) :=
  insertArrayAt traits heap vector (other.itemLocation 0) index other.mCount

def appendVector (traits : Traits) (heap : Heap Item) (vector other : Vector) :
    Option (Heap Item × Vector × Result) :=
  insertVectorAt traits heap vector other vector.mCount

/-- `push` does the same. -/
def add (traits : Traits) (heap : Heap Item) (vector : Vector) (item : Pointer Item) :
    Option (Heap Item × Vector × Result) :=
  insertAt traits heap vector item vector.mCount 1

/-- The address is that of the slot. -/
def Pointer.isSlot : Pointer Item → Nat → Nat → Bool
  | .outside _, _, _ => false
  | .slot buffer index, place, other => buffer = place && index = other

/-- `replaceAt` with a prototype; the index is asserted. -/
def replaceAt (traits : Traits) (heap : Heap Item) (vector : Vector) (prototype : Pointer Item)
    (index : Nat) : Option (Heap Item × Vector × Result) :=
  if vector.mCount ≤ index then none
  else do
    let (heap, vector) ← editArrayImpl traits heap vector
    let place ← vector.mStorage
    if prototype.isSlot place index then some (heap, vector, .index index)
    else
      let heap ← heap.onSlots place fun slots => destroyAt traits slots index
      let heap ← copyType traits 1 heap place index prototype
      some (heap, vector, .index index)

/-- The item that `editItemAt` refers to is assigned. -/
def assignAt (traits : Traits) (heap : Heap Item) (vector : Vector) (index : Nat)
    (item : Item) : Option (Heap Item × Vector) := do
  let (heap, vector) ← editArrayImpl traits heap vector
  let place ← vector.mStorage
  let heap ← heap.onSlots place fun slots =>
    (readAt slots index).map fun _ => slots.set index (some item)
  some (heap, vector)

/-- What would return `BAD_VALUE` has failed an assertion before. -/
def removeItemsAt (traits : Traits) (heap : Heap Item) (vector : Vector) (index count : Nat) :
    Option (Heap Item × Vector × Result) :=
  if vector.mCount < index + count then none
  else do
    let (heap, vector) ← shrink traits heap vector index count
    some (heap, vector, .index index)

def pop (traits : Traits) (heap : Heap Item) (vector : Vector) :
    Option (Heap Item × Vector) :=
  if vector.mCount = 0 then some (heap, vector)
  else do
    let (heap, vector, _) ← removeItemsAt traits heap vector (vector.mCount - 1) 1
    some (heap, vector)

def clear (traits : Traits) (heap : Heap Item) (vector : Vector) :
    Option (Heap Item × Vector) :=
  shrink traits heap vector 0 vector.mCount

/-- The difference to the number of items is a `ssize_t`. -/
def setCapacity (traits : Traits) (heap : Heap Item) (vector : Vector) (newCapacity : Nat) :
    Option (Heap Item × Vector × Result) := do
  let currentCapacity ← capacity heap vector
  if newCapacity ≤ vector.mCount ∨ 2 ^ 63 ≤ newCapacity - vector.mCount then
    some (heap, vector, .index currentCapacity)
  else
    let (heap, fresh) ← replaceStorage traits heap vector newCapacity vector.mCount 0 0 0
    some (heap, { vector with mStorage := some fresh }, .index newCapacity)

def finishVector (traits : Traits) (heap : Heap Item) (vector : Vector) :
    Option (Heap Item × Vector) := do
  let heap ← releaseStorage traits heap vector
  some (heap, ⟨none, 0⟩)

/-- The constructor from another vector. -/
def copyConstruct (heap : Heap Item) (other : Vector) : Option (Heap Item × Vector) :=
  match other.mStorage with
  | none => some (heap, other)
  | some place => do
      let heap ← acquire heap place
      some (heap, other)

/-- `operator =` for another vector. -/
def assign (traits : Traits) (heap : Heap Item) (vector other : Vector) :
    Option (Heap Item × Vector) := do
  let heap ← releaseStorage traits heap vector
  if other.mCount = 0 then some (heap, ⟨none, 0⟩)
  else
    let place ← other.mStorage
    let heap ← acquire heap place
    some (heap, ⟨some place, other.mCount⟩)

/-! ## `sort` -/

/-- The inner loop: items are copied to the next slot while they are greater than `temp`.  It
returns the slot that was copied last. -/
def shiftLoop (traits : Traits) (cmp : Item → Item → Int) (temp : Item) :
    Nat → Slots Item → Option (Slots Item × Nat)
  | curr, slots => do
      let slots ← destroyAt traits slots (curr + 1)
      let item ← readAt slots curr
      let slots ← constructAt traits slots (curr + 1) item
      match curr with
      | 0 => some (slots, 0)
      | before + 1 =>
          let item ← readAt slots before
          if 0 < cmp item temp then shiftLoop traits cmp temp before slots
          else some (slots, before + 1)

/-- The item in a slot is put in its place among those before it. -/
def insertItem (traits : Traits) (cmp : Item → Item → Int) (temp : Item) (curr : Nat)
    (slots : Slots Item) : Option (Slots Item) := do
  let (slots, next) ← shiftLoop traits cmp temp curr slots
  let slots ← destroyAt traits slots next
  constructAt traits slots next temp

/-- Storage of its own is taken when `temp` is allocated. -/
def editOnce (traits : Traits) (heap : Heap Item) (vector : Vector) (temp : Option Item) :
    Option (Heap Item × Vector) :=
  if temp.isNone then editArrayImpl traits heap vector else some (heap, vector)

/-- The outer loop, from the item after `curr` on; `temp` is allocated when an item is moved for the
first time. -/
def sortLoop (traits : Traits) (cmp : Item → Item → Int) :
    Nat → Heap Item → Vector → Nat → Option Item → Option (Heap Item × Vector)
  | 0, heap, vector, _, _ => some (heap, vector)
  | rest + 1, heap, vector, curr, temp => do
      let before ← heap.read (vector.itemLocation curr)
      let item ← heap.read (vector.itemLocation (curr + 1))
      if 0 < cmp before item then
        let (heap, vector) ← editOnce traits heap vector temp
        let item ← heap.read (vector.itemLocation (curr + 1))
        let place ← vector.mStorage
        let heap ← heap.onSlots place fun slots => insertItem traits cmp item curr slots
        sortLoop traits cmp rest heap vector (curr + 1) (some item)
      else sortLoop traits cmp rest heap vector (curr + 1) temp

def sort (traits : Traits) (cmp : Item → Item → Int) (heap : Heap Item) (vector : Vector) :
    Option (Heap Item × Vector) :=
  if 1 < vector.mCount then sortLoop traits cmp (vector.mCount - 1) heap vector 0 none
  else some (heap, vector)

end VectorImpl
end Skplat
