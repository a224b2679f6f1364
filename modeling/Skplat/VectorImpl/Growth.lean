import Skplat.VectorImpl.Storage

/-!
# Room for items in the storage

What `_grow` and `_shrink` do to the storage of a vector, while other vectors own buffers too.
A gap is opened before the items are constructed, and closed after they are destroyed.
-/

namespace Skplat
namespace VectorImpl

open SharedBuffer

variable {Item : Type} {traits : Traits} {item : Item}
variable {items front back removed : List Item} {rest slots : Slots Item}
variable {heap next : Heap Item} {vector grown : Vector} {others : List (Option Nat)}
variable {origin : Pointer Item} {place refs index amount : Nat}

/-- A vector has other items, and the other owners keep theirs. -/
structure Becomes (traits : Traits) (others : List (Option Nat)) (heap next : Heap Item)
    (vector : Vector) (items : List Item) : Prop where
  owned : Owned traits others next vector items
  keeps : Keeps others heap next

/-! ## A vector that alone owns its storage -/

theorem IsAlone.owned (alone : IsAlone traits others next place (items.map some ++ rest))
    (vacant : Vacant traits rest) :
    Owned traits others next ⟨some place, items.length⟩ items := by
  refine ⟨alone.counted, rfl, nofun, ?_, ?_⟩
  · rintro _ ⟨⟩
    exact ⟨1, rest, alone.found, vacant⟩
  · rintro _ buffer ⟨⟩ found
    cases alone.found.symm.trans found
    exact alone.fits

/-- The slots of the storage are written. -/
theorem IsAlone.write {changed : Slots Item} (alone : IsAlone traits others next place slots)
    (length : changed.length = slots.length) :
    IsAlone traits others (next.set place (some ⟨1, changed⟩)) place changed where
  counted := alone.counted.write alone.found rfl
  notOwned := alone.notOwned
  found := List.getElem?_set_self (List.getElem?_eq_some_iff.mp alone.found).1
  fits := length ▸ alone.fits

theorem IsAlone.keeps (alone : IsAlone traits others next place slots) (changed : Slots Item) :
    Keeps others next (next.set place (some ⟨1, changed⟩)) :=
  .set_of_not_mem alone.notOwned

theorem exists_isAlone (owned : Owned traits others heap vector items)
    (storage : vector.mStorage = some place) (notOwned : some place ∉ others) :
    ∃ rest, IsAlone traits others heap place (items.map some ++ rest) ∧ Vacant traits rest := by
  obtain ⟨counted, holds⟩ := owned
  rw [storage] at counted
  obtain ⟨refs, rest, found, vacant⟩ := holds.some place storage
  have one := (counted.eq_one_iff found).mpr notOwned
  cases one
  exact ⟨rest, ⟨counted, notOwned, found, holds.fits place _ storage found⟩, vacant⟩

theorem capacity_of_getElem? {buffer : SharedBuffer Item} (storage : vector.mStorage = some place)
    (found : heap[place]? = some (some buffer)) :
    capacity heap vector = some buffer.slots.length := by
  rw [capacity, storage]
  simp only [bufferAt_of_getElem? found, Option.map_some]

theorem exists_capacity (holds : Holds traits heap vector items) :
    ∃ size, capacity heap vector = some size ∧ items.length ≤ size := by
  cases storage : vector.mStorage with
  | none =>
      refine ⟨0, by rw [capacity, storage], ?_⟩
      rw [holds.none storage]
      exact Nat.le_refl 0
  | some place =>
      obtain ⟨refs, rest, found, -⟩ := holds.some place storage
      refine ⟨_, capacity_of_getElem? storage found, ?_⟩
      rw [List.length_append, List.length_map]
      exact Nat.le_add_right _ _

theorem fits_of_capacity {size : Nat} (holds : Holds traits heap vector items)
    (storage : vector.mStorage = some place) (isSize : capacity heap vector = some size) :
    traits.Fits size := by
  obtain ⟨refs, rest, found, -⟩ := holds.some place storage
  cases (capacity_of_getElem? storage found).symm.trans isSize
  exact holds.fits place _ storage found

/-! ## `_grow` -/

/-- Between the two parts of the items there is room for more. -/
def Gapped (traits : Traits) (others : List (Option Nat)) (next : Heap Item) (grown : Vector)
    (front : List Item) (amount : Nat) (back : List Item) : Prop :=
  grown.mCount = front.length + back.length + amount ∧
    ∃ place gap rest, grown.mStorage = some place ∧
      IsAlone traits others next place (front.map some ++ gap ++ (back.map some ++ rest)) ∧
      gap.length = amount ∧ Vacant traits gap ∧ Vacant traits rest

/-- The items behind an index are moved in the storage. -/
theorem openGap_spec {room : Slots Item}
    (alone : IsAlone traits others heap place ((front ++ back).map some ++ room))
    (storage : vector.mStorage = some place)
    (count : vector.mCount = (front ++ back).length) (isIndex : index = front.length)
    (enough : amount ≤ room.length) (vacant : Vacant traits room)
    (moves : amount ≠ 0 ∨ back = [] ∨ traits.movable = true) :
    ∃ gap rest, openGap traits heap vector index amount =
        some (heap.set place (some ⟨1, front.map some ++ gap ++ (back.map some ++ rest)⟩)) ∧
      gap.length = amount ∧ rest.length = room.length - amount ∧ Vacant traits gap ∧
      Vacant traits rest := by
  obtain ⟨gap, rest, rfl, isGap, isRest⟩ := exists_cut room amount enough
  obtain ⟨gapVacant, restVacant⟩ := vacant_append.mp vacant
  have found := alone.found
  have inside := (List.getElem?_eq_some_iff.mp found).1
  rw [List.map_append, ← List.append_assoc] at found
  rw [openGap]
  split
  · rename_i atEnd
    have nothing : back = [] := by
      rw [isIndex, count, List.length_append] at atEnd
      exact List.length_eq_zero_iff.mp (by omega)
    subst nothing
    refine ⟨gap, rest, ?_, isGap, isRest, gapVacant, restVacant⟩
    simp only [List.map_nil, List.append_nil, List.nil_append, List.append_assoc] at found ⊢
    obtain ⟨inside, isBuffer⟩ := List.getElem?_eq_some_iff.mp found
    rw [← isBuffer, List.set_getElem_self]
  · have isDest : index + amount = (front.map some).length + gap.length := by
      rw [isIndex, List.length_map, isGap]
    have notMoved : gap ≠ [] ∨ back = [] ∨ traits.movable = true := by
      refine moves.imp_left fun notZero isNil => notZero ?_
      rw [← isGap, isNil]
      rfl
    obtain ⟨left, isLeft, leftVacant, moved⟩ := moveForwardType_between back rest
      (isIndex.trans (List.length_map some).symm) isDest gapVacant notMoved
    have num : vector.mCount - index = back.length := by
      rw [count, isIndex, List.length_append, Nat.add_sub_cancel_left]
    refine ⟨left, rest, ?_, isLeft.trans isGap, isRest, leftVacant, restVacant⟩
    rw [storage, num, ← List.append_assoc _ (back.map some) rest]
    have opened : (heap.onSlots place fun slots =>
        moveForwardType traits back.length slots (index + amount) index) = some (heap.set place
          (some ⟨1, front.map some ++ left ++ back.map some ++ rest⟩)) :=
      onSlots_of_getElem? found moved
    exact opened

/-- The storage that `_grow` allocates for so many items can be allocated. -/
def Traits.GrowFits (traits : Traits) (newSize : Nat) : Prop :=
  traits.Fits ((newSize * 3 + 1) / 2)

instance (traits : Traits) (newSize : Nat) : Decidable (traits.GrowFits newSize) :=
  inferInstanceAs (Decidable (traits.Fits _))

theorem Traits.GrowFits.mono {newSize other : Nat} (fits : traits.GrowFits newSize)
    (less : other ≤ newSize) : traits.GrowFits other :=
  Fits.mono fits (by omega)

/-- Room is made for items, or for none before items that may be moved to where they are. -/
theorem makeGap_spec (owned : Owned traits others heap vector (front ++ back))
    (moves : amount ≠ 0 ∨ back ≠ [] ∧ traits.movable = true)
    (fits : ∀ size, capacity heap vector = some size → size < vector.mCount + amount →
      traits.GrowFits (vector.mCount + amount)) :
    ∃ next grown, makeGap traits heap vector front.length amount = some (next, grown) ∧
      Keeps others heap next ∧ Gapped traits others next grown front amount back := by
  have count := owned.holds.count
  rw [List.length_append] at count
  have lengths : vector.mCount - front.length = back.length := by
    rw [count, Nat.add_sub_cancel_left]
  obtain ⟨size, isSize, -⟩ := exists_capacity owned.holds
  simp only [makeGap, isSize, Option.bind_eq_bind, Option.bind_some]
  split
  · rename_i full
    have newFits : traits.Fits (max kMinVectorCapacity (((vector.mCount + amount) * 3 + 1) / 2)) :=
      Traits.Fits.mono (fits size isSize full) (Nat.le_refl _)
    split
    · rename_i resizes
      obtain ⟨isSome, atEnd, -, trivial⟩ := resizes
      obtain ⟨place, storage⟩ := Option.isSome_iff_exists.mp isSome
      have nothing : back = [] := List.length_eq_zero_iff.mp (by omega)
      subst nothing
      have enough : front.length ≤ max kMinVectorCapacity
          (((vector.mCount + amount) * 3 + 1) / 2) := by
        rw [List.length_nil] at count
        omega
      obtain ⟨next, fresh, room, resizes, keeps, alone, isRoom⟩ :=
        editResize_spec owned storage enough newFits
      obtain ⟨gap, rest, rfl, isGap, -⟩ := exists_cut room amount (by
        rw [isRoom]
        omega)
      refine ⟨next, ⟨some fresh, vector.mCount + amount⟩, ?_, keeps, by rw [count], fresh, gap,
        rest, rfl, ?_, isGap, .of_trivial trivial _, .of_trivial trivial _⟩
      · rw [storage, Option.bind_some, resizes]
        rfl
      · rw [← List.append_assoc] at alone
        exact alone
    · have holdsAll : Owned traits others heap vector (front ++ [] ++ back) := by
        rw [List.append_nil]
        exact owned
      have room : front.length + amount + back.length ≤ max kMinVectorCapacity
          (((vector.mCount + amount) * 3 + 1) / 2) := by omega
      obtain ⟨next, fresh, rest, replaces, keeps, alone, vacant⟩ :=
        replaceStorage_spec holdsAll newFits room
          (fun _ => (Nat.add_zero front.length).symm) (fun _ => rfl)
      refine ⟨next, ⟨some fresh, vector.mCount + amount⟩, ?_, keeps, by rw [count], fresh, _,
        rest, rfl, alone, List.length_replicate, vacant_replicate _, vacant⟩
      rw [lengths, replaces]
      rfl
  · rename_i notFull
    obtain ⟨next, edited, edits, ⟨editedOwned, keeps, notOwned, sameSize, -⟩, wasNone⟩ :=
      editArrayImpl_spec owned
    have notNone : edited.mStorage ≠ none := by
      intro isNone
      have original := wasNone isNone
      rw [capacity, original, Option.some_inj] at isSize
      have isZero : amount = 0 := by omega
      obtain notZero | ⟨notEmpty, -⟩ := moves
      · exact notZero isZero
      · exact notEmpty (List.append_eq_nil_iff.mp (owned.holds.none original)).2
    obtain ⟨place, storage⟩ := Option.ne_none_iff_exists'.mp notNone
    obtain ⟨room, alone, vacant⟩ := exists_isAlone editedOwned storage (notOwned place storage)
    have enough : amount ≤ room.length := by
      have total := (capacity_of_getElem? storage alone.found).symm.trans
        (sameSize.trans isSize)
      simp only [Option.some_inj, List.length_append, List.length_map] at total
      omega
    obtain ⟨gap, rest, opens, isGap, isRest, gapVacant, restVacant⟩ := openGap_spec alone storage
      editedOwned.holds.count rfl enough vacant (moves.imp_right fun both => Or.inr both.2)
    have written := alone.write (show (front.map some ++ gap ++ (back.map some ++ rest)).length =
        ((front ++ back).map some ++ room).length by
      simp only [List.length_append, List.length_map]
      omega)
    refine ⟨_, { edited with mCount := vector.mCount + amount }, ?_, keeps.trans (alone.keeps _),
      ?_, place, gap, rest, storage, written, isGap, gapVacant, restVacant⟩
    · rw [edits, Option.bind_some, opens]
      rfl
    · rw [count]

/-- The gap begins inside the storage. -/
theorem Gapped.lt_capacity (gapped : Gapped traits others next grown front amount back)
    (moves : amount ≠ 0 ∨ back ≠ []) :
    ∃ size, capacity next grown = some size ∧ front.length < size := by
  obtain ⟨-, place, gap, rest, storage, alone, isGap, -, -⟩ := gapped
  refine ⟨_, capacity_of_getElem? storage alone.found, ?_⟩
  have behind : 0 < gap.length + back.length := by
    obtain notZero | notEmpty := moves
    · omega
    · have := List.length_pos_iff.mpr notEmpty
      omega
  simp only [List.length_append, List.length_map]
  omega

theorem grow_of_makeGap {size : Nat}
    (makes : makeGap traits heap vector index amount = some (next, grown))
    (isSize : capacity next grown = some size) :
    grow traits heap vector index amount = if index < size then some (next, grown) else none := by
  simp only [grow, makes, isSize, Option.bind_eq_bind, Option.bind_some]

theorem grow_spec (owned : Owned traits others heap vector (front ++ back))
    (moves : amount ≠ 0 ∨ back ≠ [] ∧ traits.movable = true)
    (fits : ∀ size, capacity heap vector = some size → size < vector.mCount + amount →
      traits.GrowFits (vector.mCount + amount)) :
    ∃ next grown, grow traits heap vector front.length amount = some (next, grown) ∧
      Keeps others heap next ∧ Gapped traits others next grown front amount back := by
  obtain ⟨next, grown, makes, keeps, gapped⟩ := makeGap_spec owned moves fits
  obtain ⟨size, isSize, inside⟩ := gapped.lt_capacity (moves.imp_right And.left)
  refine ⟨next, grown, ?_, keeps, gapped⟩
  rw [grow_of_makeGap makes isSize, if_pos inside]

/-! ## `_shrink` -/

/-- The items behind a gap are moved in the storage. -/
theorem closeGap_spec {gap : Slots Item} {newSize : Nat}
    (found : heap[place]? =
      some (some ⟨refs, front.map some ++ gap ++ (back.map some ++ rest)⟩))
    (isIndex : index = front.length) (isAmount : amount = gap.length)
    (isSize : newSize = front.length + back.length) (gapVacant : Vacant traits gap)
    (restVacant : Vacant traits rest) (moves : amount ≠ 0 ∨ back = [] ∨ traits.movable = true) :
    ∃ room, closeGap traits heap place newSize index amount =
        some (heap.set place (some ⟨refs, (front ++ back).map some ++ room⟩)) ∧
      room.length = amount + rest.length ∧ Vacant traits room := by
  rw [closeGap]
  split
  · rename_i atEnd
    have nothing : back = [] := List.length_eq_zero_iff.mp (by omega)
    subst nothing
    refine ⟨gap ++ rest, ?_, by rw [List.length_append, isAmount],
      vacant_append.mpr ⟨gapVacant, restVacant⟩⟩
    simp only [List.map_nil, List.append_nil, List.nil_append, List.append_assoc] at found ⊢
    obtain ⟨inside, isBuffer⟩ := List.getElem?_eq_some_iff.mp found
    rw [← isBuffer, List.set_getElem_self]
  · have isOrigin : index + amount = (front.map some).length + gap.length := by
      rw [isIndex, isAmount, List.length_map]
    have notMoved : gap ≠ [] ∨ back = [] ∨ traits.movable = true :=
      moves.imp_left fun notZero isNil => notZero (isAmount.trans (isNil ▸ rfl))
    obtain ⟨left, isLeft, leftVacant, moved⟩ := moveBackwardType_between back rest
      (isIndex.trans (List.length_map some).symm) isOrigin gapVacant notMoved
    have num : newSize - index = back.length := by omega
    refine ⟨left ++ rest, ?_, by rw [List.length_append, isLeft, isAmount],
      vacant_append.mpr ⟨leftVacant, restVacant⟩⟩
    rw [num, List.map_append, ← List.append_assoc]
    rw [← List.append_assoc] at found
    exact onSlots_of_getElem? found moved

/-- Items are moved in the storage only if it is not replaced by a smaller one. -/
theorem shrink_spec (owned : Owned traits others heap vector (front ++ removed ++ back))
    (moves : ∀ size, capacity heap vector = some size →
      size ≤ (front.length + back.length) * 3 →
      removed ≠ [] ∨ back = [] ∨ traits.movable = true) :
    ∃ next shrunk, shrink traits heap vector front.length removed.length = some (next, shrunk) ∧
      Becomes traits others heap next shrunk (front ++ back) := by
  have count := owned.holds.count
  rw [List.length_append, List.length_append] at count
  have newSize : vector.mCount - removed.length = front.length + back.length := by omega
  have length : (front ++ back).length = front.length + back.length := List.length_append
  have lengths : front.length + back.length - front.length = back.length :=
    Nat.add_sub_cancel_left ..
  rw [shrink]
  cases original : vector.mStorage with
  | none =>
      have empty := owned.holds.none original
      simp only [List.append_eq_nil_iff] at empty
      obtain ⟨⟨rfl, rfl⟩, rfl⟩ := empty
      exact ⟨heap, vector, rfl, owned, .refl _ _ _⟩
  | some old =>
      obtain ⟨size, isSize, -⟩ := exists_capacity owned.holds
      simp only [isSize, newSize, Option.bind_eq_bind, Option.bind_some]
      split
      · rename_i smaller
        have newFits : traits.Fits
            (max kMinVectorCapacity ((front.length + back.length) * 2)) :=
          (fits_of_capacity owned.holds original isSize).mono (by omega)
        split
        · rename_i resizes
          obtain ⟨atEnd, -, trivial⟩ := resizes
          have nothing : back = [] := List.length_eq_zero_iff.mp (by omega)
          subst nothing
          rw [List.append_nil] at owned
          obtain ⟨next, fresh, room, resizes, keeps, alone, -⟩ := editResize_spec owned original
            (show front.length ≤ max kMinVectorCapacity ((front.length + 0) * 2) by omega) newFits
          refine ⟨next, ⟨some fresh, front.length + 0⟩, ?_, ?_, keeps⟩
          · rw [List.length_nil, resizes]
            rfl
          · rw [List.append_nil]
            exact alone.owned (.of_trivial trivial _)
        · have room : front.length + 0 + back.length ≤
              max kMinVectorCapacity ((front.length + back.length) * 2) := by omega
          obtain ⟨next, fresh, rest, replaces, keeps, alone, vacant⟩ :=
            replaceStorage_spec owned newFits room (fun _ => rfl) (fun _ => (Nat.add_zero _).symm)
          refine ⟨next, ⟨some fresh, front.length + back.length⟩, ?_, ?_, keeps⟩
          · rw [lengths, replaces]
            rfl
          · rw [← length]
            have filled : IsAlone traits others next fresh ((front ++ back).map some ++ rest) := by
              rw [List.map_append, List.append_assoc]
              rw [List.replicate_zero, List.append_nil] at alone
              exact alone
            exact filled.owned vacant
      · rename_i notSmaller
        obtain ⟨next, edited, edits, ⟨editedOwned, keeps, notOwned, -, -⟩, wasNone⟩ :=
          editArrayImpl_spec owned
        have notNone : edited.mStorage ≠ none := fun isNone =>
          Option.some_ne_none old (original.symm.trans (wasNone isNone))
        obtain ⟨place, storage⟩ := Option.ne_none_iff_exists'.mp notNone
        obtain ⟨rest, alone, vacant⟩ :=
          exists_isAlone editedOwned storage (notOwned place storage)
        have slots : (front ++ removed ++ back).map some ++ rest =
            front.map some ++ removed.map some ++ (back.map some ++ rest) := by simp
        rw [slots] at alone
        obtain ⟨gap, isGap, gapVacant, destroys⟩ := destroyType_between traits
          (List.length_map some).symm removed (back.map some ++ rest)
        have written := alone.write (show (front.map some ++ gap ++
            (back.map some ++ rest)).length = (front.map some ++ removed.map some ++
              (back.map some ++ rest)).length by
          simp only [List.length_append, List.length_map, isGap])
        have notMoved : removed.length ≠ 0 ∨ back = [] ∨ traits.movable = true :=
          (moves size isSize (Nat.le_of_not_lt notSmaller)).imp_left
            fun notNil isZero => notNil (List.length_eq_zero_iff.mp isZero)
        obtain ⟨room, closes, isRoom, roomVacant⟩ := closeGap_spec written.found rfl isGap.symm rfl
          gapVacant vacant notMoved
        have destroyed : (next.onSlots place fun slots =>
            destroyType traits removed.length slots front.length) = some (next.set place
              (some ⟨1, front.map some ++ gap ++ (back.map some ++ rest)⟩)) :=
          onSlots_of_getElem? alone.found destroys
        have closed := written.write (show ((front ++ back).map some ++ room).length =
            (front.map some ++ gap ++ (back.map some ++ rest)).length by
          simp only [List.length_append, List.length_map]
          omega)
        refine ⟨_, ⟨some place, front.length + back.length⟩, ?_, ?_,
          (keeps.trans (alone.keeps _)).trans (written.keeps ((front ++ back).map some ++ room))⟩
        · simp only [edits, Option.bind_some, storage, destroyed, closes]
        · rw [← length]
          exact closed.owned roomVacant

end VectorImpl
end Skplat
