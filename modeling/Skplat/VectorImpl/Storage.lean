import Skplat.VectorImpl.Copies

/-!
# The storage of a vector

What the functions do that change the storage of a vector, while other vectors own buffers too.
The other owners keep what they see of their buffers, and each buffer has as many references as
owners.
-/

namespace Skplat
namespace VectorImpl

open SharedBuffer

variable {Item : Type} {traits : Traits} {items front back removed : List Item}
variable {heap next : Heap Item} {vector grown : Vector} {others : List (Option Nat)}
variable {place refs newSize : Nat}

/-- Storage for so many items can be allocated, and for as many as the smallest storage has that
`_grow` and `_shrink` allocate. -/
def Traits.Fits (traits : Traits) (count : Nat) : Prop :=
  Sknet.AllocFits (max kMinVectorCapacity count * traits.itemSize)

instance (traits : Traits) (count : Nat) : Decidable (traits.Fits count) :=
  inferInstanceAs (Decidable (_ < _))

theorem Traits.Fits.mono {count other : Nat} (fits : traits.Fits count)
    (less : other ≤ max kMinVectorCapacity count) : traits.Fits other :=
  Sknet.AllocFits.mono fits (Nat.mul_le_mul_right _ (Nat.max_le.mpr ⟨Nat.le_max_left _ _, less⟩))

theorem alloc_of_fits {size : Nat} (fits : traits.Fits size) (heap : Heap Item) :
    alloc traits heap size =
      some (heap ++ [some ⟨1, List.replicate size none⟩], heap.length) :=
  if_pos (Sknet.AllocFits.mono fits (Nat.mul_le_mul_right _ (Nat.le_max_right _ _)))

/-- The items of a vector are in its storage, and the slots behind them are vacant. -/
structure Holds (traits : Traits) (heap : Heap Item) (vector : Vector) (items : List Item) :
    Prop where
  count : vector.mCount = items.length
  none : vector.mStorage = none → items = []
  some : ∀ place, vector.mStorage = some place → ∃ refs rest,
    heap[place]? = some (some ⟨refs, items.map some ++ rest⟩) ∧ Vacant traits rest
  fits : ∀ place buffer, vector.mStorage = .some place → heap[place]? = .some (.some buffer) →
    traits.Fits buffer.slots.length

/-- A vector and the other owners of buffers. -/
structure Owned (traits : Traits) (others : List (Option Nat)) (heap : Heap Item)
    (vector : Vector) (items : List Item) : Prop where
  counted : Counted mRefs heap (vector.mStorage :: others)
  holds : Holds traits heap vector items

/-- The other owners see the same items. -/
abbrev Keeps (others : List (Option Nat)) (heap next : Heap Item) : Prop :=
  KeepsFor SharedBuffer.slots others heap next

/-- The items that another owner sees. -/
theorem Holds.keeps {owners : List (Option Nat)} (holds : Holds traits heap vector items)
    (keeps : Keeps owners heap next) (owned : ∀ place, vector.mStorage = .some place →
      .some place ∈ owners) : Holds traits next vector items where
  count := holds.count
  none := holds.none
  some place storage := by
    obtain ⟨refs, rest, found, vacant⟩ := holds.some place storage
    obtain ⟨⟨keptRefs, slots⟩, isKept, same⟩ := keeps place (owned place storage) _ found
    cases same
    exact ⟨keptRefs, rest, isKept, vacant⟩
  fits place buffer storage found := by
    obtain ⟨refs, rest, isOld, -⟩ := holds.some place storage
    obtain ⟨kept, isKept, same⟩ := keeps place (owned place storage) _ isOld
    cases found.symm.trans isKept
    rw [same]
    exact holds.fits place _ storage isOld

/-- A vector without storage has no items. -/
theorem holds_none : Holds traits heap ⟨none, 0⟩ [] :=
  ⟨rfl, fun _ => rfl, nofun, nofun⟩

theorem reads_of_holds (holds : Holds traits heap vector (front ++ items ++ back))
    (storage : vector.mStorage = some place) {index : Nat} (isIndex : index = front.length) :
    Reads heap (.slot place index) items := by
  obtain ⟨refs, rest, found, -⟩ := holds.some place storage
  have slots : (front ++ items ++ back).map some ++ rest =
      front.map some ++ items.map some ++ (back.map some ++ rest) := by simp
  exact reads_slot found slots (by rw [isIndex, List.length_map])

/-! ## `release_storage` -/

theorem free_vacant {slots : Slots Item} (found : heap[place]? = some (some ⟨refs, slots⟩))
    (vacant : Vacant traits slots) : free traits heap place = some (heap.set place none) := by
  rw [free, bufferAt_of_getElem? found, Option.bind_eq_bind, Option.bind_some, if_neg]
  rw [Bool.and_eq_true, List.any_eq_true]
  rintro ⟨notTrivial, slot, present, isSome⟩
  obtain trivial | rfl := vacant slot present
  · rw [trivial] at notTrivial
    cases notTrivial
  · cases isSome

theorem releaseStorage_spec (counted : Counted mRefs heap (vector.mStorage :: others))
    (holds : Holds traits heap vector items) :
    ∃ next, releaseStorage traits heap vector = some next ∧ Counted mRefs next others ∧
      Keeps others heap next := by
  rw [releaseStorage]
  cases storage : vector.mStorage with
  | none =>
      rw [storage] at counted
      exact ⟨heap, rfl, Counted.cons_none.mp counted, .refl _ _ _⟩
  | some place =>
      rw [storage] at counted
      obtain ⟨refs, rest, found, vacant⟩ := holds.some place storage
      obtain ⟨inside, -⟩ := List.getElem?_eq_some_iff.mp found
      have positive := (counted.counts place _ found).2
      simp only [release, bufferAt_of_getElem? found, Option.bind_eq_bind, Option.bind_some,
        Bool.not_true, Bool.false_eq_true, and_false, if_false]
      split
      · rename_i last
        have notOwned := (counted.eq_one_iff found).mp last
        have foundFirst : (heap.set place (some ⟨refs - 1, items.map some ++ rest⟩))[place]? =
            some (some ⟨refs - 1, [] ++ items.map some ++ rest⟩) :=
          List.getElem?_set_self inside
        obtain ⟨gap, -, gapVacant, destroys⟩ :=
          destroyType_between traits (List.length_nil.symm) items rest
        have foundSecond : ((heap.set place (some ⟨refs - 1, items.map some ++ rest⟩)).set place
            (some ⟨refs - 1, [] ++ gap ++ rest⟩))[place]? =
              some (some ⟨refs - 1, [] ++ gap ++ rest⟩) :=
          List.getElem?_set_self (by rw [List.length_set]; exact inside)
        have noRefs : refs - 1 = 0 := by omega
        refine ⟨heap.set place none, ?_, counted.free found notOwned,
          .set_of_not_mem notOwned⟩
        rw [holds.count, onSlots_of_getElem? foundFirst destroys, Option.bind_some, dealloc,
          bufferAt_of_getElem? foundSecond, Option.bind_eq_bind, Option.bind_some,
          if_neg (not_not.mpr noRefs), free_vacant foundSecond
            (vacant_append.mpr ⟨gapVacant, vacant⟩), List.set_set, List.set_set]
      · rename_i notLast
        exact ⟨_, rfl, counted.release found (Nat.sub_add_cancel positive) notLast,
          .set_of_same found rfl⟩

/-! ## A new buffer -/

theorem set_concat_length (heap : Heap Item) (old new : Option (SharedBuffer Item)) :
    (heap ++ [old]).set heap.length new = heap ++ [new] := by
  rw [List.set_append_right _ _ (Nat.le_refl _), Nat.sub_self, List.set_cons_zero]

/-- A buffer of a vector alone. -/
structure IsAlone (traits : Traits) (others : List (Option Nat)) (next : Heap Item) (fresh : Nat)
    (slots : Slots Item) : Prop where
  counted : Counted mRefs next (some fresh :: others)
  notOwned : some fresh ∉ others
  found : next[fresh]? = some (some ⟨1, slots⟩)
  fits : traits.Fits slots.length

/-- The part of the items that begins at an index is read from the storage. -/
theorem reads_itemLocation (holds : Holds traits heap vector (front ++ items ++ back))
    (notEmpty : items ≠ []) {index : Nat} (isIndex : index = front.length) :
    Reads heap (vector.itemLocation index) items := by
  cases storage : vector.mStorage with
  | none =>
      have empty := holds.none storage
      simp [notEmpty] at empty
  | some place =>
      rw [Vector.itemLocation, storage]
      exact reads_of_holds holds storage isIndex

theorem itemLocation_apart (lt : ∀ place, vector.mStorage = some place → place < heap.length)
    (index first count : Nat) :
    (vector.itemLocation first : Pointer Item).Apart heap.length index count := by
  cases storage : vector.mStorage with
  | none =>
      rw [Vector.itemLocation, storage]
      trivial
  | some place =>
      rw [Vector.itemLocation, storage]
      exact Or.inl (Nat.ne_of_lt (lt place storage))

/-- What is read does not change when a buffer is added or written that is not read. -/
theorem holds_alloc (holds : Holds traits heap vector items) (more : Heap Item) :
    Holds traits (heap ++ more) vector items where
  count := holds.count
  none := holds.none
  some place storage := by
    obtain ⟨refs, rest, found, vacant⟩ := holds.some place storage
    refine ⟨refs, rest, ?_, vacant⟩
    rw [List.getElem?_append_left (List.getElem?_eq_some_iff.mp found).1, found]
  fits place buffer storage found := by
    obtain ⟨refs, rest, isOld, -⟩ := holds.some place storage
    rw [List.getElem?_append_left (List.getElem?_eq_some_iff.mp isOld).1] at found
    exact holds.fits place buffer storage found

theorem copyPart_eq_copyType (traits : Traits) (num : Nat) (heap : Heap Item)
    (place index : Nat) (origin : Pointer Item) :
    copyPart traits num heap place index origin =
      copyType traits num heap place index origin := by
  rw [copyPart]
  split
  · rename_i isZero
    rw [isZero]
    rfl
  · rfl

/-- A part of the items is copied to the new buffer, which is the last one. -/
theorem copyPart_fresh {before gap after : Slots Item} {skipped dest : Nat}
    (counted : Counted mRefs heap (vector.mStorage :: others))
    (holds : Holds traits heap vector (front ++ items ++ back))
    (isSkipped : items ≠ [] → skipped = front.length) (isDest : items ≠ [] → dest = before.length)
    (length : gap.length = items.length) (vacant : Vacant traits gap) :
    copyPart traits items.length (heap ++ [some ⟨1, before ++ gap ++ after⟩]) heap.length
        dest (vector.itemLocation skipped) =
      some (heap ++ [some ⟨1, before ++ items.map some ++ after⟩]) := by
  rw [copyPart]
  split
  · rename_i isEmpty
    rw [List.length_eq_zero_iff.mp isEmpty, List.length_eq_zero_iff.mp (length.trans isEmpty)]
    rfl
  · rename_i notZero
    have notEmpty : items ≠ [] := fun empty => notZero (List.length_eq_zero_iff.mpr empty)
    have reads := reads_itemLocation
      (holds_alloc holds [some ⟨1, before ++ gap ++ after⟩]) notEmpty (isSkipped notEmpty)
    have apart : (vector.itemLocation skipped).Apart heap.length dest items.length :=
      itemLocation_apart (fun place storage =>
        counted.lt_length (storage ▸ List.mem_cons_self)) dest skipped items.length
    rw [copyType_between items (isDest notEmpty) length vacant List.getElem?_concat_length reads
      apart, set_concat_length]

/-- A buffer with the items replaces the storage, which is released. -/
theorem releaseStorage_fresh (counted : Counted mRefs heap (vector.mStorage :: others))
    (holds : Holds traits heap vector items) {slots : Slots Item}
    (fits : traits.Fits slots.length) :
    ∃ next, releaseStorage traits (heap ++ [some ⟨1, slots⟩]) vector = some next ∧
      Keeps others heap next ∧ IsAlone traits others next heap.length slots := by
  have notOwned : some heap.length ∉ others := fun owned =>
    absurd (counted.lt_length (List.mem_cons_of_mem _ owned)) (Nat.lt_irrefl _)
  have allocated : Counted mRefs (heap ++ [some ⟨1, slots⟩])
      (vector.mStorage :: some heap.length :: others) :=
    (counted.alloc rfl).perm (List.Perm.swap _ _ _)
  obtain ⟨next, releases, released, keeps⟩ :=
    releaseStorage_spec allocated (holds_alloc holds _)
  refine ⟨next, releases, ?_, released, notOwned, ?_, fits⟩
  · exact (KeepsFor.append _ _ _ _).trans (keeps.mono fun _ => List.mem_cons_of_mem _)
  · obtain ⟨⟨refs, kept⟩, isKept, same⟩ :=
      keeps heap.length List.mem_cons_self _ List.getElem?_concat_length
    cases same
    have one := (released.eq_one_iff isKept).mpr notOwned
    cases one
    exact isKept

/-- Two parts of the items are copied to a new buffer, with a gap between them. -/
theorem replaceStorage_spec
    (owned : Owned traits others heap vector (front ++ removed ++ back))
    {newCapacity skipped dest gap : Nat} (fits : traits.Fits newCapacity)
    (room : front.length + gap + back.length ≤ newCapacity)
    (isSkipped : back ≠ [] → skipped = front.length + removed.length)
    (isDest : back ≠ [] → dest = front.length + gap) :
    ∃ next fresh rest, replaceStorage traits heap vector newCapacity front.length skipped dest
        back.length = some (next, fresh) ∧
      Keeps others heap next ∧ IsAlone traits others next fresh
        (front.map some ++ List.replicate gap none ++ (back.map some ++ rest)) ∧
      Vacant traits rest := by
  obtain ⟨counted, holds⟩ := owned
  obtain ⟨left, isLeft⟩ := Nat.exists_eq_add_of_le room
  have empty : List.replicate newCapacity (none : Option Item) =
      [] ++ List.replicate front.length none ++ (List.replicate gap none ++
        (List.replicate back.length none ++ List.replicate left none)) := by
    rw [isLeft, List.nil_append, List.replicate_append_replicate,
      List.replicate_append_replicate, List.replicate_append_replicate]
    congr 1
    omega
  have holdsFront : Holds traits heap vector ([] ++ front ++ (removed ++ back)) := by
    rw [List.nil_append, ← List.append_assoc]
    exact holds
  have holdsBack : Holds traits heap vector (front ++ removed ++ back ++ []) := by
    rw [List.append_nil]
    exact holds
  have copiesFront : copyPart traits front.length (heap ++ [some ⟨1, [] ++
        List.replicate front.length none ++ (List.replicate gap none ++
          (List.replicate back.length none ++ List.replicate left none))⟩]) heap.length 0
      (vector.itemLocation 0) = some (heap ++ [some ⟨1, [] ++ front.map some ++
        (List.replicate gap none ++
          (List.replicate back.length none ++ List.replicate left none))⟩]) :=
    copyPart_fresh counted holdsFront (fun _ => rfl) (fun _ => rfl) List.length_replicate
      (vacant_replicate _)
  have copiesBack : copyPart traits back.length (heap ++ [some ⟨1, front.map some ++
        List.replicate gap none ++ List.replicate back.length none ++
          List.replicate left none⟩]) heap.length dest (vector.itemLocation skipped) =
      some (heap ++ [some ⟨1, front.map some ++ List.replicate gap none ++ back.map some ++
        List.replicate left none⟩]) := by
    refine copyPart_fresh counted holdsBack (fun notEmpty => ?_) (fun notEmpty => ?_)
      List.length_replicate (vacant_replicate _)
    · rw [isSkipped notEmpty, List.length_append]
    · rw [isDest notEmpty, List.length_append, List.length_map, List.length_replicate]
  have filledFits : traits.Fits (front.map some ++ List.replicate gap none ++ back.map some ++
      List.replicate left (none : Option Item)).length := by
    simpa only [isLeft, List.length_append, List.length_map, List.length_replicate] using fits
  obtain ⟨next, releases, keeps, alone⟩ := releaseStorage_fresh counted holds filledFits
  refine ⟨next, heap.length, List.replicate left none, ?_, keeps, ?_, vacant_replicate _⟩
  · simp only [replaceStorage, alloc_of_fits fits, empty, Option.bind_eq_bind, Option.bind_some]
    rw [copiesFront, Option.bind_some, List.nil_append, ← List.append_assoc, ← List.append_assoc,
      copiesBack, Option.bind_some, releases]
    rfl
  · rw [List.append_assoc] at alone
    exact alone

/-! ## `editArrayImpl` -/

/-- A vector that alone owns its storage. -/
structure Edited (traits : Traits) (others : List (Option Nat)) (heap next : Heap Item)
    (vector edited : Vector) (items : List Item) : Prop where
  owned : Owned traits others next edited items
  keeps : Keeps others heap next
  notOwned : ∀ place, edited.mStorage = some place → some place ∉ others
  capacity : capacity next edited = capacity heap vector
  same : ∀ place, vector.mStorage = some place → some place ∉ others →
    next = heap ∧ edited = vector

theorem editArrayImpl_spec (owned : Owned traits others heap vector items) :
    ∃ next edited, editArrayImpl traits heap vector = some (next, edited) ∧
      Edited traits others heap next vector edited items ∧
      (edited.mStorage = none → vector.mStorage = none) := by
  obtain ⟨counted, holds⟩ := owned
  rw [editArrayImpl]
  cases storage : vector.mStorage with
  | none =>
      refine ⟨heap, vector, rfl, ⟨⟨counted, holds⟩, .refl _ _ _, ?_, rfl, ?_⟩, fun _ => rfl⟩
      · rw [storage]
        exact nofun
      · rw [storage]
        exact nofun
  | some place =>
      obtain ⟨refs, rest, found, vacant⟩ := holds.some place storage
      have owners := counted
      rw [storage] at owners
      have alone := owners.eq_one_iff found
      simp only [onlyOwner, bufferAt_of_getElem? found, Option.bind_eq_bind, Option.bind_some,
        decide_eq_true_eq]
      split
      · rename_i last
        refine ⟨heap, vector, rfl, ⟨⟨counted, holds⟩, .refl _ _ _, ?_, rfl, fun _ _ _ =>
          ⟨rfl, rfl⟩⟩, fun isNone => absurd (storage.symm.trans isNone) nofun⟩
        intro other isOther
        cases storage.symm.trans isOther
        exact alone.mp last
      · rename_i notLast
        have size : capacity heap vector = some (items.map some ++ rest).length := by
          simp only [capacity, storage, bufferAt_of_getElem? found, Option.map_some]
        have empty : List.replicate (items.map some ++ rest).length (none : Option Item) =
            [] ++ List.replicate items.length none ++ List.replicate rest.length none := by
          rw [List.length_append, List.length_map, List.nil_append,
            List.replicate_append_replicate]
        have holdsAll : Holds traits heap vector ([] ++ items ++ []) := by
          rw [List.nil_append, List.append_nil]
          exact holds
        have copies : copyType traits vector.mCount (heap ++ [some ⟨1, [] ++
              List.replicate items.length none ++ List.replicate rest.length none⟩]) heap.length
            0 (vector.itemLocation 0) = some (heap ++ [some ⟨1, [] ++ items.map some ++
              List.replicate rest.length none⟩]) := by
          rw [← copyPart_eq_copyType, holds.count]
          exact copyPart_fresh counted holdsAll (fun _ => rfl) (fun _ => rfl)
            List.length_replicate (vacant_replicate _)
        have fits := holds.fits place _ storage found
        have freshFits : traits.Fits (items.map some ++
            List.replicate rest.length (none : Option Item)).length := by
          rw [List.length_append, List.length_replicate, ← List.length_append]
          exact fits
        obtain ⟨next, releases, keeps, alone⟩ := releaseStorage_fresh counted holds freshFits
        have owned : Owned traits others next { vector with mStorage := some heap.length }
            items := by
          refine ⟨alone.counted, holds.count, nofun, fun other isOther => ?_, ?_⟩
          · cases isOther
            exact ⟨1, _, alone.found, vacant_replicate _⟩
          · intro other buffer isOther isBuffer
            cases isOther
            cases alone.found.symm.trans isBuffer
            exact alone.fits
        refine ⟨next, { vector with mStorage := some heap.length }, ?_,
          ⟨owned, keeps, ?_, ?_, ?_⟩, nofun⟩
        · simp only [size, alloc_of_fits fits, Option.bind_some, empty, copies]
          rw [List.nil_append, releases]
          rfl
        · intro other isOther
          cases isOther
          exact alone.notOwned
        · rw [size]
          simp only [capacity, bufferAt_of_getElem? alone.found, Option.map_some,
            List.length_append, List.length_replicate]
        · intro other isOther notOwned
          cases storage.symm.trans isOther
          exact absurd ((owners.eq_one_iff found).mpr notOwned) notLast

/-! ## `editResize` -/

/-- The first items stay, and the room behind them has the new size. -/
theorem exists_resized (kept : front.length ≤ newSize) (rest : Slots Item) :
    ∃ room, resized (front.map some ++ rest) newSize = front.map some ++ room ∧
      room.length = newSize - front.length := by
  refine ⟨rest.take (newSize - front.length) ++
    List.replicate (newSize - (front.map some ++ rest).length) none, ?_, ?_⟩
  · rw [resized, List.take_append, List.length_map, List.take_of_length_le (by simpa using kept),
      List.append_assoc]
  · simp only [List.length_append, List.length_take, List.length_map, List.length_replicate]
    omega

theorem editResize_spec
    (owned : Owned traits others heap vector (front ++ removed))
    (storage : vector.mStorage = some place) (kept : front.length ≤ newSize)
    (fits : traits.Fits newSize) :
    ∃ next fresh room, editResize traits heap place newSize = some (next, fresh) ∧
      Keeps others heap next ∧ IsAlone traits others next fresh (front.map some ++ room) ∧
      room.length = newSize - front.length := by
  obtain ⟨counted, holds⟩ := owned
  rw [storage] at counted
  obtain ⟨refs, rest, found, -⟩ := holds.some place storage
  obtain ⟨inside, -⟩ := List.getElem?_eq_some_iff.mp found
  rw [List.map_append, List.append_assoc] at found
  obtain ⟨room, isResized, length⟩ := exists_resized kept (removed.map some ++ rest)
  have roomFits : traits.Fits (front.map some ++ room).length := by
    rw [List.length_append, List.length_map, length, Nat.add_sub_cancel' kept]
    exact fits
  have only := counted.eq_one_iff found
  simp only [editResize, bufferAt_of_getElem? found, Option.bind_eq_bind, Option.bind_some]
  split
  · rename_i last
    subst last
    have notOwned := only.mp rfl
    split
    · rename_i same
      refine ⟨heap, place, removed.map some ++ rest, rfl, .refl _ _ _,
        ⟨counted, notOwned, found, ?_⟩, ?_⟩
      · rw [same]
        exact fits
      · rw [← same]
        simp only [List.length_append, List.length_map, Nat.add_sub_cancel_left]
    · have freed := counted.free found notOwned
      have allocated : Counted mRefs (heap.set place none ++
          [some ⟨1, resized (front.map some ++ (removed.map some ++ rest)) newSize⟩])
          (some heap.length :: others) := by
        have sameLength : (heap.set place none).length = heap.length := List.length_set
        rw [← sameLength]
        exact freed.alloc rfl
      refine ⟨_, heap.length, room, rfl, ?_, ⟨allocated, ?_, ?_, roomFits⟩, length⟩
      · exact (KeepsFor.set_of_not_mem notOwned).trans (.append _ _ _ _)
      · exact fun owned => absurd (counted.lt_length (List.mem_cons_of_mem _ owned))
          (Nat.lt_irrefl _)
      · rw [List.getElem?_append_right (Nat.le_of_eq List.length_set), List.length_set,
          Nat.sub_self, isResized]
        rfl
  · rename_i notLast
    have positive := (counted.counts place _ found).2
    have foundStill : (heap ++ [some ⟨1, resized (front.map some ++ (removed.map some ++ rest))
        newSize⟩])[place]? = some (some ⟨refs, front.map some ++ (removed.map some ++ rest)⟩) := by
      rw [List.getElem?_append_left inside, found]
    have allocated : Counted mRefs (heap ++ [some ⟨1, resized (front.map some ++
        (removed.map some ++ rest)) newSize⟩]) (some place :: some heap.length :: others) :=
      (counted.alloc rfl).perm (List.Perm.swap _ _ _)
    have less : refs - 1 + 1 = refs := Nat.sub_add_cancel positive
    have released : Counted mRefs ((heap ++ [some (⟨1, resized (front.map some ++
        (removed.map some ++ rest)) newSize⟩ : SharedBuffer Item)]).set place
          (some ⟨refs - 1, front.map some ++ (removed.map some ++ rest)⟩))
        (some heap.length :: others) := allocated.release foundStill less notLast
    refine ⟨_, heap.length, room, ?_, ?_, ⟨released, ?_, ?_, roomFits⟩, length⟩
    · simp only [alloc_of_fits fits, set_concat_length, release,
        bufferAt_of_getElem? foundStill, Option.bind_eq_bind, Option.bind_some,
        if_neg (fun last : refs = 1 ∧ _ => notLast last.1)]
    · exact (KeepsFor.append _ _ _ _).trans (.set_of_same foundStill rfl)
    · exact fun owned => absurd (counted.lt_length (List.mem_cons_of_mem _ owned))
        (Nat.lt_irrefl _)
    · rw [List.getElem?_set_ne (Nat.ne_of_lt inside), List.getElem?_concat_length, isResized]

end VectorImpl
end Skplat
