import Skplat.VectorImpl.Growth

/-!
# The items of a vector

What the public functions of a vector do to its items, while other vectors own buffers too.  An
argument may be in memory of the caller or in a buffer that another vector owns.
-/

namespace Skplat
namespace VectorImpl

open SharedBuffer

variable {Item : Type} {traits : Traits} {item new : Item}
variable {items front back removed : List Item} {rest slots : Slots Item}
variable {heap after : Heap Item} {vector other grown : Vector} {others : List (Option Nat)}
variable {origin : Pointer Item} {place refs index amount : Nat}

/-! ## Arguments -/

/-- The argument is in memory of the caller or in a buffer that somebody else owns. -/
def Pointer.Foreign (others : List (Option Nat)) : Pointer Item → Prop
  | .outside _ => True
  | .slot buffer _ => some buffer ∈ others

theorem Pointer.Foreign.next (foreign : origin.Foreign others) : origin.next.Foreign others := by
  cases origin with
  | outside => trivial
  | slot => exact foreign

theorem Reads.keeps (reads : Reads heap origin items) (foreign : origin.Foreign others)
    (keeps : Keeps others heap after) : Reads after origin items := by
  induction items generalizing origin with
  | nil => trivial
  | cons item rest ih =>
      obtain ⟨isItem, readsRest⟩ := reads
      refine ⟨?_, ih readsRest foreign.next⟩
      cases origin with
      | outside => exact isItem
      | slot buffer index =>
          obtain ⟨old, isOld, isRead⟩ := Option.bind_eq_some_iff.mp isItem
          obtain ⟨kept, isKept, same⟩ := keeps buffer foreign old (bufferAt_eq_some_iff.mp isOld)
          rw [read_slot isKept, same]
          exact isRead

/-- It is not in the storage of a vector that alone owns it. -/
theorem Pointer.Foreign.ne_place (foreign : origin.Foreign others) (notOwned : some place ∉ others)
    (index count : Nat) : origin.Apart place index count := by
  cases origin with
  | outside => trivial
  | slot buffer first => exact Or.inl fun same => notOwned (same ▸ foreign)

theorem Pointer.Foreign.misses (foreign : origin.Foreign others) (notOwned : some place ∉ others)
    (index count : Nat) : origin.Misses place index count := by
  cases origin with
  | outside => trivial
  | slot buffer first => exact Or.inl fun same => notOwned (same ▸ foreign)

theorem itemLocation_foreign (isOther : other.mStorage ∈ others) (index : Nat) :
    (other.itemLocation index : Pointer Item).Foreign others := by
  cases storage : other.mStorage with
  | none =>
      rw [Vector.itemLocation, storage]
      trivial
  | some place =>
      rw [Vector.itemLocation, storage]
      rw [storage] at isOther
      exact isOther

/-! ## Inserting -/

/-- The room between the two parts is filled. -/
theorem IsAlone.filled {gap : Slots Item}
    (alone : IsAlone traits others heap place (front.map some ++ gap ++ (back.map some ++ rest)))
    (vacant : Vacant traits rest) (items : List Item) (isGap : gap.length = items.length)
    (storage : grown.mStorage = some place)
    (count : grown.mCount = (front ++ items ++ back).length) :
    Becomes traits others heap (heap.set place
      (some ⟨1, front.map some ++ items.map some ++ (back.map some ++ rest)⟩))
      grown (front ++ items ++ back) where
  owned := by
    have slots : front.map some ++ items.map some ++ (back.map some ++ rest) =
        (front ++ items ++ back).map some ++ rest := by simp
    have isGrown : grown = ⟨some place, (front ++ items ++ back).length⟩ := by
      rw [← storage, ← count]
    rw [isGrown]
    refine IsAlone.owned ?_ vacant
    rw [← slots]
    refine alone.write ?_
    simp only [List.length_append, List.length_map, isGap]
  keeps := alone.keeps _

/-- There is storage for the items that a call adds, if they do not fit in the one there is. -/
abbrev GrowsInside (traits : Traits) (heap : Heap Item) (vector : Vector) (amount : Nat) : Prop :=
  ∀ size, capacity heap vector = some size → size < vector.mCount + amount →
    traits.GrowFits (vector.mCount + amount)

theorem insertArrayAt_spec (owned : Owned traits others heap vector (front ++ back))
    (reads : Reads heap origin items) (foreign : origin.Foreign others)
    (moves : items ≠ [] ∨ back ≠ [] ∧ traits.movable = true)
    (fits : GrowsInside traits heap vector items.length) :
    ∃ next grown, insertArrayAt traits heap vector origin front.length items.length =
        some (next, grown, .index front.length) ∧
      Becomes traits others heap next grown (front ++ items ++ back) := by
  have inside : ¬vector.mCount < front.length := by
    rw [owned.holds.count, List.length_append]
    omega
  have notMoved : items.length ≠ 0 ∨ back ≠ [] ∧ traits.movable = true :=
    moves.imp_left fun notNil isZero => notNil (List.length_eq_zero_iff.mp isZero)
  rw [insertArrayAt, if_neg inside]
  obtain ⟨next, grown, grows, keeps, count, place, gap, rest, storage, alone, isGap, gapVacant,
    restVacant⟩ := grow_spec owned notMoved fits
  have copies := copyType_between items (List.length_map some).symm isGap gapVacant alone.found
    (reads.keeps foreign keeps) (foreign.ne_place alone.notOwned _ _)
  have filled := alone.filled restVacant items isGap storage (by
    simp only [List.length_append]
    omega)
  refine ⟨_, grown, ?_, filled.owned, keeps.trans filled.keeps⟩
  simp only [grows, Option.bind_eq_bind, Option.bind_some, storage, copies]

theorem insertAt_spec (owned : Owned traits others heap vector (front ++ back))
    (reads : Reads heap origin [item]) (foreign : origin.Foreign others)
    (moves : amount ≠ 0 ∨ back ≠ [] ∧ traits.movable = true)
    (fits : GrowsInside traits heap vector amount) :
    ∃ next grown, insertAt traits heap vector origin front.length amount =
        some (next, grown, .index front.length) ∧
      Becomes traits others heap next grown (front ++ List.replicate amount item ++ back) := by
  have inside : ¬vector.mCount < front.length := by
    rw [owned.holds.count, List.length_append]
    omega
  rw [insertAt, if_neg inside]
  obtain ⟨next, grown, grows, keeps, count, place, gap, rest, storage, alone, isGap, gapVacant,
    restVacant⟩ := grow_spec owned moves fits
  have splats := splatType_between amount (List.length_map some).symm isGap gapVacant alone.found
    (reads.keeps foreign keeps) fun other _ _ => foreign.misses alone.notOwned other 1
  have length : gap.length = (List.replicate amount item).length := by
    rw [isGap, List.length_replicate]
  have filled := alone.filled restVacant (List.replicate amount item) length storage (by
    simp only [List.length_append, List.length_replicate]
    omega)
  rw [List.map_replicate] at filled
  refine ⟨_, grown, ?_, filled.owned, keeps.trans filled.keeps⟩
  simp only [grows, Option.bind_eq_bind, Option.bind_some, storage, splats]

/-! ## Replacing -/

/-- The vector is edited, and a slot of the storage is written then. -/
theorem exists_edited (owned : Owned traits others heap vector (front ++ item :: back)) :
    ∃ next place rest, editArrayImpl traits heap vector =
        some (next, ⟨some place, vector.mCount⟩) ∧
      IsAlone traits others next place (front.map some ++ some item :: (back.map some ++ rest)) ∧
      Keeps others heap next ∧ Vacant traits rest ∧
      (∀ old, vector.mStorage = some old → some old ∉ others → next = heap ∧ place = old) := by
  obtain ⟨next, edited, edits, ⟨editedOwned, keeps, notOwned, -, same⟩, -⟩ :=
    editArrayImpl_spec owned
  have notNone : edited.mStorage ≠ none := fun isNone => by
    have empty := editedOwned.holds.none isNone
    simp at empty
  obtain ⟨place, storage⟩ := Option.ne_none_iff_exists'.mp notNone
  obtain ⟨rest, alone, vacant⟩ := exists_isAlone editedOwned storage (notOwned place storage)
  have isEdited : edited = ⟨some place, vector.mCount⟩ := by
    rw [← storage, owned.holds.count, ← editedOwned.holds.count]
  refine ⟨next, place, rest, by rw [edits, isEdited], ?_, keeps, vacant, ?_⟩
  · rw [List.map_append, List.map_cons, List.append_assoc, List.cons_append] at alone
    exact alone
  · intro old isOld oldNotOwned
    obtain ⟨isHeap, isVector⟩ := same old isOld oldNotOwned
    refine ⟨isHeap, ?_⟩
    rw [isVector, isOld] at storage
    exact (Option.some.inj storage).symm

/-- A slot of the storage has another item. -/
theorem IsAlone.replaced
    (alone : IsAlone traits others heap place
      (front.map some ++ some item :: (back.map some ++ rest)))
    (vacant : Vacant traits rest) (count : vector.mCount = (front ++ new :: back).length) :
    Becomes traits others heap (heap.set place
      (some ⟨1, front.map some ++ some new :: (back.map some ++ rest)⟩))
      ⟨some place, vector.mCount⟩ (front ++ new :: back) where
  owned := by
    have slots : front.map some ++ some new :: (back.map some ++ rest) =
        (front ++ new :: back).map some ++ rest := by simp
    rw [count]
    refine IsAlone.owned ?_ vacant
    rw [← slots]
    refine alone.write ?_
    simp only [List.length_append, List.length_cons]
  keeps := alone.keeps _

theorem assignAt_spec (owned : Owned traits others heap vector (front ++ item :: back))
    (new : Item) :
    ∃ next edited, assignAt traits heap vector front.length new = some (next, edited) ∧
      Becomes traits others heap next edited (front ++ new :: back) := by
  have count := owned.holds.count
  have sameLength : (front ++ item :: back).length = (front ++ new :: back).length := by
    simp only [List.length_append, List.length_cons]
  obtain ⟨next, place, rest, edits, alone, keeps, vacant, -⟩ := exists_edited owned
  have isIndex : front.length = (front.map some).length := (List.length_map some).symm
  have assigns : (next.onSlots place fun slots =>
      (readAt slots front.length).map fun _ => slots.set front.length (some new)) =
        some (next.set place
          (some ⟨1, front.map some ++ some new :: (back.map some ++ rest)⟩)) := by
    refine onSlots_of_getElem? alone.found ?_
    rw [readAt_between isIndex, Option.map_some, isIndex, set_between]
  have replaced := alone.replaced vacant (count.trans sameLength)
  refine ⟨_, _, ?_, replaced.owned, keeps.trans replaced.keeps⟩
  simp only [assignAt, edits, Option.bind_eq_bind, Option.bind_some, assigns]

theorem isSlot_iff {slot : Nat} : origin.isSlot place slot = true ↔ origin = .slot place slot := by
  cases origin with
  | outside => exact iff_of_false Bool.false_ne_true nofun
  | slot buffer first =>
      rw [Pointer.isSlot, Bool.and_eq_true, decide_eq_true_iff, decide_eq_true_iff,
        Pointer.slot.injEq]

theorem Pointer.apart_of_not_isSlot {slot : Nat} (notSlot : ¬origin.isSlot place slot = true) :
    origin.Apart place slot 1 ∧ origin.Misses place slot 1 := by
  cases origin with
  | outside => exact ⟨trivial, trivial⟩
  | slot buffer first =>
      by_cases isPlace : buffer = place
      · subst isPlace
        have other : first ≠ slot := fun same => notSlot (isSlot_iff.mpr (same ▸ rfl))
        exact ⟨Or.inr (by omega), Or.inr (by omega)⟩
      · exact ⟨Or.inl isPlace, Or.inl isPlace⟩

/-- What an argument refers to before the vector is edited is still there afterwards. -/
theorem Reads.of_edited (reads : Reads heap origin [new])
    (counted : Counted mRefs heap (vector.mStorage :: others)) (keeps : Keeps others heap after)
    (same : ∀ old, vector.mStorage = some old → some old ∉ others → after = heap) :
    Reads after origin [new] := by
  cases origin with
  | outside => exact reads
  | slot buffer index =>
      by_cases owned : some buffer ∈ others
      · exact reads.keeps owned keeps
      · obtain ⟨found, isFound, -⟩ := Option.bind_eq_some_iff.mp reads.1
        obtain ⟨counts, positive⟩ := counted.counts buffer found (bufferAt_eq_some_iff.mp isFound)
        obtain isStorage | absent :=
          List.mem_cons.mp (List.count_pos_iff.mp (counts ▸ positive))
        · rw [same buffer isStorage.symm owned]
          exact reads
        · exact absurd absent owned

/-- The prototype may be an item of the vector. -/
theorem replaceAt_spec (owned : Owned traits others heap vector (front ++ item :: back))
    (reads : Reads heap origin [new]) :
    ∃ next edited, replaceAt traits heap vector origin front.length =
        some (next, edited, .index front.length) ∧
      Becomes traits others heap next edited (front ++ new :: back) := by
  have count := owned.holds.count
  have sameLength : (front ++ item :: back).length = (front ++ new :: back).length := by
    simp only [List.length_append, List.length_cons]
  obtain ⟨next, place, rest, edits, alone, keeps, vacant, same⟩ := exists_edited owned
  have readsNext : Reads next origin [new] := reads.of_edited owned.counted keeps
    fun old isOld notOwned => (same old isOld notOwned).1
  have isIndex : front.length = (front.map some).length := (List.length_map some).symm
  have inside : ¬vector.mCount ≤ front.length := by
    rw [count, List.length_append, List.length_cons]
    omega
  simp only [replaceAt, if_neg inside, edits, Option.bind_eq_bind, Option.bind_some]
  split
  · rename_i isSlot
    rw [isSlot_iff.mp isSlot] at readsNext
    have isItem := readsNext.1
    rw [read_slot alone.found, readAt_between isIndex] at isItem
    cases isItem
    have slots : front.map some ++ some item :: (back.map some ++ rest) =
        (front ++ item :: back).map some ++ rest := by simp
    rw [slots] at alone
    refine ⟨next, ⟨some place, vector.mCount⟩, rfl, ?_, keeps⟩
    rw [count]
    exact alone.owned vacant
  · rename_i notSlot
    obtain ⟨apart, misses⟩ := Pointer.apart_of_not_isSlot notSlot
    obtain ⟨slot, slotVacant, destroys⟩ :=
      destroyAt_between traits isIndex item (back.map some ++ rest)
    have destroyed : (next.onSlots place fun slots => destroyAt traits slots front.length) =
        some (next.set place (some ⟨1, front.map some ++ slot :: (back.map some ++ rest)⟩)) :=
      onSlots_of_getElem? alone.found destroys
    have written := alone.write (show (front.map some ++ [slot] ++
        (back.map some ++ rest)).length = (front.map some ++ some item ::
          (back.map some ++ rest)).length by
      simp only [List.length_append, List.length_cons, List.length_nil]
      omega)
    have readsWritten := readsNext.set alone.found misses slot
    rw [isIndex, set_between, List.append_cons] at readsWritten
    have copies := copyType_between [new] isIndex rfl slotVacant written.found readsWritten apart
    rw [List.set_set, List.append_assoc (front.map some) ([new].map some),
      List.length_singleton] at copies
    have replaced := alone.replaced vacant (count.trans sameLength)
    refine ⟨_, _, ?_, replaced.owned, keeps.trans replaced.keeps⟩
    rw [List.append_cons] at destroyed
    simp only [destroyed, Option.bind_some, copies]
    rfl

/-! ## Removing -/

theorem removeItemsAt_spec (owned : Owned traits others heap vector (front ++ removed ++ back))
    (moves : ∀ size, capacity heap vector = some size →
      size ≤ (front.length + back.length) * 3 →
      removed ≠ [] ∨ back = [] ∨ traits.movable = true) :
    ∃ next shrunk, removeItemsAt traits heap vector front.length removed.length =
        some (next, shrunk, .index front.length) ∧
      Becomes traits others heap next shrunk (front ++ back) := by
  have inside : ¬vector.mCount < front.length + removed.length := by
    rw [owned.holds.count, List.length_append, List.length_append]
    omega
  obtain ⟨next, shrunk, shrinks, becomes⟩ := shrink_spec owned moves
  refine ⟨next, shrunk, ?_, becomes⟩
  rw [removeItemsAt, if_neg inside, shrinks]
  rfl

theorem setCapacity_spec {newCapacity : Nat} (owned : Owned traits others heap vector items)
    (fits : newCapacity ≤ items.length ∨ traits.Fits newCapacity) :
    ∃ next edited result, setCapacity traits heap vector newCapacity =
        some (next, edited, result) ∧
      Becomes traits others heap next edited items := by
  obtain ⟨size, isSize, -⟩ := exists_capacity owned.holds
  have count := owned.holds.count
  simp only [setCapacity, isSize, Option.bind_eq_bind, Option.bind_some]
  split
  · exact ⟨heap, vector, .index size, rfl, owned, .refl _ _ _⟩
  · rename_i more
    have newFits : traits.Fits newCapacity :=
      fits.resolve_left fun less => more (Or.inl (count ▸ less))
    have parts : Owned traits others heap vector (items ++ [] ++ []) := by
      rw [List.append_nil, List.append_nil]
      exact owned
    have room : items.length + 0 + ([] : List Item).length ≤ newCapacity := by
      rw [List.length_nil]
      omega
    obtain ⟨next, fresh, rest, replaces, keeps, alone, vacant⟩ :=
      replaceStorage_spec parts newFits room (fun notNil => absurd rfl notNil)
        (fun notNil => absurd rfl notNil)
    refine ⟨next, ⟨some fresh, items.length⟩, .index newCapacity, ?_, ?_, keeps⟩
    · rw [count]
      rw [List.length_nil] at replaces
      rw [replaces]
      rfl
    · rw [List.replicate_zero, List.append_nil, List.map_nil, List.nil_append] at alone
      exact alone.owned vacant

/-- Another vector refers to the storage. -/
theorem acquire_spec {buffer : SharedBuffer Item} {owners : List (Option Nat)}
    (counted : Counted mRefs heap owners) (found : heap[place]? = some (some buffer)) :
    ∃ next, acquire heap place = some next ∧ Counted mRefs next (some place :: owners) ∧
      Keeps owners heap next := by
  refine ⟨heap.set place (some { buffer with mRefs := buffer.mRefs + 1 }), ?_,
    counted.acquire found rfl, .set_of_same found rfl⟩
  rw [acquire, bufferAt_of_getElem? found]
  rfl

theorem copyConstruct_spec (owned : Owned traits others heap vector items) :
    ∃ next, copyConstruct heap vector = some (next, vector) ∧
      Becomes traits (vector.mStorage :: others) heap next vector items := by
  rw [copyConstruct]
  cases storage : vector.mStorage with
  | none =>
      have counted := owned.counted
      rw [storage] at counted
      refine ⟨heap, rfl, ⟨?_, owned.holds⟩, .refl _ _ _⟩
      rw [storage]
      exact Counted.cons_none.mpr counted
  | some place =>
      obtain ⟨refs, rest, found, vacant⟩ := owned.holds.some place storage
      have counted := owned.counted
      rw [storage] at counted
      obtain ⟨next, acquires, more, keeps⟩ := acquire_spec counted found
      refine ⟨next, ?_, ⟨?_, ?_⟩, keeps⟩
      · simp only [acquires, Option.bind_eq_bind, Option.bind_some]
      · rw [storage]
        exact more
      · refine owned.holds.keeps keeps ?_
        intro other isOther
        cases storage.symm.trans isOther
        exact List.mem_cons_self

theorem assign_spec {otherItems : List Item} (owned : Owned traits others heap vector items)
    (holds : Holds traits heap other otherItems) (isOther : other.mStorage ∈ others) :
    ∃ next assigned, assign traits heap vector other = some (next, assigned) ∧
      Becomes traits others heap next assigned otherItems := by
  obtain ⟨next, releases, counted, keeps⟩ := releaseStorage_spec owned.counted owned.holds
  have still : Holds traits next other otherItems :=
    holds.keeps keeps fun place storage => storage ▸ isOther
  have count := holds.count
  simp only [assign, releases, Option.bind_eq_bind, Option.bind_some]
  split
  · rename_i isZero
    rw [List.length_eq_zero_iff.mp (count.symm.trans isZero)]
    exact ⟨next, ⟨none, 0⟩, rfl, ⟨Counted.cons_none.mpr counted, holds_none⟩, keeps⟩
  · rename_i notZero
    have notNone : other.mStorage ≠ none := fun isNone =>
      notZero (count.trans (still.none isNone ▸ rfl))
    obtain ⟨place, storage⟩ := Option.ne_none_iff_exists'.mp notNone
    obtain ⟨refs, rest, found, vacant⟩ := still.some place storage
    obtain ⟨last, acquires, more, keepsMore⟩ := acquire_spec counted found
    have isSame : (⟨some place, other.mCount⟩ : Vector) = other := by rw [← storage]
    refine ⟨last, other, ?_, ⟨?_, ?_⟩, keeps.trans keepsMore⟩
    · rw [storage, Option.bind_some, acquires, Option.bind_some, isSame]
    · rw [storage]
      exact more
    · exact still.keeps keepsMore fun _ isPlace => isPlace ▸ isOther

end VectorImpl
end Skplat
