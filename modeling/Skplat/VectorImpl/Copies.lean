import Skplat.VectorImpl.Memory

/-!
# Items that are copied from a pointer

A copy reads each item when it comes to it.  It copies what the pointer refers to before, if the
slots it writes are not among those it reads.
-/

namespace Skplat
namespace VectorImpl

variable {Item : Type} {traits : Traits} {item : Item} {items : List Item}
variable {heap : Heap Item} {buffer : SharedBuffer Item} {origin : Pointer Item}
variable {slots before gap after : Slots Item} {place index refs : Nat}

/-! ## Buffers -/

theorem bufferAt_eq_some_iff :
    heap.bufferAt place = some buffer ↔ heap[place]? = some (some buffer) :=
  Option.join_eq_some_iff

theorem bufferAt_of_getElem? (found : heap[place]? = some (some buffer)) :
    heap.bufferAt place = some buffer :=
  bufferAt_eq_some_iff.mpr found

theorem onSlots_of_getElem? {change : Slots Item → Option (Slots Item)} {changed : Slots Item}
    (found : heap[place]? = some (some ⟨refs, slots⟩)) (changes : change slots = some changed) :
    heap.onSlots place change = some (heap.set place (some ⟨refs, changed⟩)) := by
  rw [Heap.onSlots, bufferAt_of_getElem? found, Option.bind_eq_bind, Option.bind_some, changes]
  rfl

/-! ## What a pointer refers to -/

/-- The items that are read one after the other. -/
def Reads (heap : Heap Item) : Pointer Item → List Item → Prop
  | _, [] => True
  | origin, item :: rest => heap.read origin = some item ∧ Reads heap origin.next rest

theorem reads_outside (heap : Heap Item) (items more : List Item) :
    Reads heap (.outside (items ++ more)) items := by
  induction items with
  | nil => trivial
  | cons item rest ih => exact ⟨rfl, ih⟩

theorem read_slot (found : heap[place]? = some (some buffer)) (index : Nat) :
    heap.read (.slot place index) = readAt buffer.slots index := by
  rw [Heap.read, bufferAt_of_getElem? found]
  rfl

theorem reads_slot (found : heap[place]? = some (some buffer))
    (slots : buffer.slots = before ++ items.map some ++ after) (isIndex : index = before.length) :
    Reads heap (.slot place index) items := by
  induction items generalizing before index with
  | nil => trivial
  | cons item rest ih =>
      refine ⟨?_, ?_⟩
      · rw [read_slot found, slots, List.append_assoc, List.map_cons, List.cons_append,
          readAt_between isIndex]
      · have isNext : index + 1 = (before ++ [some item]).length := by simp [isIndex]
        refine ih ?_ isNext
        rw [slots, List.map_cons]
        simp only [List.append_assoc, List.cons_append, List.nil_append]

/-- The slots that are read do not contain the slot that is written. -/
def Pointer.Misses (place index count : Nat) : Pointer Item → Prop
  | .outside _ => True
  | .slot buffer first => buffer ≠ place ∨ index < first ∨ first + count ≤ index

theorem Pointer.Misses.next {count : Nat} (misses : origin.Misses place index (count + 1)) :
    origin.next.Misses place index count := by
  cases origin with
  | outside => trivial
  | slot buffer first =>
      obtain other | before | after := misses
      · exact Or.inl other
      · exact Or.inr (Or.inl (Nat.lt_succ_of_lt before))
      · exact Or.inr (Or.inr (by omega))

theorem read_set {count : Nat} {slot : Option Item}
    (found : heap[place]? = some (some ⟨refs, slots⟩))
    (misses : origin.Misses place index (count + 1)) :
    Heap.read (heap.set place (some ⟨refs, slots.set index slot⟩)) origin =
      heap.read origin := by
  cases origin with
  | outside => rfl
  | slot buffer first =>
      obtain ⟨inside, -⟩ := List.getElem?_eq_some_iff.mp found
      by_cases same : buffer = place
      · subst same
        have other : index ≠ first := by
          obtain notSame | before | after := misses
          · exact absurd rfl notSame
          · exact Nat.ne_of_lt before
          · omega
        rw [read_slot (List.getElem?_set_self inside), read_slot found, readAt, readAt,
          List.getElem?_set_ne other]
      · rw [Heap.read, Heap.read, Heap.bufferAt, Heap.bufferAt,
          List.getElem?_set_ne (Ne.symm same)]

theorem Reads.set (reads : Reads heap origin items)
    (found : heap[place]? = some (some ⟨refs, slots⟩))
    (misses : origin.Misses place index items.length) (slot : Option Item) :
    Reads (heap.set place (some ⟨refs, slots.set index slot⟩)) origin items := by
  induction items generalizing origin with
  | nil => trivial
  | cons item rest ih =>
      obtain ⟨isItem, readsRest⟩ := reads
      exact ⟨(read_set found misses).trans isItem, ih readsRest misses.next⟩

/-! ## `copy_type` and `splat_type` -/

/-- The slots that are read and those that are written have nothing in common. -/
def Pointer.Apart (place index count : Nat) : Pointer Item → Prop
  | .outside _ => True
  | .slot buffer first => buffer ≠ place ∨ first + count ≤ index ∨ index + count ≤ first

theorem Pointer.Apart.next {count : Nat} (apart : origin.Apart place index (count + 1)) :
    origin.next.Apart place (index + 1) count := by
  cases origin with
  | outside => trivial
  | slot buffer first =>
      obtain other | before | after := apart
      · exact Or.inl other
      · exact Or.inr (Or.inl (by omega))
      · exact Or.inr (Or.inr (by omega))

theorem Pointer.Apart.misses {count : Nat} (apart : origin.Apart place index (count + 1)) :
    origin.next.Misses place index count := by
  cases origin with
  | outside => trivial
  | slot buffer first =>
      obtain other | before | after := apart
      · exact Or.inl other
      · exact Or.inr (Or.inr (by omega))
      · exact Or.inr (Or.inl (by omega))

/-- One item is constructed in a buffer. -/
theorem onSlots_constructAt {slot : Option Item} (isIndex : index = before.length)
    (vacant : Vacant traits [slot]) (item : Item)
    (found : heap[place]? = some (some ⟨refs, before ++ slot :: after⟩)) :
    (heap.onSlots place fun slots => constructAt traits slots index item) =
      some (heap.set place (some ⟨refs, before ++ some item :: after⟩)) :=
  onSlots_of_getElem? found (constructAt_between isIndex vacant item after)

theorem copyType_between (items : List Item) (isIndex : index = before.length)
    (length : gap.length = items.length) (vacant : Vacant traits gap)
    (found : heap[place]? = some (some ⟨refs, before ++ gap ++ after⟩))
    (reads : Reads heap origin items) (apart : origin.Apart place index items.length) :
    copyType traits items.length heap place index origin =
      some (heap.set place (some ⟨refs, before ++ items.map some ++ after⟩)) := by
  induction items generalizing heap before gap index origin with
  | nil =>
      have same : heap.set place (some ⟨refs, before ++ after⟩) = heap := by
        rw [List.length_eq_zero_iff.mp length, List.append_nil] at found
        obtain ⟨inside, isBuffer⟩ := List.getElem?_eq_some_iff.mp found
        rw [← isBuffer, List.set_getElem_self]
      rw [List.map_nil, List.append_nil, same]
      rfl
  | cons item rest ih =>
      obtain ⟨slot, more, rfl⟩ := List.exists_cons_of_length_eq_add_one length
      obtain ⟨slotVacant, moreVacant⟩ := vacant_cons.mp vacant
      obtain ⟨isItem, readsRest⟩ := reads
      rw [List.append_assoc, List.cons_append] at found
      have constructs := onSlots_constructAt isIndex
        (vacant_cons.mpr ⟨slotVacant, vacant_nil⟩) item found
      obtain ⟨inside, -⟩ := List.getElem?_eq_some_iff.mp found
      have written := readsRest.set found apart.misses (some item)
      rw [isIndex, set_between] at written
      have isNext : index + 1 = (before ++ [some item]).length := by simp [isIndex]
      have foundNext : (heap.set place (some ⟨refs, before ++ some item :: (more ++ after)⟩))[
          place]? = some (some ⟨refs, before ++ [some item] ++ more ++ after⟩) := by
        rw [List.getElem?_set_self inside]
        simp
      have copies := ih isNext (by simpa using length) moreVacant foundNext written apart.next
      simp only [List.length_cons, copyType, isItem, constructs, copies, Option.bind_eq_bind,
        Option.bind_some, List.set_set]
      simp

theorem splatType_between (num : Nat) (isIndex : index = before.length)
    (length : gap.length = num) (vacant : Vacant traits gap)
    (found : heap[place]? = some (some ⟨refs, before ++ gap ++ after⟩))
    (reads : Reads heap origin [item])
    (misses : ∀ other, index ≤ other → other < index + num → origin.Misses place other 1) :
    splatType traits num heap place index origin =
      some (heap.set place (some ⟨refs, before ++ List.replicate num (some item) ++ after⟩)) := by
  induction num generalizing heap before gap index with
  | zero =>
      have same : heap.set place (some ⟨refs, before ++ after⟩) = heap := by
        rw [List.length_eq_zero_iff.mp length, List.append_nil] at found
        obtain ⟨inside, isBuffer⟩ := List.getElem?_eq_some_iff.mp found
        rw [← isBuffer, List.set_getElem_self]
      rw [List.replicate_zero, List.append_nil, same]
      rfl
  | succ num ih =>
      obtain ⟨slot, more, rfl⟩ := List.exists_cons_of_length_eq_add_one length
      obtain ⟨slotVacant, moreVacant⟩ := vacant_cons.mp vacant
      rw [List.append_assoc, List.cons_append] at found
      have constructs := onSlots_constructAt isIndex
        (vacant_cons.mpr ⟨slotVacant, vacant_nil⟩) item found
      obtain ⟨inside, -⟩ := List.getElem?_eq_some_iff.mp found
      have written := reads.set found (misses index (Nat.le_refl _) (by omega)) (some item)
      rw [isIndex, set_between] at written
      have isNext : index + 1 = (before ++ [some item]).length := by simp [isIndex]
      have foundNext : (heap.set place (some ⟨refs, before ++ some item :: (more ++ after)⟩))[
          place]? = some (some ⟨refs, before ++ [some item] ++ more ++ after⟩) := by
        rw [List.getElem?_set_self inside]
        simp
      have copies := ih isNext (by simpa using length) moreVacant foundNext written
        fun other later inside => misses other (by omega) (by omega)
      simp only [splatType, reads.1, constructs, copies, Option.bind_eq_bind, Option.bind_some,
        List.set_set]
      simp [List.replicate_succ]

end VectorImpl
end Skplat
