import Mathlib.Data.List.Induction
import Skplat.Data.SharedCells
import Skplat.VectorImpl.Defs

/-!
# Items in memory

What the loops of `TypeHelpers.h` do to the slots of a buffer.  The slots are written as the
parts that stay and the parts that change, so that each lemma says what is where afterwards.
-/

namespace Skplat
namespace VectorImpl

variable {Item : Type} {traits : Traits} {item : Item} {items : List Item}
variable {slots before gap after : Slots Item} {index num : Nat}

/-- Slots in which items may be constructed. -/
def Vacant (traits : Traits) (gap : Slots Item) : Prop :=
  ∀ slot ∈ gap, traits.trivialDtor = true ∨ slot = none

theorem vacant_nil : Vacant traits ([] : Slots Item) := nofun

theorem vacant_append {more : Slots Item} :
    Vacant traits (gap ++ more) ↔ Vacant traits gap ∧ Vacant traits more :=
  List.forall_mem_append

theorem vacant_cons {slot : Option Item} :
    Vacant traits (slot :: gap) ↔
      (traits.trivialDtor = true ∨ slot = none) ∧ Vacant traits gap :=
  List.forall_mem_cons

theorem vacant_replicate (count : Nat) :
    Vacant traits (List.replicate count (none : Option Item)) :=
  fun _ present => Or.inr (List.eq_of_mem_replicate present)

theorem Vacant.of_trivial (trivial : traits.trivialDtor = true) (gap : Slots Item) :
    Vacant traits gap :=
  fun _ _ => Or.inl trivial

/-! ## One slot -/

theorem getElem?_between (before after : Slots Item) (slot : Option Item) :
    (before ++ slot :: after)[before.length]? = some slot := by
  rw [List.getElem?_append_right (Nat.le_refl _), Nat.sub_self]
  rfl

theorem set_between (before after : Slots Item) (slot new : Option Item) :
    (before ++ slot :: after).set before.length new = before ++ new :: after := by
  rw [List.set_append_right _ _ (Nat.le_refl _), Nat.sub_self, List.set_cons_zero]

theorem readAt_between (isIndex : index = before.length) (item : Item) (after : Slots Item) :
    readAt (before ++ some item :: after) index = some item := by
  rw [readAt, isIndex, getElem?_between]
  rfl

theorem constructAt_between {slot : Option Item} (isIndex : index = before.length)
    (vacant : Vacant traits [slot]) (item : Item) (after : Slots Item) :
    constructAt traits (before ++ slot :: after) index item =
      some (before ++ some item :: after) := by
  have free := vacant slot (List.mem_singleton.mpr rfl)
  rw [constructAt, isIndex, getElem?_between]
  dsimp only
  rw [if_neg, set_between]
  obtain trivial | rfl := free <;> simp_all

/-- The slot is vacant afterwards. -/
theorem destroyAt_between (traits : Traits) (isIndex : index = before.length) (item : Item)
    (after : Slots Item) :
    ∃ slot, Vacant traits [slot] ∧
      destroyAt traits (before ++ some item :: after) index =
        some (before ++ slot :: after) := by
  rw [destroyAt]
  split
  · rename_i trivial
    exact ⟨some item, .of_trivial trivial _, rfl⟩
  · refine ⟨none, vacant_replicate 1, ?_⟩
    rw [readAt_between isIndex, Option.map_some, isIndex, set_between]

/-! ## `destroy_type` -/

theorem destroyType_between (traits : Traits) (isIndex : index = before.length) (items : List Item)
    (after : Slots Item) :
    ∃ gap, gap.length = items.length ∧ Vacant traits gap ∧
      destroyType traits items.length (before ++ items.map some ++ after) index =
        some (before ++ gap ++ after) := by
  induction items generalizing before index with
  | nil => exact ⟨[], rfl, vacant_nil, rfl⟩
  | cons item rest ih =>
      obtain ⟨slot, vacant, destroys⟩ :=
        destroyAt_between traits isIndex item (rest.map some ++ after)
      have isNext : index + 1 = (before ++ [slot]).length := by simp [isIndex]
      obtain ⟨gap, length, restVacant, destroysRest⟩ := ih isNext
      refine ⟨slot :: gap, by simp [length], vacant_cons.mpr ⟨vacant slot (by simp), restVacant⟩,
        ?_⟩
      simp only [List.map_cons, List.length_cons, List.append_assoc, List.cons_append,
        List.nil_append, destroyType] at destroys destroysRest ⊢
      rw [destroys]
      exact destroysRest

/-! ## Moving items -/

/-- An item is moved towards the front. -/
theorem moveOne_backward {slot : Option Item} {origin : Nat} (item : Item)
    (middle after : Slots Item) (vacant : Vacant traits [slot]) (isIndex : index = before.length)
    (isOrigin : origin = before.length + 1 + middle.length) :
    ∃ left, Vacant traits [left] ∧
      moveOne traits (before ++ slot :: middle ++ some item :: after) index origin =
        some (before ++ some item :: middle ++ left :: after) := by
  have isBehind : origin = (before ++ slot :: middle).length := by
    rw [isOrigin, List.length_append, List.length_cons]
    omega
  have isAfter : origin = (before ++ some item :: middle).length := by
    rw [isOrigin, List.length_append, List.length_cons]
    omega
  obtain ⟨left, isLeft, destroys⟩ := destroyAt_between traits isAfter item after
  refine ⟨left, isLeft, ?_⟩
  have constructs := constructAt_between isIndex vacant item (middle ++ some item :: after)
  rw [← List.cons_append, ← List.append_assoc, ← List.cons_append, ← List.append_assoc]
    at constructs
  rw [moveOne, readAt_between isBehind, Option.bind_eq_bind, Option.bind_some, constructs]
  exact destroys

/-- An item is moved towards the back. -/
theorem moveOne_forward {slot : Option Item} {origin : Nat} (item : Item)
    (middle after : Slots Item) (vacant : Vacant traits [slot]) (isOrigin : origin = before.length)
    (isIndex : index = before.length + 1 + middle.length) :
    ∃ left, Vacant traits [left] ∧
      moveOne traits (before ++ some item :: middle ++ slot :: after) index origin =
        some (before ++ left :: middle ++ some item :: after) := by
  have isBehind : index = (before ++ some item :: middle).length := by
    rw [isIndex, List.length_append, List.length_cons]
    omega
  have reads := readAt_between isOrigin item (middle ++ slot :: after)
  have constructs := constructAt_between isBehind vacant item after
  obtain ⟨left, isLeft, destroys⟩ :=
    destroyAt_between traits isOrigin item (middle ++ some item :: after)
  refine ⟨left, isLeft, ?_⟩
  rw [← List.cons_append, ← List.append_assoc] at reads
  rw [← List.cons_append, ← List.append_assoc, ← List.cons_append, ← List.append_assoc]
    at destroys
  rw [moveOne, reads, Option.bind_eq_bind, Option.bind_some, constructs]
  exact destroys

theorem moveForwardLoop_between {origin dest : Nat} (items : List Item)
    (isOrigin : origin = before.length) (isDest : dest = before.length + gap.length)
    (vacant : Vacant traits gap) (moves : gap ≠ [] ∨ items = []) :
    ∃ left, left.length = gap.length ∧ Vacant traits left ∧
      moveForwardLoop traits items.length (before ++ items.map some ++ gap ++ after) dest
        origin = some (before ++ left ++ items.map some ++ after) := by
  induction items using List.reverseRecOn generalizing gap after with
  | nil => exact ⟨gap, rfl, vacant, by simp [moveForwardLoop]⟩
  | append_singleton init item ih =>
      obtain notEmpty | isEmpty := moves
      · obtain ⟨middle, slot, rfl⟩ : ∃ middle slot, gap = middle ++ [slot] :=
          ⟨_, _, (List.dropLast_append_getLast notEmpty).symm⟩
        obtain ⟨middleVacant, slotVacant⟩ := vacant_append.mp vacant
        have length : (before ++ init.map some).length = before.length + init.length := by
          simp
        have isItem : origin + init.length = (before ++ init.map some).length := by omega
        have isSlot : dest + init.length =
            (before ++ init.map some).length + 1 + middle.length := by
          rw [List.length_append, List.length_singleton] at isDest
          omega
        obtain ⟨left, isLeft, moves⟩ :=
          moveOne_forward item middle after slotVacant isItem isSlot
        have leftVacant : Vacant traits (left :: middle) :=
          vacant_cons.mpr ⟨isLeft left (by simp), middleVacant⟩
        obtain ⟨gap', gapLength, gapVacant, movesRest⟩ :=
          @ih (left :: middle) (some item :: after) (by simpa using isDest) leftVacant
            (Or.inl nofun)
        refine ⟨gap', by simpa using gapLength, gapVacant, ?_⟩
        simp only [List.map_append, List.map_cons, List.map_nil, List.length_append,
          List.length_cons, List.length_nil, Nat.zero_add, moveForwardLoop, List.append_assoc,
          List.cons_append, List.nil_append] at moves movesRest ⊢
        rw [moves, Option.bind_eq_bind, Option.bind_some]
        exact movesRest
      · simp at isEmpty

theorem moveBackwardLoop_between {origin dest : Nat} (items : List Item)
    (isDest : dest = before.length) (isOrigin : origin = before.length + gap.length)
    (vacant : Vacant traits gap) (moves : gap ≠ [] ∨ items = []) :
    ∃ left, left.length = gap.length ∧ Vacant traits left ∧
      moveBackwardLoop traits items.length (before ++ gap ++ items.map some ++ after) dest
        origin = some (before ++ items.map some ++ left ++ after) := by
  induction items generalizing before gap dest origin with
  | nil => exact ⟨gap, rfl, vacant, by simp [moveBackwardLoop]⟩
  | cons item rest ih =>
      obtain notEmpty | isEmpty := moves
      · obtain ⟨slot, middle, rfl⟩ := List.exists_cons_of_ne_nil notEmpty
        obtain ⟨slotVacant, middleVacant⟩ := vacant_cons.mp vacant
        have alone : Vacant traits [slot] := vacant_cons.mpr ⟨slotVacant, vacant_nil⟩
        have isItem : origin = before.length + 1 + middle.length := by
          rw [List.length_cons] at isOrigin
          omega
        obtain ⟨left, isLeft, moves⟩ :=
          moveOne_backward item middle (rest.map some ++ after) alone isDest isItem
        have isNext : dest + 1 = (before ++ [some item]).length := by simp [isDest]
        have isNextItem : origin + 1 =
            (before ++ [some item]).length + (middle ++ [left]).length := by
          simp only [List.length_append, List.length_cons, List.length_nil]
          omega
        obtain ⟨gap', gapLength, gapVacant, movesRest⟩ :=
          ih isNext isNextItem (vacant_append.mpr ⟨middleVacant, isLeft⟩) (Or.inl (by simp))
        refine ⟨gap', by simpa using gapLength, gapVacant, ?_⟩
        simp only [List.map_cons, List.length_cons, moveBackwardLoop, List.append_assoc,
          List.cons_append, List.nil_append] at moves movesRest ⊢
        rw [moves, Option.bind_eq_bind, Option.bind_some]
        exact movesRest
      · cases isEmpty

theorem exists_cut (slots : Slots Item) (count : Nat) (enough : count ≤ slots.length) :
    ∃ first second, slots = first ++ second ∧ first.length = count ∧
      second.length = slots.length - count :=
  ⟨slots.take count, slots.drop count, (List.take_append_drop _ _).symm,
    List.length_take_of_le enough, List.length_drop⟩

theorem overwrite_between {old bits : Slots Item} (isIndex : index = before.length)
    (length : old.length = bits.length) :
    overwrite (before ++ old ++ after) index bits = before ++ bits ++ after := by
  rw [overwrite, isIndex, ← length, ← List.length_append, List.drop_left,
    List.append_assoc before old after, List.take_left]

/-- What `memmove` leaves where the items were. -/
theorem exists_left_of_memmove (traits : Traits) {origin dest : Nat} (items : List Item)
    (front back : Slots Item) (isOrigin : origin = front.length)
    (inside : dest + items.length ≤ (front ++ items.map some ++ back).length) :
    ∃ left, left.length = items.length ∧ Vacant traits left ∧
      memmove traits (front ++ items.map some ++ back) dest origin items.length =
        some (overwrite (front ++ left ++ back) dest (items.map some)) := by
  have length : (items.map some).length = items.length := List.length_map _
  have bits : ((front ++ items.map some ++ back).drop origin).take items.length =
      items.map some := by
    rw [isOrigin, List.append_assoc, List.drop_left, ← length, List.take_left]
  have enough : origin + items.length ≤ (front ++ items.map some ++ back).length := by
    rw [isOrigin, List.length_append, List.length_append, length]
    omega
  rw [memmove, if_pos ⟨inside, enough⟩, bits]
  split
  · rename_i trivial
    exact ⟨items.map some, length, .of_trivial trivial _, rfl⟩
  · refine ⟨List.replicate items.length none, List.length_replicate, vacant_replicate _, ?_⟩
    rw [overwrite_between isOrigin (by simp)]

/-- The items are moved behind the gap, which is before them afterwards. -/
theorem moveForwardType_between {origin dest : Nat} (items : List Item) (after : Slots Item)
    (isOrigin : origin = before.length) (isDest : dest = before.length + gap.length)
    (vacant : Vacant traits gap)
    (moves : gap ≠ [] ∨ items = [] ∨ traits.movable = true) :
    ∃ left, left.length = gap.length ∧ Vacant traits left ∧
      moveForwardType traits items.length (before ++ items.map some ++ gap ++ after) dest
        origin = some (before ++ left ++ items.map some ++ after) := by
  rw [moveForwardType]
  split
  · have inside : dest + items.length ≤ (before ++ items.map some ++ (gap ++ after)).length := by
      simp only [List.length_append, List.length_map]
      omega
    obtain ⟨left, length, isLeft, moved⟩ :=
      exists_left_of_memmove traits items before (gap ++ after) isOrigin inside
    have both : Vacant traits (left ++ gap) := vacant_append.mpr ⟨isLeft, vacant⟩
    obtain ⟨first, second, cut, isFirst, isSecond⟩ :=
      exists_cut (left ++ gap) gap.length (by simp)
    rw [cut] at both
    refine ⟨first, isFirst, (vacant_append.mp both).1, ?_⟩
    rw [List.append_assoc _ gap after, moved, Option.some_inj, ← List.append_assoc,
      List.append_assoc before left gap, cut, ← List.append_assoc before]
    refine overwrite_between ?_ ?_
    · rw [isDest, List.length_append, isFirst]
    · rw [isSecond, List.length_append, length, Nat.add_sub_cancel, List.length_map]
  · rename_i notMovable
    refine moveForwardLoop_between items isOrigin isDest vacant ?_
    obtain notEmpty | isEmpty | movable := moves
    · exact Or.inl notEmpty
    · exact Or.inr isEmpty
    · exact absurd movable notMovable

/-- The items are moved before the gap, which is behind them afterwards. -/
theorem moveBackwardType_between {origin dest : Nat} (items : List Item) (after : Slots Item)
    (isDest : dest = before.length) (isOrigin : origin = before.length + gap.length)
    (vacant : Vacant traits gap)
    (moves : gap ≠ [] ∨ items = [] ∨ traits.movable = true) :
    ∃ left, left.length = gap.length ∧ Vacant traits left ∧
      moveBackwardType traits items.length (before ++ gap ++ items.map some ++ after) dest
        origin = some (before ++ items.map some ++ left ++ after) := by
  rw [moveBackwardType]
  split
  · have isBehind : origin = (before ++ gap).length := by rw [isOrigin, List.length_append]
    have inside : dest + items.length ≤ (before ++ gap ++ items.map some ++ after).length := by
      simp only [List.length_append, List.length_map]
      omega
    obtain ⟨left, length, isLeft, moved⟩ :=
      exists_left_of_memmove traits items (before ++ gap) after isBehind inside
    have both : Vacant traits (gap ++ left) := vacant_append.mpr ⟨vacant, isLeft⟩
    obtain ⟨first, second, cut, isFirst, isSecond⟩ :=
      exists_cut (gap ++ left) items.length (by simp [length])
    rw [cut] at both
    refine ⟨second, ?_, (vacant_append.mp both).2, ?_⟩
    · rw [isSecond, List.length_append, length, Nat.add_sub_cancel]
    rw [moved, Option.some_inj, List.append_assoc before gap left, cut,
      ← List.append_assoc before, List.append_assoc _ second after,
      List.append_assoc _ second after]
    exact overwrite_between isDest (isFirst.trans (List.length_map _).symm)
  · rename_i notMovable
    refine moveBackwardLoop_between items isDest isOrigin vacant ?_
    obtain notEmpty | isEmpty | movable := moves
    · exact Or.inl notEmpty
    · exact Or.inr isEmpty
    · exact absurd movable notMovable

end VectorImpl
end Skplat
