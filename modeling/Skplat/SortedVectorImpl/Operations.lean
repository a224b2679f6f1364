import Skplat.SortedVectorImpl.Search

/-!
# The items of a sorted vector

What the functions do to the items while other vectors own buffers too.  A sorted vector is merged
with another one by a loop, or by one insertion if all items of one are before those of the other.
-/

namespace Skplat
namespace SortedVectorImpl

open VectorImpl SharedBuffer

variable {Item : Type} {traits : Traits} {less : Item → Item → Bool} {item : Item}
variable {items otherItems more : List Item} {heap : Heap Item} {vector other : Vector}
variable {origin : Pointer Item} {others : List (Option Nat)}

/-! ## `add` and `remove` -/

theorem add_spec (comparison : IsComparison less) (ascending : Ascending less items)
    (owned : Owned traits others heap vector items) (reads : Reads heap origin [item])
    (foreign : origin.Foreign others) (fits : traits.GrowFits (items.length + 1)) :
    ∃ next edited index, add traits less heap vector origin = some (next, edited, .index index) ∧
      Becomes traits others heap next edited (place less items item) := by
  obtain ⟨result, searches, found⟩ := indexOrderOf_spec comparison ascending owned.holds reads
  rw [add, searches, Option.bind_eq_bind, Option.bind_some]
  cases found with
  | absent lower upper parts between =>
      have count := owned.holds.count
      rw [parts] at owned
      obtain ⟨next, grown, inserts, becomes⟩ :=
        insertAt_spec owned reads foreign (Or.inl Nat.one_ne_zero) fun _ _ _ => count ▸ fits
      have placed := between.place_eq comparison [] nofun
      rw [List.append_nil, ← parts] at placed
      refine ⟨next, grown, lower.length, inserts, ?_⟩
      rw [placed]
      simpa using becomes
  | present lower same upper parts alike between =>
      rw [parts] at owned
      obtain ⟨next, edited, replaces, becomes⟩ := replaceAt_spec owned reads
      have placed := between.place_eq comparison [same] fun other present =>
        List.mem_singleton.mp present ▸ alike
      rw [List.append_assoc, List.singleton_append, ← parts] at placed
      refine ⟨next, edited, lower.length, replaces, ?_⟩
      rw [placed]
      exact becomes

theorem indexOf_spec (comparison : IsComparison less) (ascending : Ascending less items)
    (holds : Holds traits heap vector items) (reads : Reads heap origin [item]) :
    ∃ index order, indexOf less heap vector origin = some index ∧
      Found less items item (index, order) := by
  obtain ⟨⟨index, order⟩, searches, found⟩ := indexOrderOf_spec comparison ascending holds reads
  exact ⟨index, order, by rw [indexOf, searches]; rfl, found⟩

theorem remove_spec (comparison : IsComparison less) (ascending : Ascending less items)
    (owned : Owned traits others heap vector items) (reads : Reads heap origin [item]) :
    ∃ next shrunk index, remove traits less heap vector origin = some (next, shrunk, index) ∧
      Becomes traits others heap next shrunk (without less items item) := by
  obtain ⟨index, order, searches, found⟩ := indexOf_spec comparison ascending owned.holds reads
  rw [remove, searches, Option.bind_eq_bind, Option.bind_some]
  cases found with
  | absent lower upper parts between =>
      have kept := between.without_eq comparison [] nofun
      rw [List.append_nil, ← parts] at kept
      refine ⟨heap, vector, none, rfl, ?_⟩
      rw [kept]
      exact owned.unchanged
  | present lower same upper parts alike between =>
      have kept := between.without_eq comparison [same] fun other present =>
        List.mem_singleton.mp present ▸ alike
      rw [List.append_assoc, List.singleton_append, ← parts] at kept
      rw [parts, List.append_cons] at owned
      obtain ⟨next, shrunk, removes, becomes⟩ := removeItemsAt_spec owned fun _ _ _ =>
        Or.inl (List.cons_ne_nil same [])
      refine ⟨next, shrunk, some lower.length, ?_, ?_⟩
      · rw [List.length_singleton] at removes
        simp only [removes, Option.bind_eq_bind, Option.bind_some]
      · rw [kept]
        exact becomes

/-! ## `merge` -/

theorem mergeLoop_spec (comparison : IsComparison less) (ascending : Ascending less items)
    (owned : Owned traits others heap vector items) (reads : Reads heap origin more)
    (foreign : origin.Foreign others) (fits : traits.GrowFits (items.length + more.length)) :
    ∃ next merged, mergeLoop traits less more.length heap vector origin =
        some (next, merged, .index 0) ∧
      Becomes traits others heap next merged (placeAll less items more) := by
  induction more generalizing heap vector items origin with
  | nil => exact ⟨heap, vector, rfl, owned.unchanged⟩
  | cons item rest ih =>
      obtain ⟨isItem, readsRest⟩ := reads
      rw [List.length_cons] at fits
      have longer := length_place_le comparison items item
      obtain ⟨next, edited, index, adds, becomes⟩ := add_spec comparison ascending owned
        ⟨isItem, trivial⟩ foreign (fits.mono (by omega))
      obtain ⟨last, merged, merges, final⟩ := ih (ascending.place comparison item) becomes.owned
        (readsRest.keeps foreign.next becomes.keeps) foreign.next (fits.mono (by omega))
      refine ⟨last, merged, ?_, final.owned, becomes.keeps.trans final.keeps⟩
      simp only [List.length_cons, mergeLoop, adds, Option.bind_eq_bind, Option.bind_some, merges]

theorem mergeVector_spec (comparison : IsComparison less) (ascending : Ascending less items)
    (owned : Owned traits others heap vector items) (holds : Holds traits heap other otherItems)
    (isOther : other.mStorage ∈ others)
    (fits : traits.GrowFits (items.length + otherItems.length)) :
    ∃ next merged, mergeVector traits less heap vector other = some (next, merged, .index 0) ∧
      Becomes traits others heap next merged (placeAll less items otherItems) := by
  have count := holds.count
  rw [mergeVector]
  split
  · rename_i isZero
    rw [List.length_eq_zero_iff.mp (count.symm.trans isZero)]
    exact ⟨heap, vector, rfl, owned.unchanged⟩
  · have reads := holds.reads_part 0 otherItems.length
    rw [List.drop_zero, List.take_length] at reads
    rw [count]
    exact mergeLoop_spec comparison ascending owned reads (itemLocation_foreign isOther 0) fits

/-- What `merge` does to the items. -/
def mergeItems (less : Item → Item → Bool) (items otherItems : List Item) : List Item :=
  match items.head?, items.getLast?, otherItems.head?, otherItems.getLast? with
  | some first, some last, some otherFirst, some otherLast =>
      if !less first otherLast then otherItems ++ items
      else if !less otherFirst last then items ++ otherItems
      else placeAll less items otherItems
  | _, _, _, _ => items

theorem mergeItems_nil (less : Item → Item → Bool) (items : List Item) :
    mergeItems less items [] = items := by
  rw [mergeItems]
  cases items.head? <;> cases items.getLast? <;> rfl

theorem compareType_le_zero (comparison : IsComparison less) (lhs rhs : Item) :
    compareType less lhs rhs ≤ 0 ↔ less rhs lhs = false := by
  rw [compareType, strictlyOrderType, strictlyOrderType]
  cases isGreater : less rhs lhs with
  | true => simp [comparison.asymm rhs lhs isGreater]
  | false => cases less lhs rhs <;> simp

theorem zero_le_compareType (comparison : IsComparison less) (lhs rhs : Item) :
    0 ≤ compareType less lhs rhs ↔ less lhs rhs = false := by
  rw [compareType, strictlyOrderType, strictlyOrderType]
  cases isLess : less lhs rhs with
  | true => simp [comparison.asymm lhs rhs isLess]
  | false => cases less rhs lhs <;> simp

theorem read_first (holds : Holds traits heap vector items) {first : Item}
    (isFirst : items.head? = some first) : heap.read (vector.itemLocation 0) = some first := by
  obtain ⟨rest, rfl⟩ := List.head?_eq_some_iff.mp isFirst
  have parts : Holds traits heap vector ([] ++ [first] ++ rest) := holds
  exact (reads_itemLocation parts (List.cons_ne_nil first []) rfl).1

theorem read_last (holds : Holds traits heap vector items) {last : Item}
    (isLast : items.getLast? = some last) :
    heap.read (vector.itemLocation (vector.mCount - 1)) = some last := by
  obtain ⟨init, rfl⟩ := List.getLast?_eq_some_iff.mp isLast
  have parts : Holds traits heap vector (init ++ [last] ++ []) := by
    rw [List.append_nil]
    exact holds
  have isIndex : vector.mCount - 1 = init.length := by
    rw [holds.count, List.length_append, List.length_singleton, Nat.add_sub_cancel]
  exact (reads_itemLocation parts (List.cons_ne_nil last []) isIndex).1

/-- There must be an item in the vector if there is one in the other vector. -/
theorem merge_spec (comparison : IsComparison less) (ascending : Ascending less items)
    (owned : Owned traits others heap vector items) (holds : Holds traits heap other otherItems)
    (isOther : other.mStorage ∈ others) (notEmpty : otherItems ≠ [] → items ≠ [])
    (fits : traits.GrowFits (items.length + otherItems.length)) :
    ∃ next merged result, merge traits less heap vector other = some (next, merged, result) ∧
      Becomes traits others heap next merged (mergeItems less items otherItems) := by
  have count := holds.count
  rw [merge]
  split
  · rename_i isZero
    rw [List.length_eq_zero_iff.mp (count.symm.trans isZero)]
    refine ⟨heap, vector, .index 0, rfl, ?_⟩
    rw [mergeItems_nil]
    exact owned.unchanged
  · rename_i notZero
    have otherNotNil : otherItems ≠ [] := fun isNil => notZero (count.trans (isNil ▸ rfl))
    have notNil := notEmpty otherNotNil
    have isFirst := List.head?_eq_some_head notNil
    have isLast := List.getLast?_eq_some_getLast notNil
    have isOtherFirst := List.head?_eq_some_head otherNotNil
    have isOtherLast := List.getLast?_eq_some_getLast otherNotNil
    have grows : GrowsInside traits heap vector otherItems.length :=
      fun _ _ _ => owned.holds.count ▸ fits
    have notCountZero : vector.mCount ≠ 0 := fun isZero =>
      notNil (List.length_eq_zero_iff.mp (owned.holds.count.symm.trans isZero))
    have reads := holds.reads_part 0 otherItems.length
    rw [List.drop_zero, List.take_length] at reads
    simp only [mergeItems, isFirst, isLast, isOtherFirst, isOtherLast, read_last holds isOtherLast,
      read_first owned.holds isFirst, read_first holds isOtherFirst, lastLocation,
      if_neg notCountZero, read_last owned.holds isLast, Option.bind_eq_bind, Option.bind_some,
      compareType_le_zero comparison, zero_le_compareType comparison, Bool.not_eq_true']
    split
    · have front : Owned traits others heap vector ([] ++ items) := owned
      obtain ⟨next, merged, inserts, becomes⟩ := insertArrayAt_spec front reads
        (itemLocation_foreign isOther 0) (Or.inl otherNotNil) grows
      refine ⟨next, merged, .index 0, ?_, becomes⟩
      rw [insertVectorAt, count]
      exact inserts
    · split
      · have back : Owned traits others heap vector (items ++ []) := by
          rw [List.append_nil]
          exact owned
        obtain ⟨next, merged, inserts, becomes⟩ := insertArrayAt_spec back reads
          (itemLocation_foreign isOther 0) (Or.inl otherNotNil) grows
        rw [List.append_nil] at becomes
        refine ⟨next, merged, .index items.length, ?_, becomes⟩
        rw [appendVector, insertVectorAt, count, owned.holds.count]
        exact inserts
      · obtain ⟨next, merged, merges, becomes⟩ :=
          mergeVector_spec comparison ascending owned holds isOther fits
        exact ⟨next, merged, .index 0, merges, becomes⟩

end SortedVectorImpl
end Skplat
