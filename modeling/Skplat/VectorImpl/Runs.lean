import Skplat.VectorImpl.Values

/-!
# Runs on vectors

Each call does to the vectors what it does to the lists, if its precondition is met.
-/

namespace Skplat
namespace VectorImpl

variable {Item : Type} {traits : Traits} {state : State Item} {values : List (List Item)}
variable {vector other : Vector} {items : List Item} {handle otherHandle : Nat}

/-! ## The calls -/

theorem CanInsert.grows {index amount : Nat} (can : CanInsert traits items index amount)
    (notBehind : ¬items.length < index) :
    (amount ≠ 0 ∨ items.drop index ≠ [] ∧ traits.movable = true) ∧
      traits.GrowFits (items.length + amount) := by
  obtain ⟨moves, fits⟩ := can.resolve_left notBehind
  refine ⟨moves.imp_right fun ⟨inside, movable⟩ => ⟨fun isNil => ?_, movable⟩, fits⟩
  exact Nat.not_le.mpr inside (List.drop_eq_nil_iff.mp isNil)

theorem Represents.insertArrayAt {source : Source Item} {index length : Nat}
    (represents : Represents traits state values) (inside : handle < values.length)
    (readable : source.Readable values length) (notIn : source.NotIn handle)
    (can : CanInsert traits (itemsOf values handle) index length) :
    ∃ pointer, state.pointer source = some pointer ∧ ∃ next,
      state.change handle (fun heap vector =>
        withoutResult (insertArrayAt traits heap vector pointer index length)) = some next ∧
      Represents traits next (values.set handle
        (insertItems (itemsOf values handle) index ((source.items values).take length))) := by
  obtain ⟨pointer, isPointer, isLength, reads, foreign⟩ :=
    represents.exists_pointer handle readable
  refine ⟨pointer, isPointer, represents.change inside fun vector owned => ?_⟩
  have count := owned.holds.count
  rw [insertItems]
  split
  · rename_i behind
    refine ⟨state.heap, vector, ?_, owned.unchanged⟩
    rw [VectorImpl.insertArrayAt, if_pos (count ▸ behind)]
    rfl
  · rename_i notBehind
    have isIndex : ((itemsOf values handle).take index).length = index :=
      List.length_take_of_le (Nat.le_of_not_lt notBehind)
    rw [← List.take_append_drop index (itemsOf values handle)] at owned
    obtain ⟨moves, fits⟩ := can.grows notBehind
    have notMoved : (source.items values).take length ≠ [] ∨
        (itemsOf values handle).drop index ≠ [] ∧ traits.movable = true :=
      moves.imp_left fun notZero => List.ne_nil_of_length_pos (by omega)
    rw [← isLength] at fits
    obtain ⟨next, grown, inserts, becomes⟩ :=
      insertArrayAt_spec owned reads (foreign notIn) notMoved fun _ _ _ => count ▸ fits
    rw [isIndex, isLength] at inserts
    refine ⟨next, grown, ?_, becomes⟩
    rw [inserts]
    rfl

theorem Represents.insertAt {source : Source Item} {index numItems : Nat}
    (represents : Represents traits state values) (inside : handle < values.length)
    (readable : source.Readable values 1) (notIn : source.NotIn handle)
    (can : CanInsert traits (itemsOf values handle) index numItems) :
    ∃ pointer, state.pointer source = some pointer ∧ ∃ next,
      state.change handle (fun heap vector =>
        withoutResult (insertAt traits heap vector pointer index numItems)) = some next ∧
      Represents traits next (values.set handle (insertItems (itemsOf values handle) index
        (((source.items values).take 1).flatMap (List.replicate numItems)))) := by
  obtain ⟨pointer, isPointer, isLength, reads, foreign⟩ :=
    represents.exists_pointer handle readable
  obtain ⟨item, isItem⟩ := List.length_eq_one_iff.mp isLength
  rw [isItem] at reads ⊢
  rw [List.flatMap_singleton]
  refine ⟨pointer, isPointer, represents.change inside fun vector owned => ?_⟩
  have count := owned.holds.count
  rw [insertItems]
  split
  · rename_i behind
    refine ⟨state.heap, vector, ?_, owned.unchanged⟩
    rw [VectorImpl.insertAt, if_pos (count ▸ behind)]
    rfl
  · rename_i notBehind
    have isIndex : ((itemsOf values handle).take index).length = index :=
      List.length_take_of_le (Nat.le_of_not_lt notBehind)
    rw [← List.take_append_drop index (itemsOf values handle)] at owned
    obtain ⟨moves, fits⟩ := can.grows notBehind
    obtain ⟨next, grown, inserts, becomes⟩ :=
      insertAt_spec owned reads (foreign notIn) moves fun _ _ _ => count ▸ fits
    rw [isIndex] at inserts
    refine ⟨next, grown, ?_, becomes⟩
    rw [inserts]
    rfl

theorem Represents.replaceAt {source : Source Item} {index : Nat}
    (represents : Represents traits state values) (inside : handle < values.length)
    (readable : source.Readable values 1) (isItem : index < (itemsOf values handle).length) :
    ∃ pointer, state.pointer source = some pointer ∧ ∃ next,
      state.change handle (fun heap vector =>
        withoutResult (replaceAt traits heap vector pointer index)) = some next ∧
      Represents traits next (values.set handle ((itemsOf values handle).take index ++
        (source.items values).take 1 ++ (itemsOf values handle).drop (index + 1))) := by
  obtain ⟨pointer, isPointer, isLength, reads, -⟩ := represents.exists_pointer handle readable
  obtain ⟨new, isNew⟩ := List.length_eq_one_iff.mp isLength
  rw [isNew] at reads ⊢
  refine ⟨pointer, isPointer, represents.change inside fun vector owned => ?_⟩
  have isIndex : ((itemsOf values handle).take index).length = index :=
    List.length_take_of_le (Nat.le_of_lt isItem)
  rw [← List.take_append_drop index (itemsOf values handle),
    List.drop_eq_getElem_cons isItem] at owned
  obtain ⟨next, edited, replaces, becomes⟩ := replaceAt_spec owned reads
  rw [isIndex] at replaces
  refine ⟨next, edited, ?_, ?_⟩
  · rw [replaces]
    rfl
  · rw [List.append_assoc]
    exact becomes

theorem Represents.removeItemsAt {index count : Nat}
    (represents : Represents traits state values) (inside : handle < values.length)
    (can : CanRemove traits (itemsOf values handle) index count) :
    ∃ next, state.change handle (fun heap vector =>
        withoutResult (removeItemsAt traits heap vector index count)) = some next ∧
      Represents traits next
        (values.set handle (removeItems (itemsOf values handle) index count)) := by
  refine represents.change inside fun vector owned => ?_
  obtain ⟨isInside, moves⟩ := can
  have isIndex : ((itemsOf values handle).take index).length = index :=
    List.length_take_of_le (by omega)
  have isRemoved : (((itemsOf values handle).drop index).take count).length = count :=
    List.length_take_of_le (by
      rw [List.length_drop]
      omega)
  have parts : itemsOf values handle = (itemsOf values handle).take index ++
      ((itemsOf values handle).drop index).take count ++
        (itemsOf values handle).drop (index + count) := by
    rw [← List.drop_drop, List.append_assoc, List.take_append_drop, List.take_append_drop]
  have notMoved : ((itemsOf values handle).drop index).take count ≠ [] ∨
      (itemsOf values handle).drop (index + count) = [] ∨ traits.movable = true := by
    obtain notZero | atEnd | movable := moves
    · exact Or.inl (List.ne_nil_of_length_pos (by omega))
    · exact Or.inr (Or.inl (List.drop_eq_nil_of_le (by omega)))
    · exact Or.inr (Or.inr movable)
  rw [parts] at owned
  obtain ⟨next, shrunk, removes, becomes⟩ := removeItemsAt_spec owned fun _ _ _ => notMoved
  rw [isIndex, isRemoved] at removes
  refine ⟨next, shrunk, ?_, becomes⟩
  rw [removes]
  rfl

theorem Represents.assignAt {index : Nat} {item : Item}
    (represents : Represents traits state values) (inside : handle < values.length)
    (isItem : index < (itemsOf values handle).length) :
    ∃ next, state.change handle (fun heap vector => assignAt traits heap vector index item) =
        some next ∧
      Represents traits next (values.set handle ((itemsOf values handle).set index item)) := by
  refine represents.change inside fun vector owned => ?_
  have isIndex : ((itemsOf values handle).take index).length = index :=
    List.length_take_of_le (Nat.le_of_lt isItem)
  rw [← List.take_append_drop index (itemsOf values handle),
    List.drop_eq_getElem_cons isItem] at owned
  obtain ⟨next, edited, assigns, becomes⟩ := assignAt_spec owned item
  rw [isIndex] at assigns
  refine ⟨next, edited, assigns, ?_⟩
  rw [List.set_eq_take_append_cons_drop, if_pos isItem]
  exact becomes

theorem set_itemsOf (inside : handle < values.length) :
    values.set handle (itemsOf values handle) = values := by
  rw [itemsOf, List.getElem?_eq_getElem inside, Option.getD_some, List.set_getElem_self]

theorem Represents.setCapacity {newCapacity : Nat} (represents : Represents traits state values)
    (inside : handle < values.length)
    (fits : newCapacity ≤ (itemsOf values handle).length ∨ traits.Fits newCapacity) :
    ∃ next, state.change handle (fun heap vector =>
        withoutResult (setCapacity traits heap vector newCapacity)) = some next ∧
      Represents traits next values := by
  have changes : ∃ next, state.change handle (fun heap vector =>
        withoutResult (VectorImpl.setCapacity traits heap vector newCapacity)) = some next ∧
      Represents traits next (values.set handle (itemsOf values handle)) := by
    refine represents.change inside fun vector owned => ?_
    obtain ⟨next, edited, result, sets, becomes⟩ := setCapacity_spec owned fits
    refine ⟨next, edited, ?_, becomes⟩
    rw [sets]
    rfl
  rw [set_itemsOf inside] at changes
  exact changes

theorem Represents.insertVectorAt {index : Nat}
    (represents : Represents traits state values) (inside : handle < values.length)
    (isOther : state.vectors[otherHandle]? = some other) (differs : otherHandle ≠ handle)
    (can : CanInsert traits (itemsOf values handle) index
      (itemsOf values otherHandle).length) :
    ∃ next, state.change handle (fun heap vector =>
        withoutResult (insertVectorAt traits heap vector other index)) = some next ∧
      Represents traits next (values.set handle
        (insertItems (itemsOf values handle) index (itemsOf values otherHandle))) := by
  have holds := represents.holds otherHandle other isOther
  have isIn : otherHandle < values.length :=
    represents.length ▸ (List.getElem?_eq_some_iff.mp isOther).1
  have readable : (Source.within otherHandle 0 : Source Item).Readable values
      (itemsOf values otherHandle).length := ⟨isIn, Nat.le_of_eq (Nat.zero_add _)⟩
  obtain ⟨pointer, isPointer, next, inserts, nextRepresents⟩ :=
    represents.insertArrayAt inside readable differs can
  rw [State.pointer, isOther, Option.map_some, Option.some_inj] at isPointer
  refine ⟨next, ?_, ?_⟩
  · rw [← inserts, ← isPointer, ← holds.count]
    rfl
  · rw [Source.items, List.drop_zero, List.take_length] at nextRepresents
    exact nextRepresents

theorem Represents.copyConstruct (represents : Represents traits state values)
    (isOther : state.vectors[otherHandle]? = some other) :
    ∃ next, copyConstruct state.heap other = some (next, other) ∧
      Represents traits ⟨next, state.vectors ++ [other]⟩
        (values ++ [itemsOf values otherHandle]) := by
  obtain ⟨next, copies, owned, keeps⟩ := copyConstruct_spec (represents.owned isOther)
  obtain ⟨inside, isElem⟩ := List.getElem?_eq_some_iff.mp isOther
  have perm := (List.getElem_cons_eraseIdx_perm inside).map Vector.mStorage
  rw [isElem] at perm
  refine ⟨next, copies, represents.concat ⟨⟨?_, owned.holds⟩, ?_⟩⟩
  · exact owned.counted.perm (perm.cons _)
  · exact keeps.mono fun place => perm.mem_iff.mpr

theorem Represents.assign (represents : Represents traits state values)
    (inside : handle < values.length)
    (isOther : state.vectors[otherHandle]? = some other) (differs : otherHandle ≠ handle) :
    ∃ next, state.change handle (fun heap vector => assign traits heap vector other) = some next ∧
      Represents traits next (values.set handle (itemsOf values otherHandle)) :=
  represents.change inside fun _ owned =>
    assign_spec owned (represents.holds otherHandle other isOther)
      (State.mem_others isOther differs)

end VectorImpl
end Skplat
