import Mathlib.Data.List.Perm.Basic
import Skplat.Machine.Simulation
import Skplat.VectorImpl.Sort

/-!
# Vectors are independent values

A program makes vectors, copies them and changes them.  The vectors share buffers; their values
are lists, of which each is changed alone.  A run of the program on lists, in which each call meets
its precondition, is a run on the vectors too, without a use of freed memory or of an item that is
not there, and each vector holds the items of its list.
-/

namespace Skplat
namespace VectorImpl

open SharedBuffer

variable {Item : Type}

/-- Where an argument of a call is. -/
inductive Source (Item : Type) where
  /-- In memory of the caller. -/
  | outside (items : List Item)
  /-- In a vector, from an item on. -/
  | within (handle first : Nat)

/-- The calls; vectors are numbered as they are constructed. -/
inductive Action (Item : Type) where
  | construct
  | copyConstruct (other : Nat)
  | assign (handle other : Nat)
  | insertArrayAt (handle : Nat) (array : Source Item) (index length : Nat)
  | insertAt (handle : Nat) (item : Source Item) (index numItems : Nat)
  | insertVectorAt (handle other index : Nat)
  | appendVector (handle other : Nat)
  | add (handle : Nat) (item : Source Item)
  | replaceAt (handle : Nat) (prototype : Source Item) (index : Nat)
  | assignAt (handle index : Nat) (item : Item)
  | removeItemsAt (handle index count : Nat)
  | pop (handle : Nat)
  | clear (handle : Nat)
  | setCapacity (handle newCapacity : Nat)
  | sort (handle : Nat) (cmp : Item → Item → Int)
  | finishVector (handle : Nat)

/-! ## The vectors -/

structure State (Item : Type) where
  heap : Heap Item
  vectors : List Vector

/-- The address of an argument. -/
def State.pointer (state : State Item) : Source Item → Option (Pointer Item)
  | .outside items => some (.outside items)
  | .within handle first =>
      (state.vectors[handle]?).map fun vector => vector.itemLocation first

/-- A call changes one of the vectors. -/
def State.change (state : State Item) (handle : Nat)
    (call : Heap Item → Vector → Option (Heap Item × Vector)) : Option (State Item) := do
  let vector ← state.vectors[handle]?
  let (heap, vector) ← call state.heap vector
  some ⟨heap, state.vectors.set handle vector⟩

/-- What a call returns is not used. -/
def withoutResult (outcome : Option (Heap Item × Vector × Result)) :
    Option (Heap Item × Vector) :=
  outcome.map fun (heap, vector, _) => (heap, vector)

def State.step (traits : Traits) (state : State Item) : Action Item → Option (State Item)
  | .construct => some { state with vectors := state.vectors ++ [⟨none, 0⟩] }
  | .copyConstruct other => do
      let other ← state.vectors[other]?
      let (heap, vector) ← copyConstruct state.heap other
      some ⟨heap, state.vectors ++ [vector]⟩
  | .assign handle other =>
      if handle = other then some state
      else do
        let other ← state.vectors[other]?
        state.change handle fun heap vector => assign traits heap vector other
  | .insertArrayAt handle array index length => do
      let array ← state.pointer array
      state.change handle fun heap vector =>
        withoutResult (insertArrayAt traits heap vector array index length)
  | .insertAt handle item index numItems => do
      let item ← state.pointer item
      state.change handle fun heap vector =>
        withoutResult (insertAt traits heap vector item index numItems)
  | .insertVectorAt handle other index => do
      let other ← state.vectors[other]?
      state.change handle fun heap vector =>
        withoutResult (insertVectorAt traits heap vector other index)
  | .appendVector handle other => do
      let other ← state.vectors[other]?
      state.change handle fun heap vector =>
        withoutResult (appendVector traits heap vector other)
  | .add handle item => do
      let item ← state.pointer item
      state.change handle fun heap vector => withoutResult (add traits heap vector item)
  | .replaceAt handle prototype index => do
      let prototype ← state.pointer prototype
      state.change handle fun heap vector =>
        withoutResult (replaceAt traits heap vector prototype index)
  | .assignAt handle index item =>
      state.change handle fun heap vector => assignAt traits heap vector index item
  | .removeItemsAt handle index count =>
      state.change handle fun heap vector =>
        withoutResult (removeItemsAt traits heap vector index count)
  | .pop handle => state.change handle (pop traits)
  | .clear handle => state.change handle (clear traits)
  | .setCapacity handle newCapacity =>
      state.change handle fun heap vector =>
        withoutResult (setCapacity traits heap vector newCapacity)
  | .sort handle cmp => state.change handle (sort traits cmp)
  | .finishVector handle => state.change handle (finishVector traits)

def itemsOf (values : List (List Item)) (handle : Nat) : List Item :=
  values[handle]?.getD []

/-- What an argument refers to. -/
def Source.items (values : List (List Item)) : Source Item → List Item
  | .outside items => items
  | .within handle first => (itemsOf values handle).drop first

/-- As many items can be read. -/
def Source.Readable (values : List (List Item)) (length : Nat) : Source Item → Prop
  | .outside items => length ≤ items.length
  | .within handle first => handle < values.length ∧ first + length ≤ (itemsOf values handle).length

/-- The argument is not an item of the vector. -/
def Source.NotIn (handle : Nat) : Source Item → Prop
  | .outside _ => True
  | .within other _ => other ≠ handle

/-- Nothing is inserted behind the end.  Otherwise there is something to insert, or items behind
that may be moved to where they are, and the storage for the items can be allocated. -/
def CanInsert (traits : Traits) (items : List Item) (index amount : Nat) : Prop :=
  items.length < index ∨
    (amount ≠ 0 ∨ index < items.length ∧ traits.movable = true) ∧
      traits.GrowFits (items.length + amount)

/-- There are items to remove, or those behind may be moved to where they are. -/
def CanRemove (traits : Traits) (items : List Item) (index count : Nat) : Prop :=
  index + count ≤ items.length ∧ (count ≠ 0 ∨ items.length ≤ index ∨ traits.movable = true)

/-- The preconditions of the calls. -/
def Permitted (traits : Traits) (values : List (List Item)) : Action Item → Prop
  | .construct => True
  | .copyConstruct other => other < values.length
  | .assign handle other => handle < values.length ∧ other < values.length
  | .insertArrayAt handle array index length =>
      handle < values.length ∧ array.Readable values length ∧ array.NotIn handle ∧
        CanInsert traits (itemsOf values handle) index length
  | .insertAt handle item index numItems =>
      handle < values.length ∧ item.Readable values 1 ∧ item.NotIn handle ∧
        CanInsert traits (itemsOf values handle) index numItems
  | .insertVectorAt handle other index =>
      handle < values.length ∧ other < values.length ∧ other ≠ handle ∧
        CanInsert traits (itemsOf values handle) index (itemsOf values other).length
  | .appendVector handle other =>
      handle < values.length ∧ other < values.length ∧ other ≠ handle ∧
        CanInsert traits (itemsOf values handle) (itemsOf values handle).length
          (itemsOf values other).length
  | .add handle item =>
      handle < values.length ∧ item.Readable values 1 ∧ item.NotIn handle ∧
        CanInsert traits (itemsOf values handle) (itemsOf values handle).length 1
  | .replaceAt handle prototype index =>
      handle < values.length ∧ prototype.Readable values 1 ∧
        index < (itemsOf values handle).length
  | .assignAt handle index _ =>
      handle < values.length ∧ index < (itemsOf values handle).length
  | .removeItemsAt handle index count =>
      handle < values.length ∧ CanRemove traits (itemsOf values handle) index count
  | .pop handle => handle < values.length
  | .clear handle => handle < values.length
  | .setCapacity handle newCapacity =>
      handle < values.length ∧
        (newCapacity ≤ (itemsOf values handle).length ∨ traits.Fits newCapacity)
  | .sort handle _ => handle < values.length
  | .finishVector handle => handle < values.length

instance (values : List (List Item)) (length : Nat) :
    DecidablePred (@Source.Readable Item values length)
  | .outside items => inferInstanceAs (Decidable (length ≤ items.length))
  | .within _ _ => inferInstanceAs (Decidable (_ ∧ _))

instance (handle : Nat) : DecidablePred (@Source.NotIn Item handle)
  | .outside _ => .isTrue trivial
  | .within _ _ => inferInstanceAs (Decidable (_ ≠ _))

instance (traits : Traits) (items : List Item) (index amount : Nat) :
    Decidable (CanInsert traits items index amount) :=
  inferInstanceAs (Decidable (_ ∨ _ ∧ _))

instance (traits : Traits) (items : List Item) (index count : Nat) :
    Decidable (CanRemove traits items index count) :=
  inferInstanceAs (Decidable (_ ∧ _))

instance (traits : Traits) (values : List (List Item)) : DecidablePred (Permitted traits values)
  | .construct => .isTrue trivial
  | .copyConstruct _ => inferInstanceAs (Decidable (_ < _))
  | .assign _ _ => inferInstanceAs (Decidable (_ ∧ _))
  | .insertArrayAt _ _ _ _ => inferInstanceAs (Decidable (_ ∧ _ ∧ _ ∧ _))
  | .insertAt _ _ _ _ => inferInstanceAs (Decidable (_ ∧ _ ∧ _ ∧ _))
  | .insertVectorAt _ _ _ => inferInstanceAs (Decidable (_ ∧ _ ∧ _ ∧ _))
  | .appendVector _ _ => inferInstanceAs (Decidable (_ ∧ _ ∧ _ ∧ _))
  | .add _ _ => inferInstanceAs (Decidable (_ ∧ _ ∧ _ ∧ _))
  | .replaceAt _ _ _ => inferInstanceAs (Decidable (_ ∧ _ ∧ _))
  | .assignAt _ _ _ => inferInstanceAs (Decidable (_ ∧ _))
  | .removeItemsAt _ _ _ => inferInstanceAs (Decidable (_ ∧ _))
  | .setCapacity _ _ => inferInstanceAs (Decidable (_ ∧ _))
  | .pop _ | .clear _ | .sort _ _ | .finishVector _ =>
      inferInstanceAs (Decidable (_ < _))

/-- Nothing is inserted behind the end. -/
def insertItems (items : List Item) (index : Nat) (array : List Item) : List Item :=
  if items.length < index then items else items.take index ++ array ++ items.drop index

def removeItems (items : List Item) (index count : Nat) : List Item :=
  items.take index ++ items.drop (index + count)

/-- What the calls do to the lists. -/
def apply (values : List (List Item)) : Action Item → List (List Item)
  | .construct => values ++ [[]]
  | .copyConstruct other => values ++ [itemsOf values other]
  | .assign handle other => values.set handle (itemsOf values other)
  | .insertArrayAt handle array index length =>
      values.set handle
        (insertItems (itemsOf values handle) index ((array.items values).take length))
  | .insertAt handle item index numItems =>
      values.set handle (insertItems (itemsOf values handle) index
        (((item.items values).take 1).flatMap (List.replicate numItems)))
  | .insertVectorAt handle other index =>
      values.set handle (insertItems (itemsOf values handle) index (itemsOf values other))
  | .appendVector handle other =>
      values.set handle (itemsOf values handle ++ itemsOf values other)
  | .add handle item =>
      values.set handle (itemsOf values handle ++ (item.items values).take 1)
  | .replaceAt handle prototype index =>
      values.set handle ((itemsOf values handle).take index ++ (prototype.items values).take 1 ++
        (itemsOf values handle).drop (index + 1))
  | .assignAt handle index item => values.set handle ((itemsOf values handle).set index item)
  | .removeItemsAt handle index count =>
      values.set handle (removeItems (itemsOf values handle) index count)
  | .pop handle => values.set handle (itemsOf values handle).dropLast
  | .clear handle => values.set handle []
  | .setCapacity _ _ => values
  | .sort handle cmp => values.set handle (insertAll (exceeds cmp) [] (itemsOf values handle))
  | .finishVector handle => values.set handle []

variable {traits : Traits} {state : State Item} {values : List (List Item)}
variable {vector other : Vector} {items : List Item} {handle otherHandle : Nat}

/-- Each vector holds its items, and each buffer has as many references as vectors that share it. -/
structure Represents (traits : Traits) (state : State Item) (values : List (List Item)) : Prop where
  length : state.vectors.length = values.length
  counted : Counted mRefs state.heap (state.vectors.map Vector.mStorage)
  holds : ∀ handle vector, state.vectors[handle]? = some vector →
    Holds traits state.heap vector (itemsOf values handle)

/-- The storage of the other vectors. -/
def State.others (state : State Item) (handle : Nat) : List (Option Nat) :=
  (state.vectors.eraseIdx handle).map Vector.mStorage

theorem State.mem_others (isOther : state.vectors[otherHandle]? = some other)
    (differs : otherHandle ≠ handle) : other.mStorage ∈ state.others handle :=
  List.mem_map_of_mem (List.mem_eraseIdx_iff_getElem?.mpr ⟨otherHandle, differs, isOther⟩)

theorem Represents.exists_vector (represents : Represents traits state values)
    (inside : handle < values.length) : ∃ vector, state.vectors[handle]? = some vector :=
  ⟨_, List.getElem?_eq_getElem (represents.length ▸ inside)⟩

theorem Represents.owned (represents : Represents traits state values)
    (isVector : state.vectors[handle]? = some vector) :
    Owned traits (state.others handle) state.heap vector (itemsOf values handle) where
  counted := by
    obtain ⟨inside, isVector⟩ := List.getElem?_eq_some_iff.mp isVector
    have perm := (List.getElem_cons_eraseIdx_perm inside).symm.map Vector.mStorage
    rw [isVector] at perm
    exact represents.counted.perm perm
  holds := represents.holds handle vector isVector

theorem itemsOf_set_self (inside : handle < values.length) (items : List Item) :
    itemsOf (values.set handle items) handle = items := by
  rw [itemsOf, List.getElem?_set_self inside]
  rfl

theorem itemsOf_set_ne (differs : otherHandle ≠ handle) (items : List Item) :
    itemsOf (values.set handle items) otherHandle = itemsOf values otherHandle := by
  rw [itemsOf, itemsOf, List.getElem?_set_ne (Ne.symm differs)]

/-- One of the vectors has other items. -/
theorem Represents.set {next : Heap Item} (represents : Represents traits state values)
    (inside : handle < values.length)
    (becomes : Becomes traits (state.others handle) state.heap next vector items) :
    Represents traits ⟨next, state.vectors.set handle vector⟩ (values.set handle items) where
  length := by rw [List.length_set, List.length_set, represents.length]
  counted := by
    have isIn : handle < state.vectors.length := represents.length ▸ inside
    have perm := (List.set_perm_cons_eraseIdx isIn vector).symm.map Vector.mStorage
    exact becomes.owned.counted.perm perm
  holds other found isFound := by
    by_cases same : other = handle
    · subst same
      rw [List.getElem?_set_self (represents.length ▸ inside), Option.some_inj] at isFound
      rw [itemsOf_set_self inside, ← isFound]
      exact becomes.owned.holds
    · rw [List.getElem?_set_ne (Ne.symm same)] at isFound
      rw [itemsOf_set_ne same]
      refine (represents.holds other found isFound).keeps becomes.keeps ?_
      exact fun place storage => storage ▸ State.mem_others isFound same

/-- A vector is added. -/
theorem Represents.concat {next : Heap Item} (represents : Represents traits state values)
    (becomes : Becomes traits (state.vectors.map Vector.mStorage) state.heap next vector items) :
    Represents traits ⟨next, state.vectors ++ [vector]⟩ (values ++ [items]) where
  length := by rw [List.length_append, List.length_append, represents.length]; rfl
  counted := by
    rw [List.map_append]
    exact becomes.owned.counted.perm (List.perm_append_singleton _ _).symm
  holds other found isFound := by
    obtain inside | notInside := Nat.lt_or_ge other state.vectors.length
    · rw [List.getElem?_append_left inside] at isFound
      rw [itemsOf, List.getElem?_append_left (represents.length ▸ inside)]
      refine (represents.holds other found isFound).keeps becomes.keeps ?_
      exact fun place storage =>
        storage ▸ List.mem_map_of_mem (List.mem_of_getElem? isFound)
    · obtain ⟨isIn, -⟩ := List.getElem?_eq_some_iff.mp isFound
      have isLast : other = state.vectors.length := by
        rw [List.length_append, List.length_singleton] at isIn
        omega
      rw [isLast, List.getElem?_concat_length, Option.some_inj] at isFound
      rw [isLast, represents.length, itemsOf, List.getElem?_concat_length, ← isFound]
      exact becomes.owned.holds

/-! ## A call -/

/-- The call changes the items of the vector, and those of no other one. -/
theorem Represents.change {call : Heap Item → Vector → Option (Heap Item × Vector)}
    (represents : Represents traits state values) (inside : handle < values.length)
    (calls : ∀ vector, Owned traits (state.others handle) state.heap vector
        (itemsOf values handle) →
      ∃ next changed, call state.heap vector = some (next, changed) ∧
        Becomes traits (state.others handle) state.heap next changed items) :
    ∃ next, state.change handle call = some next ∧
      Represents traits next (values.set handle items) := by
  obtain ⟨vector, isVector⟩ := represents.exists_vector inside
  obtain ⟨next, changed, isCalled, becomes⟩ := calls vector (represents.owned isVector)
  refine ⟨_, ?_, represents.set inside becomes⟩
  simp only [State.change, isVector, isCalled, Option.bind_eq_bind, Option.bind_some]

theorem Holds.reads_part {heap : Heap Item} (holds : Holds traits heap vector items)
    (first length : Nat) :
    Reads heap (vector.itemLocation first) ((items.drop first).take length) := by
  by_cases isEmpty : (items.drop first).take length = []
  · rw [isEmpty]
    trivial
  · have isInside : first ≤ items.length := by
      by_contra behind
      rw [List.drop_eq_nil_of_le (by omega), List.take_nil] at isEmpty
      exact isEmpty rfl
    have parts : items = items.take first ++ (items.drop first).take length ++
        (items.drop first).drop length := by
      rw [List.append_assoc, List.take_append_drop, List.take_append_drop]
    rw [parts] at holds
    exact reads_itemLocation holds isEmpty (List.length_take_of_le isInside).symm

/-- The items of an argument are read at its address. -/
theorem Represents.exists_pointer {source : Source Item} {length : Nat}
    (represents : Represents traits state values) (handle : Nat)
    (readable : source.Readable values length) :
    ∃ pointer, state.pointer source = some pointer ∧
      ((source.items values).take length).length = length ∧
      Reads state.heap pointer ((source.items values).take length) ∧
      (source.NotIn handle → pointer.Foreign (state.others handle)) := by
  cases source with
  | outside items =>
      refine ⟨.outside items, rfl, List.length_take_of_le readable, ?_, fun _ => trivial⟩
      have reads := reads_outside state.heap (items.take length) (items.drop length)
      rw [List.take_append_drop] at reads
      exact reads
  | within other first =>
      obtain ⟨inside, enough⟩ := readable
      obtain ⟨vector, isVector⟩ := represents.exists_vector inside
      have holds := represents.holds other vector isVector
      refine ⟨vector.itemLocation first, by rw [State.pointer, isVector]; rfl, ?_, ?_, ?_⟩
      · rw [Source.items, List.length_take_of_le]
        rw [List.length_drop]
        omega
      · exact holds.reads_part first length
      · exact fun differs => itemLocation_foreign (State.mem_others isVector differs) first

/-- The items stay as they are. -/
theorem Owned.unchanged {others : List (Option Nat)} {heap : Heap Item}
    (owned : Owned traits others heap vector items) :
    Becomes traits others heap heap vector items :=
  ⟨owned, .refl _ _ _⟩

end VectorImpl
end Skplat
