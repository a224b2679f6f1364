import Mathlib.Data.List.Basic

/-!
# Cells that are shared by counting references

A heap is a list of cells, of which a freed one is `none`; a new cell is appended, so no place is
used twice.  Each owner refers to one cell or to none, and the reference count of a cell is the
number of owners that refer to it.
-/

namespace Skplat

variable {Cell View : Type*} {refs : Cell → Nat} {view : Cell → View}
variable {cells next last : List (Option Cell)} {owners : List (Option Nat)} {place : Nat}
variable {cell replaced : Cell}

/-- The reference counts are the numbers of owners, and each cell has an owner. -/
structure Counted (refs : Cell → Nat) (cells : List (Option Cell)) (owners : List (Option Nat)) :
    Prop where
  live : ∀ place, some place ∈ owners → ∃ cell, cells[place]? = some (some cell)
  counts : ∀ place cell, cells[place]? = some (some cell) →
    refs cell = owners.count (some place) ∧ 0 < refs cell

namespace Counted

theorem new : Counted refs ([] : List (Option Cell)) [] :=
  ⟨fun _ owned => absurd owned List.not_mem_nil, fun _ _ found => nomatch found⟩

theorem perm {others : List (Option Nat)} (counted : Counted refs cells owners)
    (same : owners.Perm others) : Counted refs cells others where
  live place owned := counted.live place (same.mem_iff.mpr owned)
  counts place cell found := by
    rw [← same.count_eq]
    exact counted.counts place cell found

/-- An owner that refers to no cell does not count. -/
theorem cons_none : Counted refs cells (none :: owners) ↔ Counted refs cells owners := by
  constructor
  · intro counted
    refine ⟨fun place owned => counted.live place (List.mem_cons_of_mem _ owned), ?_⟩
    intro place cell found
    rw [← List.count_cons_of_ne (show none ≠ some place from nofun)]
    exact counted.counts place cell found
  · intro counted
    refine ⟨fun place owned => ?_, fun place cell found => ?_⟩
    · obtain same | owned := List.mem_cons.mp owned
      · cases same
      · exact counted.live place owned
    · rw [List.count_cons_of_ne (show none ≠ some place from nofun)]
      exact counted.counts place cell found

theorem lt_length (counted : Counted refs cells owners) (owned : some place ∈ owners) :
    place < cells.length := by
  obtain ⟨cell, found⟩ := counted.live place owned
  exact (List.getElem?_eq_some_iff.mp found).1

/-- The new cell has one owner. -/
theorem alloc (counted : Counted refs cells owners) (one : refs cell = 1) :
    Counted refs (cells ++ [some cell]) (some cells.length :: owners) := by
  have fresh : some cells.length ∉ owners := fun owned =>
    absurd (counted.lt_length owned) (Nat.lt_irrefl _)
  refine ⟨fun place owned => ?_, fun place found isFound => ?_⟩
  · obtain same | owned := List.mem_cons.mp owned
    · cases same
      exact ⟨cell, List.getElem?_concat_length⟩
    · obtain ⟨found, isFound⟩ := counted.live place owned
      refine ⟨found, ?_⟩
      rw [List.getElem?_append_left (counted.lt_length owned), isFound]
  · obtain before | rfl | after := Nat.lt_trichotomy place cells.length
    · rw [List.getElem?_append_left before] at isFound
      rw [List.count_cons_of_ne (fun same => Nat.ne_of_lt before (Option.some.inj same).symm)]
      exact counted.counts place found isFound
    · rw [List.getElem?_concat_length] at isFound
      cases isFound
      rw [List.count_cons_self, List.count_eq_zero_of_not_mem fresh, one]
      exact ⟨rfl, Nat.zero_lt_one⟩
    · rw [List.getElem?_eq_none (by rw [List.length_append]; exact after)] at isFound
      cases isFound

/-- A cell is replaced, and the others stay. -/
theorem set_cases {content : Option Cell} {other : Nat} {found : Cell}
    (isCell : cells[place]? = some (some cell))
    (isFound : (cells.set place content)[other]? = some (some found)) :
    (other = place ∧ content = some found) ∨
      (other ≠ place ∧ cells[other]? = some (some found)) := by
  obtain ⟨inside, -⟩ := List.getElem?_eq_some_iff.mp isCell
  by_cases same : other = place
  · subst same
    rw [List.getElem?_set_self inside, Option.some_inj] at isFound
    exact Or.inl ⟨rfl, isFound⟩
  · rw [List.getElem?_set_ne (Ne.symm same)] at isFound
    exact Or.inr ⟨same, isFound⟩

/-- The count of a cell changes with the owners. -/
theorem set {others : List (Option Nat)} (counted : Counted refs cells owners)
    (isCell : cells[place]? = some (some cell))
    (same : ∀ other ≠ place, others.count (some other) = owners.count (some other))
    (counts : refs replaced = others.count (some place)) (positive : 0 < refs replaced) :
    Counted refs (cells.set place (some replaced)) others := by
  obtain ⟨inside, -⟩ := List.getElem?_eq_some_iff.mp isCell
  refine ⟨fun other owned => ?_, fun other found isFound => ?_⟩
  · by_cases isPlace : other = place
    · subst isPlace
      exact ⟨replaced, List.getElem?_set_self inside⟩
    · rw [List.getElem?_set_ne (Ne.symm isPlace)]
      refine counted.live other (List.count_pos_iff.mp ?_)
      rw [← same other isPlace]
      exact List.count_pos_iff.mpr owned
  · obtain ⟨rfl, content⟩ | ⟨notPlace, old⟩ := set_cases isCell isFound
    · cases content
      exact ⟨counts, positive⟩
    · rw [same other notPlace]
      exact counted.counts other found old

/-- What is written into a cell does not count. -/
theorem write (counted : Counted refs cells owners)
    (isCell : cells[place]? = some (some cell)) (same : refs replaced = refs cell) :
    Counted refs (cells.set place (some replaced)) owners := by
  obtain ⟨counts, positive⟩ := counted.counts place cell isCell
  exact counted.set isCell (fun _ _ => rfl) (same.trans counts) (same ▸ positive)

/-- One more owner refers to the cell. -/
theorem acquire (counted : Counted refs cells owners)
    (isCell : cells[place]? = some (some cell)) (more : refs replaced = refs cell + 1) :
    Counted refs (cells.set place (some replaced)) (some place :: owners) := by
  obtain ⟨counts, -⟩ := counted.counts place cell isCell
  refine counted.set isCell (fun other notPlace => ?_) ?_ (by omega)
  · exact List.count_cons_of_ne fun same => notPlace (Option.some.inj same).symm
  · rw [List.count_cons_self]
    omega

/-- An owner that is not the last one lets the cell go. -/
theorem release (counted : Counted refs cells (some place :: owners))
    (isCell : cells[place]? = some (some cell)) (less : refs replaced + 1 = refs cell)
    (notLast : refs cell ≠ 1) : Counted refs (cells.set place (some replaced)) owners := by
  obtain ⟨counts, -⟩ := counted.counts place cell isCell
  rw [List.count_cons_self] at counts
  refine counted.set isCell (fun other notPlace => ?_) (by omega) (by omega)
  exact (List.count_cons_of_ne fun same => notPlace (Option.some.inj same).symm).symm

/-- The count is one if and only if nobody else refers to the cell. -/
theorem eq_one_iff (counted : Counted refs cells (some place :: owners))
    (isCell : cells[place]? = some (some cell)) : refs cell = 1 ↔ some place ∉ owners := by
  obtain ⟨counts, -⟩ := counted.counts place cell isCell
  rw [List.count_cons_self] at counts
  rw [← List.count_eq_zero]
  omega

/-- The last owner frees the cell. -/
theorem free (counted : Counted refs cells (some place :: owners))
    (isCell : cells[place]? = some (some cell)) (notOwned : some place ∉ owners) :
    Counted refs (cells.set place none) owners := by
  refine ⟨fun other owned => ?_, fun other found isFound => ?_⟩
  · rw [List.getElem?_set_ne fun same : place = other => notOwned (same ▸ owned)]
    exact counted.live other (List.mem_cons_of_mem _ owned)
  · obtain ⟨-, content⟩ | ⟨notPlace, old⟩ := set_cases isCell isFound
    · cases content
    · have counts := counted.counts other found old
      rw [List.count_cons_of_ne fun same => notPlace (Option.some.inj same).symm] at counts
      exact counts

end Counted

/-! ## What the owners see -/

/-- What some owners see of their cells stays the same. -/
def KeepsFor (view : Cell → View) (owners : List (Option Nat))
    (cells next : List (Option Cell)) : Prop :=
  ∀ place, some place ∈ owners → ∀ cell, cells[place]? = some (some cell) →
    ∃ kept, next[place]? = some (some kept) ∧ view kept = view cell

namespace KeepsFor

theorem refl (view : Cell → View) (owners : List (Option Nat)) (cells : List (Option Cell)) :
    KeepsFor view owners cells cells :=
  fun _ _ cell found => ⟨cell, found, rfl⟩

theorem trans (first : KeepsFor view owners cells next)
    (second : KeepsFor view owners next last) : KeepsFor view owners cells last := by
  intro place owned cell found
  obtain ⟨kept, isKept, same⟩ := first place owned cell found
  obtain ⟨again, isAgain, sameAgain⟩ := second place owned kept isKept
  exact ⟨again, isAgain, sameAgain.trans same⟩

theorem mono {others : List (Option Nat)} (keeps : KeepsFor view owners cells next)
    (fewer : ∀ place, some place ∈ others → some place ∈ owners) :
    KeepsFor view others cells next :=
  fun place owned => keeps place (fewer place owned)

theorem append (view : Cell → View) (owners : List (Option Nat)) (cells : List (Option Cell))
    (more : List (Option Cell)) : KeepsFor view owners cells (cells ++ more) := by
  intro place _ cell found
  obtain ⟨inside, -⟩ := List.getElem?_eq_some_iff.mp found
  exact ⟨cell, (List.getElem?_append_left inside).trans found, rfl⟩

/-- A cell changes that none of the owners refers to. -/
theorem set_of_not_mem {content : Option Cell} (notOwned : some place ∉ owners) :
    KeepsFor view owners cells (cells.set place content) := by
  intro other owned cell found
  refine ⟨cell, ?_, rfl⟩
  rw [List.getElem?_set_ne fun same : place = other => notOwned (same ▸ owned), found]

/-- A cell changes, and what is seen of it stays the same. -/
theorem set_of_same (isCell : cells[place]? = some (some cell))
    (same : view replaced = view cell) :
    KeepsFor view owners cells (cells.set place (some replaced)) := by
  intro other _ found isFound
  by_cases isPlace : other = place
  · subst isPlace
    cases isCell.symm.trans isFound
    exact ⟨replaced, List.getElem?_set_self (List.getElem?_eq_some_iff.mp isCell).1, same⟩
  · exact ⟨found, (List.getElem?_set_ne (Ne.symm isPlace)).trans isFound, rfl⟩

end KeepsFor

end Skplat
