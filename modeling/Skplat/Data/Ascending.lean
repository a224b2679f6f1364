import Skplat.Data.StableSort

/-!
# Ascending lists

Lists in which each item is less than those behind it, for a relation that may leave two items
incomparable.  Such a list has no two items of which neither is less.
-/

namespace Skplat

variable {α : Type*} {less : α → α → Bool} {items lower upper : List α} {item same : α}

/-- Each item is less than those behind it. -/
def Ascending (less : α → α → Bool) (items : List α) : Prop :=
  items.Pairwise fun first second => less first second = true

/-- Neither item is less. -/
def Alike (less : α → α → Bool) (first second : α) : Prop :=
  less first second = false ∧ less second first = false

/-- The item takes the place of one that is alike. -/
def place (less : α → α → Bool) (items : List α) (item : α) : List α :=
  items.filter (less · item) ++ item :: items.filter (less item ·)

/-- Those that are alike are left out. -/
def without (less : α → α → Bool) (items : List α) (item : α) : List α :=
  items.filter (less · item) ++ items.filter (less item ·)

namespace IsComparison

theorem less_trans (comparison : IsComparison less) {first second third : α}
    (firstLess : less first second = true) (secondLess : less second third = true) :
    less first third = true := by
  by_contra notLess
  have notThird := comparison.asymm second third secondLess
  have notFirst := comparison.trans first third second (Bool.eq_false_iff.mpr notLess) notThird
  exact Bool.false_ne_true (notFirst.symm.trans firstLess)

theorem less_of_alike_right (comparison : IsComparison less) {first : α}
    (isLess : less first same = true) (alike : Alike less same item) : less first item = true := by
  by_contra notLess
  have notSame := comparison.trans first item same (Bool.eq_false_iff.mpr notLess) alike.2
  exact Bool.false_ne_true (notSame.symm.trans isLess)

theorem less_of_alike_left (comparison : IsComparison less) {last : α}
    (isLess : less same last = true) (alike : Alike less same item) : less item last = true := by
  by_contra notLess
  have notSame := comparison.trans same item last alike.1 (Bool.eq_false_iff.mpr notLess)
  exact Bool.false_ne_true (notSame.symm.trans isLess)

end IsComparison

/-- At most one item more. -/
theorem length_place_le (comparison : IsComparison less) (items : List α) (item : α) :
    (place less items item).length ≤ items.length + 1 := by
  have parts : (items.filter (less · item)).length + (items.filter (less item ·)).length ≤
      items.length := by
    induction items with
    | nil => exact Nat.le_refl 0
    | cons other rest ih =>
        rw [List.filter_cons, List.filter_cons]
        cases isLess : less other item with
        | true =>
            rw [comparison.asymm other item isLess]
            simp only [if_true, Bool.false_eq_true, if_false, List.length_cons]
            omega
        | false =>
            cases less item other with
            | true | false =>
                simp only [if_true, Bool.false_eq_true, if_false, List.length_cons]
                omega
  rw [place, List.length_append, List.length_cons]
  omega

/-- Where an item belongs in a list. -/
structure Between (less : α → α → Bool) (lower : List α) (item : α) (upper : List α) : Prop where
  below : ∀ other ∈ lower, less other item = true
  above : ∀ other ∈ upper, less item other = true

namespace Between

theorem filter_less (between : Between less lower item upper) (comparison : IsComparison less)
    (middle : List α) (alike : ∀ other ∈ middle, Alike less other item) :
    (lower ++ middle ++ upper).filter (less · item) = lower := by
  have notMiddle : middle.filter (less · item) = [] :=
    List.filter_eq_nil_iff.mpr fun other present => Bool.eq_false_iff.mp (alike other present).1
  have notUpper : upper.filter (less · item) = [] :=
    List.filter_eq_nil_iff.mpr fun other present =>
      Bool.eq_false_iff.mp (comparison.asymm item other (between.above other present))
  rw [List.filter_append, List.filter_append, notMiddle, notUpper,
    List.filter_eq_self.mpr between.below, List.append_nil, List.append_nil]

theorem filter_greater (between : Between less lower item upper) (comparison : IsComparison less)
    (middle : List α) (alike : ∀ other ∈ middle, Alike less other item) :
    (lower ++ middle ++ upper).filter (less item ·) = upper := by
  have notMiddle : middle.filter (less item ·) = [] :=
    List.filter_eq_nil_iff.mpr fun other present => Bool.eq_false_iff.mp (alike other present).2
  have notLower : lower.filter (less item ·) = [] :=
    List.filter_eq_nil_iff.mpr fun other present =>
      Bool.eq_false_iff.mp (comparison.asymm other item (between.below other present))
  rw [List.filter_append, List.filter_append, notMiddle, notLower,
    List.filter_eq_self.mpr between.above, List.append_nil, List.nil_append]

theorem place_eq (between : Between less lower item upper) (comparison : IsComparison less)
    (middle : List α) (alike : ∀ other ∈ middle, Alike less other item) :
    place less (lower ++ middle ++ upper) item = lower ++ item :: upper := by
  rw [place, between.filter_less comparison middle alike,
    between.filter_greater comparison middle alike]

theorem without_eq (between : Between less lower item upper) (comparison : IsComparison less)
    (middle : List α) (alike : ∀ other ∈ middle, Alike less other item) :
    without less (lower ++ middle ++ upper) item = lower ++ upper := by
  rw [without, between.filter_less comparison middle alike,
    between.filter_greater comparison middle alike]

end Between

namespace Ascending

theorem append_iff :
    Ascending less (lower ++ upper) ↔ Ascending less lower ∧ Ascending less upper ∧
      ∀ first ∈ lower, ∀ second ∈ upper, less first second = true :=
  List.pairwise_append

theorem cons_iff : Ascending less (item :: items) ↔
    (∀ other ∈ items, less item other = true) ∧ Ascending less items :=
  List.pairwise_cons

theorem filter (ascending : Ascending less items) (keeps : α → Bool) :
    Ascending less (items.filter keeps) :=
  List.Pairwise.sublist List.filter_sublist ascending

theorem place (ascending : Ascending less items) (comparison : IsComparison less) (item : α) :
    Ascending less (place less items item) := by
  refine append_iff.mpr ⟨ascending.filter _, cons_iff.mpr ⟨?_, ascending.filter _⟩, ?_⟩
  · exact fun other present => (List.mem_filter.mp present).2
  · intro first isFirst second isSecond
    have firstLess : less first item = true := (List.mem_filter.mp isFirst).2
    obtain rfl | isSecond := List.mem_cons.mp isSecond
    · exact firstLess
    · exact comparison.less_trans firstLess (List.mem_filter.mp isSecond).2

theorem without (ascending : Ascending less items) (comparison : IsComparison less) (item : α) :
    Ascending less (without less items item) :=
  append_iff.mpr ⟨ascending.filter _, ascending.filter _, fun _ isFirst _ isSecond =>
    comparison.less_trans (List.mem_filter.mp isFirst).2 (List.mem_filter.mp isSecond).2⟩

theorem foldl_without (ascending : Ascending less items) (comparison : IsComparison less)
    (more : List α) : Ascending less (more.foldl (Skplat.without less) items) := by
  induction more generalizing items with
  | nil => exact ascending
  | cons item rest ih => exact ih (ascending.without comparison item)

/-- Items are less than another one up to some item of the list. -/
theorem between_of_alike (ascending : Ascending less (lower ++ same :: upper))
    (comparison : IsComparison less) (alike : Alike less same item) :
    Between less lower item upper := by
  obtain ⟨-, upperAscending, across⟩ := append_iff.mp ascending
  refine ⟨fun other present => ?_, fun other present => ?_⟩
  · exact comparison.less_of_alike_right (across other present same List.mem_cons_self) alike
  · exact comparison.less_of_alike_left ((cons_iff.mp upperAscending).1 other present) alike

end Ascending

/-! ## Many items -/

/-- Items are placed one after the other. -/
def placeAll (less : α → α → Bool) (items more : List α) : List α :=
  more.foldl (place less) items

theorem Ascending.placeAll (ascending : Ascending less items) (comparison : IsComparison less)
    (more : List α) : Ascending less (placeAll less items more) := by
  induction more generalizing items with
  | nil => exact ascending
  | cons item rest ih => exact ih (ascending.place comparison item)

end Skplat
