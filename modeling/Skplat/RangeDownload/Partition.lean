import Mathlib.Algebra.Order.Ring.Int
import Mathlib.Data.List.Basic
import Skplat.Data.MachineInt

/-!
# Dividing a download into ranges

`divdeContentLength` gives every downloader the same number of bytes and the last
one the remainder as well.  The running start is an `int`, which holds the length
of every content because the length was read with `atoi`.
-/

namespace Skplat
namespace RangeManager

open MachineInt (toInt32 toInt32_of_nonneg)

/-- The fields of a `Range` that the division sets.  `last` is the field `end`. -/
structure Range where
  begin : Int
  last : Int
  total : Int
  idx : Nat
  deriving DecidableEq, Repr

/-- `mDownloadCount`. -/
def downloadCount (content : Nat) : Nat :=
  if content < 2 * 1024 * 1024 then 2
  else if content < 8 * 1024 * 1024 then 3
  else if content < 16 * 1024 * 1024 then 4
  else 6

/-- The loop that creates the ranges from `mRanges[i]` on. -/
def divideLoop (avg : Nat) : (left i : Nat) → (start : Int) → List Range
  | 0, _, _ => []
  | left + 1, i, start =>
      { begin := start, last := start + avg - 1, total := avg, idx := i } ::
        divideLoop avg left (i + 1) (toInt32 (start + avg))

/-- The remainder is added to a range. -/
def Range.extend (model : Nat) (range : Range) : Range :=
  { range with last := range.last + model, total := range.total + model }

/-- `divdeContentLength()`. -/
def divdeContentLength (content : Nat) : List Range :=
  (divideLoop (content / downloadCount content) (downloadCount content) 0 0).modify
    (downloadCount content - 1) (Range.extend (content % downloadCount content))

/-- A length that `atoi` can return. -/
def Fits (content : Nat) : Prop := content < 2 ^ 31

instance (content : Nat) : Decidable (Fits content) :=
  inferInstanceAs (Decidable (_ < _))

theorem downloadCount_pos (content : Nat) : 0 < downloadCount content := by
  unfold downloadCount
  split_ifs <;> decide

/-! ## Intervals side by side -/

/-- The ranges follow each other without a gap, and their totals are right. -/
def Tiles : (low : Int) → List Range → (high : Int) → Prop
  | low, [], high => low = high
  | low, range :: rest, high =>
      range.begin = low ∧ low ≤ range.last + 1 ∧
        range.total = range.last - range.begin + 1 ∧
        Tiles (range.last + 1) rest high

namespace Tiles

variable {low high : Int} {ranges : List Range}

theorem le (tiles : Tiles low ranges high) : low ≤ high := by
  induction ranges generalizing low with
  | nil => exact le_of_eq tiles
  | cons range rest inductionHypothesis =>
      exact tiles.2.1.trans (inductionHypothesis tiles.2.2.2)

theorem total (tiles : Tiles low ranges high) :
    ∀ range ∈ ranges, range.total = range.last - range.begin + 1 := by
  induction ranges generalizing low with
  | nil => simp
  | cons range rest inductionHypothesis =>
      rw [List.forall_mem_cons]
      exact ⟨tiles.2.2.1, inductionHypothesis tiles.2.2.2⟩

/-- Every range begins and ends inside. -/
theorem inside (tiles : Tiles low ranges high) :
    ∀ range ∈ ranges, low ≤ range.begin ∧ range.begin ≤ range.last + 1 ∧
      range.last + 1 ≤ high := by
  induction ranges generalizing low with
  | nil => simp
  | cons range rest inductionHypothesis =>
      obtain ⟨begins, nonneg, _, later⟩ := tiles
      rw [List.forall_mem_cons]
      have reaches := later.le
      refine ⟨⟨by omega, by omega, by omega⟩, ?_⟩
      intro other present
      have otherInside := inductionHypothesis later other present
      omega

theorem disjoint (tiles : Tiles low ranges high) :
    ranges.Pairwise fun earlier later => earlier.last < later.begin := by
  induction ranges generalizing low with
  | nil => exact .nil
  | cons range rest inductionHypothesis =>
      obtain ⟨_, _, _, later⟩ := tiles
      refine .cons ?_ (inductionHypothesis later)
      intro other present
      have otherInside := later.inside other present
      omega

theorem covers (tiles : Tiles low ranges high) (k : Int) :
    (∃ range ∈ ranges, range.begin ≤ k ∧ k ≤ range.last) ↔ low ≤ k ∧ k < high := by
  induction ranges generalizing low with
  | nil =>
      obtain rfl : low = high := tiles
      simp
  | cons range rest inductionHypothesis =>
      obtain ⟨begins, nonneg, _, later⟩ := tiles
      have reaches := later.le
      rw [List.exists_mem_cons_iff, inductionHypothesis later]
      omega

theorem contiguous
    (tiles : Tiles low ranges high) {i : Nat} {range next : Range}
    (place : ranges[i]? = some range) (nextPlace : ranges[i + 1]? = some next) :
    next.begin = range.last + 1 := by
  induction ranges generalizing low i with
  | nil => simp at place
  | cons head rest inductionHypothesis =>
      obtain ⟨_, _, _, later⟩ := tiles
      cases i with
      | zero =>
          cases place
          cases rest with
          | nil => simp at nextPlace
          | cons second rest =>
              cases nextPlace
              exact later.1
      | succ i =>
          exact inductionHypothesis later (by simpa using place)
            (by simpa using nextPlace)

/-- Extending the last range extends the whole. -/
theorem extend
    (tiles : Tiles low ranges high) (nonempty : ranges ≠ []) (model : Nat) :
    Tiles low (ranges.modify (ranges.length - 1) (Range.extend model))
      (high + model) := by
  induction ranges generalizing low with
  | nil => exact absurd rfl nonempty
  | cons range rest inductionHypothesis =>
      obtain ⟨begins, nonneg, total, later⟩ := tiles
      cases rest with
      | nil =>
          obtain rfl : range.last + 1 = high := later
          simp only [List.length_cons, List.length_nil, Nat.zero_add, Nat.sub_self,
            List.modify_zero_cons, Tiles, Range.extend]
          omega
      | cons second rest =>
          have extended := inductionHypothesis later (by simp)
          rw [show (range :: second :: rest).length - 1 =
            ((second :: rest).length - 1) + 1 by simp, List.modify_succ_cons]
          exact ⟨begins, nonneg, total, extended⟩

end Tiles

theorem length_divideLoop (avg left i : Nat) (start : Int) :
    (divideLoop avg left i start).length = left := by
  induction left generalizing i start with
  | zero => rfl
  | succ left inductionHypothesis =>
      rw [divideLoop, List.length_cons, inductionHypothesis]

/-- As long as the running start does not overflow, the loop tiles. -/
theorem tiles_divideLoop
    {avg left i : Nat} {start : Int}
    (nonneg : 0 ≤ start) (small : start + left * avg < 2 ^ 31) :
    Tiles start (divideLoop avg left i start) (start + left * avg) := by
  induction left generalizing i start with
  | zero => simp [divideLoop, Tiles]
  | succ left inductionHypothesis =>
      have split : ((left + 1 : Nat) : Int) * avg = avg + left * avg := by
        rw [Int.natCast_succ, Int.add_mul, Int.one_mul, Int.add_comm]
      have rest : (0 : Int) ≤ left * avg :=
        Int.mul_nonneg (Int.natCast_nonneg left) (Int.natCast_nonneg avg)
      have kept : toInt32 (start + avg) = start + avg :=
        toInt32_of_nonneg (by omega) (by omega)
      have later : Tiles (start + avg) (divideLoop avg left (i + 1) (start + avg))
          (start + avg + left * avg) := inductionHypothesis (by omega) (by omega)
      rw [divideLoop, kept, split, ← Int.add_assoc]
      refine ⟨rfl, by dsimp only; omega, by dsimp only; omega, ?_⟩
      simpa using later

theorem tiles_divdeContentLength {content : Nat} (fits : Fits content) :
    Tiles 0 (divdeContentLength content) content := by
  have divided := Nat.div_add_mod content (downloadCount content)
  have whole : (0 : Int) + downloadCount content *
      (content / downloadCount content : Nat) =
        content - (content % downloadCount content : Nat) := by
    rw [← Int.natCast_mul]
    omega
  have bound := fits
  unfold Fits at bound
  have loop : Tiles 0
      (divideLoop (content / downloadCount content) (downloadCount content) 0 0)
      (0 + downloadCount content * (content / downloadCount content : Nat)) :=
    tiles_divideLoop (Int.le_refl 0) (by omega)
  have extended := loop.extend
    (by
      intro empty
      have count := length_divideLoop (content / downloadCount content)
        (downloadCount content) 0 0
      rw [empty] at count
      exact absurd count.symm (downloadCount_pos content).ne')
    (content % downloadCount content)
  rw [whole, length_divideLoop] at extended
  rw [divdeContentLength]
  simpa using extended

theorem idx_divideLoop
    {avg left i : Nat} {start : Int} {k : Nat} {range : Range}
    (place : (divideLoop avg left i start)[k]? = some range) :
    range.idx = i + k := by
  induction left generalizing i start k with
  | zero => simp [divideLoop] at place
  | succ left inductionHypothesis =>
      rw [divideLoop] at place
      cases k with
      | zero =>
          cases place
          rfl
      | succ k =>
          have later := inductionHypothesis (by simpa using place)
          omega

/-- The ranges are numbered. -/
theorem idx_divdeContentLength
    {content k : Nat} {range : Range}
    (place : (divdeContentLength content)[k]? = some range) :
    range.idx = k := by
  rw [divdeContentLength, List.getElem?_modify] at place
  obtain ⟨before, beforePlace, rfl⟩ := Option.map_eq_some_iff.mp place
  have number := idx_divideLoop beforePlace
  split
  · simpa [Range.extend] using number
  · simpa using number

/-- The ranges are contiguous and disjoint, cover the content exactly and have the
right totals. -/
structure Divides (content : Int) (ranges : List Range) : Prop where
  first : ∀ range, ranges.head? = some range → range.begin = 0
  contiguous : ∀ i range next, ranges[i]? = some range →
    ranges[i + 1]? = some next → next.begin = range.last + 1
  disjoint : ranges.Pairwise fun earlier later => earlier.last < later.begin
  covers : ∀ k, (∃ range ∈ ranges, range.begin ≤ k ∧ k ≤ range.last) ↔
    0 ≤ k ∧ k < content
  total : ∀ range ∈ ranges, range.total = range.last - range.begin + 1

theorem divides_divdeContentLength {content : Nat} (fits : Fits content) :
    Divides content (divdeContentLength content) := by
  have tiles := tiles_divdeContentLength fits
  refine ⟨?_, fun i range next => tiles.contiguous, tiles.disjoint, tiles.covers,
    tiles.total⟩
  intro range isFirst
  cases ranges : divdeContentLength content with
  | nil => simp [ranges] at isFirst
  | cons head rest =>
      rw [ranges] at tiles isFirst
      cases isFirst
      exact tiles.1

end RangeManager
end Skplat
