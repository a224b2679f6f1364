import Skplat.LruCache.Defs
import Mathlib.Data.List.Induction

/-!
# The victim of `shrinkCache`

`shrinkCache` should remove the entry with the oldest time.  Its second loop compares
with the first time it has found and never with the best one, it compares the empty
buckets as well, and it keeps the last hit.  So the victim is right only if an oldest
entry stands behind the first entry and all buckets behind it are in use with times that
are not smaller than the first one.
-/

namespace Skplat
namespace LruCache

/-- A loop that keeps the last hit finds the greatest one. -/
theorem foldl_last_eq_some_iff
    {Index : Type*} [LinearOrder Index]
    {test : Index → Prop} [DecidablePred test]
    {indices : List Index}
    (sorted : indices.Pairwise (· < ·))
    {last : Index} :
    indices.foldl (fun found index => if test index then some index else found) none =
        some last ↔
      last ∈ indices ∧ test last ∧ ∀ index ∈ indices, test index → index ≤ last := by
  induction indices using List.reverseRecOn with
  | nil => simp
  | append_singleton rest index inductionHypothesis =>
      rw [List.pairwise_append] at sorted
      obtain ⟨restSorted, _, below⟩ := sorted
      rw [List.foldl_append, List.foldl_cons, List.foldl_nil]
      split
      · rename_i hit
        constructor
        · intro isLast
          cases isLast
          refine ⟨by simp, hit, ?_⟩
          intro other present _
          rw [List.mem_append, List.mem_singleton] at present
          cases present with
          | inl inRest => exact (below other inRest _ (by simp)).le
          | inr same => exact same.le
        · rintro ⟨present, _, greatest⟩
          rw [List.mem_append, List.mem_singleton] at present
          cases present with
          | inl inRest =>
              have above : index ≤ last := greatest index (by simp) hit
              exact absurd (below last inRest index (by simp)) above.not_gt
          | inr same => rw [same]
      · rename_i miss
        rw [inductionHypothesis restSorted]
        constructor
        · rintro ⟨present, hit, greatest⟩
          refine ⟨by simp [present], hit, ?_⟩
          intro other otherPresent otherHit
          rw [List.mem_append, List.mem_singleton] at otherPresent
          cases otherPresent with
          | inl inRest => exact greatest other inRest otherHit
          | inr same => exact absurd (same ▸ otherHit) miss
        · rintro ⟨present, hit, greatest⟩
          rw [List.mem_append, List.mem_singleton] at present
          cases present with
          | inl inRest =>
              exact ⟨inRest, hit, fun other otherPresent =>
                greatest other (by simp [otherPresent])⟩
          | inr same => exact absurd (same ▸ hit) miss

variable {Key Value : Type*} {cap : ℕ}

namespace Cache

variable {cache : Cache Key Value cap}

/-- The first bucket with a time. -/
structure FirstUsed (cache : Cache Key Value cap) (first : Fin cap) : Prop where
  used : cache.mElapses first ≠ 0
  unused : ∀ idx < first, cache.mElapses idx = 0

/-- A bucket with a time that no other time is less than. -/
structure Oldest (cache : Cache Key Value cap) (idx : Fin cap) : Prop where
  used : cache.mElapses idx ≠ 0
  least : ∀ other, cache.mElapses other ≠ 0 → cache.mElapses idx ≤ cache.mElapses other

/-- An oldest bucket stands behind the first bucket in use, its time is less than the
first time as an `int`, and no bucket behind it has a number less than that. -/
def EvictsOldest (cache : Cache Key Value cap) : Prop :=
  ∃ first idx, cache.FirstUsed first ∧ cache.Oldest idx ∧ first < idx ∧
    cache.mElapses idx < Int.bmod (cache.mElapses first) (2 ^ 32) ∧
    ∀ other, idx < other →
      Int.bmod (cache.mElapses first) (2 ^ 32) ≤ cache.mElapses other

instance (first : Fin cap) : Decidable (cache.FirstUsed first) :=
  decidable_of_iff (cache.mElapses first ≠ 0 ∧ ∀ idx < first, cache.mElapses idx = 0)
    ⟨fun holds => ⟨holds.1, holds.2⟩, fun holds => ⟨holds.used, holds.unused⟩⟩

instance (idx : Fin cap) : Decidable (cache.Oldest idx) :=
  decidable_of_iff (cache.mElapses idx ≠ 0 ∧ ∀ other, cache.mElapses other ≠ 0 →
      cache.mElapses idx ≤ cache.mElapses other)
    ⟨fun holds => ⟨holds.1, holds.2⟩, fun holds => ⟨holds.used, holds.least⟩⟩

instance : Decidable cache.EvictsOldest :=
  inferInstanceAs (Decidable (∃ first idx, cache.FirstUsed first ∧ cache.Oldest idx ∧
    first < idx ∧ cache.mElapses idx < Int.bmod (cache.mElapses first) (2 ^ 32) ∧
    ∀ other, idx < other →
      Int.bmod (cache.mElapses first) (2 ^ 32) ≤ cache.mElapses other))

/-- The bucket that the two loops of `shrinkCache` end with. -/
theorem hashIdx_eq_some_iff
    {idx : Fin cap} :
    cache.hashIdx = some idx ↔
      ∃ first, cache.FirstUsed first ∧ first ≤ idx ∧
        cache.mElapses idx < Int.bmod (cache.mElapses first) (2 ^ 32) ∧
        ∀ other, first ≤ other →
          cache.mElapses other < Int.bmod (cache.mElapses first) (2 ^ 32) →
          other ≤ idx := by
  have sorted : ∀ first : Fin cap,
      ((List.finRange cap).filter fun i => first ≤ i).Pairwise (· < ·) :=
    fun first => (List.pairwise_lt_finRange cap).filter _
  unfold hashIdx
  rw [Option.bind_eq_some_iff]
  constructor
  · rintro ⟨first, found, scanned⟩
    obtain ⟨used, unused⟩ := Fin.find?_eq_some_iff.mp found
    rw [foldl_last_eq_some_iff (sorted first)] at scanned
    obtain ⟨present, less, greatest⟩ := scanned
    refine ⟨first, ⟨of_decide_eq_true used, ?_⟩, ?_, less, ?_⟩
    · intro other below
      exact not_not.mp (of_decide_eq_false (unused other below))
    · exact of_decide_eq_true (List.mem_filter.mp present).2
    · intro other above otherLess
      exact greatest other (by simp [above]) otherLess
  · rintro ⟨first, isFirst, above, less, greatest⟩
    refine ⟨first, ?_, ?_⟩
    · rw [Fin.find?_eq_some_iff]
      exact ⟨decide_eq_true isFirst.used,
        fun other below => decide_eq_false (not_not.mpr (isFirst.unused other below))⟩
    · rw [foldl_last_eq_some_iff (sorted first)]
      refine ⟨by simp [above], less, ?_⟩
      intro other present otherLess
      exact greatest other (of_decide_eq_true (List.mem_filter.mp present).2) otherLess

/-- A number is not less than the same number as an `int`. -/
theorem bmod_le_self
    {time : Int}
    (nonnegative : 0 ≤ time) :
    Int.bmod time (2 ^ 32) ≤ time := by
  have remainder : time % ((2 ^ 32 : ℕ) : Int) ≤ time := by omega
  rw [Int.bmod_def]
  split
  · exact remainder
  · omega

/-- The victim of `shrinkCache` is an oldest bucket in use exactly under this
condition. -/
theorem evictsOldest_iff
    (sound : cache.Sound) :
    cache.EvictsOldest ↔ ∃ idx, cache.hashIdx = some idx ∧ cache.Oldest idx := by
  constructor
  · rintro ⟨first, idx, isFirst, oldest, behind, less, after⟩
    refine ⟨idx, hashIdx_eq_some_iff.mpr ⟨first, isFirst, behind.le, less, ?_⟩, oldest⟩
    intro other _ otherLess
    by_contra above
    exact absurd otherLess (after other (not_le.mp above)).not_gt
  · rintro ⟨idx, isVictim, oldest⟩
    obtain ⟨first, isFirst, behind, less, greatest⟩ := hashIdx_eq_some_iff.mp isVictim
    have different : first ≠ idx := by
      intro same
      rw [← same] at less
      exact absurd less (bmod_le_self (sound.times first)).not_gt
    have strictly : first < idx := lt_of_le_of_ne behind different
    refine ⟨first, idx, isFirst, oldest, strictly, less, ?_⟩
    intro other above
    by_contra smaller
    have bound := greatest other (strictly.trans above).le (not_le.mp smaller)
    exact absurd bound above.not_ge

end Cache
end LruCache
end Skplat
