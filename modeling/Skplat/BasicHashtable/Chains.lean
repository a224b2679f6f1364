import Skplat.BasicHashtable.Defs
import Skplat.Data.ListSet

/-!
# Collision chains

The bucket of an entry is reached from its first bucket over marked buckets only.  The walk to
a free bucket marks the buckets that it passes, so it keeps this for the entries that are there
and makes it true for the new one.
-/

namespace Skplat
namespace BasicHashtable

variable {Entry : Type} {count hash : Nat} {buckets result : List (Bucket Entry)}

/-- The bucket for a hash after some steps. -/
def position (hash count : Nat) : Nat → Nat :=
  probe (chainStart hash count) (chainIncrement hash count) count

/-- A bucket count as in the table of primes. -/
structure IsBucketCount (count : Nat) : Prop where
  prime : count.Prime
  large : 2 < count

namespace IsBucketCount

variable (isCount : IsBucketCount count)
include isCount

theorem pos : 0 < count := isCount.prime.pos

theorem position_lt (steps : Nat) : position hash count steps < count :=
  probe_lt isCount.pos steps

theorem position_zero (hash : Nat) : position hash count 0 = chainStart hash count :=
  probe_zero (Nat.mod_lt _ isCount.pos)

omit isCount in
theorem increment_pos : 0 < chainIncrement hash count := Nat.succ_pos _

theorem increment_lt : chainIncrement hash count < count := by
  have large := isCount.large
  have small := Nat.mod_lt ((hash / 2 ^ 7) ||| (hash * 2 ^ 25 % 2 ^ 32))
    (by omega : 0 < count - 1)
  rw [chainIncrement]
  omega

theorem position_injective {steps other : Nat} (inside : steps < count)
    (otherInside : other < count)
    (same : position hash count steps = position hash count other) : steps = other :=
  probe_injective isCount.prime increment_pos isCount.increment_lt inside otherInside same

theorem exists_position (hash : Nat) {index : Nat} (inside : index < count) :
    ∃ steps < count, position hash count steps = index :=
  exists_probe isCount.prime increment_pos isCount.increment_lt inside

end IsBucketCount

theorem chainSeek_position (steps : Nat) :
    chainSeek (position hash count steps) (chainIncrement hash count) count =
      position hash count (steps + 1) :=
  (probe_succ steps).symm

/-- The buckets before a step are marked. -/
def IsPassed (buckets : List (Bucket Entry)) (hash count steps : Nat) : Prop :=
  ∀ earlier < steps, ∃ bucket, buckets[position hash count earlier]? = some bucket ∧
    bucket.collision = true

/-- Each entry is reached over marked buckets. -/
def IsChained (count : Nat) (buckets : List (Bucket Entry)) : Prop :=
  ∀ index bucket content, buckets[index]? = some bucket → bucket.content = some content →
    ∃ steps < count, position content.1 count steps = index ∧
      IsPassed buckets content.1 count steps

/-- A walk from one step to another one. -/
structure Walked (hash count : Nat) (buckets result : List (Bucket Entry)) (first last : Nat) :
    Prop where
  bounds : first ≤ last ∧ last < count
  contents : result.map Bucket.content = buckets.map Bucket.content
  filled : result.map Bucket.filled = buckets.map Bucket.filled
  grows : ∀ (index : Nat) (bucket : Bucket Entry), buckets[index]? = some bucket →
    bucket.collision = true → ∃ marked : Bucket Entry,
      result[index]? = some marked ∧ marked.collision = true
  passed : ∀ steps, first ≤ steps → steps < last → ∃ marked : Bucket Entry,
    result[position hash count steps]? = some marked ∧ marked.collision = true
  /-- The last bucket is free, and as it was. -/
  free : ∃ bucket, buckets[position hash count last]? = some bucket ∧
    bucket.present = false ∧ result[position hash count last]? = some bucket

/-- With a free bucket ahead, the walk ends. -/
theorem walk_ok (isCount : IsBucketCount count) (fuel : Nat) {first target : Nat}
    {bucket : Bucket Entry} (length : buckets.length = count) (ahead : first ≤ target)
    (inside : target < count) (few : target < first + fuel)
    (isTarget : buckets[position hash count target]? = some bucket)
    (isFree : bucket.present = false) :
    ∃ result last, walk (chainIncrement hash count) count fuel buckets
        (position hash count first) = .ok (result, position hash count last) ∧
      Walked hash count buckets result first last := by
  induction fuel generalizing first buckets with
  | zero => omega
  | succ fuel ih =>
      have reached : position hash count first < buckets.length := by
        rw [length]
        exact isCount.position_lt first
      have found := List.getElem?_eq_getElem reached
      rw [walk, found]
      dsimp only
      split
      · rename_i isPresent
        -- the bucket is marked, and the walk goes on
        have notTarget : first ≠ target := by
          rintro rfl
          rw [found, Option.some_inj] at isTarget
          rw [isTarget, isFree] at isPresent
          cases isPresent
        have other : position hash count first ≠ position hash count target := by
          intro same
          exact notTarget (isCount.position_injective (by omega) inside same)
        rw [chainSeek_position]
        obtain ⟨result, last, walks, walked⟩ := @ih
          (buckets.set (position hash count first)
            { buckets[position hash count first] with collision := true })
          (first + 1) (by rw [List.length_set, length]) (by omega) (by omega)
          (by rw [List.getElem?_set_ne other, isTarget])
        refine ⟨result, last, walks, ?_⟩
        obtain ⟨bounds, contents, filled, grows, passed, last', isLast, free, same⟩ := walked
        have marked : (buckets.set (position hash count first)
            { buckets[position hash count first] with collision := true })[
              position hash count first]? =
            some { buckets[position hash count first] with collision := true } :=
          List.getElem?_set_self reached
        have notFirst : position hash count first ≠ position hash count last := by
          intro same
          have steps := isCount.position_injective (by omega) bounds.2 same
          omega
        refine ⟨⟨by omega, bounds.2⟩, ?_, ?_, ?_, ?_, last', ?_, free, same⟩
        · exact contents.trans (map_set_of_same found rfl)
        · refine filled.trans (map_set_of_same found ?_)
          rw [Bucket.filled, Bucket.filled, isPresent]
          simp only [Bucket.present] at isPresent ⊢
          rw [isPresent]
          rfl
        · intro index bucket isBucket collides
          by_cases same : position hash count first = index
          · subst same
            exact grows _ _ marked rfl
          · exact grows index bucket ((List.getElem?_set_ne same).trans isBucket) collides
        · intro steps after before
          obtain rfl | after := Nat.eq_or_lt_of_le after
          · exact grows _ _ marked rfl
          · exact passed steps after before
        · rw [List.getElem?_set_ne notFirst] at isLast
          exact isLast
      · rename_i notPresent
        refine ⟨buckets, first, rfl, ⟨Nat.le_refl _, by omega⟩, rfl, rfl,
          fun _ bucket isBucket collides => ⟨bucket, isBucket, collides⟩, fun _ _ _ => by omega,
          _, found, by simpa using notPresent, found⟩

theorem Walked.content_eq {first last : Nat} (walked : Walked hash count buckets result first last)
    (index : Nat) :
    result[index]?.bind Bucket.content = buckets[index]?.bind Bucket.content := by
  have same := congrArg (·[index]?.bind id) walked.contents
  rw [List.getElem?_map, List.getElem?_map, Option.bind_map, Option.bind_map] at same
  exact same

/-- The chains are kept by a walk. -/
theorem Walked.chained {first last : Nat} (walked : Walked hash count buckets result first last)
    (chained : IsChained count buckets) : IsChained count result := by
  intro index bucket content isBucket isContent
  have sameContent := congrArg (·[index]?) walked.contents
  simp only [List.getElem?_map, isBucket] at sameContent
  obtain ⟨old, isOld, oldContent⟩ := Option.map_eq_some_iff.mp sameContent.symm
  obtain ⟨steps, few, isIndex, passed⟩ :=
    chained index old content isOld (oldContent.trans isContent)
  refine ⟨steps, few, isIndex, fun earlier before => ?_⟩
  obtain ⟨marked, isMarked, collides⟩ := passed earlier before
  exact walked.grows _ marked isMarked collides

/-! ## An entry is stored -/

/-- The entries with their hashes. -/
def entriesOf (buckets : List (Bucket Entry)) : List (Nat × Entry) :=
  buckets.filterMap Bucket.content

theorem entriesOf_eq (buckets : List (Bucket Entry)) :
    entriesOf buckets = (buckets.map Bucket.content).filterMap id := by
  rw [entriesOf, List.filterMap_map]
  rfl

theorem countP_present (buckets : List (Bucket Entry)) :
    buckets.countP Bucket.present = (buckets.map Bucket.content).countP Option.isSome := by
  rw [List.countP_map]
  rfl

theorem countP_filled (buckets : List (Bucket Entry)) :
    buckets.countP Bucket.filled = (buckets.map Bucket.filled).countP id := by
  rw [List.countP_map]
  rfl

/-- The bucket to which a walk from the first one leads gets an entry. -/
structure Stores (count : Nat) (buckets result : List (Bucket Entry)) (content : Nat × Entry)
    (index : Nat) (collision : Bool) : Prop where
  length : result.length = count
  chained : IsChained count result
  entries : (entriesOf result).Perm (content :: entriesOf buckets)
  size : result.countP Bucket.present = buckets.countP Bucket.present + 1
  filled : result.countP Bucket.filled + collision.toNat =
    buckets.countP Bucket.filled + 1
  found : result[index]? = some ⟨collision, some content⟩

theorem Walked.entriesOf_eq {first last : Nat}
    (walked : Walked hash count buckets result first last) :
    entriesOf result = entriesOf buckets := by
  rw [BasicHashtable.entriesOf_eq, BasicHashtable.entriesOf_eq, walked.contents]

theorem Walked.countP_present {first last : Nat}
    (walked : Walked hash count buckets result first last) :
    result.countP Bucket.present = buckets.countP Bucket.present := by
  rw [BasicHashtable.countP_present, BasicHashtable.countP_present, walked.contents]

theorem Walked.countP_filled {first last : Nat}
    (walked : Walked hash count buckets result first last) :
    result.countP Bucket.filled = buckets.countP Bucket.filled := by
  rw [BasicHashtable.countP_filled, BasicHashtable.countP_filled, walked.filled]

theorem Walked.length_eq {first last : Nat}
    (walked : Walked hash count buckets result first last) : result.length = buckets.length := by
  simpa using congrArg List.length walked.contents

theorem Walked.stores (isCount : IsBucketCount count) (length : buckets.length = count)
    (chained : IsChained count buckets) {last : Nat}
    (walked : Walked hash count buckets result 0 last)
    (entry : Entry) {bucket : Bucket Entry}
    (free : result[position hash count last]? = some bucket) :
    Stores count buckets
      (result.set (position hash count last) ⟨bucket.collision, some (hash, entry)⟩)
      (hash, entry) (position hash count last) bucket.collision := by
  have lengths := walked.length_eq
  have sameEntries := walked.entriesOf_eq
  have samePresent := walked.countP_present
  have sameCount := walked.countP_filled
  obtain ⟨bounds, sameContents, sameFilled, grows, passed, found, isFound, notPresent, isFree⟩ :=
    walked
  cases free.symm.trans isFree
  have inside : position hash count last < result.length := by
    rw [lengths, length]
    exact isCount.position_lt last
  have empty : bucket.content = none := by simpa [Bucket.present] using notPresent
  refine ⟨by rw [List.length_set, lengths, length], ?_, ?_, ?_, ?_,
    List.getElem?_set_self inside⟩
  · intro index stored content isStored isContent
    by_cases same : position hash count last = index
    · subst same
      rw [List.getElem?_set_self inside, Option.some_inj] at isStored
      subst isStored
      cases isContent
      refine ⟨last, bounds.2, rfl, fun earlier before => ?_⟩
      obtain ⟨marked, isMarked, collides⟩ := passed earlier (Nat.zero_le _) before
      refine ⟨marked, ?_, collides⟩
      rw [List.getElem?_set_ne, isMarked]
      intro same
      have steps := isCount.position_injective bounds.2 (by omega) same
      omega
    · rw [List.getElem?_set_ne same] at isStored
      have sameContent := congrArg (·[index]?) sameContents
      rw [List.getElem?_map, List.getElem?_map, isStored] at sameContent
      obtain ⟨old, isOld, oldContent⟩ := Option.map_eq_some_iff.mp sameContent.symm
      obtain ⟨steps, few, isIndex, wasPassed⟩ :=
        chained index old content isOld (oldContent.trans isContent)
      refine ⟨steps, few, isIndex, fun earlier before => ?_⟩
      obtain ⟨marked, isMarked, collides⟩ := wasPassed earlier before
      by_cases isLast : position hash count last = position content.1 count earlier
      · rw [← isLast, isFound] at isMarked
        cases isMarked
        rw [← isLast]
        exact ⟨_, List.getElem?_set_self inside, collides⟩
      · rw [List.getElem?_set_ne isLast]
        exact grows _ marked isMarked collides
  · obtain ⟨others, before, after⟩ := exists_others_of_filterMap_set free
      ⟨bucket.collision, some (hash, entry)⟩ Bucket.content
    rw [empty] at before
    refine after.trans ?_
    rw [← sameEntries]
    exact (before.symm.cons _)
  · have counted := countP_set_add free ⟨bucket.collision, some (hash, entry)⟩ Bucket.present
    rw [notPresent, samePresent] at counted
    exact counted
  · have counted := countP_set_add free ⟨bucket.collision, some (hash, entry)⟩ Bucket.filled
    have isFilled : bucket.filled = bucket.collision := by
      rw [Bucket.filled, notPresent, Bool.false_or]
    rw [isFilled, sameCount] at counted
    exact counted

end BasicHashtable
end Skplat
