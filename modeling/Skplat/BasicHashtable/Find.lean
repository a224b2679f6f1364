import Skplat.BasicHashtable.Operations

/-!
# Entries that are found

`find` looks at the buckets from the first one for the hash, as far as they are marked.  Since
a bucket stays unfilled it ends, and since the entries are reached over marked buckets it finds
every entry with the key, each of them once when it is called again with the last index.
-/

namespace Skplat
namespace BasicHashtable

open Sknet (AllocFits)

variable {Entry Key : Type}

section Seek

variable {count hash : Nat} {buckets : List (Bucket Entry)}

/-- The bucket has a wanted entry. -/
def Wants (buckets : List (Bucket Entry)) (isWanted : Nat × Entry → Bool) (index : Nat) : Prop :=
  ∃ bucket, buckets[index]? = some bucket ∧ bucket.content.any isWanted = true

/-- What is found after a step: the next wanted entry, or a bucket that is not marked. -/
def SeekEnds (hash count : Nat) (buckets : List (Bucket Entry))
    (isWanted : Nat × Entry → Bool) (after : Nat) : Option Nat → Prop
  | some index => ∃ steps, after < steps ∧ steps < count ∧ position hash count steps = index ∧
      Wants buckets isWanted index ∧
      ∀ between, after < between → between < steps →
        ¬Wants buckets isWanted (position hash count between)
  | none => ∃ steps bucket, after < steps ∧ steps < count ∧
      buckets[position hash count steps]? = some bucket ∧ bucket.collision = false ∧
      ∀ between, after < between → between ≤ steps →
        ¬Wants buckets isWanted (position hash count between)

/-- With a bucket ahead that is not marked, `find` ends. -/
theorem seek_ok (isCount : IsBucketCount count) (length : buckets.length = count)
    {fuel after target : Nat} {bucket : Bucket Entry} (ahead : after < target)
    (inside : target < count) (few : target ≤ after + fuel)
    (isTarget : buckets[position hash count target]? = some bucket)
    (notMarked : bucket.collision = false) (isWanted : Nat × Entry → Bool) :
    ∃ outcome, Table.seek buckets isWanted (chainIncrement hash count) count fuel
        (position hash count after) = .ok outcome ∧
      SeekEnds hash count buckets isWanted after outcome := by
  induction fuel generalizing after with
  | zero => omega
  | succ fuel ih =>
      have reached : position hash count (after + 1) < buckets.length := by
        rw [length]
        exact isCount.position_lt _
      have found := List.getElem?_eq_getElem reached
      rw [Table.seek, chainSeek_position, found]
      dsimp only
      split
      · rename_i wanted
        exact ⟨_, rfl, after + 1, Nat.lt_succ_self _, by omega, rfl, ⟨_, found, wanted⟩,
          fun between _ _ => by omega⟩
      · rename_i notWanted
        have notNext : ¬Wants buckets isWanted (position hash count (after + 1)) := by
          rintro ⟨other, isOther, wanted⟩
          cases found.symm.trans isOther
          exact notWanted wanted
        split
        · rename_i unmarked
          refine ⟨_, rfl, after + 1, _, Nat.lt_succ_self _, by omega, found,
            by simpa using unmarked, fun between later upTo => ?_⟩
          obtain rfl : between = after + 1 := by omega
          exact notNext
        · rename_i isMarked
          have notTarget : after + 1 ≠ target := by
            rintro rfl
            cases found.symm.trans isTarget
            exact isMarked (by rw [notMarked]; rfl)
          have further : after + 1 < target := by omega
          obtain ⟨outcome, seeks, ends⟩ := ih further (by omega)
          refine ⟨outcome, seeks, ?_⟩
          cases outcome with
          | some index =>
              obtain ⟨steps, later, small, isIndex, wants, none⟩ := ends
              refine ⟨steps, by omega, small, isIndex, wants, fun between afterwards before => ?_⟩
              obtain rfl | further := Nat.eq_or_lt_of_le (Nat.succ_le_of_lt afterwards)
              · exact notNext
              · exact none between further before
          | none =>
              obtain ⟨steps, other, later, small, isOther, unmarked, none⟩ := ends
              refine ⟨steps, other, by omega, small, isOther, unmarked,
                fun between afterwards upTo => ?_⟩
              obtain rfl | further := Nat.eq_or_lt_of_le (Nat.succ_le_of_lt afterwards)
              · exact notNext
              · exact none between further upTo

end Seek

namespace Table

variable [DecidableEq Key] {getKey : Entry → Key} {hashOf : Key → Nat}
variable {table : Table Entry} {key : Key}

/-- Each entry is stored with the hash of its key. -/
def HashesFit (getKey : Entry → Key) (hashOf : Key → Nat) (table : Table Entry) :
    Prop :=
  ∀ content ∈ table.entries, content.1 = trimHash (hashOf (getKey content.2))

/-- The bucket has an entry with the key. -/
def Holds (getKey : Entry → Key) (table : Table Entry) (key : Key) (index : Nat) :
    Prop :=
  ∃ bucket content, (table.buckets.getD [])[index]? = some bucket ∧
    bucket.content = some content ∧ getKey content.2 = key

/-- The hash and the entry at an index. -/
def contentAt (table : Table Entry) (index : Nat) : Option (Nat × Entry) :=
  (table.buckets.getD [])[index]?.bind Bucket.content

/-- `entryAt`, for an index of an entry. -/
def entryAt (table : Table Entry) (index : Nat) : Option Entry :=
  (table.contentAt index).map Prod.snd

omit [DecidableEq Key] in
theorem holds_iff {index : Nat} :
    table.Holds getKey key index ↔
      ∃ entry, table.entryAt index = some entry ∧ getKey entry = key := by
  constructor
  · rintro ⟨bucket, content, found, isContent, isKey⟩
    refine ⟨content.2, ?_, isKey⟩
    rw [entryAt, contentAt, found, Option.bind_some, isContent]
    rfl
  · rintro ⟨entry, isEntry, isKey⟩
    obtain ⟨content, isContent, rfl⟩ := Option.map_eq_some_iff.mp isEntry
    obtain ⟨bucket, found, isContent⟩ := Option.bind_eq_some_iff.mp isContent
    exact ⟨bucket, content, found, isContent, isKey⟩

omit [DecidableEq Key] in
/-- Only buckets that were allocated are looked at. -/
theorem exists_buckets {index : Nat} {bucket : Bucket Entry}
    (found : (table.buckets.getD [])[index]? = some bucket) :
    ∃ buckets, table.buckets = some buckets ∧ buckets[index]? = some bucket := by
  cases isBuckets : table.buckets with
  | none =>
      rw [isBuckets] at found
      cases found
  | some buckets =>
      rw [isBuckets] at found
      exact ⟨buckets, rfl, found⟩

omit [DecidableEq Key] in
theorem mem_entries {index : Nat} {bucket : Bucket Entry} {content : Nat × Entry}
    (found : (table.buckets.getD [])[index]? = some bucket)
    (isContent : bucket.content = some content) : content ∈ table.entries :=
  List.mem_filterMap.mpr ⟨bucket, List.mem_of_getElem? found, isContent⟩

omit [DecidableEq Key] in
theorem Holds.lt {index : Nat} (holds : table.Holds getKey key index)
    (wellFormed : WellFormed table) : index < table.bucketCount := by
  obtain ⟨bucket, content, found, -⟩ := holds
  obtain ⟨buckets, isBuckets, found⟩ := exists_buckets found
  obtain ⟨inside, -⟩ := List.getElem?_eq_some_iff.mp found
  exact Nat.lt_of_lt_of_eq inside (wellFormed.some buckets isBuckets).length

/-- The first bucket from a step on that has an entry with the key, if there is one. -/
def IsFirst (getKey : Entry → Key) (table : Table Entry) (hash : Nat) (key : Key)
    (first : Nat) : Option Nat → Prop
  | some index => ∃ steps, first ≤ steps ∧ steps < table.bucketCount ∧
      position hash table.bucketCount steps = index ∧ table.Holds getKey key index ∧
      ∀ between, first ≤ between → between < steps →
        ¬table.Holds getKey key (position hash table.bucketCount between)
  | none => ∀ steps, first ≤ steps → steps < table.bucketCount →
      ¬table.Holds getKey key (position hash table.bucketCount steps)

omit [DecidableEq Key] in
/-- An entry with the key is reached over marked buckets. -/
theorem chained_of_holds (wellFormed : WellFormed table)
    (hashesFit : table.HashesFit getKey hashOf) {steps : Nat}
    (small : steps < table.bucketCount)
    (holds : table.Holds getKey key
      (position (trimHash (hashOf key)) table.bucketCount steps)) :
    IsPassed (table.buckets.getD []) (trimHash (hashOf key)) table.bucketCount steps := by
  obtain ⟨bucket, content, found, isContent, isKey⟩ := holds
  have isHash : content.1 = trimHash (hashOf key) := by
    rw [← isKey]
    exact hashesFit content (mem_entries found isContent)
  obtain ⟨buckets, isBuckets, found⟩ := exists_buckets found
  obtain ⟨reached, few, same, passed⟩ :=
    (wellFormed.some buckets isBuckets).chained _ bucket content found isContent
  rw [isHash] at same passed
  rw [wellFormed.isCount.position_injective few small same] at passed
  rw [isBuckets]
  exact passed

/-- A bucket that is not filled. -/
theorem exists_unfilled (wellFormed : WellFormed table) {buckets : List (Bucket Entry)}
    (isBuckets : table.buckets = some buckets) (hash : Nat) :
    ∃ steps bucket, steps < table.bucketCount ∧
      buckets[position hash table.bucketCount steps]? = some bucket ∧ bucket.filled = false := by
  have stored := wellFormed.some buckets isBuckets
  have sizes := wellFormed.capacity
  have filled := wellFormed.filled
  have isFilled := stored.filled
  have length := stored.length
  obtain ⟨bucket, present, notFilled⟩ : ∃ bucket ∈ buckets, bucket.filled = false := by
    by_contra none
    have all : buckets.countP Bucket.filled = buckets.length := by
      rw [List.countP_eq_length]
      intro bucket present
      by_contra notFilled
      exact none ⟨bucket, present, by simpa using notFilled⟩
    omega
  obtain ⟨index, found⟩ := List.mem_iff_getElem?.mp present
  obtain ⟨inside, -⟩ := List.getElem?_eq_some_iff.mp found
  obtain ⟨steps, few, rfl⟩ :=
    wellFormed.isCount.exists_position hash (length ▸ inside)
  exact ⟨steps, bucket, few, found, notFilled⟩

/-- The loop of `find`, from a bucket up to which all are filled. -/
theorem isFirst_of_seek (wellFormed : WellFormed table)
    (hashesFit : table.HashesFit getKey hashOf) {buckets : List (Bucket Entry)}
    (isBuckets : table.buckets = some buckets) (key : Key) (after : Nat)
    (filled : ∀ steps ≤ after, ∀ bucket,
      buckets[position (trimHash (hashOf key)) table.bucketCount steps]? = some bucket →
        bucket.filled = true) :
    ∃ outcome, seek buckets
        (fun content => content.1 = trimHash (hashOf key) && getKey content.2 = key)
        (chainIncrement (trimHash (hashOf key)) table.bucketCount) table.bucketCount
        table.bucketCount (position (trimHash (hashOf key)) table.bucketCount after) =
          .ok outcome ∧
      table.IsFirst getKey (trimHash (hashOf key)) key (after + 1) outcome := by
  have stored := wellFormed.some buckets isBuckets
  obtain ⟨target, bucket, few, isTarget, notFilled⟩ :=
    exists_unfilled wellFormed isBuckets (trimHash (hashOf key))
  have ahead : after < target := by
    by_contra behind
    have isFilled := filled target (by omega) bucket isTarget
    rw [notFilled] at isFilled
    cases isFilled
  have notMarked : bucket.collision = false := by
    rw [Bucket.filled, Bool.or_eq_false_iff] at notFilled
    exact notFilled.2
  have enough : target ≤ after + table.bucketCount := by omega
  obtain ⟨outcome, seeks, ends⟩ := seek_ok wellFormed.isCount stored.length ahead few enough
    isTarget notMarked
    fun content => content.1 = trimHash (hashOf key) && getKey content.2 = key
  refine ⟨outcome, seeks, ?_⟩
  have wants_of_holds {index : Nat} (holds : table.Holds getKey key index) :
      Wants buckets (fun content => content.1 = trimHash (hashOf key) && getKey content.2 = key)
        index := by
    obtain ⟨bucket, content, found, isContent, isKey⟩ := holds
    have isHash := hashesFit content (mem_entries found isContent)
    rw [isBuckets] at found
    refine ⟨bucket, found, ?_⟩
    rw [isContent, Option.any_some]
    simp [isHash, isKey]
  cases outcome with
  | some index =>
      obtain ⟨steps, later, small, isIndex, ⟨found, isFound, wanted⟩, none⟩ := ends
      refine ⟨steps, later, small, isIndex, ?_, fun between afterwards before holds =>
        none between afterwards before (wants_of_holds holds)⟩
      obtain ⟨content, isContent, fits⟩ := (Option.any_eq_true _ _).mp wanted
      rw [Bool.and_eq_true, decide_eq_true_eq, decide_eq_true_eq] at fits
      refine ⟨found, content, ?_, isContent, fits.2⟩
      rw [isBuckets]
      exact isFound
  | none =>
      obtain ⟨steps, other, later, small, isOther, unmarked, none⟩ := ends
      intro between afterwards inside holds
      by_cases upTo : between ≤ steps
      · exact none between afterwards upTo (wants_of_holds holds)
      · have passed := chained_of_holds wellFormed hashesFit inside holds
        obtain ⟨marked, isMarked, collides⟩ := passed steps (by omega)
        rw [isBuckets] at isMarked
        cases isOther.symm.trans isMarked
        cases unmarked.symm.trans collides

omit [DecidableEq Key] in
theorem IsFirst.of_succ {hash first : Nat} {outcome : Option Nat}
    (notFirst : ¬table.Holds getKey key (position hash table.bucketCount first))
    (isFirst : table.IsFirst getKey hash key (first + 1) outcome) :
    table.IsFirst getKey hash key first outcome := by
  cases outcome with
  | some index =>
      obtain ⟨steps, later, small, isIndex, holds, none⟩ := isFirst
      refine ⟨steps, by omega, small, isIndex, holds, fun between afterwards before => ?_⟩
      obtain rfl | further := Nat.eq_or_lt_of_le afterwards
      · exact notFirst
      · exact none between further before
  | none =>
      intro steps later inside
      obtain rfl | further := Nat.eq_or_lt_of_le later
      · exact notFirst
      · exact isFirst steps further inside

omit [DecidableEq Key] in
theorem size_ne_zero_of_holds (wellFormed : WellFormed table) {index : Nat}
    (holds : table.Holds getKey key index) : table.size ≠ 0 := by
  obtain ⟨bucket, content, found, isContent, -⟩ := holds
  obtain ⟨buckets, isBuckets, found⟩ := exists_buckets found
  rw [(wellFormed.some buckets isBuckets).size]
  intro none
  refine List.countP_eq_zero.mp none bucket (List.mem_of_getElem? found) ?_
  rw [Bucket.present, isContent]
  rfl

/-- `find` from the start gives the first entry with the key. -/
theorem find_start (wellFormed : WellFormed table) (hashesFit : table.HashesFit getKey hashOf)
    (key : Key) :
    ∃ outcome, table.find getKey none (hashOf key) key = .ok outcome ∧
      table.IsFirst getKey (trimHash (hashOf key)) key 0 outcome := by
  rw [find]
  split
  · rename_i empty
    refine ⟨none, rfl, fun steps _ _ holds => ?_⟩
    exact size_ne_zero_of_holds wellFormed holds empty
  · rename_i notEmpty
    cases isBuckets : table.buckets with
    | none => exact absurd (wellFormed.none isBuckets).1 notEmpty
    | some buckets =>
        have stored := wellFormed.some buckets isBuckets
        have start := wellFormed.isCount.position_zero (trimHash (hashOf key))
        have inside : chainStart (trimHash (hashOf key)) table.bucketCount < buckets.length := by
          rw [stored.length, ← start]
          exact wellFormed.isCount.position_lt 0
        have found := List.getElem?_eq_getElem inside
        generalize buckets[chainStart (trimHash (hashOf key)) table.bucketCount] = first at found
        -- if the first bucket is filled, the loop goes on from it
        have goesOn (isFilled : first.filled = true) :=
          isFirst_of_seek wellFormed hashesFit isBuckets key 0
            fun steps none bucket isBucket => by
              obtain rfl : steps = 0 := by omega
              rw [start, found] at isBucket
              cases isBucket
              exact isFilled
        rw [start] at goesOn
        simp only [Option.getD_some, found]
        cases isContent : first.content with
        | some content =>
            dsimp only
            split
            · rename_i isKey
              refine ⟨_, rfl, 0, Nat.le_refl 0, wellFormed.isCount.pos, start,
                ⟨first, content, ?_, isContent, isKey⟩, fun _ _ => by omega⟩
              rw [isBuckets]
              exact found
            · rename_i notKey
              obtain ⟨outcome, seeks, isFirst⟩ :=
                goesOn (by rw [Bucket.filled, Bucket.present, isContent]; rfl)
              refine ⟨outcome, seeks, IsFirst.of_succ ?_ isFirst⟩
              rintro ⟨bucket, other, isBucket, isOther, isKey⟩
              rw [isBuckets, start, Option.getD_some, found] at isBucket
              cases isBucket
              cases isContent.symm.trans isOther
              exact notKey isKey
        | none =>
            have notFirst : ¬table.Holds getKey key
                (position (trimHash (hashOf key)) table.bucketCount 0) := by
              rintro ⟨bucket, other, isBucket, isOther, -⟩
              rw [isBuckets, start, Option.getD_some, found] at isBucket
              cases isBucket
              cases isContent.symm.trans isOther
            dsimp only
            split
            · rename_i unmarked
              refine ⟨none, rfl, IsFirst.of_succ notFirst fun steps later inside holds => ?_⟩
              obtain ⟨marked, isMarked, collides⟩ :=
                chained_of_holds wellFormed hashesFit inside holds 0 (by omega)
              rw [isBuckets, start, Option.getD_some, found] at isMarked
              cases isMarked
              rw [collides] at unmarked
              cases unmarked
            · rename_i isMarked
              obtain ⟨outcome, seeks, isFirst⟩ := goesOn (by
                rw [Bucket.filled, Bool.or_eq_true]
                exact Or.inr (by simpa using isMarked))
              exact ⟨outcome, seeks, IsFirst.of_succ notFirst isFirst⟩

omit [DecidableEq Key] in
/-- The entries with a key stand in the buckets. -/
theorem exists_holds_iff :
    (∃ index, table.Holds getKey key index) ↔
      ∃ content ∈ table.entries, getKey content.2 = key := by
  constructor
  · rintro ⟨index, bucket, content, found, isContent, isKey⟩
    exact ⟨content, mem_entries found isContent, isKey⟩
  · rintro ⟨content, present, isKey⟩
    obtain ⟨bucket, inside, isContent⟩ := List.mem_filterMap.mp present
    obtain ⟨index, found⟩ := List.mem_iff_getElem?.mp inside
    exact ⟨index, bucket, content, found, isContent, isKey⟩

/-- `find` finds an entry with the key, if there is one. -/
theorem find_cases (wellFormed : WellFormed table)
    (hashesFit : table.HashesFit getKey hashOf) (key : Key) :
    (∃ index, table.find getKey none (hashOf key) key = .ok (some index) ∧
      table.Holds getKey key index) ∨
    (table.find getKey none (hashOf key) key = .ok none ∧
      ∀ index, ¬table.Holds getKey key index) := by
  obtain ⟨outcome, finds, isFirst⟩ := Table.find_start wellFormed hashesFit key
  cases outcome with
  | some index =>
      obtain ⟨-, -, -, -, holds, -⟩ := isFirst
      exact Or.inl ⟨index, finds, holds⟩
  | none =>
      refine Or.inr ⟨finds, fun index holds => ?_⟩
      obtain ⟨steps, inside, rfl⟩ :=
        wellFormed.isCount.exists_position (trimHash (hashOf key)) (holds.lt wellFormed)
      exact isFirst steps (Nat.zero_le _) inside holds

omit [DecidableEq Key] in
theorem exists_removeAt {index : Nat} (isEntry : (table.entryAt index).isSome = true) :
    ∃ result, table.removeAt index = some result := by
  rw [entryAt, Option.isSome_map] at isEntry
  obtain ⟨content, isContent⟩ := Option.isSome_iff_exists.mp isEntry
  obtain ⟨bucket, found, isContent⟩ := Option.bind_eq_some_iff.mp isContent
  have isPresent : bucket.present = true := by
    rw [Bucket.present, isContent]
    rfl
  obtain ⟨buckets, isBuckets, found⟩ := exists_buckets found
  rw [removeAt, isBuckets, Option.bind_some, found, Option.bind_some, if_pos isPresent]
  exact ⟨_, rfl⟩

omit [DecidableEq Key] in
theorem entryAt_removeAt {result : Table Entry} {index : Nat}
    (removes : table.removeAt index = some result) :
    result.bucketCount = table.bucketCount ∧
      ∀ other, result.entryAt other = if other = index then none else table.entryAt other := by
  obtain ⟨buckets, isBuckets, removes⟩ := Option.bind_eq_some_iff.mp removes
  obtain ⟨bucket, found, removes⟩ := Option.bind_eq_some_iff.mp removes
  obtain ⟨-, same⟩ := Option.ite_none_right_eq_some.mp removes
  obtain ⟨inside, -⟩ := List.getElem?_eq_some_iff.mp found
  cases same
  refine ⟨rfl, fun other => ?_⟩
  rw [entryAt, entryAt, contentAt, contentAt, isBuckets, Option.getD_some, Option.getD_some]
  by_cases same : other = index
  · rw [if_pos same, same, List.getElem?_set_self inside]
    rfl
  · rw [if_neg same, List.getElem?_set_ne (Ne.symm same)]

omit [DecidableEq Key] in
theorem entryAt_addLoop (wellFormed : WellFormed table) {buckets : List (Bucket Entry)}
    (isBuckets : table.buckets = some buckets) {hash fuel index : Nat} {entry : Entry}
    {result : Table Entry} (notOver : ¬table.Overflows hash)
    (adds : table.addLoop hash entry (fuel + 1) = .ok (result, index)) :
    index < table.bucketCount ∧ table.entryAt index = none ∧
      result.bucketCount = table.bucketCount ∧
      ∀ other, result.entryAt other =
        if other = index then some entry else table.entryAt other := by
  have stored := wellFormed.some buckets isBuckets
  have sizes := wellFormed.capacity
  have filled := wellFormed.filled
  have fewer := countP_present_le buckets
  have isFilled := stored.filled
  obtain ⟨marked, last, bucket, walks, walked, isLast⟩ :=
    exists_walked wellFormed.isCount stored.length (by omega) hash
  have inside : position hash table.bucketCount last < table.bucketCount :=
    wellFormed.isCount.position_lt last
  have markedInside : position hash table.bucketCount last < marked.length := by
    rw [walked.length_eq, stored.length]
    exact inside
  have content_eq := walked.content_eq
  obtain ⟨-, -, -, -, -, free, isFree, notPresent, -⟩ := walked
  rw [addLoop, isBuckets] at adds
  simp only [walks, Except.bind, isLast, Option.map_some, Option.getD_some] at adds
  split at adds
  · rename_i overflows
    rw [Bool.and_eq_true, Bool.not_eq_true', decide_eq_true_eq] at overflows
    exact absurd ⟨overflows.2, buckets, marked, _, bucket, isBuckets, walks, isLast,
      overflows.1⟩ notOver
  · cases adds
    refine ⟨inside, ?_, rfl, fun other => ?_⟩
    · rw [entryAt, contentAt, isBuckets, Option.getD_some, isFree]
      rw [Bucket.present, Option.isSome_eq_false_iff, Option.isNone_iff_eq_none] at notPresent
      rw [Option.bind_some, notPresent]
      rfl
    · rw [entryAt, entryAt, contentAt, contentAt, isBuckets, Option.getD_some, Option.getD_some]
      by_cases same : other = position hash table.bucketCount last
      · rw [if_pos same, same, List.getElem?_set_self markedInside]
        rfl
      · rw [if_neg same, List.getElem?_set_ne (Ne.symm same), content_eq]

omit [DecidableEq Key] in
/-- Unless it rehashes, `add` puts the entry into a free bucket, and the other entries keep
theirs. -/
theorem entryAt_add (wellFormed : WellFormed table) {hash index : Nat} {entry : Entry}
    {result : Table Entry} (notOver : ¬table.Overflows (trimHash hash))
    (adds : table.add hash entry = .ok (result, index)) :
    index < table.bucketCount ∧ table.entryAt index = none ∧
      result.bucketCount = table.bucketCount ∧
      ∀ other, result.entryAt other =
        if other = index then some entry else table.entryAt other := by
  rw [add] at adds
  cases isBuckets : table.buckets with
  | some buckets =>
      rw [isBuckets] at adds
      exact entryAt_addLoop wellFormed isBuckets notOver adds
  | none =>
      rw [isBuckets] at adds
      by_cases allocates : AllocFits (table.bucketCount * table.bucketSize)
      · rw [allocateBuckets, if_pos allocates] at adds
        have same (other : Nat) :
            ({ table with buckets := some (emptyBuckets table.bucketCount) } :
              Table Entry).entryAt other = table.entryAt other := by
          rw [entryAt, entryAt, contentAt, contentAt, isBuckets, Option.getD_some,
            Option.getD_none, emptyBuckets, List.getElem?_replicate]
          split
          · rfl
          · rfl
        have room : ¬({ table with buckets := some (emptyBuckets table.bucketCount) } :
            Table Entry).Overflows (trimHash hash) := by
          rintro ⟨full, -⟩
          have notFilled := (wellFormed.none isBuckets).2
          have sizes := wellFormed.capacity
          dsimp only at full
          omega
        obtain ⟨inside, isFree, count, entries⟩ :=
          entryAt_addLoop (wellFormed_allocated wellFormed isBuckets) rfl room adds
        refine ⟨inside, (same index).symm.trans isFree, count, fun other => ?_⟩
        rw [← same other]
        exact entries other
      · rw [allocateBuckets, if_neg allocates] at adds
        cases adds

end Table
end BasicHashtable
end Skplat
