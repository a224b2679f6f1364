import Skplat.BasicHashtable.Capacity

/-!
# Entries that are added and removed

What the calls that change a table do to its entries.  While fewer buckets than the capacity
are filled, `add` finds a free one; otherwise it rehashes, and then `mFilledBuckets` is the
number of entries again.

If the last entries were removed while all buckets up to the capacity were marked, `rehash`
leaves no buckets, and `add` goes on with a null pointer.
-/

namespace Skplat
namespace BasicHashtable

open Binary32 (Number)
open Sknet (AllocFits)

variable {Entry : Type} {count : Nat} {buckets : List (Bucket Entry)}

/-- There is no capacity, or no memory for the buckets. -/
def Failure.IsRefusal : Failure → Prop
  | .noCapacity | .noMemory => True
  | .nullBuckets | .endless => False

/-- With a bucket without an entry, a walk from the first bucket ends. -/
theorem exists_walked (isCount : IsBucketCount count) (length : buckets.length = count)
    (room : buckets.countP Bucket.present < count) (hash : Nat) :
    ∃ result last bucket, walk (chainIncrement hash count) count count buckets
        (chainStart hash count) = .ok (result, position hash count last) ∧
      Walked hash count buckets result 0 last ∧
      result[position hash count last]? = some bucket := by
  obtain ⟨bucket, present, isFree⟩ : ∃ bucket ∈ buckets, bucket.present = false := by
    by_contra none
    have all : buckets.countP Bucket.present = buckets.length := by
      rw [List.countP_eq_length]
      intro bucket present
      by_contra isFree
      exact none ⟨bucket, present, by simpa using isFree⟩
    omega
  obtain ⟨index, found⟩ := List.mem_iff_getElem?.mp present
  obtain ⟨inside, -⟩ := List.getElem?_eq_some_iff.mp found
  obtain ⟨target, few, rfl⟩ := isCount.exists_position hash (length ▸ inside)
  obtain ⟨result, last, walks, walked⟩ := walk_ok isCount count length
    (Nat.zero_le _) few (by omega) found isFree
  rw [isCount.position_zero] at walks
  obtain ⟨free, -, -, isLast⟩ := walked.free
  exact ⟨result, last, free, walks, walked, isLast⟩

/-! ## `rehash` -/

/-- Only buckets with an entry are marked. -/
def IsTight (buckets : List (Bucket Entry)) : Prop :=
  ∀ bucket ∈ buckets, bucket.collision = true → bucket.present = true

theorem IsTight.walked (tight : IsTight buckets) {hash last : Nat}
    {result : List (Bucket Entry)} (walked : Walked hash count buckets result 0 last) :
    IsTight result := by
  intro bucket present collides
  obtain ⟨index, found⟩ := List.mem_iff_getElem?.mp present
  have sameContent := congrArg (·[index]?) walked.contents
  have sameFilled := congrArg (·[index]?) walked.filled
  simp only [List.getElem?_map, found, Option.map_some] at sameContent sameFilled
  obtain ⟨old, isOld, oldContent⟩ := Option.map_eq_some_iff.mp sameContent.symm
  rw [isOld, Option.map_some, Option.some_inj, Bucket.filled, collides, Bool.or_true]
    at sameFilled
  have oldPresent : old.present = true := by
    cases isPresent : old.present with
    | true => rfl
    | false =>
        rw [Bucket.filled, isPresent, Bool.false_or] at sameFilled
        exact isPresent.symm.trans
          (tight old (List.mem_of_getElem? isOld) sameFilled.symm)
  rw [Bucket.present, ← oldContent]
  exact oldPresent

/-- New buckets of a rehash, with some of the entries. -/
structure Rebuilt (count : Nat) (buckets : List (Bucket Entry)) : Prop where
  length : buckets.length = count
  chained : IsChained count buckets
  tight : IsTight buckets

theorem rebuilt_emptyBuckets (count : Nat) :
    Rebuilt count (emptyBuckets count : List (Bucket Entry)) := by
  have empty : ∀ bucket ∈ (emptyBuckets count : List (Bucket Entry)), bucket = .empty :=
    fun bucket present => List.eq_of_mem_replicate present
  refine ⟨List.length_replicate, fun index bucket content isBucket isContent => ?_,
    fun bucket present collides => ?_⟩
  · rw [empty bucket (List.mem_of_getElem? isBucket)] at isContent
    cases isContent
  · rw [empty bucket present] at collides
    cases collides

theorem Rebuilt.place (isCount : IsBucketCount count) (rebuilt : Rebuilt count buckets)
    (content : Nat × Entry) (room : buckets.countP Bucket.present < count) :
    ∃ result, place count buckets content = .ok result ∧ Rebuilt count result ∧
      (entriesOf result).Perm (content :: entriesOf buckets) ∧
      result.countP Bucket.present = buckets.countP Bucket.present + 1 := by
  obtain ⟨marked, last, bucket, walks, walked, isLast⟩ :=
    exists_walked isCount rebuilt.length room content.1
  have stores := walked.stores isCount rebuilt.length rebuilt.chained content.2 isLast
  -- a free bucket is not marked
  have notMarked : bucket.collision = false := by
    obtain ⟨free, isFree, notPresent, same⟩ := walked.free
    cases isLast.symm.trans same
    by_contra collides
    have present := rebuilt.tight bucket (List.mem_of_getElem? isFree) (by simpa using collides)
    rw [notPresent] at present
    cases present
  rw [notMarked] at stores
  refine ⟨marked.set (position content.1 count last) ⟨false, some content⟩, ?_,
    ⟨stores.length, stores.chained, fun other present collides => ?_⟩, stores.entries,
    stores.size⟩
  · rw [BasicHashtable.place, walks]
    rfl
  · obtain old | rfl := List.mem_or_eq_of_mem_set present
    · exact rebuilt.tight.walked walked other old collides
    · cases collides

theorem Rebuilt.placeAll (isCount : IsBucketCount count) (from' : List (Bucket Entry))
    (rebuilt : Rebuilt count buckets)
    (room : buckets.countP Bucket.present + from'.countP Bucket.present < count) :
    ∃ result, placeAll count from' buckets = .ok result ∧ Rebuilt count result ∧
      (entriesOf result).Perm (entriesOf from' ++ entriesOf buckets) ∧
      result.countP Bucket.present =
        buckets.countP Bucket.present + from'.countP Bucket.present := by
  induction from' generalizing buckets with
  | nil => exact ⟨buckets, rfl, rebuilt, List.Perm.refl _, rfl⟩
  | cons bucket rest ih =>
      rw [BasicHashtable.placeAll]
      cases isContent : bucket.content with
      | none =>
          have notPresent : bucket.present = false := by rw [Bucket.present, isContent]; rfl
          rw [List.countP_cons_of_neg (by simp [notPresent])] at room ⊢
          obtain ⟨result, places, done, entries, size⟩ := ih rebuilt room
          have same : entriesOf (bucket :: rest) = entriesOf rest :=
            List.filterMap_cons_none isContent
          rw [same]
          exact ⟨result, places, done, entries, size⟩
      | some content =>
          have isPresent : bucket.present = true := by rw [Bucket.present, isContent]; rfl
          rw [List.countP_cons_of_pos isPresent] at room ⊢
          obtain ⟨placed, places, next, entries, size⟩ :=
            rebuilt.place isCount content (by omega)
          obtain ⟨result, all, done, allEntries, allSize⟩ := ih next (by omega)
          have same : entriesOf (bucket :: rest) = content :: entriesOf rest :=
            List.filterMap_cons_some isContent
          rw [same]
          refine ⟨result, ?_, done, ?_, by omega⟩
          · dsimp only
            rw [places]
            exact all
          · exact allEntries.trans ((entries.append_left _).trans List.perm_middle)

theorem countP_present_le (buckets : List (Bucket Entry)) :
    buckets.countP Bucket.present ≤ buckets.countP Bucket.filled :=
  List.countP_mono_left fun bucket _ isPresent => by
    rw [Bucket.filled, isPresent]
    rfl

theorem length_entriesOf (buckets : List (Bucket Entry)) :
    (entriesOf buckets).length = buckets.countP Bucket.present := by
  rw [entriesOf, List.length_filterMap_eq_countP]
  rfl

theorem entriesOf_eq_nil (none : buckets.countP Bucket.present = 0) : entriesOf buckets = [] := by
  rw [← List.length_eq_zero_iff, length_entriesOf, none]

/-- The counts of a table with buckets. -/
structure IsStored (table : Table Entry) (buckets : List (Bucket Entry)) : Prop where
  length : buckets.length = table.bucketCount
  chained : IsChained table.bucketCount buckets
  size : table.size = buckets.countP Bucket.present
  filled : table.filledBuckets = buckets.countP Bucket.filled

/-- A table as it is between two calls. -/
structure WellFormed (table : Table Entry) : Prop where
  isCount : IsBucketCount table.bucketCount
  capacity : 0 < table.capacity ∧ table.capacity < table.bucketCount
  filled : table.filledBuckets ≤ table.capacity
  none : table.buckets = none → table.size = 0 ∧ table.filledBuckets = 0
  some : ∀ buckets, table.buckets = some buckets → IsStored table buckets

namespace Table

/-- The entries with their hashes. -/
def entries (table : Table Entry) : List (Nat × Entry) :=
  entriesOf (table.buckets.getD [])

variable {table : Table Entry}

/-- If the new buckets can be allocated, all entries have room in them. -/
def HasRoom (table : Table Entry) (minimum : Nat) (loadFactor : Number) : Prop :=
  ∀ sizes ∈ determineCapacity (max minimum table.size) loadFactor,
    AllocFits (sizes.1 * table.bucketSize) → table.size ≤ sizes.2

instance (table : Table Entry) (minimum : Nat) (loadFactor : Number) :
    Decidable (table.HasRoom minimum loadFactor) :=
  inferInstanceAs (Decidable (∀ sizes ∈ _, _ → _))

theorem wellFormed_rehash (wellFormed : WellFormed table) (minimum : Nat) (loadFactor : Number)
    (hasRoom : table.HasRoom minimum loadFactor) :
    (∃ failure, table.rehash minimum loadFactor = .error failure ∧ failure.IsRefusal ∧
      (table.size = 0 → determineCapacity (max minimum table.size) loadFactor = .none)) ∨
    determineCapacity (max minimum table.size) loadFactor ≠ .none ∧
    ∃ result, table.rehash minimum loadFactor = .ok result ∧
      WellFormed result ∧ result.entries.Perm table.entries ∧ minimum < 2 * result.capacity ∧
      result.size = table.size ∧
      (2 * table.capacity ≤ minimum → result.filledBuckets = table.size ∧
        (table.size = 0 → result.buckets = .none)) := by
  rw [rehash]
  cases determined : determineCapacity (max minimum table.size) loadFactor with
  | none => exact Or.inl ⟨.noCapacity, rfl, trivial, fun _ => rfl⟩
  | some sizes =>
      obtain ⟨count, capacity⟩ := sizes
      obtain ⟨isCount, positive, free, half, -⟩ := suits_of_determineCapacity determined
      dsimp only
      split
      · cases isBuckets : table.buckets with
        | none =>
            obtain ⟨empty, notFilled⟩ := wellFormed.none isBuckets
            refine Or.inr ⟨Option.some_ne_none _, _, rfl, ⟨isCount, ⟨positive, free⟩, ?_,
              fun _ => ⟨empty, notFilled⟩, by rintro _ ⟨⟩⟩, ?_, by dsimp only; omega, rfl,
              fun _ => ⟨?_, fun _ => rfl⟩⟩
            · dsimp only
              omega
            · rw [Table.entries, Table.entries, isBuckets]
            · dsimp only
              omega
        | some buckets =>
            have stored := wellFormed.some buckets isBuckets
            have size := stored.size
            have entries : table.entries = entriesOf buckets := by
              rw [Table.entries, isBuckets]
              rfl
            dsimp only
            split
            · rename_i someEntries
              by_cases allocates : AllocFits (count * table.bucketSize)
              swap
              · refine Or.inl ⟨.noMemory, ?_, trivial, fun empty => absurd empty someEntries⟩
                rw [allocateBuckets, if_neg allocates]
                rfl
              have room := hasRoom (count, capacity) (Option.mem_def.mpr determined) allocates
              dsimp only at room
              have fresh : Rebuilt count (emptyBuckets count : List (Bucket Entry)) :=
                rebuilt_emptyBuckets count
              have none : (emptyBuckets count : List (Bucket Entry)).countP Bucket.present =
                  0 := by
                rw [List.countP_eq_zero]
                intro bucket present
                rw [List.eq_of_mem_replicate present]
                exact Bool.false_ne_true
              obtain ⟨result, places, rebuilt, placed, counted⟩ :=
                fresh.placeAll isCount buckets (by omega)
              have tight : result.countP Bucket.filled = result.countP Bucket.present := by
                refine List.countP_congr fun bucket present => ?_
                rw [Bucket.filled, Bool.or_eq_true, or_iff_left_iff_imp]
                exact rebuilt.tight bucket present
              rw [allocateBuckets, if_pos allocates, Except.bind, places]
              refine Or.inr ⟨Option.some_ne_none _, _, rfl, ⟨isCount, ⟨positive, free⟩, room,
                by rintro ⟨⟩, ?_⟩, ?_, ?_, rfl, fun _ => ⟨rfl, fun empty => ?_⟩⟩
              · intro other isOther
                cases isOther
                exact ⟨rebuilt.length, rebuilt.chained, by dsimp only; omega,
                  by dsimp only; omega⟩
              · rw [entries]
                refine placed.trans ?_
                have nothing : entriesOf (emptyBuckets count : List (Bucket Entry)) = [] := by
                  rw [entriesOf, List.filterMap_eq_nil_iff]
                  intro bucket present
                  rw [List.eq_of_mem_replicate present]
                  rfl
                rw [nothing, List.append_nil]
              · dsimp only
                omega
              · omega
            · rename_i empty
              have empty : table.size = 0 := by omega
              refine Or.inr ⟨Option.some_ne_none _, _, rfl, ⟨isCount, ⟨positive, free⟩, ?_, ?_,
                by rintro _ ⟨⟩⟩, ?_, ?_, rfl, fun _ => ⟨rfl, fun _ => rfl⟩⟩
              · dsimp only
                omega
              · exact fun _ => ⟨empty, empty⟩
              · rw [entries, entriesOf_eq_nil (by omega)]
                exact List.Perm.refl _
              · dsimp only
                omega
      · rename_i same
        have isCapacity : capacity = table.capacity := by
          by_contra other
          exact same (Or.inr other)
        exact Or.inr ⟨Option.some_ne_none _, _, rfl, ⟨wellFormed.isCount, wellFormed.capacity,
          wellFormed.filled, wellFormed.none, fun buckets isSome =>
            ⟨(wellFormed.some buckets isSome).length, (wellFormed.some buckets isSome).chained,
              (wellFormed.some buckets isSome).size, (wellFormed.some buckets isSome).filled⟩⟩,
          List.Perm.refl _, by dsimp only; omega, rfl, fun grows => by omega⟩

/-- The bucket to which `add` leads is free and not marked, and no more buckets may be
filled. -/
def Overflows (table : Table Entry) (hash : Nat) : Prop :=
  table.capacity ≤ table.filledBuckets ∧ ∃ buckets marked index bucket,
    table.buckets = some buckets ∧
    walk (chainIncrement hash table.bucketCount) table.bucketCount table.bucketCount buckets
      (chainStart hash table.bucketCount) = .ok (marked, index) ∧
    marked[index]? = some bucket ∧ bucket.collision = false

/-- An entry was added. -/
structure Added (table result : Table Entry) (content : Nat × Entry) (index : Nat) :
    Prop where
  wellFormed : WellFormed result
  entries : result.entries.Perm (content :: table.entries)
  size : result.size = table.size + 1
  found : ∃ buckets collision, result.buckets = some buckets ∧
    buckets[index]? = some ⟨collision, some content⟩

/-- The walk of `add`, and what follows. -/
theorem addLoop_cases (wellFormed : WellFormed table) {buckets : List (Bucket Entry)}
    (isBuckets : table.buckets = some buckets) (hash fuel : Nat) (entry : Entry) :
    (¬table.Overflows hash ∧ ∃ result index,
      table.addLoop hash entry (fuel + 1) = .ok (result, index) ∧
        Added table result (hash, entry) index) ∨
    (table.Overflows hash ∧ ∃ marked : Table Entry,
      table.addLoop hash entry (fuel + 1) =
        (marked.rehash (table.capacity * 2) table.loadFactor).bind (addLoop hash entry fuel) ∧
      WellFormed marked ∧ marked.entries = table.entries ∧ marked.size = table.size ∧
        marked.capacity = table.capacity) := by
  have stored := wellFormed.some buckets isBuckets
  have sizes := wellFormed.capacity
  have filled := wellFormed.filled
  have fewer := countP_present_le buckets
  have isFilled := stored.filled
  obtain ⟨marked, last, bucket, walks, walked, isLast⟩ :=
    exists_walked wellFormed.isCount stored.length (by omega) hash
  have entries : table.entries = entriesOf buckets := by
    rw [Table.entries, isBuckets]
    rfl
  rw [addLoop, isBuckets]
  dsimp only
  rw [walks]
  simp only [Except.bind, isLast, Option.map_some, Option.getD_some]
  split
  · rename_i overflows
    rw [Bool.and_eq_true, Bool.not_eq_true', decide_eq_true_eq] at overflows
    refine Or.inr ⟨⟨overflows.2, buckets, marked, _, bucket, isBuckets, walks, isLast,
      overflows.1⟩, { table with buckets := some marked }, rfl, ?_, ?_, rfl, rfl⟩
    · refine ⟨wellFormed.isCount, sizes, filled, nofun, fun other isOther => ?_⟩
      cases isOther
      exact ⟨walked.length_eq.trans stored.length, walked.chained stored.chained,
        stored.size.trans walked.countP_present.symm,
        stored.filled.trans walked.countP_filled.symm⟩
    · rw [entries]
      exact walked.entriesOf_eq
  · rename_i fits
    have stores := walked.stores wellFormed.isCount stored.length stored.chained entry isLast
    refine Or.inl ⟨?_, _, _, rfl, ?_, ?_, rfl, _, _, rfl, stores.found⟩
    · rintro ⟨full, others, otherMarked, index, other, isOthers, otherWalks, isOther, notMarked⟩
      cases isBuckets.symm.trans isOthers
      rw [walks] at otherWalks
      cases otherWalks
      cases isLast.symm.trans isOther
      exact fits (by simp [notMarked, full])
    · have counted := stores.filled
      refine ⟨wellFormed.isCount, sizes, ?_, nofun, fun other isOther => ?_⟩
      · dsimp only
        cases collides : bucket.collision with
        | true =>
            rw [collides] at counted
            simpa using filled
        | false =>
            simp only [collides, Bool.not_false, Bool.true_and, decide_eq_true_eq] at fits
            simp only [Bool.not_false, if_true]
            omega
      · cases isOther
        refine ⟨stores.length, stores.chained, ?_, ?_⟩
        · exact (congrArg (· + 1) stored.size).trans stores.size.symm
        · dsimp only
          cases collides : bucket.collision with
          | true =>
              rw [collides] at counted
              simp only [Bool.toNat_true] at counted
              simp only [Bool.not_true, Bool.false_eq_true, if_false]
              omega
          | false =>
              rw [collides] at counted
              simp only [Bool.toNat_false] at counted
              simp only [Bool.not_false, if_true]
              omega
    · rw [entries]
      exact stores.entries

theorem not_overflows_of_none (isBuckets : table.buckets = .none) (hash : Nat) :
    ¬table.Overflows hash := by
  rintro ⟨-, buckets, -, -, -, isSome, -⟩
  cases isBuckets.symm.trans isSome

/-- The buckets are allocated if there are none. -/
theorem wellFormed_allocated (wellFormed : WellFormed table)
    (isBuckets : table.buckets = .none) :
    WellFormed ({ table with buckets := some (emptyBuckets table.bucketCount) } :
      Table Entry) := by
  obtain ⟨empty, notFilled⟩ := wellFormed.none isBuckets
  have fresh : Rebuilt table.bucketCount
      (emptyBuckets table.bucketCount : List (Bucket Entry)) := rebuilt_emptyBuckets _
  refine ⟨wellFormed.isCount, wellFormed.capacity, wellFormed.filled, nofun,
    fun buckets isSome => ?_⟩
  cases isSome
  have nothing : ∀ test : Bucket Entry → Bool, test .empty = false →
      (emptyBuckets table.bucketCount : List (Bucket Entry)).countP test = 0 := by
    intro test fails
    rw [List.countP_eq_zero]
    intro bucket present
    rw [List.eq_of_mem_replicate present, fails]
    exact nofun
  exact ⟨fresh.length, fresh.chained, empty.trans (nothing _ rfl).symm,
    notFilled.trans (nothing _ rfl).symm⟩

/-- How `add` ends. -/
theorem add_cases (wellFormed : WellFormed table) (hash : Nat) (entry : Entry) :
    ((∃ result index, table.add hash entry = .ok (result, index) ∧
        Added table result (trimHash hash, entry) index) ∧
      (table.Overflows (trimHash hash) → table.size ≠ 0)) ∨
    (∃ failure, table.add hash entry = .error failure ∧ failure.IsRefusal ∧
      (table.Overflows (trimHash hash) → table.size = 0 →
        determineCapacity (table.capacity * 2) table.loadFactor = .none)) ∨
    (table.add hash entry = .error .nullBuckets ∧
      table.Overflows (trimHash hash) ∧ table.size = 0 ∧
      determineCapacity (table.capacity * 2) table.loadFactor ≠ .none) := by
  rw [add]
  cases isBuckets : table.buckets with
  | none =>
      obtain ⟨empty, notFilled⟩ := wellFormed.none isBuckets
      have notOver := not_overflows_of_none isBuckets (trimHash hash)
      dsimp only
      by_cases allocates : AllocFits (table.bucketCount * table.bucketSize)
      swap
      · refine Or.inr (Or.inl ⟨.noMemory, ?_, trivial, fun overflows => absurd overflows notOver⟩)
        rw [allocateBuckets, if_neg allocates]
        rfl
      rw [allocateBuckets, if_pos allocates, Except.bind]
      obtain ⟨-, result, index, adds, added⟩ | ⟨overflows, -⟩ :=
        addLoop_cases (wellFormed_allocated wellFormed isBuckets) rfl (trimHash hash) 1 entry
      · refine Or.inl ⟨⟨result, index, adds, added.wellFormed, ?_, added.size, added.found⟩,
          fun overflows => absurd overflows notOver⟩
        refine added.entries.trans ?_
        have nothing : entriesOf (emptyBuckets table.bucketCount : List (Bucket Entry)) =
            [] := by
          rw [entriesOf, List.filterMap_eq_nil_iff]
          intro bucket present
          rw [List.eq_of_mem_replicate present]
          rfl
        rw [Table.entries, Table.entries, isBuckets]
        exact (List.Perm.of_eq nothing).cons _
      · have full := overflows.1
        have sizes := wellFormed.capacity
        dsimp only at full
        omega
  | some buckets =>
      dsimp only
      obtain ⟨notOver, result, index, adds, added⟩ | ⟨overflows, marked, adds, isMarked, entries,
        size, capacity⟩ := addLoop_cases wellFormed isBuckets (trimHash hash) 1 entry
      · exact Or.inl ⟨⟨result, index, adds, added⟩, fun overflows => absurd overflows notOver⟩
      · have stored := wellFormed.some buckets isBuckets
        have sizes := wellFormed.capacity
        have filled := wellFormed.filled
        have isFilled := stored.filled
        have isSize := stored.size
        have fewer := countP_present_le buckets
        have larger : max (table.capacity * 2) marked.size = table.capacity * 2 := by
          rw [size]
          omega
        -- more than half of what is asked for is enough here
        have hasRoom : marked.HasRoom (table.capacity * 2) table.loadFactor := by
          intro sizes isSizes _
          rw [larger] at isSizes
          have half := (suits_of_determineCapacity (Option.mem_def.mp isSizes)).half
          omega
        have rehashes := wellFormed_rehash isMarked (table.capacity * 2) table.loadFactor hasRoom
        rw [larger] at rehashes
        obtain ⟨failure, fails, refuses, none⟩ | ⟨notNone, rehashed, isOk, isRehashed,
          sameEntries, grown, sameSize, counts⟩ := rehashes
        · rw [adds, fails]
          exact Or.inr (Or.inl ⟨failure, rfl, refuses, fun _ empty => none (size.trans empty)⟩)
        · obtain ⟨notFilled, empty⟩ := counts (by omega)
          rw [adds, isOk, Except.bind]
          by_cases isEmpty : table.size = 0
          · rw [addLoop, empty (size.trans isEmpty)]
            exact Or.inr (Or.inr ⟨rfl, overflows, isEmpty, notNone⟩)
          · cases isSome : rehashed.buckets with
            | none =>
                have none := (isRehashed.none isSome).1
                omega
            | some others =>
                obtain ⟨-, result, index, addsNow, added⟩ | ⟨⟨full, -⟩, -⟩ :=
                  addLoop_cases isRehashed isSome (trimHash hash) 0 entry
                · refine Or.inl ⟨⟨result, index, addsNow, added.wellFormed, ?_, ?_, added.found⟩,
                    fun _ => isEmpty⟩
                  · rw [← entries]
                    exact added.entries.trans (sameEntries.cons _)
                  · rw [added.size, sameSize, size]
                · omega

/-! ## `removeAt` and `clear` -/

theorem wellFormed_removeAt (wellFormed : WellFormed table) {result : Table Entry}
    {index : Nat} (removes : table.removeAt index = some result) :
    WellFormed result ∧ ∃ buckets bucket content, table.buckets = some buckets ∧
      buckets[index]? = some bucket ∧ bucket.content = some content ∧
      (content :: result.entries).Perm table.entries ∧ result.size + 1 = table.size := by
  obtain ⟨buckets, isBuckets, removes⟩ := Option.bind_eq_some_iff.mp removes
  obtain ⟨bucket, found, removes⟩ := Option.bind_eq_some_iff.mp removes
  obtain ⟨isPresent, same⟩ := Option.ite_none_right_eq_some.mp removes
  cases same
  obtain ⟨content, isContent⟩ := Option.isSome_iff_exists.mp isPresent
  have stored := wellFormed.some buckets isBuckets
  obtain ⟨inside, -⟩ := List.getElem?_eq_some_iff.mp found
  have present := countP_set_add found { bucket with content := none } Bucket.present
  have filled := countP_set_add found { bucket with content := none } Bucket.filled
  have nowPresent : ({ bucket with content := none } : Bucket Entry).present = false := rfl
  have nowFilled : ({ bucket with content := none } : Bucket Entry).filled =
      bucket.collision := rfl
  have wasFilled : bucket.filled = true := by rw [Bucket.filled, isPresent]; rfl
  rw [isPresent, nowPresent, Bool.toNat_true, Bool.toNat_false] at present
  rw [wasFilled, nowFilled, Bool.toNat_true] at filled
  have isSize := stored.size
  have isFilled := stored.filled
  have bounded := wellFormed.filled
  refine ⟨⟨wellFormed.isCount, wellFormed.capacity, ?_, by rintro ⟨⟩, fun others isOthers => ?_⟩,
    buckets, bucket, content, isBuckets, found, isContent, ?_, ?_⟩
  · dsimp only
    split <;> omega
  · cases isOthers
    refine ⟨by rw [List.length_set]; exact stored.length, ?_, ?_, ?_⟩
    · intro other kept keptContent isKept isKeptContent
      obtain ⟨old, isOld, sameContent⟩ : ∃ old, buckets[other]? = some old ∧
          old.content = some keptContent := by
        by_cases same : index = other
        · subst same
          rw [List.getElem?_set_self inside] at isKept
          cases isKept
          cases isKeptContent
        · rw [List.getElem?_set_ne same] at isKept
          exact ⟨kept, isKept, isKeptContent⟩
      obtain ⟨steps, few, isIndex, passed⟩ := stored.chained other old keptContent isOld sameContent
      refine ⟨steps, few, isIndex, fun earlier before => ?_⟩
      obtain ⟨marked, isMarked, collides⟩ := passed earlier before
      by_cases same : index = position keptContent.1 table.bucketCount earlier
      · rw [← same, found] at isMarked
        cases isMarked
        rw [← same]
        exact ⟨_, List.getElem?_set_self inside, collides⟩
      · exact ⟨marked, (List.getElem?_set_ne same).trans isMarked, collides⟩
    · dsimp only
      omega
    · dsimp only
      cases collides : bucket.collision with
      | true =>
          rw [collides, Bool.toNat_true] at filled
          simp only [Bool.not_true, Bool.false_eq_true, if_false]
          omega
      | false =>
          rw [collides, Bool.toNat_false] at filled
          simp only [Bool.not_false, if_true]
          omega
  · obtain ⟨others, before, after⟩ := exists_others_of_filterMap_set found
      { bucket with content := none } Bucket.content
    rw [isContent] at before
    rw [Table.entries, Table.entries, isBuckets]
    exact (after.cons content).trans before.symm
  · dsimp only
    omega

/-- No bucket that is filled stays when the buckets are cleared up to the number of entries. -/
def ClearsAll (table : Table Entry) (onlyOwner : Bool) : Prop :=
  onlyOwner = true → table.filledBuckets ≠ 0 →
    ∀ bucket ∈ (table.buckets.getD []).drop table.size, bucket.filled = false

/-- After `clear` a table is as it has to be iff no filled bucket stayed. -/
theorem wellFormed_clear_iff (wellFormed : WellFormed table) (onlyOwner : Bool) :
    WellFormed (table.clear onlyOwner) ↔ table.ClearsAll onlyOwner := by
  rw [clear, ClearsAll]
  cases isBuckets : table.buckets with
  | none =>
      refine iff_of_true wellFormed fun _ _ bucket present => ?_
      simp at present
  | some buckets =>
      have stored := wellFormed.some buckets isBuckets
      have isSize := stored.size
      have isFilled := stored.filled
      have fewer := countP_present_le buckets
      have sizes := wellFormed.capacity
      dsimp only
      split
      · rename_i someFilled
        split
        · rename_i isOwner
          constructor
          · intro cleared _ _ bucket present
            have counts := (cleared.some _ rfl).filled
            have none := List.countP_eq_zero.mp counts.symm bucket
              (List.mem_append_right _ present)
            simpa using none
          · intro clears
            have empty : ∀ bucket ∈ List.replicate (min table.size buckets.length) Bucket.empty ++
                buckets.drop table.size, bucket.filled = false := by
              intro bucket present
              obtain new | old := List.mem_append.mp present
              · rw [List.eq_of_mem_replicate new]
                rfl
              · exact clears isOwner someFilled bucket old
            refine ⟨wellFormed.isCount, sizes, Nat.zero_le _, by rintro ⟨⟩,
              fun others isOthers => ?_⟩
            cases isOthers
            refine ⟨?_, fun index bucket content found isContent => ?_, ?_, ?_⟩
            · rw [List.length_append, List.length_replicate, List.length_drop]
              have length := stored.length
              dsimp only
              omega
            · have notFilled := empty bucket (List.mem_of_getElem? found)
              rw [Bucket.filled, Bucket.present, isContent] at notFilled
              cases notFilled
            · refine (List.countP_eq_zero.mpr fun bucket present isPresent => ?_).symm
              have notFilled := empty bucket present
              rw [Bucket.filled, isPresent] at notFilled
              cases notFilled
            · refine (List.countP_eq_zero.mpr fun bucket present isPresent => ?_).symm
              rw [empty bucket present] at isPresent
              cases isPresent
        · rename_i notOwner
          exact iff_of_true ⟨wellFormed.isCount, sizes, Nat.zero_le _, fun _ => ⟨rfl, rfl⟩,
            by rintro _ ⟨⟩⟩
            fun isOwner => absurd isOwner notOwner
      · rename_i noneFilled
        have zero : table.filledBuckets = 0 := by omega
        refine iff_of_true ⟨wellFormed.isCount, sizes, wellFormed.filled, fun _ => ⟨rfl, zero⟩,
          fun others isOthers => ?_⟩ fun _ someFilled => absurd zero someFilled
        cases isOthers
        exact ⟨stored.length, stored.chained, by dsimp only; omega, stored.filled⟩

end Table
end BasicHashtable
end Skplat
