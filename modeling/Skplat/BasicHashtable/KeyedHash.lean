import Mathlib.Logic.Function.Basic
import Skplat.BasicHashtable.Runs

/-!
# `KeyedHash` and `SimpleHash`

Tables with one entry for each key: `add` removes the entry with the key before it adds the new
one.  As long as `add` is not called on a stale table, such a table is a map, which for each
key has the entry that was added last and not removed.  A table from which nothing is removed
otherwise does not become stale.

`mSize` is not read by anything.
-/

namespace Skplat
namespace BasicHashtable

open Sknet (AllocFits)

variable {Entry Key : Type} [DecidableEq Key]

namespace KeyedHash

section Definitions

variable (getKey : Entry → Key) (hashOf : Key → Nat) (mContain : Table Entry) (key : Key)

/-- The constructor. -/
def new (entrySize capacity : Nat) : Except Failure (Table Entry) :=
  Table.new entrySize capacity State.threeQuarters

/-- `get`, with nothing for `mNullItem`. -/
def get : Except Failure (Option Entry) :=
  (mContain.find getKey none (hashOf key) key).map fun idx => idx.bind mContain.entryAt

/-- `remove`.  An index that was found is one of an entry. -/
def remove : Except Failure (Table Entry) :=
  (mContain.find getKey none (hashOf key) key).bind fun
    | none => .ok mContain
    | some idx => (mContain.removeAt idx).elim (.error .nullBuckets) .ok

/-- `add`. -/
def add (value : Entry) : Except Failure (Table Entry × Nat) :=
  (remove getKey hashOf mContain key).bind fun mContain => mContain.add (hashOf key) value

/-- Entries are added under their keys. -/
def addAll (values : List Entry) : Except Failure (Table Entry) :=
  values.foldlM
    (fun mContain value =>
      (add getKey hashOf mContain (getKey value) value).map Prod.fst)
    mContain

end Definitions

variable {getKey : Entry → Key} {hashOf : Key → Nat}
variable {mContain : Table Entry} {key : Key} {map : Key → Option Entry}

/-- The table has one entry for each key, as a map. -/
structure Mirrors (getKey : Entry → Key) (hashOf : Key → Nat) (mContain : Table Entry)
    (map : Key → Option Entry) : Prop where
  wellFormed : WellFormed mContain
  hashesFit : mContain.HashesFit getKey hashOf
  distinct : (mContain.entries.map fun content => getKey content.2).Nodup
  entries : ∀ key entry, map key = some entry ↔
    entry ∈ mContain.entries.map Prod.snd ∧ getKey entry = key

theorem get_eq (mirrors : Mirrors getKey hashOf mContain map) (key : Key) :
    get getKey hashOf mContain key = .ok (map key) := by
  obtain ⟨index, finds, holds⟩ | ⟨finds, none⟩ :=
    Table.find_cases mirrors.wellFormed mirrors.hashesFit key
  · obtain ⟨entry, isEntry, isKey⟩ := Table.holds_iff.mp holds
    have present : map key = some entry := by
      refine (mirrors.entries key entry).mpr ⟨?_, isKey⟩
      obtain ⟨bucket, content, found, isContent, -⟩ := holds
      have isPresent := Table.mem_entries found isContent
      rw [Table.entryAt, Table.contentAt, found, Option.bind_some, isContent, Option.map_some,
        Option.some_inj] at isEntry
      rw [← isEntry]
      exact List.mem_map_of_mem isPresent
    rw [get, finds, present]
    exact congrArg Except.ok isEntry
  · have absent : map key = .none := by
      rw [Option.eq_none_iff_forall_ne_some]
      intro entry present
      obtain ⟨inside, isKey⟩ := (mirrors.entries key entry).mp present
      obtain ⟨content, isContent, rfl⟩ := List.mem_map.mp inside
      obtain ⟨index, holds⟩ := Table.exists_holds_iff.mpr ⟨content, isContent, isKey⟩
      exact none index holds
    rw [get, finds, absent]
    rfl

/-- The map with another entry. -/
def put (getKey : Entry → Key) (map : Key → Option Entry) (value : Entry) : Key → Option Entry :=
  Function.update map (getKey value) (some value)

/-- A table without the entry with a key. -/
theorem Mirrors.removed (mirrors : Mirrors getKey hashOf mContain map) {result : Table Entry}
    {content : Nat × Entry} (wellFormed : WellFormed result)
    (entries : (content :: result.entries).Perm mContain.entries) :
    Mirrors getKey hashOf result (Function.update map (getKey content.2) none) := by
  have keys : (getKey content.2 :: result.entries.map fun content => getKey content.2).Nodup :=
    (entries.map fun content : Nat × Entry => getKey content.2).nodup_iff.mpr mirrors.distinct
  obtain ⟨absent, distinct⟩ := List.nodup_cons.mp keys
  have members (entry : Entry) : entry ∈ mContain.entries.map Prod.snd ↔
      entry = content.2 ∨ entry ∈ result.entries.map Prod.snd := by
    rw [← (entries.map Prod.snd).mem_iff, List.map_cons, List.mem_cons]
  refine ⟨wellFormed, fun other present => ?_, distinct, fun key entry => ?_⟩
  · exact mirrors.hashesFit other (entries.mem_iff.mp (List.mem_cons_of_mem _ present))
  · by_cases same : key = getKey content.2
    · rw [same, Function.update_self]
      refine iff_of_false nofun ?_
      rintro ⟨present, isKey⟩
      obtain ⟨other, isPresent, rfl⟩ := List.mem_map.mp present
      exact absent (List.mem_map.mpr ⟨other, isPresent, isKey⟩)
    · rw [Function.update_of_ne same, mirrors.entries, members]
      constructor
      · rintro ⟨rfl | present, isKey⟩
        · exact absurd isKey.symm same
        · exact ⟨present, isKey⟩
      · rintro ⟨present, isKey⟩
        exact ⟨Or.inr present, isKey⟩

/-- A table with an entry with a new key. -/
theorem Mirrors.added (mirrors : Mirrors getKey hashOf mContain map) {result : Table Entry}
    {value : Entry} {index : Nat} (absent : map (getKey value) = none)
    (added : Table.Added mContain result (trimHash (hashOf (getKey value)), value) index) :
    Mirrors getKey hashOf result (put getKey map value) := by
  have members (entry : Entry) : entry ∈ result.entries.map Prod.snd ↔
      entry = value ∨ entry ∈ mContain.entries.map Prod.snd := by
    rw [(added.entries.map Prod.snd).mem_iff, List.map_cons, List.mem_cons]
  refine ⟨added.wellFormed, fun content present => ?_, ?_, fun key entry => ?_⟩
  · obtain rfl | old := List.mem_cons.mp (added.entries.mem_iff.mp present)
    · rfl
    · exact mirrors.hashesFit content old
  · refine (added.entries.map fun content => getKey content.2).nodup_iff.mpr
      (List.nodup_cons.mpr ⟨fun present => ?_, mirrors.distinct⟩)
    obtain ⟨content, inside, isKey⟩ := List.mem_map.mp present
    have stored := (mirrors.entries (getKey value) content.2).mpr
      ⟨List.mem_map_of_mem inside, isKey⟩
    rw [absent] at stored
    cases stored
  · rw [put, members]
    by_cases same : key = getKey value
    · rw [same, Function.update_self, Option.some_inj]
      constructor
      · rintro rfl
        exact ⟨Or.inl rfl, rfl⟩
      · rintro ⟨rfl | present, isKey⟩
        · rfl
        · have stored := (mirrors.entries (getKey value) entry).mpr ⟨present, isKey⟩
          rw [absent] at stored
          cases stored
    · rw [Function.update_of_ne same, mirrors.entries]
      constructor
      · rintro ⟨present, isKey⟩
        exact ⟨Or.inr present, isKey⟩
      · rintro ⟨rfl | present, isKey⟩
        · exact absurd isKey.symm same
        · exact ⟨present, isKey⟩

/-- `remove` takes out at most one entry. -/
theorem remove_cases (mirrors : Mirrors getKey hashOf mContain map) (key : Key) :
    ∃ result, remove getKey hashOf mContain key = .ok result ∧
      Mirrors getKey hashOf result (Function.update map key none) ∧
      (result = mContain ∨ ∃ index, mContain.removeAt index = some result) := by
  obtain ⟨index, finds, holds⟩ | ⟨finds, none⟩ :=
    Table.find_cases mirrors.wellFormed mirrors.hashesFit key
  · obtain ⟨result, removes⟩ : ∃ result, mContain.removeAt index = some result := by
      obtain ⟨entry, isEntry, -⟩ := Table.holds_iff.mp holds
      exact Table.exists_removeAt (Option.isSome_of_eq_some isEntry)
    obtain ⟨bucket, content, found, isContent, isKey⟩ := holds
    obtain ⟨wellFormed, buckets, other, otherContent, isBuckets, isOther, isOtherContent,
      entries, -⟩ := Table.wellFormed_removeAt mirrors.wellFormed removes
    rw [isBuckets, Option.getD_some] at found
    cases found.symm.trans isOther
    cases isContent.symm.trans isOtherContent
    refine ⟨result, ?_, ?_, Or.inr ⟨index, removes⟩⟩
    · rw [remove, finds]
      dsimp only [Except.bind]
      rw [removes]
      rfl
    · rw [← isKey]
      exact mirrors.removed wellFormed entries
  · refine ⟨mContain, ?_, ?_, Or.inl rfl⟩
    · rw [remove, finds]
      rfl
    · have absent : map key = .none := by
        have gets := get_eq mirrors key
        rw [get, finds] at gets
        exact (Except.ok.inj gets).symm
      rw [← absent, Function.update_eq_self]
      exact mirrors

/-- `add` replaces the entry with the key, unless it is refused, or the table without that
entry is stale. -/
theorem add_cases (mirrors : Mirrors getKey hashOf mContain map) (value : Entry) :
    ∃ removed, remove getKey hashOf mContain (getKey value) = .ok removed ∧
      WellFormed removed ∧
      ((∃ result idx, add getKey hashOf mContain (getKey value) value = .ok (result, idx) ∧
          Table.Added removed result (trimHash (hashOf (getKey value)), value) idx ∧
          Mirrors getKey hashOf result (put getKey map value)) ∨
        ∃ failure, add getKey hashOf mContain (getKey value) value = .error failure ∧
          (failure.IsRefusal ∨ removed.IsStale (trimHash (hashOf (getKey value))))) := by
  obtain ⟨removed, removes, without, -⟩ := remove_cases mirrors (getKey value)
  refine ⟨removed, removes, without.wellFormed, ?_⟩
  have calls : add getKey hashOf mContain (getKey value) value =
      removed.add (hashOf (getKey value)) value := by
    rw [add, removes]
    rfl
  rw [calls]
  obtain ⟨⟨result, index, adds, added⟩, -⟩ | ⟨failure, fails, refuses, -⟩ |
      ⟨fails, overflows, empty, -⟩ :=
    Table.add_cases without.wellFormed (hashOf (getKey value)) value
  · refine Or.inl ⟨result, index, adds, added, ?_⟩
    have now := without.added (Function.update_self _ _ _) added
    rwa [put, Function.update_idem] at now
  · exact Or.inr ⟨failure, fails, Or.inl refuses⟩
  · exact Or.inr ⟨_, fails,
      Or.inr ((Table.overflows_iff_of_empty without.wellFormed empty _).mp overflows)⟩

/-! ## Tables that are only added to -/

/-- No bucket is marked. -/
def IsUnmarked (mContain : Table Entry) : Prop :=
  ∀ bucket ∈ mContain.buckets.getD [], bucket.collision = false

/-- Entries only collide with other ones. -/
def AddedOnly (mContain : Table Entry) : Prop :=
  mContain.size ≤ 1 → IsUnmarked mContain

omit [DecidableEq Key] in
theorem IsUnmarked.filledBuckets_eq_zero (unmarked : IsUnmarked mContain)
    (wellFormed : WellFormed mContain) (empty : mContain.size = 0) :
    mContain.filledBuckets = 0 := by
  cases isBuckets : mContain.buckets with
  | none => exact (wellFormed.none isBuckets).2
  | some buckets =>
      have stored := wellFormed.some buckets isBuckets
      rw [IsUnmarked, isBuckets] at unmarked
      rw [stored.filled, List.countP_eq_zero]
      intro bucket inside isFilled
      rw [Bucket.filled, unmarked bucket inside, Bool.or_false] at isFilled
      exact List.countP_eq_zero.mp (stored.size.symm.trans empty) bucket inside isFilled

omit [DecidableEq Key] in
/-- Without entries and marks, the first bucket gets the entry. -/
theorem isUnmarked_addLoop (unmarked : IsUnmarked mContain) (wellFormed : WellFormed mContain)
    (empty : mContain.size = 0) {buckets : List (Bucket Entry)}
    (isBuckets : mContain.buckets = some buckets) {hash fuel index : Nat} {value : Entry}
    {result : Table Entry}
    (loops : mContain.addLoop hash value (fuel + 1) = .ok (result, index)) :
    IsUnmarked result := by
  have notFilled := unmarked.filledBuckets_eq_zero wellFormed empty
  have walks := Table.walk_of_empty wellFormed isBuckets empty hash
  have sizes := wellFormed.capacity
  rw [Table.addLoop, isBuckets] at loops
  simp only [walks, Except.bind] at loops
  split at loops
  · rename_i overflows
    rw [Bool.and_eq_true, decide_eq_true_eq] at overflows
    omega
  · cases loops
    rw [IsUnmarked, isBuckets] at unmarked
    intro bucket inside
    obtain old | rfl := List.mem_or_eq_of_mem_set inside
    · exact unmarked bucket old
    · cases found : buckets[chainStart hash mContain.bucketCount]? with
      | none => rfl
      | some first => exact unmarked first (List.mem_of_getElem? found)

omit [DecidableEq Key] in
/-- `add` marks nothing in a table without entries. -/
theorem isUnmarked_add (unmarked : IsUnmarked mContain) (wellFormed : WellFormed mContain)
    (empty : mContain.size = 0) {hash index : Nat} {value : Entry} {result : Table Entry}
    (adds : mContain.add hash value = .ok (result, index)) : IsUnmarked result := by
  rw [Table.add] at adds
  cases isBuckets : mContain.buckets with
  | some buckets =>
      rw [isBuckets] at adds
      exact isUnmarked_addLoop unmarked wellFormed empty isBuckets adds
  | none =>
      rw [isBuckets] at adds
      by_cases allocates : AllocFits (mContain.bucketCount * mContain.bucketSize)
      · rw [allocateBuckets, if_pos allocates] at adds
        refine isUnmarked_addLoop ?_ (Table.wellFormed_allocated wellFormed isBuckets) empty rfl
          adds
        intro bucket inside
        rw [List.eq_of_mem_replicate inside]
        rfl
      · rw [allocateBuckets, if_neg allocates] at adds
        cases adds

/-- Without its last entry a table that was only added to is not marked. -/
theorem AddedOnly.remove (addedOnly : AddedOnly mContain)
    (mirrors : Mirrors getKey hashOf mContain map) {key : Key} {result : Table Entry}
    (removes : remove getKey hashOf mContain key = .ok result) (empty : result.size = 0) :
    IsUnmarked result := by
  obtain ⟨other, isResult, -, rfl | ⟨index, removed⟩⟩ := remove_cases mirrors key
  · cases isResult.symm.trans removes
    exact addedOnly (by omega)
  · cases isResult.symm.trans removes
    obtain ⟨-, -, -, -, -, -, -, -, size⟩ :=
      Table.wellFormed_removeAt mirrors.wellFormed removed
    have unmarked := addedOnly (by omega)
    obtain ⟨buckets, isBuckets, isRemoved⟩ := Option.bind_eq_some_iff.mp removed
    obtain ⟨bucket, found, isRemoved⟩ := Option.bind_eq_some_iff.mp isRemoved
    obtain ⟨-, same⟩ := Option.ite_none_right_eq_some.mp isRemoved
    cases same
    rw [IsUnmarked, isBuckets] at unmarked
    intro other inside
    obtain old | rfl := List.mem_or_eq_of_mem_set inside
    · exact unmarked other old
    · exact unmarked bucket (List.mem_of_getElem? found)

/-- Entries that are added are found under their keys, the last one of each key, unless an
`add` is refused. -/
theorem addAll_cases (mirrors : Mirrors getKey hashOf mContain map)
    (addedOnly : AddedOnly mContain) (values : List Entry) :
    (∃ failure, addAll getKey hashOf mContain values = .error failure ∧ failure.IsRefusal) ∨
    ∃ result, addAll getKey hashOf mContain values = .ok result ∧
      Mirrors getKey hashOf result (values.foldl (put getKey) map) ∧ AddedOnly result := by
  induction values generalizing mContain map with
  | nil => exact Or.inr ⟨mContain, rfl, mirrors, addedOnly⟩
  | cons value values inductionHypothesis =>
      rw [addAll, List.foldlM_cons, List.foldl_cons]
      obtain ⟨removed, removes, wellFormed, ⟨next, idx, adds, added, nextMirrors⟩ |
        ⟨failure, fails, why⟩⟩ := add_cases mirrors value
      · rw [adds]
        refine inductionHypothesis nextMirrors fun few => ?_
        have size : next.size ≤ 1 := few
        have empty : removed.size = 0 := by
          rw [added.size] at size
          omega
        have unmarked := addedOnly.remove mirrors removes empty
        rw [add, removes] at adds
        exact isUnmarked_add unmarked wellFormed empty adds
      · rw [fails]
        refine Or.inl ⟨failure, rfl, why.resolve_right ?_⟩
        rintro ⟨empty, full, -⟩
        have unmarked := addedOnly.remove mirrors removes empty
        have notFilled := unmarked.filledBuckets_eq_zero wellFormed empty
        have sizes := wellFormed.capacity
        omega

omit [DecidableEq Key] in
theorem mirrors_new {entrySize capacity : Nat} (isNew : new entrySize capacity = .ok mContain) :
    Mirrors getKey hashOf mContain (fun _ => none) ∧ AddedOnly mContain := by
  have sound : State.Sound getKey hashOf { table := mContain, entries := [], failed := none } :=
    State.new_sound isNew
  have none : mContain.entries = [] := List.map_eq_nil_iff.mp (List.perm_nil.mp sound.entries)
  refine ⟨⟨sound.wellFormed, sound.hashesFit, ?_, fun key entry => ?_⟩, fun few => ?_⟩
  · rw [none]
    exact List.nodup_nil
  · rw [none]
    refine iff_of_false (fun isSome => ?_) fun inside => List.not_mem_nil inside.1
    cases isSome
  · rw [new, Table.new] at isNew
    split at isNew
    · cases isNew
    · cases isNew
      intro bucket inside
      cases inside

/-- A new table with entries that are added. -/
theorem addAll_new (getKey : Entry → Key) (hashOf : Key → Nat) {entrySize capacity : Nat}
    (isNew : new entrySize capacity = .ok mContain) (values : List Entry) :
    (∃ failure, addAll getKey hashOf mContain values = .error failure ∧ failure.IsRefusal) ∨
    ∃ result, addAll getKey hashOf mContain values = .ok result ∧
      Mirrors getKey hashOf result (values.foldl (put getKey) fun _ => none) := by
  have start : Mirrors getKey hashOf mContain (fun _ => none) ∧ AddedOnly mContain :=
    mirrors_new isNew
  refine (addAll_cases start.1 start.2 values).imp_right ?_
  rintro ⟨result, adds, mirrors, -⟩
  exact ⟨result, adds, mirrors⟩

/-- Without an order, the entries are those of a list with different keys. -/
theorem Mirrors.perm {entries : List Entry}
    (mirrors : Mirrors getKey hashOf mContain fun key => entries.find? (getKey · = key))
    (distinct : (entries.map getKey).Nodup) :
    (mContain.entries.map Prod.snd).Perm entries := by
  have stored : (mContain.entries.map Prod.snd).Nodup := by
    refine List.Nodup.of_map getKey ?_
    rw [List.map_map]
    exact mirrors.distinct
  rw [List.perm_ext_iff_of_nodup stored (List.Nodup.of_map getKey distinct)]
  intro entry
  have found := mirrors.entries (getKey entry) entry
  rw [and_iff_left rfl] at found
  rw [← found]
  constructor
  · exact fun isFound => List.mem_of_find?_eq_some isFound
  · intro inside
    have isSome : (entries.find? (getKey · = getKey entry)).isSome := by
      rw [List.find?_isSome]
      exact ⟨entry, inside, decide_eq_true rfl⟩
    obtain ⟨other, isOther⟩ := Option.isSome_iff_exists.mp isSome
    have sameKey : getKey other = getKey entry := by
      simpa using List.find?_some isOther
    have same := List.inj_on_of_nodup_map distinct (List.mem_of_find?_eq_some isOther) inside
      sameKey
    rw [← same, sameKey]
    exact isOther

end KeyedHash
end BasicHashtable
end Skplat
