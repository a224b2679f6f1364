import Skplat.BasicHashtable.Find
import Skplat.Machine.Basic

/-!
# A table over many calls

A table holds the entries that were added and not removed, and `find` goes through those with
a key.  Three calls can break it: `add` on a table whose entries were all removed while as many
buckets as the capacity were marked, `clear` of buckets that no other table shares, which
resets only as many of them as there are entries, and `rehash` of so many entries that a
rounded capacity is less than their number.
-/

namespace Skplat
namespace BasicHashtable

open Binary32 (Number)

variable {Entry Key : Type}

/-- A table, and what happened. -/
structure State (Entry : Type) where
  table : Table Entry
  /-- The entries that were added and not removed. -/
  entries : List Entry
  /-- Why the last call did not return. -/
  failed : Option Failure

/-- A call. -/
inductive Action (Entry : Type)
  | add (entry : Entry)
  /-- The index is one of an entry. -/
  | removeAt (index : Nat)
  | rehash (minimumCapacity : Nat) (loadFactor : Number)
  | clear (onlyOwner : Bool)

namespace State

variable [DecidableEq Entry]
variable (getKey : Entry → Key) (hashOf : Key → Nat)

/-- The entry at an index. -/
def entryAt (state : State Entry) (index : Nat) : Option Entry :=
  ((state.table.buckets.getD [])[index]?.bind Bucket.content).map Prod.snd

/-- One call. -/
def step (state : State Entry) (action : Action Entry) :
    Option (State Entry) :=
  if state.failed.isSome then none
  else
    match action with
    | .add entry =>
        some (match state.table.add (hashOf (getKey entry)) entry with
          | .ok (table, _) => { state with table, entries := entry :: state.entries }
          | .error failure => { state with failed := some failure })
    | .removeAt index =>
        (state.table.removeAt index).bind fun table =>
          (state.entryAt index).map fun entry =>
            { state with table, entries := state.entries.erase entry }
    | .rehash minimumCapacity loadFactor =>
        some (match state.table.rehash minimumCapacity loadFactor with
          | .ok table => { state with table }
          | .error failure => { state with failed := some failure })
    | .clear onlyOwner =>
        some { state with table := state.table.clear onlyOwner, entries := [] }

end State

/-- A table with its calls. -/
def system [DecidableEq Entry]
    (getKey : Entry → Key) (hashOf : Key → Nat) : Machine (State Entry) (Action Entry) where
  initial state := ∃ entrySize minimum loadFactor table,
    Table.new entrySize minimum loadFactor = .ok table ∧
    state = { table, entries := [], failed := none }
  step := State.step getKey hashOf

namespace Table

/-- All entries were removed, as many buckets as the capacity are marked, and the first bucket
for the hash is not. -/
def IsStale (table : Table Entry) (hash : Nat) : Prop :=
  table.size = 0 ∧ table.capacity ≤ table.filledBuckets ∧
    ∃ bucket ∈ (table.buckets.getD [])[chainStart hash table.bucketCount]?,
      bucket.collision = false

instance (table : Table Entry) (hash : Nat) : Decidable (table.IsStale hash) :=
  inferInstanceAs (Decidable (_ ∧ _ ∧ _))

instance (table : Table Entry) (onlyOwner : Bool) :
    Decidable (table.ClearsAll onlyOwner) :=
  inferInstanceAs (Decidable (_ → _ → _))

variable {table : Table Entry}

/-- In a table without entries the walk stays at the first bucket. -/
theorem walk_of_empty (wellFormed : WellFormed table) {buckets : List (Bucket Entry)}
    (isBuckets : table.buckets = some buckets) (empty : table.size = 0) (hash : Nat) :
    walk (chainIncrement hash table.bucketCount) table.bucketCount table.bucketCount buckets
      (chainStart hash table.bucketCount) =
        .ok (buckets, chainStart hash table.bucketCount) := by
  have stored := wellFormed.some buckets isBuckets
  have start := wellFormed.isCount.position_zero hash
  have inside : chainStart hash table.bucketCount < buckets.length := by
    rw [stored.length, ← start]
    exact wellFormed.isCount.position_lt 0
  have found := List.getElem?_eq_getElem inside
  generalize buckets[chainStart hash table.bucketCount] = first at found
  have notPresent : first.present = false := by
    have none := List.countP_eq_zero.mp (stored.size.symm.trans empty) first
      (List.mem_of_getElem? found)
    simpa using none
  obtain ⟨fuel, isFuel⟩ := Nat.exists_eq_succ_of_ne_zero wellFormed.isCount.pos.ne'
  generalize chainIncrement hash table.bucketCount = increment
  generalize chainStart hash table.bucketCount = index at found
  rw [isFuel, walk, found]
  simp [notPresent]

/-- In a table without entries `add` looks at the first bucket only. -/
theorem overflows_iff_of_empty (wellFormed : WellFormed table) (empty : table.size = 0)
    (hash : Nat) : table.Overflows hash ↔ table.IsStale hash := by
  cases isBuckets : table.buckets with
  | none =>
      have notFilled := (wellFormed.none isBuckets).2
      have sizes := wellFormed.capacity
      refine iff_of_false (not_overflows_of_none isBuckets hash) fun stale => ?_
      have full := stale.2.1
      omega
  | some buckets =>
      have walks := walk_of_empty wellFormed isBuckets empty hash
      constructor
      · rintro ⟨full, others, marked, index, bucket, isOthers, otherWalks, isBucket, unmarked⟩
        cases isBuckets.symm.trans isOthers
        cases walks.symm.trans otherWalks
        refine ⟨empty, full, bucket, ?_, unmarked⟩
        rw [isBuckets]
        exact isBucket
      · rintro ⟨-, full, bucket, isBucket, unmarked⟩
        rw [isBuckets] at isBucket
        exact ⟨full, buckets, buckets, _, bucket, isBuckets, walks, isBucket, unmarked⟩

theorem entries_eq_nil (wellFormed : WellFormed table) (empty : table.size = 0) :
    table.entries = [] := by
  rw [Table.entries]
  cases isBuckets : table.buckets with
  | none => rfl
  | some buckets =>
      exact entriesOf_eq_nil ((wellFormed.some buckets isBuckets).size.symm.trans empty)

theorem size_clear (wellFormed : WellFormed table) (onlyOwner : Bool) :
    (table.clear onlyOwner).size = 0 := by
  rw [clear]
  cases isBuckets : table.buckets with
  | none => exact (wellFormed.none isBuckets).1
  | some buckets =>
      dsimp only
      split
      · split <;> rfl
      · rfl

end Table

/-! ## Runs -/

namespace State

variable [DecidableEq Entry]
variable {getKey : Entry → Key} {hashOf : Key → Nat}

/-- The table has the entries, and the calls returned, unless there was no capacity or no
memory. -/
structure Sound (getKey : Entry → Key) (hashOf : Key → Nat) (state : State Entry) :
    Prop where
  wellFormed : WellFormed state.table
  hashesFit : state.table.HashesFit getKey hashOf
  entries : (state.table.entries.map Prod.snd).Perm state.entries
  returned : ∀ failure ∈ state.failed, failure.IsRefusal

/-- `add` is not called on a table that is stale, `clear` leaves no entry, and `rehash` has
room for the entries. -/
def Keeps (getKey : Entry → Key) (hashOf : Key → Nat) (state : State Entry) :
    Action Entry → Prop
  | .add entry => ¬(state.table.IsStale (trimHash (hashOf (getKey entry))) ∧
      determineCapacity (state.table.capacity * 2) state.table.loadFactor ≠ none)
  | .removeAt _ => True
  | .rehash minimumCapacity loadFactor => state.table.HasRoom minimumCapacity loadFactor
  | .clear onlyOwner => state.table.ClearsAll onlyOwner

instance (state : State Entry) : DecidablePred (Keeps getKey hashOf state)
  | .add _ => inferInstanceAs (Decidable (¬(_ ∧ ¬_)))
  | .removeAt _ => isTrue trivial
  | .rehash _ _ => inferInstanceAs (Decidable (Table.HasRoom _ _ _))
  | .clear _ => inferInstanceAs (Decidable (Table.ClearsAll _ _))

omit [DecidableEq Entry] in
theorem new_sound {entrySize minimum : Nat} {loadFactor : Number} {table : Table Entry}
    (isNew : Table.new entrySize minimum loadFactor = .ok table) :
    Sound getKey hashOf { table, entries := [], failed := none } := by
  rw [Table.new] at isNew
  split at isNew
  · cases isNew
  · rename_i determined
    cases isNew
    have suits := suits_of_determineCapacity determined
    exact ⟨⟨suits.isCount, ⟨suits.positive, suits.free⟩, Nat.zero_le _, fun _ => ⟨rfl, rfl⟩,
      nofun⟩, nofun, List.Perm.refl _, nofun⟩

omit [DecidableEq Entry] in
theorem Sound.of_entries {state : State Entry} {table : Table Entry}
    (sound : Sound getKey hashOf state) (wellFormed : WellFormed table)
    (entries : table.entries.Perm state.table.entries) :
    Sound getKey hashOf { state with table } where
  wellFormed := wellFormed
  hashesFit content present := sound.hashesFit content (entries.mem_iff.mp present)
  entries := (entries.map _).trans sound.entries
  returned := sound.returned

omit [DecidableEq Entry] in
theorem Sound.refused {state : State Entry} (sound : Sound getKey hashOf state)
    {failure : Failure} (refuses : failure.IsRefusal) :
    Sound getKey hashOf { state with failed := some failure } where
  wellFormed := sound.wellFormed
  hashesFit := sound.hashesFit
  entries := sound.entries
  returned other isFailure := by
    rw [← Option.mem_some.mp isFailure]
    exact refuses

omit [DecidableEq Entry] in
theorem Sound.add {state : State Entry} {table : Table Entry}
    (sound : Sound getKey hashOf state) (entry : Entry) {index : Nat}
    (added : Table.Added state.table table (trimHash (hashOf (getKey entry)), entry) index) :
    Sound getKey hashOf { state with table, entries := entry :: state.entries } where
  wellFormed := added.wellFormed
  hashesFit content present := by
    obtain rfl | old := List.mem_cons.mp (added.entries.mem_iff.mp present)
    · rfl
    · exact sound.hashesFit content old
  entries := (added.entries.map _).trans (sound.entries.cons entry)
  returned := sound.returned

theorem Sound.step {state next : State Entry} {action : Action Entry}
    (sound : Sound getKey hashOf state) (keeps : Keeps getKey hashOf state action)
    (stepped : state.step getKey hashOf action = some next) :
    Sound getKey hashOf next := by
  obtain ⟨-, stepped⟩ := Option.ite_none_left_eq_some.mp stepped
  cases action with
  | add entry =>
      rw [Option.some_inj] at stepped
      subst stepped
      obtain ⟨⟨table, index, adds, added⟩, -⟩ | ⟨failure, adds, refuses, -⟩ |
          ⟨-, overflows, empty, notNone⟩ :=
        Table.add_cases sound.wellFormed (hashOf (getKey entry)) entry
      · rw [adds]
        exact sound.add entry added
      · rw [adds]
        exact sound.refused refuses
      · refine absurd ⟨?_, notNone⟩ keeps
        exact (Table.overflows_iff_of_empty sound.wellFormed empty _).mp overflows
  | removeAt index =>
      obtain ⟨table, removes, stepped⟩ := Option.bind_eq_some_iff.mp stepped
      obtain ⟨entry, isEntry, same⟩ := Option.map_eq_some_iff.mp stepped
      subst same
      obtain ⟨wellFormed, buckets, bucket, content, isBuckets, found, isContent, entries, -⟩ :=
        Table.wellFormed_removeAt sound.wellFormed removes
      rw [entryAt, isBuckets, Option.getD_some, found, Option.bind_some, isContent,
        Option.map_some, Option.some_inj] at isEntry
      refine ⟨wellFormed, fun other present => ?_, ?_, sound.returned⟩
      · exact sound.hashesFit other (entries.mem_iff.mp (List.mem_cons_of_mem _ present))
      · refine (List.cons_perm_iff_perm_erase.mp ?_).2
        rw [← isEntry]
        exact (entries.map Prod.snd).trans sound.entries
  | rehash minimumCapacity loadFactor =>
      rw [Option.some_inj] at stepped
      subst stepped
      obtain ⟨failure, fails, refuses, -⟩ | ⟨-, table, isOk, wellFormed, entries, -⟩ :=
        Table.wellFormed_rehash sound.wellFormed minimumCapacity loadFactor keeps
      · rw [fails]
        exact sound.refused refuses
      · rw [isOk]
        exact sound.of_entries wellFormed entries
  | clear onlyOwner =>
      rw [Option.some_inj] at stepped
      subst stepped
      have wellFormed := (Table.wellFormed_clear_iff sound.wellFormed onlyOwner).mpr keeps
      have empty := Table.entries_eq_nil wellFormed (Table.size_clear sound.wellFormed onlyOwner)
      refine ⟨wellFormed, fun content present => ?_, ?_, sound.returned⟩
      · rw [empty] at present
        cases present
      · rw [empty]
        exact List.Perm.refl _

/-- The load factor 0.75. -/
def threeQuarters : Number := ⟨3 / 4, by decide +kernel⟩

-- five entries are added and removed, and the next `add` goes on with a null pointer
example : ((system (id : Nat → Nat) id).exec
    { table := ⟨8, 3, threeQuarters, 0, 0, 5, none⟩, entries := [], failed := none } [
      .add 0, .add 5, .add 1, .removeAt 0, .removeAt 1, .removeAt 2, .add 4, .add 9,
      .removeAt 0, .removeAt 4, .add 2]).map State.failed = some (some .nullBuckets) := by
  decide +kernel

-- a capacity of less than the minimum
example : determineCapacity 19754977 threeQuarters = some (26339969, 19754976) := by
  decide +kernel

end State
end BasicHashtable
end Skplat
