import Mathlib.Logic.Relation
import Skplat.BasicHashtable.Runs
import Skplat.LruCache.Defs

/-!
# The buckets of `LruCache` in a hash table

While `BasicHashtable` is not rehashed, its calls do to the buckets what the cache takes them
to do: `find` gives the bucket of a key, `removeAt` empties a bucket with an entry, and `add`
fills a free one.
-/

namespace Skplat
namespace LruCache

open BasicHashtable

variable {Key Value : Type} {cap : ℕ}

/-- The buckets of a table are those of a cache. -/
structure Stores (hashOf : Key → ℕ) (table : Table (Key × Value))
    (mContain : Fin cap → Option (Key × Value)) : Prop where
  wellFormed : WellFormed table
  hashesFit : table.HashesFit Prod.fst hashOf
  count : table.bucketCount = cap
  entries : ∀ idx : Fin cap, table.entryAt idx = mContain idx

/-- Entries are removed. -/
def Removes : Table (Key × Value) → Table (Key × Value) → Prop :=
  Relation.ReflTransGen fun table result => ∃ index, table.removeAt index = some result

namespace Stores

variable {hashOf : Key → ℕ} {table result : Table (Key × Value)}
variable {cache next : Cache Key Value cap} {mContain : Fin cap → Option (Key × Value)}

/-- A new table and a new cache. -/
theorem of_new
    {entrySize minimum : ℕ} {loadFactor : Binary32.Number}
    (isNew : Table.new entrySize minimum loadFactor = .ok table)
    (count : table.bucketCount = cap)
    (capacity : Int) :
    Stores hashOf table (Cache.new capacity : Cache Key Value cap).mContain := by
  have sound : State.Sound Prod.fst hashOf { table, entries := [], failed := none } :=
    State.new_sound isNew
  refine ⟨sound.wellFormed, sound.hashesFit, count, fun idx => ?_⟩
  rw [Table.new] at isNew
  split at isNew
  · cases isNew
  · cases isNew
    rfl

theorem holds_iff
    (stores : Stores hashOf table mContain)
    (key : Key) (idx : Fin cap) :
    table.Holds Prod.fst key idx ↔ ∃ value, mContain idx = some (key, value) := by
  rw [Table.holds_iff, stores.entries]
  constructor
  · rintro ⟨⟨key, value⟩, present, rfl⟩
    exact ⟨value, present⟩
  · rintro ⟨value, present⟩
    exact ⟨(key, value), present, rfl⟩

/-- `find` gives the bucket of the key. -/
theorem find_eq
    [DecidableEq Key]
    (stores : Stores hashOf table cache.mContain)
    (sound : cache.Sound)
    (key : Key) :
    table.find Prod.fst none (hashOf key) key = .ok ((cache.find key).map Fin.val) := by
  obtain ⟨index, finds, holds⟩ | ⟨finds, absent⟩ :=
    Table.find_cases stores.wellFormed stores.hashesFit key
  · obtain ⟨idx, rfl⟩ : ∃ idx : Fin cap, idx.val = index :=
      ⟨⟨index, stores.count ▸ holds.lt stores.wellFormed⟩, rfl⟩
    obtain ⟨value, present⟩ := (stores.holds_iff key idx).mp holds
    cases found : cache.find key with
    | none => exact absurd ⟨idx, value, present⟩ (Cache.not_holds_of_find found)
    | some other =>
        obtain ⟨otherValue, otherPresent⟩ := Cache.exists_of_find found
        rw [finds, sound.distinct idx other key value otherValue present otherPresent]
        rfl
  · cases found : cache.find key with
    | none => exact finds
    | some idx =>
        obtain ⟨value, present⟩ := Cache.exists_of_find found
        exact absurd ((stores.holds_iff key idx).mpr ⟨value, present⟩) (absent idx)

/-- `removeAt` empties a bucket with an entry. -/
theorem removeAt
    (stores : Stores hashOf table mContain)
    {idx : Fin cap}
    (present : (mContain idx).isSome = true) :
    ∃ result, table.removeAt idx = some result ∧
      Stores hashOf result (Function.update mContain idx none) := by
  obtain ⟨result, removes⟩ := Table.exists_removeAt (stores.entries idx ▸ present)
  obtain ⟨wellFormed, -, -, content, -, -, -, rest, -⟩ :=
    Table.wellFormed_removeAt stores.wellFormed removes
  obtain ⟨count, entries⟩ := Table.entryAt_removeAt removes
  refine ⟨result, removes, wellFormed, fun other inside => ?_, count.trans stores.count,
    fun other => ?_⟩
  · exact stores.hashesFit other (rest.mem_iff.mp (List.mem_cons_of_mem _ inside))
  · rw [entries, Function.update_apply, stores.entries]
    simp only [Fin.val_inj]

/-- `add` fills a free bucket, unless the table is rehashed. -/
theorem add
    (stores : Stores hashOf table mContain)
    {key : Key} {value : Value} {index : ℕ}
    (notOver : ¬table.Overflows (trimHash (hashOf key)))
    (adds : table.add (hashOf key) (key, value) = .ok (result, index)) :
    ∃ idx : Fin cap, idx.val = index ∧ mContain idx = none ∧
      Stores hashOf result (Function.update mContain idx (some (key, value))) := by
  obtain ⟨inside, isFree, count, entries⟩ := Table.entryAt_add stores.wellFormed notOver adds
  have added : Table.Added table result (trimHash (hashOf key), (key, value)) index := by
    obtain ⟨⟨other, place, isOther, added⟩, -⟩ | ⟨failure, fails, -⟩ | ⟨fails, -⟩ :=
      Table.add_cases stores.wellFormed (hashOf key) (key, value)
    · cases isOther.symm.trans adds
      exact added
    · cases fails.symm.trans adds
    · cases fails.symm.trans adds
  obtain ⟨idx, rfl⟩ : ∃ idx : Fin cap, idx.val = index := ⟨⟨index, stores.count ▸ inside⟩, rfl⟩
  refine ⟨idx, rfl, (stores.entries idx).symm.trans isFree, added.wellFormed,
    fun content stored => ?_, count.trans stores.count, fun other => ?_⟩
  · obtain rfl | old := List.mem_cons.mp (added.entries.mem_iff.mp stored)
    · rfl
    · exact stores.hashesFit content old
  · rw [entries, Function.update_apply, stores.entries]
    simp only [Fin.val_inj]

/-! ## Room for an entry -/

theorem of_removeAt
    (stores : Stores hashOf table cache.mContain)
    {idx : Fin cap}
    (removed : cache.removeAt idx = some next) :
    ∃ result, Removes table result ∧ Stores hashOf result next.mContain := by
  obtain ⟨present, same⟩ := Option.ite_none_right_eq_some.mp removed
  cases same
  obtain ⟨result, removes, stored⟩ := stores.removeAt present
  exact ⟨result, .single ⟨idx, removes⟩, stored⟩

theorem of_remove
    [DecidableEq Key]
    (stores : Stores hashOf table cache.mContain)
    {key : Key}
    (removed : cache.remove key = some next) :
    ∃ result, Removes table result ∧ Stores hashOf result next.mContain := by
  rw [Cache.remove] at removed
  split at removed
  · cases removed
    exact ⟨table, .refl, stores⟩
  · exact stores.of_removeAt removed

theorem of_shrinkLoop
    (stores : Stores hashOf table cache.mContain)
    {rounds : ℕ}
    (shrunk : Cache.shrinkLoop rounds cache = some next) :
    ∃ result, Removes table result ∧ Stores hashOf result next.mContain := by
  induction rounds generalizing cache table with
  | zero =>
      cases shrunk
      exact ⟨table, .refl, stores⟩
  | succ rounds inductionHypothesis =>
      unfold Cache.shrinkLoop at shrunk
      split at shrunk
      · obtain ⟨middle, first, rest⟩ := Option.bind_eq_some_iff.mp shrunk
        obtain ⟨between, removes, stored⟩ : ∃ between, Removes table between ∧
            Stores hashOf between middle.mContain := by
          unfold Cache.shrinkCache at first
          split at first
          · cases first
            exact ⟨table, .refl, stores⟩
          · obtain ⟨idx, -, removed⟩ := Option.bind_eq_some_iff.mp first
            exact stores.of_removeAt removed
        obtain ⟨result, further, last⟩ := inductionHypothesis stored rest
        exact ⟨result, removes.trans further, last⟩
      · cases shrunk
        exact ⟨table, .refl, stores⟩

/-- Before `add` calls `mContain.add`, it removes entries that the table has. -/
theorem of_makeRoom
    [DecidableEq Key]
    (stores : Stores hashOf table cache.mContain)
    {key : Key}
    (made : cache.makeRoom key = some next) :
    ∃ result, Removes table result ∧ Stores hashOf result next.mContain := by
  obtain ⟨middle, removed, shrunk⟩ := Option.bind_eq_some_iff.mp made
  obtain ⟨between, removes, stored⟩ := stores.of_remove removed
  obtain ⟨result, further, last⟩ := stored.of_shrinkLoop shrunk
  exact ⟨result, removes.trans further, last⟩

/-- `add` of a cache is done by a table that is not rehashed, in the bucket that the table
chooses. -/
theorem of_add
    [DecidableEq Key]
    (stores : Stores hashOf table cache.mContain)
    {key : Key} {room : Cache Key Value cap}
    (made : cache.makeRoom key = some room) :
    ∃ between, Removes table between ∧ Stores hashOf between room.mContain ∧
      ∀ value result index, ¬between.Overflows (trimHash (hashOf key)) →
        between.add (hashOf key) (key, value) = .ok (result, index) →
        ∃ idx : Fin cap, idx.val = index ∧ room.mContain idx = none ∧
          ∀ now next, room.put key value idx now = some next →
            Stores hashOf result next.mContain := by
  obtain ⟨between, removes, stored⟩ := stores.of_makeRoom made
  refine ⟨between, removes, stored, fun value result index notOver adds => ?_⟩
  obtain ⟨idx, isIndex, isFree, filled⟩ := stored.add notOver adds
  refine ⟨idx, isIndex, isFree, fun now next isPut => ?_⟩
  rw [Cache.mContain_of_put isPut]
  exact filled

end Stores
end LruCache
end Skplat
