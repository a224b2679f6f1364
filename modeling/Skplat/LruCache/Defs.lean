import Skplat.Data.Counting
import Skplat.Machine.Basic
import Mathlib.Data.Fin.Basic
import Mathlib.Algebra.Ring.Int.Defs

/-!
# `LruCache`

A cache over a hash table with a fixed number of buckets, and beside it an array with
the time of the last access to each bucket.  The hash table is a map whose entries keep
their bucket: `find` returns the bucket of a key, `add` puts an entry into a free bucket,
and `removeAt` needs a bucket that holds an entry.

An operation has no result when it uses an index outside of `mElapses`, removes from a
bucket without an entry, or violates its own assertion.
-/

namespace Skplat
namespace LruCache

/-- `LruCache` with `cap` buckets, which is `mElapseCap`. -/
structure Cache (Key Value : Type*) (cap : ℕ) where
  mContain : Fin cap → Option (Key × Value)
  mElapses : Fin cap → Int
  mCapacity : Int
  mSize : Int

variable {Key Value : Type*} {cap : ℕ}

namespace Cache

/-- The cache after the constructor. -/
def new (capacity : Int) : Cache Key Value cap where
  mContain _ := none
  mElapses _ := 0
  mCapacity := capacity
  mSize := 0

/-- `mElapses[idx] = 0; mContain.removeAt(idx); mSize--`. -/
def removeAt (cache : Cache Key Value cap) (idx : Fin cap) :
    Option (Cache Key Value cap) :=
  if (cache.mContain idx).isSome then
    some { cache with
      mContain := Function.update cache.mContain idx none
      mElapses := Function.update cache.mElapses idx 0
      mSize := cache.mSize - 1 }
  else none

/-- The index that `shrinkCache` chooses, or nothing for -1.  The first loop stops at the
first bucket with a time, which is stored in an `int`; the second one goes on from there
and keeps the last bucket with a smaller number. -/
def hashIdx (cache : Cache Key Value cap) : Option (Fin cap) :=
  (Fin.find? fun i => cache.mElapses i ≠ 0).bind fun first =>
    ((List.finRange cap).filter fun i => first ≤ i).foldl
      (fun hashIdx i =>
        if cache.mElapses i < Int.bmod (cache.mElapses first) (2 ^ 32) then some i
        else hashIdx)
      none

/-- `shrinkCache`. -/
def shrinkCache (cache : Cache Key Value cap) : Option (Cache Key Value cap) :=
  if cache.mSize < cache.mCapacity then some cache
  else cache.hashIdx.bind cache.removeAt

/-- `while(mSize >= mCapacity) shrinkCache()`.  Each round makes `mSize` smaller, so the
rounds are counted by the distance. -/
def shrinkLoop : ℕ → Cache Key Value cap → Option (Cache Key Value cap)
  | 0, cache => some cache
  | rounds + 1, cache =>
      if cache.mSize ≥ cache.mCapacity then cache.shrinkCache.bind (shrinkLoop rounds)
      else some cache

section Keys

variable [DecidableEq Key]

/-- `mContain.find`. -/
def find (cache : Cache Key Value cap) (key : Key) : Option (Fin cap) :=
  Fin.find? fun idx => (cache.mContain idx).any fun entry => entry.1 = key

/-- `get`: the value, or nothing for `mNullItem`, and the cache. -/
def get (cache : Cache Key Value cap) (key : Key) (now : Int) :
    Option Value × Cache Key Value cap :=
  match cache.find key with
  | none => (none, cache)
  | some idx =>
      ((cache.mContain idx).map Prod.snd,
        { cache with mElapses := Function.update cache.mElapses idx now })

/-- `editGet` does the same as `get`. -/
def editGet (cache : Cache Key Value cap) (key : Key) (now : Int) :
    Option Value × Cache Key Value cap :=
  cache.get key now

/-- `remove`. -/
def remove (cache : Cache Key Value cap) (key : Key) : Option (Cache Key Value cap) :=
  match cache.find key with
  | none => some cache
  | some idx => cache.removeAt idx

/-- `add` up to the call of `mContain.add`: an entry with the key is removed, and the
cache is shrunk. -/
def makeRoom (cache : Cache Key Value cap) (key : Key) : Option (Cache Key Value cap) :=
  (cache.remove key).bind fun removed =>
    shrinkLoop (removed.mSize + 1 - removed.mCapacity).toNat removed

/-- The rest of `add`, with the bucket in which `mContain.add` puts the entry. -/
def put (cache : Cache Key Value cap) (key : Key) (value : Value) (idx : Fin cap)
    (now : Int) : Option (Cache Key Value cap) :=
  if cache.mElapses idx = 0 then
    some { cache with
      mContain := Function.update cache.mContain idx (some (key, value))
      mElapses := Function.update cache.mElapses idx now
      mSize := cache.mSize + 1 }
  else none

/-- The key is in the cache. -/
def Holds (cache : Cache Key Value cap) (key : Key) : Prop :=
  ∃ idx value, cache.mContain idx = some (key, value)

end Keys

/-- The table, the times and the size are in step. -/
structure Sound (cache : Cache Key Value cap) : Prop where
  used : ∀ idx, cache.mElapses idx ≠ 0 ↔ (cache.mContain idx).isSome = true
  times : ∀ idx, 0 ≤ cache.mElapses idx
  distinct : ∀ idx other key value otherValue,
    cache.mContain idx = some (key, value) →
    cache.mContain other = some (key, otherValue) → idx = other
  size : cache.mSize = count Option.isSome cache.mContain
  bounded : cache.mSize ≤ cache.mCapacity

theorem sound_new
    {capacity : Int}
    (nonnegative : 0 ≤ capacity) :
    (Cache.new capacity : Cache Key Value cap).Sound where
  used _ := by simp [Cache.new]
  times _ := le_refl _
  distinct _ _ _ _ _ present := by cases present
  size := by
    rw [count_eq_zero (fun _ => rfl)]
    rfl
  bounded := nonnegative

namespace Sound

variable {cache : Cache Key Value cap}

/-- Replacing the entry of a bucket together with its time. -/
theorem replace
    (sound : cache.Sound)
    {idx : Fin cap} {entry : Option (Key × Value)} {time size : Int}
    (agree : time ≠ 0 ↔ entry.isSome = true)
    (nonnegative : 0 ≤ time)
    (apart : ∀ key value, entry = some (key, value) →
      ∀ other otherValue, other ≠ idx →
        cache.mContain other ≠ some (key, otherValue))
    (sized : size + (cache.mContain idx).isSome.toNat =
      cache.mSize + entry.isSome.toNat)
    (bounded : size ≤ cache.mCapacity) :
    Sound { cache with
      mContain := Function.update cache.mContain idx entry
      mElapses := Function.update cache.mElapses idx time
      mSize := size } where
  used other := by
    by_cases same : other = idx
    · subst same
      simpa using agree
    · simp only [Function.update_of_ne same]
      exact sound.used other
  times other := by
    by_cases same : other = idx
    · subst same
      simpa using nonnegative
    · simp only [Function.update_of_ne same]
      exact sound.times other
  distinct first second key value otherValue atFirst atSecond := by
    obtain ⟨isFirst, newFirst⟩ | ⟨notFirst, oldFirst⟩ := update_cases atFirst
    · obtain ⟨isSecond, _⟩ | ⟨notSecond, oldSecond⟩ := update_cases atSecond
      · rw [isFirst, isSecond]
      · exact absurd oldSecond (apart key value newFirst _ _ notSecond)
    · obtain ⟨_, newSecond⟩ | ⟨_, oldSecond⟩ := update_cases atSecond
      · exact absurd oldFirst (apart key otherValue newSecond _ _ notFirst)
      · exact sound.distinct first second key value otherValue oldFirst oldSecond
  size := by
    have counted := count_update Option.isSome cache.mContain idx entry
    have oldSize := sound.size
    show size = ((count Option.isSome (Function.update cache.mContain idx entry) : ℕ) : Int)
    omega
  bounded := bounded

/-- Removing the entry of a bucket. -/
theorem removeAt
    (sound : cache.Sound)
    {idx : Fin cap} {entry : Key × Value}
    (present : cache.mContain idx = some entry) :
    ∃ next, cache.removeAt idx = some next ∧ next.Sound ∧
      next.mContain = Function.update cache.mContain idx none ∧
      next.mElapses = Function.update cache.mElapses idx 0 ∧
      next.mCapacity = cache.mCapacity ∧ next.mSize = cache.mSize - 1 := by
  have isSome : (cache.mContain idx).isSome = true := by rw [present]; rfl
  refine ⟨_, if_pos isSome, ?_, rfl, rfl, rfl, rfl⟩
  apply sound.replace
  · simp
  · exact le_refl _
  · intro key value absurdity
    cases absurdity
  · rw [isSome]
    simp
  · have bounded := sound.bounded
    omega

/-- Setting the time of a bucket in use. -/
theorem touch
    (sound : cache.Sound)
    {idx : Fin cap} {entry : Key × Value}
    (present : cache.mContain idx = some entry)
    {now : Int}
    (positive : 0 < now) :
    Sound { cache with mElapses := Function.update cache.mElapses idx now } := by
  have agree : now ≠ 0 ↔ (cache.mContain idx).isSome = true := by
    simp [present, positive.ne']
  have apart : ∀ key value, cache.mContain idx = some (key, value) →
      ∀ other otherValue, other ≠ idx →
        cache.mContain other ≠ some (key, otherValue) := by
    intro key value atIdx other otherValue different atOther
    exact different (sound.distinct other idx key otherValue value atOther atIdx)
  have replaced := sound.replace agree positive.le apart rfl sound.bounded
  rwa [Function.update_eq_self] at replaced

/-- Putting an entry with a new key into a free bucket. -/
theorem put
    [DecidableEq Key]
    (sound : cache.Sound)
    {key : Key} {idx : Fin cap} {now : Int}
    (absent : ¬cache.Holds key)
    (free : cache.mContain idx = none)
    (room : cache.mSize < cache.mCapacity)
    (positive : 0 < now)
    (value : Value) :
    ∃ next, cache.put key value idx now = some next ∧ next.Sound ∧
      next.mContain = Function.update cache.mContain idx (some (key, value)) ∧
      next.mElapses = Function.update cache.mElapses idx now ∧
      next.mCapacity = cache.mCapacity := by
  have unused : cache.mElapses idx = 0 := by
    by_contra used
    have present := (sound.used idx).mp used
    rw [free] at present
    cases present
  refine ⟨_, if_pos unused, ?_, rfl, rfl, rfl⟩
  apply sound.replace
  · simp [positive.ne']
  · exact positive.le
  · intro other otherValue isNew place placeValue _ present
    cases isNew
    exact absent ⟨place, placeValue, present⟩
  · rw [free]
    simp
  · omega

end Sound

section Find

variable [DecidableEq Key] {cache : Cache Key Value cap} {key : Key}

/-- A bucket that was found holds the key. -/
theorem exists_of_find
    {idx : Fin cap}
    (found : cache.find key = some idx) :
    ∃ value, cache.mContain idx = some (key, value) := by
  have holds := (Fin.find?_eq_some_iff.mp found).1
  obtain ⟨⟨other, value⟩, isEntry, isKey⟩ := Option.any_eq_true _ _ |>.mp holds
  have same : other = key := of_decide_eq_true isKey
  exact ⟨value, same ▸ isEntry⟩

/-- A key without a bucket is not in the cache. -/
theorem not_holds_of_find
    (missing : cache.find key = none) :
    ¬cache.Holds key := by
  rintro ⟨idx, value, present⟩
  have other := Fin.find?_eq_none_iff.mp missing idx
  rw [present] at other
  simp at other

/-- The bucket of a key that is in the cache. -/
theorem find_eq_none_iff :
    cache.find key = none ↔ ¬cache.Holds key := by
  constructor
  · exact not_holds_of_find
  · intro absent
    cases found : cache.find key with
    | none => rfl
    | some idx =>
        obtain ⟨value, present⟩ := exists_of_find found
        exact absurd ⟨idx, value, present⟩ absent

/-- `get` returns the value of a bucket that holds the key, or nothing when no bucket
does. -/
theorem get_cases
    (key : Key) (now : Int) :
    (∃ idx value, cache.mContain idx = some (key, value) ∧
      (cache.get key now).1 = some value) ∨
    (¬cache.Holds key ∧ (cache.get key now).1 = none) := by
  unfold get
  cases found : cache.find key with
  | none => exact Or.inr ⟨not_holds_of_find found, rfl⟩
  | some idx =>
      obtain ⟨value, present⟩ := exists_of_find found
      exact Or.inl ⟨idx, value, present, by simp [present]⟩

/-- `get` changes no entry. -/
theorem mContain_get
    (key : Key) (now : Int) :
    (cache.get key now).2.mContain = cache.mContain := by
  unfold get
  split
  · rfl
  · rfl

end Find

section Entries

variable {cache next : Cache Key Value cap} {idx : Fin cap} {entry : Key × Value}

/-- Removing makes no entry. -/
theorem mContain_of_removeAt
    {place : Fin cap}
    (removed : cache.removeAt place = some next)
    (present : next.mContain idx = some entry) :
    cache.mContain idx = some entry := by
  unfold removeAt at removed
  split at removed
  · cases removed
    obtain ⟨_, absurdity⟩ | ⟨_, old⟩ := update_cases present
    · cases absurdity
    · exact old
  · cases removed

/-- Shrinking makes no entry. -/
theorem mContain_of_shrinkLoop
    {rounds : ℕ}
    (shrunk : shrinkLoop rounds cache = some next)
    (present : next.mContain idx = some entry) :
    cache.mContain idx = some entry := by
  induction rounds generalizing cache with
  | zero =>
      cases shrunk
      exact present
  | succ rounds inductionHypothesis =>
      unfold shrinkLoop at shrunk
      split at shrunk
      · obtain ⟨middle, first, rest⟩ := Option.bind_eq_some_iff.mp shrunk
        have inMiddle := inductionHypothesis rest
        unfold shrinkCache at first
        split at first
        · cases first
          exact inMiddle
        · obtain ⟨place, _, removed⟩ := Option.bind_eq_some_iff.mp first
          exact mContain_of_removeAt removed inMiddle
      · cases shrunk
        exact present

/-- Making room makes no entry. -/
theorem mContain_of_makeRoom
    [DecidableEq Key] {key : Key}
    (made : cache.makeRoom key = some next)
    (present : next.mContain idx = some entry) :
    cache.mContain idx = some entry := by
  obtain ⟨middle, removed, shrunk⟩ := Option.bind_eq_some_iff.mp made
  have inMiddle := mContain_of_shrinkLoop shrunk present
  unfold remove at removed
  split at removed
  · cases removed
    exact inMiddle
  · exact mContain_of_removeAt removed inMiddle

/-- Putting an entry into a bucket. -/
theorem mContain_of_put
    [DecidableEq Key] {key : Key} {value : Value} {place : Fin cap} {now : Int}
    (isPut : cache.put key value place now = some next) :
    next.mContain = Function.update cache.mContain place (some (key, value)) := by
  unfold put at isPut
  split at isPut
  · cases isPut
    rfl
  · cases isPut

end Entries
end Cache
end LruCache
end Skplat
