import Skplat.LruCache.Eviction

/-!
# Runs of `LruCache`

Sequences of `add`, `get`, `editGet` and `remove` under a clock that is positive and
never goes back.  The state keeps, beside the cache, the value last added for each key
and the time of the last access to it.
-/

namespace Skplat
namespace LruCache

variable {Key Value : Type*} {cap : ℕ}

namespace Cache

variable {cache : Cache Key Value cap}

/-- The entry of one bucket was taken out. -/
structure Erased (cache : Cache Key Value cap) (idx : Fin cap)
    (room : Cache Key Value cap) : Prop where
  mContain : room.mContain = Function.update cache.mContain idx none
  mElapses : room.mElapses = Function.update cache.mElapses idx 0

/-- What `add` does before it calls `mContain.add`. -/
inductive Room (cache : Cache Key Value cap) (key : Key) (room : Cache Key Value cap) : Prop
  | kept :
      ¬cache.Holds key → cache.mSize < cache.mCapacity → room = cache →
      Room cache key room
  | replaced (idx : Fin cap) (value : Value) :
      cache.mContain idx = some (key, value) → cache.Erased idx room →
      Room cache key room
  | evicted (idx : Fin cap) (entry : Key × Value) :
      ¬cache.Holds key → cache.mCapacity ≤ cache.mSize →
      cache.mContain idx = some entry → cache.Oldest idx → cache.Erased idx room →
      Room cache key room

/-- A cache with room is not shrunk. -/
theorem shrinkLoop_of_lt
    (room : cache.mSize < cache.mCapacity)
    (rounds : ℕ) :
    shrinkLoop rounds cache = some cache := by
  cases rounds with
  | zero => rfl
  | succ rounds =>
      rw [shrinkLoop, if_neg (not_le.mpr room)]

namespace Sound

/-- The keys that are left when an entry is taken out. -/
theorem holds_erased_iff
    (sound : cache.Sound)
    {idx : Fin cap} {entry : Key × Value} {room : Cache Key Value cap}
    (present : cache.mContain idx = some entry)
    (erased : cache.Erased idx room)
    (key : Key) :
    room.Holds key ↔ cache.Holds key ∧ key ≠ entry.1 := by
  constructor
  · rintro ⟨other, value, inRoom⟩
    rw [erased.mContain] at inRoom
    obtain ⟨_, absurdity⟩ | ⟨different, inCache⟩ := update_cases inRoom
    · cases absurdity
    · refine ⟨⟨other, value, inCache⟩, ?_⟩
      rintro rfl
      exact different (sound.distinct other idx _ value entry.2 inCache present)
  · rintro ⟨⟨other, value, inCache⟩, different⟩
    refine ⟨other, value, ?_⟩
    rw [erased.mContain, Function.update_of_ne, inCache]
    rintro rfl
    rw [present] at inCache
    cases inCache
    exact different rfl

/-- The keys after an entry is put into a free bucket. -/
theorem holds_put_iff
    {room next : Cache Key Value cap}
    {idx : Fin cap} {key : Key} {value : Value}
    (free : room.mContain idx = none)
    (contain : next.mContain = Function.update room.mContain idx (some (key, value)))
    (other : Key) :
    next.Holds other ↔ other = key ∨ room.Holds other := by
  constructor
  · rintro ⟨place, otherValue, inNext⟩
    rw [contain] at inNext
    obtain ⟨_, isNew⟩ | ⟨_, inRoom⟩ := update_cases inNext
    · cases isNew
      exact Or.inl rfl
    · exact Or.inr ⟨place, otherValue, inRoom⟩
  · rintro (rfl | ⟨place, otherValue, inRoom⟩)
    · exact ⟨idx, value, by rw [contain, Function.update_self]⟩
    · refine ⟨place, otherValue, ?_⟩
      rw [contain, Function.update_of_ne, inRoom]
      rintro rfl
      rw [free] at inRoom
      cases inRoom

variable [DecidableEq Key] {key : Key}

/-- A full cache that does not have the key is shrunk by one entry, if `shrinkCache`
finds one. -/
theorem makeRoom_of_hashIdx
    (sound : cache.Sound)
    {idx : Fin cap} {entry : Key × Value}
    (missing : cache.find key = none)
    (full : cache.mCapacity ≤ cache.mSize)
    (isVictim : cache.hashIdx = some idx)
    (present : cache.mContain idx = some entry) :
    ∃ room, cache.makeRoom key = some room ∧ room.Sound ∧
      room.mSize < room.mCapacity ∧ room.mCapacity = cache.mCapacity ∧
      cache.Erased idx room := by
  have bounded := sound.bounded
  obtain ⟨room, isRoom, roomSound, contain, elapses, capacity, size⟩ :=
    sound.removeAt present
  have space : room.mSize < room.mCapacity := by omega
  refine ⟨room, ?_, roomSound, space, capacity, contain, elapses⟩
  have rounds : (cache.mSize + 1 - cache.mCapacity).toNat = 0 + 1 := by omega
  have shrunk : cache.shrinkCache = some room := by
    rw [shrinkCache, if_neg (not_lt.mpr full), isVictim, Option.bind_some, isRoom]
  simp only [Cache.makeRoom, Cache.remove, missing, Option.bind_some]
  rw [rounds, shrinkLoop, if_pos full, shrunk, Option.bind_some]
  exact shrinkLoop_of_lt space _

/-- The cache is shrunk by its oldest entry when it has to be. -/
theorem makeRoom
    (sound : cache.Sound)
    (evicts : cache.find key = none → cache.mCapacity ≤ cache.mSize →
      cache.EvictsOldest) :
    ∃ room, cache.makeRoom key = some room ∧ room.Sound ∧
      room.mSize < room.mCapacity ∧ room.mCapacity = cache.mCapacity ∧
      ¬room.Holds key ∧ cache.Room key room := by
  cases found : cache.find key with
  | some idx =>
      have bounded := sound.bounded
      obtain ⟨value, present⟩ := exists_of_find found
      obtain ⟨room, isRoom, roomSound, contain, elapses, capacity, size⟩ :=
        sound.removeAt present
      have space : room.mSize < room.mCapacity := by omega
      have erased : cache.Erased idx room := ⟨contain, elapses⟩
      refine ⟨room, ?_, roomSound, space, capacity, ?_, .replaced idx value present erased⟩
      · simp only [Cache.makeRoom, Cache.remove, found, isRoom, Option.bind_some]
        exact shrinkLoop_of_lt space _
      · rw [sound.holds_erased_iff present erased]
        exact fun stays => stays.2 rfl
  | none =>
      have absent := not_holds_of_find found
      by_cases full : cache.mCapacity ≤ cache.mSize
      · obtain ⟨idx, isVictim, oldest⟩ := (evictsOldest_iff sound).mp (evicts found full)
        obtain ⟨entry, present⟩ := Option.isSome_iff_exists.mp
          ((sound.used idx).mp oldest.used)
        obtain ⟨room, isRoom, roomSound, space, capacity, erased⟩ :=
          sound.makeRoom_of_hashIdx found full isVictim present
        refine ⟨room, isRoom, roomSound, space, capacity, ?_,
          .evicted idx entry absent full present oldest erased⟩
        rw [sound.holds_erased_iff present erased]
        exact fun stays => absent stays.1
      · have space : cache.mSize < cache.mCapacity := not_le.mp full
        refine ⟨cache, ?_, sound, space, rfl, absent, .kept absent space rfl⟩
        simp only [Cache.makeRoom, Cache.remove, found, Option.bind_some]
        exact shrinkLoop_of_lt space _

end Sound

/-- The values and the times of the entries are the ones recorded for their keys. -/
def Traced (cache : Cache Key Value cap) (added : Key → Option Value)
    (accessed : Key → Int) : Prop :=
  ∀ idx key value, cache.mContain idx = some (key, value) →
    added key = some value ∧ cache.mElapses idx = accessed key

namespace Traced

variable {added : Key → Option Value} {accessed : Key → Int}

/-- Taking an entry out. -/
theorem erased
    (traced : cache.Traced added accessed)
    {idx : Fin cap} {room : Cache Key Value cap}
    (erased : cache.Erased idx room) :
    room.Traced added accessed := by
  intro other key value present
  rw [erased.mContain] at present
  obtain ⟨_, absurdity⟩ | ⟨different, inCache⟩ := update_cases present
  · cases absurdity
  · rw [erased.mElapses, Function.update_of_ne different]
    exact traced other key value inCache

/-- Making room. -/
theorem room
    (traced : cache.Traced added accessed)
    {key : Key} {room : Cache Key Value cap}
    (made : cache.Room key room) :
    room.Traced added accessed := by
  cases made with
  | kept _ _ same => exact same ▸ traced
  | replaced idx value _ erased => exact traced.erased erased
  | evicted idx entry _ _ _ _ erased => exact traced.erased erased

variable [DecidableEq Key]

/-- Setting the time of the bucket of a key. -/
theorem touch
    (sound : cache.Sound)
    (traced : cache.Traced added accessed)
    {idx : Fin cap} {key : Key} {value : Value}
    (present : cache.mContain idx = some (key, value))
    (now : Int) :
    Traced { cache with mElapses := Function.update cache.mElapses idx now } added
      (Function.update accessed key now) := by
  intro other otherKey otherValue inCache
  obtain ⟨isAdded, isAccessed⟩ := traced other otherKey otherValue inCache
  refine ⟨isAdded, ?_⟩
  by_cases same : other = idx
  · subst same
    rw [present] at inCache
    cases inCache
    simp
  · have otherThan : otherKey ≠ key := by
      rintro rfl
      exact same (sound.distinct other idx _ otherValue value inCache present)
    simp only [Function.update_of_ne same, Function.update_of_ne otherThan]
    exact isAccessed

/-- Putting a new key into a bucket. -/
theorem put
    (traced : cache.Traced added accessed)
    {idx : Fin cap} {key : Key} {next : Cache Key Value cap}
    {value : Value} {now : Int}
    (absent : ¬cache.Holds key)
    (contain : next.mContain = Function.update cache.mContain idx (some (key, value)))
    (elapses : next.mElapses = Function.update cache.mElapses idx now) :
    next.Traced (Function.update added key (some value))
      (Function.update accessed key now) := by
  intro other otherKey otherValue present
  rw [contain] at present
  obtain ⟨isIdx, isNew⟩ | ⟨different, inCache⟩ := update_cases present
  · cases isNew
    rw [elapses, isIdx]
    simp
  · have otherThan : otherKey ≠ key := by
      rintro rfl
      exact absent ⟨other, otherValue, inCache⟩
    rw [elapses, Function.update_of_ne different, Function.update_of_ne otherThan,
      Function.update_of_ne otherThan]
    exact traced other otherKey otherValue inCache

end Traced
end Cache

/-- The cache with what its entries are compared with. -/
structure State (Key Value : Type*) (cap : ℕ) where
  cache : Cache Key Value cap
  /-- The last reading of the clock. -/
  clock : Int
  /-- An operation used an index it must not use, or its assertion failed. -/
  fault : Bool
  /-- The value last added for a key. -/
  added : Key → Option Value
  /-- When a key was accessed last. -/
  accessed : Key → Int

/-- A call, with the reading of the clock, and for `add` the bucket of the new entry. -/
inductive Action (Key Value : Type*) (cap : ℕ)
  | add (key : Key) (value : Value) (idx : Fin cap) (now : Int)
  | get (key : Key) (now : Int)
  | editGet (key : Key) (now : Int)
  | remove (key : Key)

namespace State

/-- A new cache. -/
def new (capacity : Int) : State Key Value cap where
  cache := .new capacity
  clock := 0
  fault := false
  added _ := none
  accessed _ := 0

/-- The clock is positive and does not go back. -/
def Ticks (state : State Key Value cap) (now : Int) : Prop :=
  0 < now ∧ state.clock ≤ now

instance (state : State Key Value cap) (now : Int) : Decidable (state.Ticks now) :=
  inferInstanceAs (Decidable (_ ∧ _))

variable [DecidableEq Key]

/-- `add`, when `mContain.add` puts the entry into a free bucket. -/
def add (state : State Key Value cap) (key : Key) (value : Value) (idx : Fin cap)
    (now : Int) : Option (State Key Value cap) :=
  match state.cache.makeRoom key with
  | none => some { state with fault := true }
  | some room =>
      if room.mContain idx = none then
        match room.put key value idx now with
        | none => some { state with fault := true }
        | some cache =>
            some { state with
              cache
              clock := now
              added := Function.update state.added key (some value)
              accessed := Function.update state.accessed key now }
      else none

/-- `get` or `editGet`, given the cache that it leaves. -/
def access (state : State Key Value cap) (cache : Cache Key Value cap) (key : Key)
    (now : Int) : State Key Value cap :=
  { state with
    cache
    clock := now
    accessed :=
      if (state.cache.find key).isSome then Function.update state.accessed key now
      else state.accessed }

/-- The state after a call. -/
def next (state : State Key Value cap) :
    Action Key Value cap → Option (State Key Value cap)
  | .add key value idx now =>
      if state.fault = false ∧ state.Ticks now then state.add key value idx now else none
  | .get key now =>
      if state.fault = false ∧ state.Ticks now then
        some (state.access (state.cache.get key now).2 key now)
      else none
  | .editGet key now =>
      if state.fault = false ∧ state.Ticks now then
        some (state.access (state.cache.editGet key now).2 key now)
      else none
  | .remove key =>
      if state.fault = false then
        match state.cache.remove key with
        | none => some { state with fault := true }
        | some cache => some { state with cache }
      else none

end State

/-- A cache of a capacity with a number of buckets. -/
def system (Key Value : Type*) [DecidableEq Key] (cap : ℕ) (capacity : Int) :
    Machine (State Key Value cap) (Action Key Value cap) where
  initial state := state = .new capacity
  step := State.next

namespace State

/-- What holds of a cache between two calls. -/
structure Lru (capacity : Int) [DecidableEq Key] (state : State Key Value cap) : Prop where
  noFault : state.fault = false
  bounded : (count Option.isSome state.cache.mContain : Int) ≤ capacity
  present : ∀ key now, state.cache.Holds key →
    (state.cache.get key now).1 = state.added key ∧ (state.added key).isSome = true
  absent : ∀ key now, ¬state.cache.Holds key → (state.cache.get key now).1 = none
  used : ∀ idx, state.cache.mElapses idx ≠ 0 ↔
    (state.cache.mContain idx).isSome = true

/-- The call removes one entry, which no present key was accessed before, and adds the
new one. -/
def EvictsOne (state : State Key Value cap) (key : Key) (next : State Key Value cap) :
    Prop :=
  ∃ victim, state.cache.Holds victim ∧
    (∀ other, state.cache.Holds other → state.accessed victim ≤ state.accessed other) ∧
    ∀ other, next.cache.Holds other ↔
      other = key ∨ (state.cache.Holds other ∧ other ≠ victim)

/-- A new key is added to a full cache. -/
def Overflows (state : State Key Value cap) (key : Key) : Prop :=
  ¬state.cache.Holds key ∧
    state.cache.mCapacity ≤ (count Option.isSome state.cache.mContain : Int)

/-- Whenever a new key is added to a full cache, `shrinkCache` finds an oldest entry. -/
def Evictable [DecidableEq Key] (state : State Key Value cap) : Action Key Value cap → Prop
  | .add key _ _ _ =>
      state.cache.find key = none → state.cache.mCapacity ≤ state.cache.mSize →
        state.cache.EvictsOldest
  | _ => True

instance [DecidableEq Key] (state : State Key Value cap) : DecidablePred state.Evictable
  | .add key _ _ _ =>
      inferInstanceAs (Decidable (state.cache.find key = none →
        state.cache.mCapacity ≤ state.cache.mSize → state.cache.EvictsOldest))
  | .get _ _ | .editGet _ _ | .remove _ => isTrue trivial

/-- The invariant of the runs. -/
structure Inv (capacity : Int) (state : State Key Value cap) : Prop where
  noFault : state.fault = false
  sound : state.cache.Sound
  capacity : state.cache.mCapacity = capacity
  traced : state.cache.Traced state.added state.accessed

theorem inv_new
    {capacity : Int}
    (nonnegative : 0 ≤ capacity) :
    (State.new capacity : State Key Value cap).Inv capacity where
  noFault := rfl
  sound := Cache.sound_new nonnegative
  capacity := rfl
  traced _ _ _ present := by cases present

variable [DecidableEq Key]

namespace Inv

variable {capacity : Int} {state : State Key Value cap}

/-- `add` of a key: room is made, and the entry is put into a free bucket. -/
theorem exists_of_add
    (inv : state.Inv capacity)
    {key : Key} {value : Value} {idx : Fin cap} {now : Int} {next : State Key Value cap}
    (evictable : state.Evictable (.add key value idx now))
    (ticks : state.Ticks now)
    (stepped : state.add key value idx now = some next) :
    next.Inv capacity ∧ ∃ room, state.cache.Room key room ∧
      room.mContain idx = none ∧
      next.cache.mContain = Function.update room.mContain idx (some (key, value)) := by
  obtain ⟨room, made, sound, space, roomCapacity, absent, relation⟩ :=
    inv.sound.makeRoom evictable
  simp only [State.add, made] at stepped
  split at stepped
  · rename_i free
    obtain ⟨cache, isPut, putSound, contain, elapses, putCapacity⟩ :=
      sound.put absent free space ticks.1 value
    rw [isPut] at stepped
    cases stepped
    refine ⟨⟨inv.noFault, putSound, ?_, ?_⟩, room, relation, free, contain⟩
    · exact putCapacity.trans (roomCapacity.trans inv.capacity)
    · exact (inv.traced.room relation).put absent contain elapses
  · cases stepped

/-- `get` and `editGet` set the time of the bucket. -/
theorem access
    (inv : state.Inv capacity)
    {now : Int}
    (ticks : state.Ticks now)
    (key : Key) :
    (state.access (state.cache.get key now).2 key now).Inv capacity := by
  unfold State.access Cache.get
  cases found : state.cache.find key with
  | none => exact ⟨inv.noFault, inv.sound, inv.capacity, inv.traced⟩
  | some idx =>
      obtain ⟨value, present⟩ := Cache.exists_of_find found
      exact ⟨inv.noFault, inv.sound.touch present ticks.1, inv.capacity,
        Cache.Traced.touch inv.sound inv.traced present now⟩

/-- `remove` takes the entry out. -/
theorem remove
    (inv : state.Inv capacity)
    (key : Key) :
    ∃ cache, state.cache.remove key = some cache ∧
      ({ state with cache } : State Key Value cap).Inv capacity := by
  unfold Cache.remove
  cases found : state.cache.find key with
  | none => exact ⟨state.cache, rfl, inv⟩
  | some idx =>
      obtain ⟨value, present⟩ := Cache.exists_of_find found
      obtain ⟨cache, isRemoved, sound, contain, elapses, sameCapacity, _⟩ :=
        inv.sound.removeAt present
      exact ⟨cache, isRemoved, inv.noFault, sound, sameCapacity.trans inv.capacity,
        inv.traced.erased ⟨contain, elapses⟩⟩

/-- Every call at which the victim is right keeps the invariant. -/
theorem next
    (inv : state.Inv capacity)
    {action : Action Key Value cap} {next : State Key Value cap}
    (evictable : state.Evictable action)
    (stepped : state.next action = some next) :
    next.Inv capacity := by
  cases action with
  | add key value idx now =>
      simp only [State.next, Option.ite_none_right_eq_some] at stepped
      obtain ⟨⟨_, ticks⟩, added⟩ := stepped
      exact (inv.exists_of_add evictable ticks added).1
  | get key now =>
      simp only [State.next, Option.ite_none_right_eq_some] at stepped
      obtain ⟨⟨_, ticks⟩, isNext⟩ := stepped
      cases isNext
      exact inv.access ticks key
  | editGet key now =>
      simp only [State.next, Option.ite_none_right_eq_some] at stepped
      obtain ⟨⟨_, ticks⟩, isNext⟩ := stepped
      cases isNext
      exact inv.access ticks key
  | remove key =>
      obtain ⟨cache, isRemoved, removedInv⟩ := inv.remove key
      simp only [State.next, isRemoved, Option.ite_none_right_eq_some] at stepped
      obtain ⟨_, isNext⟩ := stepped
      cases isNext
      exact removedInv

/-- The invariant gives what is promised between two calls. -/
theorem lru
    (inv : state.Inv capacity) :
    state.Lru capacity where
  noFault := inv.noFault
  bounded := by
    rw [← inv.sound.size, ← inv.capacity]
    exact inv.sound.bounded
  present key now holds := by
    cases found : state.cache.find key with
    | none => exact absurd holds (Cache.not_holds_of_find found)
    | some idx =>
        obtain ⟨value, present⟩ := Cache.exists_of_find found
        have isAdded := (inv.traced idx key value present).1
        simp [Cache.get, found, present, isAdded]
  absent key now absent := by
    simp only [Cache.get, Cache.find_eq_none_iff.mpr absent]
  used := inv.sound.used

/-- An `add` that overflows evicts the key accessed least recently. -/
theorem evictsOne
    (inv : state.Inv capacity)
    {key : Key} {value : Value} {idx : Fin cap} {now : Int} {next : State Key Value cap}
    (evictable : state.Evictable (.add key value idx now))
    (overflows : state.Overflows key)
    (stepped : state.next (.add key value idx now) = some next) :
    state.EvictsOne key next := by
  simp only [State.next, Option.ite_none_right_eq_some] at stepped
  obtain ⟨⟨_, ticks⟩, added⟩ := stepped
  obtain ⟨_, room, relation, free, contain⟩ := inv.exists_of_add evictable ticks added
  obtain ⟨absent, full⟩ := overflows
  rw [← inv.sound.size] at full
  cases relation with
  | kept _ space _ => exact absurd full (not_le.mpr space)
  | replaced place old present _ => exact absurd ⟨place, old, present⟩ absent
  | evicted place entry _ _ present oldest erased =>
      refine ⟨entry.1, ⟨place, entry.2, present⟩, ?_, ?_⟩
      · rintro other ⟨otherPlace, otherValue, otherPresent⟩
        rw [← (inv.traced place entry.1 entry.2 present).2,
          ← (inv.traced otherPlace other otherValue otherPresent).2]
        apply oldest.least
        rw [inv.sound.used, otherPresent]
        rfl
      · intro other
        rw [Cache.Sound.holds_put_iff free contain,
          inv.sound.holds_erased_iff present erased]

/-- `add` has no result when `shrinkCache` removes no entry. -/
theorem makeRoom_eq_none
    (inv : state.Inv capacity)
    {key : Key}
    (missing : state.cache.find key = none)
    (full : state.cache.mCapacity ≤ state.cache.mSize)
    (fails : state.cache.hashIdx.bind state.cache.removeAt = none) :
    state.cache.makeRoom key = none := by
  have bounded := inv.sound.bounded
  have rounds : (state.cache.mSize + 1 - state.cache.mCapacity).toNat = 0 + 1 := by omega
  simp only [Cache.makeRoom, Cache.remove, missing, Option.bind_some]
  rw [rounds, Cache.shrinkLoop, if_pos full, Cache.shrinkCache, if_neg (not_lt.mpr full),
    fails]
  rfl

/-- If no oldest entry is found, the call ends in a fault or evicts another one. -/
theorem not_evictsOne
    (inv : state.Inv capacity)
    {key : Key} {value : Value} {idx : Fin cap} {now : Int} {next : State Key Value cap}
    (missing : state.cache.find key = none)
    (full : state.cache.mCapacity ≤ state.cache.mSize)
    (misses : ¬state.cache.EvictsOldest)
    (stepped : state.next (.add key value idx now) = some next) :
    next.fault = true ∨ ¬state.EvictsOne key next := by
  have absent := Cache.not_holds_of_find missing
  simp only [State.next, Option.ite_none_right_eq_some] at stepped
  obtain ⟨⟨_, ticks⟩, added⟩ := stepped
  unfold State.add at added
  cases isVictim : state.cache.hashIdx with
  | none =>
      rw [inv.makeRoom_eq_none missing full (by rw [isVictim]; rfl)] at added
      cases added
      exact Or.inl rfl
  | some place =>
      cases present : state.cache.mContain place with
      | none =>
          have fails : state.cache.hashIdx.bind state.cache.removeAt = none := by
            rw [isVictim, Option.bind_some, Cache.removeAt, if_neg (by simp [present])]
          rw [inv.makeRoom_eq_none missing full fails] at added
          cases added
          exact Or.inl rfl
      | some entry =>
          obtain ⟨room, made, sound, space, _, erased⟩ :=
            inv.sound.makeRoom_of_hashIdx missing full isVictim present
          have roomAbsent : ¬room.Holds key := by
            rw [inv.sound.holds_erased_iff present erased]
            exact fun stays => absent stays.1
          simp only [made] at added
          split at added
          · rename_i free
            obtain ⟨cache, isPut, _, contain, _⟩ :=
              sound.put roomAbsent free space ticks.1 value
            rw [isPut] at added
            cases added
            right
            rintro ⟨victim, held, least, kept⟩
            have isEntry : victim = entry.1 := by
              by_contra other
              have stays : cache.Holds victim := by
                rw [Cache.Sound.holds_put_iff free contain,
                  inv.sound.holds_erased_iff present erased]
                exact Or.inr ⟨held, other⟩
              cases (kept victim).mp stays with
              | inl isKey => exact absent (isKey ▸ held)
              | inr remains => exact remains.2 rfl
            apply misses
            rw [Cache.evictsOldest_iff inv.sound]
            refine ⟨place, isVictim, ?_, ?_⟩
            · rw [inv.sound.used, present]
              rfl
            · intro otherPlace used
              obtain ⟨other, otherPresent⟩ := Option.isSome_iff_exists.mp
                ((inv.sound.used otherPlace).mp used)
              rw [(inv.traced place entry.1 entry.2 present).2,
                (inv.traced otherPlace other.1 other.2 otherPresent).2, ← isEntry]
              exact least other.1 ⟨otherPlace, other.2, otherPresent⟩
          · cases added

end Inv
end State

section Results

variable [DecidableEq Key] {capacity : Int} {state : State Key Value cap}

/-- In every run in which `shrinkCache` finds an oldest entry, the invariant holds. -/
theorem inv_of_evictable
    (positive : 1 ≤ capacity)
    (reached : (system Key Value cap capacity).ReachableUnder State.Evictable state) :
    state.Inv capacity := by
  refine reached.invariant ?_ ?_
  · intro start isNew
    cases isNew
    exact State.inv_new (by omega)
  · intro state action next _ inv evictable stepped
    exact inv.next evictable stepped

/-- In every run in which an oldest entry stands behind the first one and all buckets
behind it are in use with times not less than the first one whenever an entry is evicted,
the cache is a bounded map, and each eviction removes one entry with a least time of
access. -/
theorem lru_of_evictable
    (positive : 1 ≤ capacity)
    (reached : (system Key Value cap capacity).ReachableUnder State.Evictable state) :
    state.Lru capacity ∧
      ∀ key value idx now next,
        state.Evictable (.add key value idx now) → state.Overflows key →
        (system Key Value cap capacity).step state (.add key value idx now) =
          some next →
        state.EvictsOne key next := by
  have inv := inv_of_evictable positive reached
  refine ⟨inv.lru, ?_⟩
  intro key value idx now next evictable overflows stepped
  exact inv.evictsOne evictable overflows stepped

/-- The first eviction that does not meet the condition is wrong. -/
theorem not_evictsOne_of_not_evictable
    (positive : 1 ≤ capacity)
    (reached : (system Key Value cap capacity).ReachableUnder State.Evictable state)
    {key : Key} {value : Value} {idx : Fin cap} {now : Int} {next : State Key Value cap}
    (clash : ¬state.Evictable (.add key value idx now))
    (stepped : (system Key Value cap capacity).step state (.add key value idx now) =
      some next) :
    state.Overflows key ∧ (next.fault = true ∨ ¬state.EvictsOne key next) := by
  have inv := inv_of_evictable positive reached
  simp only [State.Evictable, Classical.not_imp] at clash
  obtain ⟨missing, full, misses⟩ := clash
  refine ⟨⟨Cache.not_holds_of_find missing, ?_⟩,
    inv.not_evictsOne missing full misses stepped⟩
  rw [← inv.sound.size]
  exact full

end Results

/-- Three keys fill a cache with five buckets; the oldest one is in the last bucket. -/
def oldestLast : List (Action ℕ String 5) :=
  [.add 4 "d" 4 1, .add 3 "c" 3 2, .add 2 "b" 2 3]

/-- A fourth key evicts it. -/
theorem lru_oldestLast :
    ∃ state next : State ℕ String 5,
      (system ℕ String 5 3).ReachableUnder State.Evictable state ∧
      (system ℕ String 5 3).step state (.add 9 "e" 4 4) = some next ∧
      next.cache.mContain 4 = some (9, "e") ∧
      state.Lru 3 ∧ state.EvictsOne 9 next := by
  obtain ⟨state, reached, holds⟩ := Machine.ReachableUnder.exists_of_execUnder
    (.initial rfl : (system ℕ String 5 3).ReachableUnder State.Evictable (.new 3))
    (by decide +kernel : ((system ℕ String 5 3).execUnder State.Evictable (.new 3)
      oldestLast).map (fun state =>
        decide (state.cache.find 9 = none ∧ state.cache.mCapacity ≤ state.cache.mSize ∧
          state.Evictable (.add 9 "e" 4 4)) &&
        ((system ℕ String 5 3).step state (.add 9 "e" 4 4)).any (fun next =>
          decide (next.cache.mContain 4 = some (9, "e")))) = some true)
  rw [Bool.and_eq_true, Option.any_eq_true] at holds
  obtain ⟨evicts, next, stepped, isNew⟩ := holds
  obtain ⟨missing, full, evictable⟩ := of_decide_eq_true evicts
  obtain ⟨lru, evictsOne⟩ := lru_of_evictable (by decide) reached
  have inv := inv_of_evictable (by decide) reached
  refine ⟨state, next, reached, stepped, of_decide_eq_true isNew, lru, ?_⟩
  apply evictsOne 9 "e" 4 4 next evictable ⟨Cache.not_holds_of_find missing, ?_⟩ stepped
  rw [← inv.sound.size]
  exact full

/-- The same keys; the oldest one is not in the last bucket that is older than the
first. -/
def oldestInside : List (Action ℕ String 5) :=
  [.add 3 "c" 3 1, .add 4 "d" 4 2, .add 2 "b" 2 3]

/-- A fourth key evicts another one.  With one key in a cache of capacity one, the bucket
that is chosen has no entry, or there is no such bucket. -/
theorem wrongVictim_oldestInside :
    (∃ state next : State ℕ String 5,
      (system ℕ String 5 3).Reachable state ∧
      (system ℕ String 5 3).step state (.add 9 "e" 4 4) = some next ∧
      state.Overflows 9 ∧ next.fault = false ∧ ¬state.EvictsOne 9 next) ∧
    (((system ℕ String 5 1).exec (.new 1) [.add 0 "a" 0 1, .add 6 "b" 1 2]).map
      State.fault = some true) ∧
    (((system ℕ String 5 1).exec (.new 1) [.add 4 "a" 4 1, .add 5 "b" 0 2]).map
      State.fault = some true) := by
  refine ⟨?_, by decide +kernel, by decide +kernel⟩
  obtain ⟨state, reached, holds⟩ := Machine.ReachableUnder.exists_of_execUnder
    (.initial rfl : (system ℕ String 5 3).ReachableUnder State.Evictable (.new 3))
    (by decide +kernel : ((system ℕ String 5 3).execUnder State.Evictable (.new 3)
      oldestInside).map (fun state =>
        decide (¬state.Evictable (.add 9 "e" 4 4)) &&
        ((system ℕ String 5 3).step state (.add 9 "e" 4 4)).any (fun next =>
          decide (next.fault = false))) = some true)
  rw [Bool.and_eq_true, Option.any_eq_true] at holds
  obtain ⟨clash, next, stepped, noFault⟩ := holds
  have sane : next.fault = false := of_decide_eq_true noFault
  obtain ⟨overflows, wrong⟩ := not_evictsOne_of_not_evictable (by decide) reached
    (of_decide_eq_true clash) stepped
  refine ⟨state, next, reached.reachable, stepped, overflows, sane, ?_⟩
  cases wrong with
  | inl faulty =>
      rw [sane] at faulty
      cases faulty
  | inr notOne => exact notOne

end LruCache
end Skplat
