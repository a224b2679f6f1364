import Mathlib.Data.List.Basic
import Mathlib.Data.Rat.Floor
import Skplat.Data.Binary32
import Skplat.Data.Probing
import Skplat.Sknet.SharedBuffer

/-!
# `BasicHashtable`

Entries are stored in an array of buckets.  An entry whose bucket is taken goes to the next
free bucket in steps that depend on its hash, and the buckets it passes are marked.

Buckets that other tables share are copied before they are changed, so a table is a value; only
`clear` depends on whether they are shared.  A load factor is a `float`, and `determineCapacity`
computes with such numbers.
-/

namespace Skplat
namespace BasicHashtable

open Binary32 (Number nearest)
open Sknet (AllocFits)

/-- A bucket: its cookie, with the entry if `PRESENT` is set. -/
structure Bucket (Entry : Type) where
  /-- `COLLISION`. -/
  collision : Bool
  /-- The hash and the entry. -/
  content : Option (Nat × Entry)
  deriving DecidableEq, Repr

/-- A bucket whose cookie is 0. -/
def Bucket.empty {Entry : Type} : Bucket Entry where
  collision := false
  content := none

/-- `PRESENT`. -/
def Bucket.present {Entry : Type} (bucket : Bucket Entry) : Bool := bucket.content.isSome

/-- The bucket counts as filled. -/
def Bucket.filled {Entry : Type} (bucket : Bucket Entry) : Bool :=
  bucket.present || bucket.collision

/-- A table. -/
structure Table (Entry : Type) where
  /-- `mBucketSize`. -/
  bucketSize : Nat
  /-- `mCapacity`. -/
  capacity : Nat
  /-- `mLoadFactor`. -/
  loadFactor : Number
  /-- `mSize`. -/
  size : Nat
  /-- `mFilledBuckets`. -/
  filledBuckets : Nat
  /-- `mBucketCount`. -/
  bucketCount : Nat
  /-- `mBuckets`. -/
  buckets : Option (List (Bucket Entry))
  deriving DecidableEq

/-- `sizeof(Bucket)`. -/
def sizeofBucket : Nat := 4

/-- Why a call does not return. -/
inductive Failure
  /-- `bucketAt` on a null pointer. -/
  | nullBuckets
  /-- `LOG_ALWAYS_FATAL_IF` in `determineCapacity`, or its loop runs past the end. -/
  | noCapacity
  /-- The buckets cannot be allocated. -/
  | noMemory
  /-- A loop does not end. -/
  | endless
  deriving DecidableEq, Repr

/-- `PRIMES`, without the 0 at its end. -/
def primes : List Nat :=
  [5, 11, 23, 47, 97, 197, 397, 797, 1597, 3203, 6421, 12853, 25717, 51437, 102877, 205759,
    411527, 823117, 1646237, 3292489, 6584983, 13169977, 26339969, 52679969, 105359939,
    210719881, 421439783, 842879579, 1685759167]

/-- `determineCapacity`: the number of buckets and the capacity for a minimum capacity. -/
def determineCapacity (minimumCapacity : Nat) (loadFactor : Number) : Option (Nat × Nat) :=
  if loadFactor.value ≤ 0 ∨ 1 < loadFactor.value then none
  else
    let count := ⌈nearest (nearest minimumCapacity / loadFactor.value)⌉₊
    let count := ⌊nearest (count + 1)⌋₊
    (primes.find? (count ≤ ·)).map fun count =>
      (count, ⌈nearest (nearest (count - 1 : Nat) * loadFactor.value)⌉₊)

/-- `trimHash`. -/
def trimHash (hash : Nat) : Nat := (hash % 2 ^ 30) ^^^ (hash / 2 ^ 30)

/-- `chainStart`. -/
def chainStart (hash count : Nat) : Nat := hash % count

/-- `chainIncrement`. -/
def chainIncrement (hash count : Nat) : Nat :=
  ((hash / 2 ^ 7) ||| (hash * 2 ^ 25 % 2 ^ 32)) % (count - 1) + 1

/-- `chainSeek`. -/
def chainSeek (index increment count : Nat) : Nat := (index + increment) % count

variable {Entry Key : Type}

/-- Buckets whose cookies are 0. -/
def emptyBuckets (count : Nat) : List (Bucket Entry) := List.replicate count .empty

/-- `allocateBuckets`. -/
def allocateBuckets (bucketSize count : Nat) : Except Failure (List (Bucket Entry)) :=
  if AllocFits (count * bucketSize) then .ok (emptyBuckets count) else .error .noMemory

/-- The loop of `add` and `rehash`: marks the taken buckets and finds one that is free. -/
def walk (increment count : Nat) :
    Nat → List (Bucket Entry) → Nat → Except Failure (List (Bucket Entry) × Nat)
  | 0, _, _ => .error .endless
  | fuel + 1, buckets, index =>
      match buckets[index]? with
      | none => .error .nullBuckets
      | some bucket =>
          if bucket.present then
            walk increment count fuel (buckets.set index { bucket with collision := true })
              (chainSeek index increment count)
          else .ok (buckets, index)

/-- An entry of the old buckets goes to the new ones. -/
def place (count : Nat) (buckets : List (Bucket Entry)) (content : Nat × Entry) :
    Except Failure (List (Bucket Entry)) := do
  let (buckets, index) ←
    walk (chainIncrement content.1 count) count count buckets (chainStart content.1 count)
  return buckets.set index { collision := false, content := some content }

/-- The loop of `rehash` over the old buckets. -/
def placeAll (count : Nat) (from' : List (Bucket Entry)) (buckets : List (Bucket Entry)) :
    Except Failure (List (Bucket Entry)) :=
  match from' with
  | [] => .ok buckets
  | bucket :: rest =>
      match bucket.content with
      | none => placeAll count rest buckets
      | some content => (place count buckets content).bind (placeAll count rest)

namespace Table

/-- The constructor. -/
def new (entrySize minimumInitialCapacity : Nat) (loadFactor : Number) :
    Except Failure (Table Entry) :=
  match determineCapacity minimumInitialCapacity loadFactor with
  | none => .error .noCapacity
  | some (bucketCount, capacity) =>
      .ok {
        bucketSize := entrySize + sizeofBucket
        capacity
        loadFactor
        size := 0
        filledBuckets := 0
        bucketCount
        buckets := none }

/-- `clear`. -/
def clear (table : Table Entry) (onlyOwner : Bool) : Table Entry :=
  match table.buckets with
  | none => table
  | some buckets =>
      if table.filledBuckets ≠ 0 then
        if onlyOwner then
          { table with
            buckets := some (List.replicate (min table.size buckets.length) .empty ++
              buckets.drop table.size)
            filledBuckets := 0
            size := 0 }
        else { table with buckets := none, filledBuckets := 0, size := 0 }
      else { table with size := 0 }

/-- The loop of `find`. -/
def seek (buckets : List (Bucket Entry)) (isWanted : Nat × Entry → Bool)
    (increment count : Nat) : Nat → Nat → Except Failure (Option Nat)
  | 0, _ => .error .endless
  | fuel + 1, index =>
      let index := chainSeek index increment count
      match buckets[index]? with
      | none => .error .nullBuckets
      | some bucket =>
          if bucket.content.any isWanted then .ok (some index)
          else if !bucket.collision then .ok none
          else seek buckets isWanted increment count fuel index

/-- `find`, from the start or after an index. -/
def find [DecidableEq Key] (getKey : Entry → Key) (table : Table Entry)
    (index : Option Nat) (hash : Nat) (key : Key) : Except Failure (Option Nat) :=
  if table.size = 0 then .ok none
  else
    let hash := trimHash hash
    let buckets := table.buckets.getD []
    let isWanted (content : Nat × Entry) : Bool :=
      content.1 = hash && getKey content.2 = key
    let goOn (index : Nat) : Except Failure (Option Nat) :=
      seek buckets isWanted (chainIncrement hash table.bucketCount) table.bucketCount
        table.bucketCount index
    match index with
    | some index => goOn index
    | none =>
        let index := chainStart hash table.bucketCount
        match buckets[index]? with
        | none => .error .nullBuckets
        | some bucket =>
            match bucket.content with
            | some content => if getKey content.2 = key then .ok (some index) else goOn index
            | none => if !bucket.collision then .ok none else goOn index

/-- `removeAt`, for an index of an entry. -/
def removeAt (table : Table Entry) (index : Nat) :
    Option (Table Entry) :=
  table.buckets.bind fun buckets =>
    buckets[index]?.bind fun bucket =>
      if bucket.present then
        some { table with
          buckets := some (buckets.set index { bucket with content := none })
          filledBuckets :=
            if !bucket.collision then table.filledBuckets - 1 else table.filledBuckets
          size := table.size - 1 }
      else none

/-- `rehash`. -/
def rehash (table : Table Entry) (minimumCapacity : Nat) (loadFactor : Number) :
    Except Failure (Table Entry) :=
  match determineCapacity (max minimumCapacity table.size) loadFactor with
  | none => .error .noCapacity
  | some (bucketCount, capacity) =>
      if bucketCount ≠ table.bucketCount ∨ capacity ≠ table.capacity then
        match table.buckets with
        | none => .ok { table with bucketCount, capacity, loadFactor }
        | some buckets =>
            if table.size ≠ 0 then
              ((allocateBuckets table.bucketSize bucketCount).bind
                (placeAll bucketCount buckets)).map fun buckets =>
                  { table with
                    buckets := some buckets
                    filledBuckets := table.size
                    bucketCount
                    capacity
                    loadFactor }
            else .ok { table with
                buckets := none
                filledBuckets := table.size
                bucketCount
                capacity
                loadFactor }
      else .ok { table with loadFactor }

/-- The loop of `add`. -/
def addLoop (hash : Nat) (entry : Entry) :
    Nat → Table Entry → Except Failure (Table Entry × Nat)
  | 0, _ => .error .endless
  | fuel + 1, table =>
      match table.buckets with
      | none => .error .nullBuckets
      | some buckets =>
          (walk (chainIncrement hash table.bucketCount) table.bucketCount table.bucketCount
            buckets (chainStart hash table.bucketCount)).bind fun (buckets, index) =>
              let collision := (buckets[index]?.map Bucket.collision).getD false
              let table := { table with buckets := some buckets }
              if !collision && table.capacity ≤ table.filledBuckets then
                (rehash table (table.capacity * 2) table.loadFactor).bind
                  (addLoop hash entry fuel)
              else
                .ok ({ table with
                  buckets := some (buckets.set index { collision, content := some (hash, entry) })
                  filledBuckets :=
                    if !collision then table.filledBuckets + 1 else table.filledBuckets
                  size := table.size + 1 }, index)

/-- `add`, with the index of the new entry.  After a `rehash` there is room, so the loop runs
twice at most. -/
def add (table : Table Entry) (hash : Nat) (entry : Entry) :
    Except Failure (Table Entry × Nat) :=
  match table.buckets with
  | some _ => addLoop (trimHash hash) entry 2 table
  | none =>
      (allocateBuckets table.bucketSize table.bucketCount).bind fun buckets =>
        addLoop (trimHash hash) entry 2 { table with buckets := some buckets }

end Table
end BasicHashtable
end Skplat
