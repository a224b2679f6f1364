import Skplat.Data.MachineInt
import Skplat.Machine.Basic

/-!
# `RefBase`

The counts of one object while any number of `sp` and `wp` are copied, promoted and dropped by
any number of threads.  Each access to `mStrong` or `mWeak` is a step.

A reference is copied from one that stays until the copy has been counted; the first one is
made from the pointer to the new object.  `onFirstRef`, `onLastStrongRef` and `onLastWeakRef`
do not make references, and what `onIncStrongAttempted` returns is a choice of the step.
-/

namespace Skplat
namespace RefBase

open MachineInt

/-- `OBJECT_LIFETIME_STRONG`, or `extendObjectLifetime(OBJECT_LIFETIME_WEAK)` in the
constructor. -/
inductive Lifetime
  | strong
  | weak
  deriving DecidableEq, Repr

/-- `INITIAL_STRONG_VALUE`. -/
def initialStrongValue : Int := 2 ^ 28

/-- How a reference is made. -/
inductive Kind
  /-- An `sp` from an `sp` or from the new object: `incStrong`. -/
  | share
  /-- A `wp` from an `sp` or from the new object: `createWeak`. -/
  | observe
  /-- A `wp` from a `wp`: `incWeak`. -/
  | copyWeak
  /-- An `sp` from a `wp`: `attemptIncStrong`. -/
  | promote
  deriving DecidableEq, Repr

/-- Where a reference is. -/
inductive Place
  /-- Before `incWeak`, with the reference that is copied, or none for the new object. -/
  | starting (kind : Kind) (source : Option Nat)
  /-- In `incStrong`, before `mStrong` is incremented. -/
  | raising (source : Option Nat)
  /-- The count was `INITIAL_STRONG_VALUE`, which is not subtracted yet. -/
  | adjusting
  /-- Before `onFirstRef`. -/
  | firstRef
  /-- An `sp`. -/
  | strong
  /-- A `wp`. -/
  | weak
  /-- In `attemptIncStrong`, before `mStrong` is read. -/
  | loading
  /-- Before `android_atomic_cmpxchg`. -/
  | exchanging (curCount : Int)
  /-- After the loop, with a count that does not allow an increment as such. -/
  | deciding (curCount : Int)
  /-- Before `android_atomic_inc`. -/
  | attempting
  /-- Before `onLastStrongRef` for the reference that was not needed. -/
  | unneeded
  /-- In `decStrong`. -/
  | releasing
  /-- It was the last one; before `onLastStrongRef`. -/
  | lastStrong
  /-- Before `decWeak`. -/
  | dropping
  /-- It was the last one; before the end of `decWeak`. -/
  | lastWeak
  | gone
  deriving DecidableEq, Repr

/-- The reference that has to stay. -/
def Place.source : Place → Option Nat
  | .starting _ source => source
  | .raising source => source
  | _ => none

/-- The counts, the memory and the references. -/
structure State where
  mStrong : Int
  mWeak : Int
  /-- The object is not destroyed. -/
  objectAlive : Bool
  /-- `mRefs` is not freed. -/
  refsAlive : Bool
  /-- Something was accessed after it was destroyed or freed. -/
  fault : Bool
  /-- How often `onFirstRef` was called. -/
  firstRefs : Nat
  places : List Place
  deriving DecidableEq, Repr

/-- A step. -/
inductive Action
  /-- A thread starts to make a reference from another one. -/
  | copy (source : Nat) (kind : Kind)
  /-- A reference is dropped. -/
  | release (index : Nat)
  /-- The next step of a reference, with what `onIncStrongAttempted` returns. -/
  | advance (index : Nat) (allowed : Bool)
  deriving DecidableEq, Repr

/-- A reference of a kind can be made from another one. -/
def Kind.isFrom : Kind → Place → Bool
  | .share, .strong => true
  | .observe, .strong => true
  | .copyWeak, .weak => true
  | .promote, .weak => true
  | _, _ => false

/-- `mRefs` is read from the object. -/
def Kind.usesObject : Kind → Bool
  | .share | .observe => true
  | .copyWeak | .promote => false

/-- Where a reference is after `incWeak`. -/
def Kind.counted (source : Option Nat) : Kind → Place
  | .share => .raising source
  | .observe => .weak
  | .copyWeak => .weak
  | .promote => .loading

namespace State

/-- A new object, of which the first reference is made. -/
def new (kind : Kind) : State where
  mStrong := initialStrongValue
  mWeak := 0
  objectAlive := true
  refsAlive := true
  fault := false
  firstRefs := 0
  places := [.starting kind none]

/-- `mRefs` is accessed, and the object too. -/
def touch (state : State) (object : Bool) : State :=
  { state with
    fault := state.fault || !state.refsAlive || object && !state.objectAlive }

/-- A reference is at another place. -/
def placeAt (state : State) (index : Nat) (place : Place) : State :=
  { state with places := state.places.set index place }

/-- `android_atomic_add` on `mStrong`. -/
def addStrong (state : State) (value : Int) : State :=
  { state with mStrong := toInt32 (state.mStrong + value) }

/-- `android_atomic_add` on `mWeak`. -/
def addWeak (state : State) (value : Int) : State :=
  { state with mWeak := toInt32 (state.mWeak + value) }

/-- The object is deleted. -/
def deleteObject (lifetime : Lifetime) (state : State) : State :=
  let state := state.touch true
  { state with
    objectAlive := false
    refsAlive := state.refsAlive &&
      !(state.mStrong = initialStrongValue || lifetime = .weak && state.mWeak = 0) }

/-- The end of `decWeak` for the last reference. -/
def endWeak (lifetime : Lifetime) (state : State) : State :=
  match lifetime with
  | .strong =>
      if state.mStrong = initialStrongValue then state.deleteObject lifetime
      else { state.touch false with refsAlive := false }
  | .weak => state.deleteObject lifetime

/-- After the loop of `attemptIncStrong`: the increment is allowed. -/
def allows (lifetime : Lifetime) (curCount : Int) (allowed : Bool) : Bool :=
  if curCount = initialStrongValue then lifetime ≠ .weak || allowed
  else lifetime = .weak && allowed

/-- The next step of a reference. -/
def advance (lifetime : Lifetime) (state : State) (index : Nat) (allowed : Bool) :
    Place → Option State
  | .starting kind source =>
      some (((state.touch kind.usesObject).addWeak 1).placeAt index (kind.counted source))
  | .raising _ =>
      some (((state.touch false).addStrong 1).placeAt index
        (if state.mStrong = initialStrongValue then .adjusting else .strong))
  | .adjusting =>
      some (((state.touch false).addStrong (-initialStrongValue)).placeAt index .firstRef)
  | .firstRef =>
      some ({ state.touch true with firstRefs := state.firstRefs + 1 }.placeAt index .strong)
  | .loading =>
      some ((state.touch false).placeAt index
        (if 0 < state.mStrong ∧ state.mStrong ≠ initialStrongValue then
          .exchanging state.mStrong
        else .deciding state.mStrong))
  | .exchanging curCount =>
      if state.mStrong = curCount then
        some (((state.touch false).addStrong 1).placeAt index .strong)
      else some ((state.touch false).placeAt index .loading)
  | .deciding curCount =>
      some ((state.touch (lifetime = .weak)).placeAt index
        (if allows lifetime curCount allowed then .attempting else .dropping))
  | .attempting =>
      some (((state.touch false).addStrong 1).placeAt index
        (if state.mStrong = initialStrongValue then .adjusting
        else if 0 < state.mStrong ∧ state.mStrong < initialStrongValue then .unneeded
        else .strong))
  | .unneeded => some ((state.touch true).placeAt index .strong)
  | .releasing =>
      some (((state.touch true).addStrong (-1)).placeAt index
        (if state.mStrong = 1 then .lastStrong else .dropping))
  | .lastStrong =>
      let touched := state.touch true
      some (State.placeAt
        (if lifetime = .strong then touched.deleteObject lifetime else touched) index .dropping)
  | .dropping =>
      some (((state.touch false).addWeak (-1)).placeAt index
        (if state.mWeak = 1 then .lastWeak else .gone))
  | .lastWeak => some ((state.endWeak lifetime).placeAt index .gone)
  | .strong | .weak | .gone => none

/-- No copy of the reference is being made. -/
def unused (state : State) (index : Nat) : Bool :=
  state.places.all fun place => place.source ≠ some index

/-- One step. -/
def step (lifetime : Lifetime) (state : State) : Action → Option State
  | .copy source kind =>
      match state.places[source]? with
      | some place =>
          if kind.isFrom place then
            some { state with places := state.places ++ [.starting kind (some source)] }
          else none
      | none => none
  | .release index =>
      if state.unused index then
        match state.places[index]? with
        | some .strong => some (state.placeAt index .releasing)
        | some .weak => some (state.placeAt index .dropping)
        | _ => none
      else none
  | .advance index allowed => state.places[index]?.bind (state.advance lifetime index allowed)

end State

/-- An object whose first reference is an `sp` or a `wp`. -/
def system (lifetime : Lifetime) : Machine State Action where
  initial state := state = .new .share ∨ state = .new .observe
  step := State.step lifetime

end RefBase
end Skplat
