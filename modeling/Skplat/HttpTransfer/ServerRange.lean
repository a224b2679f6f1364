import Skplat.Data.CString
import Skplat.Data.Numeral

/-!
# The range of a partial answer

`parseServerRange` looks for a space behind the unit, or from the beginning of the value if
there is no unit.  That loop does not look for the end of the string.
-/

namespace Skplat
namespace HttpTransfer

open CString
open Numeral (atoi digits byteValue digits_spec atoi_digits_append)

/-- The members of `rg` that `parseServerRange` assigns.  `last` is the field `end`. -/
structure ServerRange where
  begin : Int
  last : Int
  deriving DecidableEq, Repr

/-- `serverRangeUnits`. -/
def serverRangeUnits : List UInt8 :=
  ascii "bytes"

/-- Where the search for a space begins. -/
def behindUnit (range : List UInt8) : List UInt8 :=
  match strstr serverRangeUnits range with
  | none => range
  | some position => range.drop (position + serverRangeUnits.length)

/-- `parseServerRange` for a value without its zero, or none if it reads behind that.
`partialEnd` is `mPartialData.end`. -/
def parseServerRange (range : List UInt8) (partialEnd : Int) : Option ServerRange := do
  -- the loop that looks for a space goes on behind a string that has none
  let (_, bytes) ← strchr 32 (behindUnit range)
  match strchr 45 bytes with
  | none => some { begin := atoi bytes, last := partialEnd }
  | some (_, afterSplit) => some { begin := atoi bytes, last := atoi afterSplit }

variable {byte : UInt8}

/-- A number has only digits. -/
theorem notMem_digits (number : Nat) (noDigit : 10 ≤ byteValue byte) :
    byte ∉ digits number := by
  intro present
  have small := (digits_spec number).2.1 byte present
  omega

/-- What is written for a range, without a unit. -/
def rangeText (b e t : Nat) : List UInt8 :=
  digits b ++ 45 :: (digits e ++ 47 :: digits t)

theorem notMem_rangeText
    (b e t : Nat) (noDigit : 10 ≤ byteValue byte) (notDash : byte ≠ 45)
    (notSlash : byte ≠ 47) : byte ∉ rangeText b e t := by
  simp [rangeText, notMem_digits b noDigit, notMem_digits e noDigit,
    notMem_digits t noDigit, notDash, notSlash]

theorem behindUnit_unit (rest : List UInt8) :
    behindUnit (serverRangeUnits ++ rest) = rest := by
  have found : strstr serverRangeUnits (serverRangeUnits ++ rest) = some 0 :=
    (strstr_of_notMem (by simp) List.not_mem_nil :
      strstr serverRangeUnits ([] ++ serverRangeUnits ++ rest) = some [].length)
  rw [behindUnit, found]
  dsimp only
  rw [Nat.zero_add, List.drop_left]

theorem behindUnit_rangeText (b e t : Nat) :
    behindUnit (rangeText b e t) = rangeText b e t := by
  have noUnit : strstr serverRangeUnits (rangeText b e t) = none := by
    have absent : 98 ∉ rangeText b e t :=
      notMem_rangeText b e t (by decide) (by decide) (by decide)
    have searched : strstr serverRangeUnits (rangeText b e t ++ []) =
        if 0 ∈ rangeText b e t then none
        else (strstr serverRangeUnits []).map (· + (rangeText b e t).length) :=
      strstr_skip absent
    rw [List.append_nil] at searched
    refine searched.trans ?_
    split <;> rfl
  rw [behindUnit, noUnit]

/-- Nothing is read behind a value if and only if there is a space where one is looked for. -/
theorem isSome_parseServerRange_iff (range : List UInt8) (partialEnd : Int) :
    (parseServerRange range partialEnd).isSome ↔ 32 ∈ behindUnit range := by
  rw [parseServerRange]
  cases found : strchr 32 (behindUnit range) with
  | none =>
      have absent := strchr_eq_none_iff.mp found
      exact iff_of_false (by simp) absent
  | some parts =>
      have present : 32 ∈ behindUnit range := by
        by_contra absent
        rw [strchr_eq_none_iff.mpr absent] at found
        cases found
      refine iff_of_true ?_ present
      obtain ⟨before, bytes⟩ := parts
      rw [Option.bind_eq_bind, Option.bind_some]
      dsimp only
      cases strchr 45 bytes with
      | none => rfl
      | some parts => rfl

/-- A range with a unit is read as it stands. -/
theorem parseServerRange_unit
    {b e t : Nat} (partialEnd : Int) (ordered : b ≤ e) (inside : e < t) (small : t < 2 ^ 31) :
    parseServerRange (ascii "bytes " ++ rangeText b e t) partialEnd =
      some { begin := b, last := e } := by
  have unit : behindUnit (ascii "bytes " ++ rangeText b e t) = 32 :: rangeText b e t :=
    behindUnit_unit (32 :: rangeText b e t)
  have space : strchr 32 (32 :: rangeText b e t) = some ([], rangeText b e t) := if_pos rfl
  have dash : strchr 45 (rangeText b e t) = some (digits b, digits e ++ 47 :: digits t) :=
    strchr_append_cons (notMem_digits b (by decide)) _
  have first : atoi (rangeText b e t) = b :=
    atoi_digits_append (by omega) fun byte isHead => by
      cases isHead
      decide
  have second : atoi (digits e ++ 47 :: digits t) = e :=
    atoi_digits_append (by omega) fun byte isHead => by
      cases isHead
      decide
  rw [parseServerRange, unit, space, Option.bind_eq_bind, Option.bind_some]
  dsimp only
  rw [dash, first]
  dsimp only
  rw [second]

/-- A range without unit is never read. -/
theorem parseServerRange_rangeText (b e t : Nat) (partialEnd : Int) :
    parseServerRange (rangeText b e t) partialEnd = none := by
  have noSpace : strchr 32 (rangeText b e t) = none :=
    strchr_eq_none_iff.mpr
      (notMem_rangeText b e t (by decide) (by decide) (by decide))
  rw [parseServerRange, behindUnit_rangeText, noSpace]
  rfl

/-- Nothing is read behind a value if and only if there is a space where one is looked for.
A range with a unit is read as it stands, and a range without unit never is. -/
theorem parseServerRange_iff (range : List UInt8) (partialEnd : Int) (b e t : Nat) :
    ((parseServerRange range partialEnd).isSome ↔ 32 ∈ behindUnit range) ∧
    (b ≤ e → e < t → t < 2 ^ 31 →
      parseServerRange (ascii "bytes " ++ rangeText b e t) partialEnd =
        some { begin := b, last := e }) ∧
    parseServerRange (rangeText b e t) partialEnd = none := by
  refine ⟨isSome_parseServerRange_iff range partialEnd, ?_, ?_⟩
  · intro ordered inside small
    exact parseServerRange_unit partialEnd ordered inside small
  · exact parseServerRange_rangeText b e t partialEnd

/-- A value without unit is read behind its zero. -/
theorem parseServerRange_without_unit :
    parseServerRange (ascii "1-200/300") (-1) = none := by
  decide

end HttpTransfer
end Skplat
