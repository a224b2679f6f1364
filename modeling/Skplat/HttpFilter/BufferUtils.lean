import Mathlib.Algebra.Ring.Nat
import Mathlib.Data.List.Basic
import Skplat.Utils.AutoBuffer

/-!
# The buffers of the HTTP filters

`BufferUtils` is a growing array.  Its new size goes through an `int`.  `consume` moves
the rest of the content to the front in words of four bytes, so it copies up to three
bytes from behind the content as well.
-/

namespace Skplat
namespace HttpFilter

open AutoBuffer (overwrite)

/-- The value of a `size_t` after its conversion to `int`. -/
def asInt (size : Nat) : Int :=
  Int.bmod size (2 ^ 32)

theorem asInt_of_lt {size : Nat} (small : size < 2 ^ 31) : asInt size = size :=
  Int.bmod_eq_of_le (by omega) (by omega)

/-- The first `size()` bytes of a `BufferUtils`, and `mCapacity`. -/
structure BufferUtils where
  content : List UInt8
  capacity : Nat
  positive : 0 < capacity

namespace BufferUtils

variable (buffer : BufferUtils)

/-- A buffer of `BUFFER_UTILS_DEFAULT_SIZE`. -/
def new : BufferUtils where
  content := []
  capacity := 1024
  positive := by decide

/-- The new size that `append` asks for. -/
def resize (size : Nat) : Nat :=
  let resize := buffer.capacity + buffer.capacity / 2
  if resize ≤ buffer.content.length + size then
    buffer.capacity + buffer.capacity / 2 + size
  else resize

/-- What `setCapacity` returns: the capacity is not reduced. -/
def setCapacity (newCapacity : Nat) : Nat :=
  if newCapacity ≤ buffer.content.length then buffer.capacity else newCapacity

/-- `append(data, size)` and its result. -/
def append (data : List UInt8) : Nat × BufferUtils :=
  if buffer.content.length + data.length > buffer.capacity then
    if large : 0 < asInt (buffer.setCapacity (buffer.resize data.length)) then
      (data.length,
        { content := buffer.content ++ data
          capacity := (asInt (buffer.setCapacity (buffer.resize data.length))).toNat
          positive := by omega })
    else (0, buffer)
  else (data.length, { buffer with content := buffer.content ++ data })

/-- The copy loop of `consume` after a number of words. -/
def copyWords (size : Nat) (memory : List UInt8) : Nat → List UInt8
  | 0 => memory
  | i + 1 =>
      let copied := copyWords size memory i
      overwrite copied (4 * i) ((copied.drop (size + 4 * i)).take 4)

/-- `consume(size)` and its result, with the memory behind the content. -/
def consume (size : Nat) (beyond : List UInt8) : Nat × BufferUtils :=
  if size > buffer.content.length then (0, { buffer with content := [] })
  else
    let mSize := buffer.content.length - size
    let count := asInt ((mSize + 3) / 4)
    (mSize, { buffer with
      content := (copyWords size (buffer.content ++ beyond) count.toNat).take mSize })

/-- The array need not grow for so many bytes, or its new size is an `int`. -/
def Holds (size : Nat) : Prop :=
  buffer.content.length + size ≤ buffer.capacity ∨
    buffer.setCapacity (buffer.resize size) < 2 ^ 31

instance (size : Nat) : Decidable (buffer.Holds size) :=
  inferInstanceAs (Decidable (_ ∨ _))

/-! ## What the operations do -/

theorem setCapacity_pos (newCapacity : Nat) : 0 < buffer.setCapacity newCapacity := by
  have positive := buffer.positive
  unfold setCapacity
  split
  · exact positive
  · omega

/-- `append` appends. -/
theorem content_append
    {buffer : BufferUtils} {data : List UInt8}
    (holds : buffer.Holds data.length) :
    (buffer.append data).2.content = buffer.content ++ data := by
  unfold append
  split
  · rename_i full
    have small := holds.resolve_left (Nat.not_le_of_lt full)
    have large : 0 < asInt (buffer.setCapacity (buffer.resize data.length)) := by
      rw [asInt_of_lt small]
      exact Int.natCast_pos.mpr (buffer.setCapacity_pos _)
    rw [dif_pos large]
  · rfl

theorem getElem?_overwrite
    {array data : List UInt8} {pos : Nat}
    (inside : pos ≤ array.length) (k : Nat) :
    (overwrite array pos data)[k]? =
      if pos ≤ k ∧ k < pos + data.length then data[k - pos]? else array[k]? := by
  have front : (array.take pos).length = pos := by
    rw [List.length_take, Nat.min_eq_left inside]
  rw [overwrite, List.append_assoc, List.getElem?_append, front]
  split
  · rename_i before
    rw [List.getElem?_take_of_lt before, if_neg (by omega)]
  · rename_i behind
    rw [List.getElem?_append]
    split
    · rw [if_pos (by omega)]
    · rw [if_neg (by omega), List.getElem?_drop]
      congr 1
      omega

/-- The words already copied hold the bytes from the new start on, and the bytes behind
them are as they were. -/
theorem getElem?_copyWords
    {memory : List UInt8} {size left i : Nat}
    (inside : size + left ≤ memory.length)
    (within : 4 * i < left + 4) (k : Nat) :
    (4 * i ≤ k → (copyWords size memory i)[k]? = memory[k]?) ∧
      (k < 4 * i → k < left → (copyWords size memory i)[k]? = memory[size + k]?) := by
  induction i generalizing k with
  | zero => exact ⟨fun _ => rfl, fun below => absurd below (by omega)⟩
  | succ i inductionHypothesis =>
      have before := inductionHypothesis (by omega)
      have reaches : 4 * i ≤ (copyWords size memory i).length := by
        have same := (before (4 * i)).1 (Nat.le_refl _)
        rw [List.getElem?_eq_getElem (show 4 * i < memory.length by omega)] at same
        exact Nat.le_of_lt (List.getElem?_eq_some_iff.mp same).1
      have word : ∀ j < 4, ((List.drop (size + 4 * i) (copyWords size memory i)).take 4)[j]? =
          memory[size + 4 * i + j]? := by
        intro j below
        rw [List.getElem?_take_of_lt below, List.getElem?_drop]
        exact (before _).1 (by omega)
      rw [copyWords, getElem?_overwrite reaches]
      constructor
      · intro behind
        rw [if_neg]
        · exact (before k).1 (by omega)
        · have size := List.length_take_le 4 (List.drop (size + 4 * i) (copyWords size memory i))
          omega
      · intro below kept
        by_cases copied : k < 4 * i
        · rw [if_neg (by omega)]
          exact (before k).2 copied kept
        · have byte := word (k - 4 * i) (by omega)
          rw [show size + 4 * i + (k - 4 * i) = size + k by omega] at byte
          have present : k - 4 * i <
              ((List.drop (size + 4 * i) (copyWords size memory i)).take 4).length := by
            rw [List.getElem?_eq_getElem (show size + k < memory.length by omega)] at byte
            exact (List.getElem?_eq_some_iff.mp byte).1
          rw [if_pos (by omega), byte]

/-- `consume` removes bytes in front, whatever is behind the content. -/
theorem content_consume
    {buffer : BufferUtils} {size : Nat}
    (inside : size ≤ buffer.content.length)
    (small : buffer.content.length < 2 ^ 31)
    (beyond : List UInt8) :
    (buffer.consume size beyond).2.content = buffer.content.drop size := by
  have words : asInt ((buffer.content.length - size + 3) / 4) =
      ((buffer.content.length - size + 3) / 4 : Nat) := asInt_of_lt (by omega)
  simp only [consume, if_neg (Nat.not_lt_of_le inside), words, Int.toNat_natCast]
  apply List.ext_getElem?
  intro k
  rw [List.getElem?_take, List.getElem?_drop]
  split
  · rename_i below
    have moved := (getElem?_copyWords (show size + (buffer.content.length - size) ≤
      (buffer.content ++ beyond).length by rw [List.length_append]; omega)
      (show 4 * ((buffer.content.length - size + 3) / 4) <
        buffer.content.length - size + 4 by omega) k).2 (by omega) below
    rw [moved, List.getElem?_append_left (by omega)]
  · rw [List.getElem?_eq_none (by omega)]

end BufferUtils
end HttpFilter
end Skplat
