import Mathlib.Data.List.Basic
import Skplat.Utils.PositionalRead

/-!
# The buffer in which a log line is put together

`BufferIO` writes into an array of its user through a cursor.  What does not fit is dropped,
and the cursor does not leave what was written.  A cell of the array holds a byte after it
was written, and before that the array is zero.
-/

namespace Skplat
namespace LogBase

/-- A byte of the array, if it was written. -/
abbrev Cell := Option UInt8

/-- Bytes are stored from a position on. -/
def store (cells : List Cell) (position : Nat) (bytes : List UInt8) : List Cell :=
  cells.take position ++ bytes.map some ++ cells.drop (position + bytes.length)

variable {cells front behind : List Cell} {bytes : List UInt8} {position : Nat}

theorem length_store (inside : position + bytes.length ≤ cells.length) :
    (store cells position bytes).length = cells.length := by
  rw [store, List.length_append, List.length_append, List.length_take, List.length_map,
    List.length_drop]
  omega

theorem store_append (front behind : List Cell) (bytes : List UInt8) :
    store (front ++ behind) front.length bytes =
      front ++ bytes.map some ++ behind.drop bytes.length := by
  rw [store, List.take_left, List.drop_append, List.drop_of_length_le (by omega),
    Nat.add_sub_cancel_left, List.nil_append]

/-- What is stored stands there. -/
theorem getElem?_store_add {index : Nat} (inside : position ≤ cells.length)
    (stored : index < bytes.length) :
    (store cells position bytes)[position + index]? = some bytes[index]? := by
  have isFront : (cells.take position).length = position := by
    rw [List.length_take, Nat.min_eq_left inside]
  rw [store, List.append_assoc, List.getElem?_append_right (by omega), isFront,
    Nat.add_sub_cancel_left, List.getElem?_append_left (by rw [List.length_map]; exact stored),
    List.getElem?_map, List.getElem?_eq_getElem stored, Option.map_some]

/-- What stands before is not changed. -/
theorem getElem?_store_of_lt {index : Nat} (before : index < position)
    (inside : position ≤ cells.length) : (store cells position bytes)[index]? = cells[index]? := by
  rw [store, List.append_assoc, List.getElem?_append_left (by rw [List.length_take]; omega),
    List.getElem?_take_of_lt before]

/-- `BufferIO` over an array of the size `cap_`. -/
structure BufferIo where
  parray : List Cell
  pos : Nat
  length : Nat
  /-- The cursor does not leave what was written. -/
  bounds : pos ≤ length ∧ length ≤ parray.length

namespace BufferIo

/-- `BufferIO(temp, 0, cap)` for an array of zeros. -/
def new (cap : Nat) : BufferIo where
  parray := List.replicate cap none
  pos := 0
  length := 0
  bounds := ⟨Nat.le_refl 0, Nat.zero_le _⟩

/-- `Cap()`. -/
def cap (log : BufferIo) : Nat :=
  log.parray.length

/-- `Write(bytes, len)`. -/
def write (log : BufferIo) (bytes : List UInt8) : BufferIo where
  parray := store log.parray log.pos (bytes.take (log.cap - log.pos))
  pos := min (log.pos + bytes.length)
    (max log.length (min bytes.length (log.cap - log.pos) + log.pos))
  length := max log.length (min bytes.length (log.cap - log.pos) + log.pos)
  bounds := by
    obtain ⟨posLe, lengthLe⟩ := log.bounds
    rw [length_store (by rw [List.length_take, cap]; omega), cap]
    exact ⟨Nat.min_le_right _ _, by omega⟩

/-- `snprintf` behind the cursor, of which at most `size` bytes are written. -/
def print (log : BufferIo) (size : Nat) (text : List UInt8)
    (room : log.pos + size ≤ log.cap) (positive : 0 < size) : BufferIo where
  parray := store log.parray log.pos (text.take (size - 1) ++ [0])
  pos := log.pos
  length := log.length
  bounds := by
    rw [length_store, ← cap]
    · exact log.bounds
    · rw [List.length_append, List.length_take, List.length_singleton, ← cap]
      omega

/-- `UpdateCursor`.  Its assertions only write a log line of their own. -/
def updateCursor (log : BufferIo) (position length : Nat) : BufferIo where
  parray := log.parray
  length := min log.cap length
  pos := min position (min log.cap length)
  bounds := ⟨Nat.min_le_right _ _, Nat.min_le_left _ _⟩

/-- `*((char*)EmptyBuffer() - 1)`, or none in front of the array. -/
def lastByte (log : BufferIo) : Option UInt8 :=
  if log.pos = 0 then none else (log.parray[log.pos - 1]?).map fun cell => cell.getD 0

/-- The array holds a text, the cursor is at its end, and zeros follow. -/
structure Contains (log : BufferIo) (text : List UInt8) : Prop where
  isText : ∃ behind, log.parray = text.map some ++ behind ∧
    ∀ cell ∈ behind, cell.getD 0 = 0
  pos_eq : log.pos = text.length
  length_eq : log.length = text.length

variable {log : BufferIo} {text : List UInt8} {size : Nat}

@[simp] theorem cap_new (size : Nat) : (new size).cap = size :=
  List.length_replicate

@[simp] theorem cap_write (log : BufferIo) (bytes : List UInt8) :
    (log.write bytes).cap = log.cap := by
  obtain ⟨posLe, lengthLe⟩ := log.bounds
  exact length_store (by rw [List.length_take, cap]; omega)

@[simp] theorem parray_updateCursor (log : BufferIo) (position length : Nat) :
    (log.updateCursor position length).parray = log.parray :=
  rfl

/-- The cursor is moved, but not out of the array. -/
theorem pos_updateCursor (log : BufferIo) (position length : Nat) :
    (log.updateCursor position length).pos = min position (min log.cap length) :=
  rfl

@[simp] theorem cap_updateCursor (log : BufferIo) (position length : Nat) :
    (log.updateCursor position length).cap = log.cap :=
  rfl

@[simp] theorem cap_print (room : log.pos + size ≤ log.cap) (positive : 0 < size) :
    (log.print size text room positive).cap = log.cap := by
  refine length_store ?_
  rw [List.length_append, List.length_take, List.length_singleton, ← cap]
  omega

/-- An array of zeros holds nothing. -/
theorem contains_new (size : Nat) : (new size).Contains [] where
  isText := by
    refine ⟨List.replicate size none, rfl, ?_⟩
    intro cell present
    rw [List.eq_of_mem_replicate present]
    rfl
  pos_eq := rfl
  length_eq := rfl

/-- A write with room for it puts the bytes behind the text. -/
theorem Contains.write
    (contains : log.Contains text) (room : text.length + bytes.length ≤ log.cap) :
    (log.write bytes).Contains (text ++ bytes) := by
  obtain ⟨⟨behind, isArray, zeros⟩, isPos, isLength⟩ := contains
  have fits : bytes.length ≤ log.cap - log.pos := by omega
  have newLength : max log.length (min bytes.length (log.cap - log.pos) + log.pos) =
      (text ++ bytes).length := by
    rw [List.length_append, isLength, isPos]
    omega
  refine ⟨⟨behind.drop bytes.length, ?_, ?_⟩, ?_, newLength⟩
  · have isFront : log.pos = (text.map some).length := by rw [isPos, List.length_map]
    calc
      store log.parray log.pos (bytes.take (log.cap - log.pos)) =
          store (text.map some ++ behind) (text.map some).length bytes := by
            rw [List.take_of_length_le fits, isArray, isFront]
      _ = (text ++ bytes).map some ++ behind.drop bytes.length := by
            rw [store_append, List.map_append]
  · exact fun cell present => zeros cell (List.mem_of_mem_drop present)
  · refine Eq.trans (Nat.min_eq_left (Nat.le_of_eq ?_)) ?_
    · rw [newLength, List.length_append, isPos]
    · rw [List.length_append, isPos]

/-- What is printed whole stands behind the text after the cursor has passed it. -/
theorem Contains.print {printed : List UInt8}
    (contains : log.Contains text) (room : log.pos + size ≤ log.cap) (positive : 0 < size)
    (whole : printed.length < size) :
    ((log.print size printed room positive).updateCursor (log.pos + printed.length)
      (log.length + printed.length)).Contains (text ++ printed) := by
  obtain ⟨⟨behind, isArray, zeros⟩, isPos, isLength⟩ := contains
  have newLength : min log.cap (log.length + printed.length) = (text ++ printed).length := by
    rw [List.length_append, isLength]
    omega
  refine ⟨⟨some 0 :: behind.drop (printed.length + 1), ?_, ?_⟩, ?_, ?_⟩
  · have isFront : log.pos = (text.map some).length := by rw [isPos, List.length_map]
    calc
      store log.parray log.pos (printed.take (size - 1) ++ [0]) =
          store (text.map some ++ behind) (text.map some).length (printed ++ [0]) := by
            rw [List.take_of_length_le (by omega), isArray, isFront]
      _ = (text ++ printed).map some ++ some 0 :: behind.drop (printed.length + 1) := by
            rw [store_append]
            simp
  · intro cell present
    obtain rfl | present := List.mem_cons.mp present
    · rfl
    · exact zeros cell (List.mem_of_mem_drop present)
  · change min (log.pos + printed.length)
      (min (log.print size printed room positive).cap (log.length + printed.length)) = _
    rw [cap_print, newLength, List.length_append, isPos, Nat.min_self]
  · change min (log.print size printed room positive).cap (log.length + printed.length) = _
    rw [cap_print, newLength]

/-- What is printed is cut, and the last byte is a zero. -/
theorem print_cuts {printed : List UInt8}
    (room : log.pos + size ≤ log.cap) (positive : 0 < size)
    (long : size ≤ printed.length) :
    (log.print size printed room positive).parray[log.pos + (size - 1)]? = some (some 0) := by
  have isLength : (printed.take (size - 1)).length = size - 1 := by
    rw [List.length_take]
    omega
  have inside : log.pos ≤ log.parray.length := by
    rw [← cap]
    omega
  have isByte : size - 1 < (printed.take (size - 1) ++ [0]).length := by
    rw [List.length_append, isLength]
    exact Nat.lt_succ_self _
  have stored := getElem?_store_add inside isByte
  rw [List.getElem?_append_right (by omega), isLength, Nat.sub_self] at stored
  exact stored

/-- The byte in front of the cursor is the last one of the text. -/
theorem Contains.lastByte (contains : log.Contains text) :
    log.lastByte = text.getLast? := by
  obtain ⟨⟨behind, isArray, -⟩, isPos, -⟩ := contains
  rw [BufferIo.lastByte, isPos, isArray]
  by_cases isEmpty : text = []
  · rw [isEmpty]
    rfl
  · have positive := List.length_pos_of_ne_nil isEmpty
    rw [if_neg (by omega), List.getElem?_append_left (by rw [List.length_map]; omega),
      List.getElem?_map, List.getLast?_eq_getElem?]
    cases text[text.length - 1]? with
    | none => rfl
    | some byte => rfl

/-- A write does not change what stands before the cursor, and nothing is forgotten. -/
theorem getElem?_write {index : Nat} (before : index < log.pos) (bytes : List UInt8) :
    (log.write bytes).parray[index]? = log.parray[index]? ∧
      log.pos ≤ (log.write bytes).pos := by
  obtain ⟨posLe, lengthLe⟩ := log.bounds
  refine ⟨getElem?_store_of_lt before (by omega), ?_⟩
  simp only [write]
  omega

/-- The bytes of the array, with the zeros that were not written. -/
def memory (log : BufferIo) : Skplat.BufferIo where
  parray := log.parray.map fun cell => cell.getD 0
  pos := log.pos
  length := log.length
  fits := by
    rw [List.length_map]
    exact log.bounds.2

end BufferIo
end LogBase
end Skplat
