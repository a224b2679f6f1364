import Mathlib.Algebra.Ring.Int.Defs
import Mathlib.Algebra.Ring.Nat
import Mathlib.Order.MinMax

/-!
# Byte buffers with a cursor

The buffer of `utils/autobuffer.h`: an allocated array, of which the first
`length` bytes are the content, and a cursor into the content.  The array grows
in units and grown bytes are zero.  The bounds that the source maintains are
fields of the structure, so every operation has to establish them.
-/

namespace Skplat

/-- An `AutoBuffer`.  The capacity is the size of the allocated array. -/
structure AutoBuffer where
  /-- The allocated array. -/
  parray : List UInt8
  /-- The cursor, an `off_t`. -/
  pos : Int
  /-- Number of content bytes. -/
  length : Nat
  /-- Allocation unit. -/
  mallocUnitsize : Nat
  /-- The content is allocated. -/
  fits : length ≤ parray.length
  /-- The cursor lies in the content. -/
  cursor : 0 ≤ pos ∧ pos ≤ length
  /-- Sizes can be rounded up to the unit. -/
  unit_pos : 0 < mallocUnitsize
  deriving DecidableEq, Repr

namespace AutoBuffer

/-- `AutoBuffer()` with its default unit. -/
def new : AutoBuffer where
  parray := []
  pos := 0
  length := 0
  mallocUnitsize := 128
  fits := Nat.le_refl 0
  cursor := ⟨le_refl 0, le_refl 0⟩
  unit_pos := by decide

theorem new_length_nonneg : 0 ≤ new.length :=
  Nat.zero_le _

/-- `Capacity()`. -/
def capacity (buffer : AutoBuffer) : Nat :=
  buffer.parray.length

/-- The content bytes. -/
def content (buffer : AutoBuffer) : List UInt8 :=
  buffer.parray.take buffer.length

/-- Size to allocate for the requested length. -/
def mallocSize (unit len : Nat) : Nat :=
  (len + unit - 1) / unit * unit

theorem le_mallocSize
    {unit : Nat} (unit_pos : 0 < unit) (len : Nat) :
    len ≤ mallocSize unit len := by
  have divided := Nat.div_add_mod (len + unit - 1) unit
  have remainder := Nat.mod_lt (len + unit - 1) unit_pos
  rw [mallocSize, Nat.mul_comm]
  omega

/-- The array after `__FitSize`: unchanged, or reallocated and zero-filled. -/
def fitSize (buffer : AutoBuffer) (len : Nat) : List UInt8 :=
  if len > buffer.capacity then
    buffer.parray ++
      List.replicate (mallocSize buffer.mallocUnitsize len - buffer.capacity) 0
  else buffer.parray

theorem le_length_fitSize (buffer : AutoBuffer) (len : Nat) :
    len ≤ (buffer.fitSize len).length := by
  have enough := le_mallocSize buffer.unit_pos len
  unfold fitSize capacity
  split
  · rw [List.length_append, List.length_replicate]
    omega
  · omega

theorem length_le_fitSize (buffer : AutoBuffer) (len : Nat) :
    buffer.parray.length ≤ (buffer.fitSize len).length := by
  unfold fitSize
  split
  · rw [List.length_append]
    omega
  · exact le_refl _

/-- `memcpy` into an array at a position. -/
def overwrite (array : List UInt8) (pos : Nat) (data : List UInt8) :
    List UInt8 :=
  array.take pos ++ data ++ array.drop (pos + data.length)

theorem length_overwrite
    {array data : List UInt8} {pos : Nat}
    (inside : pos + data.length ≤ array.length) :
    (overwrite array pos data).length = array.length := by
  simp only [overwrite, List.length_append, List.length_take, List.length_drop]
  omega

/-- `Write(pos, data)` at an asserted position. -/
def write
    (buffer : AutoBuffer) (pos : Nat) (data : List UInt8)
    (_ : pos ≤ buffer.length) : AutoBuffer where
  parray := overwrite (buffer.fitSize (pos + data.length)) pos data
  pos := buffer.pos
  length := max (pos + data.length) buffer.length
  mallocUnitsize := buffer.mallocUnitsize
  fits := by
    have enough := buffer.le_length_fitSize (pos + data.length)
    have grown := buffer.length_le_fitSize (pos + data.length)
    have before := buffer.fits
    rw [length_overwrite enough]
    omega
  cursor := by
    have before := buffer.cursor
    omega
  unit_pos := buffer.unit_pos

/-- `Attach(data, len)`: take over an array of the caller. -/
def attach (buffer : AutoBuffer) (data : List UInt8) : AutoBuffer where
  parray := data
  pos := 0
  length := data.length
  mallocUnitsize := buffer.mallocUnitsize
  fits := le_refl _
  cursor := by omega
  unit_pos := buffer.unit_pos

/-- Origin of a `Seek`. -/
inductive TSeek
  | seekStart
  | seekCur
  | seekEnd
  deriving DecidableEq, Repr

/-- `Seek(offset, origin)`: the cursor is clamped to the content. -/
def seek (buffer : AutoBuffer) (offset : Int) (origin : TSeek) : AutoBuffer :=
  let target := match origin with
    | .seekStart => offset
    | .seekCur => buffer.pos + offset
    | .seekEnd => buffer.length + offset
  { buffer with
    pos := min (max target 0) buffer.length
    cursor := by omega }

/-- The bytes at `PosPtr()`, as many as requested. -/
def bytesAtPos (buffer : AutoBuffer) (count : Nat) : List UInt8 :=
  (buffer.parray.drop buffer.pos.toNat).take count

theorem toNat_pos_le (buffer : AutoBuffer) : buffer.pos.toNat ≤ buffer.length := by
  have cursor := buffer.cursor
  omega

/-- `Write(data)`: at the cursor, which moves along. -/
def writeCur (buffer : AutoBuffer) (data : List UInt8) : AutoBuffer :=
  (buffer.write buffer.pos.toNat data buffer.toNat_pos_le).seek data.length
    .seekCur

/-- `Write(origin, data)`: the cursor stays. -/
def writeSeek (buffer : AutoBuffer) (origin : TSeek) (data : List UInt8) :
    AutoBuffer :=
  match origin with
  | .seekStart => buffer.write 0 data (Nat.zero_le _)
  | .seekCur => buffer.write buffer.pos.toNat data buffer.toNat_pos_le
  | .seekEnd => buffer.write buffer.length data le_rfl

/-- `memcpy` out of an array, or none if it leaves the array. -/
def copyOut (array : List UInt8) (start count : Nat) : Option (List UInt8) :=
  if count = 0 ∨ start + count ≤ array.length then
    some ((array.drop start).take count)
  else none

/-- `Read(pos, out, len)` at an asserted position.  The bytes are copied from
`PosPtr()`. -/
def readAt (buffer : AutoBuffer) (pos len : Nat) : Option (List UInt8) :=
  copyOut buffer.parray buffer.pos.toNat (min (buffer.length - pos) len)

/-- `Read(pos, other, len)`, with the other buffer as result. -/
def readAtInto (buffer : AutoBuffer) (pos : Nat) (other : AutoBuffer) (len : Nat) :
    Option AutoBuffer :=
  (buffer.readAt pos len).map other.writeCur

/-- `Read(out, len)`. -/
def readCur (buffer : AutoBuffer) (len : Nat) :
    Option (List UInt8 × AutoBuffer) :=
  (buffer.readAt buffer.pos.toNat len).map fun bytes =>
    (bytes, buffer.seek bytes.length .seekCur)

/-- `AddCapacity(len)`. -/
def addCapacity (buffer : AutoBuffer) (len : Nat) : AutoBuffer :=
  { buffer with
    parray := buffer.fitSize (buffer.capacity + len)
    fits := buffer.fits.trans (buffer.length_le_fitSize _) }

/-- `Length(pos, length)` at asserted sizes. -/
def setLength
    (buffer : AutoBuffer) (pos length : Nat)
    (_ : pos ≤ length) (allocated : length ≤ buffer.capacity) : AutoBuffer where
  parray := buffer.parray
  pos := min (max pos 0) length
  length := length
  mallocUnitsize := buffer.mallocUnitsize
  fits := allocated
  cursor := by omega
  unit_pos := buffer.unit_pos

/-- `Move(len)` for a positive length: zero bytes are put in front. -/
def moveUp (buffer : AutoBuffer) (len : Nat) : AutoBuffer where
  parray :=
    let grown := buffer.fitSize (buffer.length + len)
    overwrite (overwrite grown len (grown.take buffer.length)) 0
      (List.replicate len 0)
  pos := min (max (buffer.pos + len) 0) (buffer.length + len : Nat)
  length := buffer.length + len
  mallocUnitsize := buffer.mallocUnitsize
  fits := by
    have enough := buffer.le_length_fitSize (buffer.length + len)
    have moved : len + ((buffer.fitSize (buffer.length + len)).take
        buffer.length).length ≤ (buffer.fitSize (buffer.length + len)).length := by
      rw [List.length_take]
      omega
    dsimp only
    rw [length_overwrite, length_overwrite moved]
    · exact enough
    · rw [length_overwrite moved, List.length_replicate]
      omega
  cursor := by omega
  unit_pos := buffer.unit_pos

/-- `Move(-len)`: bytes are taken away in front. -/
def moveDown (buffer : AutoBuffer) (len : Nat) : AutoBuffer :=
  let moveLen := min len buffer.length
  { buffer with
    parray := overwrite buffer.parray 0
      ((buffer.parray.drop moveLen).take (buffer.length - moveLen))
    pos := if moveLen < buffer.pos then buffer.pos - moveLen else 0
    length := buffer.length - moveLen
    fits := by
      have fits := buffer.fits
      rw [length_overwrite]
      · omega
      · rw [List.length_take, List.length_drop]
        omega
    cursor := by
      have cursor := buffer.cursor
      split
      · omega
      · omega }

/-- `Move(len)`. -/
def move (buffer : AutoBuffer) (len : Int) : AutoBuffer :=
  if 0 < len then buffer.moveUp len.toNat else buffer.moveDown (-len).toNat

/-- `Reset()`. -/
def reset (buffer : AutoBuffer) : AutoBuffer :=
  { new with
    mallocUnitsize := buffer.mallocUnitsize
    unit_pos := buffer.unit_pos }

/-- `Attach(other)`: take over the array of another buffer. -/
def attachBuffer (buffer other : AutoBuffer) : AutoBuffer :=
  { other with
    mallocUnitsize := buffer.mallocUnitsize
    unit_pos := buffer.unit_pos }

/-! ## What the operations do to the content -/

@[simp] theorem length_content (buffer : AutoBuffer) :
    buffer.content.length = buffer.length := by
  rw [content, List.length_take]
  exact min_eq_left buffer.fits

theorem content_attach (buffer : AutoBuffer) (data : List UInt8) :
    (buffer.attach data).content = data := by
  simp [attach, content]

/-- Writing at the start of an empty buffer makes the data its content. -/
theorem content_write_new (data : List UInt8) (inside : 0 ≤ new.length) :
    (new.write 0 data inside).content = data := by
  simp [content, write, overwrite, new]

@[simp] theorem content_seek
    (buffer : AutoBuffer) (offset : Int) (origin : TSeek) :
    (buffer.seek offset origin).content = buffer.content := rfl

/-- The bytes at the cursor are content as long as no more are requested than
are left. -/
theorem bytesAtPos_eq
    {buffer : AutoBuffer} {count : Nat}
    (inside : buffer.pos.toNat + count ≤ buffer.length) :
    buffer.bytesAtPos count =
      (buffer.content.drop buffer.pos.toNat).take count := by
  rw [bytesAtPos, content, List.drop_take, List.take_take]
  congr 1
  omega

/-- A seek from the cursor inside the content is exact. -/
theorem pos_seek_seekCur
    {buffer : AutoBuffer} {count : Nat}
    (inside : buffer.pos.toNat + count ≤ buffer.length) :
    (buffer.seek count .seekCur).pos.toNat = buffer.pos.toNat + count := by
  have cursor := buffer.cursor
  simp only [seek]
  omega

/-- Growing keeps the bytes that were there. -/
theorem take_fitSize
    {buffer : AutoBuffer} {count : Nat}
    (inside : count ≤ buffer.parray.length) (len : Nat) :
    (buffer.fitSize len).take count = buffer.parray.take count := by
  unfold fitSize
  split
  · exact List.take_append_of_le_length inside
  · rfl

theorem take_length_fitSize (buffer : AutoBuffer) (len : Nat) :
    (buffer.fitSize len).take buffer.length = buffer.content :=
  take_fitSize buffer.fits len

/-- Writing overwrites or extends the content. -/
theorem content_write
    (buffer : AutoBuffer) (pos : Nat) (data : List UInt8)
    (inside : pos ≤ buffer.length) :
    (buffer.write pos data inside).content =
      buffer.content.take pos ++ data ++ buffer.content.drop (pos + data.length) := by
  have fits := buffer.fits
  have front : (buffer.fitSize (pos + data.length)).take pos =
      buffer.content.take pos := by
    rw [take_fitSize (by omega), content, List.take_take, min_eq_left inside]
  have written : (buffer.content.take pos ++ data).length = pos + data.length := by
    rw [List.length_append, List.length_take, length_content, min_eq_left inside]
  have rest : ((buffer.fitSize (pos + data.length)).drop (pos + data.length)).take
      (buffer.length - (pos + data.length)) =
        buffer.content.drop (pos + data.length) := by
    rw [← List.drop_take, take_length_fitSize]
  have grown : max (pos + data.length) buffer.length - (pos + data.length) =
      buffer.length - (pos + data.length) := by
    omega
  calc (buffer.write pos data inside).content
      = (buffer.content.take pos ++ data ++
          (buffer.fitSize (pos + data.length)).drop (pos + data.length)).take
            (max (pos + data.length) buffer.length) := by
        rw [← front]
        rfl
    _ = buffer.content.take pos ++ data ++
          ((buffer.fitSize (pos + data.length)).drop (pos + data.length)).take
            (buffer.length - (pos + data.length)) := by
        rw [List.take_append, written, grown,
          List.take_of_length_le (by rw [written]; exact le_max_left _ _)]
    _ = _ := by rw [rest]

theorem le_capacity_addCapacity (buffer : AutoBuffer) (len : Nat) :
    buffer.capacity + len ≤ (buffer.addCapacity len).capacity :=
  buffer.le_length_fitSize _

@[simp] theorem content_addCapacity (buffer : AutoBuffer) (len : Nat) :
    (buffer.addCapacity len).content = buffer.content :=
  take_fitSize buffer.fits _

theorem content_moveUp (buffer : AutoBuffer) (len : Nat) :
    (buffer.moveUp len).content = List.replicate len 0 ++ buffer.content := by
  have enough := buffer.le_length_fitSize (buffer.length + len)
  have moved : ((buffer.fitSize (buffer.length + len)).take len).length = len := by
    rw [List.length_take]
    omega
  have array : (buffer.moveUp len).parray = List.replicate len 0 ++
      (buffer.content ++
        (buffer.fitSize (buffer.length + len)).drop (len + buffer.length)) := by
    have taken := buffer.take_length_fitSize (buffer.length + len)
    simp only [moveUp, overwrite, taken, List.take_zero, List.nil_append,
      length_content, List.length_replicate, Nat.zero_add, List.append_assoc]
    rw [List.drop_append, moved, Nat.sub_self, List.drop_zero,
      List.drop_of_length_le moved.le, List.nil_append]
  have size : (buffer.moveUp len).length =
      (List.replicate len (0 : UInt8)).length + buffer.content.length := by
    rw [List.length_replicate, length_content]
    exact Nat.add_comm _ _
  rw [content, array, size, List.take_length_add_append, List.take_left]

theorem content_moveDown (buffer : AutoBuffer) (len : Nat) :
    (buffer.moveDown len).content = buffer.content.drop len := by
  have fits := buffer.fits
  have size : ((buffer.parray.drop (min len buffer.length)).take
      (buffer.length - min len buffer.length)).length =
        buffer.length - min len buffer.length := by
    rw [List.length_take, List.length_drop]
    omega
  have array : (buffer.moveDown len).content =
      (buffer.parray.drop (min len buffer.length)).take
        (buffer.length - min len buffer.length) := by
    simp only [content, moveDown, overwrite, List.take_zero, List.nil_append]
    rw [List.take_append_of_le_length size.ge, List.take_of_length_le size.le]
  rw [array, ← List.drop_take]
  rcases Nat.le_total len buffer.length with inside | beyond
  · rw [min_eq_left inside]
    rfl
  · rw [min_eq_right beyond, List.drop_of_length_le, List.drop_of_length_le]
    · rw [length_content]
      exact beyond
    · exact List.length_take_le _ _

end AutoBuffer
end Skplat
