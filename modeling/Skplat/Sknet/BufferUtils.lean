import Skplat.Data.MachineInt
import Skplat.Sknet.SharedBuffer
import Skplat.Utils.AutoBuffer

/-!
# Growing buffers with an offset

`utils/BufferUtils.cpp`: an array with the size of its content, its capacity and an
offset at which `write` and `read` work.  The offset is a `size_t`, so the test
`mOffset < 0` of `offset` never holds.  `consume` moves the rest of the content to the
front in words of four bytes and leaves the offset as it is.

The bytes of a call may stand in the array of the buffer itself.  An array that is
replaced is freed before the bytes are copied.

Allocating succeeds as long as the size with the header of the array is an `int`, and new
memory is zero.  An access outside the array has no result, nor has one to an array that
has been freed.
-/

namespace Skplat
namespace Sknet

open AutoBuffer (overwrite copyOut)
open MachineInt (toInt32)

/-- Conversion to `size_t`. -/
def toSize (value : Int) : Nat :=
  (value % 2 ^ 64).toNat

theorem toSize_natCast {value : Nat} (small : value < 2 ^ 64) :
    toSize value = value := by
  unfold toSize
  omega

/-- `memcpy` into an array, or none if it leaves the array. -/
def copyIn (array : List UInt8) (pos : Nat) (data : List UInt8) :
    Option (List UInt8) :=
  if data.isEmpty then some array
  else if pos + data.length ≤ array.length then some (overwrite array pos data)
  else none

/-- Where the bytes of a call stand. -/
inductive Source
  | outside (bytes : List UInt8)
  /-- So many bytes at a position of the array of the buffer itself. -/
  | own (start size : Nat)
  deriving DecidableEq, Repr

namespace Source

/-- The number of bytes. -/
def size : Source → Nat
  | outside bytes => bytes.length
  | own _ size => size

/-- What stands at a source. -/
def bytes (array : List UInt8) : Source → List UInt8
  | outside bytes => bytes
  | own start size => (array.drop start).take size

/-- `memcpy` from a source into an array.  Bytes of the array itself have to stand in it
still, and not where they are copied to. -/
def memcpy (source : Source) (kept : Bool) (array : List UInt8) (pos : Nat) :
    Option (List UInt8) :=
  match source with
  | outside bytes => copyIn array pos bytes
  | own start size =>
      if size = 0 then some array
      else if kept ∧ (start + size ≤ pos ∨ pos + size ≤ start) then do
        let bytes ← copyOut array start size
        copyIn array pos bytes
      else none

end Source

/-- The fields of a `BufferUtils`. -/
structure BufferUtils where
  /-- The array behind `mBuffer`. -/
  mBuffer : List UInt8
  mOffset : Nat
  mSize : Nat
  mCapacity : Nat
  deriving DecidableEq, Repr

/-- The origin of `offset`. -/
inductive SeekWhere
  | seekSet
  | seekCur
  | seekEnd
  deriving DecidableEq, Repr

namespace BufferUtils

variable (buffer : BufferUtils)

/-- `SharedBuffer::alloc()`.  A `sSize` that does not fit in its `int` is not the size of
memory that is allocated and cleared. -/
def alloc (size : Nat) : Option (List UInt8) :=
  if headerSize + size < 2 ^ 31 then some (List.replicate size 0) else none

/-- The constructor. -/
def new (capacity : Nat) : Option BufferUtils := do
  let array ← alloc capacity
  some { mBuffer := array, mOffset := 0, mSize := 0, mCapacity := capacity }

/-- `setCapacity()` and its result.  It does not set `mCapacity`. -/
def setCapacity (newCapacity : Nat) : Option (Int × BufferUtils) :=
  if ((newCapacity : Int) - buffer.mSize).bmod (2 ^ 64) ≤ 0 then
    some (buffer.mCapacity, buffer)
  else do
    let memory ← alloc newCapacity
    let content ← copyOut buffer.mBuffer 0 buffer.mSize
    let array ← copyIn memory 0 content
    some (newCapacity, { buffer with mBuffer := array })

/-- The capacity that `write` and `append` ask for, when the content reaches behind
the capacity. -/
def resize (target size : Nat) : Nat :=
  if buffer.mCapacity + buffer.mCapacity / 2 ≤ target then
    buffer.mCapacity + buffer.mCapacity / 2 + size
  else buffer.mCapacity + buffer.mCapacity / 2

/-- The head of `write` and `append`: make room for `size` bytes at `pos`.  The flag
tells whether there is room. -/
def enlarge (pos size : Nat) : Option (Bool × BufferUtils) :=
  if pos + size > buffer.mCapacity then do
    let (capacity, grown) ← buffer.setCapacity (buffer.resize (pos + size) size)
    let ret := toInt32 capacity
    if ret > 0 then some (true, { grown with mCapacity := ret.toNat })
    else some (false, grown)
  else some (true, buffer)

/-- `write()` and its result. -/
def write (source : Source) : Option (Nat × BufferUtils) := do
  let kept := decide (buffer.mOffset + source.size ≤ buffer.mCapacity)
  let (room, grown) ← buffer.enlarge buffer.mOffset source.size
  if room then
    let array ← source.memcpy kept grown.mBuffer grown.mOffset
    let written := { grown with mBuffer := array }
    if written.mSize < written.mOffset + source.size then
      some (source.size, { written with
        mSize := written.mOffset + source.size
        mOffset := written.mOffset + source.size })
    else
      some (source.size, { written with mOffset := written.mOffset + source.size })
  else some (0, grown)

/-- `append()` and its result. -/
def append (source : Source) : Option (Nat × BufferUtils) := do
  let kept := decide (buffer.mSize + source.size ≤ buffer.mCapacity)
  let (room, grown) ← buffer.enlarge buffer.mSize source.size
  if room then
    let array ← source.memcpy kept grown.mBuffer grown.mSize
    some (source.size, { grown with
      mBuffer := array
      mSize := grown.mSize + source.size })
  else some (0, grown)

/-- `memset` to zero of what is behind a position, up to the capacity. -/
def clearFrom (pos : Nat) : Option BufferUtils := do
  let array ← copyIn buffer.mBuffer pos (List.replicate (buffer.mCapacity - pos) 0)
  some { buffer with mBuffer := array }

/-- `reset()`. -/
def reset : Option BufferUtils :=
  { buffer with mOffset := 0, mSize := 0 }.clearFrom 0

/-- `offset()`, whose result is the new offset. -/
def offset (offset : BitVec 32) (seekWhere : SeekWhere) : BufferUtils :=
  let mOffset := match seekWhere with
    | .seekSet => toSize offset.toInt
    | .seekCur => toSize (buffer.mOffset + offset.toInt)
    | .seekEnd => toSize (buffer.mSize - offset.toInt)
  { buffer with
    mOffset :=
      if mOffset < 0 then 0
      else if mOffset > buffer.mSize then buffer.mSize
      else mOffset }

/-- `read()`, with the bytes it delivers. -/
def read (size : Nat) : Option (List UInt8 × BufferUtils) := do
  let left := toSize ((buffer.mSize : Int) - buffer.mOffset)
  let cpySize := toInt32 (if left > size then size else left)
  let bytes ← copyOut buffer.mBuffer buffer.mOffset (toSize cpySize)
  some (bytes, { buffer with mOffset := toSize (buffer.mOffset + cpySize) })

/-- The copy loop of `consume` after a number of words. -/
def copyWords (size : Nat) (array : List UInt8) : Nat → Option (List UInt8)
  | 0 => some array
  | i + 1 => do
      let copied ← copyWords size array i
      let word ← copyOut copied (size + 4 * i) 4
      copyIn copied (4 * i) word

/-- `consume()` of a size that is not negative, and its result. -/
def consume (size : Nat) : Option (Nat × BufferUtils) :=
  if size > buffer.mSize then do
    let cleared ← { buffer with mSize := 0, mOffset := 0 }.clearFrom 0
    some (0, cleared)
  else do
    let mSize := buffer.mSize - size
    let count := toInt32 ((mSize + 3) / 4 : Nat)
    let array ← copyWords size buffer.mBuffer count.toNat
    let cleared ← { buffer with mBuffer := array, mSize := mSize }.clearFrom mSize
    some (mSize, cleared)

/-- `setTo(buffer)` with another buffer. -/
def setToBuffer (other : BufferUtils) : Option BufferUtils := do
  let memory ← alloc other.mCapacity
  let content ← copyOut other.mBuffer 0 other.mSize
  let array ← copyIn memory 0 content
  some { other with mBuffer := array }

/-- `setTo(buffer)` with the buffer itself, which has released its array by then. -/
def setToItself : Option BufferUtils := do
  let memory ← alloc buffer.mCapacity
  let array ← (Source.own 0 buffer.mSize).memcpy false memory 0
  some { buffer with mBuffer := array }

/-- `setTo(data, size)`, which releases the array first. -/
def setTo (source : Source) : Option BufferUtils := do
  let capacity := toSize (toInt32 (source.size + source.size / 2 : Nat))
  let memory ← alloc capacity
  let array ← source.memcpy false memory 0
  some { mBuffer := array, mOffset := 0, mSize := source.size, mCapacity := capacity }

end BufferUtils

/-- A call on a buffer. -/
inductive BufferCall
  | write (source : Source)
  | append (source : Source)
  | read (size : Nat)
  | offset (offset : BitVec 32) (seekWhere : SeekWhere)
  | consume (size : Nat)
  | reset
  | setToBuffer (other : BufferUtils)
  | setToItself
  | setTo (source : Source)
  deriving DecidableEq, Repr

namespace BufferUtils

/-- A call, with the bytes that it delivers. -/
def call (buffer : BufferUtils) : BufferCall → Option (List UInt8 × BufferUtils)
  | .write source => (buffer.write source).map fun (_, next) => ([], next)
  | .append source => (buffer.append source).map fun (_, next) => ([], next)
  | .read size => buffer.read size
  | .offset offset seekWhere => some ([], buffer.offset offset seekWhere)
  | .consume size => (buffer.consume size).map fun (_, next) => ([], next)
  | .reset => buffer.reset.map fun next => ([], next)
  | .setToBuffer other => (setToBuffer other).map fun next => ([], next)
  | .setToItself => buffer.setToItself.map fun next => ([], next)
  | .setTo source => (setTo source).map fun next => ([], next)

end BufferUtils
end Sknet
end Skplat
