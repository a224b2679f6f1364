import Skplat.Data.Cursor
import Skplat.HttpFilter.BufferUtils
import Skplat.Machine.Basic
import Skplat.Sknet.BufferUtils

/-!
# Growing buffers are lists with a cursor

The content and the offset of a `BufferUtils` form a list with a cursor.  Calls act on
it as they should, except for a `SEEK_CUR` in front of the start, a `consume` that
leaves the offset behind the content or reads a word behind the array, a new capacity
that an `int` cannot hold, and bytes that are copied out of an array which has been
freed.
-/

namespace Skplat
namespace Sknet

open AutoBuffer (overwrite copyOut length_overwrite)
open MachineInt (toInt32 toInt32_of_nonneg)

/-! ## Copying -/

theorem copyIn_of_le
    {array data : List UInt8} {pos : Nat}
    (inside : pos + data.length ≤ array.length) :
    copyIn array pos data = some (overwrite array pos data) := by
  unfold copyIn
  split
  · rename_i empty
    obtain rfl : data = [] := List.isEmpty_iff.mp empty
    simp [overwrite]
  · rfl

theorem copyOut_of_le
    {array : List UInt8} {start count : Nat}
    (inside : start + count ≤ array.length) :
    copyOut array start count = some ((array.drop start).take count) :=
  if_pos (Or.inr inside)

/-- What an overwritten array holds up to the end of its content. -/
theorem take_overwrite
    {array : List UInt8} {pos size : Nat}
    (within : pos ≤ size) (inside : size ≤ array.length) (data : List UInt8) :
    (overwrite array pos data).take (max (pos + data.length) size) =
      (array.take size).take pos ++ data ++
        (array.take size).drop (pos + data.length) := by
  have written : (array.take pos ++ data).length = pos + data.length := by
    rw [List.length_append, List.length_take]
    omega
  have left : max (pos + data.length) size - (pos + data.length) =
      size - (pos + data.length) := by
    omega
  rw [overwrite, List.take_append, written, left,
    List.take_of_length_le (by omega), List.take_take, Nat.min_eq_left within,
    List.drop_take]

/-- A write behind the content keeps it. -/
theorem take_overwrite_behind
    {array data : List UInt8} {pos size : Nat}
    (behind : size ≤ pos) (inside : pos ≤ array.length) :
    (overwrite array pos data).take size = array.take size := by
  rw [overwrite, List.append_assoc, List.take_append_of_le_length, List.take_take,
    Nat.min_eq_left behind]
  rw [List.length_take]
  omega

namespace BufferUtils

variable {buffer next : BufferUtils}

/-- The bounds that the calls shall keep. -/
structure WellFormed (buffer : BufferUtils) : Prop where
  offset : buffer.mOffset ≤ buffer.mSize
  size : buffer.mSize ≤ buffer.mCapacity
  /-- The array has the capacity. -/
  allocated : buffer.mBuffer.length = buffer.mCapacity
  small : headerSize + buffer.mCapacity < 2 ^ 31

/-- The first `size()` bytes. -/
def content (buffer : BufferUtils) : List UInt8 :=
  buffer.mBuffer.take buffer.mSize

theorem WellFormed.length_content (wellFormed : buffer.WellFormed) :
    buffer.content.length = buffer.mSize := by
  have size := wellFormed.size
  have allocated := wellFormed.allocated
  rw [content, List.length_take]
  omega

theorem WellFormed.lt (wellFormed : buffer.WellFormed) : buffer.mCapacity < 2 ^ 31 :=
  (Nat.le_add_left _ _).trans_lt wellFormed.small

/-- The content with the offset. -/
def WellFormed.view (wellFormed : buffer.WellFormed) : Cursor UInt8 where
  items := buffer.content
  pos := buffer.mOffset
  inside := by
    rw [wellFormed.length_content]
    exact wellFormed.offset

instance (buffer : BufferUtils) : Decidable buffer.WellFormed :=
  decidable_of_iff
    (buffer.mOffset ≤ buffer.mSize ∧ buffer.mSize ≤ buffer.mCapacity ∧
      buffer.mBuffer.length = buffer.mCapacity ∧ headerSize + buffer.mCapacity < 2 ^ 31)
    ⟨fun ⟨offset, size, allocated, small⟩ => ⟨offset, size, allocated, small⟩,
      fun formed => ⟨formed.offset, formed.size, formed.allocated, formed.small⟩⟩

theorem wellFormed_new {capacity : Nat} (made : new capacity = some buffer) :
    buffer.WellFormed := by
  unfold new alloc at made
  split at made
  · rename_i small
    cases made
    exact ⟨le_rfl, Nat.zero_le _, List.length_replicate, small⟩
  · cases made

end BufferUtils

/-! ## What the calls are for -/

namespace BufferCall

/-- What a call of a buffer with an array does to a list with a cursor.  `consume` may leave
the cursor anywhere in the rest. -/
def Does (array : List UInt8) (before after : Cursor UInt8) (bytes : List UInt8) :
    BufferCall → Prop
  | .write source =>
      after = (before.writeAt before.pos (source.bytes array)).seek (before.pos + source.size)
  | .append source => after = before.writeAt before.items.length (source.bytes array)
  | .read size => bytes = before.peek size ∧ after = before.advance size
  | .offset amount .seekSet =>
      after.items = before.items ∧
        (0 ≤ amount.toInt → after = before.seek amount.toInt)
  | .offset amount .seekCur => after = before.seek (before.pos + amount.toInt)
  | .offset amount .seekEnd =>
      after.items = before.items ∧
        (amount.toInt ≤ before.items.length →
          after = before.seek (before.items.length - amount.toInt))
  | .consume size => after.items = before.items.drop size
  | .reset => after = .empty
  | .setToBuffer other =>
      after.items = other.content ∧ after.pos = other.mOffset
  | .setToItself => after = before
  | .setTo source => after = .ofList (source.bytes array)

end BufferCall

namespace BufferUtils

/-- There is room for so many bytes at a position, or the new capacity with the header is
an `int`. -/
def HasRoom (buffer : BufferUtils) (pos size : Nat) : Prop :=
  pos + size ≤ buffer.mCapacity ∨ headerSize + buffer.resize (pos + size) size < 2 ^ 31

/-- The bytes of a source can be copied to a position.  Bytes of the array itself need room
in it, and do not meet the place they are copied to. -/
def Takes (buffer : BufferUtils) (pos : Nat) : Source → Prop
  | .outside bytes => buffer.HasRoom pos bytes.length
  | .own start size =>
      pos + size ≤ buffer.mCapacity ∧ start + size ≤ buffer.mCapacity ∧
        (size = 0 ∨ start + size ≤ pos ∨ pos + size ≤ start)

/-- The call stays clear of the defects: the new capacity is an `int`, bytes of the array
itself are not taken from one that has been freed, `SEEK_CUR` does not go in front of the
start, and `consume` takes the whole content or leaves the offset in the rest and reads its
words in the array. -/
def Permitted (buffer : BufferUtils) : BufferCall → Prop
  | .write source => buffer.Takes buffer.mOffset source
  | .append source => buffer.Takes buffer.mSize source
  | .offset amount .seekCur =>
      0 ≤ buffer.mOffset + amount.toInt ∨ buffer.mSize = 0
  | .consume size =>
      buffer.mSize < size ∨
        buffer.mOffset ≤ buffer.mSize - size ∧
          size + 4 * ((buffer.mSize - size + 3) / 4) ≤ buffer.mCapacity
  | .setToBuffer other => other.WellFormed
  | .setToItself => buffer.mSize = 0
  | .setTo (.outside data) => headerSize + (data.length + data.length / 2) < 2 ^ 31
  | .setTo (.own _ size) => size = 0
  | .offset _ .seekSet | .offset _ .seekEnd | .read _ | .reset => True

instance (buffer : BufferUtils) (pos size : Nat) : Decidable (buffer.HasRoom pos size) :=
  inferInstanceAs (Decidable (_ ∨ _))

instance (buffer : BufferUtils) (pos : Nat) : DecidablePred (buffer.Takes pos)
  | .outside bytes => inferInstanceAs (Decidable (buffer.HasRoom pos bytes.length))
  | .own _ _ => inferInstanceAs (Decidable (_ ∧ _ ∧ _))

instance (buffer : BufferUtils) : DecidablePred buffer.Permitted
  | .write source => inferInstanceAs (Decidable (buffer.Takes buffer.mOffset source))
  | .append source => inferInstanceAs (Decidable (buffer.Takes buffer.mSize source))
  | .offset amount .seekCur =>
      inferInstanceAs (Decidable (0 ≤ buffer.mOffset + amount.toInt ∨ buffer.mSize = 0))
  | .consume _ => inferInstanceAs (Decidable (_ ∨ _ ∧ _))
  | .setToBuffer other => inferInstanceAs (Decidable other.WellFormed)
  | .setToItself => inferInstanceAs (Decidable (buffer.mSize = 0))
  | .setTo (.outside data) =>
      inferInstanceAs (Decidable (headerSize + (data.length + data.length / 2) < 2 ^ 31))
  | .setTo (.own _ size) => inferInstanceAs (Decidable (size = 0))
  | .offset _ .seekSet | .offset _ .seekEnd | .read _ | .reset =>
      inferInstanceAs (Decidable True)

/-- A call does its work: it accesses only bytes of the array, keeps the bounds and
acts on the content and the offset as it should. -/
def Works (buffer : BufferUtils) (call : BufferCall) : Prop :=
  ∃ wellFormed : buffer.WellFormed, ∃ bytes next, ∃ after : next.WellFormed,
    buffer.call call = some (bytes, next) ∧
      call.Does buffer.mBuffer wellFormed.view after.view bytes

variable {buffer next : BufferUtils}

/-! ## Growing -/

/-- The new capacity suffices. -/
theorem le_resize
    (wellFormed : buffer.WellFormed) {pos : Nat}
    (within : pos ≤ buffer.mSize) (size : Nat) :
    pos + size ≤ buffer.resize (pos + size) size := by
  have sizeInside := wellFormed.size
  unfold resize
  split <;> omega

/-- Copying to the front of a new array. -/
theorem copyIn_alloc
    {data : List UInt8} {size : Nat}
    (fits : data.length ≤ size) (small : headerSize + size < 2 ^ 31) :
    ∃ memory array, alloc size = some memory ∧ copyIn memory 0 data = some array ∧
      array.length = size ∧ array.take data.length = data := by
  have length : (List.replicate size (0 : UInt8)).length = size := List.length_replicate
  have inside : 0 + data.length ≤ (List.replicate size (0 : UInt8)).length := by omega
  refine ⟨List.replicate size 0, overwrite (List.replicate size 0) 0 data, if_pos small,
    copyIn_of_le inside, ?_, ?_⟩
  · rw [length_overwrite inside, length]
  · rw [overwrite, List.take_zero, List.nil_append, List.take_left]

/-- The content lies in the array. -/
theorem copyOut_content (wellFormed : buffer.WellFormed) :
    copyOut buffer.mBuffer 0 buffer.mSize = some buffer.content := by
  have size := wellFormed.size
  have allocated := wellFormed.allocated
  rw [copyOut_of_le (by omega), List.drop_zero]
  rfl

/-- A larger capacity gets a new array with the same content. -/
theorem setCapacity_eq
    (wellFormed : buffer.WellFormed) {newCapacity : Nat}
    (larger : buffer.mSize < newCapacity) (small : headerSize + newCapacity < 2 ^ 31) :
    ∃ array, buffer.setCapacity newCapacity =
        some ((newCapacity : Int), { buffer with mBuffer := array }) ∧
      array.length = newCapacity ∧ array.take buffer.mSize = buffer.content := by
  have length := wellFormed.length_content
  have size := wellFormed.size
  have amount : ¬((newCapacity : Int) - buffer.mSize).bmod (2 ^ 64) ≤ 0 := by
    rw [Int.bmod_eq_of_le (by omega) (by omega)]
    omega
  obtain ⟨memory, array, isMemory, copied, allocated, kept⟩ :=
    copyIn_alloc (show buffer.content.length ≤ newCapacity by omega) small
  refine ⟨array, ?_, allocated, length ▸ kept⟩
  rw [setCapacity, if_neg amount, isMemory, Option.bind_eq_bind, Option.bind_some,
    copyOut_content wellFormed, Option.bind_some, copied]
  rfl

/-- `enlarge` with a new array. -/
theorem enlarge_of_setCapacity
    {pos size : Nat} {capacity : Int} {grown : BufferUtils}
    (full : pos + size > buffer.mCapacity)
    (allocated : buffer.setCapacity (buffer.resize (pos + size) size) =
      some (capacity, grown))
    (positive : 0 < toInt32 capacity) :
    buffer.enlarge pos size =
      some (true, { grown with mCapacity := (toInt32 capacity).toNat }) := by
  rw [enlarge, if_pos full, allocated, Option.bind_eq_bind, Option.bind_some]
  exact if_pos positive

/-- `enlarge` makes room and keeps everything else. -/
theorem enlarge_eq
    (wellFormed : buffer.WellFormed) {pos size : Nat}
    (within : pos ≤ buffer.mSize) (room : buffer.HasRoom pos size) :
    ∃ array capacity, buffer.enlarge pos size =
        some (true, { buffer with mBuffer := array, mCapacity := capacity }) ∧
      array.length = capacity ∧ pos + size ≤ capacity ∧
      buffer.mSize ≤ capacity ∧ headerSize + capacity < 2 ^ 31 ∧
      array.take buffer.mSize = buffer.content := by
  have sizeInside := wellFormed.size
  by_cases full : pos + size > buffer.mCapacity
  · have small := room.resolve_left (Nat.not_le_of_lt full)
    have enough := le_resize wellFormed within size
    have grows : buffer.mSize < buffer.resize (pos + size) size := by omega
    obtain ⟨array, allocated, length, kept⟩ :=
      setCapacity_eq wellFormed grows small
    have ret : toInt32 (buffer.resize (pos + size) size : Nat) =
        (buffer.resize (pos + size) size : Nat) :=
      toInt32_of_nonneg (by omega) (by omega)
    refine ⟨array, buffer.resize (pos + size) size, ?_, length, enough, by omega,
      small, kept⟩
    rw [enlarge_of_setCapacity full allocated (by omega), ret, Int.toNat_natCast]
  · refine ⟨buffer.mBuffer, buffer.mCapacity, ?_, wellFormed.allocated, by omega,
      sizeInside, wellFormed.small, rfl⟩
    rw [enlarge, if_neg full]

/-- Without a new array `enlarge` does nothing. -/
theorem enlarge_of_le {pos size : Nat} (room : pos + size ≤ buffer.mCapacity) :
    buffer.enlarge pos size = some (true, buffer) := by
  rw [enlarge, if_neg (Nat.not_lt_of_le room)]

/-- Bytes are copied to a position of the content. -/
theorem enlarge_copyIn
    (wellFormed : buffer.WellFormed) {pos : Nat} {data : List UInt8}
    (within : pos ≤ buffer.mSize) (room : buffer.HasRoom pos data.length) :
    ∃ grown array, buffer.enlarge pos data.length =
        some (true, { buffer with mBuffer := grown, mCapacity := array.length }) ∧
      copyIn grown pos data = some array ∧
      max (pos + data.length) buffer.mSize ≤ array.length ∧
      headerSize + array.length < 2 ^ 31 ∧
      array.take (max (pos + data.length) buffer.mSize) =
        (wellFormed.view.writeAt pos data).items := by
  obtain ⟨grown, capacity, enlarged, allocated, enough, sizeInside, small, kept⟩ :=
    enlarge_eq wellFormed within room
  have fits : pos + data.length ≤ grown.length := by omega
  have length : (overwrite grown pos data).length = capacity := by
    rw [length_overwrite fits, allocated]
  have written := take_overwrite within
    (show buffer.mSize ≤ grown.length by omega) data
  rw [kept] at written
  exact ⟨grown, overwrite grown pos data, length ▸ enlarged, copyIn_of_le fits,
    by omega, by omega, written⟩

/-- Bytes of the array itself are those that stand in it. -/
theorem length_bytes
    (wellFormed : buffer.WellFormed) {source : Source} {pos : Nat}
    (takes : buffer.Takes pos source) :
    (source.bytes buffer.mBuffer).length = source.size := by
  cases source with
  | outside bytes => rfl
  | own start size =>
      have allocated := wellFormed.allocated
      obtain ⟨-, inside, -⟩ := takes
      change ((buffer.mBuffer.drop start).take size).length = size
      rw [List.length_take, List.length_drop]
      omega

/-- The bytes of `write` and `append` are copied to a position of the content. -/
theorem enlarge_memcpy
    (wellFormed : buffer.WellFormed) {pos : Nat} {source : Source}
    (within : pos ≤ buffer.mSize) (takes : buffer.Takes pos source) :
    ∃ grown array, buffer.enlarge pos source.size =
        some (true, { buffer with mBuffer := grown, mCapacity := array.length }) ∧
      source.memcpy (decide (pos + source.size ≤ buffer.mCapacity)) grown pos = some array ∧
      max (pos + source.size) buffer.mSize ≤ array.length ∧
      headerSize + array.length < 2 ^ 31 ∧
      array.take (max (pos + source.size) buffer.mSize) =
        (wellFormed.view.writeAt pos (source.bytes buffer.mBuffer)).items := by
  have length := length_bytes wellFormed takes
  cases source with
  | outside bytes => exact enlarge_copyIn wellFormed within takes
  | own start size =>
      obtain ⟨room, inside, apart⟩ := takes
      have allocated := wellFormed.allocated
      have hasRoom : buffer.HasRoom pos ((Source.own start size).bytes buffer.mBuffer).length :=
        Or.inl (length ▸ room)
      obtain ⟨grown, array, enlarged, copied, holds, small, written⟩ :=
        enlarge_copyIn wellFormed within hasRoom
      rw [length] at enlarged holds written
      have same := enlarged.symm.trans (enlarge_of_le room)
      rw [Option.some.injEq, Prod.mk.injEq] at same
      have sameArray : grown = buffer.mBuffer := congrArg BufferUtils.mBuffer same.2
      refine ⟨grown, array, enlarged, ?_, holds, small, written⟩
      change (if size = 0 then some grown else _) = some array
      split
      · rename_i empty
        rw [← copied, copyIn, if_pos (List.isEmpty_iff.mpr (List.length_eq_zero_iff.mp
          (length.trans empty)))]
      · rename_i notEmpty
        rw [if_pos ⟨decide_eq_true room, apart.resolve_left notEmpty⟩, sameArray,
          copyOut_of_le (by omega), Option.bind_eq_bind, Option.bind_some, ← sameArray]
        exact sameArray ▸ copied

/-! ## The calls -/

theorem works_write
    (wellFormed : buffer.WellFormed) {source : Source}
    (takes : buffer.Takes buffer.mOffset source) :
    buffer.Works (.write source) := by
  have offset := wellFormed.offset
  have length := wellFormed.length_content
  have sourceLength := length_bytes wellFormed takes
  obtain ⟨grown, array, enlarged, copied, inside, small, written⟩ :=
    enlarge_memcpy wellFormed offset takes
  have after : WellFormed
      { mBuffer := array
        mOffset := buffer.mOffset + source.size
        mSize := max (buffer.mOffset + source.size) buffer.mSize
        mCapacity := array.length } :=
    ⟨le_max_left _ _, inside, rfl, small⟩
  refine ⟨wellFormed, [], _, after, ?_, ?_⟩
  · simp only [call, write, enlarged, copied, Option.bind_eq_bind, Option.bind_some,
      if_true]
    split
    · rename_i grows
      rw [max_eq_left (by omega)]
      rfl
    · rename_i inside
      rw [max_eq_right (by omega)]
      rfl
  · ext1
    · exact written
    · simp only [BufferUtils.WellFormed.view, Cursor.seek, Cursor.writeAt,
        List.length_append, List.length_take, List.length_drop, length, sourceLength]
      omega

theorem works_append
    (wellFormed : buffer.WellFormed) {source : Source}
    (takes : buffer.Takes buffer.mSize source) :
    buffer.Works (.append source) := by
  have offset := wellFormed.offset
  have length := wellFormed.length_content
  obtain ⟨grown, array, enlarged, copied, inside, small, written⟩ :=
    enlarge_memcpy wellFormed le_rfl takes
  rw [max_eq_left (Nat.le_add_right _ _)] at inside written
  have after : WellFormed
      { mBuffer := array
        mOffset := buffer.mOffset
        mSize := buffer.mSize + source.size
        mCapacity := array.length } :=
    ⟨Nat.le_add_right_of_le offset, inside, rfl, small⟩
  refine ⟨wellFormed, [], _, after, ?_, ?_⟩
  · simp only [call, append, enlarged, copied, Option.bind_eq_bind, Option.bind_some,
      if_true, Option.map_some]
  · have size : wellFormed.view.items.length = buffer.mSize := length
    rw [BufferCall.Does, size]
    ext1
    · exact written
    · rfl

theorem works_read (wellFormed : buffer.WellFormed) (size : Nat) :
    buffer.Works (.read size) := by
  have offset := wellFormed.offset
  have sizeInside := wellFormed.size
  have allocated := wellFormed.allocated
  have small := wellFormed.lt
  have length := wellFormed.length_content
  have left : toSize ((buffer.mSize : Int) - buffer.mOffset) =
      buffer.mSize - buffer.mOffset := by
    rw [← Int.natCast_sub offset]
    exact toSize_natCast (by omega)
  have count : (if buffer.mSize - buffer.mOffset > size then (size : Int)
      else (buffer.mSize - buffer.mOffset : Nat)) =
        (min size (buffer.mSize - buffer.mOffset) : Nat) := by
    split <;> omega
  have cpySize : toInt32 (min size (buffer.mSize - buffer.mOffset) : Nat) =
      (min size (buffer.mSize - buffer.mOffset) : Nat) :=
    toInt32_of_nonneg (by omega) (by omega)
  have moved : toSize ((buffer.mOffset : Int) +
      (min size (buffer.mSize - buffer.mOffset) : Nat)) =
        buffer.mOffset + min size (buffer.mSize - buffer.mOffset) := by
    rw [← Int.natCast_add]
    exact toSize_natCast (by omega)
  have after : WellFormed
      { buffer with
        mOffset := buffer.mOffset + min size (buffer.mSize - buffer.mOffset) } :=
    ⟨by dsimp only; omega, sizeInside, allocated, wellFormed.small⟩
  have bytes : ((buffer.mBuffer.drop buffer.mOffset).take
      (min size (buffer.mSize - buffer.mOffset))) =
        (buffer.content.drop buffer.mOffset).take size := by
    rw [content, List.drop_take, List.take_take]
  refine ⟨wellFormed, (buffer.mBuffer.drop buffer.mOffset).take
    (min size (buffer.mSize - buffer.mOffset)), _, after, ?_, bytes, ?_⟩
  · simp only [call, read, left, count, cpySize, moved]
    rw [toSize_natCast (by omega), copyOut_of_le (by omega)]
    rfl
  · ext1
    · rfl
    · simp only [BufferUtils.WellFormed.view, Cursor.advance, Cursor.seek, Cursor.peek,
        List.length_take, List.length_drop, length]
      omega

/-- `offset` clips to the content. -/
theorem offset_eq
    (buffer : BufferUtils) (offset : BitVec 32) (seekWhere : SeekWhere) :
    buffer.offset offset seekWhere =
      { buffer with
        mOffset := min (match seekWhere with
          | .seekSet => toSize offset.toInt
          | .seekCur => toSize (buffer.mOffset + offset.toInt)
          | .seekEnd => toSize (buffer.mSize - offset.toInt)) buffer.mSize } := by
  unfold BufferUtils.offset
  dsimp only
  rw [if_neg (Nat.not_lt_zero _)]
  congr 1
  cases seekWhere <;> dsimp only <;> split <;> omega

theorem wellFormed_offset
    (wellFormed : buffer.WellFormed) (offset : BitVec 32) (seekWhere : SeekWhere) :
    (buffer.offset offset seekWhere).WellFormed := by
  rw [offset_eq]
  exact ⟨min_le_right _ _, wellFormed.size, wellFormed.allocated, wellFormed.small⟩

theorem bounds_toInt (offset : BitVec 32) :
    -2 ^ 31 ≤ offset.toInt ∧ offset.toInt < 2 ^ 31 :=
  ⟨BitVec.le_toInt offset, BitVec.toInt_lt⟩

/-- A position that is not negative keeps its value as a `size_t`. -/
theorem toSize_eq_toNat {value : Int} (nonneg : 0 ≤ value) (small : value < 2 ^ 64) :
    toSize value = value.toNat := by
  unfold toSize
  rw [Int.emod_eq_of_lt nonneg small]

theorem works_offset
    (wellFormed : buffer.WellFormed) (offset : BitVec 32) (seekWhere : SeekWhere)
    (permitted : buffer.Permitted (.offset offset seekWhere)) :
    buffer.Works (.offset offset seekWhere) := by
  have offsetInside := wellFormed.offset
  have sizeInside := wellFormed.size
  have small := wellFormed.lt
  have length := wellFormed.length_content
  obtain ⟨lower, upper⟩ := bounds_toInt offset
  refine ⟨wellFormed, [], _, wellFormed_offset wellFormed offset seekWhere, rfl, ?_⟩
  have sameItems : (wellFormed_offset wellFormed offset seekWhere).view.items =
      wellFormed.view.items := by
    simp only [BufferUtils.WellFormed.view, content, offset_eq]
  have samePos : (wellFormed_offset wellFormed offset seekWhere).view.pos =
      (buffer.offset offset seekWhere).mOffset := rfl
  have sameLength : wellFormed.view.items.length = buffer.mSize := length
  cases seekWhere with
  | seekSet =>
      refine ⟨sameItems, fun nonneg => ?_⟩
      ext1
      · exact sameItems
      · rw [samePos, offset_eq]
        simp only [Cursor.seek, sameLength,
          toSize_eq_toNat nonneg (by omega)]
  | seekCur =>
      ext1
      · exact sameItems
      · rw [samePos, offset_eq]
        simp only [Cursor.seek, BufferUtils.WellFormed.view, length]
        rcases permitted with nonneg | empty
        · rw [toSize_eq_toNat nonneg (by omega)]
        · omega
  | seekEnd =>
      refine ⟨sameItems, fun inside => ?_⟩
      rw [sameLength] at inside
      ext1
      · exact sameItems
      · rw [samePos, offset_eq]
        simp only [Cursor.seek, sameLength]
        rw [toSize_eq_toNat (by omega) (by omega)]

/-- Clearing behind the content keeps it. -/
theorem clearFrom_eq
    (buffer : BufferUtils) (allocated : buffer.mBuffer.length = buffer.mCapacity)
    (pos : Nat) (inside : pos ≤ buffer.mCapacity) :
    ∃ array, buffer.clearFrom pos = some { buffer with mBuffer := array } ∧
      array.length = buffer.mCapacity ∧ array.take pos = buffer.mBuffer.take pos := by
  have fits : pos + (List.replicate (buffer.mCapacity - pos) (0 : UInt8)).length ≤
      buffer.mBuffer.length := by
    rw [List.length_replicate]
    omega
  refine ⟨overwrite buffer.mBuffer pos (List.replicate (buffer.mCapacity - pos) 0),
    ?_, ?_, ?_⟩
  · rw [clearFrom, copyIn_of_le fits]
    rfl
  · rw [length_overwrite fits, allocated]
  · exact take_overwrite_behind le_rfl (by omega)

theorem works_reset (wellFormed : buffer.WellFormed) : buffer.Works .reset := by
  obtain ⟨array, cleared, allocated, _⟩ :=
    clearFrom_eq { buffer with mOffset := 0, mSize := 0 } wellFormed.allocated
      0 (Nat.zero_le _)
  have after : WellFormed { buffer with mBuffer := array, mOffset := 0, mSize := 0 } :=
    ⟨le_rfl, Nat.zero_le _, allocated, wellFormed.small⟩
  refine ⟨wellFormed, [], _, after, ?_, ?_⟩
  · simp only [call, reset, cleared, Option.map_some]
  · ext1
    · simp [BufferUtils.WellFormed.view, content, Cursor.empty]
    · rfl

/-- Inside the array the copy loop is the one of the filters' buffers. -/
theorem copyWords_eq
    {size : Nat} {array : List UInt8} {i : Nat}
    (inside : size + 4 * i ≤ array.length) :
    copyWords size array i =
        some (HttpFilter.BufferUtils.copyWords size array i) ∧
      (HttpFilter.BufferUtils.copyWords size array i).length = array.length := by
  induction i with
  | zero => exact ⟨rfl, rfl⟩
  | succ i inductionHypothesis =>
      obtain ⟨copied, length⟩ := inductionHypothesis (by omega)
      have word : (((HttpFilter.BufferUtils.copyWords size array i).drop
          (size + 4 * i)).take 4).length = 4 := by
        rw [List.length_take, List.length_drop, length]
        omega
      have fits : 4 * i + (((HttpFilter.BufferUtils.copyWords size array i).drop
          (size + 4 * i)).take 4).length ≤
            (HttpFilter.BufferUtils.copyWords size array i).length := by
        rw [word, length]
        omega
      refine ⟨?_, ?_⟩
      · rw [copyWords, copied, Option.bind_eq_bind, Option.bind_some,
          copyOut_of_le (by rw [length]; omega), Option.bind_some, copyIn_of_le fits]
        rfl
      · rw [HttpFilter.BufferUtils.copyWords, length_overwrite fits, length]

/-- The copy loop moves the rest of the content to the front. -/
theorem take_copyWords
    {array : List UInt8} {size left : Nat}
    (inside : size + left ≤ array.length) :
    (HttpFilter.BufferUtils.copyWords size array ((left + 3) / 4)).take left =
      (array.take (size + left)).drop size := by
  apply List.ext_getElem?
  intro k
  rw [List.getElem?_take, List.getElem?_drop, List.getElem?_take]
  by_cases below : k < left
  · rw [if_pos below, if_pos (by omega)]
    exact (HttpFilter.BufferUtils.getElem?_copyWords inside (by omega) k).2 (by omega)
      below
  · rw [if_neg below, if_neg (by omega)]

theorem works_consume
    (wellFormed : buffer.WellFormed) (size : Nat)
    (permitted : buffer.Permitted (.consume size)) :
    buffer.Works (.consume size) := by
  have offset := wellFormed.offset
  have sizeInside := wellFormed.size
  have allocated := wellFormed.allocated
  have small := wellFormed.lt
  have length := wellFormed.length_content
  by_cases all : size > buffer.mSize
  · obtain ⟨array, cleared, arrayLength, _⟩ :=
      clearFrom_eq { buffer with mSize := 0, mOffset := 0 } allocated 0
        (Nat.zero_le _)
    have after : WellFormed
        { buffer with mBuffer := array, mSize := 0, mOffset := 0 } :=
      ⟨le_rfl, Nat.zero_le _, arrayLength, wellFormed.small⟩
    refine ⟨wellFormed, [], _, after, ?_, ?_⟩
    · simp only [call, consume, if_pos all, cleared, Option.bind_eq_bind,
        Option.bind_some, Option.map_some]
    · change List.take 0 array = buffer.content.drop size
      rw [List.take_zero, List.drop_of_length_le (by omega)]
  · obtain ⟨stays, words⟩ := permitted.resolve_left all
    have count : toInt32 ((buffer.mSize - size + 3) / 4 : Nat) =
        ((buffer.mSize - size + 3) / 4 : Nat) := toInt32_of_nonneg (by omega) (by omega)
    obtain ⟨copied, copiedLength⟩ := copyWords_eq
      (show size + 4 * ((buffer.mSize - size + 3) / 4) ≤ buffer.mBuffer.length by omega)
    obtain ⟨array, cleared, arrayLength, kept⟩ :=
      clearFrom_eq
        { buffer with
          mBuffer := HttpFilter.BufferUtils.copyWords size buffer.mBuffer
            ((buffer.mSize - size + 3) / 4)
          mSize := buffer.mSize - size }
        (copiedLength.trans allocated) (buffer.mSize - size) (by
          dsimp only
          omega)
    have after : WellFormed
        { buffer with mBuffer := array, mSize := buffer.mSize - size } := by
      refine ⟨stays, ?_, arrayLength, wellFormed.small⟩
      dsimp only
      omega
    refine ⟨wellFormed, [], _, after, ?_, ?_⟩
    · simp only [call, consume, if_neg all, count, Int.toNat_natCast, copied, cleared,
        Option.bind_eq_bind, Option.bind_some, Option.map_some]
    · change array.take (buffer.mSize - size) = buffer.content.drop size
      rw [kept, take_copyWords (by omega),
        show size + (buffer.mSize - size) = buffer.mSize by omega]
      rfl

theorem works_setToBuffer
    (wellFormed : buffer.WellFormed) {other : BufferUtils}
    (otherFormed : other.WellFormed) :
    buffer.Works (.setToBuffer other) := by
  have sizeInside := otherFormed.size
  have length := otherFormed.length_content
  obtain ⟨memory, array, isMemory, copied, allocated, kept⟩ :=
    copyIn_alloc (show other.content.length ≤ other.mCapacity by omega) otherFormed.small
  have after : WellFormed { other with mBuffer := array } :=
    ⟨otherFormed.offset, sizeInside, allocated, otherFormed.small⟩
  rw [length] at kept
  refine ⟨wellFormed, [], _, after, ?_, kept, rfl⟩
  simp only [call, setToBuffer, isMemory, copyOut_content otherFormed, copied,
    Option.bind_eq_bind, Option.bind_some, Option.map_some]

theorem works_setToItself
    (wellFormed : buffer.WellFormed) (empty : buffer.mSize = 0) :
    buffer.Works .setToItself := by
  obtain ⟨memory, array, isMemory, -, allocated, -⟩ :=
    copyIn_alloc (show ([] : List UInt8).length ≤ buffer.mCapacity from Nat.zero_le _)
      wellFormed.small
  have length : memory.length = buffer.mCapacity := by
    rw [alloc, if_pos wellFormed.small] at isMemory
    cases isMemory
    exact List.length_replicate
  have after : WellFormed { buffer with mBuffer := memory } :=
    ⟨wellFormed.offset, wellFormed.size, length, wellFormed.small⟩
  refine ⟨wellFormed, [], _, after, ?_, ?_⟩
  · simp only [call, setToItself, isMemory, Source.memcpy, if_pos empty,
      Option.bind_eq_bind, Option.bind_some, Option.map_some]
  · ext1
    · change memory.take buffer.mSize = buffer.mBuffer.take buffer.mSize
      rw [empty, List.take_zero, List.take_zero]
    · rfl

theorem works_setTo
    (wellFormed : buffer.WellFormed) {source : Source}
    (permitted : buffer.Permitted (.setTo source)) :
    buffer.Works (.setTo source) := by
  have fits : headerSize + (source.size + source.size / 2) < 2 ^ 31 := by
    cases source with
    | outside data => exact permitted
    | own start size =>
        obtain rfl : size = 0 := permitted
        change headerSize + (0 + 0 / 2) < 2 ^ 31
        decide
  have bytesLength : (source.bytes buffer.mBuffer).length = source.size := by
    cases source with
    | outside data => rfl
    | own start size =>
        obtain rfl : size = 0 := permitted
        rfl
  have capacity : toSize (toInt32 (source.size + source.size / 2 : Nat)) =
      source.size + source.size / 2 := by
    rw [toInt32_of_nonneg (by omega) (by omega)]
    exact toSize_natCast (by omega)
  obtain ⟨memory, array, isMemory, copied, allocated, kept⟩ :=
    copyIn_alloc (bytesLength.trans_le (Nat.le_add_right source.size (source.size / 2))) fits
  have moved : source.memcpy false memory 0 = some array := by
    cases source with
    | outside data => exact copied
    | own start size =>
        obtain rfl : size = 0 := permitted
        exact copied
  rw [bytesLength] at kept
  have after : WellFormed
      { mBuffer := array
        mOffset := 0
        mSize := source.size
        mCapacity := source.size + source.size / 2 } :=
    ⟨Nat.zero_le _, Nat.le_add_right _ _, allocated, fits⟩
  refine ⟨wellFormed, [], _, after, ?_, ?_⟩
  · simp only [call, setTo, capacity, isMemory, moved, Option.bind_eq_bind,
      Option.bind_some, Option.map_some]
  · ext1
    · exact kept
    · rfl

/-- A permitted call works. -/
theorem works_of_permitted
    (wellFormed : buffer.WellFormed) {call : BufferCall}
    (permitted : buffer.Permitted call) :
    buffer.Works call := by
  cases call with
  | write source => exact works_write wellFormed permitted
  | append source => exact works_append wellFormed permitted
  | read size => exact works_read wellFormed size
  | offset offset seekWhere => exact works_offset wellFormed offset seekWhere permitted
  | consume size => exact works_consume wellFormed size permitted
  | reset => exact works_reset wellFormed
  | setToBuffer other => exact works_setToBuffer wellFormed permitted
  | setToItself => exact works_setToItself wellFormed permitted
  | setTo source => exact works_setTo wellFormed permitted

/-! ## Sequences of calls -/

/-- A buffer as a system. -/
def system : Machine BufferUtils BufferCall where
  initial := fun buffer => ∃ capacity, new capacity = some buffer
  step := fun buffer call => (buffer.call call).map Prod.snd

/-- In every sequence of permitted calls the bounds hold, and the next permitted call
works. -/
theorem works_of_reachable
    (buffer : BufferUtils) (reached : system.ReachableUnder Permitted buffer)
    (call : BufferCall) (permitted : buffer.Permitted call) :
    buffer.Works call := by
  have wellFormed : buffer.WellFormed := by
    refine reached.invariant ?_ ?_
    · rintro buffer ⟨capacity, made⟩
      exact wellFormed_new made
    · intro before call after _ wellFormed permitted stepped
      obtain ⟨_, bytes, next, nextFormed, called, _⟩ :=
        works_of_permitted wellFormed permitted
      simp only [system, called, Option.map_some, Option.some.injEq] at stepped
      exact stepped ▸ nextFormed
  exact works_of_permitted wellFormed permitted

/-- A buffer of four bytes. -/
def smallBuffer : BufferUtils where
  mBuffer := [0, 0, 0, 0]
  mOffset := 0
  mSize := 0
  mCapacity := 4

/-- A buffer that has grown, whose front has been consumed and which has been appended to
itself. -/
theorem works_of_reachable_grown :
    ∃ buffer, system.ReachableUnder Permitted buffer ∧
      buffer.content = [3, 9, 5, 6, 7, 3, 9] ∧ buffer.Works (.read 2) := by
  have passes : ((system.execUnder Permitted smallBuffer
      [.append (.outside [1, 2, 3, 4, 5, 6]), .offset 1 .seekSet,
        .write (.outside [2, 3, 9]), .offset (-2) .seekCur, .append (.outside [7]),
        .consume 2, .append (.own 0 2)]).map
        fun buffer => decide (buffer.content = [3, 9, 5, 6, 7, 3, 9])) = some true := by
    decide
  obtain ⟨buffer, reached, holds⟩ :=
    Machine.ReachableUnder.exists_of_execUnder
      (.initial ⟨4, rfl⟩ : system.ReachableUnder Permitted smallBuffer) passes
  exact ⟨buffer, reached, of_decide_eq_true holds,
    works_of_reachable buffer reached (.read 2) trivial⟩

/-- A buffer of eight bytes, with the offset behind them. -/
def fullBuffer : BufferUtils where
  mBuffer := [1, 2, 3, 4, 5, 6, 7, 8]
  mOffset := 8
  mSize := 8
  mCapacity := 8

/-- With a full buffer and the offset at its end, a step in front of the start leads
to the end, taking the whole content away leaves the offset behind it, taking one byte
away reads behind the array, and appending the buffer to itself reads an array that has
been freed. -/
theorem fullBuffer_fails :
    system.Reachable fullBuffer ∧
      ¬fullBuffer.Works (.offset (-9) .seekCur) ∧
      ¬fullBuffer.Works (.consume 8) ∧
      ¬fullBuffer.Works (.consume 1) ∧
      ¬fullBuffer.Works (.append (.own 0 8)) := by
  refine ⟨?_, ?_, ?_, ?_, ?_⟩
  · obtain ⟨before, made⟩ : ∃ before, new 8 = some before := ⟨_, rfl⟩
    have written : system.step before (.write (.outside [1, 2, 3, 4, 5, 6, 7, 8])) =
        some fullBuffer := by
      cases made
      decide
    exact .step (.initial ⟨8, made⟩) trivial written
  · rintro ⟨wellFormed, bytes, next, after, called, does⟩
    have moved : next.mOffset = 8 := by
      cases called
      decide
    have expected : next.mOffset = 0 := congrArg Cursor.pos does
    omega
  · rintro ⟨_, bytes, next, after, called, _⟩
    have outside : next.mOffset = 8 ∧ next.mSize = 0 := by
      cases called
      decide
    have inside := after.offset
    omega
  · rintro ⟨_, bytes, next, _, called, _⟩
    have faults : fullBuffer.call (.consume 1) = none := by decide
    rw [faults] at called
    cases called
  · rintro ⟨_, bytes, next, _, called, _⟩
    have faults : fullBuffer.call (.append (.own 0 8)) = none := by decide
    rw [faults] at called
    cases called

end BufferUtils
end Sknet
end Skplat
