import Skplat.Utils.AutoBufferRefines

/-!
# Reading at a position

`AutoBuffer` and `BufferIO` have reads at a position of the caller's choice.  They
compute how much to copy from that position, but copy from the cursor.  So they
deliver the right bytes exactly if the cursor is at the position, if nothing is left
to read, or if the array happens to hold the same bytes in both places.
-/

namespace Skplat

/-- Bytes taken at a cursor are those at a start, and inside the array. -/
def SameBytes (array : List UInt8) (cursor start count : Nat) : Prop :=
  cursor = start ∨ count = 0 ∨
    cursor + count ≤ array.length ∧
      ∀ i < count, array[cursor + i]? = array[start + i]?

namespace AutoBuffer

theorem take_drop_eq_iff (array : List UInt8) (first second count : Nat) :
    (array.drop first).take count = (array.drop second).take count ↔
      ∀ i < count, array[first + i]? = array[second + i]? := by
  constructor
  · intro same i below
    have items := congrArg (·[i]?) same
    simpa [List.getElem?_take, List.getElem?_drop, below] using items
  · intro same
    apply List.ext_getElem?
    intro i
    by_cases below : i < count
    · simpa [List.getElem?_take, List.getElem?_drop, below] using same i below
    · simp [below]

/-- Copying from the cursor gives the bytes at the start. -/
theorem copyOut_eq_some_iff
    {array : List UInt8} {cursor start count : Nat}
    (inside : start + count ≤ array.length) :
    copyOut array cursor count = some ((array.drop start).take count) ↔
      SameBytes array cursor start count := by
  unfold copyOut SameBytes
  split
  · rename_i allowed
    rw [Option.some.injEq, take_drop_eq_iff]
    constructor
    · intro same
      rcases allowed with nothing | reaches
      · exact Or.inr (Or.inl nothing)
      · exact Or.inr (Or.inr ⟨reaches, same⟩)
    · rintro (here | nothing | ⟨-, same⟩)
      · rw [here]
        exact fun _ _ => rfl
      · intro i below
        omega
      · exact same
  · rename_i forbidden
    constructor
    · intro none
      cases none
    · rintro (here | nothing | ⟨reaches, -⟩)
      · exact absurd (Or.inr (here ▸ inside)) forbidden
      · exact absurd (Or.inl nothing) forbidden
      · exact absurd (Or.inr reaches) forbidden

/-- The content from a position on. -/
theorem take_drop_content (buffer : AutoBuffer) (pos len : Nat) :
    (buffer.content.drop pos).take len =
      (buffer.parray.drop pos).take (min (buffer.length - pos) len) := by
  rw [content, List.drop_take, List.take_take, min_comm]

theorem readAt_eq_some_iff
    (buffer : AutoBuffer) (pos len : Nat)
    (inside : pos ≤ buffer.length) :
    buffer.readAt pos len = some ((buffer.content.drop pos).take len) ↔
      SameBytes buffer.parray buffer.pos.toNat pos
        (min (buffer.length - pos) len) := by
  have fits := buffer.fits
  rw [take_drop_content]
  exact copyOut_eq_some_iff (by omega)

theorem length_of_copyOut
    {array bytes : List UInt8} {start count : Nat}
    (copied : copyOut array start count = some bytes) :
    bytes.length = count := by
  unfold copyOut at copied
  split at copied
  · rename_i allowed
    cases copied
    rw [List.length_take, List.length_drop]
    omega
  · cases copied

/-- Data of one length can be told apart after it was written. -/
theorem writeCur_inj
    {buffer : AutoBuffer} {first second : List UInt8}
    (length : first.length = second.length)
    (same : buffer.writeCur first = buffer.writeCur second) :
    first = second := by
  have views := congrArg (fun buffer => buffer.view.items) same
  simp only [view_writeCur, Cursor.seek, Cursor.writeAt, ← length,
    List.append_assoc] at views
  exact List.append_cancel_right (List.append_cancel_left views)

theorem readAtInto_eq_some_iff
    (buffer other : AutoBuffer) (pos len : Nat)
    (inside : pos ≤ buffer.length) :
    buffer.readAtInto pos other len =
        some (other.writeCur ((buffer.content.drop pos).take len)) ↔
      SameBytes buffer.parray buffer.pos.toNat pos
        (min (buffer.length - pos) len) := by
  rw [← readAt_eq_some_iff buffer pos len inside]
  constructor
  · intro delivered
    obtain ⟨bytes, read, written⟩ := Option.map_eq_some_iff.mp delivered
    have fits := buffer.fits
    have size : bytes.length = ((buffer.content.drop pos).take len).length := by
      rw [length_of_copyOut read, List.length_take, List.length_drop,
        length_content, min_comm]
    rw [read, writeCur_inj size written]
  · intro read
    rw [readAtInto, read]
    rfl

/-- What was written at a position is the content there. -/
theorem take_drop_content_write
    (buffer : AutoBuffer) (pos : Nat) (data : List UInt8)
    (inside : pos ≤ buffer.length) :
    ((buffer.write pos data inside).content.drop pos).take data.length = data := by
  have front : (buffer.content.take pos).length = pos := by
    rw [List.length_take, length_content, min_eq_left inside]
  rw [content_write, List.append_assoc, List.drop_append, front, Nat.sub_self,
    List.drop_zero, List.drop_of_length_le front.le, List.nil_append, List.take_left]

theorem readAt_write_iff
    (buffer : AutoBuffer) (pos : Nat) (data : List UInt8)
    (inside : pos ≤ buffer.length) :
    (buffer.write pos data inside).readAt pos data.length = some data ↔
      SameBytes (buffer.write pos data inside).parray buffer.pos.toNat pos
        data.length := by
  have written := take_drop_content_write buffer pos data inside
  have reaches : pos + data.length ≤ (buffer.write pos data inside).length :=
    le_max_left _ _
  have exactly :=
    (buffer.write pos data inside).readAt_eq_some_iff pos data.length (by omega)
  rwa [written, min_eq_right (by omega)] at exactly

end AutoBuffer

/-! ## `BufferIO` -/

/-- A `BufferIO` over the memory of its owner. -/
structure BufferIo where
  /-- The memory, of which `cap_` is the size. -/
  parray : List UInt8
  /-- `pos_`. -/
  pos : Nat
  /-- `length_`. -/
  length : Nat
  /-- The asserted relation of the sizes. -/
  fits : length ≤ parray.length
  deriving Repr

namespace BufferIo

/-- The content bytes. -/
def content (io : BufferIo) : List UInt8 :=
  io.parray.take io.length

/-- `Write(data, pos)` at an asserted position: only what fits is written. -/
def write
    (io : BufferIo) (data : List UInt8) (pos : Nat)
    (inside : pos ≤ io.length) : BufferIo where
  parray := AutoBuffer.overwrite io.parray pos
    (data.take (min data.length (io.parray.length - pos)))
  pos := io.pos
  length := max io.length (min data.length (io.parray.length - pos) + pos)
  fits := by
    have fits := io.fits
    have copied : (data.take
        (min data.length (io.parray.length - pos))).length =
          min data.length (io.parray.length - pos) := by
      rw [List.length_take]
      omega
    rw [AutoBuffer.length_overwrite (by rw [copied]; omega)]
    omega

/-- `Read(out, len, pos)`.  The bytes are copied from `EmptyBuffer()`. -/
def readAt (io : BufferIo) (len pos : Nat) : Option (List UInt8) :=
  AutoBuffer.copyOut io.parray io.pos (min (io.length - pos) len)

theorem readAt_eq_some_iff
    (io : BufferIo) (len pos : Nat)
    (inside : pos < io.length) :
    io.readAt len pos = some ((io.content.drop pos).take len) ↔
      SameBytes io.parray io.pos pos (min (io.length - pos) len) := by
  have fits := io.fits
  rw [content, List.drop_take, List.take_take, min_comm len]
  exact AutoBuffer.copyOut_eq_some_iff (by omega)

theorem readAt_write_iff
    (io : BufferIo) (data : List UInt8) (pos : Nat)
    (inside : pos ≤ io.length)
    (room : pos + data.length ≤ io.parray.length) :
    (io.write data pos inside).readAt data.length pos = some data ↔
      SameBytes (io.write data pos inside).parray io.pos pos data.length := by
  have whole : min data.length (io.parray.length - pos) = data.length := by omega
  have array : (io.write data pos inside).parray =
      AutoBuffer.overwrite io.parray pos data := by
    simp only [write, whole, List.take_length]
  have length : (io.write data pos inside).length =
      max io.length (data.length + pos) := by
    simp only [write, whole]
  have count : min ((io.write data pos inside).length - pos) data.length =
      data.length := by
    omega
  have front : (io.parray.take pos).length = pos := by
    rw [List.length_take]
    omega
  have written : ((io.write data pos inside).parray.drop pos).take data.length =
      data := by
    rw [array, AutoBuffer.overwrite, List.append_assoc, List.drop_append, front,
      Nat.sub_self, List.drop_zero, List.drop_of_length_le front.le,
      List.nil_append, List.take_left]
  have reaches : pos + data.length ≤ (io.write data pos inside).parray.length := by
    rw [array, AutoBuffer.length_overwrite room]
    exact room
  rw [readAt, count]
  have exactly : AutoBuffer.copyOut (io.write data pos inside).parray io.pos
      data.length = some (((io.write data pos inside).parray.drop pos).take
        data.length) ↔
      SameBytes (io.write data pos inside).parray io.pos pos data.length :=
    AutoBuffer.copyOut_eq_some_iff reaches
  rwa [written] at exactly

end BufferIo

/-- A read at a position delivers the content there exactly if the array holds the
same bytes at the cursor. -/
theorem positionalRead_iff
    (buffer other : AutoBuffer)
    (io : BufferIo)
    (pos len : Nat)
    (data : List UInt8) :
    (pos ≤ buffer.length →
      (buffer.readAt pos len = some ((buffer.content.drop pos).take len) ↔
        SameBytes buffer.parray buffer.pos.toNat pos
          (min (buffer.length - pos) len)) ∧
      (buffer.readAtInto pos other len =
          some (other.writeCur ((buffer.content.drop pos).take len)) ↔
        SameBytes buffer.parray buffer.pos.toNat pos
          (min (buffer.length - pos) len))) ∧
    (∀ inside : pos ≤ buffer.length,
      (buffer.write pos data inside).readAt pos data.length = some data ↔
        SameBytes (buffer.write pos data inside).parray buffer.pos.toNat pos
          data.length) ∧
    (pos < io.length →
      (io.readAt len pos = some ((io.content.drop pos).take len) ↔
        SameBytes io.parray io.pos pos (min (io.length - pos) len))) ∧
    ∀ inside : pos ≤ io.length, pos + data.length ≤ io.parray.length →
      ((io.write data pos inside).readAt data.length pos = some data ↔
        SameBytes (io.write data pos inside).parray io.pos pos data.length) := by
  refine ⟨fun inside => ⟨?_, ?_⟩, ?_, ?_, ?_⟩
  · exact buffer.readAt_eq_some_iff pos len inside
  · exact buffer.readAtInto_eq_some_iff other pos len inside
  · exact AutoBuffer.readAt_write_iff buffer pos data
  · exact BufferIo.readAt_eq_some_iff io len pos
  · exact BufferIo.readAt_write_iff io data pos

/-- A read at the cursor. -/
theorem positionalRead_atCursor :
    ((AutoBuffer.new.attach [1, 2, 3]).seek 1 .seekStart).readAt 1 2 =
      some [2, 3] :=
  ((positionalRead_iff ((AutoBuffer.new.attach [1, 2, 3]).seek 1 .seekStart) .new
    ⟨[], 0, 0, Nat.le_refl 0⟩ 1 2 []).1 (by decide)).1.mpr (Or.inl rfl)

/-- Three bytes, read at position 1 with the cursor at 0; and four bytes, of which two
are read at 0 with the cursor at the end. -/
theorem not_positionalRead :
    (AutoBuffer.new.attach [1, 2, 3]).readAt 1 2 = some [1, 2] ∧
      ((AutoBuffer.new.attach [1, 2, 3]).content.drop 1).take 2 = [2, 3] ∧
      ((AutoBuffer.new.attach [1, 2, 3, 4]).seek 0 .seekEnd).readAt 0 2 = none ∧
      (⟨[1, 2, 3], 0, 3, le_rfl⟩ : BufferIo).readAt 2 1 = some [1, 2] := by
  decide

end Skplat
