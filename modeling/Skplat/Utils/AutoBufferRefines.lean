import Skplat.Data.Cursor
import Skplat.Utils.AutoBuffer

/-!
# Buffers are lists with a cursor

The content of an `AutoBuffer` and its cursor form a list with a cursor, and each
operation of the buffer acts on it as the operation of its name should.  Sizes and
offsets are integers that do not overflow.  An operation whose assertion fails has
no result.
-/

namespace Skplat

/-- A call on a buffer. -/
inductive BufferOp
  | write (data : List UInt8)
  | writeAt (pos : Int) (data : List UInt8)
  | writeSeek (origin : AutoBuffer.TSeek) (data : List UInt8)
  | read (len : Nat)
  | seek (offset : Int) (origin : AutoBuffer.TSeek)
  | move (len : Int)
  | addCapacity (len : Nat)
  | setLength (pos : Int) (length : Nat)
  | attach (data : List UInt8)
  | attachBuffer (other : AutoBuffer)
  | detach
  | reset

namespace AutoBuffer

/-- The content with the cursor. -/
def view (buffer : AutoBuffer) : Cursor UInt8 where
  items := buffer.content
  pos := buffer.pos.toNat
  inside := by
    rw [length_content]
    exact buffer.toNat_pos_le

/-- A call, with the bytes that it delivers. -/
def step (buffer : AutoBuffer) : BufferOp → Option (AutoBuffer × List UInt8)
  | .write data => some (buffer.writeCur data, [])
  | .writeAt pos data =>
      if inside : 0 ≤ pos ∧ pos.toNat ≤ buffer.length then
        some (buffer.write pos.toNat data inside.2, [])
      else none
  | .writeSeek origin data => some (buffer.writeSeek origin data, [])
  | .read len => (buffer.readCur len).map Prod.swap
  | .seek offset origin => some (buffer.seek offset origin, [])
  | .move len => some (buffer.move len, [])
  | .addCapacity len => some (buffer.addCapacity len, [])
  | .setLength pos length =>
      if sizes : 0 ≤ pos ∧ pos.toNat ≤ length ∧ length ≤ buffer.capacity then
        some (buffer.setLength pos.toNat length sizes.2.1 sizes.2.2, [])
      else none
  | .attach data => some (buffer.attach data, [])
  | .attachBuffer other => some (buffer.attachBuffer other, [])
  | .detach => some (buffer.reset, buffer.content)
  | .reset => some (buffer.reset, [])

/-- A sequence of calls, with what each delivers. -/
def run (buffer : AutoBuffer) :
    List BufferOp → Option (AutoBuffer × List (List UInt8))
  | [] => some (buffer, [])
  | op :: rest =>
      (buffer.step op).bind fun (next, bytes) =>
        (next.run rest).map fun (after, delivered) => (after, bytes :: delivered)

end AutoBuffer

/-! ## The abstract operations -/

namespace BufferOp

/-- What a call does to a list with a cursor. -/
def apply (cursor : Cursor UInt8) : BufferOp → Cursor UInt8 × List UInt8
  | .write data =>
      ((cursor.writeAt cursor.pos data).seek (cursor.pos + data.length), [])
  | .writeAt pos data => (cursor.writeAt pos.toNat data, [])
  | .writeSeek origin data =>
      (cursor.writeAt
        (match origin with
          | .seekStart => 0
          | .seekCur => cursor.pos
          | .seekEnd => cursor.items.length) data, [])
  | .read len => (cursor.advance len, cursor.peek len)
  | .seek offset origin =>
      (cursor.seek
        (match origin with
          | .seekStart => offset
          | .seekCur => cursor.pos + offset
          | .seekEnd => cursor.items.length + offset), [])
  | .move len =>
      if 0 < len then (cursor.prepend (List.replicate len.toNat 0), [])
      else (cursor.dropFront (-len).toNat, [])
  | .addCapacity _ => (cursor, [])
  | .setLength pos length => (cursor.truncate pos.toNat length, [])
  | .attach data => (.ofList data, [])
  | .attachBuffer other => (other.view, [])
  | .detach => (.empty, cursor.items)
  | .reset => (.empty, [])

/-- The assertions of a call hold, and `Length` does not extend the content. -/
def Asserted (cursor : Cursor UInt8) : BufferOp → Prop
  | .writeAt pos _ => 0 ≤ pos ∧ pos ≤ cursor.items.length
  | .setLength pos length =>
      0 ≤ pos ∧ pos ≤ length ∧ length ≤ cursor.items.length
  | _ => True

instance (cursor : Cursor UInt8) : DecidablePred (Asserted cursor)
  | .writeAt pos _ =>
      inferInstanceAs (Decidable (0 ≤ pos ∧ pos ≤ cursor.items.length))
  | .setLength pos length =>
      inferInstanceAs (Decidable
        (0 ≤ pos ∧ pos ≤ length ∧ length ≤ cursor.items.length))
  | .write _ | .writeSeek _ _ | .read _ | .seek _ _ | .move _ | .addCapacity _
  | .attach _ | .attachBuffer _ | .detach | .reset =>
      inferInstanceAs (Decidable True)

/-- The assertions of all calls hold. -/
def AllAsserted (cursor : Cursor UInt8) : List BufferOp → Prop
  | [] => True
  | op :: rest => op.Asserted cursor ∧ AllAsserted (op.apply cursor).1 rest

instance decidableAllAsserted (cursor : Cursor UInt8) :
    DecidablePred (AllAsserted cursor)
  | [] => inferInstanceAs (Decidable True)
  | op :: rest =>
      have := decidableAllAsserted (op.apply cursor).1 rest
      inferInstanceAs (Decidable
        (op.Asserted cursor ∧ AllAsserted (op.apply cursor).1 rest))

end BufferOp

/-! ## The refinement -/

namespace AutoBuffer

theorem view_eq
    {buffer : AutoBuffer} {cursor : Cursor UInt8}
    (items : buffer.content = cursor.items)
    (pos : buffer.pos.toNat = cursor.pos) :
    buffer.view = cursor :=
  Cursor.ext items pos

theorem view_write
    (buffer : AutoBuffer) (pos : Nat) (data : List UInt8)
    (inside : pos ≤ buffer.length) :
    (buffer.write pos data inside).view = buffer.view.writeAt pos data :=
  view_eq (buffer.content_write pos data inside) rfl

theorem view_seek (buffer : AutoBuffer) (offset : Int) (origin : TSeek) :
    (buffer.seek offset origin).view =
      buffer.view.seek (match origin with
        | .seekStart => offset
        | .seekCur => buffer.view.pos + offset
        | .seekEnd => buffer.view.items.length + offset) := by
  have cursor := buffer.cursor
  apply view_eq
  · rfl
  · cases origin with
    | seekStart =>
        simp only [seek, view, Cursor.seek, length_content]
        omega
    | seekCur =>
        simp only [seek, view, Cursor.seek, length_content]
        omega
    | seekEnd =>
        simp only [seek, view, Cursor.seek, length_content]
        omega

theorem view_writeCur (buffer : AutoBuffer) (data : List UInt8) :
    (buffer.writeCur data).view =
      (buffer.view.writeAt buffer.view.pos data).seek
        (buffer.view.pos + data.length) := by
  rw [writeCur, view_seek, view_write]
  rfl

theorem view_writeSeek (buffer : AutoBuffer) (origin : TSeek) (data : List UInt8) :
    (buffer.writeSeek origin data).view =
      buffer.view.writeAt (match origin with
        | .seekStart => 0
        | .seekCur => buffer.view.pos
        | .seekEnd => buffer.view.items.length) data := by
  cases origin with
  | seekStart => exact buffer.view_write 0 data (Nat.zero_le _)
  | seekCur => exact buffer.view_write _ data buffer.toNat_pos_le
  | seekEnd =>
      rw [writeSeek, view_write]
      simp only [view, length_content]

/-- Reading at the cursor stays inside the array. -/
theorem readCur_eq (buffer : AutoBuffer) (len : Nat) :
    buffer.readCur len = some (buffer.view.peek len,
      buffer.seek (buffer.view.peek len).length .seekCur) := by
  have fits := buffer.fits
  have inside := buffer.toNat_pos_le
  have bytes : buffer.readAt buffer.pos.toNat len = some (buffer.view.peek len) := by
    unfold readAt copyOut
    rw [if_pos (Or.inr (by omega))]
    have content : buffer.bytesAtPos (min (buffer.length - buffer.pos.toNat) len) =
        (buffer.content.drop buffer.pos.toNat).take
          (min (buffer.length - buffer.pos.toNat) len) :=
      bytesAtPos_eq (by omega)
    rw [bytesAtPos] at content
    rw [content]
    simp only [view, Cursor.peek]
    rw [← List.take_take, List.take_of_length_le]
    simp only [List.length_take, List.length_drop, length_content]
    omega
  rw [readCur, bytes]
  rfl

theorem view_setLength
    {buffer : AutoBuffer} {pos length : Nat}
    (ordered : pos ≤ length) (allocated : length ≤ buffer.capacity)
    (inside : length ≤ buffer.length) :
    (buffer.setLength pos length ordered allocated).view =
      buffer.view.truncate pos length := by
  have content : buffer.content.take length = buffer.parray.take length := by
    rw [AutoBuffer.content, List.take_take, min_eq_left inside]
  apply view_eq
  · simp only [view, Cursor.truncate, content]
    rfl
  · simp only [setLength, view, Cursor.truncate, List.length_take, length_content]
    omega

theorem view_moveUp (buffer : AutoBuffer) (len : Nat) :
    (buffer.moveUp len).view = buffer.view.prepend (List.replicate len 0) := by
  have cursor := buffer.cursor
  apply view_eq
  · exact buffer.content_moveUp len
  · simp only [moveUp, view, Cursor.prepend, List.length_replicate]
    omega

theorem view_moveDown (buffer : AutoBuffer) (len : Nat) :
    (buffer.moveDown len).view = buffer.view.dropFront len := by
  have cursor := buffer.cursor
  apply view_eq
  · exact buffer.content_moveDown len
  · simp only [moveDown, view, Cursor.dropFront, length_content]
    split
    · omega
    · omega

/-- A call acts on the view as it should, if its assertions hold. -/
theorem step_eq
    {buffer : AutoBuffer} {op : BufferOp}
    (asserted : op.Asserted buffer.view) :
    ∃ next, buffer.step op = some (next, (op.apply buffer.view).2) ∧
      next.view = (op.apply buffer.view).1 := by
  cases op with
  | write data => exact ⟨_, rfl, buffer.view_writeCur data⟩
  | writeAt pos data =>
      obtain ⟨nonneg, inside⟩ := asserted
      rw [view, length_content] at inside
      refine ⟨_, dif_pos ⟨nonneg, by omega⟩, ?_⟩
      exact buffer.view_write pos.toNat data _
  | writeSeek origin data => exact ⟨_, rfl, buffer.view_writeSeek origin data⟩
  | read len =>
      refine ⟨_, congrArg (Option.map Prod.swap) (buffer.readCur_eq len), ?_⟩
      rw [view_seek]
      rfl
  | seek offset origin => exact ⟨_, rfl, buffer.view_seek offset origin⟩
  | move len =>
      simp only [step, move, BufferOp.apply]
      split
      · exact ⟨_, rfl, buffer.view_moveUp len.toNat⟩
      · exact ⟨_, rfl, buffer.view_moveDown (-len).toNat⟩
  | addCapacity len =>
      exact ⟨_, rfl, view_eq (buffer.content_addCapacity len) rfl⟩
  | setLength pos length =>
      obtain ⟨nonneg, ordered, inside⟩ := asserted
      rw [view, length_content] at inside
      refine ⟨_, dif_pos ⟨nonneg, by omega, inside.trans buffer.fits⟩, ?_⟩
      exact view_setLength _ _ inside
  | attach data => exact ⟨_, rfl, view_eq (buffer.content_attach data) rfl⟩
  | attachBuffer other => exact ⟨_, rfl, rfl⟩
  | detach => exact ⟨_, rfl, rfl⟩
  | reset => exact ⟨_, rfl, rfl⟩

end AutoBuffer
end Skplat
