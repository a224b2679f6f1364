import Skplat.TcpClientFsm.Defs

/-!
# The two byte streams of a connection

`TcpClientFSM` and `TcpServerFSM` treat `send_buf_` and `recv_buf_` alike: what
`send` accepts is moved out of the front of the first, and `recv` is offered the free
space of the second, which is made larger if it is small.  Callbacks may append to
`send_buf_`, and they may move the cursors and reserve space.

The history keeps what was appended, accepted, received and offered.
-/

namespace Skplat

/-- The space offered to a `recv`. -/
structure Offer where
  /-- Where it begins in the array. -/
  start : Nat
  size : Nat
  /-- `Capacity()` at that time. -/
  capacity : Nat
  deriving DecidableEq, Repr

/-- `send_buf_`, `recv_buf_` and their history. -/
structure Streams where
  sendBuf : AutoBuffer
  recvBuf : AutoBuffer
  /-- All bytes ever appended to `send_buf_`. -/
  appended : List UInt8
  /-- All bytes accepted by `send`. -/
  accepted : List UInt8
  /-- All bytes delivered by `recv`. -/
  received : List UInt8
  offers : List Offer
  deriving DecidableEq, Repr

/-- What a callback may do to a buffer without changing its content. -/
inductive Handling
  | seek (offset : Int) (origin : AutoBuffer.TSeek)
  | addCapacity (len : Nat)
  deriving DecidableEq, Repr

/-- What a callback may do to the buffers. -/
inductive Edit
  | append (data : List UInt8)
  | handleSend (handling : Handling)
  | handleRecv (handling : Handling)
  deriving DecidableEq, Repr

/-- `recv` delivers bytes. -/
def RecvResult.isData : RecvResult → Bool
  | .data _ _ => true
  | _ => false

/-- The bytes that `recv` delivers. -/
def RecvResult.bytes : RecvResult → List UInt8
  | .data first rest => first :: rest
  | _ => []

/-- A buffer after it was handled. -/
def Handling.apply (buffer : AutoBuffer) : Handling → AutoBuffer
  | .seek offset origin => buffer.seek offset origin
  | .addCapacity len => buffer.addCapacity len

/-- `recv` into the free space, followed by `Length(Pos(), Length() + ret)`. -/
def AutoBuffer.recvInto
    (buffer : AutoBuffer) (data : List UInt8)
    (room : buffer.length + data.length ≤ buffer.capacity) : AutoBuffer :=
  have same : (overwrite buffer.parray buffer.length data).length =
      buffer.parray.length := length_overwrite room
  { buffer with
    parray := overwrite buffer.parray buffer.length data
    fits := same.symm ▸ buffer.fits }.setLength buffer.pos.toNat
      (buffer.length + data.length)
      (buffer.toNat_pos_le.trans (Nat.le_add_right _ _))
      (room.trans same.symm.le)

namespace Streams

/-- New buffers. -/
def new : Streams where
  sendBuf := .new
  recvBuf := .new
  appended := []
  accepted := []
  received := []
  offers := []

/-- One change by a callback. -/
def edit (streams : Streams) : Edit → Streams
  | .append data =>
      { streams with
        sendBuf := streams.sendBuf.writeSeek .seekEnd data
        appended := streams.appended ++ data }
  | .handleSend handling =>
      { streams with sendBuf := handling.apply streams.sendBuf }
  | .handleRecv handling =>
      { streams with recvBuf := handling.apply streams.recvBuf }

/-- The changes by a callback. -/
def editAll (streams : Streams) (edits : List Edit) : Streams :=
  edits.foldl edit streams

/-- `send_buf_.Move(-ret)` after `send` accepted part of the content. -/
def send (streams : Streams) (ret : Nat) : Option Streams :=
  if ret ≤ streams.sendBuf.length then
    some { streams with
      sendBuf := streams.sendBuf.move (-ret)
      accepted := streams.accepted ++ streams.sendBuf.content.take ret }
  else none

/-- `recv_buf_` with enough free space. -/
def grownRecvBuf (streams : Streams) : AutoBuffer :=
  if 8 * 1024 > streams.recvBuf.capacity - streams.recvBuf.length then
    streams.recvBuf.addCapacity
      (16 * 1024 - (streams.recvBuf.capacity - streams.recvBuf.length))
  else streams.recvBuf

/-- The space offered to the next `recv`. -/
def offer (streams : Streams) : Offer where
  start := streams.grownRecvBuf.length
  size := streams.grownRecvBuf.capacity - streams.grownRecvBuf.length
  capacity := streams.grownRecvBuf.capacity

/-- The call of `recv` and what is done with its result.  It delivers at most what
fits into the offer. -/
def recv (streams : Streams) : RecvResult → Option Streams
  | .data first rest =>
      if room : streams.grownRecvBuf.length + (first :: rest).length ≤
          streams.grownRecvBuf.capacity then
        some { streams with
          recvBuf := streams.grownRecvBuf.recvInto (first :: rest) room
          received := streams.received ++ first :: rest
          offers := streams.offers ++ [streams.offer] }
      else none
  | .closed | .failed _ =>
      some { streams with
        recvBuf := streams.grownRecvBuf
        offers := streams.offers ++ [streams.offer] }

/-! ## What is kept -/

/-- Nothing is lost, repeated or put out of order, and every offer is large enough
and inside the array. -/
structure Intact (streams : Streams) : Prop where
  sent : streams.accepted ++ streams.sendBuf.content = streams.appended
  received : streams.recvBuf.content = streams.received
  offered : ∀ offer ∈ streams.offers,
    8 * 1024 ≤ offer.size ∧ offer.start + offer.size ≤ offer.capacity

theorem intact_new : new.Intact where
  sent := rfl
  received := rfl
  offered := fun offer present => by cases present

@[simp] theorem content_handling (handling : Handling) (buffer : AutoBuffer) :
    (handling.apply buffer).content = buffer.content := by
  cases handling with
  | seek offset origin => exact buffer.content_seek offset origin
  | addCapacity len => exact buffer.content_addCapacity len

/-- Writing at the end appends. -/
theorem content_writeEnd (buffer : AutoBuffer) (data : List UInt8) :
    (buffer.writeSeek .seekEnd data).content = buffer.content ++ data := by
  have all : buffer.content.length = buffer.length := buffer.length_content
  rw [AutoBuffer.writeSeek, AutoBuffer.content_write, ← all, List.take_length,
    List.drop_of_length_le (Nat.le_add_right _ _), List.append_nil]

theorem content_grownRecvBuf (streams : Streams) :
    streams.grownRecvBuf.content = streams.recvBuf.content := by
  unfold grownRecvBuf
  split
  · exact AutoBuffer.content_addCapacity _ _
  · rfl

theorem length_grownRecvBuf (streams : Streams) :
    streams.grownRecvBuf.length = streams.recvBuf.length := by
  unfold grownRecvBuf
  split
  · rfl
  · rfl

/-- The received bytes are appended. -/
theorem content_recvInto
    (buffer : AutoBuffer) (data : List UInt8)
    (room : buffer.length + data.length ≤ buffer.capacity) :
    (buffer.recvInto data room).content = buffer.content ++ data := by
  have size : (buffer.content ++ data).length = buffer.length + data.length := by
    rw [List.length_append, AutoBuffer.length_content]
  calc (buffer.recvInto data room).content
      = (buffer.content ++ data ++
          buffer.parray.drop (buffer.length + data.length)).take
            (buffer.length + data.length) := rfl
    _ = buffer.content ++ data := by rw [← size, List.take_left]

/-- An offer is large enough and inside the array. -/
theorem offer_large (streams : Streams) :
    8 * 1024 ≤ streams.offer.size ∧
      streams.offer.start + streams.offer.size ≤ streams.offer.capacity := by
  have inside : streams.grownRecvBuf.length ≤ streams.grownRecvBuf.capacity :=
    streams.grownRecvBuf.fits
  refine ⟨?_, ?_⟩
  · have before : streams.recvBuf.length ≤ streams.recvBuf.capacity :=
      streams.recvBuf.fits
    simp only [offer, length_grownRecvBuf]
    unfold grownRecvBuf
    split
    · have enough := streams.recvBuf.le_capacity_addCapacity
        (16 * 1024 - (streams.recvBuf.capacity - streams.recvBuf.length))
      omega
    · omega
  · simp only [offer]
    omega

variable {streams next : Streams}

/-- What `send` accepted is taken from the front. -/
theorem content_send
    {ret : Nat}
    (sent : streams.send ret = some next) :
    next.sendBuf.content = streams.sendBuf.content.drop ret ∧
      next.recvBuf = streams.recvBuf := by
  simp only [send, Option.ite_none_right_eq_some, Option.some.injEq] at sent
  obtain ⟨-, rfl⟩ := sent
  have negative : ¬(0 : Int) < -(ret : Int) := by omega
  refine ⟨?_, rfl⟩
  dsimp only
  rw [AutoBuffer.move, if_neg negative, AutoBuffer.content_moveDown, Int.neg_neg,
    Int.toNat_natCast]

/-- What `recv` delivered is appended. -/
theorem content_recv
    {result : RecvResult}
    (received : streams.recv result = some next) :
    next.recvBuf.content = streams.recvBuf.content ++ result.bytes ∧
      next.received = streams.received ++ result.bytes ∧
      next.sendBuf = streams.sendBuf := by
  have grown := streams.content_grownRecvBuf
  cases result with
  | data first rest =>
      simp only [recv, Option.dite_none_right_eq_some, Option.some.injEq] at received
      obtain ⟨room, rfl⟩ := received
      refine ⟨?_, rfl, rfl⟩
      rw [content_recvInto, grown]
      rfl
  | closed | failed errno =>
      cases received
      simp only [RecvResult.bytes, List.append_nil]
      exact ⟨grown, trivial, trivial⟩

namespace Intact

theorem edit (intact : streams.Intact) (change : Edit) :
    (streams.edit change).Intact := by
  cases change with
  | append data =>
      refine { intact with sent := ?_ }
      simp only [Streams.edit, content_writeEnd]
      rw [← List.append_assoc, intact.sent]
  | handleSend handling =>
      refine { intact with sent := ?_ }
      simp only [Streams.edit, content_handling]
      exact intact.sent
  | handleRecv handling =>
      refine { intact with received := ?_ }
      simp only [Streams.edit, content_handling]
      exact intact.received

theorem editAll (intact : streams.Intact) (edits : List Edit) :
    (streams.editAll edits).Intact := by
  induction edits generalizing streams with
  | nil => exact intact
  | cons change rest inductionHypothesis =>
      exact inductionHypothesis (intact.edit change)

theorem send
    {ret : Nat}
    (intact : streams.Intact)
    (sent : streams.send ret = some next) :
    next.Intact := by
  have moved := (content_send sent).1
  simp only [Streams.send, Option.ite_none_right_eq_some, Option.some.injEq] at sent
  obtain ⟨-, rfl⟩ := sent
  refine { intact with sent := ?_ }
  rw [moved, List.append_assoc, List.take_append_drop]
  exact intact.sent

theorem offered_recv (intact : streams.Intact) :
    ∀ offer ∈ streams.offers ++ [streams.offer],
      8 * 1024 ≤ offer.size ∧ offer.start + offer.size ≤ offer.capacity := by
  intro offer present
  rcases List.mem_append.mp present with before | now
  · exact intact.offered offer before
  · rw [List.mem_singleton.mp now]
    exact streams.offer_large

theorem recv
    {result : RecvResult}
    (intact : streams.Intact)
    (received : streams.recv result = some next) :
    next.Intact := by
  obtain ⟨content, history, -⟩ := content_recv received
  have same : next.recvBuf.content = next.received := by
    rw [content, history, intact.received]
  cases result with
  | data first rest =>
      simp only [Streams.recv, Option.dite_none_right_eq_some,
        Option.some.injEq] at received
      obtain ⟨room, rfl⟩ := received
      exact { intact with received := same, offered := intact.offered_recv }
  | closed | failed errno =>
      cases received
      exact { intact with received := same, offered := intact.offered_recv }

end Intact
end Streams
end Skplat
