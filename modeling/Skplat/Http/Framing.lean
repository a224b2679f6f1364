import Skplat.Http.HeaderParser
import Skplat.Sql.Template

/-!
# Where the body of a request begins

`toString` ends every entry with a line end and then writes two of them, so there is one
line end too many between the blank line and the body.  A receiver that looks for the
blank line with `checkHeader` is two bytes short of the body.
-/

namespace Skplat
namespace Http

open CString HttpFilter

/-- The line that `toString` writes for an entry. -/
def entryLine (entry : HttpHeaderEntry) : List UInt8 :=
  entry.mKey ++ [58] ++ entry.mValue

/-- The lines that `toString` writes. -/
def entryLines (header : HttpHeader) : List (List UInt8) :=
  (header.mEntries.takeWhile (·.mKey ≠ mNullItem.mKey)).map entryLine

/-- The lines of some entries behind a text. -/
theorem foldl_entryLine
    (entries : List HttpHeaderEntry) (text : List UInt8) :
    entries.foldl
        (fun text entry => text ++ entry.mKey ++ [58] ++ entry.mValue ++ [13, 10]) text =
      text ++ lineText (entries.map entryLine) := by
  induction entries generalizing text with
  | nil => simp
  | cons entry rest inductionHypothesis =>
      rw [List.foldl_cons, inductionHypothesis]
      simp [entryLine, lineHints]

/-- What `toString` writes. -/
theorem toString_eq
    (header : HttpHeader) (buffer : List UInt8) :
    header.toString buffer = buffer ++ lineText (entryLines header) ++ headerHints := by
  rw [HttpHeader.toString, foldl_entryLine]
  rfl

/-- A request line, a header and a body without line ends in the line and the header. -/
structure Request where
  line : List UInt8
  header : HttpHeader
  body : List UInt8
  lineUnbroken : 10 ∉ line ∧ 13 ∉ line
  headerUnbroken : ∀ entry ∈ header.mEntries,
    (10 ∉ entry.mKey ∧ 13 ∉ entry.mKey) ∧ 10 ∉ entry.mValue ∧ 13 ∉ entry.mValue

namespace Request

variable (request : Request)

/-- What is sent before the body. -/
def front : List UInt8 :=
  request.header.toString (request.line ++ lineHints)

/-- What is sent. -/
def bytes : List UInt8 :=
  request.front ++ request.body

/-- The result of `checkHeader` is where the body was appended, a receiver that reads from
there gets the body, and `parser` gives the map back, up to blanks. -/
structure Framed (beyond : List UInt8) : Prop where
  offset : checkHeader request.bytes beyond = request.front.length
  received : (request.bytes.drop (checkHeader request.bytes beyond).toNat).take
    request.body.length = request.body
  parsed : ∃ header, HttpHeader.parser request.bytes beyond HttpHeader.new =
      .ok (some header) ∧
    ∀ key value, header.lookup key = some value ↔
      ∃ entry ∈ request.header.mEntries, strip entry.mKey = key ∧ strip entry.mValue = value

theorem length_front :
    request.front.length = request.line.length +
      (lineText (entryLines request.header)).length + 6 := by
  simp only [front, toString_eq, List.length_append, headerHints, lineHints, List.length_cons,
    List.length_nil]
  omega

/-- The lines of a request have no line ends in them. -/
theorem unbroken :
    ∀ line ∈ request.line :: entryLines request.header, 13 ∉ line := by
  intro line present
  cases List.mem_cons.mp present with
  | inl isLine => exact isLine ▸ request.lineUnbroken.2
  | inr isEntry =>
      obtain ⟨entry, written, rfl⟩ := List.mem_map.mp isEntry
      have clean := request.headerUnbroken entry ((List.takeWhile_sublist _).subset written)
      simp [entryLine, clean.1.2, clean.2.2]

/-- What `checkHeader` returns for a request: it misses the second of the two line ends
before the body. -/
theorem checkHeader_bytes
    (beyond : List UInt8) :
    checkHeader request.bytes beyond =
      if ∃ line ∈ request.line :: entryLines request.header, 0 ∈ line then -1
      else asInt (request.front.length - 2) := by
  have nonzero : ¬request.bytes.length = 0 := by
    rw [bytes, List.length_append, length_front]
    omega
  have nonempty : [] ∉ entryLines request.header := by
    intro present
    obtain ⟨entry, _, isEmpty⟩ := List.mem_map.mp present
    simp [entryLine] at isEmpty
  have joined : request.bytes ++ beyond =
      lineText (request.line :: entryLines request.header) ++ lineHints ++
        (lineHints ++ request.body ++ beyond) := by
    simp [bytes, front, toString_eq, headerHints, lineHints]
  have found := strstr_headerHints request.line (entryLines request.header)
    (lineHints ++ request.body ++ beyond) request.unbroken nonempty
  rw [checkHeader, if_neg nonzero, joined, found]
  by_cases zero : ∃ line ∈ request.line :: entryLines request.header, 0 ∈ line
  · rw [if_pos zero, if_pos zero]
  · rw [if_neg zero, if_neg zero, length_front]
    rfl

/-- A conversion to `int` does not add two. -/
theorem asInt_ne_add_two
    (size : ℕ) :
    asInt size ≠ size + 2 := by
  intro same
  have multiple : ((2 ^ 32 : ℕ) : Int) ∣ size - asInt size := Int.dvd_self_sub_bmod
  rw [same] at multiple
  omega

/-- For every request line and every header without line ends and every body: the request
is not framed, since `checkHeader` does not return where the body was appended. -/
theorem not_framed
    (beyond : List UInt8) :
    ¬request.Framed beyond := by
  intro framed
  have offset := framed.offset
  have length := request.length_front
  rw [request.checkHeader_bytes] at offset
  by_cases zero : ∃ line ∈ request.line :: entryLines request.header, 0 ∈ line
  · rw [if_pos zero] at offset
    omega
  · rw [if_neg zero] at offset
    apply asInt_ne_add_two (request.front.length - 2)
    omega

end Request

/-- What `httpDoTransfer` makes a request from. -/
structure HttpRequest where
  mMethod : List UInt8
  mHref : List UInt8
  mPath : List UInt8
  mProto : List UInt8
  mUseProxy : Bool
  mHeader : HttpHeader
  mBody : List UInt8

namespace HttpRequest

variable (req : HttpRequest)

/-- The format strings of the request line, without the line end. -/
def requestLine : List UInt8 :=
  if req.mUseProxy then
    req.mMethod ++ [32] ++ req.mHref ++ [32] ++ req.mProto ++ [32]
  else req.mMethod ++ [32] ++ 47 :: req.mPath ++ [32] ++ req.mProto

/-- `tmpBuff`, which holds 1023 bytes and a zero. -/
def tmpBuff : List UInt8 :=
  (req.requestLine ++ lineHints).take 1023

/-- The header that is sent. -/
def sentHeader : HttpHeader :=
  let header := if req.mUseProxy then
      req.mHeader.setEntry (ascii "Proxy-Connection") (ascii "keep-alive")
    else req.mHeader.setEntry (ascii "Connection") (ascii "keep-alive")
  if req.mMethod = ascii "POST" ∧ req.mBody.length ≠ 0 then
    header.setEntry (ascii "Content-Length") (Sql.decimal (asInt req.mBody.length))
  else header

/-- `sendBuffer`; a post request without a body does not pass an assertion. -/
def sendBuffer : Option (List UInt8) :=
  if req.mMethod = ascii "POST" then
    if req.mBody.length > 0 then some (req.sentHeader.toString req.tmpBuff ++ req.mBody)
    else none
  else some (req.sentHeader.toString req.tmpBuff)

/-- What `httpDoTransfer` sends for a post request whose request line fits. -/
theorem sendBuffer_eq
    {request : Request}
    (isPost : req.mMethod = ascii "POST")
    (fits : req.requestLine.length ≤ 1021)
    (isLine : request.line = req.requestLine)
    (isHeader : request.header = req.sentHeader)
    (isBody : request.body = req.mBody)
    (nonempty : req.mBody ≠ []) :
    req.sendBuffer = some request.bytes := by
  have whole : req.tmpBuff = req.requestLine ++ lineHints := by
    apply List.take_of_length_le
    rw [List.length_append, lineHints, List.length_cons, List.length_cons, List.length_nil]
    omega
  rw [sendBuffer, if_pos isPost, if_pos (List.length_pos_iff.mpr nonempty), whole,
    Request.bytes, Request.front, isLine, isHeader, isBody]

end HttpRequest

/-- A request with one entry and a body of four bytes. -/
def post : Request where
  line := [80]
  header := HttpHeader.new.setEntry [97] [98]
  body := [49, 50, 51, 52]
  lineUnbroken := by decide
  headerUnbroken := by decide

/-- The receiver finds a line end before the first half of the body, and no entry. -/
theorem shifted_body :
    post.front.length = 12 ∧
    checkHeader post.bytes [] = 10 ∧
    (post.bytes.drop 10).take post.body.length = [13, 10, 49, 50] ∧
    ¬post.Framed [] := by
  have returned : checkHeader post.bytes [] = 10 := by decide
  refine ⟨by decide, returned, by decide, ?_⟩
  intro framed
  have offset := framed.offset
  rw [returned] at offset
  revert offset
  decide

end Http
end Skplat
