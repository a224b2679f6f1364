import Skplat.HttpTransfer.BufferFilter

/-!
# One call of `httpDoTransfer`

A call connects, sends the request, reads the head of the answer, follows a redirect by a
call of itself, and then reads the body or stores it in a file.  What the outside does is
an input: the results of `connect`, `select`, `read`, `write`, of the parsers, of the
filters and of the files, in the order in which the call meets them.

The counter `mError` is read before the answer is awaited.  A call that adds to it
returns a negative number, and then no outer call reads it.
-/

namespace Skplat
namespace HttpTransfer

/-- The calls of the observer. -/
inductive Event
  | onStartConnect
  | onConnected
  | onSending
  | onSended
  | onProgress
  | onCompleted
  | onFailed (error : Int)
  deriving DecidableEq, Repr

/-- The calls that end a transfer. -/
def Event.isTerminal : Event → Bool
  | .onCompleted => true
  | .onFailed _ => true
  | _ => false

/-- `OK`. -/
def ok : Int := 0

/-- `INVALID_OPERATION`. -/
def invalidOperation : Int := -1

/-- `UNKNOWN_ERROR`. -/
def unknownError : Int := -3

/-- `BAD_VALUE`. -/
def badValue : Int := -6

/-- `TIMEOUT_ERROR`. -/
def timeoutError : Int := -8

/-- `ABORT_ERROR`. -/
def abortError : Int := -9

/-- `CONNECT_FAILED`. -/
def connectFailed : Int := -12

/-- `PROTOCAL_FAILED`. -/
def protocalFailed : Int := -14

/-- `mIsDownload`. -/
inductive Download
  | none
  | parent
  | child
  deriving DecidableEq, Repr

/-- What `Content-Encoding` says. -/
inductive ContentEncoding
  | none
  /-- It contains `gzip` or `deflate`. -/
  | gzip
  | unsupported
  deriving DecidableEq, Repr

/-- What `Transfer-Encoding` says. -/
inductive TransferEncoding
  | chunked
  /-- It is `gzip` or `deflate`. -/
  | gzip
  | other
  deriving DecidableEq, Repr

/-- What is read of an `HttpResponse`. -/
structure Response where
  mStatusCode : Int
  /-- There is a `Location`. -/
  location : Bool
  /-- The number in `Content-Length`. -/
  contentLength : Option Int
  contentEncoding : ContentEncoding
  mTransferEncoding : TransferEncoding
  /-- `Accept-Ranges` is `bytes`. -/
  acceptsRanges : Bool
  /-- `rg.end - rg.begin + 1` for the `Content-Range`. -/
  rangeCount : Int
  deriving DecidableEq, Repr

/-- The constructor of `HttpResponse`, which leaves the status code as it is in memory. -/
def Response.new (statusCode : Int) : Response where
  mStatusCode := statusCode
  location := false
  contentLength := none
  contentEncoding := .none
  mTransferEncoding := .other
  acceptsRanges := false
  rangeCount := 0

/-- A pass of the loop that sends. -/
inductive SendOutcome
  | interrupted
  | wrote (size : ℕ)
  | blocked
  | failed
  | unready
  | timeout
  | selectFailed
  deriving DecidableEq, Repr

/-- A pass of the loop that reads the head. -/
inductive HeadOutcome
  | interrupted
  /-- The head is not complete. -/
  | incomplete
  /-- The status line or the header is not accepted. -/
  | malformed
  /-- `parser` throws. -/
  | thrown
  | complete (response : Response)
  | blocked
  | failed
  | endOfStream
  | unready
  | timeout
  | selectFailed
  deriving DecidableEq, Repr

/-- A pass of a loop that reads the body. -/
inductive ReadOutcome
  | interrupted
  /-- Some bytes, and what the first filter makes of them. -/
  | data (size : ℕ) (filterReads : List FilterRead)
  | blocked
  | failed
  | endOfStream
  | unready
  | timeout
  | selectFailed
  deriving DecidableEq, Repr

/-- What the outside does during one call, without the calls inside of it. -/
structure Level where
  connects : Bool
  /-- The size of `sendBuffer`. -/
  sendSize : ℕ
  sends : List SendOutcome
  heads : List HeadOutcome
  /-- `inflateInit2` succeeds. -/
  inflates : Bool
  /-- How many bytes came behind the head. -/
  rest : ℕ
  /-- What the first filter makes of these bytes. -/
  restReads : List FilterRead
  reads : List ReadOutcome
  /-- How many bytes of the network a body in chunks has, which the call does not know. -/
  chunkedSize : ℕ
  /-- `rawFile.open` succeeds. -/
  opens : Bool
  /-- `wait4Complete` returns `OK`. -/
  rangesComplete : Bool
  /-- What memory holds for the status code of the next `HttpResponse`. -/
  freshStatus : Int
  deriving DecidableEq, Repr

/-- The members of `HttpTransfer` that decide what happens. -/
structure Transfer where
  mError : ℕ
  mRelocationCount : ℕ
  mResponse : Response
  mChunkFilter : Option Filter
  mGzipFilter : Option Filter
  /-- The size of `mTask->mRecvData`, if there is a task. -/
  recvData : Option ℕ
  deriving DecidableEq, Repr

/-- A call returns, or an assertion or an exception ends the program, or a loop that reads
from the filters never ends. -/
inductive Outcome
  | returned (result : Int)
  | aborted
  | spins
  deriving DecidableEq, Repr

/-- What a call has done. -/
structure Result where
  events : List Event
  outcome : Outcome
  transfer : Transfer
  deriving DecidableEq, Repr

/-- How a call gets to the head of an answer. -/
inductive Exchange
  | ended (outcome : Outcome)
  | answered (transfer : Transfer)
  deriving DecidableEq, Repr

/-- How `socketReader` ends. -/
inductive Reader
  | returned (result : Int) (filter : BufferFilter)
  | spins
  deriving DecidableEq, Repr

/-- `socketReader` with `chunkedEOF` or `identifyBreak`. -/
def socketReader (filter : BufferFilter) : List ReadOutcome → Option (List Event × Reader)
  | [] => none
  | .interrupted :: _ => some ([], .returned abortError filter)
  | .data size filterReads :: more =>
      match (filter.write size).drain filterReads with
      | none => none
      | some .spins => some ([], .spins)
      | some (.ended next) =>
          if next.endOfFile then some ([.onProgress], .returned next.recvSize next)
          else
            (socketReader next more).map fun read => (.onProgress :: read.1, read.2)
  | .blocked :: more => socketReader filter more
  | .failed :: _ => some ([], .returned unknownError filter)
  | .endOfStream :: _ => some ([.onCompleted], .returned ok filter)
  | .unready :: _ => some ([], .returned unknownError filter)
  | .timeout :: _ => some ([], .returned timeoutError filter)
  | .selectFailed :: _ => some ([], .returned unknownError filter)

/-- `commonReader` and its result, with the number of bytes that are left. -/
def commonReader (left : Int) : List ReadOutcome → Option (List Event × Int)
  | [] => if left ≤ 0 then some ([], ok) else none
  | outcome :: more =>
      if left ≤ 0 then some ([], ok)
      else
        match outcome with
        | .interrupted => some ([], abortError)
        | .data size _ =>
            (commonReader (left - size) more).map fun read => (.onProgress :: read.1, read.2)
        | .blocked => commonReader left more
        | .failed => some ([], unknownError)
        | .endOfStream => some ([], ok)
        | .unready => some ([], unknownError)
        | .timeout => some ([], timeoutError)
        | .selectFailed => some ([], unknownError)

namespace Response

variable (response : Response)

/-- `mContentLength`. -/
def mContentLength : Int :=
  response.contentLength.getD (-1)

/-- The error and the result for an answer that is not accepted. -/
def refusal : Option (Int × Int) :=
  if 400 ≤ response.mStatusCode ∧ response.mStatusCode ≤ 451 then some (badValue, badValue)
  else if 500 ≤ response.mStatusCode ∧ response.mStatusCode ≤ 511 then
    some (protocalFailed, unknownError)
  else if response.mStatusCode = 101 then some (badValue, badValue)
  else if response.contentLength ≠ none ∧ response.mContentLength < 0 then
    some (badValue, unknownError)
  else if response.contentEncoding = .unsupported then some (badValue, unknownError)
  else none

end Response

/-- The body is read through an `HttpChunkFilter`. -/
def Response.isChunked (response : Response) : Bool :=
  response.mTransferEncoding = .chunked ∨ response.mContentLength = -1

namespace Transfer

variable (transfer : Transfer)

/-- The filter for the encoding of an answer. -/
def withGzipFilter (inflates : Bool) : Transfer :=
  if transfer.mResponse.contentEncoding = .gzip ∨
      transfer.mResponse.mTransferEncoding = .gzip then
    { transfer with mGzipFilter := some (Filter.new (if inflates then ok else unknownError)) }
  else transfer

/-- The filter for a body in chunks. -/
def withChunkFilter : Transfer :=
  if transfer.mResponse.isChunked then { transfer with mChunkFilter := some (Filter.new ok) }
  else transfer

/-- `mBufferFilter` after `installFilters`.  Without a task its buffer is a new one. -/
def mBufferFilter : BufferFilter where
  mFiltersHeader := transfer.mChunkFilter.or transfer.mGzipFilter
  recvSize := transfer.recvData.getD 0
  mDataSize := 0
  mContentLength := transfer.mResponse.mContentLength

/-- The members after a body has gone through the filters. -/
def afterBody (filter : BufferFilter) : Transfer :=
  { transfer with
    mChunkFilter := if transfer.mChunkFilter = none then none else filter.mFiltersHeader
    mGzipFilter := if transfer.mChunkFilter = none then filter.mFiltersHeader
      else transfer.mGzipFilter
    recvData := transfer.recvData.map fun _ => filter.recvSize }

/-- The body has not arrived with the head. -/
def needsMore (filter : BufferFilter) : Bool :=
  if transfer.mResponse.isChunked then !filter.endOfFile
  else filter.recvSize < transfer.mResponse.mContentLength

end Transfer

/-- The filters read the bytes that came behind the head. -/
def Level.drainRest (level : Level) (transfer : Transfer) : Option BufferFilter.Drained :=
  if level.rest > 0 then
    (transfer.mBufferFilter.write level.rest).drain level.restReads
  else some (.ended transfer.mBufferFilter)

/-- The body of an answer that is not stored in a file. -/
def receiveBody (level : Level) (transfer : Transfer) : Option Result :=
  match level.drainRest transfer with
  | none => none
  | some .spins => some ⟨[], .spins, transfer⟩
  | some (.ended filter) =>
      if transfer.needsMore filter then
        (socketReader filter level.reads).map fun read =>
          match read.2 with
          | .spins => ⟨read.1, .spins, transfer⟩
          | .returned result last =>
              if result < 0 then
                ⟨read.1 ++ [.onFailed result], .returned result, transfer.afterBody last⟩
              else
                ⟨read.1 ++ [.onCompleted], .returned last.recvSize, transfer.afterBody last⟩
      else some ⟨[.onCompleted], .returned filter.recvSize, transfer.afterBody filter⟩

/-- The part of a body that `commonReader` stores in a file, with the result at the end. -/
def storeBody (level : Level) (count : Int) (transfer : Transfer) : Option Result :=
  if level.rest > 0 ∧ count - level.rest ≤ 0 then
    some ⟨[.onCompleted], .returned level.rest, transfer⟩
  else
    (commonReader (count - level.rest) level.reads).map fun read =>
      if read.2 < 0 then ⟨read.1 ++ [.onFailed read.2], .returned unknownError, transfer⟩
      else ⟨read.1 ++ [.onCompleted], .returned count, transfer⟩

/-- `httpDoTransfer` from the check of the encoding on. -/
def fetch (download : Download) (level : Level) (transfer : Transfer) : Option Result :=
  match download with
  | .none => receiveBody level transfer.withChunkFilter
  | .child =>
      if !level.opens then some ⟨[], .returned badValue, transfer⟩
      else storeBody level transfer.mResponse.rangeCount transfer
  | .parent =>
      if transfer.mResponse.mContentLength < 0 then some ⟨[], .aborted, transfer⟩
      else if transfer.mResponse.acceptsRanges then
        if level.rangesComplete then some ⟨[.onCompleted], .returned ok, transfer⟩
        else some ⟨[.onFailed unknownError], .returned ok, transfer⟩
      else if !level.opens then some ⟨[.onFailed badValue], .returned badValue, transfer⟩
      else storeBody level transfer.mResponse.mContentLength transfer

/-- `httpDoTransfer` from the check of the status code on. -/
def finish (download : Download) (level : Level) (transfer : Transfer) : Option Result :=
  match transfer.mResponse.refusal with
  | some (error, result) => some ⟨[.onFailed error], .returned result, transfer⟩
  | none => fetch download level (transfer.withGzipFilter level.inflates)

/-- The members after a redirect has been taken. -/
def Transfer.relocated (transfer : Transfer) (freshStatus : Int) : Transfer :=
  { transfer with
    mRelocationCount := transfer.mRelocationCount + 1
    mResponse := Response.new freshStatus }

end HttpTransfer
end Skplat
