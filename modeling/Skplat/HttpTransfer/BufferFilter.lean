import Mathlib.Data.List.Basic
import Mathlib.Order.Defs.LinearOrder
import Skplat.HttpFilter.GzipChain

/-!
# The filters in front of the buffer

Bytes of a body are written to the first filter and then read from it until a read returns
zero.  A filter that has found an error returns the error from every read, so this loop
does not end, as long as the filter is not at its end.
-/

namespace Skplat
namespace HttpTransfer

/-- What the first filter says of itself. -/
structure Filter where
  mEof : Bool
  mErrors : Int
  deriving DecidableEq, Repr

/-- The constructor of a filter. -/
def Filter.new (errors : Int) : Filter where
  mEof := false
  mErrors := errors

/-- A call of `read` of the first filter: its result, the number of bytes that it appends,
and what the filter says of itself afterwards. -/
structure FilterRead where
  result : Int
  appended : ℕ
  filter : Filter
  deriving DecidableEq, Repr

/-- `BufferFilter`. -/
structure BufferFilter where
  mFiltersHeader : Option Filter
  /-- The size of `mRecvBuffer`. -/
  recvSize : ℕ
  mDataSize : ℕ
  mContentLength : Int
  deriving DecidableEq, Repr

namespace BufferFilter

/-- `BufferFilter::endOfFile`. -/
def endOfFile (filter : BufferFilter) : Bool :=
  match filter.mFiltersHeader with
  | some header => header.mEof
  | none => filter.mContentLength ≠ -1 ∧ filter.mContentLength ≤ filter.mDataSize

/-- `BufferFilter::error`. -/
def error (filter : BufferFilter) : Int :=
  match filter.mFiltersHeader with
  | some header => header.mErrors
  | none => 0

/-- `BufferFilter::write`: without filters the bytes go to the buffer. -/
def write (filter : BufferFilter) (size : ℕ) : BufferFilter :=
  { filter with
    mDataSize := filter.mDataSize + size
    recvSize :=
      match filter.mFiltersHeader with
      | some _ => filter.recvSize
      | none => filter.recvSize + size }

/-- A read of the first filter. -/
def afterRead (filter : BufferFilter) (read : FilterRead) : BufferFilter :=
  { filter with
    mFiltersHeader := some read.filter
    recvSize := filter.recvSize + read.appended }

/-- How the loop that reads from the filters goes on. -/
inductive Drained
  | ended (filter : BufferFilter)
  /-- It never ends. -/
  | spins
  deriving DecidableEq, Repr

/-- `while(mBufferFilter->read(recvBuffer));`, with the reads of the first filter.
`BufferFilter::read` returns 0 at the end of the filters, their error once they have one,
and 0 without filters. -/
def drain (filter : BufferFilter) (reads : List FilterRead) : Option Drained :=
  if filter.endOfFile then some (.ended filter)
  else if filter.error < 0 then some .spins
  else
    match filter.mFiltersHeader, reads with
    | none, _ => some (.ended filter)
    | some _, [] => none
    | some _, read :: more =>
        if read.result = 0 then some (.ended (filter.afterRead read))
        else (filter.afterRead read).drain more

section Chain

open HttpFilter (BufferUtils Zlib)

variable {zlib : Zlib}

/-- What `httpDoTransfer` sees of a chain of a chunk filter and a gzip filter. -/
def ofChain (filter : HttpFilter.BufferFilter zlib) (recvBuffer : BufferUtils)
    (contentLength : Int) : BufferFilter where
  mFiltersHeader := some { mEof := filter.endOfFile, mErrors := filter.error }
  recvSize := recvBuffer.content.length
  mDataSize := filter.dataSize
  mContentLength := contentLength

/-- A read of the chain that appends some bytes. -/
def readOfChain (result : HttpFilter.BufferFilter.Result zlib) (appended : ℕ) : FilterRead where
  result := result.ret
  appended
  filter := { mEof := result.filter.endOfFile, mErrors := result.filter.error }

variable {filter : HttpFilter.BufferFilter zlib} {recvBuffer : BufferUtils}
variable {contentLength : Int}

@[simp] theorem endOfFile_ofChain :
    (ofChain filter recvBuffer contentLength).endOfFile = filter.endOfFile := rfl

@[simp] theorem error_ofChain :
    (ofChain filter recvBuffer contentLength).error = filter.error := rfl

variable {beyond childBeyond : List UInt8} {rounds : ℕ}

/-- A chain with an error answers every read with it and stays as it is: the loop that reads
from it never ends. -/
theorem spins_of_error
    (notEof : filter.endOfFile = false)
    (failed : filter.error < 0) :
    filter.read beyond childBeyond rounds recvBuffer = some ⟨filter.error, filter, recvBuffer⟩ ∧
      ∀ reads, (ofChain filter recvBuffer contentLength).drain reads = some .spins := by
  constructor
  · rw [HttpFilter.BufferFilter.read, if_neg (ne_true_of_eq_false notEof), if_pos failed]
  · intro reads
    rw [drain.eq_def, endOfFile_ofChain, error_ofChain,
      if_neg (ne_true_of_eq_false notEof), if_pos failed]

/-- A read of a chain is one of the loop. -/
theorem drain_ofChain
    {result : HttpFilter.BufferFilter.Result zlib}
    (notEof : filter.endOfFile = false)
    (noError : ¬filter.error < 0)
    (returned : filter.read beyond childBeyond rounds recvBuffer = some result)
    {appended : ℕ}
    (grown : recvBuffer.content.length + appended = result.recvBuffer.content.length)
    (more : List FilterRead) :
    (ofChain filter recvBuffer contentLength).drain (readOfChain result appended :: more) =
      if result.ret = 0 then some (.ended (ofChain result.filter result.recvBuffer contentLength))
      else (ofChain result.filter result.recvBuffer contentLength).drain more := by
  have sameSize : result.filter.dataSize = filter.dataSize := by
    rw [HttpFilter.BufferFilter.read, if_neg (ne_true_of_eq_false notEof), if_neg noError]
      at returned
    obtain ⟨byChild, -, rfl⟩ := Option.map_eq_some_iff.mp returned
    rfl
  rw [drain.eq_def, endOfFile_ofChain, error_ofChain,
    if_neg (ne_true_of_eq_false notEof), if_neg noError]
  have next : (ofChain filter recvBuffer contentLength).afterRead (readOfChain result appended) =
      ofChain result.filter result.recvBuffer contentLength := by
    rw [afterRead, readOfChain, ofChain, ofChain, grown, sameSize]
  rw [← next]
  rfl

end Chain

end BufferFilter
end HttpTransfer
end Skplat
