import Mathlib.Algebra.Ring.Int.Defs
import Mathlib.Algebra.Ring.Nat
import Mathlib.Data.List.Basic
import Skplat.Machine.Basic

/-!
# Downloading one range into a part file

A `RangeDownloader` appends the bytes that the server sends to its part file, and
resumes where the file ends.  The server answers the requested range exactly, but it
may close or fail after any number of bytes.  The numbers of the request are printed
with `%d`.
-/

namespace Skplat
namespace RangeDownload

/-- The state of a `Range`. -/
inductive RangeState
  | rangeInit
  | rangeFailed
  | rangeDone
  deriving DecidableEq, Repr

/-- The range `b..e` of a resource. -/
structure Wanted where
  resource : List UInt8
  b : Nat
  e : Nat
  ordered : b ≤ e
  inside : e < resource.length

namespace Wanted

/-- Bytes of the resource. -/
def bytes (wanted : Wanted) (first last : Nat) : List UInt8 :=
  (wanted.resource.drop first).take (last + 1 - first)

/-- What the part file shall contain. -/
def content (wanted : Wanted) : List UInt8 :=
  wanted.bytes wanted.b wanted.e

end Wanted

/-- How the stream ends if it does not deliver all requested bytes. -/
inductive Ending
  /-- `read` returns 0. -/
  | closed
  /-- An error, a timeout or an abort. -/
  | failed
  deriving DecidableEq, Repr

/-- What a request leads to. -/
inductive Answer
  /-- It fails before the body. -/
  | refused
  /-- Bytes received together with the header, further ones, and the end. -/
  | answered (first : List UInt8) (pieces : List (List UInt8)) (ending : Ending)
  deriving DecidableEq, Repr

/-- The fields of a `RangeDownloader`, and its part file. -/
structure Downloader where
  /-- `mRg.begin`. -/
  begin : Nat
  /-- `mRg.state`. -/
  state : RangeState
  file : List UInt8
  /-- `onComplete` was called. -/
  completed : Bool
  deriving DecidableEq, Repr

/-- A number printed with `%d`. -/
def printed (number : Nat) : Int :=
  (number : Int).bmod (2 ^ 32)

/-- The range that the request asks for, if it is one. -/
def requested (wanted : Wanted) (begin : Nat) : Option (Nat × Nat) :=
  if 0 ≤ printed begin ∧ printed begin ≤ printed wanted.e ∧
      printed wanted.e < wanted.resource.length then
    some ((printed begin).toNat, (printed wanted.e).toNat)
  else none

/-- `commonReader()`.  The flag tells whether it returned `OK`.  A `read` delivers at
most as much as there is space for. -/
def commonReader
    (count : Nat)
    (ending : Ending) :
    List UInt8 → Nat → List (List UInt8) → Option (List UInt8 × Bool)
  | file, nrecved, [] =>
      if nrecved < count then some (file, ending == .closed) else some (file, true)
  | file, nrecved, piece :: rest =>
      if nrecved < count then
        if 0 < piece.length ∧ piece.length ≤ min (count - nrecved) 1024 then
          commonReader count ending (file ++ piece) (nrecved + piece.length) rest
        else none
      else some (file, true)

/-- The child download of `httpDoTransfer()`, for an answer of that many bytes.  The
flag tells whether its result is not negative. -/
def childDownload
    (file : List UInt8)
    (count : Nat)
    (first : List UInt8)
    (pieces : List (List UInt8))
    (ending : Ending) : Option (List UInt8 × Bool) :=
  if 0 < first.length ∧ count ≤ first.length then some (file ++ first, true)
  else commonReader (count - first.length) ending (file ++ first) 0 pieces

namespace Downloader

/-- A new downloader with an old part file. -/
def new (wanted : Wanted) (file : List UInt8) : Downloader where
  begin := wanted.b
  state := .rangeInit
  file := file
  completed := false

/-- `setDone()` and `onComplete()`. -/
def complete (downloader : Downloader) : Downloader :=
  { downloader with state := .rangeDone, completed := true }

/-- `setFailed()` and `onFailed()`. -/
def fail (downloader : Downloader) : Downloader :=
  { downloader with state := .rangeFailed }

/-- `doRangeDownload()` and what `threadLoop` does with its result. -/
def doRangeDownload (wanted : Wanted) (downloader : Downloader) :
    Answer → Option Downloader
  | .refused => some downloader.fail
  | .answered first pieces ending =>
      (requested wanted downloader.begin).bind fun (low, high) =>
        if first ++ pieces.flatten <+: wanted.bytes low high then
          (childDownload downloader.file (high + 1 - low) first pieces ending).map
            fun (file, ok) =>
              if ok then { downloader with file := file }.complete
              else { downloader with file := file }.fail
        else none

/-- The file is as long as `threadLoop` expects. -/
def seemsComplete (wanted : Wanted) (downloader : Downloader) : Prop :=
  (downloader.file.length : Int) ≥ wanted.e - downloader.begin + 1

instance (wanted : Wanted) (downloader : Downloader) :
    Decidable (downloader.seemsComplete wanted) :=
  inferInstanceAs (Decidable (_ ≥ _))

/-- `threadLoop()` with a part file that can be opened. -/
def threadLoop (wanted : Wanted) (downloader : Downloader) (answer : Answer) :
    Option Downloader :=
  if downloader.seemsComplete wanted then some downloader.complete
  else
    { downloader with
      begin := downloader.begin + downloader.file.length }.doRangeDownload wanted answer

/-- `reset()`. -/
def reset (downloader : Downloader) : Downloader :=
  { downloader with state := .rangeInit }

/-- One run, which is not the first one if the last one failed. -/
def step (wanted : Wanted) (downloader : Downloader) (answer : Answer) :
    Option Downloader :=
  if downloader.state = .rangeDone then none
  else downloader.reset.threadLoop wanted answer

end Downloader

/-- The runs of a downloader. -/
def system (wanted : Wanted) : Machine Downloader Answer where
  initial := fun downloader =>
    ∃ file, file <+: wanted.content ∧ downloader = .new wanted file
  step := Downloader.step wanted

end RangeDownload
end Skplat
