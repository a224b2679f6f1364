import Skplat.HttpTransfer.Defs

/-!
# The call that ends a transfer

A transfer should end with one call of the observer: `onCompleted` if `httpDoTransfer`
returns a number that is not negative, and `onFailed` otherwise.  A redirect that is
followed breaks this, since the outer call reports the end once more, and so does a body
that ends with the stream, since `socketReader` reports the end as well.  If the filters
find an error in a body, the loop that reads from them does not end.
-/

namespace Skplat
namespace HttpTransfer

/-- The calls that end a transfer. -/
def terminals (events : List Event) : List Event :=
  events.filter Event.isTerminal

@[simp] theorem terminals_nil : terminals [] = [] := rfl

/-- The only call that ends the transfer is `onCompleted`, and the result is not
negative. -/
def CompletesOnce (events : List Event) (outcome : Outcome) : Prop :=
  ∃ result, 0 ≤ result ∧ outcome = .returned result ∧ terminals events = [.onCompleted]

/-- The only call that ends the transfer is `onFailed`, and the result is negative. -/
def FailsOnce (events : List Event) (outcome : Outcome) : Prop :=
  ∃ result error, result < 0 ∧ outcome = .returned result ∧
    terminals events = [.onFailed error]

/-- One call ends the transfer, and it fits the result. -/
def EndsOnce (events : List Event) (outcome : Outcome) : Prop :=
  CompletesOnce events outcome ∨ FailsOnce events outcome

/-- An error that makes a call return is reported, and nothing else. -/
def ReportsError (events : List Event) : Option Int → Prop
  | none => terminals events = []
  | some result => result < 0 ∧ ∃ code, terminals events = [.onFailed code]

/-- A call that returns before there is an answer has reported an error, and there is no
filter yet to spin. -/
def Exchange.Reported (events : List Event) : Exchange → Prop
  | .ended (.returned result) => ReportsError events (some result)
  | .ended .aborted => ReportsError events none
  | .ended .spins => False
  | .answered _ => ReportsError events none

/-- How the body of an answer ends. -/
inductive BodyEnd
  | complete
  | endOfStream
  | failed
  /-- The filters have found an error. -/
  | spins
  deriving DecidableEq, Repr

/-- How a body ends that `socketReader` reads. -/
def readEnd (filter : BufferFilter) : List ReadOutcome → Option BodyEnd
  | [] => none
  | .data size filterReads :: more =>
      match (filter.write size).drain filterReads with
      | none => none
      | some .spins => some .spins
      | some (.ended next) => if next.endOfFile then some .complete else readEnd next more
  | .blocked :: more => readEnd filter more
  | .endOfStream :: _ => some .endOfStream
  | _ :: _ => some .failed

/-- What `socketReader` has done when a body ends. -/
inductive ReadsBody : BodyEnd → List Event × Reader → Prop
  | complete {events} (filter : BufferFilter) (silent : terminals events = []) :
      ReadsBody .complete (events, .returned filter.recvSize filter)
  | endOfStream {events} (filter : BufferFilter) (isEnd : terminals events = [.onCompleted]) :
      ReadsBody .endOfStream (events, .returned ok filter)
  | failed {events result} (filter : BufferFilter) (silent : terminals events = [])
      (negative : result < 0) : ReadsBody .failed (events, .returned result filter)
  | spins {events} (silent : terminals events = []) : ReadsBody .spins (events, .spins)

/-- Progress is not an end. -/
theorem ReadsBody.onProgress
    {ending : BodyEnd} {read : List Event × Reader}
    (reads : ReadsBody ending read) :
    ReadsBody ending (.onProgress :: read.1, read.2) := by
  cases reads with
  | complete filter silent => exact .complete filter silent
  | endOfStream filter isEnd => exact .endOfStream filter isEnd
  | failed filter silent negative => exact .failed filter silent negative
  | spins silent => exact .spins silent

/-- How a body ends that `commonReader` stores, with the number of bytes that are left. -/
def storeEnd (left : Int) : List ReadOutcome → Option BodyEnd
  | [] => if left ≤ 0 then some .complete else none
  | outcome :: more =>
      if left ≤ 0 then some .complete
      else
        match outcome with
        | .data size _ => storeEnd (left - size) more
        | .blocked => storeEnd left more
        | .endOfStream => some .endOfStream
        | _ => some .failed

/-- How the body of an answer ends that is not stored in a file. -/
def Level.bodyEnd (level : Level) (transfer : Transfer) : Option BodyEnd :=
  match level.drainRest transfer with
  | none => none
  | some .spins => some .spins
  | some (.ended filter) =>
      if transfer.needsMore filter then readEnd filter level.reads else some .complete

/-- `installFilters` and what comes before it. -/
def Transfer.withFilters (transfer : Transfer) (inflates : Bool) : Transfer :=
  (transfer.withGzipFilter inflates).withChunkFilter

/-- The file for a part of a download cannot be opened: the call returns without a
report. -/
def Silent (download : Download) (level : Level) (response : Response) : Prop :=
  response.refusal = none ∧ download = .child ∧ level.opens = false

/-- What an answer must be like, so that its end is reported once: it is refused, or its
body does not end with the stream and the filters find no error in it, or the file for a
part can be opened and the part is not of a negative size, or the length of a download is
known and all of its parts arrive. -/
def Reportable (download : Download) (level : Level) (transfer : Transfer) : Prop :=
  transfer.mResponse.refusal ≠ none ∨
    match download with
    | .none =>
        level.bodyEnd (transfer.withFilters level.inflates) ≠ some .endOfStream ∧
          level.bodyEnd (transfer.withFilters level.inflates) ≠ some .spins
    | .child => level.opens = true ∧ (0 < level.rest ∨ 0 ≤ transfer.mResponse.rangeCount)
    | .parent => transfer.mResponse.contentLength ≠ none ∧
        (transfer.mResponse.acceptsRanges = true → level.rangesComplete = true)

/-- What an answer must be like, so that the transfer completes. -/
def Completable (download : Download) (level : Level) (transfer : Transfer) : Prop :=
  transfer.mResponse.refusal = none ∧
    match download with
    | .none => level.bodyEnd (transfer.withFilters level.inflates) = some .complete
    | .child => level.opens = true ∧
        storeEnd (transfer.mResponse.rangeCount - level.rest) level.reads ≠ some .failed
    | .parent =>
        if transfer.mResponse.acceptsRanges then level.rangesComplete = true
        else level.opens = true ∧
          storeEnd (transfer.mResponse.mContentLength - level.rest) level.reads ≠ some .failed

/-- How a call ends after the head of the answer. -/
inductive Ending (download : Download) (level : Level) (transfer : Transfer) :
    List Event → Outcome → Prop
  | once {events outcome} (reportable : Reportable download level transfer)
      (endsOnce : EndsOnce events outcome)
      (completes_iff : CompletesOnce events outcome ↔ Completable download level transfer) :
      Ending download level transfer events outcome
  | twice {events outcome} (notReportable : ¬Reportable download level transfer)
      (notSilent : ¬Silent download level transfer.mResponse)
      (isEnd : terminals events = [.onCompleted, .onCompleted]) :
      Ending download level transfer events outcome
  | never {events} (notReportable : ¬Reportable download level transfer)
      (silent : Silent download level transfer.mResponse) (isEnd : terminals events = []) :
      Ending download level transfer events (.returned badValue)
  | wrongly {events result} (notReportable : ¬Reportable download level transfer)
      (notSilent : ¬Silent download level transfer.mResponse)
      (isEnd : terminals events = [.onCompleted] ∧ result < 0 ∨
        download = .parent ∧ result = ok ∧ ∃ error, terminals events = [.onFailed error]) :
      Ending download level transfer events (.returned result)
  | stuck {events outcome} (notReportable : ¬Reportable download level transfer)
      (notChild : download ≠ .child)
      (notReturned : ∀ result, outcome ≠ .returned result) (isEnd : terminals events = []) :
      Ending download level transfer events outcome

end HttpTransfer
end Skplat
