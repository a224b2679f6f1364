import Skplat.HttpTransfer.Defs

/-!
# A call ends

Each loop of a call ends with one of its outcomes, and a call inside of a call is made for
a bounded number of redirects only.  So a call ends, or never comes out of the filters, as
soon as the outcomes decide each of its loops.
-/

namespace Skplat
namespace HttpTransfer

/-- The loop that sends ends here. -/
def SendOutcome.stops : SendOutcome → Bool
  | .wrote _ => false
  | .blocked => false
  | _ => true

/-- The number of bytes that are written. -/
def written : List SendOutcome → ℕ
  | .wrote size :: more => size + written more
  | _ :: more => written more
  | [] => 0

/-- The loop that reads the head ends here. -/
def HeadOutcome.stops : HeadOutcome → Bool
  | .incomplete => false
  | .blocked => false
  | _ => true

/-- A loop that reads a body ends here at the latest. -/
def ReadOutcome.stops : ReadOutcome → Bool
  | .data _ _ => false
  | .blocked => false
  | _ => true

/-- The outcomes decide each loop of a call. -/
structure Level.Decides (level : Level) : Prop where
  sends : level.sendSize ≤ written level.sends ∨ ∃ outcome ∈ level.sends, outcome.stops
  heads : ∃ outcome ∈ level.heads, outcome.stops
  restReads : 0 < level.rest → ∃ read ∈ level.restReads, read.result = 0
  filterReads : ∀ size filterReads, .data size filterReads ∈ level.reads →
    ∃ read ∈ filterReads, read.result = 0
  reads : ∃ outcome ∈ level.reads, outcome.stops

variable {download : Download} {level : Level}

end HttpTransfer
end Skplat
