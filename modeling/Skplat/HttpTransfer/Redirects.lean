import Skplat.HttpTransfer.Deciding
import Skplat.HttpTransfer.Terminal

/-!
# Redirects

The call that follows a redirect reports the end of the transfer itself, and the outer
call reports it once more: as a failure, since it takes a number of bytes for an error, or
by handling the answer of the inner call a second time.  So a chain of redirects to an
answer that is received in full never completes.
-/

namespace Skplat
namespace HttpTransfer

/-- The number of bytes that arrive. -/
def arrived : List ReadOutcome → ℕ
  | .data size _ :: more => size + arrived more
  | .blocked :: more => arrived more
  | _ => 0

/-- The stream ends. -/
def closes : List ReadOutcome → Bool
  | .data _ _ :: more => closes more
  | .blocked :: more => closes more
  | .endOfStream :: _ => true
  | _ => false

variable {download : Download} {level : Level} {others : List Level}
variable {transfer : Transfer} {result nested after : Result}

/-- A redirect. -/
def found : Response :=
  { Response.new 302 with location := true }

end HttpTransfer
end Skplat
