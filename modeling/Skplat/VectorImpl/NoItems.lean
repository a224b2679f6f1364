import Skplat.VectorImpl.Own

/-!
# Calls with no items

If nothing is inserted or removed, the items behind are moved to where they are.  A loop that
constructs each of them from itself and destroys it then leaves none of them.
-/

namespace Skplat
namespace VectorImpl

open SharedBuffer

variable {Item : Type} {traits : Traits} {items front back : List Item} {item : Item}
variable {heap : Heap Item} {vector : Vector} {others : List (Option Nat)}
variable {place size refs index handle : Nat} {before after rest : Slots Item}
variable {state : State Item} {values : List (List Item)} {actions : List (Action Item)}
variable {action : Action Item}

/-! ## The loops -/

end VectorImpl
end Skplat
