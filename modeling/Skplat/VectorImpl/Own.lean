import Skplat.VectorImpl.Runs

/-!
# Items of the vector itself

A call on a vector may get a reference to an item of this vector.  `_grow` frees the storage before
the item is copied if the vector alone owns it and there is no room, and keeps it otherwise.
-/

namespace Skplat
namespace VectorImpl

open SharedBuffer

variable {Item : Type} {traits : Traits} {items : List Item} {item : Item}
variable {heap : Heap Item} {vector : Vector} {others : List (Option Nat)}
variable {place size amount refs first length handle : Nat} {rest : Slots Item}
variable {state : State Item} {values : List (List Item)} {actions : List (Action Item)}
variable {action : Action Item}

end VectorImpl
end Skplat
