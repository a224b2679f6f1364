import Skplat.Data.StableSort
import Skplat.VectorImpl.Operations

/-!
# Sorting a vector

The loops of `sort` insert each item behind the last one before it that is not greater.  The
storage is taken over from other owners when the first item is moved, and not before.
-/

namespace Skplat
namespace VectorImpl

open SharedBuffer

variable {Item : Type} {traits : Traits} {cmp : Item → Item → Int} {item last : Item}
variable {items init front back : List Item} {slots after rest : Slots Item}
variable {heap : Heap Item} {vector : Vector} {others : List (Option Nat)} {temp : Option Item}

/-- The first item is greater. -/
def exceeds (cmp : Item → Item → Int) (first second : Item) : Bool :=
  0 < cmp first second

/-! ## One item -/

end VectorImpl
end Skplat
