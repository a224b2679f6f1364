import Mathlib.Algebra.Ring.Nat

/-!
# `SharedBuffer::alloc`

The size with the header is put in an `int`, and so much memory is allocated and cleared before
the result is looked at.  If the size does not fit, the memory is too small for what the callers
write to it, or there is none.
-/

namespace Skplat
namespace Sknet

/-- `sizeof(SharedBuffer)`. -/
def headerSize : Nat := 24

/-- `sSize` is the size with the header. -/
abbrev AllocFits (size : Nat) : Prop := headerSize + size < 2 ^ 31

theorem AllocFits.mono {size other : Nat} (fits : AllocFits other) (smaller : size ≤ other) :
    AllocFits size := by
  rw [AllocFits] at fits ⊢
  omega

end Sknet
end Skplat
