import Mathlib.Data.Nat.Basic

/-!
# The breaker of a socket select

A `SocketSelectBreaker` is a pipe whose read end takes part in every `poll`.
The pipe is represented by the number of unread bytes.  `Break` writes a byte
unless the flag says that one is there, and `Clear` drains the pipe.
-/

namespace Skplat

/-- A breaker with an open pipe. -/
structure Breaker where
  /-- Unread bytes in the pipe. -/
  bytes : Nat
  /-- The flag `broken_`. -/
  broken : Bool
  deriving DecidableEq, Repr

namespace Breaker

/-- A breaker after its creation. -/
def new : Breaker where
  bytes := 0
  broken := false

/-- `Break()`, with the outcome of its write. -/
def breakPipe (breaker : Breaker) (written : Bool) : Breaker :=
  if breaker.broken then breaker
  else if written then ⟨breaker.bytes + 1, true⟩
  else { breaker with broken := false }

/-- `Clear()`: one read of at most 128 bytes, which fails on an empty pipe. -/
def clear (breaker : Breaker) : Breaker :=
  if breaker.bytes = 0 then breaker
  else ⟨breaker.bytes - 128, false⟩

/-- The flag is set exactly when a byte is in the pipe, and there is never a
second one. -/
structure Agrees (breaker : Breaker) : Prop where
  /-- The flag tells the truth. -/
  flag : breaker.broken = true ↔ 0 < breaker.bytes
  /-- One byte is enough. -/
  single : breaker.bytes ≤ 1

/-- A `Break` that returns false changes nothing. -/
theorem breakPipe_eq_self
    {breaker : Breaker}
    {written : Bool}
    (failed : (breaker.breakPipe written).broken = false) :
    breaker.breakPipe written = breaker := by
  obtain ⟨bytes, broken⟩ := breaker
  cases broken with
  | true => rfl
  | false =>
      cases written with
      | true => cases failed
      | false => rfl

theorem agrees_new : new.Agrees := ⟨by simp [new], by simp [new]⟩

theorem Agrees.breakPipe
    {breaker : Breaker}
    (agrees : breaker.Agrees) :
    (breaker.breakPipe true).Agrees ∧ 0 < (breaker.breakPipe true).bytes := by
  have flag := agrees.flag
  unfold Breaker.breakPipe
  split
  · rename_i broken
    exact ⟨agrees, flag.mp broken⟩
  · rename_i unbroken
    have empty : breaker.bytes = 0 := by
      simp only [unbroken, Bool.false_eq_true, false_iff] at flag
      omega
    exact ⟨⟨by simp, by simp [empty]⟩, by simp⟩

theorem Agrees.breakPipe_any
    {breaker : Breaker}
    (agrees : breaker.Agrees)
    (written : Bool) :
    (breaker.breakPipe written).Agrees := by
  cases written with
  | true => exact agrees.breakPipe.1
  | false =>
      obtain ⟨bytes, broken⟩ := breaker
      cases broken <;> exact agrees

theorem Agrees.clear
    {breaker : Breaker}
    (agrees : breaker.Agrees) :
    breaker.clear.Agrees ∧ breaker.clear.bytes = 0 := by
  have single := agrees.single
  unfold Breaker.clear
  split
  · rename_i empty
    exact ⟨agrees, empty⟩
  · have drained : breaker.bytes - 128 = 0 := by omega
    exact ⟨⟨by simp [drained], by simp [drained]⟩, drained⟩

end Breaker
end Skplat
