import Mathlib.Algebra.Order.Ring.Int
import Mathlib.Data.List.Basic

/-!
# Lists with a cursor

A list together with a position in it, the abstract form of a random-access
stream.  Writing overwrites or extends, reading advances, and items can be put
in front of the list or taken away there, which moves the cursor along.
-/

namespace Skplat

/-- A list and a position in it. -/
@[ext]
structure Cursor (Item : Type*) where
  items : List Item
  pos : Nat
  /-- The position lies in the list. -/
  inside : pos ≤ items.length

namespace Cursor

variable {Item : Type*}

/-- No items. -/
def empty : Cursor Item where
  items := []
  pos := 0
  inside := le_rfl

/-- The whole list, from its beginning. -/
def ofList (items : List Item) : Cursor Item where
  items := items
  pos := 0
  inside := Nat.zero_le _

/-- Overwrite from a position on, or extend the list. -/
def writeAt (cursor : Cursor Item) (start : Nat) (data : List Item) :
    Cursor Item where
  items := cursor.items.take start ++ data ++
    cursor.items.drop (start + data.length)
  pos := cursor.pos
  inside := by
    have before := cursor.inside
    simp only [List.length_append, List.length_take, List.length_drop]
    omega

/-- Move the cursor, as far as the list reaches. -/
def seek (cursor : Cursor Item) (target : Int) : Cursor Item where
  items := cursor.items
  pos := min target.toNat cursor.items.length
  inside := min_le_right _ _

/-- The next items, as many as there are. -/
def peek (cursor : Cursor Item) (count : Nat) : List Item :=
  (cursor.items.drop cursor.pos).take count

/-- Move past the next items. -/
def advance (cursor : Cursor Item) (count : Nat) : Cursor Item :=
  cursor.seek (cursor.pos + (cursor.peek count).length)

/-- Put items in front. -/
def prepend (cursor : Cursor Item) (front : List Item) : Cursor Item where
  items := front ++ cursor.items
  pos := front.length + cursor.pos
  inside := by
    have before := cursor.inside
    rw [List.length_append]
    omega

/-- Take items away in front, as many as there are. -/
def dropFront (cursor : Cursor Item) (count : Nat) : Cursor Item where
  items := cursor.items.drop count
  pos := cursor.pos - min count cursor.items.length
  inside := by
    have before := cursor.inside
    rw [List.length_drop]
    omega

/-- Keep the first items and move the cursor. -/
def truncate (cursor : Cursor Item) (target length : Nat) : Cursor Item where
  items := cursor.items.take length
  pos := min target (cursor.items.take length).length
  inside := min_le_right _ _

end Cursor
end Skplat
