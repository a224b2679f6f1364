import Mathlib.Data.List.Basic

/-!
# Writing a file at positions

The content of a file that is written at arbitrary positions.  Writing behind the
end leaves a hole, which reads as a fixed item, and writing nothing does not change
the file.
-/

namespace Skplat
namespace FileBytes

variable {Item : Type*} {hole : Item} {content data : List Item} {pos : Nat}

/-- Write at a position. -/
def pwrite (hole : Item) (content : List Item) (pos : Nat) (data : List Item) :
    List Item :=
  if data.isEmpty then content
  else
    (content ++ List.replicate (pos - content.length) hole).take pos ++ data ++
      content.drop (pos + data.length)

@[simp] theorem pwrite_nil : pwrite hole content pos [] = content := rfl

theorem pwrite_of_ne_nil (nonempty : data ≠ []) :
    pwrite hole content pos data =
      (content ++ List.replicate (pos - content.length) hole).take pos ++ data ++
        content.drop (pos + data.length) := by
  rw [pwrite, if_neg (by simpa using nonempty)]

theorem length_front :
    ((content ++ List.replicate (pos - content.length) hole).take pos).length =
      pos := by
  rw [List.length_take, List.length_append, List.length_replicate]
  omega

/-- What a file holds after a write: the data, and around it what was there or a
hole. -/
theorem getElem?_pwrite (nonempty : data ≠ []) (k : Nat) :
    (pwrite hole content pos data)[k]? =
      if pos ≤ k ∧ k < pos + data.length then data[k - pos]?
      else if k < content.length then content[k]?
      else if k < pos then some hole
      else none := by
  rw [pwrite_of_ne_nil nonempty, List.append_assoc, List.getElem?_append,
    length_front]
  split
  · rename_i before
    rw [if_neg (by omega), List.getElem?_take_of_lt before,
      List.getElem?_append]
    split
    · rfl
    · rw [List.getElem?_replicate, if_pos (by omega)]
  · rename_i behind
    rw [List.getElem?_append]
    split
    · rw [if_pos (by omega)]
    · rw [if_neg (by omega), List.getElem?_drop,
        show pos + data.length + (k - pos - data.length) = k by omega]
      split
      · rfl
      · exact List.getElem?_eq_none (by omega)

theorem length_pwrite (nonempty : data ≠ []) :
    (pwrite hole content pos data).length =
      max content.length (pos + data.length) := by
  rw [pwrite_of_ne_nil nonempty, List.length_append, List.length_append,
    length_front, List.length_drop]
  omega

/-- Two writes in a row are one. -/
theorem pwrite_append (first second : List Item) :
    pwrite hole (pwrite hole content pos first) (pos + first.length) second =
      pwrite hole content pos (first ++ second) := by
  by_cases firstEmpty : first = []
  · simp [firstEmpty]
  by_cases secondEmpty : second = []
  · simp [secondEmpty]
  have bothNonempty : first ++ second ≠ [] := by simp [firstEmpty]
  apply List.ext_getElem?
  intro k
  rw [getElem?_pwrite secondEmpty, getElem?_pwrite firstEmpty,
    getElem?_pwrite bothNonempty, length_pwrite firstEmpty, List.length_append]
  by_cases inSecond : pos + first.length ≤ k ∧ k < pos + first.length + second.length
  · rw [if_pos inSecond, if_pos (by omega),
      List.getElem?_append_right (by omega)]
    congr 1
    omega
  · rw [if_neg inSecond]
    by_cases inFirst : pos ≤ k ∧ k < pos + first.length
    · rw [if_pos inFirst, if_pos (by omega), if_pos (by omega),
        List.getElem?_append_left (by omega)]
    · rw [if_neg inFirst, if_neg (show ¬ (pos ≤ k ∧
        k < pos + (first.length + second.length)) by omega)]
      by_cases old : k < content.length
      · rw [if_pos old, if_pos (by omega)]
      · rw [if_neg old]
        by_cases before : k < pos
        · rw [if_pos before, if_pos (by omega)]
        · rw [if_neg before, if_neg (by omega), if_neg (by omega)]

/-- Writing the next part of a list behind a prefix of it makes a longer prefix. -/
theorem pwrite_take (items : List Item) (pos count : Nat) (inside : pos ≤ items.length) :
    pwrite hole (items.take pos) pos ((items.drop pos).take count) =
      items.take (pos + count) := by
  have front : (items.take pos).length = pos := by
    rw [List.length_take]
    omega
  rw [List.take_add]
  by_cases empty : (items.drop pos).take count = []
  · rw [empty, pwrite_nil, List.append_nil]
  · have behind : (items.take pos).drop
        (pos + ((items.drop pos).take count).length) = [] :=
      List.drop_eq_nil_of_le (by omega)
    rw [pwrite_of_ne_nil empty, behind, front, Nat.sub_self, List.replicate_zero,
      List.append_nil, List.append_nil, List.take_take, Nat.min_self]

end FileBytes
end Skplat
