import Mathlib.Algebra.BigOperators.Group.List.Basic
import Mathlib.Algebra.Order.Ring.Nat
import Mathlib.Data.List.Perm.Basic

/-!
# Lists in which one member is replaced or taken out

The other members stay, so what is collected or counted over the list changes by the old and
the new member.
-/

namespace Skplat

variable {Member Result : Type*} {members : List Member} {index : Nat} {member : Member}

/-- A member that is replaced, and the others. -/
theorem exists_others_of_set (found : members[index]? = some member) (replaced : Member) :
    ∃ others, members.Perm (member :: others) ∧
      (members.set index replaced).Perm (replaced :: others) := by
  obtain ⟨inside, rfl⟩ := List.getElem?_eq_some_iff.mp found
  exact ⟨members.eraseIdx index, (List.getElem_cons_eraseIdx_perm inside).symm,
    List.set_perm_cons_eraseIdx inside replaced⟩

/-- What is collected from the old member, from the new one and from the others. -/
theorem exists_others_of_filterMap_set
    (found : members[index]? = some member) (replaced : Member)
    (collect : Member → Option Result) :
    ∃ others, (members.filterMap collect).Perm ((collect member).toList ++ others) ∧
      ((members.set index replaced).filterMap collect).Perm
        ((collect replaced).toList ++ others) := by
  obtain ⟨others, before, after⟩ := exists_others_of_set found replaced
  refine ⟨others.filterMap collect, ?_, ?_⟩
  · refine (before.filterMap collect).trans ?_
    rw [List.filterMap_cons]
    cases collect member <;> exact List.Perm.refl _
  · refine (after.filterMap collect).trans ?_
    rw [List.filterMap_cons]
    cases collect replaced <;> exact List.Perm.refl _

/-- A member from which the same is collected. -/
theorem filterMap_set_of_same {replaced : Member} {collect : Member → Option Result}
    (found : members[index]? = some member) (same : collect replaced = collect member) :
    (members.set index replaced).filterMap collect = members.filterMap collect := by
  obtain ⟨inside, rfl⟩ := List.getElem?_eq_some_iff.mp found
  nth_rewrite 2 [← List.set_getElem_self inside]
  rw [List.set_eq_take_append_cons_drop, List.set_eq_take_append_cons_drop, if_pos inside,
    if_pos inside, List.filterMap_append, List.filterMap_append, List.filterMap_cons,
    List.filterMap_cons, same]

/-- A member of which the image is the same. -/
theorem map_set_of_same {replaced : Member} {image : Member → Result}
    (found : members[index]? = some member) (same : image replaced = image member) :
    (members.set index replaced).map image = members.map image := by
  obtain ⟨inside, rfl⟩ := List.getElem?_eq_some_iff.mp found
  nth_rewrite 2 [← List.set_getElem_self inside]
  rw [List.map_set, List.map_set, same]

/-- The new member is counted instead of the old one. -/
theorem countP_set_add (found : members[index]? = some member) (replaced : Member)
    (test : Member → Bool) :
    (members.set index replaced).countP test + (test member).toNat =
      members.countP test + (test replaced).toNat := by
  obtain ⟨others, before, after⟩ := exists_others_of_set found replaced
  rw [before.countP_eq, after.countP_eq, List.countP_cons, List.countP_cons]
  cases test member <;> cases test replaced <;> simp

/-- The new member is added instead of the old one. -/
theorem sum_map_set_add (found : members[index]? = some member) (replaced : Member)
    (size : Member → Nat) :
    ((members.set index replaced).map size).sum + size member =
      (members.map size).sum + size replaced := by
  obtain ⟨others, before, after⟩ := exists_others_of_set found replaced
  rw [(before.map size).sum_eq, (after.map size).sum_eq, List.map_cons, List.map_cons,
    List.sum_cons, List.sum_cons]
  omega

/-- The first member that passes a test, and the list without it. -/
theorem exists_append_of_find? {test : Member → Bool}
    (found : members.find? test = some member) :
    ∃ before after, members = before ++ member :: after ∧
      members.eraseP test = before ++ after := by
  obtain ⟨passes, before, after, rfl, fail⟩ := List.find?_eq_some_iff_append.mp found
  refine ⟨before, after, rfl, ?_⟩
  rw [List.eraseP_append_right _ (fun other present => by simpa using fail other present),
    List.eraseP_cons_of_pos passes]

end Skplat
