import Skplat.Machine.Basic

/-!
# One machine follows another

A machine follows another one, along a relation of their states, if it has a step for each step of
the other one, and the states stay related.  Then it has a run for each run of the other one.
-/

namespace Skplat
namespace Machine

variable {State Other Action : Type*}

/-- Each step of the other machine is a step of this machine too. -/
def Follows (machine : Machine State Action) (other : Machine Other Action)
    (related : State → Other → Prop) : Prop :=
  ∀ state abstract action abstractNext, related state abstract →
    other.step abstract action = some abstractNext →
    ∃ next, machine.step state action = some next ∧ related next abstractNext

theorem Follows.exec {machine : Machine State Action} {other : Machine Other Action}
    {related : State → Other → Prop} (follows : machine.Follows other related)
    {actions : List Action} {state : State} {abstract abstractNext : Other}
    (isRelated : related state abstract)
    (run : other.exec abstract actions = some abstractNext) :
    ∃ next, machine.exec state actions = some next ∧ related next abstractNext := by
  induction actions generalizing state abstract with
  | nil =>
      rw [exec_nil, Option.some_inj] at run
      exact ⟨state, rfl, run ▸ isRelated⟩
  | cons action rest ih =>
      rw [exec_cons, Option.bind_eq_some_iff] at run
      obtain ⟨middle, stepped, remaining⟩ := run
      obtain ⟨next, steps, stillRelated⟩ := follows state abstract action middle isRelated stepped
      obtain ⟨last, runs, lastRelated⟩ := ih stillRelated remaining
      refine ⟨last, ?_, lastRelated⟩
      rw [exec_cons, steps, Option.bind_some, runs]

end Machine
end Skplat
