import Mathlib.Data.List.Basic
import Mathlib.Logic.Function.Basic

/-!
# Guarded runs of action machines

A machine is a state type whose partial steps are selected by actions.  Every
source of nondeterminism (the scheduler, the environment, a spurious wake-up)
is a choice of action, so a step itself is an ordinary computable function.

A guard restricts which actions a run may take in which states.  Reachability
under a guard is the common form of the results below: without a guard it
ranges over every interleaving, and with one it ranges over the runs whose
every step meets a stated condition.
-/

namespace Skplat

/-- A state machine whose steps are chosen by actions.  A disabled action has
no successor. -/
structure Machine (State : Type*) (Action : Type*) where
  /-- The states in which a run may begin. -/
  initial : State → Prop
  /-- The successor selected by an action. -/
  step : State → Action → Option State

/-- A component of an updated family is the new value or an old component. -/
theorem update_cases
    {Index Value : Type*} [DecidableEq Index]
    {family : Index → Value} {index other : Index} {value result : Value}
    (component : Function.update family index value other = result) :
    (other = index ∧ value = result) ∨
      (other ≠ index ∧ family other = result) := by
  by_cases same : other = index
  · subst same
    rw [Function.update_self] at component
    exact Or.inl ⟨rfl, component⟩
  · rw [Function.update_of_ne same] at component
    exact Or.inr ⟨same, component⟩

/-- The same for a projection of the component. -/
theorem update_map_cases
    {Index Value Result : Type*} [DecidableEq Index]
    {family : Index → Value} {index other : Index} {value : Value}
    {project : Value → Result} {result : Result}
    (component : project (Function.update family index value other) = result) :
    (other = index ∧ project value = result) ∨
      (other ≠ index ∧ project (family other) = result) := by
  rw [Function.apply_update (fun _ => project)] at component
  exact update_cases component

/-- A component with a property survives an update that keeps the property. -/
theorem exists_update
    {Index Value : Type*} [DecidableEq Index]
    {family : Index → Value} {index : Index} {value : Value}
    (property : Value → Prop)
    (present : ∃ other, property (family other))
    (kept : property (family index) → property value) :
    ∃ other, property (Function.update family index value other) := by
  obtain ⟨other, holds⟩ := present
  refine ⟨other, ?_⟩
  by_cases same : other = index
  · subst same
    rw [Function.update_self]
    exact kept holds
  · rw [Function.update_of_ne same]
    exact holds

namespace Machine

variable {State Action : Type*}
variable {machine : Machine State Action}
variable {guard weaker : State → Action → Prop}

/-- States reached by runs all of whose steps meet the guard. -/
inductive ReachableUnder
    (machine : Machine State Action)
    (guard : State → Action → Prop) : State → Prop
  | initial {state : State} :
      machine.initial state → ReachableUnder machine guard state
  | step {state next : State} {action : Action} :
      ReachableUnder machine guard state →
      guard state action →
      machine.step state action = some next →
      ReachableUnder machine guard next

/-- States reached by unrestricted runs. -/
def Reachable (machine : Machine State Action) : State → Prop :=
  machine.ReachableUnder fun _ _ => True

/-- A predicate that holds initially and survives every permitted step holds in
every reached state.  The step obligation may use that its source state was
itself reached. -/
theorem ReachableUnder.invariant
    {property : State → Prop}
    (atStart : ∀ state, machine.initial state → property state)
    (preserved : ∀ state action next,
      machine.ReachableUnder guard state → property state →
      guard state action → machine.step state action = some next →
      property next)
    {state : State}
    (reached : machine.ReachableUnder guard state) :
    property state := by
  induction reached with
  | initial start => exact atStart _ start
  | step prior permitted stepped inductionHypothesis =>
      exact preserved _ _ _ prior inductionHypothesis permitted stepped

/-- Weakening the guard keeps every reached state. -/
theorem ReachableUnder.mono
    (implied : ∀ state action, guard state action → weaker state action)
    {state : State}
    (reached : machine.ReachableUnder guard state) :
    machine.ReachableUnder weaker state := by
  induction reached with
  | initial start => exact .initial start
  | step prior permitted stepped inductionHypothesis =>
      exact .step inductionHypothesis (implied _ _ permitted) stepped

/-- A guarded run is in particular an unrestricted run. -/
theorem ReachableUnder.reachable
    {state : State}
    (reached : machine.ReachableUnder guard state) :
    machine.Reachable state :=
  reached.mono fun _ _ _ => trivial

/-- Execute a list of actions in order. -/
def exec (machine : Machine State Action) :
    State → List Action → Option State
  | state, [] => some state
  | state, action :: rest =>
      (machine.step state action).bind fun next => machine.exec next rest

@[simp] theorem exec_nil (state : State) :
    machine.exec state [] = some state := rfl

@[simp] theorem exec_cons
    (state : State) (action : Action) (rest : List Action) :
    machine.exec state (action :: rest) =
      (machine.step state action).bind fun next => machine.exec next rest := rfl

/-- Executions compose. -/
theorem exec_append
    (state : State) (first second : List Action) :
    machine.exec state (first ++ second) =
      (machine.exec state first).bind fun next => machine.exec next second := by
  induction first generalizing state with
  | nil => rfl
  | cons action rest inductionHypothesis =>
      rw [List.cons_append, exec_cons, exec_cons, Option.bind_assoc]
      congr 1
      funext next
      exact inductionHypothesis next

/-- An execution extends a guarded run when the guard admits each of its
actions in every state. -/
theorem ReachableUnder.exec
    {state next : State}
    {actions : List Action}
    (reached : machine.ReachableUnder guard state)
    (permitted : ∀ action ∈ actions, ∀ current, guard current action)
    (executed : machine.exec state actions = some next) :
    machine.ReachableUnder guard next := by
  induction actions generalizing state with
  | nil =>
      simp only [exec_nil, Option.some.injEq] at executed
      exact executed ▸ reached
  | cons action rest inductionHypothesis =>
      rw [exec_cons, Option.bind_eq_some_iff] at executed
      obtain ⟨middle, stepped, remaining⟩ := executed
      have middleReached : machine.ReachableUnder guard middle :=
        .step reached (permitted action (by simp) state) stepped
      exact inductionHypothesis middleReached
        (fun later present => permitted later (by simp [present])) remaining

/-- Replaying an execution exhibits a reached state satisfying a computable
test. -/
theorem ReachableUnder.exists_of_exec
    {state : State}
    {actions : List Action}
    {test : State → Bool}
    (reached : machine.ReachableUnder guard state)
    (permitted : ∀ action ∈ actions, ∀ current, guard current action)
    (passes : (machine.exec state actions).map test = some true) :
    ∃ next, machine.ReachableUnder guard next ∧ test next = true := by
  obtain ⟨next, executed, holds⟩ := Option.map_eq_some_iff.mp passes
  exact ⟨next, reached.exec permitted executed, holds⟩

/-- Replaying an unrestricted execution from an initial state. -/
theorem exists_reachable_of_exec
    {state : State}
    {actions : List Action}
    {test : State → Bool}
    (start : machine.initial state)
    (passes : (machine.exec state actions).map test = some true) :
    ∃ next, machine.exec state actions = some next ∧
      machine.Reachable next ∧ test next = true := by
  obtain ⟨next, executed, holds⟩ := Option.map_eq_some_iff.mp passes
  have reached : machine.Reachable state := .initial start
  exact ⟨next, executed, reached.exec (fun _ _ _ => trivial) executed, holds⟩

section Decidable

variable [∀ state, DecidablePred (guard state)]

/-- Execute a list of actions as long as each of them meets the guard. -/
def execUnder
    (machine : Machine State Action)
    (guard : State → Action → Prop)
    [∀ state, DecidablePred (guard state)] :
    State → List Action → Option State
  | state, [] => some state
  | state, action :: rest =>
      if guard state action then
        (machine.step state action).bind fun next =>
          machine.execUnder guard next rest
      else none

/-- Guarded executions extend guarded runs. -/
theorem ReachableUnder.execUnder
    {state next : State}
    {actions : List Action}
    (reached : machine.ReachableUnder guard state)
    (executed : machine.execUnder guard state actions = some next) :
    machine.ReachableUnder guard next := by
  induction actions generalizing state with
  | nil =>
      simp only [Machine.execUnder, Option.some.injEq] at executed
      exact executed ▸ reached
  | cons action rest inductionHypothesis =>
      simp only [Machine.execUnder] at executed
      split at executed
      · rename_i permitted
        obtain ⟨middle, stepped, remaining⟩ :=
          Option.bind_eq_some_iff.mp executed
        exact inductionHypothesis (.step reached permitted stepped) remaining
      · cases executed

/-- Replaying a guarded execution exhibits a state reached under the guard that
satisfies a computable test. -/
theorem ReachableUnder.exists_of_execUnder
    {state : State}
    {actions : List Action}
    {test : State → Bool}
    (reached : machine.ReachableUnder guard state)
    (passes : (machine.execUnder guard state actions).map test = some true) :
    ∃ next, machine.ReachableUnder guard next ∧ test next = true := by
  obtain ⟨next, executed, holds⟩ := Option.map_eq_some_iff.mp passes
  exact ⟨next, reached.execUnder executed, holds⟩

end Decidable
end Machine
end Skplat
