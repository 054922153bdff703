import Mathlib

/-!
# Runs of a system

A system is a step function that refuses the actions it cannot take in a state.
Some results hold only of runs in which every step was permitted, so reachable
states are taken with respect to a condition on the steps that lead there.
-/

set_option autoImplicit false

namespace MiniTrantor

variable {State Action : Type} {step : State → Action → Option State}
  {permitted : State → Action → Prop} {start : State}

/-- The states that runs of permitted steps lead to. -/
inductive Reach (step : State → Action → Option State) (permitted : State → Action → Prop)
    (start : State) : State → Prop where
  | start : Reach step permitted start start
  | step {state next : State} {action : Action} : Reach step permitted start state →
      permitted state action → step state action = some next → Reach step permitted start next

namespace Reach

/-- What holds at the start and is kept by permitted steps holds of every state reached. -/
theorem invariant {holds : State → Prop} (initially : holds start)
    (kept : ∀ state next action, holds state → permitted state action →
      step state action = some next → holds next)
    {state : State} (reach : Reach step permitted start state) : holds state := by
  induction reach with
  | start => exact initially
  | step _ allowed taken ih => exact kept _ _ _ ih allowed taken

end Reach

/-- The state after a list of actions, if each can be taken. -/
def run (step : State → Action → Option State) : State → List Action → Option State
  | state, [] => some state
  | state, action :: rest => (step state action).bind fun next => run step next rest

theorem run_singleton (state : State) (action : Action) :
    run step state [action] = step state action := by
  rw [run]
  cases step state action <;> rfl

theorem run_append (state : State) (first second : List Action) :
    run step state (first ++ second) =
      (run step state first).bind fun middle => run step middle second := by
  induction first generalizing state with
  | nil => rfl
  | cons action rest ih =>
      rw [List.cons_append, run, run]
      cases step state action with
      | none => rfl
      | some next => exact ih next

/-- A run is a sequence of steps from any state that was reached. -/
theorem Reach.run {actions : List Action} {first final : State}
    (reach : Reach step permitted start first)
    (allowed : ∀ action ∈ actions, ∀ state, permitted state action)
    (ran : run step first actions = some final) : Reach step permitted start final := by
  induction actions generalizing first with
  | nil =>
      cases ran
      exact reach
  | cons action rest ih =>
      obtain ⟨next, taken, rest⟩ := Option.bind_eq_some_iff.mp ran
      refine ih (.step reach (allowed action List.mem_cons_self first) taken) ?_ rest
      exact fun other member => allowed other (List.mem_cons_of_mem _ member)

/-- Every step of a run is permitted. -/
def Permits (step : State → Action → Option State) (permitted : State → Action → Prop) :
    State → List Action → Prop
  | _, [] => True
  | state, action :: rest =>
      permitted state action ∧
        ∀ next, step state action = some next → Permits step permitted next rest

theorem Reach.permits {actions : List Action} {first final : State}
    (reach : Reach step permitted start first) (permits : Permits step permitted first actions)
    (ran : MiniTrantor.run step first actions = some final) : Reach step permitted start final := by
  induction actions generalizing first with
  | nil =>
      cases ran
      exact reach
  | cons action rest ih =>
      obtain ⟨next, taken, rest⟩ := Option.bind_eq_some_iff.mp ran
      exact ih (.step reach permits.1 taken) (permits.2 next taken) rest

/-- The step function that refuses what is not permitted. -/
def checked (step : State → Action → Option State) (permitted : State → Action → Prop)
    [∀ state action, Decidable (permitted state action)] (state : State) (action : Action) :
    Option State :=
  if permitted state action then step state action else none

/-- A run of permitted steps, each of which was checked. -/
theorem Reach.checked [∀ state action, Decidable (permitted state action)] {actions : List Action}
    {first final : State} (reach : Reach step permitted start first)
    (ran : MiniTrantor.run (MiniTrantor.checked step permitted) first actions = some final) :
    Reach step permitted start final := by
  induction actions generalizing first with
  | nil =>
      cases ran
      exact reach
  | cons action rest ih =>
      obtain ⟨next, taken, rest⟩ := Option.bind_eq_some_iff.mp ran
      obtain ⟨allowed, stepped⟩ := Option.ite_none_right_eq_some.mp taken
      exact ih (.step reach allowed stepped) rest

end MiniTrantor
