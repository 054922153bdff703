import MiniTrantor.Reachability

/-!
# Runs without an end

What is bound to happen in a run that goes on. Fairness is an assumption about the actions of
the run: that some action is taken at some time after any time. A condition that lasts until
the action is taken leads to what the action does.
-/

set_option autoImplicit false

namespace MiniTrantor

variable {State Action : Type} {step : State → Action → Option State} {start : State}

structure EndlessRun (step : State → Action → Option State) (start : State) where
  states : Nat → State
  actions : Nat → Action
  starts : states 0 = start
  steps : ∀ n, step (states n) (actions n) = some (states (n + 1))

namespace EndlessRun

variable {run : EndlessRun step start} {first second third : State → Prop}

/-- After every state of the first kind there is one of the second kind. -/
def LeadsTo (run : EndlessRun step start) (first second : State → Prop) : Prop :=
  ∀ n, first (run.states n) → ∃ m, n ≤ m ∧ second (run.states m)

theorem LeadsTo.of_imp (implies : ∀ state, first state → second state) :
    run.LeadsTo first second :=
  fun n holds => ⟨n, le_rfl, implies _ holds⟩

theorem LeadsTo.either (one : run.LeadsTo first third) (two : run.LeadsTo second third) :
    run.LeadsTo (fun state => first state ∨ second state) third := by
  intro n holds
  obtain holds | holds := holds
  · exact one n holds
  · exact two n holds

/-- A condition that lasts until an action is taken holds when it is taken. -/
theorem lasts_until {taken : Action → Prop} {n : Nat}
    (bound : ∃ m, n ≤ m ∧ taken (run.actions m)) (holds : first (run.states n))
    (kept : ∀ state action next, step state action = some next → first state → ¬ taken action →
      first next) : ∃ m, n ≤ m ∧ taken (run.actions m) ∧ first (run.states m) := by
  classical
  obtain ⟨m, later, action⟩ := bound
  induction m using Nat.strong_induction_on with
  | _ m ih =>
      by_cases earlier : ∃ l, n ≤ l ∧ l < m ∧ taken (run.actions l)
      · obtain ⟨l, after, before, action⟩ := earlier
        exact ih l before after action
      · refine ⟨m, later, action, ?_⟩
        -- no action of the kind is taken before `m`
        have upTo : ∀ l, n ≤ l → l ≤ m → first (run.states l) := by
          intro l after
          induction l, after using Nat.le_induction with
          | base => exact fun _ => holds
          | succ l after ih =>
              intro before
              exact kept _ _ _ (run.steps l) (ih (by omega))
                fun action => earlier ⟨l, after, by omega, action⟩
        exact upTo m later le_rfl

theorem reach {permitted : State → Action → Prop} {origin : State}
    (reachable : Reach step permitted origin start)
    (allowed : ∀ n, permitted (run.states n) (run.actions n)) (n : Nat) :
    Reach step permitted origin (run.states n) := by
  induction n with
  | zero => rwa [run.starts]
  | succ n ih => exact .step ih (allowed n) (run.steps n)

/-- A run with a step before it. -/
def after {next : State} (action : Action) (ran : step start action = some next)
    (run : EndlessRun step next) : EndlessRun step start where
  states
    | 0 => start
    | n + 1 => run.states n
  actions
    | 0 => action
    | n + 1 => run.actions n
  starts := rfl
  steps
    | 0 => by simpa [run.starts] using ran
    | n + 1 => run.steps n

end EndlessRun

end MiniTrantor
