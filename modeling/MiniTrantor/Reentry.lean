import Mathlib

/-!
# Code whose callbacks call back into it

A library calls user callbacks in the middle of its operations, and a callback
may call the library's operations again. Each operation is written once, over
an arbitrary meaning of "run this callback"; the recursion is closed by the
nesting depth. At depth zero a callback returns without calling back, so no
depth stands for an interrupted run: every finite run has a depth of its own.
-/

set_option autoImplicit false

namespace MiniTrantor.Reentry

variable {State Callback Operation : Type}

/-- What running a callback does when callbacks nest at most `depth` deep. The
user answers a callback in a given state with a list of operations. -/
def reenter (user : Callback → State → List Operation)
    (perform : (Callback → State → State) → Operation → State → State) :
    Nat → Callback → State → State
  | 0, _, state => state
  | depth + 1, callback, state =>
      (user callback state).foldl
        (fun state operation => perform (reenter user perform depth) operation state) state

/-- Every state is related to the state the function leaves. -/
def Within (relation : State → State → Prop) (run : State → State) : Prop :=
  ∀ state, relation state (run state)

theorem Within.foldl {Item : Type} {relation : State → State → Prop}
    (reflexive : ∀ state, relation state state)
    (transitive : ∀ {first second third},
      relation first second → relation second third → relation first third)
    (act : Item → State → State) (items : List Item)
    (each : ∀ item ∈ items, Within relation (act item)) :
    Within relation fun state => items.foldl (fun state item => act item state) state := by
  intro state
  induction items generalizing state with
  | nil => exact reflexive state
  | cons item items ih =>
      have first := each item List.mem_cons_self state
      have rest := ih (fun other member => each other (List.mem_cons_of_mem _ member)) (act item state)
      exact transitive first rest

/-- The re-entry rule. A preorder that the operations of the user respect, whenever the
callbacks they run respect it, is respected by callbacks at every depth. -/
theorem Within.reenter_allowed {relation : State → State → Prop}
    (reflexive : ∀ state, relation state state)
    (transitive : ∀ {first second third},
      relation first second → relation second third → relation first third)
    {user : Callback → State → List Operation} {allowed : Operation → Prop}
    (answers : ∀ callback state, ∀ operation ∈ user callback state, allowed operation)
    {perform : (Callback → State → State) → Operation → State → State}
    (operations : ∀ call, (∀ callback, Within relation (call callback)) →
      ∀ operation, allowed operation → Within relation (perform call operation))
    (depth : Nat) (callback : Callback) :
    Within relation (Reentry.reenter user perform depth callback) := by
  induction depth generalizing callback with
  | zero => exact reflexive
  | succ depth ih =>
      intro state
      exact Within.foldl reflexive transitive (perform (Reentry.reenter user perform depth))
        (user callback state)
        (fun operation member => operations _ ih operation (answers callback state operation member))
        state

/-- The rule for a preorder that every operation respects. -/
theorem Within.reenter {relation : State → State → Prop}
    (reflexive : ∀ state, relation state state)
    (transitive : ∀ {first second third},
      relation first second → relation second third → relation first third)
    {user : Callback → State → List Operation}
    {perform : (Callback → State → State) → Operation → State → State}
    (operations : ∀ call, (∀ callback, Within relation (call callback)) →
      ∀ operation, Within relation (perform call operation))
    (depth : Nat) (callback : Callback) :
    Within relation (Reentry.reenter user perform depth callback) :=
  @Within.reenter_allowed _ _ _ relation reflexive transitive user (fun _ => True)
    (fun _ _ _ _ => trivial) perform (fun call calls operation _ => operations call calls operation)
    depth callback

end MiniTrantor.Reentry
