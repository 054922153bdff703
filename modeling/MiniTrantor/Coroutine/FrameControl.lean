import MiniTrantor.Acyclic

/-!
# Frame controls

The `FrameControl` of each coroutine names the gate under which its frame is resumed and
destroyed, and borrows the controls of the coroutines that it awaits. A borrowed control
that is gone cannot be locked. Controls are numbered in the order of their creation, and
each comes with a gate of its own.
-/

set_option autoImplicit false

namespace MiniTrantor.Coroutine

open Relation (ReflTransGen TransGen)

abbrev Control := Nat
abbrev Gate := Nat

structure FrameControls where
  created : Nat := 0
  /-- The control still has an owner. -/
  alive : Control → Bool := fun _ => false
  gate : Control → Gate := id
  children : Control → List Control := fun _ => []

namespace FrameControls

/-- A coroutine is created. -/
def create (controls : FrameControls) : FrameControls where
  created := controls.created + 1
  alive := Function.update controls.alive controls.created true
  gate := Function.update controls.gate controls.created controls.created
  children := Function.update controls.children controls.created []

/-- The last owner of a control lets go. -/
def release (control : Control) (controls : FrameControls) : FrameControls :=
  { controls with alive := Function.update controls.alive control false }

/-- The fuel bounds how deep the calls nest. -/
def adoptGate (adoptedGate : Gate) : Nat → Control → FrameControls → Option FrameControls
  | 0, _, _ => none
  | fuel + 1, control, controls =>
      (controls.children control).foldlM
        (fun controls child =>
          if controls.alive child then adoptGate adoptedGate fuel child controls
          else some controls)
        { controls with gate := Function.update controls.gate control adoptedGate }

def eraseExpired (parent : Control) (controls : FrameControls) : FrameControls :=
  { controls with
    children :=
      Function.update controls.children parent ((controls.children parent).filter controls.alive) }

def emplaceBack (parent child : Control) (controls : FrameControls) : FrameControls :=
  { controls with
    children := Function.update controls.children parent (controls.children parent ++ [child]) }

def linkChild (parent child : Control) (controls : FrameControls) : Option FrameControls := do
  let controls := controls.eraseExpired parent
  let controls ← adoptGate (controls.gate parent) controls.created child controls
  return controls.emplaceBack parent child

inductive Action where
  | create
  | linkChild (parent child : Control)
  | release (control : Control)
  deriving DecidableEq, Repr

def step (controls : FrameControls) : Action → Option FrameControls
  | .create => some controls.create
  | .linkChild parent child => controls.linkChild parent child
  | .release control => some (controls.release control)

/-- A living control and one that it has for a child. -/
def Edge (controls : FrameControls) (parent child : Control) : Prop :=
  controls.alive parent = true ∧ controls.alive child = true ∧ child ∈ controls.children parent

/-- A child has no other living parent, and the parent is not below it. -/
def Linkable (controls : FrameControls) : Action → Prop
  | .linkChild parent child =>
      controls.alive parent = true ∧ controls.alive child = true ∧
        (∀ other, controls.Edge other child → other = parent) ∧
        ¬ReflTransGen controls.Edge child parent
  | _ => True

end FrameControls

end MiniTrantor.Coroutine
