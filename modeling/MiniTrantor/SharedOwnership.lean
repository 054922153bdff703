import Mathlib

/-!
# Resources with shared owners

A resource is taken over by an object that closes it when the last of its holders lets go. A
resource that no object has taken over is closed by hand, or is lost.
-/

set_option autoImplicit false

namespace MiniTrantor

structure Holdings (Resource Holder : Type) where
  /-- How many objects have taken the resource over. -/
  objects : Resource → Nat := fun _ => 0
  closes : Resource → Nat := fun _ => 0
  holders : Resource → List Holder := fun _ => []

namespace Holdings

variable {Resource Holder : Type} {holdings before middle after : Holdings Resource Holder}
  {resource other : Resource} {holder old new : Holder}

/-- Closed, or to be closed by the object that has taken it over. -/
def total (holdings : Holdings Resource Holder) (resource : Resource) : Nat :=
  holdings.objects resource + holdings.closes resource

/-- The object of a resource lives as long as it has a holder. -/
def Sound (holdings : Holdings Resource Holder) : Prop :=
  ∀ resource, holdings.objects resource = if holdings.holders resource = [] then 0 else 1

/-- What is done with objects that are alive: none is made, and none is lost. -/
structure Passes (before after : Holdings Resource Holder) : Prop where
  sound : Sound before → Sound after
  total : Sound before → ∀ resource, after.total resource = before.total resource
  gone : ∀ resource, before.holders resource = [] → after.holders resource = []

namespace Passes

theorem refl (holdings : Holdings Resource Holder) : Passes holdings holdings :=
  ⟨id, fun _ _ => rfl, fun _ => id⟩

theorem trans (first : Passes before middle) (second : Passes middle after) : Passes before after where
  sound := second.sound ∘ first.sound
  total := fun sound resource =>
    (second.total (first.sound sound) resource).trans (first.total sound resource)
  gone := fun resource none => second.gone resource (first.gone resource none)

end Passes

section Resources

variable [DecidableEq Resource]

/-- Close a resource by hand. -/
def close (resource : Resource) (holdings : Holdings Resource Holder) :
    Holdings Resource Holder :=
  { holdings with
    closes := Function.update holdings.closes resource (holdings.closes resource + 1) }

/-- A new object takes the resource over, for its first holder. -/
def take (resource : Resource) (holder : Holder) (holdings : Holdings Resource Holder) :
    Holdings Resource Holder :=
  { holdings with
    objects := Function.update holdings.objects resource (holdings.objects resource + 1)
    holders := Function.update holdings.holders resource (holder :: holdings.holders resource) }

/-- Another holder, of an object that is alive. -/
def copy (resource : Resource) (holder : Holder) (holdings : Holdings Resource Holder) :
    Holdings Resource Holder :=
  if holdings.holders resource = [] then holdings
  else
    { holdings with
      holders := Function.update holdings.holders resource (holder :: holdings.holders resource) }

/-- The object is destroyed once no holder is left, and closes the resource. -/
def destroyIf (resource : Resource) (holdings : Holdings Resource Holder) :
    Holdings Resource Holder :=
  if holdings.holders resource = [] then
    { holdings with
      objects := Function.update holdings.objects resource (holdings.objects resource - 1)
      closes := Function.update holdings.closes resource (holdings.closes resource + 1) }
  else holdings

theorem total_close : (holdings.close resource).total other =
    holdings.total other + if other = resource then 1 else 0 := by
  by_cases same : other = resource
  · subst same
    simp [total, close, Nat.add_assoc]
  · simp [total, close, same]

theorem total_take : (holdings.take resource holder).total other =
    holdings.total other + if other = resource then 1 else 0 := by
  by_cases same : other = resource
  · subst same
    simp [total, take]
    omega
  · simp [total, take, same]

theorem Sound.take (sound : Sound holdings) (none : holdings.holders resource = []) :
    Sound (holdings.take resource holder) := by
  intro other
  by_cases same : other = resource
  · subst same
    simp [Holdings.take, sound other, none]
  · simp only [Holdings.take, Function.update_of_ne same]
    exact sound other

theorem take_holders (none : holdings.holders resource = []) :
    (holdings.take resource holder).holders =
      Function.update holdings.holders resource [holder] := by
  simp only [take, none]

theorem copy_holders_ne (different : other ≠ resource) :
    (holdings.copy resource holder).holders other = holdings.holders other := by
  unfold copy
  split
  · rfl
  · exact Function.update_of_ne different ..

namespace Passes

/-- The holders of one resource change, and there are some before and after. -/
theorem reheld {holders : List Holder} (before : holdings.holders resource ≠ [])
    (after : holders ≠ []) :
    Passes holdings
      { holdings with holders := Function.update holdings.holders resource holders } := by
  refine ⟨fun sound other => ?_, fun _ _ => rfl, fun other none => ?_⟩
  · by_cases same : other = resource
    · subst same
      simp only [Function.update_self, if_neg after]
      rw [sound, if_neg before]
    · simp only [Function.update_of_ne same]
      exact sound other
  · have different : other ≠ resource := by
      rintro rfl
      exact before none
    simp only [Function.update_of_ne different, none]

theorem copy (resource : Resource) (holder : Holder) (holdings : Holdings Resource Holder) :
    Passes holdings (holdings.copy resource holder) := by
  unfold Holdings.copy
  split
  · exact refl holdings
  case isFalse held => exact reheld held (List.cons_ne_nil _ _)

/-- The last holder lets go. -/
theorem destroyed (held : holdings.holders resource ≠ []) :
    Passes holdings
      { objects := Function.update holdings.objects resource (holdings.objects resource - 1)
        closes := Function.update holdings.closes resource (holdings.closes resource + 1)
        holders := Function.update holdings.holders resource [] } := by
  refine ⟨fun sound other => ?_, fun sound other => ?_, fun other none => ?_⟩
  · by_cases same : other = resource
    · subst same
      simp [sound other, held]
    · simp only [Function.update_of_ne same]
      exact sound other
  · by_cases same : other = resource
    · subst same
      simp [Holdings.total, sound other, held]
      omega
    · simp only [Holdings.total, Function.update_of_ne same]
  · by_cases same : other = resource
    · subst same
      exact Function.update_self ..
    · simpa only [Function.update_of_ne same] using none

end Passes

section Holders

variable [DecidableEq Holder]

/-- A holder passes its share on. -/
def move (resource : Resource) (old new : Holder) (holdings : Holdings Resource Holder) :
    Holdings Resource Holder :=
  if old ∈ holdings.holders resource then
    { holdings with
      holders := Function.update holdings.holders resource
        (new :: (holdings.holders resource).erase old) }
  else holdings

/-- A holder lets go. -/
def drop (resource : Resource) (holder : Holder) (holdings : Holdings Resource Holder) :
    Holdings Resource Holder :=
  if holder ∈ holdings.holders resource then
    destroyIf resource
      { holdings with
        holders := Function.update holdings.holders resource
          ((holdings.holders resource).erase holder) }
  else holdings

theorem drop_holders (resource : Resource) (holder : Holder) (holdings : Holdings Resource Holder) :
    (holdings.drop resource holder).holders =
      Function.update holdings.holders resource ((holdings.holders resource).erase holder) := by
  unfold drop destroyIf
  split
  · split <;> rfl
  case isFalse absent => rw [List.erase_of_not_mem absent, Function.update_eq_self]

theorem move_holders_ne (different : other ≠ resource) :
    (holdings.move resource old new).holders other = holdings.holders other := by
  unfold move
  split
  · exact Function.update_of_ne different ..
  · rfl

namespace Passes

theorem move (resource : Resource) (old new : Holder) (holdings : Holdings Resource Holder) :
    Passes holdings (holdings.move resource old new) := by
  unfold Holdings.move
  split
  case isTrue held => exact reheld (List.ne_nil_of_mem held) (List.cons_ne_nil _ _)
  case isFalse => exact refl holdings

theorem drop (resource : Resource) (holder : Holder) (holdings : Holdings Resource Holder) :
    Passes holdings (holdings.drop resource holder) := by
  unfold Holdings.drop destroyIf
  split
  case isTrue held =>
    have some := List.ne_nil_of_mem held
    simp only [Function.update_self]
    split
    case isTrue last =>
      rw [last]
      exact destroyed some
    case isFalse left => exact reheld some left
  case isFalse => exact refl holdings

end Passes

end Holders

end Resources

end Holdings

end MiniTrantor
