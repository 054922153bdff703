import MiniTrantor.Coroutine.FrameControl
import MiniTrantor.Reachability

/-!
# One gate for each tree of coroutines

A child takes over the gate of its parent with everything below it. What an adoption
changes is said once; it leaves the edges alone.
-/

set_option autoImplicit false

namespace MiniTrantor.Coroutine

open Relation (ReflTransGen TransGen EqvGen)

namespace FrameControls

variable {controls next : FrameControls} {parent child control : Control} {adoptedGate : Gate}

open Classical in
/-- Some controls change their gate. -/
noncomputable def adopt (adoptedGate : Gate) (adopting : Set Control) (controls : FrameControls) :
    FrameControls :=
  { controls with
    gate := fun control => if control ∈ adopting then adoptedGate else controls.gate control }

/-- A control and all that is below it. -/
def below (controls : FrameControls) (control : Control) : Set Control :=
  {other | ReflTransGen controls.Edge control other}

theorem adopt_gate_mem {adopting : Set Control} (member : control ∈ adopting) :
    (controls.adopt adoptedGate adopting).gate control = adoptedGate := if_pos member

theorem adopt_gate_not_mem {adopting : Set Control} (absent : control ∉ adopting) :
    (controls.adopt adoptedGate adopting).gate control = controls.gate control := if_neg absent

theorem adopt_adopt (first second : Set Control) :
    (controls.adopt adoptedGate first).adopt adoptedGate second =
      controls.adopt adoptedGate (first ∪ second) := by
  unfold adopt
  congr 1
  funext control
  by_cases later : control ∈ second <;> by_cases earlier : control ∈ first <;>
    simp [later, earlier]

theorem update_gate (control : Control) :
    { controls with gate := Function.update controls.gate control adoptedGate } =
      controls.adopt adoptedGate {control} := by
  unfold adopt
  congr 1
  funext other
  by_cases same : other = control <;> simp [same]

/-- The children are adopted one after the other. -/
theorem adopt_children {fuel : Nat} (children : List Control)
    (each : ∀ child ∈ children, controls.alive child = true → ∀ adopted : Set Control,
      adoptGate adoptedGate fuel child (controls.adopt adoptedGate adopted) =
        some (controls.adopt adoptedGate (adopted ∪ controls.below child)))
    (adopted : Set Control) :
    children.foldlM
        (fun controls child =>
          if controls.alive child then adoptGate adoptedGate fuel child controls
          else some controls)
        (controls.adopt adoptedGate adopted) =
      some (controls.adopt adoptedGate
        (adopted ∪ {other | ∃ child ∈ children, controls.alive child = true ∧
          other ∈ controls.below child})) := by
  induction children generalizing adopted with
  | nil => simp
  | cons child children ih =>
      have rest := ih fun other member => each other (List.mem_cons_of_mem _ member)
      rw [List.foldlM_cons]
      change ((if controls.alive child = true then _ else _) >>= _) = _
      split
      case isTrue living =>
        rw [each child List.mem_cons_self living adopted]
        change List.foldlM _ (controls.adopt adoptedGate (adopted ∪ controls.below child)) _ = _
        rw [rest]
        congr 2
        ext other
        simp [living, or_assoc]
      case isFalse expired =>
        change List.foldlM _ (controls.adopt adoptedGate adopted) _ = _
        rw [rest]
        simp [expired]

/-- The living controls were created, and no cycle leads from one to itself. -/
structure Finite (controls : FrameControls) : Prop where
  created : ∀ control, controls.alive control = true → control < controls.created
  acyclic : Acyclic controls.Edge

theorem below_eq (living : controls.alive control = true) :
    controls.below control = {control} ∪ {other | ∃ child ∈ controls.children control,
      controls.alive child = true ∧ other ∈ controls.below child} := by
  ext other
  constructor
  · intro under
    rcases ReflTransGen.cases_head under with rfl | ⟨child, ⟨_, alive, listed⟩, rest⟩
    · exact .inl rfl
    · exact .inr ⟨child, listed, alive, rest⟩
  · rintro (rfl | ⟨child, listed, alive, rest⟩)
    · exact .refl
    · exact .head ⟨living, alive, listed⟩ rest

/-- `adoptGate` returns, and has adopted everything below the control. -/
theorem adoptGate_eq {fuel : Nat} {trail : List Control} (finite : Finite controls)
    (walked : Trail controls.Edge trail control) (living : controls.alive control = true)
    (enough : controls.created ≤ fuel + trail.length) (adopted : Set Control) :
    adoptGate adoptedGate fuel control (controls.adopt adoptedGate adopted) =
      some (controls.adopt adoptedGate (adopted ∪ controls.below control)) := by
  induction fuel generalizing trail control adopted with
  | zero =>
      -- the nodes on the way are distinct, so they are not as many as that
      have below : ∀ other ∈ control :: trail, other < controls.created := by
        intro other member
        rcases List.mem_cons.mp member with rfl | earlier
        · exact finite.created other living
        · obtain ⟨_, ⟨alive, _⟩, _⟩ := TransGen.head'_iff.mp (walked.leads other earlier)
          exact finite.created other alive
      have short := length_le_of_nodup (walked.nodup finite.acyclic) below
      rw [List.length_cons] at short
      omega
  | succ fuel ih =>
      rw [adoptGate]
      change List.foldlM _ { controls.adopt adoptedGate adopted with
        gate := Function.update (controls.adopt adoptedGate adopted).gate control adoptedGate }
          (controls.children control) = _
      rw [update_gate, adopt_adopt, @adopt_children controls adoptedGate fuel]
      · rw [below_eq living, Set.union_assoc]
      · intro child listed alive adopted
        refine ih (walked.step finite.acyclic ⟨living, alive, listed⟩) alive ?_ adopted
        rw [List.length_cons]
        omega

/-- Fuel for every control is enough, and more changes nothing. -/
theorem adoptGate_returns (finite : Finite controls) (living : controls.alive control = true)
    {fuel : Nat} (enough : controls.created ≤ fuel) :
    adoptGate adoptedGate fuel control controls =
      some (controls.adopt adoptedGate (controls.below control)) := by
  have untouched : controls.adopt adoptedGate ∅ = controls := by
    unfold adopt
    simp
  have adopted := @adoptGate_eq controls control adoptedGate fuel [] finite (.start _ _) living
    enough ∅
  rwa [untouched, Set.empty_union] at adopted

/-- Expired controls have no edges. -/
theorem eraseExpired_edge (parent : Control) : (controls.eraseExpired parent).Edge = controls.Edge := by
  funext source target
  unfold Edge eraseExpired
  by_cases same : source = parent
  · subst same
    simp only [Function.update_self, List.mem_filter]
    apply propext
    constructor
    · rintro ⟨first, second, listed, _⟩
      exact ⟨first, second, listed⟩
    · rintro ⟨first, second, listed⟩
      exact ⟨first, second, listed, second⟩
  · simp only [Function.update_of_ne same]

/-- The controls after `linkChild`. -/
noncomputable def linked (parent child : Control) (controls : FrameControls) : FrameControls :=
  ((controls.eraseExpired parent).adopt (controls.gate parent) (controls.below child)).emplaceBack
    parent child

theorem linkChild_eq (finite : Finite controls) (living : controls.alive child = true) :
    controls.linkChild parent child = some (controls.linked parent child) := by
  have edges := @eraseExpired_edge controls parent
  have still : Finite (controls.eraseExpired parent) := ⟨finite.created, edges ▸ finite.acyclic⟩
  have returned := @adoptGate_returns _ child (controls.gate parent) still living
    controls.created (Nat.le_refl _)
  have same : (controls.eraseExpired parent).below child = controls.below child := by
    unfold below
    rw [edges]
  rw [same] at returned
  unfold linkChild
  dsimp only
  change (adoptGate (controls.gate parent) controls.created child _ >>= _) = _
  rw [returned]
  rfl

theorem linked_edge {source target : Control} (edge : (controls.linked parent child).Edge source target) :
    controls.Edge source target ∨ source = parent ∧ target = child := by
  obtain ⟨first, second, listed⟩ := edge
  by_cases same : source = parent
  · subst same
    simp only [linked, emplaceBack, adopt, eraseExpired, Function.update_self, List.mem_append,
      List.mem_filter, List.mem_singleton] at listed
    rcases listed with ⟨listed, _⟩ | rfl
    · exact .inl ⟨first, second, listed⟩
    · exact .inr ⟨rfl, rfl⟩
  · simp only [linked, emplaceBack, adopt, eraseExpired, Function.update_of_ne same] at listed
    exact .inl ⟨first, second, listed⟩

theorem linked_edge_iff (parentLiving : controls.alive parent = true)
    (living : controls.alive child = true) {source target : Control} :
    (controls.linked parent child).Edge source target ↔
      controls.Edge source target ∨ source = parent ∧ target = child := by
  refine ⟨linked_edge, ?_⟩
  rintro (⟨first, second, listed⟩ | ⟨rfl, rfl⟩)
  · refine ⟨first, second, ?_⟩
    by_cases same : source = parent
    · subst same
      simp only [linked, emplaceBack, adopt, eraseExpired, Function.update_self, List.mem_append,
        List.mem_filter]
      exact .inl ⟨listed, second⟩
    · simpa only [linked, emplaceBack, adopt, eraseExpired, Function.update_of_ne same] using listed
  · exact ⟨parentLiving, living, by simp [linked, emplaceBack]⟩

/-- What holds of the controls after each operation. -/
structure Shared (controls : FrameControls) : Prop extends Finite controls where
  known : ∀ parent, ∀ child ∈ controls.children parent, child < controls.created
  parents : ∀ first second child, controls.Edge first child → controls.Edge second child →
    first = second
  gates : ∀ parent child, controls.Edge parent child → controls.gate child = controls.gate parent

namespace Shared

theorem start : Shared {} := by
  have none : ∀ source target, ¬Edge {} source target := by
    rintro source target ⟨_, _, listed⟩
    exact absurd listed List.not_mem_nil
  refine ⟨⟨?_, .of_none none⟩, ?_, ?_, ?_⟩
  · intro control living
    cases living
  · exact fun _ _ listed => absurd listed List.not_mem_nil
  · exact fun _ _ _ edge => absurd edge (none _ _)
  · exact fun _ _ edge => absurd edge (none _ _)

/-- A new control is not linked yet. -/
theorem create (shared : Shared controls) : Shared controls.create := by
  have old : ∀ source target, controls.create.Edge source target →
      controls.Edge source target ∧ source ≠ controls.created ∧ target ≠ controls.created := by
    rintro source target ⟨first, second, listed⟩
    have linking : source ≠ controls.created := by
      rintro rfl
      simp [FrameControls.create] at listed
    simp only [FrameControls.create, Function.update_of_ne linking] at first listed
    have listing : target ≠ controls.created := Nat.ne_of_lt (shared.known source target listed)
    simp only [FrameControls.create, Function.update_of_ne listing] at second
    exact ⟨⟨first, second, listed⟩, linking, listing⟩
  refine ⟨⟨fun control living => ?_, ?_⟩, fun parent child listed => ?_, ?_, ?_⟩
  · by_cases same : control = controls.created
    · exact same ▸ Nat.lt_succ_self _
    · simp only [FrameControls.create, Function.update_of_ne same] at living
      exact Nat.lt_succ_of_lt (shared.created control living)
  · exact shared.acyclic.narrow fun source target edge => (old source target edge).1
  · by_cases same : parent = controls.created
    · subst same
      simp [FrameControls.create] at listed
    · simp only [FrameControls.create, Function.update_of_ne same] at listed
      exact Nat.lt_succ_of_lt (shared.known parent child listed)
  · intro first second child one two
    exact shared.parents first second child (old _ _ one).1 (old _ _ two).1
  · intro parent child edge
    obtain ⟨edge, linking, listing⟩ := old parent child edge
    simp only [FrameControls.create, Function.update_of_ne linking, Function.update_of_ne listing]
    exact shared.gates parent child edge

/-- What hung on a control that is gone is on its own. -/
theorem release (control : Control) (shared : Shared controls) : Shared (controls.release control) := by
  have alive : ∀ other, (controls.release control).alive other = true →
      controls.alive other = true := by
    intro other living
    by_cases same : other = control
    · subst same
      simp [FrameControls.release] at living
    · simpa only [FrameControls.release, Function.update_of_ne same] using living
  have old : ∀ source target, (controls.release control).Edge source target →
      controls.Edge source target :=
    fun source target edge => ⟨alive _ edge.1, alive _ edge.2.1, edge.2.2⟩
  refine ⟨⟨fun other living => shared.created other (alive other living),
    shared.acyclic.narrow old⟩, shared.known, ?_, ?_⟩
  · exact fun first second child one two =>
      shared.parents first second child (old _ _ one) (old _ _ two)
  · exact fun parent child edge => shared.gates parent child (old _ _ edge)

theorem linked (shared : Shared controls) (linkable : controls.Linkable (.linkChild parent child)) :
    Shared (controls.linked parent child) := by
  obtain ⟨living, alive, alone, apart⟩ := linkable
  have inside : ∀ other, other ∈ controls.below child →
      (controls.linked parent child).gate other = controls.gate parent :=
    fun other member => adopt_gate_mem member
  have outside : ∀ other, other ∉ controls.below child →
      (controls.linked parent child).gate other = controls.gate other :=
    fun other absent => adopt_gate_not_mem absent
  refine ⟨⟨shared.created, shared.acyclic.insert apart fun _ _ => linked_edge⟩, ?_, ?_, ?_⟩
  · intro source target listed
    by_cases same : source = parent
    · subst same
      simp only [FrameControls.linked, emplaceBack, adopt, eraseExpired, Function.update_self,
        List.mem_append, List.mem_filter, List.mem_singleton] at listed
      rcases listed with ⟨listed, _⟩ | rfl
      · exact shared.known source target listed
      · exact shared.created target alive
    · simp only [FrameControls.linked, emplaceBack, adopt, eraseExpired,
        Function.update_of_ne same] at listed
      exact shared.known source target listed
  · intro first second target one two
    rcases linked_edge one with old | ⟨rfl, rfl⟩
    · rcases linked_edge two with older | ⟨rfl, rfl⟩
      · exact shared.parents first second target old older
      · exact alone first old
    · rcases linked_edge two with old | ⟨rfl, _⟩
      · exact (alone second old).symm
      · rfl
  · intro source target edge
    rcases linked_edge edge with old | ⟨rfl, same⟩
    · by_cases under : source ∈ controls.below child
      · rw [inside source under, inside target (under.tail old)]
      · rw [outside source under]
        by_cases adopted : target ∈ controls.below child
        · -- only the child itself has its parent outside
          rcases ReflTransGen.cases_tail adopted with same | ⟨middle, path, last⟩
          · subst same
            rw [inside target .refl, alone source old]
          · rw [shared.parents middle source target last old] at path
            exact absurd path under
        · rw [outside target adopted]
          exact shared.gates source target old
    · subst same
      rw [inside target .refl, outside source apart]

/-- The controls of a tree share its gate. -/
theorem tree (shared : Shared controls) {first second : Control}
    (together : EqvGen controls.Edge first second) : controls.gate first = controls.gate second := by
  induction together with
  | rel parent child edge => exact (shared.gates parent child edge).symm
  | refl => rfl
  | symm _ _ _ ih => exact ih.symm
  | trans _ _ _ _ _ first second => exact first.trans second

end Shared

/-- `adoptGate` returns from every living control. -/
theorem adoptGate_total (shared : Shared controls) (adoptedGate : Gate)
    (living : controls.alive control = true) :
    ∃ adopted, ∀ fuel, controls.created ≤ fuel →
      adoptGate adoptedGate fuel control controls = some adopted :=
  ⟨_, fun _ enough => adoptGate_returns shared.toFinite living enough⟩

theorem step_total (shared : Shared controls) {action : Action}
    (linkable : controls.Linkable action) : ∃ next, controls.step action = some next := by
  cases action with
  | create | release control => exact ⟨_, rfl⟩
  | linkChild parent child => exact ⟨_, linkChild_eq shared.toFinite linkable.2.1⟩

end FrameControls

open FrameControls (Action Shared)

/-- The controls, and who was linked to whom so far, whatever the controls keep of it. -/
structure Chains where
  controls : FrameControls := {}
  links : List (Control × Control) := []

namespace Chains

variable {chains next : Chains} {parent child : Control} {action : Action}

def linkOf : Action → List (Control × Control)
  | .linkChild parent child => [(parent, child)]
  | _ => []

def step (chains : Chains) (action : Action) : Option Chains := do
  let controls ← chains.controls.step action
  return ⟨controls, chains.links ++ linkOf action⟩

/-- A control was linked to another one, and both are still alive. -/
def Parent (chains : Chains) (parent child : Control) : Prop :=
  chains.controls.alive parent = true ∧ chains.controls.alive child = true ∧
    (parent, child) ∈ chains.links

/-- A child is linked to at most one living parent, and never to its own descendant. -/
def Linkable (chains : Chains) : Action → Prop
  | .linkChild parent child =>
      chains.controls.alive parent = true ∧ chains.controls.alive child = true ∧
        (∀ other, chains.Parent other child → other = parent) ∧
        ¬ReflTransGen chains.Parent child parent
  | _ => True

/-- The controls keep every link between living controls. -/
structure Recorded (chains : Chains) : Prop where
  shared : Shared chains.controls
  created : ∀ parent child, (parent, child) ∈ chains.links →
    parent < chains.controls.created ∧ child < chains.controls.created
  parents : chains.Parent = chains.controls.Edge

namespace Recorded

theorem start : Recorded {} := by
  refine ⟨.start, fun _ _ listed => absurd listed List.not_mem_nil, ?_⟩
  funext parent child
  apply propext
  constructor <;> rintro ⟨_, _, listed⟩ <;> exact absurd listed List.not_mem_nil

theorem linkable (recorded : Recorded chains) (linkable : chains.Linkable action) :
    chains.controls.Linkable action := by
  cases action with
  | create | release control => trivial
  | linkChild parent child =>
      unfold Linkable at linkable
      rwa [recorded.parents] at linkable

theorem create (recorded : Recorded chains) :
    Recorded ⟨chains.controls.create, chains.links ++ linkOf .create⟩ := by
  refine ⟨recorded.shared.create, ?_, ?_⟩
  · intro parent child listed
    obtain ⟨first, second⟩ := recorded.created parent child (by simpa [linkOf] using listed)
    exact ⟨Nat.lt_succ_of_lt first, Nat.lt_succ_of_lt second⟩
  · funext parent child
    have edges := congrFun (congrFun recorded.parents parent) child
    have linked := recorded.created parent child
    have listed := recorded.shared.known parent child
    simp only [Parent, FrameControls.Edge, eq_iff_iff] at edges
    simp only [Parent, FrameControls.Edge, FrameControls.create, linkOf, List.append_nil, eq_iff_iff]
    by_cases linking : parent = chains.controls.created
    · -- nothing was linked to the new control, and it has no children yet
      subst linking
      have fresh : (chains.controls.created, child) ∉ chains.links :=
        fun member => Nat.lt_irrefl _ (linked member).1
      simp [fresh]
    · by_cases listing : child = chains.controls.created
      · subst listing
        have fresh : (parent, chains.controls.created) ∉ chains.links :=
          fun member => Nat.lt_irrefl _ (linked member).2
        have unlisted : chains.controls.created ∉ chains.controls.children parent :=
          fun member => Nat.lt_irrefl _ (listed member)
        simp [fresh, linking, unlisted]
      · simpa [linking, listing] using edges

theorem release (control : Control) (recorded : Recorded chains) :
    Recorded ⟨chains.controls.release control, chains.links ++ linkOf (.release control)⟩ := by
  refine ⟨recorded.shared.release control, ?_, ?_⟩
  · intro parent child listed
    exact recorded.created parent child (by simpa [linkOf] using listed)
  · funext parent child
    have edges := congrFun (congrFun recorded.parents parent) child
    simp only [Parent, FrameControls.Edge, eq_iff_iff] at edges
    simp only [Parent, FrameControls.Edge, FrameControls.release, linkOf, List.append_nil,
      eq_iff_iff]
    by_cases linking : parent = control
    · simp [linking]
    · by_cases listing : child = control
      · simp [listing]
      · simpa [linking, listing] using edges

theorem linkChild (recorded : Recorded chains)
    (linkable : chains.controls.Linkable (.linkChild parent child)) :
    Recorded ⟨chains.controls.linked parent child,
      chains.links ++ linkOf (.linkChild parent child)⟩ := by
  obtain ⟨living, alive, _⟩ := id linkable
  refine ⟨recorded.shared.linked linkable, ?_, ?_⟩
  · intro source target listed
    rcases List.mem_append.mp listed with earlier | new
    · exact recorded.created source target earlier
    · cases List.mem_singleton.mp new
      exact ⟨recorded.shared.created parent living, recorded.shared.created child alive⟩
  · funext source target
    have edges := congrFun (congrFun recorded.parents source) target
    simp only [eq_iff_iff] at edges ⊢
    rw [FrameControls.linked_edge_iff living alive, ← edges]
    simp only [Parent, linkOf, List.mem_append, List.mem_singleton, Prod.mk.injEq]
    constructor
    · rintro ⟨first, second, earlier | new⟩
      · exact .inl ⟨first, second, earlier⟩
      · exact .inr new
    · rintro (⟨first, second, earlier⟩ | ⟨rfl, rfl⟩)
      · exact ⟨first, second, .inl earlier⟩
      · exact ⟨living, alive, .inr ⟨rfl, rfl⟩⟩

theorem step_linkChild (recorded : Recorded chains) (living : chains.controls.alive child = true) :
    chains.step (.linkChild parent child) =
      some ⟨chains.controls.linked parent child, chains.links ++ [(parent, child)]⟩ := by
  have returned := @FrameControls.linkChild_eq _ parent child recorded.shared.toFinite living
  simp only [Chains.step, FrameControls.step, returned, linkOf]
  rfl

theorem step (recorded : Recorded chains) (permitted : chains.Linkable action)
    (stepped : chains.step action = some next) : Recorded next := by
  cases action with
  | create =>
      cases stepped
      exact recorded.create
  | linkChild parent child =>
      have linkable := recorded.linkable permitted
      cases (recorded.step_linkChild linkable.2.1).symm.trans stepped
      exact recorded.linkChild linkable
  | release control =>
      cases stepped
      exact recorded.release control

theorem of_reach (reach : Reach Chains.step Linkable {} chains) : Recorded chains :=
  reach.invariant .start fun _ _ _ recorded permitted stepped => recorded.step permitted stepped

end Recorded

/-- Every living control has the gate of the living parent that it was linked to, so a tree
has one gate, and `adoptGate` returns from every living control. -/
theorem gates_shared (reach : Reach step Linkable {} chains) :
    (∀ parent child, chains.Parent parent child →
        chains.controls.gate child = chains.controls.gate parent) ∧
      (∀ first second, EqvGen chains.Parent first second →
        chains.controls.gate first = chains.controls.gate second) ∧
      (∀ adoptedGate control, chains.controls.alive control = true →
        ∃ adopted, ∀ fuel, chains.controls.created ≤ fuel →
          FrameControls.adoptGate adoptedGate fuel control chains.controls = some adopted) ∧
      ∀ action, chains.Linkable action → ∃ next, chains.step action = some next := by
  have recorded := Recorded.of_reach reach
  rw [recorded.parents]
  refine ⟨recorded.shared.gates, fun _ _ together => recorded.shared.tree together,
    fun adoptedGate control living => FrameControls.adoptGate_total recorded.shared adoptedGate living,
    fun action permitted => ?_⟩
  obtain ⟨controls, taken⟩ := FrameControls.step_total recorded.shared (recorded.linkable permitted)
  exact ⟨⟨controls, chains.links ++ linkOf action⟩, by simp [step, taken]⟩

/-- A coroutine that already awaits another one is awaited itself. -/
theorem gates_shared_adopted :
    ∃ chains, Reach step Linkable {} chains ∧ chains.Parent 0 1 ∧ chains.Parent 1 2 ∧
      chains.controls.gate 2 = chains.controls.gate 0 := by
  let three : Chains := ⟨.create (.create (.create {})), []⟩
  have created : Reach step Linkable {} three := by
    have ran : run step {} [.create, .create, .create] = some three := rfl
    exact Reach.start.run (by simp [Linkable]) ran
  have unlinked : ∀ source target, ¬Parent three source target := by
    rintro source target ⟨_, _, listed⟩
    exact absurd listed List.not_mem_nil
  have first : Linkable three (.linkChild 1 2) := by
    refine ⟨rfl, rfl, fun other edge => absurd edge (unlinked other 2), fun path => ?_⟩
    rcases ReflTransGen.cases_head path with same | ⟨next, edge, _⟩
    · cases same
    · exact unlinked 2 next edge
  let awaiting : Chains := ⟨three.controls.linked 1 2, [(1, 2)]⟩
  have reached : Reach step Linkable {} awaiting :=
    created.step first ((Recorded.of_reach created).step_linkChild rfl)
  -- the only link leads from 1 to 2
  have only : ∀ source target, Parent awaiting source target → source = 1 ∧ target = 2 :=
    fun source target edge => Prod.mk.inj (List.mem_singleton.mp edge.2.2)
  have second : Linkable awaiting (.linkChild 0 1) := by
    refine ⟨rfl, rfl, fun other edge => ?_, fun path => ?_⟩
    · cases (only other 1 edge).2
    · rcases ReflTransGen.cases_tail path with same | ⟨middle, _, edge⟩
      · cases same
      · cases (only middle 0 edge).2
  let adopted : Chains := ⟨awaiting.controls.linked 0 1, [(1, 2), (0, 1)]⟩
  have shared : Reach step Linkable {} adopted :=
    reached.step second ((Recorded.of_reach reached).step_linkChild rfl)
  have upper : adopted.Parent 0 1 := ⟨rfl, rfl, by simp [adopted]⟩
  have lower : adopted.Parent 1 2 := ⟨rfl, rfl, by simp [adopted]⟩
  have together := EqvGen.trans 2 1 0 (.symm 1 2 (.rel 1 2 lower)) (.symm 0 1 (.rel 0 1 upper))
  exact ⟨_, shared, upper, lower, (gates_shared shared).2.1 2 0 together⟩

end Chains

end MiniTrantor.Coroutine
