import Mathlib

/-!
# Graphs without cycles

A graph stays free of cycles when an edge is added whose target does not lead to its
source. A path in such a graph visits no node twice, so the number of nodes bounds the
depth of a traversal.
-/

set_option autoImplicit false

namespace MiniTrantor

open Relation (ReflTransGen TransGen EqvGen)

variable {Node : Type} {edge wider : Node → Node → Prop} {source target node next : Node}

def Acyclic (edge : Node → Node → Prop) : Prop := ∀ node, ¬TransGen edge node node

namespace Acyclic

theorem of_none (none : ∀ source target, ¬edge source target) : Acyclic edge := by
  intro node cycle
  obtain ⟨next, first, _⟩ := TransGen.head'_iff.mp cycle
  exact none node next first

theorem narrow (acyclic : Acyclic wider) (old : ∀ source target, edge source target →
    wider source target) : Acyclic edge :=
  fun node cycle => acyclic node (TransGen.mono old node node cycle)

/-- A path that was not there before leads through the new edge. -/
theorem path_insert {first last : Node}
    (added : ∀ first last, wider first last → edge first last ∨ first = source ∧ last = target)
    (path : TransGen wider first last) :
    TransGen edge first last ∨ ReflTransGen edge first source ∧ ReflTransGen wider target last := by
  induction path with
  | single step =>
      rcases added _ _ step with old | ⟨rfl, rfl⟩
      · exact .inl (.single old)
      · exact .inr ⟨.refl, .refl⟩
  | tail path step ih =>
      rcases ih with old | ⟨reached, later⟩
      · rcases added _ _ step with further | ⟨rfl, rfl⟩
        · exact .inl (old.tail further)
        · exact .inr ⟨old.to_reflTransGen, .refl⟩
      · exact .inr ⟨reached, later.tail step⟩

theorem insert (acyclic : Acyclic edge) (apart : ¬ReflTransGen edge target source)
    (added : ∀ first last, wider first last → edge first last ∨ first = source ∧ last = target) :
    Acyclic wider := by
  -- what the target leads to it led to before, since the source is not among it
  have behind : ∀ last, ReflTransGen wider target last → ReflTransGen edge target last := by
    intro last path
    induction path with
    | refl => exact .refl
    | tail _ step ih =>
        rcases added _ _ step with old | ⟨rfl, _⟩
        · exact ih.tail old
        · exact absurd ih apart
  intro node cycle
  rcases path_insert added cycle with old | ⟨reached, later⟩
  · exact acyclic node old
  · exact apart ((behind node later).trans reached)

end Acyclic

/-- Where each node has one parent, what is connected has a common ancestor. -/
theorem ancestor_of_connected {first second : Node}
    (parents : ∀ first second child, edge first child → edge second child → first = second)
    (connected : EqvGen edge first second) :
    ∃ root, ReflTransGen edge root first ∧ ReflTransGen edge root second := by
  induction connected with
  | rel first second step => exact ⟨first, .refl, .single step⟩
  | refl node => exact ⟨node, .refl, .refl⟩
  | symm first second _ ih =>
      obtain ⟨root, left, right⟩ := ih
      exact ⟨root, right, left⟩
  | trans first middle last _ _ left right =>
      obtain ⟨one, one_first, one_middle⟩ := left
      obtain ⟨two, two_middle, two_last⟩ := right
      have unique : Relator.RightUnique (Function.swap edge) := fun child _ _ => parents _ _ child
      obtain above | above := ReflTransGen.total_of_right_unique unique one_middle.swap
        two_middle.swap
      · exact ⟨two, above.swap.trans one_first, two_last⟩
      · exact ⟨one, one_first, above.swap.trans two_last⟩

/-- Distinct nodes that all lead to the one at which a traversal has arrived. -/
structure Trail (edge : Node → Node → Prop) (trail : List Node) (node : Node) : Prop where
  distinct : trail.Nodup
  leads : ∀ earlier ∈ trail, TransGen edge earlier node

namespace Trail

variable {trail : List Node}

theorem start (edge : Node → Node → Prop) (node : Node) : Trail edge [] node :=
  ⟨List.nodup_nil, fun _ member => absurd member List.not_mem_nil⟩

theorem nodup (walked : Trail edge trail node) (acyclic : Acyclic edge) : (node :: trail).Nodup :=
  List.nodup_cons.mpr ⟨fun again => acyclic node (walked.leads node again), walked.distinct⟩

theorem step (walked : Trail edge trail node) (acyclic : Acyclic edge) (step : edge node next) :
    Trail edge (node :: trail) next := by
  refine ⟨walked.nodup acyclic, fun earlier member => ?_⟩
  rcases List.mem_cons.mp member with rfl | before
  · exact .single step
  · exact (walked.leads earlier before).tail step

end Trail

theorem Acyclic.reverse (acyclic : Acyclic edge) : Acyclic fun source target => edge target source :=
  fun node cycle => acyclic node (Relation.transGen_swap.mp cycle)

/-- Distinct numbers below a bound are no more than the bound. -/
theorem length_le_of_nodup {trail : List Nat} {bound : Nat} (distinct : trail.Nodup)
    (below : ∀ node ∈ trail, node < bound) : trail.length ≤ bound := by
  have included : trail ⊆ List.range bound := fun node member =>
    List.mem_range.mpr (below node member)
  have counted := (distinct.subperm included).length_le
  rwa [List.length_range] at counted

/-- A path between finitely many nodes ends. -/
theorem Trail.ends {edge : Nat → Nat → Prop} {trail : List Nat} {node bound : Nat}
    (walked : Trail edge trail node) (acyclic : Acyclic edge)
    (bounded : ∀ source target, edge source target → source < bound) {fuel : Nat}
    (enough : bound ≤ fuel + trail.length) :
    ∃ last, ReflTransGen edge node last ∧ ∀ next, ¬edge last next := by
  induction fuel generalizing trail node with
  | zero =>
      refine ⟨node, .refl, fun next step => ?_⟩
      have below : ∀ other ∈ node :: trail, other < bound := by
        intro other member
        rcases List.mem_cons.mp member with rfl | before
        · exact bounded other next step
        · obtain ⟨_, first, _⟩ := TransGen.head'_iff.mp (walked.leads other before)
          exact bounded other _ first
      have short := length_le_of_nodup (walked.nodup acyclic) below
      rw [List.length_cons] at short
      omega
  | succ fuel ih =>
      by_cases further : ∃ next, edge node next
      · obtain ⟨next, step⟩ := further
        have less : bound ≤ fuel + (node :: trail).length := by
          rw [List.length_cons]
          omega
        obtain ⟨last, path, none⟩ := ih (walked.step acyclic step) less
        exact ⟨last, path.head step, none⟩
      · exact ⟨node, .refl, fun next step => further ⟨next, step⟩⟩

theorem Acyclic.ends {edge : Nat → Nat → Prop} {bound : Nat} (acyclic : Acyclic edge)
    (bounded : ∀ source target, edge source target → source < bound) (node : Nat) :
    ∃ last, ReflTransGen edge node last ∧ ∀ next, ¬edge last next :=
  (Trail.start edge node).ends acyclic bounded (Nat.le_add_right bound 0)

end MiniTrantor
