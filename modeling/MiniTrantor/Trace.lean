import Mathlib

/-!
# Traces

Properties of the order of events in a trace that grows at its end.
-/

set_option autoImplicit false

namespace MiniTrantor.Trace

variable {Event : Type}

/-- A split of a longer trace at an event that is not among the new ones. -/
theorem split_append {trace events before after : List Event} {event : Event}
    (split : trace ++ events = before ++ event :: after) (old : event ∉ events) :
    ∃ middle, after = middle ++ events ∧ trace = before ++ event :: middle := by
  rcases List.append_eq_append_iff.mp split with ⟨between, front, back⟩ | ⟨between, front, back⟩
  · exact absurd (by rw [back]; simp) old
  · cases between with
    | nil =>
        rw [List.nil_append] at back
        exact absurd (by rw [← back]; exact List.mem_cons_self) old
    | cons head middle =>
        rw [List.cons_append, List.cons.injEq] at back
        obtain ⟨rfl, rfl⟩ := back
        exact ⟨middle, rfl, front⟩

/-- A split of a trace at its last event or before. -/
theorem split_snoc {trace before after : List Event} {last event : Event}
    (split : trace ++ [last] = before ++ event :: after) :
    (before = trace ∧ event = last ∧ after = []) ∨
      ∃ middle, after = middle ++ [last] ∧ trace = before ++ event :: middle := by
  rcases List.eq_nil_or_concat after with rfl | ⟨middle, final, rfl⟩
  · obtain ⟨same, ends⟩ := List.append_inj' split rfl
    cases ends
    exact .inl ⟨same.symm, rfl, rfl⟩
  · rw [List.concat_eq_append, ← List.cons_append, ← List.append_assoc] at split
    obtain ⟨same, ends⟩ := List.append_inj' split rfl
    cases ends
    exact .inr ⟨middle, List.concat_eq_append, same⟩

/-- No event of the second kind comes after one of the first. -/
def NeverAfter (first second : Event → Bool) (trace : List Event) : Prop :=
  trace.Pairwise fun earlier later => first earlier = true → second later = false

instance (first second : Event → Bool) (trace : List Event) :
    Decidable (NeverAfter first second trace) :=
  inferInstanceAs (Decidable (trace.Pairwise _))

namespace NeverAfter

variable {first second : Event → Bool} {trace events : List Event}

theorem append (kept : NeverAfter first second trace) (new : NeverAfter first second events)
    (fresh : ∀ later ∈ events, second later = true → ∀ earlier ∈ trace, first earlier = false) :
    NeverAfter first second (trace ++ events) := by
  refine List.pairwise_append.mpr ⟨kept, new, fun earlier early later late began => ?_⟩
  by_contra ended
  have never := fresh later late (by simpa using ended) earlier early
  rw [began] at never
  cases never

theorem of_append (kept : NeverAfter first second (trace ++ events)) :
    NeverAfter first second trace :=
  (List.pairwise_append.mp kept).1

theorem silent (none : ∀ event ∈ events, second event = false) : NeverAfter first second events :=
  List.pairwise_of_forall_mem_list fun _ _ later late _ => none later late

theorem last {event later : Event} (kept : NeverAfter first second (trace ++ [later]))
    (member : event ∈ trace) (began : first event = true) : second later = false :=
  (List.pairwise_append.mp kept).2.2 event member later List.mem_cons_self began

end NeverAfter

/-- Every event of the second kind comes after one of the first. -/
def Follows (first second : Event → Bool) (trace : List Event) : Prop :=
  ∀ before event after, trace = before ++ event :: after → second event = true →
    ∃ earlier ∈ before, first earlier = true

namespace Follows

variable {first second : Event → Bool} {trace events : List Event}

theorem append (kept : Follows first second trace)
    (begun : ∀ event ∈ events, second event = true → ∃ earlier ∈ trace, first earlier = true) :
    Follows first second (trace ++ events) := by
  intro before event after split second
  rcases List.append_eq_append_iff.mp split with ⟨between, front, back⟩ | ⟨between, front, back⟩
  · obtain ⟨earlier, member, began⟩ := begun event (by rw [back]; simp) second
    exact ⟨earlier, by rw [front]; exact List.mem_append_left _ member, began⟩
  · cases between with
    | nil =>
        rw [List.nil_append] at back
        obtain ⟨earlier, member, began⟩ := begun event (by rw [← back]; simp) second
        exact ⟨earlier, by simpa [front] using member, began⟩
    | cons head middle =>
        rw [List.cons_append, List.cons.injEq] at back
        obtain ⟨rfl, _⟩ := back
        exact kept before event middle front second

theorem of_none (none : ∀ event ∈ trace, second event = false) : Follows first second trace := by
  intro before event after split follows
  rw [none event (by simp [split])] at follows
  cases follows

theorem silent (kept : Follows first second trace) (none : ∀ event ∈ events, second event = false) :
    Follows first second (trace ++ events) := by
  refine kept.append fun event member begun => ?_
  rw [none event member] at begun
  cases begun

end Follows

/-- Every event of the first kind comes before one of the second. -/
def Answered (first second : Event → Bool) (trace : List Event) : Prop :=
  ∀ before event after, trace = before ++ event :: after → first event = true →
    ∃ later ∈ after, second later = true

namespace Answered

variable {first second : Event → Bool} {trace events : List Event}

theorem of_none (none : ∀ event ∈ trace, first event = false) : Answered first second trace := by
  intro before event after split asked
  rw [none event (by simp [split])] at asked
  cases asked

/-- One answer is enough for all that came before. -/
theorem answer {event : Event} (answering : second event = true)
    (none : ∀ other ∈ event :: events, first other = false) :
    Answered first second (trace ++ event :: events) := by
  intro before asked after split asks
  have old : asked ∉ event :: events := fun member => by
    rw [none asked member] at asks
    cases asks
  obtain ⟨middle, rfl, _⟩ := split_append split old
  exact ⟨event, List.mem_append_right _ List.mem_cons_self, answering⟩

theorem append (kept : Answered first second trace) (new : Answered first second events) :
    Answered first second (trace ++ events) := by
  intro before event after split asks
  rcases List.append_eq_append_iff.mp split with ⟨between, front, back⟩ | ⟨between, front, back⟩
  · exact new between event after back asks
  · cases between with
    | nil =>
        rw [List.nil_append] at back
        exact new [] event after back.symm asks
    | cons head middle =>
        rw [List.cons_append, List.cons.injEq] at back
        obtain ⟨rfl, rfl⟩ := back
        obtain ⟨later, member, answers⟩ := kept before event middle front asks
        exact ⟨later, List.mem_append_left _ member, answers⟩

end Answered

section Gate

variable {opens shuts output : Event → Bool} {trace events : List Event}

/-- Whether the last event that opens or shuts a gate shut it. -/
def shut (opens shuts : Event → Bool) (trace : List Event) : Bool :=
  trace.foldl (fun closed event => if shuts event then true else closed && !opens event) false

/-- No event of the last kind comes while the gate is shut. -/
def Gated (opens shuts output : Event → Bool) (trace : List Event) : Prop :=
  ∀ before event after, trace = before ++ event :: after → output event = true →
    shut opens shuts before = false

theorem shut_snoc (trace : List Event) (event : Event) :
    shut opens shuts (trace ++ [event]) =
      if shuts event then true else shut opens shuts trace && !opens event := by
  rw [shut, List.foldl_append]
  rfl

/-- Events that neither open nor shut the gate leave it as it is. -/
theorem shut_append (idle : ∀ event ∈ events, opens event = false ∧ shuts event = false) :
    shut opens shuts (trace ++ events) = shut opens shuts trace := by
  induction events using List.reverseRecOn with
  | nil => rw [List.append_nil]
  | append_singleton events last ih =>
      obtain ⟨closed, still⟩ := idle last (by simp)
      rw [← List.append_assoc, shut_snoc, still, closed, ih fun event member => idle event (by simp [member])]
      simp

theorem shut_of_not_opened {before middle : List Event} {event : Event} (shutting : shuts event = true)
    (still : ∀ other ∈ middle, opens other = false) :
    shut opens shuts (before ++ event :: middle) = true := by
  induction middle using List.reverseRecOn with
  | nil => rw [shut_snoc, if_pos shutting]
  | append_singleton middle last ih =>
      rw [← List.cons_append, ← List.append_assoc, shut_snoc,
        ih fun other member => still other (by simp [member]), still last (by simp)]
      simp

namespace Gated

theorem snoc (gated : Gated opens shuts output trace) {event : Event}
    (fresh : output event = true → shut opens shuts trace = false) :
    Gated opens shuts output (trace ++ [event]) := by
  intro before other after split told
  rcases split_snoc split with ⟨rfl, rfl, _⟩ | ⟨middle, _, old⟩
  · exact fresh told
  · exact gated before other middle old told

/-- New events of a kind that leaves the gate alone. -/
theorem append (gated : Gated opens shuts output trace)
    (idle : ∀ event ∈ events, opens event = false ∧ shuts event = false)
    (fresh : ∀ event ∈ events, output event = true → shut opens shuts trace = false) :
    Gated opens shuts output (trace ++ events) := by
  induction events using List.reverseRecOn with
  | nil => rwa [List.append_nil]
  | append_singleton events last ih =>
      have older : ∀ event ∈ events, opens event = false ∧ shuts event = false :=
        fun event member => idle event (by simp [member])
      rw [← List.append_assoc]
      refine (ih older fun event member => fresh event (by simp [member])).snoc fun told => ?_
      rw [shut_append older]
      exact fresh last (by simp) told

/-- Between an event that shuts the gate and a later one of the last kind it was opened. -/
theorem opened (gated : Gated opens shuts output trace) {before middle after : List Event}
    {event told : Event} (split : trace = before ++ event :: (middle ++ told :: after))
    (shutting : shuts event = true) (telling : output told = true) :
    ∃ other ∈ middle, opens other = true := by
  by_contra never
  have still : ∀ other ∈ middle, opens other = false := by
    intro other member
    by_contra opening
    exact never ⟨other, member, by simpa using opening⟩
  have ajar := gated (before ++ event :: middle) told after (by simp [split]) telling
  rw [shut_of_not_opened shutting still] at ajar
  cases ajar

end Gated

end Gate

end MiniTrantor.Trace
