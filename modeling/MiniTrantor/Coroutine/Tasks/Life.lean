import MiniTrantor.Coroutine.Tasks.Task

/-!
# The life of a coroutine

What a coroutine is for, without threads, gates and owners: it is started and ends once, what
it has returned goes to one parent, which goes on when it has ended, and then it is destroyed.
-/

set_option autoImplicit false

namespace MiniTrantor.Coroutine.Tasks

variable {Value Failure : Type}

inductive Life (Value Failure : Type) where
  | created
  | started
  | ended (result : Except Failure Value)
  /-- The parent goes on, and is about to receive the result. -/
  | continued (parent : FrameId) (result : Except Failure Value)
  | received
  | destroyed

/-- The coroutine whose life an event belongs to. -/
def Event.subject : Event Value Failure → Option FrameId
  | .started frame | .finished frame _ | .continued _ frame | .received _ frame _
  | .read _ frame _ | .destroyed frame => some frame
  | .refused _ => none

/-- A coroutine can be destroyed, unless its parent is about to receive the result. -/
def Life.Destructible : Life Value Failure → Prop
  | .continued .. | .destroyed => False
  | _ => True

inductive Life.Step (frame : FrameId) :
    Life Value Failure → Event Value Failure → Life Value Failure → Prop where
  | start : Step frame .created (.started frame) .started
  | finish {result : Except Failure Value} :
      Step frame .started (.finished frame result) (.ended result)
  | continue_ {parent : FrameId} {result : Except Failure Value} :
      Step frame (.ended result) (.continued parent frame) (.continued parent result)
  /-- Whoever awaits a coroutine that has ended does not wait. -/
  | receive {parent : FrameId} {result : Except Failure Value} :
      Step frame (.ended result) (.received parent frame (some result)) .received
  | resume {parent : FrameId} {result : Except Failure Value} :
      Step frame (.continued parent result) (.received parent frame (some result)) .received
  | read {thread : Thread} {result : Except Failure Value} :
      Step frame (.ended result) (.read thread frame (some result)) (.ended result)
  | destroy {life : Life Value Failure} : life.Destructible →
      Step frame life (.destroyed frame) .destroyed

/-- What becomes of a coroutine in the course of a trace. -/
inductive Leads (frame : FrameId) (first : Life Value Failure) :
    List (Event Value Failure) → Life Value Failure → Prop where
  | refl : Leads frame first [] first
  | elsewhere {trace : List (Event Value Failure)} {life : Life Value Failure}
      {event : Event Value Failure} : Leads frame first trace life →
        event.subject ≠ some frame → Leads frame first (trace ++ [event]) life
  | here {trace : List (Event Value Failure)} {life later : Life Value Failure}
      {event : Event Value Failure} : Leads frame first trace life →
        life.Step frame event later → Leads frame first (trace ++ [event]) later

namespace Leads

variable {frame : FrameId} {trace before after : List (Event Value Failure)}
  {first life later : Life Value Failure} {event : Event Value Failure}

theorem others {events : List (Event Value Failure)} (leads : Leads frame first trace life)
    (unrelated : ∀ event ∈ events, event.subject ≠ some frame) :
    Leads frame first (trace ++ events) life := by
  induction events using List.reverseRecOn with
  | nil => rwa [List.append_nil]
  | append_singleton events event ih =>
      rw [← List.append_assoc]
      apply (ih fun one listed => unrelated one (List.mem_append_left _ listed)).elsewhere
      exact unrelated event (List.mem_append_right _ (List.mem_singleton_self _))

theorem snoc (leads : Leads frame first (trace ++ [event]) later) :
    event.subject ≠ some frame ∧ Leads frame first trace later ∨
      ∃ life, Leads frame first trace life ∧ life.Step frame event later := by
  generalize same : trace ++ [event] = whole at leads
  cases leads with
  | refl => simp at same
  | elsewhere leads other =>
      obtain ⟨rfl, last⟩ := List.append_inj' same rfl
      cases last
      exact .inl ⟨other, leads⟩
  | here leads step =>
      obtain ⟨rfl, last⟩ := List.append_inj' same rfl
      cases last
      exact .inr ⟨_, leads, step⟩

theorem split (leads : Leads frame first (before ++ after) later) :
    ∃ life, Leads frame first before life ∧ Leads frame life after later := by
  induction after using List.reverseRecOn generalizing later with
  | nil => exact ⟨later, by rwa [List.append_nil] at leads, .refl⟩
  | append_singleton after event ih =>
      rw [← List.append_assoc] at leads
      obtain ⟨other, leads⟩ | ⟨last, leads, step⟩ := leads.snoc
      · obtain ⟨life, earlier, rest⟩ := ih leads
        exact ⟨life, earlier, rest.elsewhere other⟩
      · obtain ⟨life, earlier, rest⟩ := ih leads
        exact ⟨life, earlier, rest.here step⟩

/-- What an event of the coroutine changes, and what is before and after it. -/
theorem around (leads : Leads frame first (before ++ event :: after) later)
    (subject : event.subject = some frame) :
    ∃ life next, Leads frame first before life ∧ life.Step frame event next ∧
      Leads frame next after later := by
  rw [← List.singleton_append, ← List.append_assoc] at leads
  obtain ⟨next, leads, rest⟩ := leads.split
  obtain ⟨other, _⟩ | ⟨life, earlier, step⟩ := leads.snoc
  · exact absurd subject other
  · exact ⟨life, next, earlier, step, rest⟩

/-- After the result was received, a coroutine is only destroyed. -/
theorem only_destroyed (leads : Leads frame first trace later)
    (ended : first = .received ∨ first = .destroyed) :
    (later = first ∨ later = .destroyed) ∧ ∀ event ∈ trace, event.subject = some frame →
      first = .received ∧ event = .destroyed frame := by
  induction leads with
  | refl => exact ⟨.inl rfl, fun _ none => absurd none List.not_mem_nil⟩
  | elsewhere _ other ih =>
      refine ⟨ih.1, fun event listed subject => ?_⟩
      obtain listed | listed := List.mem_append.mp listed
      · exact ih.2 event listed subject
      · rw [List.mem_singleton.mp listed] at subject
        exact absurd subject other
  | @here trace life later event _ step ih =>
      have waits : first = .received ∧ event = .destroyed frame ∧ later = .destroyed := by
        have still : life = .received ∧ first = .received ∨ life = .destroyed := by
          obtain same | gone := ih.1
          · obtain waits | gone := ended
            · exact .inl ⟨same.trans waits, waits⟩
            · exact .inr (same.trans gone)
          · exact .inr gone
        obtain ⟨rfl, waits⟩ | rfl := still
        · cases step
          exact ⟨waits, rfl, rfl⟩
        · cases step with
          | destroy none => cases none
      obtain ⟨waits, rfl, rfl⟩ := waits
      refine ⟨.inr rfl, fun event listed subject => ?_⟩
      obtain listed | listed := List.mem_append.mp listed
      · exact ih.2 event listed subject
      · exact ⟨waits, List.mem_singleton.mp listed⟩

/-- The result of a coroutine is what its body has returned. -/
theorem returned (leads : Leads frame .created trace later) {result : Except Failure Value}
    (ended : later = .ended result ∨ ∃ parent, later = .continued parent result) :
    .finished frame result ∈ trace := by
  induction leads with
  | refl =>
      obtain same | ⟨parent, same⟩ := ended <;> cases same
  | elsewhere _ _ ih => exact List.mem_append_left _ (ih ended)
  | here _ step ih =>
      cases step with
      | start | receive | resume | destroy =>
          obtain same | ⟨parent, same⟩ := ended <;> cases same
      | finish =>
          obtain same | ⟨parent, same⟩ := ended
          · cases same
            exact List.mem_append_right _ (List.mem_singleton_self _)
          · cases same
      | continue_ =>
          obtain same | ⟨parent, same⟩ := ended
          · cases same
          · cases same
            exact List.mem_append_left _ (ih (.inl rfl))
      | read =>
          obtain same | ⟨parent, same⟩ := ended
          · cases same
            exact List.mem_append_left _ (ih (.inl rfl))
          · cases same

end Leads

end MiniTrantor.Coroutine.Tasks
