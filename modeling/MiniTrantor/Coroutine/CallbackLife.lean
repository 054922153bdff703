import MiniTrantor.Coroutine.CancellationToken

/-!
# The life of a callback

What a trace says about one callback: it waits in the map until it is withdrawn or claimed by
`cancel`, or it is due at once. Either way it runs once. A trace also says how far the one
`cancel` is that claims the callbacks.
-/

set_option autoImplicit false

namespace MiniTrantor.Coroutine.Cancellation

variable {Failure : Type} {call id : Nat} {thread : Thread} {trace before after : List (Event Failure)}
  {event : Event Failure}

inductive Phase where
  | absent
  | entering (thread : Thread)
  | stored (id : Nat)
  | withdrawn (id : Nat)
  | claimed (thread : Thread)
  | due (thread : Thread)
  | running (thread : Thread) (ofCancel : Bool)
  | ended (ofCancel : Bool)
  /-- An event came out of turn. -/
  | broken
  deriving DecidableEq, Repr

namespace Phase

/-- The thread that is busy with the callback. -/
def holder : Phase → Option Thread
  | .entering thread | .claimed thread | .due thread | .running thread _ => some thread
  | _ => none

def invocations : Phase → Nat
  | .running .. | .ended _ => 1
  | _ => 0

def invoke (thread : Thread) : Phase → Phase
  | .due other => if other = thread then .running thread false else .broken
  | .claimed other => if other = thread then .running thread true else .broken
  | _ => .broken

def finish (thread : Thread) : Phase → Phase
  | .running other ofCancel => if other = thread then .ended ofCancel else .broken
  | _ => .broken

def claim (thread : Thread) : Phase → Phase
  | .stored _ => .claimed thread
  | phase => phase

def next (call : Nat) (phase : Phase) : Event Failure → Phase
  | .called thread other =>
      if other = call then (if phase = .absent then .entering thread else .broken) else phase
  | .registered thread other id =>
      if other = call then (if phase = .entering thread then .stored id else .broken) else phase
  | .refused thread other =>
      if other = call then (if phase = .entering thread then .due thread else .broken) else phase
  | .extracted _ id => if phase = .stored id then .withdrawn id else phase
  | .swapped thread => phase.claim thread
  | .invoked thread other => if other = call then phase.invoke thread else phase
  | .returned thread other | .threw thread other _ =>
      if other = call then phase.finish thread else phase
  | .cancelled _ | .completed .. => phase

end Phase

def phase (call : Nat) (trace : List (Event Failure)) : Phase :=
  trace.foldl (Phase.next call) .absent

theorem phase_snoc (call : Nat) (trace : List (Event Failure)) (event : Event Failure) :
    phase call (trace ++ [event]) = (phase call trace).next call event := by
  rw [phase, List.foldl_append]
  rfl

/-- The `cancel` that found `cancelled` unset. -/
inductive Stage where
  | idle
  | swapping (thread : Thread)
  | notifying (thread : Thread)
  | done
  | broken
  deriving DecidableEq, Repr

def Stage.next (stage : Stage) : Event Failure → Stage
  | .cancelled thread => if stage = .idle then .swapping thread else .broken
  | .swapped thread => if stage = .swapping thread then .notifying thread else .broken
  | .completed thread _ => if stage = .notifying thread then .done else .broken
  | _ => stage

def stage (trace : List (Event Failure)) : Stage := trace.foldl Stage.next .idle

theorem stage_snoc (trace : List (Event Failure)) (event : Event Failure) :
    stage (trace ++ [event]) = (stage trace).next event := by
  rw [stage, List.foldl_append]
  rfl

/-! ## What a phase says about the trace -/

def Event.invokes (call : Nat) : Event Failure → Bool
  | .invoked _ other => other = call
  | _ => false

/-- The event is about the callback and no other. -/
def Event.concerns (call : Nat) : Event Failure → Bool
  | .called _ other | .registered _ other _ | .refused _ other | .invoked _ other
  | .returned _ other | .threw _ other _ => other = call
  | _ => false

def Event.registers (call : Nat) : Event Failure → Bool
  | .registered _ other _ => other = call
  | _ => false

theorem Event.invokes_of_not_concerns (quiet : event.concerns call = false) :
    event.invokes call = false := by
  cases event with
  | invoked => exact quiet
  | _ => rfl

theorem Event.registers_of_not_concerns (quiet : event.concerns call = false) :
    event.registers call = false := by
  cases event with
  | registered => exact quiet
  | _ => rfl

/-- The callback is one that was in the map. -/
def accepted (call : Nat) (trace : List (Event Failure)) : Bool :=
  trace.any (Event.registers call)

def invocations (call : Nat) (trace : List (Event Failure)) : Nat :=
  trace.countP (Event.invokes call)

/-- No event came out of turn. -/
structure Lawful (trace : List (Event Failure)) : Prop where
  phases : ∀ call, phase call trace ≠ .broken
  stages : stage trace ≠ .broken

theorem Phase.next_broken (call : Nat) (event : Event Failure) :
    Phase.broken.next call event = .broken := by
  cases event <;> simp [next, claim, invoke, finish]

theorem Stage.next_broken (event : Event Failure) : Stage.broken.next event = .broken := by
  cases event <;> simp [next]

namespace Lawful

theorem init (lawful : Lawful (trace ++ [event])) : Lawful trace := by
  refine ⟨fun call broken => lawful.phases call ?_, fun broken => lawful.stages ?_⟩
  · rw [phase_snoc, broken, Phase.next_broken]
  · rw [stage_snoc, broken, Stage.next_broken]

theorem of_append (lawful : Lawful (before ++ after)) : Lawful before := by
  induction after using List.reverseRecOn with
  | nil => rwa [List.append_nil] at lawful
  | append_singleton after last ih =>
      rw [← List.append_assoc] at lawful
      exact ih lawful.init

end Lawful

/-- Whether the callback was in the map. -/
def Phase.accepted : Phase → Bool
  | .stored _ | .withdrawn _ | .claimed _ | .running _ true | .ended true => true
  | _ => false

/-- The events that a callback can meet in a phase. -/
inductive Turn (call : Nat) : Phase → Event Failure → Phase → Prop where
  | called (thread : Thread) : Turn call .absent (.called thread call) (.entering thread)
  | registered (thread : Thread) (id : Nat) :
      Turn call (.entering thread) (.registered thread call id) (.stored id)
  | refused (thread : Thread) : Turn call (.entering thread) (.refused thread call) (.due thread)
  | extracted (thread : Thread) (id : Nat) :
      Turn call (.stored id) (.extracted thread id) (.withdrawn id)
  | claimed (thread : Thread) (id : Nat) : Turn call (.stored id) (.swapped thread) (.claimed thread)
  | invoked (thread : Thread) : Turn call (.due thread) (.invoked thread call) (.running thread false)
  | notified (thread : Thread) :
      Turn call (.claimed thread) (.invoked thread call) (.running thread true)
  | returned (thread : Thread) (ofCancel : Bool) :
      Turn call (.running thread ofCancel) (.returned thread call) (.ended ofCancel)
  | threw (thread : Thread) (failure : Failure) (ofCancel : Bool) :
      Turn call (.running thread ofCancel) (.threw thread call failure) (.ended ofCancel)
  | other {phase : Phase} {event : Event Failure} : event.concerns call = false → (∀ id, phase = .stored id → ∀ thread, event ≠ .swapped thread ∧
        event ≠ .extracted thread id) → Turn call phase event phase

namespace Phase

variable {before : Phase}

theorem turn (legal : before.next call event ≠ .broken) :
    Turn call before event (before.next call event) := by
  cases event with
  | called thread other =>
      by_cases same : other = call
      · subst same
        by_cases absent : before = .absent
        · subst absent
          simpa [next] using Turn.called thread
        · simp [next, absent] at legal
      · simpa [next, same] using Turn.other (by simpa [Event.concerns] using same) (by simp)
  | registered thread other id =>
      by_cases same : other = call
      · subst same
        by_cases entering : before = .entering thread
        · subst entering
          simpa [next] using Turn.registered thread id
        · simp [next, entering] at legal
      · simpa [next, same] using Turn.other (by simpa [Event.concerns] using same) (by simp)
  | refused thread other =>
      by_cases same : other = call
      · subst same
        by_cases entering : before = .entering thread
        · subst entering
          simpa [next] using Turn.refused thread
        · simp [next, entering] at legal
      · simpa [next, same] using Turn.other (by simpa [Event.concerns] using same) (by simp)
  | extracted thread id =>
      by_cases stored : before = .stored id
      · subst stored
        simpa [next] using Turn.extracted thread id
      · simpa [next, stored] using Turn.other (by simp [Event.concerns])
          (by
            rintro other rfl thread'
            simpa using fun _ (same : id = other) => stored (by rw [same]))
  | cancelled thread | completed thread failure =>
      exact Turn.other rfl (by simp)
  | swapped thread =>
      cases before with
      | stored id => exact Turn.claimed thread id
      | _ => exact Turn.other rfl (by simp)
  | invoked thread other =>
      by_cases same : other = call
      · subst same
        cases before with
        | due holder =>
            by_cases mine : holder = thread
            · subst mine
              simpa [next, invoke] using Turn.invoked holder
            · simp [next, invoke, mine] at legal
        | claimed holder =>
            by_cases mine : holder = thread
            · subst mine
              simpa [next, invoke] using Turn.notified holder
            · simp [next, invoke, mine] at legal
        | _ => simp [next, invoke] at legal
      · simpa [next, same] using Turn.other (by simpa [Event.concerns] using same) (by simp)
  | returned thread other =>
      by_cases same : other = call
      · subst same
        cases before with
        | running holder ofCancel =>
            by_cases mine : holder = thread
            · subst mine
              simpa [next, finish] using Turn.returned holder ofCancel
            · simp [next, finish, mine] at legal
        | _ => simp [next, finish] at legal
      · simpa [next, same] using Turn.other (by simpa [Event.concerns] using same) (by simp)
  | threw thread other failure =>
      by_cases same : other = call
      · subst same
        cases before with
        | running holder ofCancel =>
            by_cases mine : holder = thread
            · subst mine
              simpa [next, finish] using Turn.threw holder failure ofCancel
            · simp [next, finish, mine] at legal
        | _ => simp [next, finish] at legal
      · simpa [next, same] using Turn.other (by simpa [Event.concerns] using same) (by simp)

end Phase

theorem phase_init (legal : phase call (trace ++ [event]) ≠ .broken) :
    phase call trace ≠ .broken ∧ Turn call (phase call trace) event (phase call (trace ++ [event])) := by
  rw [phase_snoc] at legal ⊢
  refine ⟨fun broken => legal ?_, Phase.turn legal⟩
  rw [broken, Phase.next_broken]

/-- A callback is invoked no more often than its phase says. -/
theorem invocations_eq (legal : phase call trace ≠ .broken) :
    invocations call trace = (phase call trace).invocations := by
  induction trace using List.reverseRecOn with
  | nil => rfl
  | append_singleton trace event ih =>
      obtain ⟨legal, turn⟩ := phase_init legal
      have counted : invocations call (trace ++ [event]) =
          invocations call trace + if event.invokes call then 1 else 0 := by
        rw [invocations, List.countP_append, List.countP_singleton]
        rfl
      rw [counted, ih legal]
      generalize phase call trace = first at turn ⊢
      generalize phase call (trace ++ [event]) = second at turn ⊢
      cases turn with
      | other quiet => simp [Event.invokes_of_not_concerns quiet]
      | _ => simp [Event.invokes, Phase.invocations]

theorem accepted_eq (legal : phase call trace ≠ .broken) :
    accepted call trace = (phase call trace).accepted := by
  induction trace using List.reverseRecOn with
  | nil => rfl
  | append_singleton trace event ih =>
      obtain ⟨legal, turn⟩ := phase_init legal
      have extended : accepted call (trace ++ [event]) =
          (accepted call trace || event.registers call) := by
        simp [accepted]
      rw [extended, ih legal]
      generalize phase call trace = first at turn ⊢
      generalize phase call (trace ++ [event]) = second at turn ⊢
      cases turn with
      | other quiet => simp [Event.registers_of_not_concerns quiet]
      | returned thread ofCancel => cases ofCancel <;> simp [Event.registers, Phase.accepted]
      | threw thread failure ofCancel => cases ofCancel <;> simp [Event.registers, Phase.accepted]
      | _ => simp [Event.registers, Phase.accepted]

/-- A callback that was registered is in the map, or was taken out of it. -/
theorem registered_phase (legal : phase call trace ≠ .broken)
    (registered : .registered thread call id ∈ trace) :
    phase call trace = .stored id ∨
      (phase call trace = .withdrawn id ∧ ∃ other, .extracted other id ∈ trace) ∨
      ∃ other, .swapped other ∈ trace := by
  induction trace using List.reverseRecOn with
  | nil => cases registered
  | append_singleton trace event ih =>
      obtain ⟨legal, turn⟩ := phase_init legal
      obtain earlier | last := List.mem_append.mp registered
      · obtain stored | ⟨withdrawn, other, member⟩ | ⟨other, member⟩ := ih legal earlier
        · rw [stored] at turn
          generalize phase call (trace ++ [event]) = second at turn ⊢
          cases turn with
          | extracted other => exact .inr (.inl ⟨rfl, other, by simp⟩)
          | claimed other => exact .inr (.inr ⟨other, by simp⟩)
          | other => exact .inl rfl
        · rw [withdrawn] at turn
          generalize phase call (trace ++ [event]) = second at turn ⊢
          cases turn with
          | other => exact .inr (.inl ⟨rfl, other, List.mem_append_left _ member⟩)
        · exact .inr (.inr ⟨other, List.mem_append_left _ member⟩)
      · rw [← List.mem_singleton.mp last] at turn ⊢
        generalize phase call trace = first at turn ⊢
        generalize phase call (trace ++ [.registered thread call id]) = second at turn ⊢
        cases turn with
        | registered => exact .inl rfl
        | other quiet => simp [Event.concerns] at quiet

/-- A callback that was withdrawn stays so. -/
theorem withdrawn_phase (withdrawn : phase call before = .withdrawn id)
    (legal : phase call (before ++ after) ≠ .broken) :
    phase call (before ++ after) = .withdrawn id := by
  induction after using List.reverseRecOn with
  | nil => rw [List.append_nil, withdrawn]
  | append_singleton after event ih =>
      rw [← List.append_assoc] at legal ⊢
      obtain ⟨legal, turn⟩ := phase_init legal
      rw [ih legal] at turn
      generalize phase call (before ++ after ++ [event]) = second at turn ⊢
      cases turn with
      | other => rfl

/-- A callback that was claimed is claimed until it runs. -/
theorem claimed_phase (claimed : phase call before = .claimed thread)
    (legal : phase call (before ++ after) ≠ .broken) :
    phase call (before ++ after) = .claimed thread ∨ .invoked thread call ∈ after := by
  induction after using List.reverseRecOn with
  | nil => exact .inl (by rw [List.append_nil, claimed])
  | append_singleton after event ih =>
      rw [← List.append_assoc] at legal ⊢
      obtain ⟨legal, turn⟩ := phase_init legal
      obtain still | invoked := ih legal
      · rw [still] at turn
        generalize phase call (before ++ after ++ [event]) = second at turn ⊢
        cases turn with
        | notified => exact .inr (by simp)
        | other => exact .inl rfl
      · exact .inr (List.mem_append_left _ invoked)

theorem threw_phase {failure : Failure} (legal : phase call trace ≠ .broken)
    (threw : .threw thread call failure ∈ trace) : ∃ ofCancel, phase call trace = .ended ofCancel := by
  induction trace using List.reverseRecOn with
  | nil => cases threw
  | append_singleton trace event ih =>
      obtain ⟨legal, turn⟩ := phase_init legal
      obtain earlier | last := List.mem_append.mp threw
      · obtain ⟨ofCancel, ended⟩ := ih legal earlier
        rw [ended] at turn
        generalize phase call (trace ++ [event]) = second at turn ⊢
        cases turn with
        | other => exact ⟨ofCancel, rfl⟩
      · rw [← List.mem_singleton.mp last] at turn ⊢
        generalize phase call trace = first at turn ⊢
        generalize phase call (trace ++ [.threw thread call failure]) = second at turn ⊢
        cases turn with
        | threw ofCancel => exact ⟨_, rfl⟩
        | other quiet => simp [Event.concerns] at quiet

/-- Whether the callback was claimed. -/
def Phase.taken : Phase → Bool
  | .claimed _ | .running _ true | .ended true => true
  | _ => false

theorem taken_swapped (legal : phase call trace ≠ .broken)
    (taken : (phase call trace).taken = true) : ∃ other, .swapped other ∈ trace := by
  induction trace using List.reverseRecOn with
  | nil => cases taken
  | append_singleton trace event ih =>
      obtain ⟨legal, turn⟩ := phase_init legal
      have earlier : (phase call trace).taken = true → ∃ other, .swapped other ∈ trace ++ [event] := by
        intro taken
        obtain ⟨other, member⟩ := ih legal taken
        exact ⟨other, List.mem_append_left _ member⟩
      generalize phase call trace = first at turn earlier
      generalize phase call (trace ++ [event]) = second at turn taken
      cases turn with
      | claimed other => exact ⟨other, by simp⟩
      | notified => exact earlier rfl
      | returned other ofCancel => exact earlier (by cases ofCancel <;> simp_all [Phase.taken])
      | threw other failure ofCancel => exact earlier (by cases ofCancel <;> simp_all [Phase.taken])
      | other => exact earlier taken
      | _ => cases taken

/-- Whether callbacks were not claimed yet. -/
def Stage.early : Stage → Bool
  | .idle | .swapping _ => true
  | _ => false

theorem Stage.next_early (stage : Stage) (event : Event Failure) :
    (stage.next event).early = true →
      stage.early = true ∧ ∀ thread, event ≠ .swapped thread := by
  cases event with
  | cancelled thread =>
      by_cases idle : stage = .idle
      · simp [next, idle, early]
      · simp [next, idle, early]
  | swapped thread =>
      by_cases swapping : stage = .swapping thread <;> simp [next, swapping, early]
  | completed thread failure =>
      by_cases notifying : stage = .notifying thread <;> simp [next, notifying, early]
  | _ => simp [next]

theorem early_stage (early : (stage trace).early = true) (thread : Thread) :
    .swapped thread ∉ trace := by
  induction trace using List.reverseRecOn with
  | nil => simp
  | append_singleton trace event ih =>
      rw [stage_snoc] at early
      obtain ⟨early, other⟩ := Stage.next_early _ _ early
      intro member
      obtain old | new := List.mem_append.mp member
      · exact ih early old
      · exact other thread (List.mem_singleton.mp new).symm

/-- Callbacks are claimed once. -/
theorem swapped_stage (legal : stage (trace ++ [.swapped thread]) ≠ .broken) (other : Thread) :
    .swapped other ∉ trace := by
  refine early_stage ?_ other
  rw [stage_snoc] at legal
  by_cases swapping : stage trace = .swapping thread
  · rw [swapping]
    rfl
  · simp [Stage.next, swapping] at legal

end MiniTrantor.Coroutine.Cancellation
