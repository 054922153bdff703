import MiniTrantor.Coroutine.CancellationInvariant

/-!
# Callbacks run once

What the order of the events in a trace says about registrations, resets and `cancel`.
-/

set_option autoImplicit false

namespace MiniTrantor.Coroutine.Cancellation

variable {Address Failure : Type} [DecidableEq Address] {state next : State Address Failure}
  {thread : Thread} {old new : List (Frame Address Failure)} {events : List (Event Failure)}

def Event.actor : Event Failure → Thread
  | .called thread _ | .registered thread _ _ | .refused thread _ | .extracted thread _
  | .cancelled thread | .swapped thread | .invoked thread _ | .returned thread _
  | .threw thread _ _ | .completed thread _ => thread

/-- No identifier is in use before it is given out. -/
structure Ids (state : State Address Failure) : Prop where
  objects : ∀ address id, state.registrations address = some (some id) → id < state.nextCallbackId
  frames : ∀ thread id after, .resetting id after ∈ state.frames thread → id < state.nextCallbackId
  extracted : ∀ thread id, .extracted thread id ∈ state.trace → id < state.nextCallbackId
  known : ∀ before thread call id after,
    state.trace = before ++ .registered thread call id :: after →
      ∀ other, .extracted other id ∉ before

/-- Only the top frame of a thread is not at user code. -/
def Tops (state : State Address Failure) : Prop :=
  ∀ thread frame rest, state.frames thread = frame :: rest → ∀ below ∈ rest, below.user = true

/-- A callback that is not stored is invoked at once by the thread that brought it. -/
def Immediate (state : State Address Failure) : Prop :=
  ∀ before thread call after, state.trace = before ++ .refused thread call :: after →
    (∃ between rest, after = between ++ .invoked thread call :: rest ∧
      ∀ event ∈ between, event.actor ≠ thread) ∨
    (∀ event ∈ after, event.actor ≠ thread) ∧
      ∃ rest, state.frames thread = .invoking call :: rest

/-- When `cancel` completes, no claimed callback is left, and it rethrows the first failure. -/
def Completed (trace : List (Event Failure)) : Prop :=
  ∀ before thread failure after, trace = before ++ .completed thread failure :: after →
    failure = firstFailure before ∧ ∀ call holder, phase call before ≠ .claimed holder

structure History (state : State Address Failure) : Prop where
  invariant : Invariant state
  ids : Ids state
  tops : Tops state
  immediate : Immediate state
  completed : Completed state.trace
  order : Trace.NeverAfter Event.isCancelled Event.isRegistered state.trace

omit [DecidableEq Address] in
theorem History.start : History ({} : State Address Failure) where
  invariant := .start
  ids := ⟨by simp, by simp, by simp, by simp⟩
  tops := by simp [Tops]
  immediate := by simp [Immediate]
  completed := by simp [Completed]
  order := List.Pairwise.nil

theorem idle_stage {trace : List (Event Failure)} (idle : stage trace = .idle)
    (event : Event Failure) (member : event ∈ trace) : event.isCancelled = false := by
  induction trace using List.reverseRecOn with
  | nil => cases member
  | append_singleton trace last ih =>
      rw [stage_snoc] at idle
      have before : stage trace = .idle ∧ last.isCancelled = false := by
        cases last <;> simp only [Stage.next] at idle <;> (try split at idle) <;>
          simp_all [Event.isCancelled]
      obtain earlier | same := List.mem_append.mp member
      · exact ih before.1 earlier
      · rw [List.mem_singleton.mp same]
        exact before.2

omit [DecidableEq Address] in
theorem Frame.claims_of_claimed (frame : Frame Address Failure) {call : Nat}
    (busy : (call, Phase.claimed thread) ∈ frame.marks thread) : frame.claims = true := by
  cases frame <;> simp_all [Frame.marks, Frame.claims]

omit [DecidableEq Address] in
theorem Does.actor (does : Does state thread old new events) {event : Event Failure}
    (member : event ∈ events) : event.actor = thread := by
  cases does <;> simp at member <;> subst member <;> rfl

namespace Stepped

omit [DecidableEq Address] in
theorem tops (tops : Tops state) (stepped : Stepped state next thread old new events) :
    Tops next := by
  obtain ⟨rest, top, frames, user⟩ := stepped.frames
  intro other frame below held
  rw [frames] at held
  by_cases here : other = thread
  · rw [here, Function.update_self] at held
    have under : ∀ frame ∈ rest, frame.user = true := by
      intro frame member
      cases old with
      | nil =>
          cases rest with
          | nil => cases member
          | cons first rest =>
              obtain rfl | deeper := List.mem_cons.mp member
              · exact user rfl frame rfl
              · exact tops thread first rest top frame deeper
      | cons first above =>
          refine tops thread first (above ++ rest) (by rw [top]; rfl) frame ?_
          exact List.mem_append_right _ member
    have short : new.length ≤ 1 := by
      cases stepped.does <;> simp
    cases new with
    | nil =>
        rw [List.nil_append] at held
        rw [held] at under
        exact fun frame member => under frame (List.mem_cons_of_mem _ member)
    | cons first above =>
        have none : above = [] := List.length_eq_zero_iff.mp (by simpa using short)
        subst none
        obtain ⟨rfl, rfl⟩ := List.cons.inj held
        exact under
  · rw [Function.update_of_ne here] at held
    exact tops other frame below held

omit [DecidableEq Address] in
theorem ids (ids : Ids state) (stepped : Stepped state next thread old new events) : Ids next := by
  have above : state.nextCallbackId ≤ next.nextCallbackId := by
    rw [stepped.nextCallbackId]
    exact Nat.le_add_right _ _
  have given : ∀ holder call id, .registered holder call id ∈ events →
      id = state.nextCallbackId ∧ next.nextCallbackId = state.nextCallbackId + 1 := by
    intro holder call id member
    rw [stepped.nextCallbackId]
    cases stepped.does <;> simp at member
    exact ⟨member.2.2, by simp [Event.isRegistered]⟩
  refine ⟨fun address id held => ?_, fun other id after held => ?_, fun other id member => ?_, ?_⟩
  · obtain ⟨holder, known⟩ | ⟨call, told⟩ := stepped.registrations address id held
    · exact (ids.objects holder id known).trans_le above
    · obtain ⟨rfl, grown⟩ := given thread call id (by simp [told])
      omega
  · obtain ⟨rest, top, frames, _⟩ := stepped.frames
    have earlier : ∀ {other}, .resetting id after ∈ state.frames other → id < next.nextCallbackId :=
      fun member => (ids.frames _ id after member).trans_le above
    rw [frames] at held
    by_cases here : other = thread
    · rw [here, Function.update_self] at held
      obtain pushed | under := List.mem_append.mp held
      · cases stepped.does with
        | reset waiting object =>
            cases List.mem_singleton.mp pushed
            exact (ids.objects _ id object).trans_le above
        | _ => simp at pushed
      · exact earlier (by rw [top]; exact List.mem_append_right _ under)
    · rw [Function.update_of_ne here] at held
      exact earlier held
  · rw [stepped.trace] at member
    obtain before | last := List.mem_append.mp member
    · exact (ids.extracted other id before).trans_le above
    · obtain ⟨rest, top, _⟩ := stepped.frames
      cases stepped.does <;> simp at last
      obtain ⟨_, rfl⟩ := last
      exact (ids.frames thread id _ (by rw [top]; exact List.mem_cons_self)).trans_le above
  · intro before holder call id after split other
    rw [stepped.trace] at split
    obtain rfl | ⟨event, rfl⟩ := stepped.does.short
    · rw [List.append_nil] at split
      exact ids.known before holder call id after split other
    · obtain ⟨rfl, rfl, _⟩ | ⟨middle, _, earlier⟩ := Trace.split_snoc split
      · intro member
        have below := ids.extracted other id member
        obtain ⟨rfl, _⟩ := given holder call id List.mem_cons_self
        omega
      · exact ids.known before holder call id middle earlier other

omit [DecidableEq Address] in
theorem order (history : History state) (stepped : Stepped state next thread old new events) :
    Trace.NeverAfter Event.isCancelled Event.isRegistered next.trace := by
  rw [stepped.trace]
  refine history.order.append ?_ fun later member registered earlier before => ?_
  · obtain rfl | ⟨event, rfl⟩ := stepped.does.short
    · exact List.Pairwise.nil
    · exact List.pairwise_singleton _ _
  · cases stepped.does with
    | registered call unset =>
        have idle : Cancellation.stage state.trace = .idle := by
          by_contra other
          rw [history.invariant.cancelled.mpr other] at unset
          cases unset
        exact idle_stage idle earlier before
    | _ => simp at member <;> subst member <;> cases registered

omit [DecidableEq Address] in
theorem completed (history : History state)
    (stepped : Stepped state next thread old new events) : Completed next.trace := by
  have invariant := history.invariant
  intro before holder failure after split
  rw [stepped.trace] at split
  obtain rfl | ⟨event, rfl⟩ := stepped.does.short
  · rw [List.append_nil] at split
    exact history.completed before holder failure after split
  · obtain ⟨rfl, rfl, _⟩ | ⟨middle, _, earlier⟩ := Trace.split_snoc split
    · obtain ⟨rest, top, _⟩ := stepped.frames
      cases stepped.does
      obtain ⟨held, none, others⟩ := course_top invariant top rfl
      refine ⟨?_, fun call claimer claimed => ?_⟩
      · obtain ⟨_, same⟩ | ⟨_, fails⟩ := held
        · cases same
        · exact Option.some.inj fails
      · have member := (invariant.inStep.exact claimer call (.claimed claimer) rfl).mpr claimed
        obtain ⟨frame, listed, busy⟩ := List.mem_flatMap.mp member
        have claims : frame.claims = true := frame.claims_of_claimed busy
        by_cases here : claimer = thread
        · subst here
          rw [top] at listed
          obtain rfl | below := List.mem_cons.mp listed
          · cases busy
          · have filtered : frame ∈ rest.filter Frame.claims := List.mem_filter.mpr ⟨below, claims⟩
            have empty : rest.filter Frame.claims = [] := none
            rw [empty] at filtered
            cases filtered
        · have filtered := List.mem_filter.mpr ⟨listed, claims⟩
          rw [others claimer here] at filtered
          cases filtered
    · exact history.completed before holder failure middle earlier

omit [DecidableEq Address] in
/-- A thread that is to invoke a callback does nothing else. -/
theorem invoking (stepped : Stepped state next thread old new events) {call : Nat}
    {rest : List (Frame Address Failure)} (top : state.frames thread = .invoking call :: rest) :
    events = [.invoked thread call] := by
  obtain ⟨under, same, _, user⟩ := stepped.frames
  rw [top] at same
  cases old with
  | nil =>
      rw [List.nil_append] at same
      have blocked := user rfl (.invoking call) (by simp [← same])
      cases blocked
  | cons frame above =>
      obtain ⟨rfl, _⟩ := List.cons.inj same
      cases stepped.does
      rfl

omit [DecidableEq Address] in
theorem immediate (history : History state)
    (stepped : Stepped state next thread old new events) : Immediate next := by
  intro before holder call after split
  obtain ⟨rest, top, frames, _⟩ := stepped.frames
  have still : ∀ {stack}, state.frames holder = .invoking call :: stack →
      holder ≠ thread → next.frames holder = .invoking call :: stack := by
    intro stack held differs
    rw [frames, Function.update_of_ne differs]
    exact held
  rw [stepped.trace] at split
  obtain rfl | ⟨event, rfl⟩ := stepped.does.short
  · rw [List.append_nil] at split
    obtain done | ⟨quiet, stack, held⟩ := history.immediate before holder call after split
    · exact .inl done
    · refine .inr ⟨quiet, stack, still held ?_⟩
      rintro rfl
      cases stepped.invoking held
  · obtain ⟨rfl, rfl, rfl⟩ | ⟨middle, rfl, earlier⟩ := Trace.split_snoc split
    · cases stepped.does
      refine .inr ⟨by simp, rest, ?_⟩
      rw [frames, Function.update_self]
      rfl
    · obtain ⟨between, tail, rfl, quiet⟩ | ⟨quiet, stack, held⟩ :=
        history.immediate before holder call middle earlier
      · exact .inl ⟨between, tail ++ [event], by simp, quiet⟩
      · by_cases here : holder = thread
        · subst here
          obtain same := (List.cons.inj (stepped.invoking held)).1
          exact .inl ⟨middle, [], by rw [same], quiet⟩
        · refine .inr ⟨fun other member => ?_, stack, still held here⟩
          obtain old | last := List.mem_append.mp member
          · exact quiet other old
          · rw [stepped.does.actor last]
            exact Ne.symm here

end Stepped

omit [DecidableEq Address] in
theorem History.kept (history : History state)
    (stepped : Stepped state next thread old new events) : History next where
  invariant := history.invariant.kept stepped
  ids := stepped.ids history.ids
  tops := stepped.tops history.tops
  immediate := stepped.immediate history
  completed := stepped.completed history
  order := stepped.order history

theorem History.reach (reachable : Reach State.step (fun _ _ => True) {} state) :
    History state := by
  refine reachable.invariant .start fun state next move history _ ran => ?_
  obtain ⟨thread, action⟩ := move
  obtain ⟨old, new, events, stepped⟩ := step_cases ran
  exact history.kept stepped

section Traces

variable {trace before after : List (Event Failure)} {call id : Nat} {holder : Thread}

theorem notifying_stage (notifying : stage before = .notifying thread) :
    stage (before ++ after) = .notifying thread ∨ stage (before ++ after) = .done ∨
      stage (before ++ after) = .broken := by
  induction after using List.reverseRecOn with
  | nil => exact .inl (by rw [List.append_nil, notifying])
  | append_singleton after event ih =>
      rw [← List.append_assoc, stage_snoc]
      obtain same | same | same := ih <;> rw [same] <;> cases event <;>
        simp only [Stage.next] <;> try split
      all_goals simp_all

/-- A callback that is in the map at the swap is invoked before `cancel` completes. -/
theorem claimed_invoked (lawful : Lawful trace) (completed : Completed trace)
    {canceller : Thread} {middle : List (Event Failure)} {failure : Option Failure}
    (split : trace = before ++ .swapped canceller :: middle ++ .completed holder failure :: after)
    (registered : .registered thread call id ∈ before)
    (kept : ∀ other, .extracted other id ∉ before) : .invoked canceller call ∈ middle := by
  have shape : trace = (before ++ [Event.swapped canceller]) ++ middle ++
      .completed holder failure :: after := by
    rw [split]
    simp
  have swapped : Lawful (before ++ [Event.swapped canceller]) := by
    rw [shape, List.append_assoc] at lawful
    exact lawful.of_append
  have whole : Lawful (before ++ [Event.swapped canceller] ++ middle) := by
    rw [shape] at lawful
    exact lawful.of_append
  have stored : phase call before = .stored id := by
    obtain stored | ⟨_, other, extracted⟩ | ⟨other, claimed⟩ :=
      registered_phase (swapped.init.phases call) registered
    · exact stored
    · exact absurd extracted (kept other)
    · exact absurd claimed (swapped_stage swapped.stages other)
  have claimed : phase call (before ++ [Event.swapped canceller]) = .claimed canceller := by
    rw [phase_snoc, stored]
    rfl
  obtain still | invoked := claimed_phase claimed (whole.phases call)
  · exact absurd still ((completed _ holder failure after shape).2 call canceller)
  · exact invoked

/-- A callback whose reset took effect before the swap is never invoked. -/
theorem withdrawn_silent (lawful : Lawful trace)
    (known : ∀ before thread call id after, trace = before ++ .registered thread call id :: after →
      ∀ other, .extracted other id ∉ before)
    (split : trace = before ++ after) (early : ∀ other, .swapped other ∉ before)
    (registered : .registered thread call id ∈ before)
    (extracted : .extracted holder id ∈ before) : invocations call trace = 0 := by
  obtain ⟨first, second, rfl⟩ := List.append_of_mem extracted
  have shape : trace = (first ++ [Event.extracted holder id]) ++ (second ++ after) := by
    rw [split]
    simp
  -- the identifier was not in use before the callback was registered
  have earlier : .registered thread call id ∈ first := by
    obtain before | after' := List.mem_append.mp registered
    · exact before
    · obtain same | later := List.mem_cons.mp after'
      · cases same
      · obtain ⟨third, fourth, rfl⟩ := List.append_of_mem later
        refine absurd ?_ (known (first ++ .extracted holder id :: third) thread call id
          (fourth ++ after) (by rw [split]; simp) holder)
        simp
  rw [shape] at lawful
  have upTo := lawful.of_append
  have withdrawn : phase call (first ++ [Event.extracted holder id]) = .withdrawn id := by
    rw [phase_snoc]
    obtain stored | ⟨withdrawn, _⟩ | ⟨other, swapped⟩ :=
      registered_phase (upTo.init.phases call) earlier
    · rw [stored]
      simp [Phase.next]
    · rw [withdrawn]
      simp [Phase.next]
    · exact absurd (List.mem_append_left _ swapped) (early other)
  rw [shape, invocations_eq (lawful.phases call), withdrawn_phase withdrawn (lawful.phases call)]
  rfl

/-- The `cancel` that completes is the one that claimed the callbacks. -/
theorem completed_by_canceller (lawful : Lawful trace) {canceller : Thread}
    {middle : List (Event Failure)} {failure : Option Failure}
    (split : trace = before ++ .swapped canceller :: middle ++ .completed holder failure :: after) :
    holder = canceller := by
  have shape : trace = (before ++ [Event.swapped canceller] ++ middle ++
      [Event.completed holder failure]) ++ after := by
    rw [split]
    simp
  rw [shape] at lawful
  have upTo := lawful.of_append
  have swapping : stage (before ++ [Event.swapped canceller]) = .notifying canceller := by
    have legal := upTo.init.of_append.stages
    rw [stage_snoc] at legal ⊢
    by_cases same : stage before = .swapping canceller
    · simp [Stage.next, same]
    · simp [Stage.next, same] at legal
  have legal := upTo.stages
  rw [stage_snoc] at legal
  by_contra differs
  obtain same | same | same := @notifying_stage _ _ _ middle swapping <;> rw [same] at legal
  · exact legal (if_neg fun equal => differs (Stage.notifying.inj equal).symm)
  · exact legal rfl
  · exact legal rfl

end Traces

/-- What the order of events says of every callback. -/
structure RunsOnce (state : State Address Failure) : Prop where
  atMostOnce : ∀ call, invocations call state.trace ≤ 1
  claimed : ∀ before canceller middle holder failure after,
    state.trace = before ++ .swapped canceller :: middle ++ .completed holder failure :: after →
      holder = canceller ∧ ∀ thread call id, .registered thread call id ∈ before →
        (∀ other, .extracted other id ∉ before) → .invoked canceller call ∈ middle
  withdrawn : ∀ before after, state.trace = before ++ after → (∀ other, .swapped other ∉ before) →
    ∀ thread call id holder, .registered thread call id ∈ before →
      .extracted holder id ∈ before → invocations call state.trace = 0
  refused : ∀ before canceller after, state.trace = before ++ .cancelled canceller :: after →
    ∀ thread call id, .registered thread call id ∉ after
  immediate : Immediate state
  rethrown : ∀ before holder failure after,
    state.trace = before ++ .completed holder failure :: after → failure = firstFailure before

theorem callbacks_run_once (reachable : Reach State.step (fun _ _ => True) {} state) :
    RunsOnce state := by
  have history := History.reach reachable
  have invariant := history.invariant
  have lawful : Lawful state.trace := by
    refine ⟨invariant.legal, fun broken => ?_⟩
    have course := invariant.course
    rw [broken] at course
    exact course
  refine ⟨fun call => ?_, fun before canceller middle holder failure after split => ⟨?_, ?_⟩,
    fun before after split early thread call id holder registered extracted => ?_,
    fun before canceller after split thread call id member => ?_, history.immediate,
    fun before holder failure after split =>
      (history.completed before holder failure after split).1⟩
  · rw [invocations_eq (invariant.legal call)]
    cases phase call state.trace <;> simp [Phase.invocations]
  · exact completed_by_canceller lawful split
  · exact fun thread call id registered kept =>
      claimed_invoked lawful history.completed split registered kept
  · exact withdrawn_silent lawful history.ids.known split early registered extracted
  · have order := history.order
    rw [split] at order
    have after' := (List.pairwise_append.mp order).2.1
    have none := (List.pairwise_cons.mp after').1 _ member rfl
    cases none

/-- Two callbacks are registered and the first one is withdrawn while another thread is between
the exchange and the swap. A third callback comes too late. -/
theorem callbacks_run_once_raced : ∃ state : State Nat Nat,
    run State.step {} [(1, .user .register), (1, .lock 10), (1, .user .register), (1, .lock 11),
      (2, .user .cancel), (2, .exchange), (1, .user .register), (1, .lock 12), (1, .invoke),
      (1, .returned 12), (1, .user (.reset 10)), (1, .extract), (1, .returned 0), (2, .swap),
      (2, .notify 1), (2, .threw 7), (2, .endLoop), (2, .returned 0)] = some state ∧
      RunsOnce state ∧ firstFailure state.trace = some 7 ∧ invocations 0 state.trace = 0 ∧
      invocations 1 state.trace = 1 ∧ invocations 2 state.trace = 1 := by
  have reachable : Reach State.step (fun _ _ => True) ({} : State Nat Nat) _ :=
    @Reach.run _ _ _ _ _ [(1, .user .register), (1, .lock 10), (1, .user .register), (1, .lock 11),
      (2, .user .cancel), (2, .exchange), (1, .user .register), (1, .lock 12), (1, .invoke),
      (1, .returned 12), (1, .user (.reset 10)), (1, .extract), (1, .returned 0), (2, .swap),
      (2, .notify 1), (2, .threw 7), (2, .endLoop), (2, .returned 0)] _ _ .start
      (fun _ _ _ => trivial) rfl
  exact ⟨_, rfl, callbacks_run_once reachable, rfl, rfl, rfl, rfl⟩

end MiniTrantor.Coroutine.Cancellation
