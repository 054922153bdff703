import MiniTrantor.Coroutine.CancellationSteps

/-!
# Threads and callbacks

The frames of the threads are in step with the phases of the callbacks, and the one thread
whose `cancel` claims the callbacks with the stage of the trace.
-/

set_option autoImplicit false

namespace MiniTrantor.Coroutine.Cancellation

variable {Address Failure : Type} [DecidableEq Address] {state next : State Address Failure}
  {thread : Thread} {old new : List (Frame Address Failure)} {events : List (Event Failure)}

namespace Frame

/-- The callbacks that a frame is busy with. -/
def marks (thread : Thread) : Frame Address Failure → List (Nat × Phase)
  | .registering call => [(call, .entering thread)]
  | .invoking call => [(call, .due thread)]
  | .calling call => [(call, .running thread false)]
  | .notifying rest _ => rest.map fun call => (call, .claimed thread)
  | .notified call rest _ => (call, .running thread true) :: rest.map fun call => (call, .claimed thread)
  | _ => []

/-- Frames of the `cancel` that claims the callbacks. -/
def claims : Frame Address Failure → Bool
  | .swapping | .notifying .. | .notified .. | .discarding _ => true
  | _ => false

/-- The failure that it will rethrow. -/
def failure : Frame Address Failure → Option (Option Failure)
  | .notifying _ failure | .notified _ _ failure | .discarding failure => some failure
  | _ => none

omit [DecidableEq Address] in
theorem marks_holder (thread : Thread) (frame : Frame Address Failure) (call : Nat) (phase : Phase)
    (member : (call, phase) ∈ frame.marks thread) : phase.holder = some thread := by
  cases frame with
  | notifying rest failure =>
      obtain ⟨_, _, same⟩ := List.mem_map.mp member
      cases same
      rfl
  | notified other rest failure =>
      obtain same | member := List.mem_cons.mp member
      · cases same
        rfl
      · obtain ⟨_, _, same⟩ := List.mem_map.mp member
        cases same
        rfl
  | registering | invoking | calling =>
      cases List.mem_singleton.mp member
      rfl
  | _ => cases member

end Frame

/-- What a callback of `cancel` threw. -/
def caught (trace : List (Event Failure)) : Event Failure → Option Failure
  | .threw _ call failure => if accepted call trace then some failure else none
  | _ => none

def firstFailure (trace : List (Event Failure)) : Option Failure :=
  (trace.filterMap (caught trace)).head?

/-- Where the frames of the claiming `cancel` are. -/
def Stage.Course (frames : Thread → List (Frame Address Failure)) (trace : List (Event Failure)) :
    Stage → Prop
  | .idle | .done => ∀ thread, (frames thread).filter Frame.claims = []
  | .swapping thread => (frames thread).filter Frame.claims = [.swapping] ∧
      ∀ other, other ≠ thread → (frames other).filter Frame.claims = []
  | .notifying thread => (∃ frame, (frames thread).filter Frame.claims = [frame] ∧
        frame.failure = some (firstFailure trace)) ∧
      ∀ other, other ≠ thread → (frames other).filter Frame.claims = []
  | .broken => False

structure Invariant (state : State Address Failure) : Prop where
  inStep : Custody.InStep Frame.marks Phase.holder state.frames fun call => phase call state.trace
  legal : ∀ call, phase call state.trace ≠ .broken
  course : (stage state.trace).Course state.frames state.trace
  cancelled : state.cancelled = true ↔ stage state.trace ≠ .idle
  stored : ∀ id call, (id, call) ∈ state.callbacks ↔ phase call state.trace = .stored id
  once : (state.callbacks.map Prod.snd).Nodup
  fresh : ∀ call, state.calls ≤ call → phase call state.trace = .absent

namespace Invariant

omit [DecidableEq Address] in
theorem start : Invariant ({} : State Address Failure) where
  inStep := .start fun _ => rfl
  legal _ := by simp [phase]
  course _ := rfl
  cancelled := by simp [stage]
  stored := by simp [phase]
  once := List.nodup_nil
  fresh _ _ := rfl

end Invariant

omit [DecidableEq Address] in
@[simp] theorem marked_nil (thread : Thread) :
    Custody.marked Frame.marks thread ([] : List (Frame Address Failure)) = [] := rfl

omit [DecidableEq Address] in
@[simp] theorem marked_single (thread : Thread) (frame : Frame Address Failure) :
    Custody.marked Frame.marks thread [frame] = frame.marks thread := by
  simp [Custody.marked]

omit [DecidableEq Address] in
/-- The phase of the callback that the top frame is busy with. -/
theorem Invariant.top (invariant : Invariant state) {frame : Frame Address Failure}
    {rest : List (Frame Address Failure)} (top : state.frames thread = frame :: rest)
    {call : Nat} {before : Phase} (member : (call, before) ∈ frame.marks thread) :
    phase call state.trace = before := by
  refine (invariant.inStep.exact thread call before
    (Frame.marks_holder thread frame call before member)).mp ?_
  rw [top, Custody.marked, List.flatMap_cons]
  exact List.mem_append_left _ member

omit [DecidableEq Address] in
/-- The callbacks of the top frame are different. -/
theorem Invariant.top_once (invariant : Invariant state) {frame : Frame Address Failure}
    {rest : List (Frame Address Failure)} (top : state.frames thread = frame :: rest) :
    ((frame.marks thread).map Prod.fst).Nodup := by
  have once := invariant.inStep.once thread
  rw [top, Custody.marked, List.flatMap_cons, List.map_append] at once
  exact (List.nodup_append.mp once).1

omit [DecidableEq Address] in
/-- The loop of `cancel` lets go of the callback that it ran. -/
theorem Invariant.finished (invariant : Invariant state) {call : Nat} {waiting : List Nat}
    {failure failure' : Option Failure} {rest : List (Frame Address Failure)}
    (top : state.frames thread = [.notified call waiting failure] ++ rest) {later : Nat → Phase}
    (now : later call = .ended true)
    (others : ∀ other, other ≠ call → later other = phase other state.trace) :
    Custody.InStep Frame.marks Phase.holder
      (Function.update state.frames thread ([.notifying waiting failure'] ++ rest)) later := by
  have once := invariant.top_once top
  simp only [Frame.marks, List.map_cons, List.map_map, Function.comp_def, List.map_id',
    List.nodup_cons] at once
  refine invariant.inStep.one Frame.marks_holder top call others (fun other phase differs => ?_) ?_
    (fun phase member => ?_) (fun _ => ?_) ?_
  · simp [Frame.marks, differs]
  · simp [Frame.marks]
  · exact absurd (by simpa [Frame.marks] using member) (by simp [once.1])
  · rw [now]
    rfl
  · simpa [Frame.marks, Function.comp_def] using once.2

namespace Stepped

omit [DecidableEq Address] in
theorem phase (stepped : Stepped state next thread old new events) (call : Nat) :
    phase call next.trace = events.foldl (Phase.next call) (phase call state.trace) := by
  rw [stepped.trace, Cancellation.phase, Cancellation.phase, List.foldl_append]

omit [DecidableEq Address] in
theorem inStep (invariant : Invariant state) (stepped : Stepped state next thread old new events) :
    Custody.InStep Frame.marks Phase.holder next.frames fun call => Cancellation.phase call next.trace := by
  have phases : (fun call => Cancellation.phase call next.trace) = fun call =>
      events.foldl (Phase.next call) (Cancellation.phase call state.trace) := funext stepped.phase
  obtain ⟨rest, top, frames, _⟩ := stepped.frames
  rw [phases, frames]
  have own := @Frame.marks_holder Address Failure
  cases stepped.does with
  | quiet | reset | cancelling | late | endLoop | released =>
      exact invariant.inStep.none own top rfl rfl fun _ => .inl rfl
  | cancelled | completed =>
      exact invariant.inStep.none own top rfl rfl fun _ => .inl rfl
  | called =>
      have absent := invariant.fresh state.calls le_rfl
      refine invariant.inStep.one own top state.calls (fun other differs => ?_)
        (fun other phase differs => ?_) ?_ (fun phase member => ?_) ?_ ?_
      · simp [Phase.next, Ne.symm differs]
      · simp [Frame.marks, differs]
      · exact .inl (by rw [absent]; rfl)
      · have same : phase = .entering thread := by simpa [Frame.marks] using member
        simp [Phase.next, absent, same]
      · simp [Frame.marks]
      · simp [Frame.marks]
  | refused call cancelled =>
      have was := invariant.top top (List.mem_singleton_self (call, Phase.entering thread))
      exact invariant.inStep.single own top rfl (.inl (by simp [Frame.marks, Phase.next, was]))
        fun other differs => by simp [Phase.next, Ne.symm differs]
  | registered call cancelled =>
      have was := invariant.top top (List.mem_singleton_self (call, Phase.entering thread))
      exact invariant.inStep.single own top rfl (.inr ⟨rfl, by simp [Phase.next, was, Phase.holder]⟩)
        fun other differs => by simp [Phase.next, Ne.symm differs]
  | invoked call =>
      have was := invariant.top top (List.mem_singleton_self (call, Phase.due thread))
      exact invariant.inStep.single own top rfl
        (.inl (by simp [Frame.marks, Phase.next, Phase.invoke, was]))
        fun other differs => by simp [Phase.next, Ne.symm differs]
  | extracted id waiting =>
      refine invariant.inStep.none own top rfl rfl fun call => ?_
      by_cases stored : Cancellation.phase call state.trace = .stored id
      · exact .inr (by simp [Phase.next, stored, Phase.holder])
      · exact .inl (by simp [Phase.next, stored])
  | swapped =>
      have storedOf : ∀ call, call ∈ state.callbacks.map Prod.snd →
          ∃ id, Cancellation.phase call state.trace = .stored id := by
        intro call member
        obtain ⟨⟨id, _⟩, listed, rfl⟩ := List.mem_map.mp member
        exact ⟨id, (invariant.stored id _).mp listed⟩
      refine invariant.inStep.replace own top (fun call _ absent => .inl ?_)
        (fun call phase member => ?_) (fun call member => ?_) (fun call member => .inr ?_) ?_
      · have unlisted : call ∉ state.callbacks.map Prod.snd := by
          simpa [Frame.marks] using absent
        cases before : Cancellation.phase call state.trace with
        | stored id =>
            exact absurd (List.mem_map.mpr ⟨_, (invariant.stored id call).mpr before, rfl⟩) unlisted
        | _ => rfl
      · rw [marked_single] at member
        obtain ⟨other, listed, same⟩ := List.mem_map.mp member
        cases same
        obtain ⟨id, stored⟩ := storedOf call listed
        simp [Phase.next, Phase.claim, stored]
      · cases member
      · have listed : call ∈ state.callbacks.map Prod.snd := by
          simpa [Frame.marks] using member
        obtain ⟨id, stored⟩ := storedOf call listed
        rw [stored]
        rfl
      · simpa [Frame.marks, Function.comp_def] using invariant.once
  | @notified call waiting failure member =>
      have was := invariant.top top (List.mem_map.mpr ⟨call, member, rfl⟩)
      have once : waiting.Nodup := by
        simpa [Frame.marks, Function.comp_def] using invariant.top_once top
      refine invariant.inStep.one own top call (fun other differs => ?_)
        (fun other phase differs => ?_) ?_ (fun phase member => ?_) ?_ ?_
      · simp [Phase.next, Ne.symm differs]
      · simp [Frame.marks, differs, List.mem_erase_of_ne differs]
      · exact .inr (by simpa [Frame.marks] using member)
      · have same : phase = .running thread true := by
          simpa [Frame.marks, once.mem_erase_iff, eq_comm] using member
        simp [Phase.next, Phase.invoke, was, same]
      · simp [Frame.marks]
      · simpa [Frame.marks, Function.comp_def, once.mem_erase_iff] using once.erase call
  | returned call =>
      have was := invariant.top top (List.mem_singleton_self (call, Phase.running thread false))
      exact invariant.inStep.single own top rfl
        (.inr ⟨rfl, by simp [Phase.next, Phase.finish, was, Phase.holder]⟩)
        fun other differs => by simp [Phase.next, Ne.symm differs]
  | threw call failure =>
      have was := invariant.top top (List.mem_singleton_self (call, Phase.running thread false))
      exact invariant.inStep.single own top rfl
        (.inr ⟨rfl, by simp [Phase.next, Phase.finish, was, Phase.holder]⟩)
        fun other differs => by simp [Phase.next, Ne.symm differs]
  | passed call waiting failure =>
      have was := invariant.top top (List.mem_cons_self (a := (call, Phase.running thread true)))
      exact invariant.finished top (by simp [Phase.next, Phase.finish, was])
        fun other differs => by simp [Phase.next, Ne.symm differs]
  | caught call waiting first failure =>
      have was := invariant.top top (List.mem_cons_self (a := (call, Phase.running thread true)))
      exact invariant.finished top (by simp [Phase.next, Phase.finish, was])
        fun other differs => by simp [Phase.next, Ne.symm differs]

omit [DecidableEq Address] in
/-- No event comes out of turn. -/
theorem legal (invariant : Invariant state) (stepped : Stepped state next thread old new events)
    (call : Nat) : Cancellation.phase call next.trace ≠ .broken := by
  rw [stepped.phase]
  have before := invariant.legal call
  obtain ⟨rest, top, _⟩ := stepped.frames
  cases stepped.does with
  | quiet | reset | cancelling | late | endLoop | released | cancelled | completed => exact before
  | called =>
      have absent := invariant.fresh state.calls le_rfl
      by_cases same : state.calls = call
      · subst same
        simp [Phase.next, absent]
      · simpa [Phase.next, same] using before
  | refused busy | registered busy =>
      have was := invariant.top top (List.mem_singleton_self (busy, Phase.entering thread))
      by_cases same : busy = call
      · subst same
        simp [Phase.next, was]
      · simpa [Phase.next, same] using before
  | invoked busy =>
      have was := invariant.top top (List.mem_singleton_self (busy, Phase.due thread))
      by_cases same : busy = call
      · subst same
        simp [Phase.next, Phase.invoke, was]
      · simpa [Phase.next, same] using before
  | extracted id =>
      by_cases stored : Cancellation.phase call state.trace = .stored id
      · simp [Phase.next, stored]
      · simpa [Phase.next, stored] using before
  | swapped =>
      cases phase : Cancellation.phase call state.trace with
      | broken => exact absurd phase before
      | _ => simp [Phase.next, Phase.claim]
  | @notified busy _ _ member =>
      have was := invariant.top top (List.mem_map.mpr ⟨busy, member, rfl⟩)
      by_cases same : busy = call
      · subst same
        simp [Phase.next, Phase.invoke, was]
      · simpa [Phase.next, same] using before
  | returned busy | threw busy =>
      have was := invariant.top top (List.mem_singleton_self (busy, Phase.running thread false))
      by_cases same : busy = call
      · subst same
        simp [Phase.next, Phase.finish, was]
      · simpa [Phase.next, same] using before
  | passed busy | caught busy =>
      have was := invariant.top top (List.mem_cons_self (a := (busy, Phase.running thread true)))
      by_cases same : busy = call
      · subst same
        simp [Phase.next, Phase.finish, was]
      · simpa [Phase.next, same] using before

omit [DecidableEq Address] in
/-- Where the phase of a callback can go in a step. -/
theorem turn (invariant : Invariant state) (stepped : Stepped state next thread old new events)
    (call : Nat) : (events = [] ∧ Cancellation.phase call next.trace =
        Cancellation.phase call state.trace) ∨
      ∃ event, events = [event] ∧ Turn call (Cancellation.phase call state.trace) event
        (Cancellation.phase call next.trace) := by
  have legal := stepped.legal invariant call
  have trace := stepped.trace
  obtain rfl | ⟨event, rfl⟩ := stepped.does.short
  · exact .inl ⟨rfl, by rw [trace, List.append_nil]⟩
  · rw [trace] at legal ⊢
    exact .inr ⟨event, rfl, (phase_init legal).2⟩

omit [DecidableEq Address] in
theorem fresh (invariant : Invariant state) (stepped : Stepped state next thread old new events)
    (call : Nat) (above : next.calls ≤ call) : Cancellation.phase call next.trace = .absent := by
  rw [stepped.calls] at above
  have absent := invariant.fresh call (by omega)
  obtain ⟨_, same⟩ | ⟨event, rfl, turn⟩ := stepped.turn invariant call
  · rw [same, absent]
  · rw [absent] at turn
    generalize Cancellation.phase call next.trace = later at turn ⊢
    cases turn with
    | called other =>
        cases stepped.does
        simp [Event.isCalled] at above
    | other => rfl

omit [DecidableEq Address] in
theorem stored (invariant : Invariant state) (stepped : Stepped state next thread old new events)
    (id call : Nat) :
    (id, call) ∈ next.callbacks ↔ Cancellation.phase call next.trace = .stored id := by
  rw [stepped.callbacks]
  have before := invariant.stored id call
  obtain ⟨rfl, same⟩ | ⟨event, rfl, turn⟩ := stepped.turn invariant call
  · rw [same]
    exact before
  simp only [List.foldl_cons, List.foldl_nil]
  generalize Cancellation.phase call state.trace = first at before turn
  generalize Cancellation.phase call next.trace = second at turn ⊢
  cases turn with
  | registered other id' => simp [callbacksAfter, before, eq_comm]
  | extracted other id' =>
      simp only [callbacksAfter, List.mem_filter, before, Phase.stored.injEq, reduceCtorEq,
        iff_false, not_and, decide_not, Bool.not_eq_true', decide_eq_false_iff_not, not_not]
      exact fun same => same.symm
  | claimed => simp [callbacksAfter]
  | called | refused | invoked | notified | returned | threw =>
      simpa [callbacksAfter] using before
  | @other first _ quiet kept =>
      cases event with
      | registered holder busy id' =>
          have differs : call ≠ busy := by
            simpa [Event.concerns, eq_comm] using quiet
          simpa [callbacksAfter, differs] using before
      | extracted holder id' =>
          simp only [callbacksAfter, List.mem_filter, before, decide_eq_true_eq,
            and_iff_left_iff_imp]
          intro stored same
          exact (kept id stored holder).2 (by rw [same])
      | swapped holder =>
          simp only [callbacksAfter, List.not_mem_nil, false_iff]
          exact fun stored => (kept id stored holder).1 rfl
      | _ => exact before

omit [DecidableEq Address] in
theorem once (invariant : Invariant state) (stepped : Stepped state next thread old new events) :
    (next.callbacks.map Prod.snd).Nodup := by
  rw [stepped.callbacks]
  have before := invariant.once
  obtain ⟨rest, top, _⟩ := stepped.frames
  cases stepped.does with
  | registered call =>
      have was := invariant.top top (List.mem_singleton_self (call, Phase.entering thread))
      simp only [List.foldl_cons, List.foldl_nil, callbacksAfter, List.map_append, List.map_cons,
        List.map_nil]
      refine List.nodup_append.mpr ⟨before, List.nodup_singleton _, fun other listed last ends => ?_⟩
      rw [List.mem_singleton.mp ends]
      rintro rfl
      obtain ⟨⟨id, _⟩, member, rfl⟩ := List.mem_map.mp listed
      rw [(invariant.stored id _).mp member] at was
      cases was
  | extracted id => exact before.sublist ((List.filter_sublist).map Prod.snd)
  | swapped => exact List.nodup_nil
  | _ => exact before

omit [DecidableEq Address] in
theorem stage (stepped : Stepped state next thread old new events) :
    stage next.trace = events.foldl Stage.next (stage state.trace) := by
  rw [stepped.trace, Cancellation.stage, Cancellation.stage, List.foldl_append]

omit [DecidableEq Address] in
/-- The frames of the claiming `cancel`, thread by thread. -/
theorem claims (stepped : Stepped state next thread old new events) :
    ∃ rest : List (Frame Address Failure), (state.frames thread).filter Frame.claims =
        old.filter Frame.claims ++ rest.filter Frame.claims ∧
      (next.frames thread).filter Frame.claims =
        new.filter Frame.claims ++ rest.filter Frame.claims ∧
      ∀ other, other ≠ thread → next.frames other = state.frames other := by
  obtain ⟨rest, top, frames, _⟩ := stepped.frames
  refine ⟨rest, by rw [top, List.filter_append], ?_, fun other differs => ?_⟩
  · rw [frames, Function.update_self, List.filter_append]
  · rw [frames, Function.update_of_ne differs]

end Stepped

/-! ## Failures -/

variable {trace : List (Event Failure)} {event : Event Failure}

theorem firstFailure_snoc (quiet : event.isRegistered = false) :
    firstFailure (trace ++ [event]) = (firstFailure trace).or (caught trace event) := by
  have same : ∀ call, accepted call (trace ++ [event]) = accepted call trace := by
    intro call
    have other : event.registers call = false := by
      cases event <;> simp_all [Event.isRegistered, Event.registers]
    simp [accepted, other]
  have caughtSame : caught (trace ++ [event]) = caught trace := by
    funext other
    cases other <;> simp [caught, same]
  rw [firstFailure, caughtSame, List.filterMap_append, List.head?_append, firstFailure]
  congr 1
  cases found : caught trace event <;> simp [found]

/-- What a callback of `cancel` threw came after the callbacks were claimed. -/
theorem caught_early (legal : ∀ call, phase call trace ≠ .broken)
    (early : (stage trace).early = true) : firstFailure trace = none := by
  rw [firstFailure, List.head?_eq_none_iff, List.filterMap_eq_nil_iff]
  intro event member
  cases event with
  | threw thread call failure =>
      obtain ⟨ofCancel, ended⟩ := threw_phase (legal call) member
      have unaccepted : accepted call trace = false := by
        rw [accepted_eq (legal call), ended]
        cases ofCancel with
        | false => rfl
        | true =>
            obtain ⟨other, swapped⟩ := taken_swapped (legal call) (by rw [ended]; rfl)
            exact absurd swapped (early_stage early other)
      simp [caught, unaccepted]
  | _ => rfl

namespace Stepped

omit [DecidableEq Address] in
/-- A step that neither touches the frames of the claiming `cancel` nor is one of its failures. -/
theorem course_kept (invariant : Invariant state)
    (stepped : Stepped state next thread old new events)
    (frames : new.filter Frame.claims = old.filter Frame.claims)
    (stage : Cancellation.stage next.trace = Cancellation.stage state.trace)
    (failure : ∀ holder, Cancellation.stage state.trace = .notifying holder →
      firstFailure next.trace = firstFailure state.trace) :
    (Cancellation.stage next.trace).Course next.frames next.trace := by
  obtain ⟨rest, before, after, others⟩ := stepped.claims
  have same : ∀ other, (next.frames other).filter Frame.claims =
      (state.frames other).filter Frame.claims := by
    intro other
    by_cases here : other = thread
    · rw [here, before, after, frames]
    · rw [others other here]
  have course := invariant.course
  rw [stage]
  generalize held : Cancellation.stage state.trace = current at course failure
  cases current with
  | idle | done => exact fun other => (same other).trans (course other)
  | swapping holder =>
      exact ⟨(same holder).trans course.1, fun other differs => (same other).trans (course.2 other differs)⟩
  | notifying holder =>
      obtain ⟨⟨frame, only, fails⟩, none⟩ := course
      refine ⟨⟨frame, (same holder).trans only, ?_⟩,
        fun other differs => (same other).trans (none other differs)⟩
      rw [failure holder rfl]
      exact fails
  | broken => exact course

omit [DecidableEq Address] in
/-- The thread that claims, if the top frame is one of its `cancel`. -/
theorem course_top (invariant : Invariant state) {frame : Frame Address Failure}
    {rest : List (Frame Address Failure)} (top : state.frames thread = frame :: rest)
    (claims : frame.claims = true) :
    (Cancellation.stage state.trace = .swapping thread ∧ frame = .swapping ∨
      Cancellation.stage state.trace = .notifying thread ∧
        frame.failure = some (firstFailure state.trace)) ∧
      rest.filter Frame.claims = [] ∧
      ∀ other, other ≠ thread → (state.frames other).filter Frame.claims = [] := by
  have course := invariant.course
  have own : (state.frames thread).filter Frame.claims = frame :: rest.filter Frame.claims := by
    rw [top, List.filter_cons_of_pos claims]
  generalize Cancellation.stage state.trace = current at course ⊢
  cases current with
  | idle | done =>
      rw [course thread] at own
      cases own
  | swapping holder =>
      by_cases mine : thread = holder
      · subst mine
        rw [course.1, List.cons.injEq] at own
        exact ⟨.inl ⟨rfl, own.1.symm⟩, own.2.symm, course.2⟩
      · rw [course.2 thread mine] at own
        cases own
  | notifying holder =>
      by_cases mine : thread = holder
      · subst mine
        obtain ⟨⟨only, same, fails⟩, none⟩ := course
        rw [same, List.cons.injEq] at own
        exact ⟨.inr ⟨rfl, own.1 ▸ fails⟩, own.2.symm, none⟩
      · rw [course.2 thread mine] at own
        cases own
  | broken => exact course.elim

omit [DecidableEq Address] in
/-- The claiming `cancel` goes on. -/
theorem course_replaced (invariant : Invariant state) {frame following : Frame Address Failure}
    (stepped : Stepped state next thread [frame] [following] events)
    (claims : frame.claims = true) (still : following.claims = true)
    (stage : Cancellation.stage next.trace = .notifying thread)
    (fails : following.failure = some (firstFailure next.trace)) :
    (Cancellation.stage next.trace).Course next.frames next.trace := by
  obtain ⟨rest, top, frames, _⟩ := stepped.frames
  obtain ⟨_, none, others⟩ := course_top invariant top claims
  have below : rest.filter Frame.claims = [] := none
  rw [stage]
  refine ⟨⟨following, ?_, fails⟩, fun other differs => ?_⟩
  · rw [frames, Function.update_self, List.singleton_append, List.filter_cons_of_pos still, below]
  · rw [frames, Function.update_of_ne differs]
    exact others other differs

omit [DecidableEq Address] in
theorem course (invariant : Invariant state) (stepped : Stepped state next thread old new events) :
    (Cancellation.stage next.trace).Course next.frames next.trace := by
  have stage := stepped.stage
  have trace := stepped.trace
  have quiet : ∀ {event : Event Failure}, events = [event] → event.isRegistered = false →
      caught state.trace event = none → ∀ holder,
        Cancellation.stage state.trace = .notifying holder →
          firstFailure next.trace = firstFailure state.trace := by
    intro event told unregistered uncaught holder _
    rw [trace, told, firstFailure_snoc unregistered, uncaught, Option.or_none]
  obtain ⟨rest, top, frames, _⟩ := stepped.frames
  cases stepped.does with
  | quiet | reset | cancelling | late | released =>
      exact course_kept invariant stepped rfl stage fun _ _ => by rw [trace, List.append_nil]
  | called | refused | invoked | extracted | returned =>
      exact course_kept invariant stepped rfl stage (quiet rfl rfl rfl)
  | registered call unset =>
      refine course_kept invariant stepped rfl stage fun holder notifying => ?_
      have set := invariant.cancelled.mpr (by rw [notifying]; simp)
      rw [set] at unset
      cases unset
  | threw call failure =>
      refine course_kept invariant stepped rfl stage (quiet rfl rfl ?_)
      have was := invariant.top top (List.mem_singleton_self (call, Phase.running thread false))
      simp [caught, accepted_eq (invariant.legal call), was, Phase.accepted]
  | cancelled unset =>
      have idle : Cancellation.stage state.trace = .idle := by
        by_contra other
        rw [invariant.cancelled.mpr other] at unset
        cases unset
      have none := invariant.course
      rw [idle] at none stage
      rw [stage]
      refine ⟨?_, fun other differs => ?_⟩
      · have below := none thread
        rw [top, List.filter_append] at below
        rw [frames, Function.update_self, List.singleton_append,
          List.filter_cons_of_pos rfl, (List.append_eq_nil_iff.mp below).2]
      · rw [frames, Function.update_of_ne differs]
        exact none other
  | swapped =>
      obtain ⟨swapping, _⟩ := course_top invariant top rfl
      obtain ⟨swapping, _⟩ | ⟨_, fails⟩ := swapping
      · have none : firstFailure next.trace = none := by
          rw [trace, firstFailure_snoc rfl, caught_early invariant.legal (by rw [swapping]; rfl)]
          rfl
        refine course_replaced invariant stepped rfl rfl ?_ (by rw [none]; rfl)
        rw [stage, swapping]
        simp [Stage.next]
      · cases fails
  | notified failure member =>
      obtain ⟨held, _⟩ := course_top invariant top rfl
      obtain ⟨_, same⟩ | ⟨notifying, fails⟩ := held
      · cases same
      · refine course_replaced invariant stepped rfl rfl (stage.trans notifying) ?_
        rw [quiet rfl rfl rfl thread notifying]
        exact fails
  | endLoop failure =>
      obtain ⟨held, _⟩ := course_top invariant top rfl
      obtain ⟨_, same⟩ | ⟨notifying, fails⟩ := held
      · cases same
      · refine course_replaced invariant stepped rfl rfl (stage.trans notifying) ?_
        rw [trace, List.append_nil]
        exact fails
  | passed call waiting failure =>
      obtain ⟨held, _⟩ := course_top invariant top rfl
      obtain ⟨_, same⟩ | ⟨notifying, fails⟩ := held
      · cases same
      · refine course_replaced invariant stepped rfl rfl (stage.trans notifying) ?_
        rw [quiet rfl rfl rfl thread notifying]
        exact fails
  | caught call waiting first failure =>
      have was := invariant.top top (List.mem_cons_self (a := (call, Phase.running thread true)))
      obtain ⟨held, _⟩ := course_top invariant top rfl
      obtain ⟨_, same⟩ | ⟨notifying, fails⟩ := held
      · cases same
      · refine course_replaced invariant stepped rfl rfl (stage.trans notifying) ?_
        have threw : Cancellation.caught state.trace (.threw thread call failure) = some failure := by
          simp [Cancellation.caught, accepted_eq (invariant.legal call), was, Phase.accepted]
        rw [trace, firstFailure_snoc rfl, threw]
        cases fails
        rfl
  | completed failure =>
      obtain ⟨held, below, others⟩ := course_top invariant top rfl
      obtain ⟨_, same⟩ | ⟨notifying, _⟩ := held
      · cases same
      · have done : Cancellation.stage next.trace = .done := by
          rw [stage, notifying]
          simp [Stage.next]
        rw [done]
        intro other
        by_cases here : other = thread
        · rw [here, frames, Function.update_self]
          exact below
        · rw [frames, Function.update_of_ne here]
          exact others other here

omit [DecidableEq Address] in
/-- The flag is set by the first exchange and stays so. -/
theorem flag (invariant : Invariant state) (stepped : Stepped state next thread old new events) :
    next.cancelled = true ↔ Cancellation.stage next.trace ≠ .idle := by
  have legal : Cancellation.stage next.trace ≠ .broken := by
    intro broken
    have course := stepped.course invariant
    rw [broken] at course
    exact course
  have before := invariant.cancelled
  rw [stepped.stage] at legal ⊢
  rw [stepped.cancelled]
  cases stepped.does with
  | cancelled unset =>
      have idle : Cancellation.stage state.trace = .idle := by
        by_contra other
        rw [before.mpr other] at unset
        cases unset
      simp [idle, Event.isCancelled, Stage.next]
  | swapped =>
      by_cases swapping : Cancellation.stage state.trace = .swapping thread
      · simpa [swapping, Event.isCancelled, Stage.next] using before
      · simp [Stage.next, swapping] at legal
  | completed =>
      by_cases notifying : Cancellation.stage state.trace = .notifying thread
      · simpa [notifying, Event.isCancelled, Stage.next] using before
      · simp [Stage.next, notifying] at legal
  | _ => simpa [Event.isCancelled, Stage.next] using before

end Stepped

omit [DecidableEq Address] in
theorem Invariant.kept (invariant : Invariant state)
    (stepped : Stepped state next thread old new events) : Invariant next where
  inStep := stepped.inStep invariant
  legal := stepped.legal invariant
  course := stepped.course invariant
  cancelled := stepped.flag invariant
  stored := stepped.stored invariant
  once := stepped.once invariant
  fresh := stepped.fresh invariant

end MiniTrantor.Coroutine.Cancellation
