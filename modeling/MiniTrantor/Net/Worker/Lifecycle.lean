import MiniTrantor.Net.Worker.Publication

/-!
# The life of a published loop

What the callers of `startLoop` get, and the order in which workers are started, joined and
their loops destroyed.
-/

set_option autoImplicit false

namespace MiniTrantor.Net.Worker

variable {owner next changed : EventLoopThread} {thread : Thread} {worker : Nat}
  {old new : Option Call} {was : Phase} {phase : Option Phase}

namespace Sound

/-- A state that shows a loop has one. -/
theorem published (sound : Sound owner)
    (shown : owner.state_ = .running ∨ owner.state_ = .exited) :
    ∃ worker, owner.loop_ = some worker ∧ owner.alive worker = true := by
  by_cases none : ∀ worker, owner.workers worker = none
  · have idle := sound.idle none
    rcases shown with running | exited
    · exact absurd running idle.running
    · exact absurd exited idle.exited
  · obtain ⟨worker, present⟩ := not_forall.mp none
    obtain ⟨phase, at_⟩ := Option.ne_none_iff_exists'.mp present
    have known := sound.phases worker phase at_
    have owned : Owned owner worker → ∃ worker, owner.loop_ = some worker ∧
        owner.alive worker = true := fun own => ⟨worker, own.1, own.2.2⟩
    have hidden : ¬ (owner.state_ = .starting ∨ owner.state_ = .stopping) := by
      rintro (same | same) <;> simp [same] at shown
    cases phase with
    | constructing => exact absurd (.inl known.2.2.1) hidden
    | publishing => exact absurd (.inl known.2.2.2.1) hidden
    | initializing | checking | announcing | looping | exiting | retained | unpublishing =>
        exact owned known.1
    | destroying | destructing | finishing => exact absurd known.2.2 hidden

/-- The pointer is that of a worker whose loop is alive. -/
theorem own (sound : Sound owner) {loop : Nat} (set : owner.loop_ = some loop) :
    ∃ phase, owner.workers loop = some phase ∧ Owned owner loop := by
  by_cases none : ∀ worker, owner.workers worker = none
  · cases (sound.idle none).loop.symm.trans set
  · obtain ⟨worker, present⟩ := not_forall.mp none
    obtain ⟨phase, at_⟩ := Option.ne_none_iff_exists'.mp present
    have known := sound.phases worker phase at_
    have owned : Owned owner worker →
        ∃ phase, owner.workers loop = some phase ∧ Owned owner loop := by
      intro own
      obtain rfl : worker = loop := Option.some.inj (own.1.symm.trans set)
      exact ⟨phase, at_, own⟩
    cases phase with
    | constructing | publishing | destroying | destructing | finishing =>
        cases known.1.symm.trans set
    | initializing | checking | announcing | looping | exiting | retained | unpublishing =>
        exact owned known.1

end Sound

/-- A loop is destroyed when its address is not to be had any more. -/
theorem Steps.destroys (steps : Steps owner next) (sound : Sound owner) {loop : Nat}
    (before : owner.alive loop = true) (after : next.alive loop = false) :
    owner.loop_ = none := by
  have kept : next.alive = owner.alive → owner.loop_ = none := by
    intro same
    rw [same, before] at after
    cases after
  cases steps with
  | calls calls => exact kept calls.same.2.2.2
  | requestStop => exact kept rfl
  | quit => exact kept rfl
  | @works worker _ _ _ works at_ =>
      cases works with
      | construct =>
          rw [enter_alive] at after
          dsimp only at after
          by_cases same : loop = worker
          · rw [same, Function.update_self] at after
            cases after
          · rw [Function.update_of_ne same, before] at after
            cases after
      | destroy => exact (sound.phases _ _ at_).1
      | _ => exact kept rfl

/-- Nobody takes a stop back. -/
theorem Steps.stops (steps : Steps owner next) (sound : Sound owner)
    (stopping : owner.state_ = .stopping) : next.state_ ≠ .running := by
  cases steps with
  | calls calls =>
      rcases calls.state with ⟨same, _⟩ | ⟨_, _, _, same, _⟩ | ⟨_, _, _, same | same⟩
      · simp [same, stopping]
      · simp [same, requested_idle.1]
      · simp [same]
      · simp [same]
  | requestStop => exact requested_idle.1
  | quit => simp [stopping]
  | works works at_ =>
      cases works with
      | announce => cases stopping.symm.trans (sound.phases _ _ at_).2.1
      | exit => simp
      | finish failure => cases failure <;> simp
      | _ => simp [stopping, EventLoopThread.emit]

/-- What is recorded, but for the start of a worker. -/
theorem Calls.logs (calls : Calls owner thread old new changed) :
    (old = some .spawn ∧ changed.trace = owner.trace ++ [.started owner.spawned] ∧
      changed.spawned = owner.spawned + 1 ∧ changed.thread_ = some owner.spawned) ∨
      ∃ events, changed.trace = owner.trace ++ events ∧
        (∀ worker, .started worker ∉ events) ∧ changed.spawned = owner.spawned ∧
        (∀ by_ loop, .returned by_ loop ∈ events → loop = owner.loop_ ∧
          (owner.state_ = .running ∨ owner.state_ = .exited)) ∧
        (changed.thread_ = owner.thread_ ∨ changed.thread_ = none ∧
          ∀ worker, owner.thread_ = some worker → .joined worker ∈ events) := by
  have joined : ∀ {changed : EventLoopThread}, Joins owner changed →
      ∃ events, changed.trace = owner.trace ++ events ∧
        (∀ worker, .started worker ∉ events) ∧ changed.spawned = owner.spawned ∧
        (∀ by_ loop, .returned by_ loop ∉ events) ∧
        (changed.thread_ = owner.thread_ ∨ changed.thread_ = none ∧
          ∀ worker, owner.thread_ = some worker → .joined worker ∈ events) := by
    intro changed joins
    cases joins with
    | none => exact ⟨[], by simp, by simp, rfl, by simp, .inl rfl⟩
    | @ended last at_ =>
        refine ⟨[.joined last], rfl, by simp, rfl, by simp, .inr ⟨rfl, fun worker same => ?_⟩⟩
        cases at_.symm.trans same
        simp
  have quiet : ∀ {changed : EventLoopThread}, changed.trace = owner.trace →
      changed.spawned = owner.spawned → changed.thread_ = owner.thread_ →
      ∃ events, changed.trace = owner.trace ++ events ∧
        (∀ worker, .started worker ∉ events) ∧ changed.spawned = owner.spawned ∧
        (∀ by_ loop, .returned by_ loop ∈ events → loop = owner.loop_ ∧
          (owner.state_ = .running ∨ owner.state_ = .exited)) ∧
        (changed.thread_ = owner.thread_ ∨ changed.thread_ = none ∧
          ∀ worker, owner.thread_ = some worker → .joined worker ∈ events) :=
    fun trace spawned thread_ => ⟨[], by simp [trace], by simp, spawned, by simp, .inl thread_⟩
  cases calls with
  | spawn => exact .inl ⟨rfl, rfl, rfl, rfl⟩
  | reenterRunning running =>
      refine .inr ⟨_, rfl, by simp, rfl, fun by_ loop member => ?_, .inl rfl⟩
      cases List.mem_singleton.mp member
      exact ⟨rfl, .inl running⟩
  | publish known =>
      refine .inr ⟨_, rfl, by simp, rfl, fun by_ loop member => ?_, .inl rfl⟩
      cases List.mem_singleton.mp member
      exact ⟨rfl, known.elim (fun reused => .inl reused.2) And.right⟩
  | reentered | spawnFailed | selfStop => exact .inr ⟨_, rfl, by simp, rfl, by simp, .inl rfl⟩
  | join joins =>
      obtain ⟨events, trace, started, spawned, returned, last⟩ := joined joins
      exact .inr ⟨events, trace, started, spawned, fun by_ loop member =>
        absurd member (returned by_ loop), last⟩
  | joinStopped joins =>
      obtain ⟨events, trace, started, spawned, returned, last⟩ := joined joins
      exact .inr ⟨events, trace, started, spawned, fun by_ loop member =>
        absurd member (returned by_ loop), last⟩
  | @joinFailed _ _ refusal joins =>
      obtain ⟨events, trace, started, spawned, returned, last⟩ := joined joins
      refine .inr ⟨events ++ [.threw thread refusal], ?_, fun worker member => ?_, spawned,
        fun by_ loop member => ?_, last.imp id fun gone => ⟨gone.1, fun worker same => ?_⟩⟩
      · rw [← List.append_assoc, ← trace]
        rfl
      · simp [started worker] at member
      · simp [returned by_ loop] at member
      · exact List.mem_append_left _ (gone.2 worker same)
  | begin | manage | outside | lock | stale | request | reset | spawnFails | startFailed | leave =>
      exact .inr (quiet rfl rfl rfl)

theorem Works.logs (works : Works owner worker was phase changed) :
    changed.trace = owner.trace ∨ changed.trace = owner.trace ++ [.destroyed worker] := by
  cases works with
  | destroy => exact .inr rfl
  | _ => exact .inl rfl

/-- What is recorded of the workers, and of the calls that are about to return. -/
structure Recorded (owner : EventLoopThread) : Prop where
  joined : ∀ worker, worker < owner.spawned → owner.thread_ ≠ some worker →
    .joined worker ∈ owner.trace
  started : ∀ worker, .started worker ∈ owner.trace → worker < owner.spawned
  ordered : ∀ before worker after, owner.trace = before ++ .started worker :: after →
    ∀ earlier, .started earlier ∈ before → .joined earlier ∈ before
  left : ∀ thread pointer, owner.calls thread = some (.leave pointer) →
    ∃ loop, pointer = some loop ∧
      ((owner.loop_ = some loop ∧ (owner.state_ = .running ∨ owner.state_ = .exited)) ∨
        .selfStopped (.worker loop) ∈ owner.trace)

namespace Recorded

/-- No worker is started by what is recorded. -/
theorem ordered_append (recorded : Recorded owner) {events : List Event}
    (none : ∀ worker, .started worker ∉ events) : ∀ before worker after,
    owner.trace ++ events = before ++ .started worker :: after →
      ∀ earlier, .started earlier ∈ before → .joined earlier ∈ before := by
  intro before worker after split
  obtain ⟨middle, _, old⟩ := Trace.split_append split (none worker)
  exact recorded.ordered before worker middle old

theorem left_calls (recorded : Recorded owner) (sound : Sound owner)
    (calls : Calls owner thread old new changed) (at_ : owner.calls thread = old)
    {by_ : Thread} {pointer : Option Nat}
    (leaves : (changed.put thread new).calls by_ = some (.leave pointer)) :
    ∃ loop, pointer = some loop ∧
      ((changed.loop_ = some loop ∧ (changed.state_ = .running ∨ changed.state_ = .exited)) ∨
        .selfStopped (.worker loop) ∈ changed.trace) := by
  obtain ⟨same, _, kept, _⟩ := calls.same
  have grows : ∀ event ∈ owner.trace, event ∈ changed.trace := by
    intro event member
    rcases calls.logs with ⟨_, trace, _⟩ | ⟨events, trace, _⟩
    · exact trace ▸ List.mem_append_left _ member
    · exact trace ▸ List.mem_append_left _ member
  rw [put_calls] at leaves
  by_cases mine : by_ = thread
  · rw [mine, Function.update_self] at leaves
    cases calls with
    | publish known =>
        cases leaves
        have shown : owner.state_ = .running ∨ owner.state_ = .exited :=
          known.elim (fun reused => .inl reused.2) And.right
        obtain ⟨loop, set, _⟩ := sound.published shown
        exact ⟨loop, set, .inl ⟨set, shown⟩⟩
    | begin _ known =>
        cases leaves
        simp at known
    | manage _ known | outside _ known | lock _ known | request known =>
        cases leaves
        simp at known
    | reenterRunning | reentered | stale | join | reset | spawn | spawnFails | spawnFailed
    | startFailed | joinFailed | leave | selfStop | joinStopped => cases leaves
  · rw [Function.update_of_ne mine, kept] at leaves
    have held := sound.controls by_ _ leaves rfl
    have other : ∀ call, old = some call → call.controls = false := by
      intro call was
      by_contra controls
      have too := sound.controls thread call (at_.trans was) (by simpa using controls)
      exact mine (Option.some.inj (held.symm.trans too))
    obtain ⟨loop, rfl, ⟨set, shown⟩ | told⟩ := recorded.left by_ pointer leaves
    · refine ⟨loop, rfl, ?_⟩
      rcases calls.state with ⟨state, _⟩ | ⟨call, rfl, requests, _⟩ | ⟨call, rfl, cleared, _⟩
      · exact .inl ⟨same.trans set, state ▸ shown⟩
      · cases call with
        | release | requestJoin => cases other _ rfl
        | requestStop =>
            -- the worker stops itself
            cases thread with
            | outside id => cases sound.outside id _ at_
            | worker known =>
                obtain ⟨_, phase, here, _⟩ := sound.managed known _ at_
                obtain ⟨there, present, _⟩ := sound.own set
                obtain rfl := sound.only here present
                cases calls with
                | manage _ known => simp at known
                | outside _ known => simp at known
                | lock _ known => simp at known
                | publish known => simp at known
                | request known => simp at known
                | selfStop => exact .inr (by simp [EventLoopThread.emit])
        | _ => cases requests
      · cases (other _ rfl).symm.trans (cleared_controls cleared)
    · exact ⟨loop, rfl, .inr (grows _ told)⟩

theorem calls (recorded : Recorded owner) (sound : Sound owner)
    (calls : Calls owner thread old new changed) (at_ : owner.calls thread = old) :
    Recorded (changed.put thread new) := by
  have left := fun by_ pointer leaves =>
    @recorded.left_calls _ _ _ _ _ sound calls at_ by_ pointer leaves
  rcases calls.logs with ⟨rfl, trace, spawned, thread_⟩ | ⟨events, trace, none, spawned, _, last⟩
  · have cleared := sound.cleared thread .spawn at_ rfl
    have joined : ∀ worker, worker < owner.spawned → .joined worker ∈ owner.trace :=
      fun worker small => recorded.joined worker small (by simp [cleared])
    refine ⟨fun worker small apart => ?_, fun worker member => ?_,
      fun before worker after split earlier member => ?_, left⟩
    · rw [put_spawned, spawned] at small
      rw [put_thread, thread_] at apart
      have older : worker ≠ owner.spawned := fun same => apart (congrArg some same.symm)
      exact trace ▸ List.mem_append_left _ (joined worker (by omega))
    · rw [put_trace, trace, List.mem_append, List.mem_singleton] at member
      rw [put_spawned, spawned]
      rcases member with before | same
      · exact Nat.lt_succ_of_lt (recorded.started worker before)
      · cases same
        exact Nat.lt_succ_self _
    · rw [put_trace, trace] at split
      rcases Trace.split_snoc split with ⟨rfl, _, _⟩ | ⟨middle, _, old⟩
      · exact joined earlier (recorded.started earlier member)
      · exact recorded.ordered before worker middle old earlier member
  · refine ⟨fun worker small apart => ?_, fun worker member => ?_, ?_, left⟩
    · rw [put_spawned, spawned] at small
      rw [put_trace, trace]
      by_cases known : owner.thread_ = some worker
      · rcases last with kept | ⟨_, joins⟩
        · exact absurd (kept.trans known) apart
        · exact List.mem_append_right _ (joins worker known)
      · exact List.mem_append_left _ (recorded.joined worker small known)
    · rw [put_trace, trace, List.mem_append] at member
      rw [put_spawned, spawned]
      exact recorded.started worker (member.resolve_right (none worker))
    · rw [put_trace, trace]
      exact recorded.ordered_append none

theorem works (recorded : Recorded owner) (sound : Sound owner)
    (works : Works owner worker was phase changed) (at_ : owner.workers worker = some was) :
    Recorded (changed.enter worker phase) := by
  obtain ⟨thread_, _, spawned, _, calls, _⟩ := works.same
  obtain ⟨events, trace, none⟩ : ∃ events, changed.trace = owner.trace ++ events ∧
      ∀ worker, .started worker ∉ events := by
    rcases works.logs with trace | trace
    · exact ⟨[], by simp [trace], by simp⟩
    · exact ⟨_, trace, by simp⟩
  have grows : ∀ event ∈ owner.trace, event ∈ changed.trace :=
    fun event member => trace ▸ List.mem_append_left _ member
  refine ⟨fun worker small apart => ?_, fun worker member => ?_, ?_,
    fun thread pointer leaves => ?_⟩
  · exact grows _ (recorded.joined worker (spawned ▸ small) (thread_ ▸ apart))
  · rw [enter_trace, trace, List.mem_append] at member
    rw [enter_spawned, spawned]
    exact recorded.started worker (member.resolve_right (none worker))
  · rw [enter_trace, trace]
    exact recorded.ordered_append none
  · rw [enter_calls, calls] at leaves
    obtain ⟨loop, rfl, ⟨set, shown⟩ | told⟩ := recorded.left thread pointer leaves
    · refine ⟨loop, rfl, .inl ?_⟩
      have known := sound.phases worker was at_
      have hidden : ¬ Ending owner := by
        rintro (same | same) <;> simp [same] at shown
      cases works with
      | publish => exact absurd (.inl known.2.2.2.1) hidden
      | announce => exact ⟨set, .inl rfl⟩
      | exit => exact ⟨set, .inr rfl⟩
      | unpublish => exact absurd known.2 hidden
      | finish => exact absurd known.2.2 hidden
      | _ => exact ⟨set, shown⟩
    · exact ⟨loop, rfl, .inr (grows _ told)⟩

theorem step (recorded : Recorded owner) (sound : Sound owner) (steps : Steps owner next) :
    Recorded next := by
  cases steps with
  | calls calls at_ => exact recorded.calls sound calls at_
  | works works at_ => exact recorded.works sound works at_
  | quit => exact ⟨recorded.joined, recorded.started, recorded.ordered, recorded.left⟩
  | requestStop permitted =>
      refine ⟨recorded.joined, recorded.started, recorded.ordered, fun thread pointer leaves => ?_⟩
      have none := permitted thread (sound.controls thread _ leaves rfl)
      have calls : owner.calls thread = some (.leave pointer) := leaves
      rw [calls] at none
      cases none

theorem start : Recorded {} := by
  refine ⟨fun worker small => ?_, fun worker member => ?_, fun before worker after split => ?_,
    fun thread pointer leaves => ?_⟩
  · cases small
  · cases member
  · cases before <;> cases split
  · cases leaves

end Recorded

theorem reach (reached : Reach EventLoopThread.step Permitted {} owner) :
    Sound owner ∧ Recorded owner := by
  refine @Reach.invariant _ _ _ _ _ (fun owner => Sound owner ∧ Recorded owner)
    ⟨.start, .start⟩ (fun state next action known permitted taken => ?_) _ reached
  have steps := step_cases permitted taken
  exact ⟨known.1.step steps, known.2.step known.1 steps⟩

/-- What holds of the loop that is published, in a state and in the step that follows. -/
structure Publishes (owner : EventLoopThread) : Prop where
  published : owner.state_ = .running ∨ owner.state_ = .exited →
    ∃ loop, owner.loop_ = some loop ∧ owner.alive loop = true
  returned : ∀ action next events thread pointer, Permitted owner action →
    owner.step action = some next → next.trace = owner.trace ++ events →
    .returned thread pointer ∈ events →
    ∃ loop, pointer = some loop ∧ owner.alive loop = true ∧ next.alive loop = true
  left : ∀ thread pointer, owner.calls thread = some (.leave pointer) →
    ∃ loop, pointer = some loop ∧
      (owner.alive loop = true ∨ .selfStopped (.worker loop) ∈ owner.trace)
  destroyed : ∀ action next loop, Permitted owner action → owner.step action = some next →
    owner.alive loop = true → next.alive loop = false → owner.loop_ = none
  stopping : ∀ action next, Permitted owner action → owner.step action = some next →
    owner.state_ = .stopping → next.state_ ≠ .running
  joined : ∀ before worker after, owner.trace = before ++ .started worker :: after →
    ∀ earlier, .started earlier ∈ before → .joined earlier ∈ before

theorem Steps.returns (steps : Steps owner next) {events : List Event} {pointer : Option Nat}
    (trace : next.trace = owner.trace ++ events) (member : .returned thread pointer ∈ events) :
    pointer = owner.loop_ ∧ (owner.state_ = .running ∨ owner.state_ = .exited) ∧
      next.alive = owner.alive := by
  have logged : ∀ {more : List Event}, next.trace = owner.trace ++ more →
      .returned thread pointer ∈ more := by
    intro more known
    rw [trace, List.append_cancel_left_eq] at known
    exact known ▸ member
  cases steps with
  | calls calls =>
      rcases calls.logs with ⟨_, told, _⟩ | ⟨logs, told, _, _, returned, _⟩
      · simpa using logged told
      · obtain ⟨same, shown⟩ := returned thread pointer (logged told)
        exact ⟨same, shown, calls.same.2.2.2⟩
  | works works =>
      rcases works.logs with told | told
      · simpa using logged (told.trans (List.append_nil _).symm)
      · simpa using logged told
  | requestStop =>
      have none : owner.requestStopLocked.trace = owner.trace ++ [] := (List.append_nil _).symm
      simpa using logged none
  | quit => simpa using logged (List.append_nil _).symm

/-- The loop of a worker is published while it is alive. -/
theorem worker_loop_publication
    (reached : Reach EventLoopThread.step Permitted {} owner) : Publishes owner := by
  obtain ⟨sound, recorded⟩ := reach reached
  refine ⟨sound.published, fun action next events thread pointer permitted taken trace member => ?_,
    fun thread pointer leaves => ?_, fun action next loop permitted taken before after => ?_,
    fun action next permitted taken stopping => ?_, recorded.ordered⟩
  · obtain ⟨rfl, shown, alive⟩ := (step_cases permitted taken).returns trace member
    obtain ⟨loop, set, lives⟩ := sound.published shown
    exact ⟨loop, set, lives, alive ▸ lives⟩
  · obtain ⟨loop, same, ⟨set, shown⟩ | told⟩ := recorded.left thread pointer leaves
    · obtain ⟨_, _, own⟩ := sound.own set
      exact ⟨loop, same, .inl own.2.2⟩
    · exact ⟨loop, same, .inr told⟩
  · exact (step_cases permitted taken).destroys sound before after
  · exact (step_cases permitted taken).stops sound stopping

theorem permitted_of_ne {action : Action} (other : action ≠ .requestStop) :
    Permitted owner action := by
  cases action <;> first | exact trivial | exact absurd rfl other

theorem worker_loop_publication_started : ∃ owner : EventLoopThread,
    owner.trace = [.started 0, .returned (.outside 0) (some 0)] ∧
      owner.loop_ = some 0 ∧ owner.alive 0 = true := by
  have final : ∃ owner, run EventLoopThread.step {}
      (.startLoop (.outside 0) :: List.replicate 7 (.goOn (.outside 0)) ++
        List.replicate 5 (.work 0) ++ [.goOn (.outside 0)]) = some owner ∧
      owner.trace = [.started 0, .returned (.outside 0) (some 0)] ∧
      owner.state_ = .running ∧ owner.loop_ = some 0 := ⟨_, rfl, rfl, rfl, rfl⟩
  obtain ⟨owner, ran, trace, running, loop⟩ := final
  have reached : Reach EventLoopThread.step Permitted {} owner := by
    refine Reach.start.run (fun action member state => permitted_of_ne fun same => ?_) ran
    rw [same] at member
    revert member
    decide
  obtain ⟨own, set, alive⟩ := (worker_loop_publication reached).published (.inl running)
  cases set.symm.trans loop
  exact ⟨owner, trace, loop, alive⟩

end MiniTrantor.Net.Worker
