import MiniTrantor.Net.Connection.Released

/-!
# The awaiter protocol

A waiter is resumed once at most, by the functor that was queued for it, with the
outcome it was queued with; a second waiter of a kind is refused; a write whose
token was cancelled in time submits nothing.
-/

set_option autoImplicit false

namespace MiniTrantor.Net

open ConnectionAwaiterRegistry ConnectionBackpressureController TcpConnection

variable {world : World} {waiter other : WaiterId}

/-! ## Resumptions -/

def Event.isResumed (waiter : WaiterId) : Event → Bool
  | .callback (.resumed resumed _) => resumed == waiter
  | _ => false

/-- How often the waiter's coroutine was resumed. -/
def Conn.resumptions (conn : Conn) (waiter : WaiterId) : Nat :=
  conn.trace.countP (Event.isResumed waiter)

/-- Events that the facts about one waiter read. -/
def Event.concerns (waiter : WaiterId) : Event → Bool
  | .callback (.resumed other _) | .resumeQueued other _ | .abandoned other => other == waiter
  | _ => false

theorem isResumed_concerns {event : Event} (resumed : event.isResumed waiter = true) :
    event.concerns waiter = true := by
  cases event with
  | callback entered => cases entered <;> exact resumed
  | _ => cases resumed

/-- What ties one waiter to the trace. -/
structure ProtocolFacts (waiter : WaiterId) (state : AwaiterState) (trace : List Event) : Prop where
  once : trace.countP (Event.isResumed waiter) ≤ 1
  resumed : state.phase ≠ .completed → trace.countP (Event.isResumed waiter) = 0
  recorded : state.phase = .queued ∨ state.phase = .completed →
    .resumeQueued waiter state.outcome ∈ trace
  fixed : ∀ outcome, .resumeQueued waiter outcome ∈ trace →
    state.phase ≠ .unarmed ∧ state.phase ≠ .pending ∧ state.outcome = outcome
  abandoned : .abandoned waiter ∈ trace → state.phase = .abandoned

def Protocol (waiter : WaiterId) (conn : Conn) : Prop :=
  ProtocolFacts waiter (conn.waiters waiter) conn.trace

namespace ProtocolFacts

variable {state next : AwaiterState} {trace events : List Event}

theorem quiet (kept : ProtocolFacts waiter state trace)
    (others : ∀ event ∈ events, event.concerns waiter = false) :
    ProtocolFacts waiter state (trace ++ events) := by
  have none : events.countP (Event.isResumed waiter) = 0 := by
    refine List.countP_eq_zero.mpr fun event member resumed => ?_
    have concerned := isResumed_concerns resumed
    rw [others event member] at concerned
    cases concerned
  have count : (trace ++ events).countP (Event.isResumed waiter) =
      trace.countP (Event.isResumed waiter) := by
    rw [List.countP_append, none, Nat.add_zero]
  refine ⟨count ▸ kept.once, count ▸ kept.resumed,
    fun waited => List.mem_append_left _ (kept.recorded waited), fun outcome member => ?_,
    fun member => kept.abandoned ?_⟩
  · rcases List.mem_append.mp member with old | new
    · exact kept.fixed outcome old
    · simpa [Event.concerns] using others _ new
  · rcases List.mem_append.mp member with old | new
    · exact old
    · simpa [Event.concerns] using others _ new

theorem note {event : Event} (kept : ProtocolFacts waiter state trace)
    (other : event.concerns waiter = false) : ProtocolFacts waiter state (trace ++ [event]) :=
  kept.quiet (by simpa using other)

/-- A waiter that is not resumed yet has no resumption behind it. -/
theorem await (kept : ProtocolFacts waiter state trace) (unarmed : state.phase = .unarmed)
    (pending : next.phase = .pending) : ProtocolFacts waiter next trace where
  once := kept.once
  resumed := fun _ => kept.resumed (by rw [unarmed]; decide)
  recorded := by rw [pending]; simp
  fixed := fun outcome member => absurd unarmed (kept.fixed outcome member).1
  abandoned := fun member => by
    have ended := kept.abandoned member
    rw [unarmed] at ended
    cases ended

/-- A pending waiter is queued with the outcome that its functor will find. -/
theorem queue (kept : ProtocolFacts waiter state trace) (pending : state.phase = .pending)
    (queued : next.phase = .queued) :
    ProtocolFacts waiter next (trace ++ [.resumeQueued waiter next.outcome]) where
  once := by
    rw [List.countP_append, kept.resumed (by rw [pending]; decide)]
    exact Nat.zero_le 1
  resumed := fun _ => by
    rw [List.countP_append, kept.resumed (by rw [pending]; decide)]
    rfl
  recorded := fun _ => by simp
  fixed := by
    intro outcome member
    rcases List.mem_append.mp member with old | new
    · exact absurd pending (kept.fixed outcome old).2.1
    · cases List.mem_singleton.mp new
      rw [queued]
      exact ⟨by decide, by decide, rfl⟩
  abandoned := by
    intro member
    have ended := kept.abandoned (by simpa using member)
    rw [pending] at ended
    cases ended

/-- A waiter that is destroyed before its resumption is never resumed. -/
theorem abandon (kept : ProtocolFacts waiter state trace)
    (waiting : state.phase = .pending ∨ state.phase = .queued) (ended : next.phase = .abandoned)
    (outcome : next.outcome = state.outcome) :
    ProtocolFacts waiter next (trace ++ [.abandoned waiter]) := by
  have unresumed : trace.countP (Event.isResumed waiter) = 0 :=
    kept.resumed (by rcases waiting with phase | phase <;> rw [phase] <;> decide)
  refine ⟨?_, fun _ => ?_, ?_, fun queued member => ?_, fun _ => ended⟩
  · rw [List.countP_append, unresumed]
    exact Nat.zero_le 1
  · rw [List.countP_append, unresumed]
    rfl
  · rw [ended]
    simp
  · rw [ended, outcome]
    exact ⟨by decide, by decide, (kept.fixed queued (by simpa using member)).2.2⟩

/-- The resumption of a queued waiter is its first. -/
theorem finish (kept : ProtocolFacts waiter state trace) (queued : state.phase = .queued)
    (count : (trace ++ events).countP (Event.isResumed waiter) ≤
      trace.countP (Event.isResumed waiter) + 1)
    (others : ∀ event ∈ events, event.concerns waiter = true → event.isResumed waiter = true) :
    ProtocolFacts waiter state.finished (trace ++ events) where
  once := by
    have := kept.resumed (by rw [queued]; decide)
    omega
  resumed := fun unfinished => absurd rfl unfinished
  recorded := fun _ => List.mem_append_left _ (kept.recorded (.inl queued))
  fixed := by
    intro outcome member
    refine ⟨by simp [AwaiterState.finished], by simp [AwaiterState.finished], ?_⟩
    rcases List.mem_append.mp member with old | new
    · exact (kept.fixed outcome old).2.2
    · cases others _ new (by simp [Event.concerns])
  abandoned := by
    intro member
    rcases List.mem_append.mp member with old | new
    · have ended := kept.abandoned old
      rw [queued] at ended
      cases ended
    · cases others _ new (by simp [Event.concerns])

end ProtocolFacts

namespace Protocol

variable {conn before after : Conn}

/-- Another waiter changes, and nothing is recorded of this one. -/
theorem other_waiter {state : AwaiterState} {event : Event} (kept : Protocol waiter conn)
    (different : waiter ≠ other)
    (waiters : after.waiters = Function.update conn.waiters other state)
    (trace : after.trace = conn.trace ++ [event]) (unconcerned : event.concerns waiter = false) :
    Protocol waiter after := by
  unfold Protocol
  rw [waiters, trace, Function.update_of_ne different]
  exact kept.note unconcerned

/-- A pending waiter is queued, with the outcome its new state has. -/
theorem queued {state : AwaiterState} (kept : Protocol waiter conn)
    (pending : (conn.waiters other).phase = .pending) (phase : state.phase = .queued)
    (waiters : after.waiters = Function.update conn.waiters other state)
    (trace : after.trace = conn.trace ++ [.resumeQueued other state.outcome]) :
    Protocol waiter after := by
  by_cases same : waiter = other
  · subst same
    unfold Protocol
    rw [waiters, trace, Function.update_self]
    exact kept.queue pending phase
  · exact kept.other_waiter same waiters trace (by simpa [Event.concerns] using Ne.symm same)

theorem awaited {state : AwaiterState} (kept : Protocol waiter conn)
    (unarmed : (conn.waiters other).phase = .unarmed) (phase : state.phase = .pending)
    (waiters : after.waiters = Function.update conn.waiters other state)
    (trace : after.trace = conn.trace) : Protocol waiter after := by
  unfold Protocol
  rw [waiters, trace]
  by_cases same : waiter = other
  · subst same
    rw [Function.update_self]
    exact kept.await unarmed phase
  · rw [Function.update_of_ne same]
    exact kept

theorem arrived {origin : Origin} {data : Bytes} (kept : Protocol waiter before)
    (arrives : Arrives origin data before after) : Protocol waiter after := by
  cases arrives with
  | ownerSend _ => exact ProtocolFacts.note kept rfl
  | queuedSend _ | waiter _ _ _ _ _ _ => exact kept

theorem submitted {origin : Origin} {data : Bytes} (kept : Protocol waiter before)
    (effect : SubmitEffect origin data before after) : Protocol waiter after := by
  obtain ⟨⟨_, _, events, _, _, trace, _, transfers, _⟩, frame⟩ := effect
  have waiters : after.waiters = before.waiters := by rw [frame]
  unfold Protocol
  rw [trace, waiters]
  refine ProtocolFacts.quiet kept fun event member => ?_
  rcases List.mem_cons.mp member with rfl | transfer
  · rfl
  · have moved := transfers event transfer
    cases event <;> first | rfl | cases moved

theorem isNote_concerns {event : Event} (note : event.isNote = true) : event.concerns waiter = false := by
  cases event with
  | callback entered => cases entered <;> first | rfl | cases note
  | _ => first | rfl | cases note

theorem move (kept : Protocol waiter before) (move : Move world before after) : Protocol waiter after := by
  cases move with
  | enqueue | dequeue | request | push | claims | callbacks | policy => exact kept
  | dequeueShutdown | accept | reading | modifyInput | error | beginShutdown | requestShutdown
  | shutdownWrite | destroyed => exact ProtocolFacts.note kept rfl
  | note note => exact ProtocolFacts.note kept (isNote_concerns note)
  | submit arrives _ submits => exact (kept.arrived arrives).submitted submits.effect
  | requestAwait unarmed => exact kept.awaited unarmed rfl rfl rfl
  | @register _ other registration _ =>
      by_cases same : waiter = other
      · subst same
        have changed : ProtocolFacts waiter { before.waiters waiter with registration } before.trace :=
          ⟨kept.once, kept.resumed, kept.recorded, kept.fixed, kept.abandoned⟩
        simpa [Protocol] using changed
      · simpa [Protocol, same] using kept
  | cancelled pending =>
      exact kept.queued pending rfl (markQueued_setWaiter _ _ before) (by simp [markQueued])
  | failed pending =>
      exact kept.queued pending rfl (markQueued_setWaiter _ _ before) (by simp [markQueued])
  | queued pending _ => exact kept.queued pending rfl rfl rfl
  | armWriteReady pending _ _ _ _ => exact kept.queued pending rfl rfl rfl
  | @armRead _ _ _ ready pending _ _ _ _ _ | @armClose _ _ _ ready pending _ _ _ _ =>
      cases ready
      · exact kept
      · exact kept.queued pending rfl rfl rfl
  | @unregister _ other waiting =>
      have waiters : ((unregisterWaiter other before).emit (.abandoned other)).waiters = _ :=
        unregisterWaiter_waiters other before
      by_cases same : waiter = other
      · subst same
        have state : AwaiterState.abandon (before.waiters waiter) =
            { before.waiters waiter with phase := .abandoned, handle := none } := if_pos waiting
        unfold Protocol
        rw [waiters, Function.update_self, state]
        exact kept.abandon waiting rfl rfl
      · exact kept.other_waiter same waiters rfl (by simpa [Event.concerns] using Ne.symm same)
  | unregisterChannel _ =>
      obtain ⟨updates, all, _, removed⟩ := unregisterChannel_eq before
      rw [removed]
      refine ProtocolFacts.note (ProtocolFacts.quiet kept fun event member => ?_) rfl
      have update := all event member
      cases event <;> first | rfl | cases update

theorem finished (kept : Protocol waiter before) (finishes : Finishes other before after) :
    Protocol waiter after := by
  cases finishes with
  | complete queued _ =>
      unfold Protocol
      rw [completeWaiter_waiters]
      by_cases same : waiter = other
      · subst same
        rw [Function.update_self]
        have finished := @ProtocolFacts.finish waiter _ _ [] kept queued (by simp) (by simp)
        rwa [List.append_nil] at finished
      · rw [Function.update_of_ne same]
        exact kept
  | finish queued _ =>
      obtain ⟨result, _, _, _, finished⟩ := finishAwait_eq _ _ _
      rw [finished]
      by_cases same : waiter = other
      · subst same
        unfold Protocol
        simp only [Function.update_self]
        refine kept.finish queued ?_ ?_
        · simp [Event.isResumed]
        · simp [Event.concerns, Event.isResumed]
      · unfold Protocol
        simp only [Function.update_of_ne same]
        exact kept.quiet (by simp [Event.concerns, Ne.symm same])

end Protocol

theorem protocol (waiter : WaiterId) : Invariant world true (Protocol waiter) := by
  constructor
  case move => exact fun move kept => kept.move move
  case take =>
    intro taken awaitable before after takes kept
    cases takes with
    | await unarmed => exact kept.awaited unarmed rfl rfl rfl
    | dequeue _ => exact kept
  case finish => exact fun finishes kept => kept.finished finishes
  case dispatch =>
    intro _ before after move kept
    cases move with
    | established => exact kept
    | @dispatch callback dispatched _ _ =>
        refine ProtocolFacts.note kept ?_
        cases callback <;> first | rfl | cases dispatched
    | receive | interest | draining => exact ProtocolFacts.note kept rfl
  case retrieve => exact fun _ _ _ _ kept => ProtocolFacts.note kept rfl
  case settle =>
    intro _ conn kept
    rcases settle_eq conn with same | settled
    · rw [same]
      exact kept
    · rw [settled]
      exact ProtocolFacts.quiet kept (by simp [Event.concerns])
  case close =>
    intro conn failed _ fails kept
    have noted : Protocol waiter failed := by
      cases fails with
      | close => exact kept
      | error => exact ProtocolFacts.note kept rfl
      | @send origin data _ _ arrives =>
          have submitted := ProtocolFacts.note (kept.arrived arrives)
            (by rfl : (Event.submitted origin data).concerns waiter = false)
          exact submitted.note rfl
    unfold Protocol
    rw [shutChannel_trace]
    exact ProtocolFacts.quiet noted (by simp [Event.concerns])
  case disconnected => exact fun _ kept => ProtocolFacts.note kept rfl
  case closeCallback => exact fun kept => ProtocolFacts.note kept rfl

/-! ## Only the waiter's own functor resumes it -/

theorem resumptions_append {before after : Conn} {events : List Event}
    (trace : after.trace = before.trace ++ events)
    (none : ∀ event ∈ events, event.isResumed waiter = false) :
    after.resumptions waiter = before.resumptions waiter := by
  have zero : events.countP (Event.isResumed waiter) = 0 :=
    List.countP_eq_zero.mpr fun event member => by simp [none event member]
  rw [Conn.resumptions, Conn.resumptions, trace, List.countP_append, zero, Nat.add_zero]

theorem Frame.resumptions {before after : Conn} {events : List Event}
    (frame : Frame before after events) : after.resumptions waiter = before.resumptions waiter := by
  refine resumptions_append frame.trace fun event member => ?_
  have quiet := frame.quiet event member
  cases event with
  | callback entered => cases entered <;> first | rfl | cases quiet
  | _ => rfl

theorem DispatchMove.resumptions {before after : Conn} (move : DispatchMove before after) :
    after.resumptions waiter = before.resumptions waiter := by
  cases move with
  | established => rfl
  | @dispatch callback dispatched _ _ =>
      refine resumptions_append rfl fun event member => ?_
      rw [List.mem_singleton.mp member]
      cases callback <;> first | rfl | cases dispatched
  | receive | interest | draining => exact resumptions_append rfl (by simp [Event.isResumed])

theorem Drains.resumptions {before after : Conn} (drains : Drains before after) :
    after.resumptions waiter = before.resumptions waiter := by
  have one : ∀ {conn next : Conn} {event : Event}, next.trace = conn.trace ++ [event] →
      event.isResumed waiter = false → next.resumptions waiter = conn.resumptions waiter :=
    fun trace other => resumptions_append trace (by simpa using other)
  induction drains with
  | first _ => exact one rfl rfl
  | more _ ih => exact (one rfl rfl).trans ih
  | wantRead _ _ ih => exact (one rfl rfl).trans ih

theorem settle_resumptions (conn : Conn) :
    (settle conn).resumptions waiter = conn.resumptions waiter := by
  rcases settle_eq conn with same | settled
  · rw [same]
  · rw [settled]
    exact resumptions_append rfl (by simp [Event.isResumed])

theorem Ran.resumptions {scope : Scope} {first second : Conn} (ran : Ran world scope first second)
    (elsewhere : scope ≠ .resume waiter) : second.resumptions waiter = first.resumptions waiter := by
  induction ran with
  | refl => rfl
  | step _ move ih =>
      obtain ⟨_, frame⟩ := move.frame
      exact frame.resumptions.trans (ih elsewhere)
  | arm _ takes _ _ ih inner =>
      refine (inner (by simp)).trans ?_
      cases takes <;> exact ih elsewhere
  | @resumed other _ _ _ _ finishes ih =>
      have different : other ≠ waiter := fun same => elsewhere (congrArg Scope.resume same)
      refine Eq.trans ?_ (ih elsewhere)
      cases finishes with
      | complete _ _ => rfl
      | finish _ _ =>
          obtain ⟨_, _, _, _, finished⟩ := finishAwait_eq _ _ _
          rw [finished]
          exact resumptions_append rfl (by simp [Event.isResumed, different])
  | dispatched _ move ih => exact move.resumptions.trans (ih elsewhere)
  | drain _ drains _ ih inner =>
      have drained := (inner (by simp)).trans (drains.resumptions.trans (ih elsewhere))
      exact (settle_resumptions _).trans drained
  | @closing _ _ _ failed third notified _ _ fails _ _ ih resumed inner =>
      obtain ⟨_, frame⟩ := fails.frame
      have shut : (shutChannel failed).resumptions waiter = failed.resumptions waiter :=
        resumptions_append (shutChannel_trace failed) (by simp [Event.isResumed])
      have noted : (noteDisconnected (beginClose world failed)).resumptions waiter =
          (beginClose world failed).resumptions waiter :=
        resumptions_append rfl (by simp [Event.isResumed])
      have closed : (noteClosed notified third).resumptions waiter = third.resumptions waiter := by
        cases notified with
        | false => rfl
        | true => exact resumptions_append rfl (by simp [Event.isResumed])
      calc (noteClosed notified third).resumptions waiter
          = (noteDisconnected (beginClose world failed)).resumptions waiter :=
            closed.trans (inner (by simp))
        _ = (shutChannel failed).resumptions waiter := noted.trans (resumed (by simp))
        _ = _ := shut.trans (frame.resumptions.trans (ih elsewhere))

/-- A step that resumes the waiter runs the functor that was queued for it. -/
theorem Step.resumes {depth : Nat} {step : Step} {conn : Conn}
    (armed : ∀ waiter awaitable, Captured waiter awaitable conn)
    (resumed : (step.take world depth conn).resumptions waiter ≠ conn.resumptions waiter) :
    step = .functor ∧ (sync world conn).queue.head? = some (.resumeWaiter waiter) := by
  have ran := Step.take_ran world depth step armed
  have scope : step.scope world conn = .resume waiter := by
    by_contra elsewhere
    exact resumed (ran.resumptions elsewhere)
  cases step with
  | event _ =>
      simp only [Step.scope] at scope
      split at scope <;> cases scope
  | call _ => cases scope
  | functor =>
      refine ⟨rfl, ?_⟩
      simp only [Step.scope] at scope
      cases next : (sync world conn).queue.head? with
      | none => rw [next] at scope; cases scope
      | some functor =>
          rw [next] at scope
          cases functor <;> cases scope
          rfl

/-! ## What a waiter submits -/

/-- The waiter's payload went past the token test of its arm step. -/
def Armed (waiter : WaiterId) (data : Bytes) (trace : List Event) : Prop :=
  ∃ awaitable state readableBytes, .arming waiter awaitable state readableBytes ∈ trace ∧
    awaitable.data = data

/-- New submissions of the waiter come from its arm step, while it is pending. -/
def SubmitsPending (waiter : WaiterId) (before after : Conn) : Prop :=
  ∀ data, .submitted (.waiter waiter) data ∈ after.trace → .submitted (.waiter waiter) data ∈ before.trace ∨
    (before.waiters waiter).phase = .pending ∧ Armed waiter data before.trace

theorem SubmitsPending.of_silent {before after : Conn} {events : List Event}
    (trace : after.trace = before.trace ++ events)
    (none : ∀ data, .submitted (.waiter waiter) data ∉ events) : SubmitsPending waiter before after := by
  intro data member
  rw [trace] at member
  exact .inl ((List.mem_append.mp member).resolve_right (none data))

/-- Only `sendInLoop` submits a payload. -/
theorem Arrives.submitsPending {origin : Origin} {data : Bytes} {before arrived after : Conn}
    (arrives : Arrives origin data before arrived) {events : List Event}
    (trace : after.trace = arrived.trace ++ .submitted origin data :: events)
    (none : ∀ data, .submitted (.waiter waiter) data ∉ events) : SubmitsPending waiter before after := by
  intro payload member
  rw [trace] at member
  rcases List.mem_append.mp member with old | new
  · cases arrives with
    | ownerSend _ => exact .inl (by simpa using old)
    | queuedSend _ | waiter _ _ _ _ _ _ => exact .inl old
  · rcases List.mem_cons.mp new with same | later
    · cases same
      cases arrives with
      | waiter pending _ _ _ _ noted =>
          obtain ⟨past, readable, noted⟩ := noted
          exact .inr ⟨pending, _, before.state, readable, by rw [noted]; simp, rfl⟩
    · exact absurd later (none payload)

theorem Move.submitsPending {before after : Conn} (move : Move world before after) :
    SubmitsPending waiter before after := by
  cases move with
  | enqueue | dequeue | request | push | claims | callbacks | policy | requestAwait | register =>
      exact .of_silent (List.append_nil _).symm (by simp)
  | dequeueShutdown | accept | reading | modifyInput | error | beginShutdown | requestShutdown
  | shutdownWrite | cancelled | failed | queued | armWriteReady | unregister | destroyed =>
      exact .of_silent rfl (by simp)
  | note note =>
      refine .of_silent rfl fun data member => ?_
      cases List.mem_singleton.mp member
      cases note
  | submit arrives _ submits =>
      obtain ⟨⟨_, _, events, _, _, trace, _, transfers, _⟩, _⟩ := submits.effect
      exact arrives.submitsPending trace fun data member => by cases transfers _ member
  | @armRead _ _ _ ready _ _ _ _ _ _ | @armClose _ _ _ ready _ _ _ _ _ =>
      cases ready
      · exact .of_silent (List.append_nil _).symm (by simp)
      · exact .of_silent rfl (by simp)
  | unregisterChannel _ =>
      obtain ⟨updates, all, _, removed⟩ := unregisterChannel_eq before
      rw [removed]
      refine .of_silent (List.append_assoc _ _ _) fun data member => ?_
      rcases List.mem_append.mp member with update | last
      · cases all _ update
      · cases List.mem_singleton.mp last

theorem Fails.submitsPending {conn failed : Conn} (fails : Fails world conn failed) :
    SubmitsPending waiter conn failed := by
  cases fails with
  | close => exact .of_silent (List.append_nil _).symm (by simp)
  | error => exact .of_silent rfl (by simp)
  | @send origin data errno arrived arrives =>
      have trace : (markPeerClosed (markError world errno (arrived.emit (.submitted origin data)))).trace =
          arrived.trace ++ [.submitted origin data, .loggedError
            (if errno ≠ 0 then errno else world.socketError (arrived.emit (.submitted origin data)))] := by
        simp [markPeerClosed, markError]
      exact arrives.submitsPending trace (by simp)

/-- A property of the waiter and the trace that only its submissions endanger. -/
theorem submitsInvariant {holds : Conn → Prop}
    (keeps : ∀ {before after}, SubmitsPending waiter before after →
      AwaiterState.Change (before.waiters waiter) (after.waiters waiter) →
      (∃ events, after.trace = before.trace ++ events) → holds before → holds after) :
    Invariant world true holds := by
  have silent : ∀ {before after : Conn} {events : List Event}, after.trace = before.trace ++ events →
      after.waiters = before.waiters → (∀ data, .submitted (.waiter waiter) data ∉ events) →
      holds before → holds after := by
    intro before after events trace waiters none
    exact keeps (.of_silent trace none) (by rw [waiters]; exact .refl _) ⟨events, trace⟩
  constructor
  case move =>
    intro before after move
    obtain ⟨_, frame⟩ := move.frame
    exact keeps move.submitsPending (move.waiter waiter) ⟨_, frame.trace⟩
  case take =>
    intro taken awaitable before after takes
    have trace : after.trace = before.trace ++ [] := by
      rw [List.append_nil]
      cases takes <;> rfl
    exact keeps (.of_silent trace (by simp)) (takes.waiter waiter) ⟨_, trace⟩
  case finish =>
    intro finished before after finishes
    have change := finishes.waiter waiter
    cases finishes with
    | complete _ _ =>
        exact keeps (.of_silent (List.append_nil _).symm (by simp)) change ⟨[], (List.append_nil _).symm⟩
    | finish _ _ =>
        obtain ⟨_, _, _, _, same⟩ := finishAwait_eq _ _ _
        rw [same] at change ⊢
        exact keeps (.of_silent rfl (by simp)) change ⟨_, rfl⟩
  case dispatch =>
    intro _ before after move
    cases move with
    | established => exact silent (List.append_nil _).symm rfl (by simp)
    | receive | dispatch | interest | draining => exact silent rfl rfl (by simp)
  case retrieve => exact fun _ _ _ _ => silent rfl rfl (by simp)
  case settle =>
    intro _ conn kept
    rcases settle_eq conn with same | settled
    · rw [same]
      exact kept
    · rw [settled]
      exact silent rfl rfl (by simp) kept
  case close =>
    intro conn failed _ fails kept
    obtain ⟨_, frame⟩ := fails.frame
    have failure := keeps fails.submitsPending (by rw [fails.waiters_eq]; exact .refl _) ⟨_, frame.trace⟩ kept
    exact silent (shutChannel_trace failed) rfl (by simp) failure
  case disconnected => exact fun _ => silent rfl rfl (by simp)
  case closeCallback => exact silent rfl rfl (by simp)

/-- Every payload that a waiter submitted went past the token test. -/
theorem submissions_armed (waiter : WaiterId) : Invariant world true fun conn =>
    ∀ data, .submitted (.waiter waiter) data ∈ conn.trace → Armed waiter data conn.trace := by
  apply submitsInvariant
  intro before after submits _ ⟨events, trace⟩ kept data member
  have grow : Armed waiter data before.trace → Armed waiter data after.trace := by
    rintro ⟨awaitable, state, readable, noted, same⟩
    exact ⟨awaitable, state, readable, by rw [trace]; exact List.mem_append_left _ noted, same⟩
  rcases submits data member with old | ⟨_, armed⟩
  · exact grow (kept data old)
  · exact grow armed

theorem AwaiterState.Change.over {old new : AwaiterState} (change : Change old new)
    (kept : old.phase ≠ .unarmed ∧ old.phase ≠ .pending) :
    new.phase ≠ .unarmed ∧ new.phase ≠ .pending := by
  refine ⟨(change.armed kept.1).1, fun pending => ?_⟩
  exact kept.2 (change.waits kept.1 pending)

/-- A waiter that is queued, resumed or abandoned submits nothing more. -/
theorem submissions_over (waiter : WaiterId) (past : List Event) : Invariant world true fun conn =>
    ((conn.waiters waiter).phase ≠ .unarmed ∧ (conn.waiters waiter).phase ≠ .pending) ∧
      ∀ data, .submitted (.waiter waiter) data ∈ conn.trace → .submitted (.waiter waiter) data ∈ past := by
  apply submitsInvariant
  intro before after submits change _ kept
  refine ⟨change.over kept.1, fun data member => ?_⟩
  rcases submits data member with old | ⟨pending, _⟩
  · exact kept.2 data old
  · exact absurd pending kept.1.2

/-! ## Duplicate waiters and cancelled tokens -/

def Registry.slot (registry : Registry) : AwaitKind → Option WaiterId
  | .read => registry.readWaiter
  | .write => registry.writeWaiter
  | .close => registry.closeWaiter

def duplicateMessage : AwaitKind → String
  | .read => "only one read waiter is allowed per TcpConnection"
  | .write => "only one write waiter is allowed per TcpConnection"
  | .close => "only one close waiter is allowed per TcpConnection"

/-- The code in between leaves the slots and an armed waiter alone. -/
structure Spares (waiter : WaiterId) (before after : Conn) : Prop where
  registry : after.registry = before.registry
  waiter : (before.waiters waiter).phase ≠ .unarmed → after.waiters waiter = before.waiters waiter

namespace Spares

variable {first second third conn : Conn}

theorem trans (front : Spares waiter first second) (back : Spares waiter second third) :
    Spares waiter first third where
  registry := back.registry.trans front.registry
  waiter := by
    intro armed
    have same := front.waiter armed
    rw [back.waiter (by rw [same]; exact armed), same]

theorem sync (conn : Conn) : Spares waiter conn (sync world conn) :=
  ⟨sync_registry world conn, (sync_sharedOnly world conn).waiters waiter⟩

theorem queueInLoop (functor : Functor) (conn : Conn) :
    Spares waiter conn (EventLoop.queueInLoop world functor conn) :=
  ⟨sync_registry world conn, (sync_sharedOnly world conn).waiters waiter⟩

theorem setWaiter {state : AwaiterState} (different : waiter ≠ other) :
    Spares waiter conn (conn.setWaiter other state) :=
  ⟨rfl, fun _ => by simp [different]⟩

theorem queueResume (different : waiter ≠ other) :
    Spares waiter conn (queueResume world other conn) := by
  simp only [ConnectionAwaiterRegistry.queueResume]
  split
  · have marked : Spares waiter conn (markQueued other conn) :=
      ⟨rfl, fun _ => by simp [markQueued, different]⟩
    exact marked.trans (queueInLoop _ _)
  · exact ⟨rfl, fun _ => rfl⟩

theorem registerCallback (token : Option TokenId) (different : waiter ≠ other) :
    Spares waiter conn (CancellationToken.registerCallback world other token conn) := by
  cases token with
  | none => exact ⟨rfl, fun _ => rfl⟩
  | some token =>
      simp only [CancellationToken.registerCallback]
      split
      · exact (sync conn).trans (queueInLoop _ _)
      · have registered : Spares waiter (Net.sync world conn) ((Net.sync world conn).setWaiter other
            { (Net.sync world conn).waiters other with registration := some token }) := setWaiter different
        exact (sync conn).trans ⟨registered.registry, registered.waiter⟩

end Spares

/-- A queued waiter is left with the state it was queued with. -/
theorem queueResume_waiter {conn : Conn} (pending : (conn.waiters waiter).phase = .pending) :
    (queueResume world waiter conn).waiters waiter = { conn.waiters waiter with phase := .queued } := by
  have marked : (markQueued waiter conn).waiters waiter =
      { conn.waiters waiter with phase := .queued } := by simp [markQueued]
  rw [queueResume_eq pending, ← marked]
  exact (Spares.queueInLoop _ _).waiter (by rw [marked]; simp)

/-- What becomes of a waiter whose arm step finds its slot occupied. -/
inductive Refused (synchronous cancelled : Bool) (message : String) (waiter : WaiterId) (conn : Conn) :
    Prop where
  | cancelled : cancelled = true → (conn.waiters waiter).phase = .queued →
      (conn.waiters waiter).outcome = .cancelled → Refused synchronous cancelled message waiter conn
  | thrown : cancelled = false → synchronous = true → (conn.waiters waiter).phase = .abandoned →
      .awaitThrew waiter message ∈ conn.trace → Refused synchronous cancelled message waiter conn
  | failed : cancelled = false → synchronous = false → (conn.waiters waiter).phase = .queued →
      (conn.waiters waiter).outcome = .failed → (conn.waiters waiter).failure = some message →
      Refused synchronous cancelled message waiter conn

/-- The incumbent keeps its slot, its threshold and its state. -/
structure Undisturbed (kind : AwaitKind) (incumbent : WaiterId) (before after : Conn) : Prop where
  slot : after.registry.slot kind = some incumbent
  threshold : after.registry.minReadBytes = before.registry.minReadBytes
  state : after.waiters incumbent = before.waiters incumbent

theorem cancelWaiter_waiter {conn : Conn} (pending : (conn.waiters waiter).phase = .pending) :
    (cancelWaiter world waiter conn).waiters waiter =
      { conn.waiters waiter with outcome := .cancelled, phase := .queued } := by
  simp only [cancelWaiter, pending, ↓reduceIte]
  rw [queueResume_waiter (by simp)]
  simp

theorem Spares.cancelWaiter {conn : Conn} (different : waiter ≠ other) :
    Spares waiter conn (cancelWaiter world other conn) := by
  simp only [ConnectionAwaiterRegistry.cancelWaiter]
  split
  · exact (Spares.setWaiter different).trans (.queueResume different)
  · exact ⟨rfl, fun _ => rfl⟩

theorem Spares.undisturbed {kind : AwaitKind} {before after : Conn} (spares : Spares waiter before after)
    (armed : (before.waiters waiter).phase ≠ .unarmed) (slot : before.registry.slot kind = some waiter) :
    Undisturbed kind waiter before after :=
  ⟨by rw [spares.registry]; exact slot, by rw [spares.registry], spares.waiter armed⟩

/-- The `catch` block leaves the incumbent alone. -/
theorem armFailed_refused {kind : AwaitKind} {incumbent newcomer : WaiterId} {conn : Conn}
    (synchronous : Bool) (message : String) (different : incumbent ≠ newcomer)
    (armed : (conn.waiters incumbent).phase ≠ .unarmed)
    (slot : conn.registry.slot kind = some incumbent)
    (pending : (conn.waiters newcomer).phase = .pending) :
    Undisturbed kind incumbent conn (armFailed world synchronous newcomer message conn) ∧
      Refused synchronous false message newcomer (armFailed world synchronous newcomer message conn) := by
  cases synchronous with
  | true =>
      have waiters : (armFailed world true newcomer message conn).waiters = _ :=
        unregisterWaiter_waiters newcomer conn
      have cleared : (Registry.clear newcomer conn.registry).slot kind = some incumbent := by
        cases kind <;> simp only [Registry.slot] at slot <;>
          simp [Registry.slot, Registry.clear, slot, different]
      refine ⟨⟨cleared, rfl, ?_⟩, .thrown rfl rfl ?_ ?_⟩
      · rw [waiters, Function.update_of_ne different]
      · rw [waiters, Function.update_self]
        simp [AwaiterState.abandon, pending]
      · simp [armFailed]
  | false =>
      have failed : Spares incumbent conn (failWaiter world newcomer message conn) :=
        (Spares.setWaiter different).trans (.queueResume different)
      have state : (failWaiter world newcomer message conn).waiters newcomer =
          { conn.waiters newcomer with failure := some message, outcome := .failed, phase := .queued } := by
        rw [failWaiter, queueResume_waiter (by simpa using pending)]
        simp
      refine ⟨failed.undisturbed armed slot, .failed rfl rfl ?_ ?_ ?_⟩ <;>
        simp only [armFailed, Bool.false_eq_true, ↓reduceIte, state]

theorem armKind_refused {incumbent newcomer : WaiterId} {conn : Conn} (call : Callback → Conn → Conn)
    (synchronous : Bool) (awaitable : Awaitable) (different : incumbent ≠ newcomer)
    (armed : (conn.waiters incumbent).phase ≠ .unarmed)
    (slot : conn.registry.slot awaitable.kind = some incumbent)
    (pending : (conn.waiters newcomer).phase = .pending) :
    Undisturbed awaitable.kind incumbent conn (armKind world call synchronous newcomer awaitable conn) ∧
      Refused synchronous false (duplicateMessage awaitable.kind) newcomer
        (armKind world call synchronous newcomer awaitable conn) := by
  have failed : armKind world call synchronous newcomer awaitable conn =
      armFailed world synchronous newcomer (duplicateMessage awaitable.kind) conn := by
    unfold armKind
    cases kind : awaitable.kind <;> rw [kind] at slot <;>
      simp only [Registry.slot] at slot <;>
      simp [armReadWaiter, armWriteWaiter, armCloseWaiter, slot, duplicateMessage]
  rw [failed]
  exact armFailed_refused synchronous _ different armed slot pending

/-- A waiter that finds its slot occupied is refused; the incumbent notices nothing. -/
theorem armWaiterInLoop_refused {incumbent newcomer : WaiterId} {conn : Conn}
    (call : Callback → Conn → Conn) (synchronous : Bool) (awaitable : Awaitable)
    (different : incumbent ≠ newcomer) (armed : (conn.waiters incumbent).phase ≠ .unarmed)
    (slot : conn.registry.slot awaitable.kind = some incumbent)
    (pending : (conn.waiters newcomer).phase = .pending) :
    let after := armWaiterInLoop world call synchronous newcomer awaitable conn
    Undisturbed awaitable.kind incumbent conn after ∧
      Refused synchronous (CancellationToken.isCancellationRequested awaitable.token (sync world conn))
        (duplicateMessage awaitable.kind) newcomer after := by
  have newcomerArmed : (conn.waiters newcomer).phase ≠ .unarmed := by rw [pending]; decide
  have synced : ((sync world conn).waiters newcomer).phase = .pending := by
    rw [(Spares.sync conn).waiter newcomerArmed, pending]
  simp only [armWaiterInLoop, pending, ↓reduceIte]
  split
  case isTrue cancelled =>
    have state := @cancelWaiter_waiter world newcomer (sync world conn) synced
    refine ⟨((Spares.sync conn).trans (.cancelWaiter different)).undisturbed armed slot, ?_⟩
    rw [cancelled]
    exact .cancelled rfl (by rw [state]) (by rw [state])
  case isFalse uncancelled =>
    have same : CancellationToken.isCancellationRequested awaitable.token (sync world conn) = false := by
      simpa using uncancelled
    have registered := @registerCallback_waiter world newcomer awaitable.token (sync world conn)
      (by rw [synced]; decide)
    rw [synced] at registered
    have spared : Spares incumbent conn (sync world
        (CancellationToken.registerCallback world newcomer awaitable.token (sync world conn))) :=
      ((Spares.sync conn).trans (.registerCallback awaitable.token different)).trans (.sync _)
    have kept := spared.undisturbed armed slot
    have ready : ((sync world (CancellationToken.registerCallback world newcomer awaitable.token
        (sync world conn))).waiters newcomer).phase = .pending := by
      rw [(Spares.sync _).waiter (by rw [registered.1]; decide), registered.1]
    obtain ⟨undisturbed, refused⟩ := @armKind_refused world incumbent newcomer
      (Conn.emit _ (.arming newcomer awaitable _ _)) call synchronous awaitable different
      (by rw [Conn.emit_waiters, kept.state]; exact armed) kept.slot ready
    rw [same]
    exact ⟨⟨undisturbed.slot, undisturbed.threshold.trans kept.threshold,
      undisturbed.state.trans kept.state⟩, refused⟩

/-- Other threads submit nothing for a waiter. -/
theorem sync_submitted {conn : Conn} {origin : Origin} {data : Bytes}
    (member : .submitted origin data ∈ (sync world conn).trace) : .submitted origin data ∈ conn.trace := by
  obtain ⟨events, trace, remote⟩ := (sync_sharedOnly world conn).trace
  rw [trace] at member
  refine (List.mem_append.mp member).resolve_right fun new => ?_
  cases remote _ new

theorem cancelWaiter_submitted {conn : Conn} {origin : Origin} {data : Bytes}
    (pending : (conn.waiters waiter).phase = .pending)
    (member : .submitted origin data ∈ (cancelWaiter world waiter conn).trace) :
    .submitted origin data ∈ conn.trace := by
  simp only [cancelWaiter, pending, ↓reduceIte] at member
  rw [queueResume_eq (by simp)] at member
  simpa [markQueued] using sync_submitted member

/-- An arm step that finds its token cancelled submits nothing, and neither does
anything after it. -/
theorem armWaiterInLoop_cancelled {conn later : Conn} {scope : Scope} (call : Callback → Conn → Conn)
    (synchronous : Bool) (awaitable : Awaitable) (pending : (conn.waiters waiter).phase = .pending)
    (cancelled : CancellationToken.isCancellationRequested awaitable.token (sync world conn) = true)
    (ran : Ran world scope (armWaiterInLoop world call synchronous waiter awaitable conn) later)
    (data : Bytes) (member : .submitted (.waiter waiter) data ∈ later.trace) :
    .submitted (.waiter waiter) data ∈ conn.trace := by
  have synced : ((sync world conn).waiters waiter).phase = .pending := by
    rw [(Spares.sync conn).waiter (by rw [pending]; decide), pending]
  have state := @cancelWaiter_waiter world waiter (sync world conn) synced
  simp only [armWaiterInLoop, pending, ↓reduceIte, cancelled] at ran
  refine ((submissions_over waiter conn.trace).ran ran (fun _ => rfl) ⟨?_, ?_⟩).2 data member
  · rw [state]
    exact ⟨by simp, (by simp)⟩
  · exact fun data submitted => sync_submitted (cancelWaiter_submitted synced submitted)

theorem Setup.run_protocol (setup : Setup) (world : World) (depth : Nat) (steps : List Step)
    (waiter : WaiterId) : Protocol waiter (setup.run world depth steps) := by
  refine (protocol waiter).run ?_ (fun conn transport _ kept => ?_) depth steps
  · exact ⟨Nat.zero_le _, fun _ => rfl, (by simp [Setup.initial]), by rintro _ ⟨⟩, by rintro ⟨⟩⟩
  · unfold Protocol
    rw [establish_trace]
    exact ProtocolFacts.quiet kept (by simp [Event.concerns])

theorem Setup.run_submissions (setup : Setup) (world : World) (depth : Nat) (steps : List Step)
    (waiter : WaiterId) (data : Bytes)
    (member : .submitted (.waiter waiter) data ∈ (setup.run world depth steps).trace) :
    Armed waiter data (setup.run world depth steps).trace := by
  refine (submissions_armed waiter).run (by rintro _ ⟨⟩) (fun conn transport _ kept data member => ?_)
    depth steps data member
  rw [establish_trace] at member ⊢
  obtain ⟨awaitable, state, readable, noted, same⟩ := kept data (by simpa using member)
  exact ⟨awaitable, state, readable, List.mem_append_left _ noted, same⟩

/-- What holds of one waiter between the steps of a run. -/
structure WaiterProtocol (world : World) (depth : Nat) (waiter : WaiterId) (conn : Conn) : Prop where
  /-- The coroutine is resumed at most once, and never if the waiter is abandoned. -/
  once : conn.resumptions waiter ≤ 1
  abandoned : (conn.waiters waiter).phase = .abandoned ∨ .abandoned waiter ∈ conn.trace →
    conn.resumptions waiter = 0
  /-- Only the functor that was queued for the waiter resumes it. -/
  queued : ∀ step : Step,
    (step.take world depth conn).resumptions waiter ≠ conn.resumptions waiter →
      step = .functor ∧ (sync world conn).queue.head? = some (.resumeWaiter waiter)
  /-- The outcome is the one with which the waiter was queued. -/
  recorded : (conn.waiters waiter).phase = .queued →
    .resumeQueued waiter (conn.waiters waiter).outcome ∈ conn.trace
  outcome : ∀ outcome, .resumeQueued waiter outcome ∈ conn.trace →
    (conn.waiters waiter).outcome = outcome
  /-- A closed connection keeps no armed waiter waiting. -/
  released : conn.state = .kDisconnected → (conn.waiters waiter).phase = .pending → conn.arming waiter
  /-- A waiter's payload is submitted only past the token test of its arm step. -/
  submitted : ∀ data, .submitted (.waiter waiter) data ∈ conn.trace → Armed waiter data conn.trace

/-- What holds of an arm step, whatever state it starts in. -/
structure ArmProtocol (world : World) (waiter : WaiterId) (start : Conn) : Prop where
  refused : ∀ call synchronous awaitable incumbent, incumbent ≠ waiter →
    (start.waiters incumbent).phase ≠ .unarmed →
    start.registry.slot awaitable.kind = some incumbent →
    let after := armWaiterInLoop world call synchronous waiter awaitable start
    Undisturbed awaitable.kind incumbent start after ∧
      Refused synchronous (CancellationToken.isCancellationRequested awaitable.token (sync world start))
        (duplicateMessage awaitable.kind) waiter after
  cancelled : ∀ call synchronous awaitable,
    CancellationToken.isCancellationRequested awaitable.token (sync world start) = true →
    ∀ scope later,
      Ran world scope (armWaiterInLoop world call synchronous waiter awaitable start) later →
      ∀ data, .submitted (.waiter waiter) data ∈ later.trace →
        .submitted (.waiter waiter) data ∈ start.trace

/-- The protocol of every waiter over every run, and of every arm step. -/
theorem awaiter_protocol (setup : Setup) (world : World) (depth : Nat) (steps : List Step)
    (waiter : WaiterId) :
    WaiterProtocol world depth waiter (setup.run world depth steps) ∧
      ∀ start, (start.waiters waiter).phase = .pending → ArmProtocol world waiter start := by
  have facts := setup.run_protocol world depth steps waiter
  refine ⟨?_, fun start pending => ⟨?_, ?_⟩⟩
  · refine ⟨facts.once, fun ended => facts.resumed ?_, fun step => ?_,
      fun queued => facts.recorded (.inl queued), fun outcome member => (facts.fixed outcome member).2.2,
      ?_, setup.run_submissions world depth steps waiter⟩
    · rw [ended.elim id facts.abandoned]
      decide
    · exact Step.resumes (setup.run_captured world depth steps)
    · exact (setup.run_held world depth steps waiter).arming (setup.run_freed world depth steps waiter)
  · intro call synchronous awaitable incumbent different armed slot
    exact armWaiterInLoop_refused call synchronous awaitable different armed slot pending
  · intro call synchronous awaitable cancelled scope later ran
    exact armWaiterInLoop_cancelled call synchronous awaitable pending cancelled ran

theorem awaiter_protocol_second_read :
    let conn := Setup.run {} {} 1 [.call (.await 1 { kind := .read })]
    let start := awaitPending 2 { kind := .read } conn
    conn.registry.readWaiter = some 1 ∧
      Undisturbed .read 1 start
        (armWaiterInLoop {} (World.call {} 1) true 2 { kind := .read } start) := by
  have arms := (awaiter_protocol {} {} 1 [.call (.await 1 { kind := .read })] 2).2
    (awaitPending 2 { kind := .read } (Setup.run {} {} 1 [.call (.await 1 { kind := .read })])) (by decide)
  exact ⟨by decide, (arms.refused (World.call {} 1) true { kind := .read } 1 (by decide) (by decide)
    (by decide)).1⟩

end MiniTrantor.Net
