import MiniTrantor.Net.Connection.Effects

/-!
# Invariants of sequences of moves

The rule that lifts a property from moves to whole stretches of code, and what
every move leaves alone.
-/

set_option autoImplicit false

namespace MiniTrantor.Net

open ConnectionAwaiterRegistry ConnectionBackpressureController TcpConnection

/-- A property that every move keeps, those of dispatch only if `dispatching`. -/
structure Invariant (world : World) (dispatching : Bool) (holds : Conn → Prop) : Prop where
  move : ∀ {before after}, Move world before after → holds before → holds after
  take : ∀ {waiter awaitable before after}, Takes waiter awaitable before after →
    holds before → holds after
  finish : ∀ {waiter before after}, Finishes waiter before after → holds before → holds after
  dispatch : dispatching = true → ∀ {before after}, DispatchMove before after →
    holds before → holds after
  retrieve : dispatching = true → ∀ {conn count}, conn.channel.isWriting = true → holds conn →
    holds (ConnectionTransport.retrieveWritten count conn)
  settle : dispatching = true → ∀ {conn}, holds conn → holds (settle conn)
  close : ∀ {conn failed}, conn.state ≠ .kDisconnected → Fails world conn failed → holds conn →
    holds (shutChannel failed)
  disconnected : ∀ {conn}, conn.state = .kDisconnected → holds conn → holds (noteDisconnected conn)
  closeCallback : ∀ {conn}, holds conn → holds (conn.emit (.callback .close))

theorem Drains.isWriting {conn drained : Conn} (drains : Drains conn drained) :
    drained.channel.isWriting = true := by
  induction drains with
  | first writing => exact writing
  | more _ ih => exact ih
  | wantRead _ _ ih => exact ih

theorem Drains.state_eq {conn drained : Conn} (drains : Drains conn drained) :
    drained.state = conn.state := by
  induction drains with
  | first _ => rfl
  | more _ ih => exact ih
  | wantRead _ _ ih => exact ih

theorem Drains.ssl_eq {conn drained : Conn} (drains : Drains conn drained) :
    drained.transport.ssl = conn.transport.ssl := by
  induction drains with
  | first _ => rfl
  | more _ ih => exact ih
  | wantRead _ _ ih => exact ih

theorem Invariant.drains {world : World} {holds : Conn → Prop} (invariant : Invariant world true holds)
    {conn drained : Conn} (drains : Drains conn drained) (start : holds conn) : holds drained := by
  induction drains with
  | first writing => exact invariant.retrieve rfl writing start
  | more drains ih => exact invariant.retrieve rfl drains.isWriting ih
  | wantRead drains ssl ih =>
      exact invariant.dispatch rfl (.interest ssl (.inr drains.isWriting) (.inl rfl)) ih

/-! ## Events that moves may add -/

/-- States entered, in order. -/
def Event.states : Event → List StateE
  | .setState state => [state]
  | _ => []

/-- Notifications of the connection itself, and what only dispatch, resumption
or the close sequence records. -/
def Event.isLoud : Event → Bool
  | .callback entered => !entered.isRoutine
  | .channelClosed | .received _ | .awaitFinished .. | .draining _ => true
  | _ => false

/-- What every move leaves alone: it adds quiet events, and its only change of
state is the one of `shutdown`. -/
structure Frame (before after : Conn) (events : List Event) : Prop where
  trace : after.trace = before.trace ++ events
  quiet : ∀ event ∈ events, event.isLoud = false
  ssl : after.transport.ssl = before.transport.ssl
  state : after.state = before.state ∧ events.flatMap Event.states = [] ∨
    before.state = .kConnected ∧ after.state = .kDisconnecting ∧
      events.flatMap Event.states = [.kDisconnecting]

namespace Frame

variable {before after : Conn}

theorem same (trace : after.trace = before.trace) (ssl : after.transport.ssl = before.transport.ssl)
    (state : after.state = before.state) : Frame before after [] :=
  ⟨by simpa using trace, (by simp), ssl, .inl ⟨state, rfl⟩⟩

theorem one {event : Event} (trace : after.trace = before.trace ++ [event])
    (quiet : event.isLoud = false) (ssl : after.transport.ssl = before.transport.ssl)
    (state : after.state = before.state) (entered : event.states = []) :
    Frame before after [event] :=
  ⟨trace, by simpa using quiet, ssl, .inl ⟨state, by simpa using entered⟩⟩

end Frame

theorem Arrives.frame {origin : Origin} {data : Bytes} {before after : Conn}
    (arrives : Arrives origin data before after) : ∃ events, Frame before after events := by
  cases arrives with
  | ownerSend _ => exact ⟨_, .one rfl rfl rfl rfl rfl⟩
  | queuedSend _ => exact ⟨_, .same rfl rfl rfl⟩
  | waiter _ _ _ _ _ _ => exact ⟨_, .same rfl rfl rfl⟩

theorem isTransfer_quiet {event : Event} (transfer : event.isTransfer = true) :
    event.isLoud = false ∧ event.states = [] := by
  cases event <;> first | exact ⟨rfl, rfl⟩ | cases transfer

theorem isNote_quiet {event : Event} (note : event.isNote = true) :
    event.isLoud = false ∧ event.states = [] := by
  cases event <;> first | exact ⟨rfl, rfl⟩ | cases note | exact ⟨by simpa [Event.isLoud, Event.isNote] using note, rfl⟩

theorem Frame.trans {first second third : Conn} {before after : List Event}
    (front : Frame first second before) (back : Frame second third after) :
    Frame first third (before ++ after) where
  trace := by rw [back.trace, front.trace, List.append_assoc]
  quiet := by
    intro event member
    rcases List.mem_append.mp member with old | new
    · exact front.quiet event old
    · exact back.quiet event new
  ssl := back.ssl.trans front.ssl
  state := by
    rcases front.state with ⟨same, none⟩ | ⟨connected, disconnecting, entered⟩
    · rcases back.state with ⟨again, nothing⟩ | ⟨connected, disconnecting, entered⟩
      · exact .inl ⟨again.trans same, by simp [none, nothing]⟩
      · exact .inr ⟨same ▸ connected, disconnecting, by simp [none, entered]⟩
    · rcases back.state with ⟨again, nothing⟩ | ⟨impossible, _⟩
      · exact .inr ⟨connected, again.trans disconnecting, by simp [nothing, entered]⟩
      · rw [disconnecting] at impossible; cases impossible

theorem Submits.frame {world : World} {origin : Origin} {data : Bytes} {before after : Conn}
    (submits : Submits world origin data before after) : ∃ events, Frame before after events := by
  obtain ⟨⟨sent, rest, events, _, _, trace, _, transfers, _⟩, frame⟩ := submits.effect
  refine ⟨_, trace, ?_, by rw [frame], .inl ⟨by rw [frame], ?_⟩⟩
  · intro event member
    rcases List.mem_cons.mp member with rfl | member
    · rfl
    · exact (isTransfer_quiet (transfers event member)).1
  · simp only [List.flatMap_cons, Event.states, List.nil_append, List.flatMap_eq_nil_iff]
    exact fun event member => (isTransfer_quiet (transfers event member)).2

theorem Move.frame {world : World} {before after : Conn} (move : Move world before after) :
    ∃ events, Frame before after events := by
  cases move with
  | enqueue | dequeue | request | push | claims | callbacks | policy | requestAwait | register =>
      exact ⟨_, .same rfl rfl rfl⟩
  | dequeueShutdown _ _ => exact ⟨_, .one rfl rfl (sslShutdown_ssl _) rfl rfl⟩
  | accept _ => exact ⟨_, .one rfl rfl rfl rfl rfl⟩
  | note note => exact ⟨_, .one rfl (isNote_quiet note).1 rfl rfl (isNote_quiet note).2⟩
  | reading _ => exact ⟨_, .one rfl rfl rfl rfl rfl⟩
  | modifyInput => exact ⟨_, .one rfl rfl rfl rfl rfl⟩
  | error _ => exact ⟨_, .one rfl rfl rfl rfl rfl⟩
  | beginShutdown connected | requestShutdown connected =>
      exact ⟨[.setState .kDisconnecting], rfl, by simp [Event.isLoud], rfl, .inr ⟨connected, rfl, rfl⟩⟩
  | shutdownWrite _ _ => exact ⟨_, .one rfl rfl (sslShutdown_ssl _) rfl rfl⟩
  | submit arrives _ submits =>
      obtain ⟨arrival, front⟩ := arrives.frame
      obtain ⟨submission, back⟩ := submits.frame
      exact ⟨_, front.trans back⟩
  | cancelled _ | failed _ | queued _ _ | armWriteReady _ _ _ _ _ | unregister _
  | destroyed _ =>
      exact ⟨_, .one rfl rfl rfl rfl rfl⟩
  | @armRead _ _ _ ready _ _ _ _ _ _ | @armClose _ _ _ ready _ _ _ _ _ =>
      cases ready
      · exact ⟨_, .same rfl rfl rfl⟩
      · exact ⟨_, .one rfl rfl rfl rfl rfl⟩
  | unregisterChannel _ =>
      obtain ⟨updates, all, _, removed⟩ := unregisterChannel_eq before
      rw [removed]
      refine ⟨updates ++ [.removed], by simp, ?_, rfl, .inl ⟨rfl, ?_⟩⟩
      · intro event member
        rcases List.mem_append.mp member with update | last
        · exact (isTransfer_quiet (by cases event <;> first | rfl | cases all _ update)).1
        · rw [List.mem_singleton.mp last]; rfl
      · simp only [List.flatMap_append, List.append_eq_nil_iff, List.flatMap_eq_nil_iff]
        refine ⟨fun event member => ?_, by simp [Event.states]⟩
        exact (isTransfer_quiet (by cases event <;> first | rfl | cases all _ member)).2

theorem Frame.closed {before after : Conn} {events : List Event} (frame : Frame before after events)
    (closed : before.state = .kDisconnected) : after.state = .kDisconnected := by
  rcases frame.state with ⟨same, _⟩ | ⟨connected, _⟩
  · exact same.trans closed
  · rw [closed] at connected; cases connected

theorem Frame.still_open {before after : Conn} {events : List Event}
    (frame : Frame before after events) (opened : before.state ≠ .kDisconnected) :
    after.state ≠ .kDisconnected := by
  rcases frame.state with ⟨same, _⟩ | ⟨_, disconnecting, _⟩
  · rw [same]; exact opened
  · rw [disconnecting]; decide

theorem Fails.frame {world : World} {conn failed : Conn} (fails : Fails world conn failed) :
    ∃ events, Frame conn failed events := by
  cases fails with
  | close => exact ⟨_, .same rfl rfl rfl⟩
  | error => exact ⟨_, .one rfl rfl rfl rfl rfl⟩
  | @send origin data errno arrived arrives =>
      obtain ⟨_, arrival⟩ := arrives.frame
      have submitted : Frame arrived (arrived.emit (.submitted origin data)) _ :=
        .one rfl rfl rfl rfl rfl
      exact ⟨_, (arrival.trans submitted).trans (.one rfl rfl rfl rfl rfl)⟩

theorem shutChannel_trace (conn : Conn) : (shutChannel conn).trace =
    conn.trace ++ [.setState .kDisconnected, .update .none, .channelClosed] := by
  simp [shutChannel, onClosed]

/-! ## The rule -/

variable {world : World} {scope : Scope} {first second : Conn}

/-- A closed connection stays closed. -/
theorem Ran.disconnected (ran : Ran world scope first second)
    (closed : first.state = .kDisconnected) : second.state = .kDisconnected := by
  induction ran with
  | refl => exact closed
  | step _ move ih =>
      obtain ⟨_, frame⟩ := move.frame
      exact frame.closed (ih closed)
  | arm _ takes _ _ ih inner =>
      apply inner
      cases takes <;> exact ih closed
  | resumed _ finishes ih =>
      cases finishes with
      | complete _ _ => exact ih closed
      | finish _ _ =>
          obtain ⟨_, _, _, _, finished⟩ := finishAwait_eq _ _ _
          rw [finished]
          exact ih closed
  | dispatched _ move ih => cases move <;> exact ih closed
  | drain _ drains _ ih inner =>
      have kept := inner (drains.state_eq.trans (ih closed))
      simp only [settle]
      split <;> exact kept
  | closing _ _ opened _ _ _ ih _ _ => exact absurd (ih closed) opened

/-- The rule. What every move keeps, every stretch of code keeps. -/
theorem Invariant.ran {dispatching : Bool} {holds : Conn → Prop}
    (invariant : Invariant world dispatching holds) (ran : Ran world scope first second)
    (dispatches : scope = .dispatch → dispatching = true) (initial : holds first) : holds second := by
  induction ran with
  | refl => exact initial
  | step _ move ih => exact invariant.move move (ih dispatches initial)
  | arm _ takes _ _ ih inner => exact inner (by simp) (invariant.take takes (ih dispatches initial))
  | resumed _ finishes ih => exact invariant.finish finishes (ih dispatches initial)
  | dispatched _ move ih => exact invariant.dispatch (dispatches rfl) move (ih dispatches initial)
  | drain _ drains _ ih inner =>
      cases dispatches rfl
      exact invariant.settle rfl (inner (by simp) (invariant.drains drains (ih dispatches initial)))
  | closing notified _ opened fails resumed _ ih resumes inner =>
      have shut := invariant.close opened fails (ih dispatches initial)
      have begun := invariant.disconnected (resumed.disconnected rfl) (resumes (by simp) shut)
      have notice := inner (by simp) begun
      cases notified with
      | false => exact notice
      | true => exact invariant.closeCallback notice

theorem Invariant.all {Index : Type} {dispatching : Bool} {holds : Index → Conn → Prop}
    (each : ∀ index, Invariant world dispatching (holds index)) :
    Invariant world dispatching fun conn => ∀ index, holds index conn where
  move := fun move kept index => (each index).move move (kept index)
  take := fun takes kept index => (each index).take takes (kept index)
  finish := fun finishes kept index => (each index).finish finishes (kept index)
  dispatch := fun on _ _ move kept index => (each index).dispatch on move (kept index)
  retrieve := fun on _ _ writing kept index => (each index).retrieve on writing (kept index)
  settle := fun on _ kept index => (each index).settle on (kept index)
  close := fun opened fails kept index => (each index).close opened fails (kept index)
  disconnected := fun closed kept index => (each index).disconnected closed (kept index)
  closeCallback := fun kept index => (each index).closeCallback (kept index)

/-! ## The trace only grows, and TLS is decided once -/

theorem extends_trace (past : List Event) :
    Invariant world true fun conn => ∃ later, conn.trace = past ++ later := by
  have grow : ∀ {before after : Conn} {events : List Event}, after.trace = before.trace ++ events →
      (∃ later, before.trace = past ++ later) → ∃ later, after.trace = past ++ later := by
    rintro before after events trace ⟨later, old⟩
    exact ⟨later ++ events, by rw [trace, old, List.append_assoc]⟩
  constructor
  case move =>
    intro before after move
    obtain ⟨_, frame⟩ := move.frame
    exact grow frame.trace
  case take =>
    intro waiter awaitable before after takes kept
    cases takes <;> exact kept
  case finish =>
    intro waiter before after finishes kept
    cases finishes with
    | complete _ _ => exact kept
    | finish _ _ =>
        obtain ⟨_, _, _, _, finished⟩ := finishAwait_eq _ _ _
        rw [finished]
        exact grow rfl kept
  case dispatch =>
    intro _ before after move kept
    cases move with
    | established => exact kept
    | receive | dispatch | interest | draining => exact grow rfl kept
  case retrieve =>
    intro _ conn count _ kept
    exact grow rfl kept
  case settle =>
    intro _ conn kept
    rcases settle_eq conn with same | settled
    · rw [same]
      exact kept
    · rw [settled]
      exact grow rfl kept
  case close =>
    intro conn failed _ fails kept
    obtain ⟨_, frame⟩ := fails.frame
    exact grow (shutChannel_trace failed) (grow frame.trace kept)
  case disconnected =>
    intro conn _ kept
    exact grow rfl kept
  case closeCallback =>
    intro conn kept
    exact grow rfl kept

theorem Ran.trace_extends (ran : Ran world scope first second) :
    ∃ later, second.trace = first.trace ++ later :=
  (extends_trace first.trace).ran ran (fun _ => rfl) ⟨[], by simp⟩

theorem Ran.mem_trace (ran : Ran world scope first second) {event : Event}
    (member : event ∈ first.trace) : event ∈ second.trace := by
  obtain ⟨later, trace⟩ := ran.trace_extends
  rw [trace]
  exact List.mem_append_left later member

theorem keeps_ssl (ssl : Bool) : Invariant world true fun conn => conn.transport.ssl = ssl := by
  constructor
  case move =>
    intro before after move kept
    obtain ⟨_, frame⟩ := move.frame
    exact frame.ssl.trans kept
  case take =>
    intro waiter awaitable before after takes kept
    cases takes <;> exact kept
  case finish =>
    intro waiter before after finishes kept
    cases finishes with
    | complete _ _ => exact kept
    | finish _ _ =>
        obtain ⟨_, _, _, _, finished⟩ := finishAwait_eq _ _ _
        rw [finished]
        exact kept
  case dispatch =>
    intro _ before after move kept
    cases move <;> exact kept
  case retrieve => exact fun _ _ _ _ kept => kept
  case settle =>
    intro _ conn kept
    simp only [settle]
    split <;> exact kept
  case close =>
    intro conn failed _ fails kept
    obtain ⟨_, frame⟩ := fails.frame
    exact frame.ssl.trans kept
  case disconnected => exact fun _ kept => kept
  case closeCallback => exact fun kept => kept

theorem Ran.ssl_eq (ran : Ran world scope first second) :
    second.transport.ssl = first.transport.ssl :=
  (keeps_ssl first.transport.ssl).ran ran (fun _ => rfl) rfl

/-! ## Armed waiters stay armed -/

/-! ### Slots -/

theorem Registry.holds_occupyRead {waiter other : WaiterId} {minBytes : Nat} {conn : Conn}
    (free : conn.registry.readWaiter = none) (held : conn.registry.holds waiter) :
    (occupyRead other minBytes conn).registry.holds waiter := by
  rcases held with read | write | close
  · rw [free] at read; cases read
  · exact .inr (.inl write)
  · exact .inr (.inr close)

theorem Registry.holds_occupyWrite {waiter other : WaiterId} {conn : Conn}
    (free : ∀ incumbent, conn.registry.writeWaiter = some incumbent → incumbent = other)
    (held : conn.registry.holds waiter) : (occupyWrite other conn).registry.holds waiter := by
  rcases held with read | write | close
  · exact .inl read
  · exact .inr (.inl (congrArg some (free _ write).symm))
  · exact .inr (.inr close)

theorem Registry.holds_occupyClose {waiter other : WaiterId} {conn : Conn}
    (free : conn.registry.closeWaiter = none) (held : conn.registry.holds waiter) :
    (occupyClose other conn).registry.holds waiter := by
  rcases held with read | write | close
  · exact .inl read
  · exact .inr (.inl write)
  · rw [free] at close; cases close

theorem Registry.holds_clear {waiter other : WaiterId} {registry : Registry}
    (different : waiter ≠ other) (held : registry.holds waiter) :
    (Registry.clear other registry).holds waiter := by
  have kept : ∀ slot : Option WaiterId, slot = some waiter →
      (if slot = some other then none else slot) = some waiter := by
    intro slot occupied
    simp [occupied, different]
  rcases held with read | write | close
  · exact .inl (kept _ read)
  · exact .inr (.inl (kept _ write))
  · exact .inr (.inr (kept _ close))

/-- The waiter is armed, and waits only in a slot. -/
def ArmedSettled (waiter : WaiterId) (conn : Conn) : Prop :=
  (conn.waiters waiter).phase ≠ .unarmed ∧ Settled waiter conn

namespace ArmedSettled

variable {waiter other : WaiterId} {conn after : Conn}

/-- One waiter changes, and no other waiter loses its slot. -/
theorem update {state : AwaiterState} (kept : ArmedSettled waiter conn)
    (waiters : after.waiters = Function.update conn.waiters other state)
    (slots : waiter ≠ other → conn.registry.holds waiter → after.registry.holds waiter)
    (changed : waiter = other →
      state.phase ≠ .unarmed ∧ (state.phase = .pending → after.registry.holds waiter)) :
    ArmedSettled waiter after := by
  unfold ArmedSettled Settled
  rw [waiters]
  by_cases same : waiter = other
  · subst same
    simpa using changed rfl
  · simp only [Function.update_of_ne same]
    exact ⟨kept.1, fun pending => slots same (kept.2 pending)⟩

theorem slots (kept : ArmedSettled waiter conn) (waiters : after.waiters = conn.waiters)
    (slots : conn.registry.holds waiter → after.registry.holds waiter) :
    ArmedSettled waiter after := by
  unfold ArmedSettled Settled
  rw [waiters]
  exact ⟨kept.1, fun pending => slots (kept.2 pending)⟩

theorem queued (kept : ArmedSettled waiter conn) : ArmedSettled waiter (markQueued other conn) :=
  kept.update rfl (fun _ held => held) fun _ => ⟨by simp, (by simp)⟩

theorem queueIf (kept : ArmedSettled waiter conn) (ready : Bool) :
    ArmedSettled waiter (queueIf ready other conn) := by
  cases ready
  · exact kept
  · exact kept.queued

theorem abandon_phase (state : AwaiterState) :
    (AwaiterState.abandon state).phase ≠ .pending ∧
      (state.phase ≠ .unarmed → (AwaiterState.abandon state).phase ≠ .unarmed) := by
  unfold AwaiterState.abandon
  split
  case isTrue => exact ⟨by simp, fun _ => (by simp)⟩
  case isFalse left => exact ⟨fun pending => left (.inl pending), id⟩

end ArmedSettled

theorem armedSettled (waiter : WaiterId) : Invariant world true (ArmedSettled waiter) where
  move := by
    intro before after move kept
    cases move with
    | enqueue | dequeue | dequeueShutdown | request | accept | push | claims | note | callbacks
    | policy | reading | modifyInput | error | beginShutdown | requestShutdown | shutdownWrite
    | destroyed =>
        exact kept
    | submit arrives _ submits =>
        rw [submits.effect.frame]
        cases arrives with
        | ownerSend | queuedSend => exact kept
        | waiter _ _ _ _ free _ => exact kept.slots rfl (Registry.holds_occupyWrite free)
    | requestAwait unarmed =>
        exact kept.update rfl (fun _ held => held) fun same => absurd (same ▸ unarmed) kept.1
    | register => exact kept.update rfl (fun _ held => held) fun same => same ▸ kept
    | cancelled _ | failed _ =>
        apply ArmedSettled.queued
        exact kept.update rfl (fun _ held => held) fun same => same ▸ kept
    | queued _ _ => exact kept.queued
    | armRead _ _ _ free _ _ =>
        apply ArmedSettled.queueIf
        exact kept.slots rfl (Registry.holds_occupyRead free)
    | armWriteReady _ _ _ free _ =>
        apply ArmedSettled.queued
        exact kept.slots rfl (Registry.holds_occupyWrite (by simp [free]))
    | armClose _ _ _ free _ =>
        apply ArmedSettled.queueIf
        exact kept.slots rfl (Registry.holds_occupyClose free)
    | unregister =>
        have left := ArmedSettled.abandon_phase
        exact kept.update (unregisterWaiter_waiters _ _) Registry.holds_clear fun same =>
          ⟨(left _).2 (same ▸ kept.1), fun pending => absurd pending (left _).1⟩
    | unregisterChannel _ =>
        obtain ⟨_, _, _, removed⟩ := unregisterChannel_eq before
        rw [removed]
        exact kept
  take := by
    intro other awaitable before after takes kept
    cases takes with
    | await unarmed =>
        exact kept.update rfl (fun _ held => held) fun same => absurd (same ▸ unarmed) kept.1
    | dequeue _ => exact kept
  finish := by
    intro other before after finishes kept
    cases finishes with
    | complete _ _ =>
        exact kept.update (completeWaiter_waiters _ _) (fun _ held => held) fun _ => ⟨by rintro ⟨⟩, by rintro ⟨⟩⟩
    | finish _ _ =>
        obtain ⟨_, _, _, _, finished⟩ := finishAwait_eq _ _ _
        rw [finished]
        exact kept.update rfl Registry.holds_clear fun _ => ⟨by rintro ⟨⟩, by rintro ⟨⟩⟩
  dispatch := by
    intro _ before after move kept
    cases move <;> exact kept
  retrieve := fun _ _ _ _ kept => kept
  settle := by
    intro _ conn kept
    simp only [settle]
    split <;> exact kept
  close := by
    intro conn failed _ fails kept
    cases fails with
    | close | error => exact kept
    | send arrives =>
        cases arrives with
        | ownerSend | queuedSend => exact kept
        | waiter _ _ _ _ free _ => exact kept.slots rfl (Registry.holds_occupyWrite free)
  disconnected := fun _ kept => kept
  closeCallback := fun kept => kept

end MiniTrantor.Net
