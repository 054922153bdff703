import MiniTrantor.Net.Connection.Inert
import MiniTrantor.Net.Connection.Released

/-!
# connectDestroyed

What holds when `connectDestroyed` returns, wherever it is called from, that a
connection it has closed stays as it is, and what may still happen in the handler
whose callback has called it.
-/

set_option autoImplicit false

namespace MiniTrantor.Net

open ConnectionAwaiterRegistry ConnectionBackpressureController TcpConnection
open Trace (NeverAfter)

variable {world : World}

/-! ## The state connectDestroyed leaves -/

theorem connectDestroyed_channel (call : Callback → Conn → Conn) (conn : Conn) :
    (connectDestroyed world call conn).channel = {} := by
  have removed : ∀ conn, (unregisterChannel conn).channel = {} := by
    intro conn
    obtain ⟨_, _, _, removed⟩ := unregisterChannel_eq conn
    rw [removed]
  exact removed _

theorem connectDestroyed_state {call : Callback → Conn → Conn}
    (calls : ∀ callback conn, Ran world .user conn (call callback conn)) (conn : Conn) :
    (connectDestroyed world call conn).state =
      if (sync world conn).state = .kConnected then .kDisconnected else (sync world conn).state := by
  have closed := runCloseSequence_state calls false
    (markPeerClosed ((sync world conn).emit (.checkpoint .connectDestroyed (sync world conn).state)))
  simp only [connectDestroyed, Conn.emit_state, unregisterChannel_state]
  split
  · exact closed
  · rfl

/-! ## Calls from anywhere in a step -/

def Event.isDestroyed : Event → Bool
  | .destroyed .. => true
  | _ => false

/-- The code in between does not return from `connectDestroyed`. -/
def Undestroyed (before after : Conn) : Prop :=
  ∃ events, after.trace = before.trace ++ events ∧ ∀ event ∈ events, event.isDestroyed = false

namespace Undestroyed

variable {before after : Conn}

theorem same (trace : after.trace = before.trace) : Undestroyed before after :=
  ⟨[], by simpa using trace, (by simp)⟩

theorem one {event : Event} (trace : after.trace = before.trace ++ [event])
    (other : event.isDestroyed = false) : Undestroyed before after :=
  ⟨[event], trace, by simpa using other⟩

theorem trans {first second third : Conn} (front : Undestroyed first second)
    (back : Undestroyed second third) : Undestroyed first third := by
  obtain ⟨early, trace, others⟩ := front
  obtain ⟨late, further, none⟩ := back
  refine ⟨early ++ late, by rw [further, trace, List.append_assoc], ?_⟩
  intro event member
  rcases List.mem_append.mp member with old | new
  · exact others event old
  · exact none event new

end Undestroyed

theorem sync_undestroyed (conn : Conn) : Undestroyed conn (sync world conn) := by
  obtain ⟨events, trace, remote⟩ := (sync_sharedOnly world conn).trace
  refine ⟨events, trace, fun event member => ?_⟩
  have other := remote event member
  cases event <;> first | rfl | cases other

theorem queueResumeSlot_undestroyed (slot : Option WaiterId) (conn : Conn) :
    Undestroyed conn (queueResumeSlot world slot conn) := by
  cases slot with
  | none => exact .same rfl
  | some waiter =>
      by_cases pending : (conn.waiters waiter).phase = .pending
      · rw [queueResumeSlot, queueResume_eq pending]
        have marked : Undestroyed conn (markQueued waiter conn) := .one rfl rfl
        exact (marked.trans (sync_undestroyed _)).trans (.same rfl)
      · simp only [queueResumeSlot, queueResume, if_neg pending]
        exact .same rfl

theorem beginClose_undestroyed (conn : Conn) : Undestroyed conn (beginClose world conn) := by
  have shut : Undestroyed conn (shutChannel conn) :=
    ⟨_, shutChannel_trace conn, by simp [Event.isDestroyed]⟩
  exact ((shut.trans (queueResumeSlot_undestroyed _ _)).trans (queueResumeSlot_undestroyed _ _)).trans
    (queueResumeSlot_undestroyed _ _)

theorem isNote_isDestroyed {event : Event} (note : event.isNote = true) : event.isDestroyed = false := by
  cases event <;> first | rfl | cases note

theorem isTransfer_isDestroyed {event : Event} (transfer : event.isTransfer = true) :
    event.isDestroyed = false := by
  cases event <;> first | rfl | cases transfer

theorem Arrives.undestroyed {origin : Origin} {data : Bytes} {before after : Conn}
    (arrives : Arrives origin data before after) : Undestroyed before after := by
  cases arrives with
  | ownerSend _ => exact .one rfl rfl
  | queuedSend _ | waiter _ _ _ _ _ _ => exact .same rfl

/-- A move returns from `connectDestroyed`, or records nothing of the kind. -/
theorem Move.undestroyed {before after : Conn} (move : Move world before after) :
    Undestroyed before after ∨
      ∃ found, before.state = (if found = .kConnected then .kDisconnected else found) ∧
        after = before.emit (.destroyed found before.state before.waiting) := by
  cases move with
  | destroyed closed => exact .inr ⟨_, closed, rfl⟩
  | enqueue | dequeue | request | push | claims | callbacks | policy | requestAwait | register =>
      exact .inl (.same rfl)
  | dequeueShutdown | accept | reading | modifyInput | error | beginShutdown | requestShutdown
  | shutdownWrite | cancelled | failed | queued | armWriteReady | unregister =>
      exact .inl (.one rfl rfl)
  | note note => exact .inl (.one rfl (isNote_isDestroyed note))
  | submit arrives _ submits =>
      obtain ⟨⟨_, _, events, _, _, trace, _, transfers, _⟩, _⟩ := submits.effect
      refine .inl (arrives.undestroyed.trans ⟨_, trace, ?_⟩)
      intro event member
      rcases List.mem_cons.mp member with rfl | transfer
      · rfl
      · exact isTransfer_isDestroyed (transfers event transfer)
  | @armRead _ _ _ ready _ _ _ _ _ _ | @armClose _ _ _ ready _ _ _ _ _ =>
      cases ready
      · exact .inl (.same rfl)
      · exact .inl (.one rfl rfl)
  | unregisterChannel _ =>
      obtain ⟨updates, all, _, removed⟩ := unregisterChannel_eq before
      refine .inl ⟨updates ++ [.removed], by rw [removed, List.append_assoc], ?_⟩
      intro event member
      rcases List.mem_append.mp member with update | last
      · have updated := all event update
        cases event <;> first | rfl | cases updated
      · rw [List.mem_singleton.mp last]
        rfl

/-- What holds wherever user code may call `connectDestroyed`. -/
structure Calm (conn : Conn) : Prop where
  freed : ∀ waiter, Freed waiter conn
  announced : conn.announced = 1
  forward : ForwardSince [] conn.state conn.trace
  entered : .setState .kConnected ∈ conn.trace
  shut : Shut conn.state conn.trace

namespace Calm

variable {scope : Scope} {first second : Conn}

theorem ran (calm : Calm first) (ran : Ran world scope first second) : Calm second where
  freed := fun waiter => ran.freed (calm.freed waiter)
  announced := ran.notified.once.trans calm.announced
  forward := (@Net.forward world []).ran ran (fun _ => rfl) calm.forward
  entered := ran.mem_trace calm.entered
  shut := (@Net.shut world).ran ran (fun _ => rfl) calm.shut

theorem taken {waiter : WaiterId} {awaitable : Awaitable} (calm : Calm first)
    (takes : Takes waiter awaitable first second) : Calm second where
  freed := fun other => takes.freed (calm.freed other)
  announced := by cases takes <;> exact calm.announced
  forward := by cases takes <;> exact calm.forward
  entered := by cases takes <;> exact calm.entered
  shut := by cases takes <;> exact calm.shut

theorem drains (calm : Calm first) (drains : Drains first second) : Calm second where
  freed := fun waiter => drains.freed (calm.freed waiter)
  announced := (Notified.drains drains).once.trans calm.announced
  forward := (@Net.forward {} []).drains drains calm.forward
  entered := by
    obtain ⟨later, trace⟩ := (@extends_trace {} first.trace).drains drains ⟨[], by simp⟩
    rw [trace]
    exact List.mem_append_left later calm.entered
  shut := (@Net.shut {}).drains drains calm.shut

/-- The connection callback is entered in a calm state again. -/
theorem begun {conn failed : Conn} (calm : Calm conn) (opened : conn.state ≠ .kDisconnected)
    (fails : Fails world conn failed)
    (resumed : Ran world .user (shutChannel failed) (beginClose world failed)) :
    Calm (noteDisconnected (beginClose world failed)) := by
  obtain ⟨_, frame⟩ := fails.frame
  have closed := resumed.disconnected rfl
  refine ⟨fun waiter => fails.begun_freed opened (calm.freed waiter), ?_, ?_, ?_, ?_⟩
  · have before := (Notified.framed frame).once.trans calm.announced
    have after := resumed.notified.once
    have closedAfter : (noteDisconnected (beginClose world failed)).state = .kDisconnected := closed
    rw [Notified.announced_open (frame.still_open opened)] at before
    rw [Notified.announced_closed closed, Notified.announced_closed rfl,
      (Notified.shutChannel_counts failed).1] at after
    rw [Notified.announced_closed closedAfter, (Notified.noteDisconnected_counts _).1, after]
    exact before
  · have shut := (@Net.forward world []).close opened fails calm.forward
    exact (@Net.forward world []).disconnected closed
      ((@Net.forward world []).ran resumed (fun _ => rfl) shut)
  · have shut : .setState .kConnected ∈ (shutChannel failed).trace := by
      rw [shutChannel_trace, frame.trace]
      exact List.mem_append_left _ (List.mem_append_left _ calm.entered)
    exact List.mem_append_left _ (resumed.mem_trace shut)
  · have shut := (@Net.shut world).close opened fails calm.shut
    exact (@Net.shut world).disconnected closed ((@Net.shut world).ran resumed (fun _ => rfl) shut)

theorem established {conn : Conn} (calm : Calm conn) : conn.state ≠ .kConnecting := by
  intro connecting
  have entered : .kConnected ∈ statesOf conn.trace :=
    List.mem_flatMap.mpr ⟨_, calm.entered, List.mem_cons_self⟩
  have bound := (calm.forward.whole rfl).bounded _ entered
  rw [connecting] at bound
  exact absurd bound (by decide)

/-- A calm connection that is closed has been notified, and no waiter is left. -/
theorem closed {conn : Conn} (calm : Calm conn) (closed : conn.state = .kDisconnected) :
    conn.waiting = [] ∧ conn.disconnects = 1 ∧ .channelClosed ∈ conn.trace := by
  refine ⟨?_, (Notified.announced_closed closed).symm.trans calm.announced, (calm.shut closed).2⟩
  refine List.filter_eq_nil_iff.mpr fun waiter member => ?_
  have held : conn.registry.holds waiter := by
    obtain ⟨slot, listed, same⟩ := List.mem_filterMap.mp member
    simp only [List.mem_cons, List.not_mem_nil, or_false] at listed
    rcases listed with read | write | close
    · exact .inl (read ▸ same)
    · exact .inr (.inl (write ▸ same))
    · exact .inr (.inr (close ▸ same))
  simpa using (calm.freed waiter held).2 closed

end Calm

/-- A call of `connectDestroyed` closes the connection exactly if it does not find
it half closed; then no waiter is left and Disconnected has been notified once. -/
def Returned (found state : StateE) (waiting : List WaiterId) (before : List Event) : Prop :=
  (found ≠ .kDisconnecting ↔ state = .kDisconnected) ∧
    (state = .kDisconnected →
      waiting = [] ∧ before.countP Event.isDisconnected = 1 ∧ .channelClosed ∈ before)

/-- Every return from `connectDestroyed` since the connection was established. -/
def Recorded (trace : List Event) : Prop :=
  ∀ before found state waiting after, trace = before ++ .destroyed found state waiting :: after →
    .setState .kConnected ∈ before → Returned found state waiting before

theorem Recorded.silent {trace events : List Event} (kept : Recorded trace)
    (others : ∀ event ∈ events, event.isDestroyed = false) : Recorded (trace ++ events) := by
  intro before found state waiting after split
  have old : .destroyed found state waiting ∉ events := fun member => by cases others _ member
  obtain ⟨middle, _, trace⟩ := Trace.split_append split old
  exact kept before found state waiting middle trace

theorem Recorded.undestroyed {before after : Conn} (kept : Recorded before.trace)
    (quiet : Undestroyed before after) : Recorded after.trace := by
  obtain ⟨events, trace, others⟩ := quiet
  rw [trace]
  exact kept.silent others

theorem Recorded.destroyed {conn : Conn} {found : StateE} (kept : Recorded conn.trace) (calm : Calm conn)
    (state : conn.state = if found = .kConnected then .kDisconnected else found) :
    Recorded (conn.emit (.destroyed found conn.state conn.waiting)).trace := by
  intro before other ended waiting after split
  rcases Trace.split_snoc split with ⟨rfl, same, _⟩ | ⟨middle, _, trace⟩
  · cases same
    refine fun _ => ⟨?_, calm.closed⟩
    have established := calm.established
    rw [state] at established ⊢
    cases found <;> simp at established ⊢
  · exact kept before other ended waiting middle trace

theorem Finishes.undestroyed {waiter : WaiterId} {before after : Conn}
    (finishes : Finishes waiter before after) : Undestroyed before after := by
  cases finishes with
  | complete _ _ => exact .same rfl
  | finish _ _ =>
      obtain ⟨_, _, _, _, finished⟩ := finishAwait_eq _ _ _
      rw [finished]
      exact ⟨_, rfl, by simp [Event.isDestroyed]⟩

theorem DispatchMove.undestroyed {before after : Conn} (move : DispatchMove before after) :
    Undestroyed before after := by
  cases move with
  | established => exact .same rfl
  | receive | dispatch | interest | draining => exact .one rfl rfl

theorem Drains.undestroyed {before after : Conn} (drains : Drains before after) :
    Undestroyed before after := by
  induction drains with
  | first _ => exact .one rfl rfl
  | more _ ih => exact ih.trans (.one rfl rfl)
  | wantRead _ _ ih => exact ih.trans (.one rfl rfl)

theorem settle_undestroyed (conn : Conn) : Undestroyed conn (settle conn) := by
  rcases settle_eq conn with same | settled
  · rw [same]
    exact .same rfl
  · rw [settled]
    exact ⟨_, rfl, by simp [Event.isDestroyed]⟩

theorem Fails.undestroyed {conn failed : Conn} (fails : Fails world conn failed) :
    Undestroyed conn failed := by
  cases fails with
  | close => exact .same rfl
  | error => exact .one rfl rfl
  | @send origin data _ arrived arrives =>
      have submitted : Undestroyed arrived (arrived.emit (.submitted origin data)) := .one rfl rfl
      exact (arrives.undestroyed.trans submitted).trans (.one rfl rfl)

theorem Ran.recorded {scope : Scope} {first second : Conn} (ran : Ran world scope first second)
    (calm : Calm first) (kept : Recorded first.trace) : Recorded second.trace := by
  induction ran with
  | refl => exact kept
  | step ran move ih =>
      rcases move.undestroyed with quiet | ⟨found, state, rfl⟩
      · exact (ih calm kept).undestroyed quiet
      · exact (ih calm kept).destroyed (calm.ran ran) state
  | arm ran takes _ _ ih inner =>
      apply inner ((calm.ran ran).taken takes)
      cases takes <;> exact ih calm kept
  | resumed _ finishes ih => exact (ih calm kept).undestroyed finishes.undestroyed
  | dispatched _ move ih => exact (ih calm kept).undestroyed move.undestroyed
  | drain ran drains _ ih inner =>
      have drained := (ih calm kept).undestroyed drains.undestroyed
      exact (inner ((calm.ran ran).drains drains) drained).undestroyed (settle_undestroyed _)
  | @closing _ _ _ failed _ notified ran opened fails resumed _ ih _ inner =>
      have begun := (ih calm kept).undestroyed
        (fails.undestroyed.trans (@beginClose_undestroyed world failed))
      have ended := inner ((calm.ran ran).begun opened fails resumed)
        (begun.silent (by simp [Event.isDestroyed]))
      cases notified with
      | false => exact ended
      | true => exact ended.silent (by simp [Event.isDestroyed])

/-! ## Calls between steps -/

/-- Updates of the channel and notifications of the connection. -/
def Event.isSign : Event → Bool
  | .update _ | .channelClosed => true
  | .callback .connected | .callback .disconnected | .callback .message | .callback .close
  | .callback (.tls _) => true
  | _ => false

/-- Nothing is left to happen to the connection since the given trace. -/
structure Ended (past : List Event) (conn : Conn) : Prop where
  closed : conn.state = .kDisconnected
  inactive : conn.backpressure.active = false
  channel : conn.channel = {}
  silent : ∃ later, conn.trace = past ++ later ∧ ∀ event ∈ later, event.isSign = false

namespace Ended

variable {past : List Event} {before after : Conn}

theorem grow (kept : Ended past before) {events : List Event}
    (trace : after.trace = before.trace ++ events) (quiet : ∀ event ∈ events, event.isSign = false)
    (state : after.state = before.state) (active : after.backpressure.active = before.backpressure.active)
    (channel : after.channel = before.channel) : Ended past after := by
  obtain ⟨later, old, silent⟩ := kept.silent
  refine ⟨state.trans kept.closed, active.trans kept.inactive, channel.trans kept.channel,
    later ++ events, by rw [trace, old, List.append_assoc], ?_⟩
  intro event member
  rcases List.mem_append.mp member with early | late
  · exact silent event early
  · exact quiet event late

theorem note {event : Event} (kept : Ended past before) (trace : after.trace = before.trace ++ [event])
    (quiet : event.isSign = false) (state : after.state = before.state)
    (active : after.backpressure.active = before.backpressure.active)
    (channel : after.channel = before.channel) : Ended past after :=
  kept.grow trace (by simpa using quiet) state active channel

theorem same (kept : Ended past before) (trace : after.trace = before.trace)
    (state : after.state = before.state) (active : after.backpressure.active = before.backpressure.active)
    (channel : after.channel = before.channel) : Ended past after :=
  kept.grow (trace.trans (List.append_nil _).symm) (by simp) state active channel

theorem isNote_isSign {event : Event} (note : event.isNote = true) : event.isSign = false := by
  cases event with
  | callback entered => cases entered <;> first | rfl | cases note
  | _ => first | rfl | cases note

theorem move (kept : Ended past before) (move : Move world before after) : Ended past after := by
  cases move with
  | enqueue | dequeue | request | push | claims | callbacks | policy | requestAwait | register =>
      exact kept.same rfl rfl rfl rfl
  | dequeueShutdown | modifyInput | error | cancelled | failed | queued | armWriteReady | unregister
  | destroyed =>
      exact kept.note rfl rfl rfl rfl rfl
  | note note => exact kept.note rfl (isNote_isSign note) rfl rfl rfl
  | accept connected | beginShutdown connected | requestShutdown connected
  | shutdownWrite connected _ =>
      rw [kept.closed] at connected
      cases connected
  | reading active =>
      rw [kept.inactive] at active
      cases active
  | submit _ opened _ => exact absurd kept.closed opened
  | @armRead _ _ _ ready _ _ _ _ _ _ | @armClose _ _ _ ready _ _ _ _ _ =>
      cases ready
      · exact kept.same rfl rfl rfl rfl
      · exact kept.note rfl rfl rfl rfl rfl
  | unregisterChannel _ =>
      obtain ⟨updates, _, needed, removed⟩ := unregisterChannel_eq before
      have none : updates = [] := needed (by rw [kept.channel])
      rw [removed, none, List.append_nil]
      exact kept.note rfl rfl rfl rfl kept.channel.symm

end Ended

/-- Only dispatch goes on with a connection that has ended. -/
theorem Ran.ended {scope : Scope} {past : List Event} {first second : Conn}
    (ran : Ran world scope first second) (undispatched : scope ≠ .dispatch)
    (kept : Ended past first) : Ended past second := by
  induction ran with
  | refl => exact kept
  | step _ move ih => exact (ih undispatched kept).move move
  | arm _ takes _ _ ih inner =>
      apply inner (by simp)
      cases takes <;> exact (ih undispatched kept).same rfl rfl rfl rfl
  | resumed _ finishes ih =>
      have ended := ih undispatched kept
      cases finishes with
      | complete _ _ => exact ended.same rfl rfl rfl rfl
      | finish _ _ =>
          obtain ⟨_, _, _, _, finished⟩ := finishAwait_eq _ _ _
          rw [finished]
          exact ended.grow rfl (by simp [Event.isSign]) rfl rfl rfl
  | dispatched | drain => exact absurd rfl undispatched
  | closing _ _ opened _ _ _ ih _ _ => exact absurd (ih undispatched kept).closed opened

theorem Ended.steps (world : World) (depth : Nat) {past : List Event} {conn : Conn} (ended : Ended past conn)
    (armed : ∀ waiter awaitable, Captured waiter awaitable conn) (steps : List Step) :
    Ended past (world.steps depth steps conn) := by
  refine World.steps_induction armed ended (fun {step before _} ran kept => ran.ended ?_ kept) steps
  have removed : before.channel.addedToLoop = false := by rw [kept.channel]
  cases step with
  | event _ => simp [Step.scope, removed]
  | functor =>
      simp only [Step.scope]
      cases (sync world before).queue.head? with
      | none => rintro ⟨⟩
      | some functor => cases functor <;> rintro ⟨⟩
  | call _ => rintro ⟨⟩

/-- The connection is closed and notified, no armed waiter waits, and whatever the
owner loop does next neither touches the channel nor notifies. -/
structure Terminal (world : World) (depth : Nat) (conn : Conn) : Prop where
  closed : conn.state = .kDisconnected
  notified : conn.disconnects = 1
  released : ∀ waiter, (conn.waiters waiter).phase = .pending → conn.arming waiter
  final : ∀ steps, ∃ later, (world.steps depth steps conn).trace = conn.trace ++ later ∧
    (∀ event ∈ later, event.isSign = false) ∧
    (world.steps depth steps conn).channel = conn.channel

/-- The states in which a step of the owner loop enters `connectDestroyed`. -/
inductive Enters (world : World) (conn : Conn) : Conn → Prop where
  | call : Enters world conn (sync world conn)
  | functor {rest} : (sync world conn).queue = .connectDestroyed :: rest →
      Enters world conn { sync world conn with queue := rest }

theorem Enters.ran {conn start : Conn} (enters : Enters world conn start) :
    Ran world .user conn start := by
  cases enters with
  | call => exact sync_ran conn
  | functor queue => exact (sync_ran conn).step (.dequeue queue (by simp) (by simp) (by simp))

theorem Setup.begun_calm {setup : Setup} {world : World} {depth : Nat}
    (fresh : Fresh (setup.begun world depth).trace) : Calm (setup.begun world depth) := by
  obtain ⟨connecting, none⟩ := Dormant.connecting (setup.hooked_dormant world depth) fresh
  refine ⟨setup.begun_freed world depth, ?_, ⟨_, rfl, (establish_forward _).whole none⟩, ?_,
    by rintro ⟨⟩⟩
  · have once := (setup.hooked_ran world depth).1.notified.once
    rw [Notified.announced_open (by rw [connecting]; decide)] at once
    rw [Notified.announced_open (by rintro ⟨⟩), Conn.disconnects, Setup.begun, establish_trace,
      List.countP_append]
    exact once
  · rw [Setup.begun, establish_trace]
    simp

theorem Setup.run_calm {setup : Setup} {world : World} {depth : Nat} {steps : List Step}
    (fresh : Fresh (setup.run world depth steps).trace) : Calm (setup.run world depth steps) :=
  Setup.run_begun (Setup.begun_calm (Setup.run_fresh fresh)) (fun ran calm => calm.ran ran) steps

theorem Setup.begun_recorded {setup : Setup} {world : World} {depth : Nat}
    (fresh : Fresh (setup.begun world depth).trace) : Recorded (setup.begun world depth).trace := by
  intro before found state waiting after split entered
  rw [Setup.begun, establish_trace] at split
  obtain ⟨_, _, hooked⟩ := Trace.split_append split (by simp)
  -- the hook cannot have established the connection
  have none := (Dormant.connecting (setup.hooked_dormant world depth) fresh).2
  have listed : .kConnected ∈ statesOf (setup.hooked world depth).trace := by
    rw [hooked, statesOf_append]
    exact List.mem_append_left _ (List.mem_flatMap.mpr ⟨_, entered, List.mem_cons_self⟩)
  rw [none] at listed
  cases listed

theorem Setup.run_recorded {setup : Setup} {world : World} {depth : Nat} {steps : List Step}
    (fresh : Fresh (setup.run world depth steps).trace) :
    Recorded (setup.run world depth steps).trace := by
  have begun := Setup.run_fresh fresh
  have both := @Setup.run_begun setup world depth (fun conn => Calm conn ∧ Recorded conn.trace)
    ⟨Setup.begun_calm begun, Setup.begun_recorded begun⟩
    (fun ran kept => ⟨kept.1.ran ran, ran.recorded kept.1 kept.2⟩) steps
  exact both.2

/-- A call that closes the connection, or finds it closed, ends it. -/
theorem Calm.terminal {depth : Nat} {start : Conn} (calm : Calm start) (inert : Inert start)
    (held : ∀ waiter, Held waiter start) (armed : ∀ waiter awaitable, Captured waiter awaitable start)
    (closed : (connectDestroyed world (world.call depth) start).state = .kDisconnected) :
    Terminal world depth (connectDestroyed world (world.call depth) start) := by
  have ran : Ran world .user start (connectDestroyed world (world.call depth) start) :=
    connectDestroyed_ran (world.call_ran depth) start
  have after := calm.ran ran
  have captures := fun waiter awaitable =>
    (captured waiter awaitable).ran ran (fun _ => rfl) (armed waiter awaitable)
  have inactive := ((@Net.inert world).ran ran (fun _ => rfl) inert).inactive closed
  have ended : Ended _ (connectDestroyed world (world.call depth) start) :=
    ⟨closed, inactive, connectDestroyed_channel _ start, [], (List.append_nil _).symm, (by simp)⟩
  refine ⟨closed, (after.closed closed).2.1, fun waiter pending => ?_, fun steps => ?_⟩
  · exact (ran.held (held waiter)).arming (after.freed waiter) closed pending
  · have last := ended.steps world depth captures steps
    obtain ⟨later, trace, silent⟩ := last.silent
    exact ⟨later, trace, silent, last.channel.trans ended.channel.symm⟩

/-- After a call that closed the connection or found it closed, nothing updates its
channel unless the handler around the call goes on to, and nothing more is delivered
unless a handler goes on to that. -/
theorem Setup.run_destroyed (setup : Setup) (world : World) (depth : Nat) (steps : List Step)
    {before after : List Event} {found state : StateE} {waiting : List WaiterId}
    (fresh : Fresh (setup.run world depth steps).trace)
    (split : (setup.run world depth steps).trace =
      before ++ .destroyed found state waiting :: after)
    (entered : .setState .kConnected ∈ before) (closed : state = .kDisconnected) :
    after.countP Event.isDisconnected = 0 ∧
      (Untouched setup.tls (setup.run world depth steps).trace →
        ∀ event ∈ after, event.isUpdate = false) ∧
      (Rechecked (setup.run world depth steps).trace →
        ∀ event ∈ after, event.isDelivery = false) := by
  have recorded := Setup.run_recorded fresh before found state waiting after split entered
  obtain ⟨_, once, shut⟩ := recorded.2 closed
  have later : ∀ {first second : Event → Bool}, (∃ event ∈ before, first event = true) →
      NeverAfter first second (setup.run world depth steps).trace →
      ∀ event ∈ after, second event = false := by
    rintro first second ⟨earlier, member, begun⟩ never event follows
    rw [split] at never
    exact (List.pairwise_append.mp never).2.2 earlier member event (List.mem_cons_of_mem _ follows)
      begun
  refine ⟨?_, fun untouched => ?_, fun rechecked => ?_⟩
  · have bound : (setup.run world depth steps).disconnects ≤ 1 := by
      have := (Setup.run_calm fresh).announced
      unfold Conn.announced at this
      omega
    rw [Conn.disconnects, split, List.countP_append, List.countP_cons] at bound
    omega
  · have ordered := (setup.run_inert world depth steps).ordered (Setup.run_untouched untouched)
    exact later ⟨_, shut, rfl⟩ ordered
  · have notified : ∃ event ∈ before, event.isDisconnected = true :=
      List.countP_pos_iff.mp (by omega)
    exact later notified ((setup.run_delivered world depth steps).ordered rechecked)

/-- `connectDestroyed` ends an established connection that the hook had not closed
exactly if it does not find it half closed: a call between the steps of a run, from
other code of the loop or from the queue, with everything that may follow; and every
call that the run so far has made, those inside callbacks included. What the handler
around such a call does afterwards leaves the channel alone and delivers nothing if it
does not go on to touch or to notify the closed connection. -/
theorem connect_destroyed_terminal (setup : Setup) (world : World) (depth : Nat) (steps : List Step)
    (fresh : Fresh (setup.run world depth steps).trace) :
    let conn := setup.run world depth steps
    (∀ start, Enters world conn start →
      ((sync world start).state ≠ .kDisconnecting ↔
        Terminal world depth (connectDestroyed world (world.call depth) start))) ∧
      ∀ before found state waiting after,
        conn.trace = before ++ .destroyed found state waiting :: after →
        .setState .kConnected ∈ before →
        (found ≠ .kDisconnecting ↔ state = .kDisconnected ∧ waiting = [] ∧
          before.countP Event.isDisconnected = 1 ∧ after.countP Event.isDisconnected = 0) ∧
        (found ≠ .kDisconnecting → Untouched setup.tls conn.trace →
          ∀ event ∈ after, event.isUpdate = false) ∧
        (found ≠ .kDisconnecting → Rechecked conn.trace →
          ∀ event ∈ after, event.isDelivery = false) := by
  have calm := Setup.run_calm fresh
  refine ⟨fun start enters => ?_, fun before found state waiting after split established => ?_⟩
  · have ran := enters.ran
    have entered := calm.ran ran
    have state := connectDestroyed_state (world.call_ran depth) start
    have established := (entered.ran (@sync_ran world .user start)).established
    constructor
    · intro whole
      have inert := (@inert world).ran ran (fun _ => rfl)
        (setup.run_inert world depth steps)
      refine entered.terminal inert (fun waiter => ran.held (setup.run_held world depth steps waiter))
        (fun waiter awaitable => ?_) ?_
      · exact (captured waiter awaitable).ran ran (fun _ => rfl)
          (setup.run_captured world depth steps waiter awaitable)
      · rw [state]
        cases found : (sync world start).state <;> simp [found] at whole established ⊢
    · intro terminal half
      have closed := terminal.closed
      rw [state, half] at closed
      cases closed
  · have recorded := Setup.run_recorded fresh before found state waiting after split established
    have final := fun whole =>
      setup.run_destroyed world depth steps fresh split established (recorded.1.mp whole)
    refine ⟨⟨fun whole => ?_, fun returned => recorded.1.mpr returned.1⟩,
      fun whole => (final whole).2.1, fun whole => (final whole).2.2⟩
    have closed := recorded.1.mp whole
    obtain ⟨none, once, _⟩ := recorded.2 closed
    exact ⟨closed, none, once, (final whole).1⟩

theorem connect_destroyed_terminal_connected :
    let conn := Setup.run {} {} 1 [.call (.send [1])]
    (sync {} (sync {} conn)).state ≠ .kDisconnecting ∧
      Terminal {} 1 (connectDestroyed {} (World.call {} 1) (sync {} conn)) := by
  refine ⟨by decide, ?_⟩
  exact ((connect_destroyed_terminal {} {} 1 [.call (.send [1])] (by decide)).1 _ .call).mp (by decide)

/-- After `shutdown` the call removes the channel and leaves the connection half
closed, without a notification. -/
theorem connect_destroyed_half_closed :
    ¬Terminal {} 1 (connectDestroyed {} (World.call {} 1) (Setup.run {} {} 1 [.call .shutdown])) := by
  intro terminal
  exact absurd terminal.closed (by decide)

end MiniTrantor.Net
