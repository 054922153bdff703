import MiniTrantor.Net.Connection.Reads
import MiniTrantor.Net.Idle.Steps
import MiniTrantor.Net.Loop.Deadlines

/-!
# What the idle timer closes

The idle timer closes connections from which nothing was read for the time of the
timeout, as long as what is read reaches the message callback: bytes that a pending
read takes refresh nothing.
-/

set_option autoImplicit false

namespace MiniTrantor.Net

open Trace (Answered)
open Reactor (maxTicks)
open Connector (Representable)

variable {world : World}

/-! ## Reads of a connection that is still connected -/

/-- As long as the connection is connected, what was read was followed by a message.
The given events are those before it was established. -/
structure Told (past : List Event) (conn : Conn) : Prop where
  forward : ForwardSince past conn.state conn.trace
  captured : ∀ waiter awaitable, Captured waiter awaitable conn
  opened : .setState .kConnected ∈ conn.trace.drop past.length
  told : conn.state = .kConnected →
    conn.callbacks.message = true ∧ Answered Event.isRead Event.isMessage conn.trace

theorem StateE.eq_of_rank {state : StateE} (rank : state.rank = StateE.rank .kConnected) :
    state = .kConnected := by
  cases state <;> first | rfl | exact absurd rank (by decide)

/-- A connection that is connected has been since it was established. -/
theorem Continues.connected {past : List Event} {before after : Conn}
    (continues : Continues before after)
    (forward : ForwardSince past before.state before.trace)
    (opened : .setState .kConnected ∈ before.trace.drop past.length)
    (connected : after.state = .kConnected) : before.state = .kConnected := by
  obtain ⟨since, trace, ordered⟩ := forward
  obtain ⟨later, grown⟩ := continues.extends_trace
  obtain ⟨whole, split, bounded⟩ := continues.forward past ⟨since, trace, ordered⟩
  obtain rfl : whole = since ++ later := by
    rw [grown, trace, List.append_assoc] at split
    exact (List.append_cancel_left split).symm
  rw [trace, List.drop_left] at opened
  have lower := ordered.bounded _ (List.mem_flatMap.mpr ⟨_, opened, List.mem_cons_self⟩)
  have upper := bounded.bounded before.state (by
    rw [statesOf_append]
    exact List.mem_append_left _ (List.mem_of_getLast? ordered.current))
  rw [connected] at upper
  exact StateE.eq_of_rank (Nat.le_antisymm upper lower)

namespace Told

variable {past : List Event} {conn after : Conn}

theorem continues (kept : Told past conn) (continues : Continues conn after)
    (answers : conn.state = .kConnected → conn.callbacks.message = true →
      after.state = .kConnected → Answers conn after) : Told past after := by
  refine ⟨continues.forward past kept.forward, continues.captured kept.captured, ?_, fun connected => ?_⟩
  · obtain ⟨later, trace⟩ := continues.extends_trace
    obtain ⟨since, split, _⟩ := kept.forward
    have opened := kept.opened
    rw [split, List.drop_left] at opened
    rw [trace, split, List.append_assoc, List.drop_left]
    exact List.mem_append_left _ opened
  · have before := continues.connected kept.forward kept.opened connected
    obtain ⟨message, answered⟩ := kept.told before
    have last := answers before message connected
    obtain ⟨events, trace, answering⟩ := last.answered
    exact ⟨last.message message, trace ▸ answered.append answering⟩

theorem sync (kept : Told past conn) : Told past (sync world conn) :=
  kept.continues (.of_ran (@sync_ran world .user conn)) fun _ _ _ => .of_unread (.sync conn)

theorem step (keeps : ∀ callback conn, ∀ op ∈ world.user callback conn, op.KeepsMessage)
    (depth : Nat) {step : Step} (called : ∀ op, step = .call op → op.KeepsMessage)
    (heard : step.heard world conn = true) (kept : Told past conn) :
    Told past (step.take world depth conn) := by
  have taken := Continues.step world depth step kept.captured
  have synced : Told past (Net.sync world conn) := kept.sync
  refine kept.continues taken fun _ message connected => ?_
  refine Step.answers keeps depth called message heard connected fun ran still => ?_
  exact (Continues.of_ran ran).connected synced.forward synced.opened still

theorem calls (keeps : ∀ callback conn, ∀ op ∈ world.user callback conn, op.KeepsMessage)
    (depth : Nat) (ops : List Op) (called : ∀ op ∈ ops, op.KeepsMessage) (kept : Told past conn) :
    Told past (ops.foldl (fun conn op => Step.take world depth (.call op) conn) conn) := by
  induction ops generalizing conn with
  | nil => exact kept
  | cons op ops ih =>
      refine ih (fun other member => called other (List.mem_cons_of_mem _ member))
        (kept.step keeps depth (fun other same => ?_) rfl)
      cases same
      exact called op List.mem_cons_self

theorem hookAndClose
    (keeps : ∀ callback conn, ∀ op ∈ world.user callback conn, op.KeepsMessage) (depth : Nat)
    (hook : List Op) (called : ∀ op ∈ hook, op.KeepsMessage) (kept : Told past conn) :
    Told past (ServerConnection.hookAndClose world depth hook conn) := by
  refine (kept.calls keeps depth hook called).step keeps depth (fun op same => ?_) rfl
  cases same
  exact fun callbacks other => by cases other

theorem hookAndClose_unread
    (keeps : ∀ callback conn, ∀ op ∈ world.user callback conn, op.KeepsMessage) (depth : Nat)
    (hook : List Op) (called : ∀ op ∈ hook, op.KeepsMessage) (conn : Conn) :
    Unread conn (ServerConnection.hookAndClose world depth hook conn) := by
  have hooked := Reentry.Within.foldl Unread.refl .trans
    (fun op => Step.take world depth (.call op)) hook
    (fun op member => Unread.called keeps depth (called op member)) conn
  exact hooked.trans (.called keeps depth (fun callbacks other => by cases other) _)

theorem connectEstablished {call : Callback → Conn → Conn}
    (calls : ∀ callback, Reentry.Within Unread (call callback)) (conn : Conn) :
    Unread (establish conn) (TcpConnection.connectEstablished world call conn) := by
  have applied := Unread.apply calls (establish conn).outputBuffer.length (establish conn)
  rw [connectEstablished_eq]
  dsimp only
  split
  · exact applied.trans (.advanceTransportHandshake calls _)
  · exact applied.trans ((Unread.emit _ rfl _).trans (.notifyConnected calls _))

/-- Nothing is read before the connection is established. -/
theorem established
    (keeps : ∀ callback conn, ∀ op ∈ world.user callback conn, op.KeepsMessage) (setup : Setup)
    (message : setup.callbacks.message = true) (depth : Nat) :
    Told (setup.hooked world depth).trace (setup.established world depth) := by
  have calls := Unread.reentered keeps depth
  have hooked : Unread setup.initial (setup.hooked world depth) := by
    unfold Setup.hooked
    split
    · exact Unread.invokeIf calls _ _ _
    · exact .refl _
  have begun : Unread (setup.hooked world depth) (setup.begun world depth) :=
    .grown rfl (establish_trace _) (by simp [Event.isRead])
  have established : Unread (setup.begun world depth) (setup.established world depth) := by
    rw [Setup.established_started]
    exact connectEstablished calls _
  have entered : .setState .kConnected ∈
      (setup.begun world depth).trace.drop (setup.hooked world depth).trace.length := by
    rw [Setup.begun, establish_trace, List.drop_left]
    simp
  have unread := (hooked.trans begun).trans established
  obtain ⟨events, trace, quiet⟩ := unread.silent
  obtain ⟨later, grown, _⟩ := established.silent
  refine ⟨setup.run_forward world depth [], setup.captured_established world depth, ?_,
    fun _ => ⟨unread.message message, ?_⟩⟩
  · rw [grown, List.drop_append]
    exact List.mem_append_left _ entered
  · rw [trace]
    exact Answered.append (.of_none (by simp [Setup.initial])) (.of_none quiet)

end Told

/-! ## Deadlines -/

/-- The times of the events of the connection. -/
structure SteadyClock where
  ticks : Nat → Int
  shown : ∀ event, Reactor.Clock (ticks event)
  monotone : Monotone ticks

namespace Idle

theorem keepsMessage {op : Op} (keeps : keepsWrappers op = true) : op.KeepsMessage := by
  rintro callbacks rfl
  simp only [keepsWrappers, Bool.and_eq_true] at keeps
  exact keeps.1.2

/-- The wrappers that start the timer again. -/
def starts (state : StateE) : Event → Bool
  | .callback .connected | .callback .disconnected => state == .kConnected
  | .callback .message | .callback .writeComplete => true
  | _ => false

theorem wrapper_cases (state : StateE) (now : Int) (event : Event) (timers : IdleTimers) :
    (starts state event = true ∧ wrapper state now event timers = refreshIdleTimer now timers) ∨
      wrapper state now event timers = cancelIdleTimer timers ∨
      (event ≠ .callback .message ∧ wrapper state now event timers = timers) := by
  unfold wrapper
  split
  · split
    case isTrue connected => exact .inl ⟨by simp [starts, connected], rfl⟩
    case isFalse => exact .inr (.inl rfl)
  · split
    case isTrue connected => exact .inl ⟨by simp [starts, connected], rfl⟩
    case isFalse => exact .inr (.inl rfl)
  · exact .inl ⟨rfl, rfl⟩
  · exact .inl ⟨rfl, rfl⟩
  · exact .inr (.inl rfl)
  case h_6 other _ _ => exact .inr (.inr ⟨other, rfl⟩)

theorem Keeps.cancelIdleTimer_next {batch : List TimerPtr} {timers : IdleTimers}
    (keeps : Keeps batch timers) :
    (Idle.cancelIdleTimer timers).timerQueue.nextSequence = timers.timerQueue.nextSequence := by
  unfold Idle.cancelIdleTimer
  split
  · rfl
  · dsimp only
    split
    · exact (keeps.queue.cancelInLoop_objects _).1
    · rfl

/-- The timer that counts after a refresh is the new one. -/
theorem Keeps.refreshed {batch : List TimerPtr} {timers : IdleTimers} (keeps : Keeps batch timers)
    (positive : 0 < timers.idleState.timeout) (now : Int) :
    ∀ pair ∈ (Idle.refreshIdleTimer now timers).captured,
      pair.2 = (Idle.refreshIdleTimer now timers).idleState.generation →
        pair.1 = timers.timerQueue.nextSequence ∧
          ((Idle.refreshIdleTimer now timers).timerQueue.objects pair.1).expiration =
            addTicks now timers.idleState.timeout := by
  obtain ⟨_, older⟩ := keeps.cancelled positive
  rw [Idle.refreshIdleTimer, if_neg (Int.not_le.mpr positive), Idle.runAfter,
    cancelIdleTimer_timeout]
  intro pair member current
  rcases List.mem_cons.mp member with rfl | old
  · exact ⟨keeps.cancelIdleTimer_next, (TimerQueue.addTimer_self ..).1⟩
  · exact absurd current (Nat.ne_of_lt (older pair old))

end Idle

namespace ServerConnection

open Idle

variable {application : Application} {depth : Nat} {clock : SteadyClock} {timeout : Int}
  {server next : ServerConnection} {action : Action} {past : List Event}

/-- What is read reaches the message callback, and the wrappers that start the timer
again can: the deadline is a time point. -/
def Heard (application : Application) (clock : SteadyClock) (server : ServerConnection) :
    Action → Prop
  | .wrapper => ∀ event ∈ server.conn.trace[server.handled]?,
      starts (stateAfter (server.conn.trace.take server.handled)) event = true →
        clock.ticks server.handled + server.timers.idleState.timeout ≤ maxTicks
  | .step step => step.heard application.world server.conn = true
  | _ => True

instance (application : Application) (clock : SteadyClock) (server : ServerConnection) :
    (action : Action) → Decidable (Heard application clock server action)
  | .wrapper =>
      inferInstanceAs (Decidable (∀ event ∈ server.conn.trace[server.handled]?,
        starts (stateAfter (server.conn.trace.take server.handled)) event = true →
          clock.ticks server.handled + server.timers.idleState.timeout ≤ maxTicks))
  | .step step => inferInstanceAs (Decidable (step.heard application.world server.conn = true))
  | .addTimer _ _ | .cancel _ | .getExpired _ | .expire _ _ | .reset _ => isTrue trivial

/-- The timer that counts expires a timeout after the messages seen, or later. -/
structure Timely (clock : SteadyClock) (server : ServerConnection) : Prop where
  fresh : ∀ pair ∈ server.timers.captured, pair.2 = server.timers.idleState.generation →
    ∀ index < server.handled, server.conn.trace[index]? = some (.callback .message) →
      clock.ticks index + server.timers.idleState.timeout ≤
        (server.timers.timerQueue.objects pair.1).expiration
  due : ∀ expiry ∈ server.expiry, expiry.now ≤ clock.ticks server.handled ∧
    ∀ pair ∈ server.timers.captured, pair.2 = server.timers.idleState.generation →
      pair.1 ∈ expiry.expired →
        (server.timers.timerQueue.objects pair.1).expiration ≤ expiry.now

/-- The invariant. -/
structure Attended (past : List Event) (clock : SteadyClock) (server : ServerConnection) : Prop where
  consistent : Consistent server
  counts : Representable server.timers.idleState.timeout
  told : Told past server.conn
  timely : Timely clock server

namespace Attended

theorem create {setup : Setup} (positive : 0 < timeout) (counts : Representable timeout) :
    Attended ((served setup).hooked application.world depth).trace clock
      (create setup application depth timeout) where
  consistent := .create positive
  counts := counts
  told := .established (fun callback conn op member => keepsMessage (application.keeps callback conn op member))
    (served setup) rfl depth
  timely := ⟨by simp [ServerConnection.create], by simp [ServerConnection.create]⟩

end Attended

namespace Timely

/-- The timers and what the wrappers have seen are as before. -/
theorem continues (kept : Timely clock server) {conn : Conn} {later : List Event}
    (handled : server.handled ≤ server.conn.trace.length)
    (trace : conn.trace = server.conn.trace ++ later) : Timely clock { server with conn } := by
  refine ⟨fun pair member current index before message => ?_, kept.due⟩
  refine kept.fresh pair member current index before ?_
  have within : index < server.conn.trace.length := Nat.lt_of_lt_of_le before handled
  rwa [trace, List.getElem?_append_left within] at message

/-- The timers that were captured expire as before. -/
theorem queue (kept : Timely clock server) {timerQueue : TimerQueue}
    (same : ∀ pair ∈ server.timers.captured, (timerQueue.objects pair.1).expiration =
      (server.timers.timerQueue.objects pair.1).expiration) :
    Timely clock { server with timers := { server.timers with timerQueue } } := by
  refine ⟨fun pair member current index before message => ?_, fun expiry expiring => ?_⟩
  · change _ ≤ (timerQueue.objects pair.1).expiration
    rw [same pair member]
    exact kept.fresh pair member current index before message
  · obtain ⟨read, passed⟩ := kept.due expiry expiring
    refine ⟨read, fun pair member current batched => ?_⟩
    change (timerQueue.objects pair.1).expiration ≤ _
    rw [same pair member]
    exact passed pair member current batched

theorem wrapper (consistent : Consistent server) (counts : Representable server.timers.idleState.timeout)
    (kept : Timely clock server) {event : Event}
    (seen : server.conn.trace[server.handled]? = some event)
    (heard : Heard application clock server .wrapper) :
    Timely clock { server with
      handled := server.handled + 1
      timers := Idle.wrapper (stateAfter (server.conn.trace.take server.handled))
        (clock.ticks server.handled) event server.timers } := by
  have later : clock.ticks server.handled ≤ clock.ticks (server.handled + 1) :=
    clock.monotone (Nat.le_succ _)
  have positive := consistent.positive
  rcases wrapper_cases (stateAfter (server.conn.trace.take server.handled))
    (clock.ticks server.handled) event server.timers with ⟨starts, restarted⟩ | cancelled | ⟨other, same⟩
  · have refreshed := consistent.keeps.refreshed positive (clock.ticks server.handled)
    have deadline := (Reactor.addTicks_notEarly (clock.shown server.handled) positive counts).mpr
      (heard event seen starts)
    rw [Reactor.NotEarly, min_eq_left (heard event seen starts)] at deadline
    rw [restarted]
    refine ⟨fun pair member current index before message => ?_, fun expiry expiring => ?_⟩
    · have timeout := refreshIdleTimer_timeout (clock.ticks server.handled) server.timers
      have earlier : clock.ticks index ≤ clock.ticks server.handled :=
        clock.monotone (Nat.le_of_lt_succ before)
      dsimp only at member current ⊢
      rw [(refreshed pair member current).2, timeout]
      omega
    · obtain ⟨read, _⟩ := kept.due expiry expiring
      refine ⟨read.trans later, fun pair member current batched => ?_⟩
      have fresh := (refreshed pair member current).1
      have allocated := (consistent.keeps.queue.batched pair.1 (by
        rw [batch, expiring]
        exact batched)).1
      exact absurd fresh (Nat.ne_of_lt allocated)
  · obtain ⟨_, older⟩ := consistent.keeps.cancelled positive
    rw [cancelled]
    exact ⟨fun pair member current => absurd current (Nat.ne_of_lt (older pair member)),
      fun expiry expiring => ⟨(kept.due expiry expiring).1.trans later,
        fun pair member current => absurd current (Nat.ne_of_lt (older pair member))⟩⟩
  · rw [same]
    refine ⟨fun pair member current index before message => ?_, fun expiry expiring => ?_⟩
    · rcases Nat.lt_succ_iff_lt_or_eq.mp before with old | rfl
      · exact kept.fresh pair member current index old message
      · exact absurd (Option.some.inj (seen.symm.trans message)) other
    · obtain ⟨read, passed⟩ := kept.due expiry expiring
      exact ⟨read.trans later, passed⟩

theorem getExpired (consistent : Consistent server) (kept : Timely clock server) {now : Int}
    (between : server.expiry = none) (read : now ≤ clock.ticks server.handled) :
    Timely clock { server with
      timers := { server.timers with timerQueue := (server.timers.timerQueue.getExpired now).2 }
      expiry := some
        { now
          expired := (server.timers.timerQueue.getExpired now).1
          rest := (server.timers.timerQueue.getExpired now).1 } } := by
  have holds := consistent.keeps.queue
  rw [batch, between] at holds
  have queued := kept.queue (fun pair _ =>
    (TimerQueue.getExpired_objects now server.timers.timerQueue pair.1).1)
  refine ⟨queued.fresh, fun expiry expiring => ?_⟩
  cases expiring
  refine ⟨read, fun pair _ _ expired => ?_⟩
  dsimp only at expired ⊢
  rw [(TimerQueue.getExpired_eq now server.timers.timerQueue).1] at expired
  rw [(TimerQueue.getExpired_objects now server.timers.timerQueue pair.1).1]
  exact (holds.mem_due.mp expired).2

/-- The callback of the next timer is looked at. -/
theorem lookAt (kept : Timely clock server) {now : Int} {expired rest : List TimerPtr}
    (expiring : server.expiry = some ⟨now, expired, rest⟩) (others : List TimerPtr) :
    Timely clock { server with expiry := some ⟨now, expired, others⟩ } := by
  refine ⟨kept.fresh, fun expiry same => ?_⟩
  cases same
  exact kept.due ⟨now, expired, rest⟩ expiring

end Timely

namespace Attended

/-- The step lemma. -/
theorem moved (kept : Attended past clock server) (heard : Heard application clock server action)
    (moved : Moved application depth clock.ticks server action next) : Attended past clock next := by
  have consistent := kept.consistent.moved moved
  have keeps : ∀ callback conn, ∀ op ∈ application.world.user callback conn, op.KeepsMessage :=
    fun callback conn op member => keepsMessage (application.keeps callback conn op member)
  cases moved with
  | wrapper seen =>
      refine ⟨consistent, ?_, kept.told, kept.timely.wrapper kept.consistent kept.counts seen heard⟩
      have counts := kept.counts
      rwa [← wrapper_timeout] at counts
  | @step step _ permitted _ =>
      obtain ⟨later, trace⟩ := (Continues.step application.world depth step
        kept.consistent.captured).extends_trace
      refine ⟨consistent, kept.counts, kept.told.step keeps depth (fun op same => ?_) heard,
        kept.timely.continues kept.consistent.handled trace⟩
      subst same
      exact keepsMessage permitted
  | addTimer =>
      refine ⟨consistent, kept.counts, kept.told, kept.timely.queue fun pair member => ?_⟩
      have allocated := (kept.consistent.keeps.known pair member).1
      rw [(TimerQueue.addTimer_other (Nat.ne_of_lt allocated) ..).1]
  | @cancel id foreign =>
      refine ⟨consistent, kept.counts, kept.told, kept.timely.queue fun pair member => ?_⟩
      obtain ⟨_, _, others⟩ := kept.consistent.keeps.queue.cancelInLoop_objects id
      rw [others pair.1 (ne_of_foreign foreign pair member)]
  | getExpired _ between read =>
      exact ⟨consistent, kept.counts, kept.told, kept.timely.getExpired kept.consistent between read⟩
  | passOver expiring =>
      exact ⟨consistent, kept.counts, kept.told, kept.timely.lookAt expiring _⟩
  | @expire _ _ rest _ _ hook _ expiring _ _ permitted ran =>
      have hooked : ∀ op ∈ hook, op.KeepsMessage :=
        fun op member => keepsMessage (List.all_eq_true.mp permitted op member)
      obtain ⟨later, trace⟩ := (kept.consistent.called ran).extends_trace
      have continued := (kept.timely.continues kept.consistent.handled trace).lookAt expiring rest
      refine ⟨consistent, kept.counts, ?_, continued.fresh, continued.due⟩
      rcases ran with rfl | ⟨_, rfl⟩
      · exact kept.told.sync
      · exact kept.told.sync.hookAndClose keeps depth hook hooked
  | @reset now _ _ _ expiring =>
      have keeps := kept.consistent.keeps
      rw [batch, expiring] at keeps
      have queued := kept.timely.queue fun pair member =>
        @TimerQueue.reset_objects _ _ _ keeps.queue now (keeps.known pair member).2.1
      exact ⟨consistent, kept.counts, kept.told, queued.fresh, by simp⟩

/-- A timer of the batch that counts, of a connection to which nothing more was delivered. -/
theorem quiet (kept : Attended past clock server) {expiry : Idle.Expiry} (expiring : server.expiry = some expiry)
    (settled : server.handled = server.conn.trace.length) {id : Nat} (expired : id ∈ expiry.expired)
    (own : server.generation id = some server.timers.idleState.generation)
    (connected : server.conn.state = .kConnected) {index : Nat} {data : Bytes} (some : data ≠ [])
    (read : server.conn.trace[index]? = .some (.received data)) :
    clock.ticks index + server.timers.idleState.timeout ≤ clock.ticks server.conn.trace.length := by
  obtain ⟨within, found⟩ := List.getElem?_eq_some_iff.mp read
  have split : server.conn.trace =
      server.conn.trace.take index ++ .received data :: server.conn.trace.drop (index + 1) := by
    rw [← found, ← List.drop_eq_getElem_cons within, List.take_append_drop]
  have isRead : Event.isRead (.received data) = true := by
    cases data with
    | nil => exact absurd rfl some
    | cons => rfl
  obtain ⟨message, later, isMessage⟩ := (kept.told.told connected).2 _ _ _ split isRead
  obtain ⟨place, position⟩ := List.mem_iff_getElem?.mp later
  rw [List.getElem?_drop] at position
  obtain rfl : message = .callback .message := by simpa [Event.isMessage] using isMessage
  obtain ⟨seen, _⟩ := List.getElem?_eq_some_iff.mp position
  have earlier : clock.ticks index ≤ clock.ticks (index + 1 + place) := clock.monotone (by omega)
  have deadline := kept.timely.fresh _ (mem_captured own) rfl _ (settled ▸ seen) position
  obtain ⟨passed, due⟩ := kept.timely.due expiry expiring
  have expiration := due _ (mem_captured own) rfl expired
  rw [settled] at passed
  omega

theorem reach {setup : Setup} (positive : 0 < timeout) (counts : Representable timeout)
    (reached : Reach (step application depth clock.ticks) (Heard application clock)
      (ServerConnection.create setup application depth timeout) server) :
    Attended ((served setup).hooked application.world depth).trace clock server :=
  reached.invariant (create positive counts) fun _ _ _ kept heard stepped =>
    kept.moved heard (step_cases stepped)

end Attended

theorem timeout_kept {permitted : ServerConnection → Action → Prop} {setup : Setup}
    (reached : Reach (step application depth clock.ticks) permitted
      (create setup application depth timeout) server) :
    server.timers.idleState.timeout = timeout := by
  refine @Reach.invariant _ _ _ _ _ (fun server => server.timers.idleState.timeout = timeout) rfl
    (fun before after action same _ stepped => ?_) _ reached
  rw [← same]
  cases step_cases stepped with
  | wrapper _ => exact wrapper_timeout ..
  | step | addTimer | cancel | getExpired | passOver | expire | reset => rfl

/-- What the callback of an idle timer closes has read nothing for the time of the
timeout, if whatever was read reached the message callback. The close is not one that
the hook made before the connection was established. -/
theorem idle_close (application : Application) (setup : Setup) (depth : Nat) (clock : SteadyClock)
    (timeout : Int) (positive : 0 < timeout) (counts : Representable timeout)
    {server next : ServerConnection}
    (reached : Reach (step application depth clock.ticks) (Heard application clock)
      (create setup application depth timeout) server)
    {connection : Bool} {hook : List Op}
    (stepped : step application depth clock.ticks server (.expire connection hook) = some next)
    (opened : server.conn.state ≠ .kDisconnected) (closed : next.conn.state = .kDisconnected)
    {read close : Nat} {data : Bytes} (some : data ≠ [])
    (received : next.conn.trace[read]? = .some (.received data))
    (closing : next.conn.trace[close]? = .some (.setState .kDisconnected))
    (established : ((served setup).hooked application.world depth).trace.length ≤ close) :
    clock.ticks read + timeout ≤ clock.ticks close := by
  have attended := Attended.reach positive counts reached
  have keeps : ∀ callback conn, ∀ op ∈ application.world.user callback conn, op.KeepsMessage :=
    fun callback conn op member => keepsMessage (application.keeps callback conn op member)
  cases step_cases stepped with
  | passOver expiring => exact absurd closed opened
  | @expire now expired rest id _ _ conn expiring settled own permitted ran =>
      have synced : Continues server.conn (sync application.world server.conn) :=
        .of_ran (@sync_ran application.world .user server.conn)
      rcases ran with rfl | ⟨connected, rfl⟩
      · rcases (sync_sharedOnly application.world server.conn).state with same | ⟨_, other⟩
        · exact absurd (same.symm.trans closed) opened
        · cases other.symm.trans closed
      · have before := synced.connected attended.told.forward attended.told.opened connected
        have unread := (Unread.sync server.conn).trans (Told.hookAndClose_unread keeps depth hook
          (fun op member => keepsMessage (List.all_eq_true.mp permitted op member))
          (sync application.world server.conn))
        obtain ⟨events, trace, quiet⟩ := unread.silent
        dsimp only at received closing
        rw [trace] at received closing
        have early : read < server.conn.trace.length := by
          by_contra late
          rw [List.getElem?_append_right (Nat.not_lt.mp late)] at received
          have silent := quiet _ (List.mem_of_getElem? received)
          cases data with
          | nil => exact some rfl
          | cons => cases silent
        have late : server.conn.trace.length ≤ close := by
          by_contra early
          rw [List.getElem?_append_left (Nat.not_le.mp early)] at closing
          obtain ⟨since, split, forward⟩ := attended.told.forward
          rw [split, List.getElem?_append_right established] at closing
          have bounded := forward.bounded .kDisconnected
            (List.mem_flatMap.mpr ⟨_, List.mem_of_getElem? closing, List.mem_cons_self⟩)
          rw [before] at bounded
          exact absurd bounded (by decide)
        rw [List.getElem?_append_left early] at received
        have idle := attended.quiet expiring settled
          (attended.consistent.rest _ expiring List.mem_cons_self) own before some received
        rw [timeout_kept reached] at idle
        exact idle.trans (clock.monotone late)

/-- A peer that sends one byte at a time. -/
def chattyPeer : Application where
  world := { read := fun _ => .bytes [1] }
  keeps := keepsWrappers_nothing

/-- A clock that shows a time later than zero from the first of two events on, and
a later one from the second. -/
def jumps (first second : Nat) (middle last : Nat)
    (ordered : first ≤ second ∧ middle ≤ last ∧ last ≤ 10) : SteadyClock where
  ticks event := if event < first then 0 else if event < second then middle else last
  shown event := by
    unfold Reactor.Clock maxTicks
    split_ifs <;> omega
  monotone earlier later order := by
    dsimp only
    split_ifs <;> omega

/-- A byte arrives at two, and the timer is looked at at seven. -/
def atSeven : SteadyClock := jumps 5 8 2 7 (by decide)

def oneMessage : List Action :=
  [.wrapper, .wrapper, .wrapper, .wrapper, .wrapper, .step (.event { read := true }), .wrapper,
    .wrapper, .wrapper, .getExpired 7]

theorem idle_close_at_seven :
    ∃ server next, Reach (step chattyPeer 1 atSeven.ticks) (Heard chattyPeer atSeven)
        (create {} chattyPeer 1 5) server ∧
      step chattyPeer 1 atSeven.ticks server (.expire true []) = some next ∧
      next.conn.trace[8]? = some (.setState .kDisconnected) ∧
      atSeven.ticks 6 + 5 ≤ atSeven.ticks 8 := by
  have ran : ∃ server next,
      MiniTrantor.run (checked (step chattyPeer 1 atSeven.ticks) (Heard chattyPeer atSeven))
        (create {} chattyPeer 1 5) oneMessage = some server ∧
      step chattyPeer 1 atSeven.ticks server (.expire true []) = some next ∧
      server.conn.state ≠ .kDisconnected ∧ next.conn.state = .kDisconnected ∧
      next.conn.trace[6]? = some (.received [1]) ∧
      next.conn.trace[8]? = some (.setState .kDisconnected) :=
    ⟨_, _, rfl, rfl, by decide, rfl, rfl, rfl⟩
  obtain ⟨server, next, ran, stepped, opened, closed, received, closing⟩ := ran
  have reached := Reach.start.checked ran
  exact ⟨server, next, reached, stepped, closing, idle_close chattyPeer {} 1 atSeven 5 (by decide)
    (by decide) reached stepped opened closed (by simp) received closing (Nat.zero_le _)⟩

/-- A byte arrives at four, and the timer is looked at at five. -/
def atFive : SteadyClock := jumps 5 9 4 5 (by decide)

/-- The byte arrives while a read is pending. -/
def oneRead : List Action :=
  [.wrapper, .wrapper, .wrapper, .wrapper, .wrapper, .step (.call (.await 0 { kind := .read })),
    .wrapper, .step (.event { read := true }), .wrapper, .wrapper, .wrapper, .getExpired 5]

theorem idle_close_after_read :
    ∃ server next, Reach (step chattyPeer 1 atFive.ticks) (fun _ _ => True)
        (create {} chattyPeer 1 5) server ∧
      step chattyPeer 1 atFive.ticks server (.expire true []) = some next ∧
      server.conn.state = .kConnected ∧ next.conn.trace[9]? = some (.setState .kDisconnected) ∧
      next.conn.trace[7]? = some (.received [1]) ∧
      atFive.ticks 9 - 5 < atFive.ticks 7 ∧ atFive.ticks 7 < atFive.ticks 9 := by
  have ran : ∃ server next,
      MiniTrantor.run (step chattyPeer 1 atFive.ticks) (create {} chattyPeer 1 5) oneRead =
        some server ∧
      step chattyPeer 1 atFive.ticks server (.expire true []) = some next ∧
      server.conn.state = .kConnected ∧ next.conn.trace[9]? = some (.setState .kDisconnected) ∧
      next.conn.trace[7]? = some (.received [1]) :=
    ⟨_, _, rfl, rfl, rfl, rfl, rfl⟩
  obtain ⟨server, next, ran, stepped, connected, closing, received⟩ := ran
  exact ⟨server, next, Reach.start.run (fun _ _ _ => trivial) ran, stepped, connected, closing,
    received, by decide, by decide⟩

end ServerConnection

end MiniTrantor.Net
