import MiniTrantor.Net.Connection.Behaviour
import MiniTrantor.Net.Connection.Waiters

/-!
# Channel dispatch and whole runs

The handlers of the channel as sequences of moves, one step of the owner loop,
and the rules that carry an invariant from the new connection through
`connectEstablished` to every state between two steps of a run.
-/

set_option autoImplicit false

namespace MiniTrantor.Net

open ConnectionAwaiterRegistry ConnectionBackpressureController ConnectionCallbackDispatcher
open ConnectionTransport TcpConnection

variable {world : World}

theorem Conn.Unchecked.of_noted {places : List Checkpoint} {place : Checkpoint} {conn : Conn}
    (listed : place ∈ places) (noted : .checkpoint place conn.state ∈ conn.trace) :
    conn.Unchecked places := by
  intro closed
  rw [closed] at noted
  exact ⟨place, listed, noted⟩

/-! ## Transport -/

theorem foldl_appendInput_state (reads : List Bytes) (conn : Conn) :
    (reads.foldl (fun conn data => appendInput data conn) conn).state = conn.state := by
  induction reads generalizing conn with
  | nil => rfl
  | cons data reads ih => exact ih (appendInput data conn)

theorem foldl_appendInput_ran (reads : List Bytes) (conn : Conn) :
    Ran world .dispatch conn (reads.foldl (fun conn data => appendInput data conn) conn) :=
  Reentry.Within.foldl (fun _ => .refl) .trans appendInput reads
    (fun _ _ _ => .dispatched .refl .receive) conn

/-- A read adds input and, with TLS, may ask for writability. -/
theorem readInto_ran {conn : Conn} (noted : .checkpoint .handleRead conn.state ∈ conn.trace) :
    Ran world .dispatch conn (readInto world conn).2 ∧
      (readInto world conn).2.state = conn.state := by
  unfold readInto
  split
  case isTrue ssl =>
    have filled := @foldl_appendInput_ran world (world.sslRead conn).1 conn
    have same := foldl_appendInput_state (world.sslRead conn).1 conn
    have waiting : Ran world .dispatch conn
        (((world.sslRead conn).1.foldl (fun conn data => appendInput data conn) conn).updateChannel
          Channel.enableWriting) := by
      refine .dispatched filled (.interest ?_ (.inl ?_) (.inr (.inl rfl)))
      · rw [filled.ssl_eq, ssl]
      · exact .of_noted List.mem_cons_self (filled.mem_trace (by rw [same]; exact noted))
    unfold sslReadIntoBuffer
    dsimp only
    split
    · split <;> exact ⟨filled, same⟩
    · split <;> exact ⟨waiting, same⟩
    · split <;> exact ⟨filled, same⟩
    · split <;> exact ⟨filled, same⟩
  case isFalse plain =>
    split
    · exact ⟨.refl, rfl⟩
    · exact ⟨.dispatched .refl .receive, rfl⟩
    · split <;> exact ⟨.refl, rfl⟩

/-- What the loop of `sslWriteFromBuffer` has done since it started. -/
inductive Progress (start : Conn) (totalWritten : Nat) (conn : Conn) : Prop where
  | none : totalWritten = 0 → conn = start → Progress start totalWritten conn
  | some : 0 < totalWritten → Drains start conn → Progress start totalWritten conn

/-- A write from the buffer makes progress, or leaves the buffer alone. -/
def Drained (world : World) (start : Conn) (returned : Result × Conn) : Prop :=
  returned.1.status = .kOk ∧ Drains start returned.2 ∨
    returned.1.status ≠ .kOk ∧ Ran world .dispatch start returned.2

theorem Progress.finish {start conn after : Conn} {totalWritten : Nat}
    (progress : Progress start totalWritten conn)
    (idle : conn = start → Ran world .dispatch start after)
    (drained : Drains start conn → Drains start after) :
    Drained world start
      (if totalWritten > 0 then ({ status := .kOk, bytes := totalWritten }, after) else ({}, after)) := by
  cases progress with
  | none zero same => rw [if_neg (by omega)]; exact .inr ⟨by simp, idle same⟩
  | some positive drains => rw [if_pos positive]; exact .inl ⟨rfl, drained drains⟩

theorem sslWriteLoop_drained {start : Conn} (writing : start.channel.isWriting = true)
    (ssl : start.transport.ssl = true) (fuel totalWritten : Nat) (conn : Conn)
    (progress : Progress start totalWritten conn) :
    Drained world start (sslWriteLoop world fuel totalWritten conn) := by
  induction fuel generalizing totalWritten conn with
  | zero => exact progress.finish (fun same => same ▸ .refl) id
  | succ fuel ih =>
      have finish := @Progress.finish world start conn conn totalWritten progress
        (fun same => same ▸ .refl) id
      have connSsl : conn.transport.ssl = true := by
        cases progress with
        | none _ same => rw [same]; exact ssl
        | some _ drains => exact drains.ssl_eq.trans ssl
      unfold sslWriteLoop
      dsimp only
      split
      · exact finish
      · split
        case h_1 count returned =>
          have positive := (world.sslWrite_range conn _ _ count returned).1
          apply ih
          cases progress with
          | none _ same =>
              subst same
              exact .some (by omega) (.first writing)
          | some _ drains => exact .some (by omega) (.more drains)
        case h_2 => exact finish
        case h_3 =>
          refine progress.finish (fun same => ?_) fun drains => .wantRead drains connSsl
          subst same
          exact .dispatched .refl (.interest ssl (.inr writing) (.inl rfl))
        case h_4 | h_5 =>
          split
          case isTrue positive => simpa only [if_pos positive] using finish
          case isFalse zero =>
            cases progress with
            | none _ same => exact .inr ⟨by simp, same ▸ .refl⟩
            | some positive _ => exact absurd positive zero

theorem writeFromBuffer_drained {conn : Conn} (writing : conn.channel.isWriting = true) :
    Drained world conn (writeFromBuffer world conn) := by
  unfold writeFromBuffer
  split
  case isTrue ssl => exact sslWriteLoop_drained writing ssl _ 0 conn (.none rfl rfl)
  case isFalse =>
    split
    · exact .inr ⟨by simp, .refl⟩
    · exact .inl ⟨rfl, .first writing⟩
    · split <;> exact .inr ⟨by simp, .refl⟩

/-! ## Handlers -/

section Handlers

variable {call : Callback → Conn → Conn}
  (calls : ∀ callback conn, Ran world .user conn (call callback conn))

include calls

theorem invoke_dispatched_ran {callback : Callback} {conn : Conn}
    (dispatched : callback.isDispatched = true)
    (first : callback = .connected →
      conn.transport.ssl = true ∨ .callback .connected ∉ conn.trace)
    (unchecked : conn.Unchecked [.handleRead, .handshake, .notifyConnected]) :
    Ran world .dispatch conn (invoke call callback conn) :=
  Ran.trans (.dispatched .refl (.dispatch dispatched first unchecked)) (calls callback _).mono

theorem fireTlsEvent_ran (event : TlsEvent) {conn : Conn}
    (unchecked : conn.Unchecked [.handleRead, .handshake, .notifyConnected]) :
    Ran world .dispatch conn (fireTlsEvent call event conn) := by
  simp only [fireTlsEvent]
  split
  · exact invoke_dispatched_ran calls rfl (by simp) unchecked
  · exact .refl

omit calls in
theorem advanceHandshake_ran {conn : Conn} (ssl : conn.transport.ssl = true)
    (noted : .checkpoint .handshake conn.state ∈ conn.trace) :
    Ran world .dispatch conn (advanceHandshake world conn).2 ∧
      (advanceHandshake world conn).2.state = conn.state := by
  have interest : ∀ {change : Channel → Channel},
      change = Channel.enableReading ∨ change = Channel.enableWriting ∨
        change = Channel.disableWriting →
      Ran world .dispatch conn (conn.updateChannel change) :=
    fun which => .dispatched .refl (.interest ssl (.inl (.of_noted (by simp) noted)) which)
  unfold advanceHandshake
  split
  · split
    · refine ⟨.dispatched (.dispatched .refl .established) ?_, rfl⟩
      exact .interest ssl (.inl (.of_noted (by simp) noted)) (.inr (.inr rfl))
    · split
      · exact ⟨.refl, rfl⟩
      · exact ⟨interest (.inl rfl), rfl⟩
    · exact ⟨interest (.inr (.inl rfl)), rfl⟩
    · exact ⟨.refl, rfl⟩
    · exact ⟨.refl, rfl⟩
  · exact ⟨.refl, rfl⟩

theorem notifyConnected_ran {conn : Conn}
    (first : conn.transport.ssl = true ∨ .callback .connected ∉ conn.trace) :
    Ran world .dispatch conn
      (notifyConnected call (conn.emit (.checkpoint .notifyConnected conn.state))) := by
  have noticed : Ran world .dispatch conn
      ((conn.emit (.checkpoint .notifyConnected conn.state)).emit (.callback .connected)) := by
    refine .dispatched (.single (.note rfl)) (.dispatch rfl (fun _ => ?_) ?_)
    · exact first.imp id fun none => by simpa using none
    · exact @Conn.Unchecked.of_noted _ .notifyConnected _ (by simp) (by simp)
  simp only [notifyConnected]
  split
  · exact noticed.trans (calls .connected _).mono
  · exact noticed

theorem advanceTransportHandshake_ran {conn : Conn} (ssl : conn.transport.ssl = true) :
    Ran world .dispatch conn (advanceTransportHandshake world call conn) := by
  have start : Ran world .dispatch conn (conn.emit (.checkpoint .handshake conn.state)) :=
    .single (.note rfl)
  obtain ⟨advanced, same⟩ :=
    @advanceHandshake_ran world (conn.emit (.checkpoint .handshake conn.state)) ssl (by simp)
  have handshaken := start.trans advanced
  have fired : ∀ event, Ran world .dispatch conn (fireTlsEvent call event
      (advanceHandshake world (conn.emit (.checkpoint .handshake conn.state))).2) := by
    intro event
    refine handshaken.trans (fireTlsEvent_ran calls event
      (@Conn.Unchecked.of_noted _ .handshake _ (by simp) ?_))
    rw [same]
    exact advanced.mem_trace (by simp)
  simp only [advanceTransportHandshake]
  split
  · exact (fired .handshakeFailed).trans (handleError_ran calls _ _)
  · split
    · have hooked := fired .handshakeCompleted
      exact hooked.trans (notifyConnected_ran calls (.inl (hooked.ssl_eq.trans ssl)))
    · exact handshaken

omit calls in
/-- Other threads do not close the connection. -/
theorem resumeReadWaiterIfSatisfied_open {readableBytes : Nat} {conn : Conn}
    (closed : (resumeReadWaiterIfSatisfied world readableBytes conn).state = .kDisconnected) :
    conn.state = .kDisconnected := by
  have synced : ∀ {before : Conn}, (sync world before).state = .kDisconnected →
      before.state = .kDisconnected := by
    intro before closed
    rcases (sync_sharedOnly world before).state with same | ⟨_, disconnecting⟩
    · rw [← same]; exact closed
    · rw [disconnecting] at closed; cases closed
  unfold resumeReadWaiterIfSatisfied queueResumeSlot queueResume at closed
  split at closed
  · split at closed
    · exact closed
    case h_2 waiter _ =>
      dsimp only at closed
      split at closed
      · exact @synced (markQueued waiter conn) closed
      · exact closed
  · exact closed

theorem handleRead_ran (conn : Conn) : Ran world .dispatch conn (handleRead world call conn) := by
  simp only [handleRead]
  split
  case isTrue handshaking =>
    have ssl : conn.transport.ssl = true := (Bool.and_eq_true_iff.mp handshaking).1
    exact advanceTransportHandshake_ran calls ssl
  case isFalse =>
    have start : Ran world .dispatch conn (conn.emit (.checkpoint .handleRead conn.state)) :=
      .single (.note rfl)
    obtain ⟨received, same⟩ :=
      @readInto_ran world (conn.emit (.checkpoint .handleRead conn.state)) (by simp)
    have filled := start.trans received
    split
    · have resumed := filled.trans (resumeReadWaiterIfSatisfied_ran _)
      simp only [notifyMessage]
      split
      · refine resumed.trans (invoke_dispatched_ran calls rfl (by simp) ?_)
        intro closed
        have already := resumeReadWaiterIfSatisfied_open closed
        rw [same, Conn.emit_state] at already
        refine ⟨.handleRead, by simp, ?_⟩
        exact (received.trans (resumeReadWaiterIfSatisfied_ran _)).mem_trace (by simp [already])
      · exact resumed
    · exact filled.trans (handleClose_ran calls _)
    · exact filled.trans (handleError_ran calls _ _)
    · exact filled

theorem handleWrite_ran (conn : Conn) : Ran world .dispatch conn (handleWrite world call conn) := by
  simp only [handleWrite]
  split
  case isTrue handshaking =>
    have ssl : conn.transport.ssl = true := (Bool.and_eq_true_iff.mp handshaking).1
    exact advanceTransportHandshake_ran calls ssl
  case isFalse =>
    split
    case isTrue => exact .refl
    case isFalse busy =>
      have writing : conn.channel.isWriting = true := by simpa using busy
      have start : Ran world .dispatch conn (conn.emit (.draining conn.outputBuffer.length)) :=
        .dispatched .refl (.draining writing)
      rcases @writeFromBuffer_drained world (conn.emit (.draining conn.outputBuffer.length)) writing with
        ⟨ok, drains⟩ | ⟨stuck, idle⟩
      · have hooked : Ran world .user _ (applyBackpressurePolicy call
            (writeFromBuffer world (conn.emit (.draining conn.outputBuffer.length))).2) :=
          apply_ran calls _ _
        have settled := Ran.drain start drains hooked
        simp only [ok]
        split
        case isTrue empty =>
          rw [settle, if_pos empty] at settled
          exact settled.trans (finishPendingWrite_ran (by simpa using empty))
        case isFalse left =>
          rw [settle, if_neg left] at settled
          exact settled
      · have stopped := start.trans idle
        split
        · exact stopped.trans (handleError_ran calls _ _)
        case h_2 ok => exact absurd ok stuck
        · exact stopped
        · exact stopped

theorem handleEventWithGuard_ran (revents : EventMask) (conn : Conn) :
    Ran world .dispatch conn (handleEventWithGuard world call revents conn) := by
  have guarded : ∀ (wanted : Bool) {handler : Conn → Conn} (conn : Conn),
      (∀ conn, Ran world .dispatch conn (handler conn)) →
      Ran world .dispatch conn (if wanted then handler conn else conn) := by
    intro wanted handler conn handles
    cases wanted
    · exact .refl
    · exact handles conn
  exact (((guarded _ conn (handleClose_ran calls)).trans
    (guarded _ _ (handleError_ran calls 0))).trans
    (guarded _ _ (handleRead_ran calls))).trans (guarded _ _ (handleWrite_ran calls))

end Handlers

/-! ## Steps of the owner loop -/

/-- On whose behalf a step runs. -/
def Step.scope (world : World) (step : Step) (conn : Conn) : Scope :=
  match step with
  | .event _ => if conn.channel.addedToLoop then .dispatch else .user
  | .functor => ((sync world conn).queue.head?.map Functor.scope).getD .user
  | .call _ => .user

theorem Step.take_ran (world : World) (depth : Nat) (step : Step) {conn : Conn}
    (armed : ∀ waiter awaitable, Captured waiter awaitable conn) :
    Ran world (step.scope world conn) conn (step.take world depth conn) := by
  have calls := world.call_ran depth
  cases step with
  | event revents =>
      simp only [Step.take, Step.scope, sync_channel]
      split
      · exact (sync_ran conn).trans (handleEventWithGuard_ran calls revents _)
      · exact sync_ran conn
  | functor =>
      simp only [Step.take, Step.scope]
      split
      case h_1 empty => simpa only [empty] using sync_ran conn
      case h_2 next rest queue =>
        simp only [queue, List.head?_cons, Option.map_some, Option.getD_some]
        refine (sync_ran conn).trans (Functor.run_ran calls queue ?_)
        rintro waiter awaitable rfl
        have synced := (captured waiter awaitable).ran (@sync_ran world .user conn) (by simp)
          (armed waiter awaitable)
        exact (synced (by simp [Conn.functors, queue])).2
  | call op => exact (sync_ran conn).trans (Op.perform_ran calls op _)

/-! ## Establishment -/

/-- `connectEstablished` up to the backpressure policy. -/
def establish (conn : Conn) : Conn :=
  let conn := conn.emit (.checkpoint .connectEstablished conn.state)
  let conn := { conn.setState .kConnected with closeReason := .kNone }
  let conn := conn.updateChannel Channel.enableReading
  { conn with backpressure := { conn.backpressure with active := true, readingEnabled := true } }

theorem establish_trace (conn : Conn) : (establish conn).trace = conn.trace ++
    [.checkpoint .connectEstablished conn.state, .setState .kConnected,
      .update conn.channel.enableReading.events] := by
  simp [establish]

/-- `connectEstablished` does not find the connection closed by the hook before it. -/
def Fresh (trace : List Event) : Prop := .checkpoint .connectEstablished .kDisconnected ∉ trace

instance (trace : List Event) : Decidable (Fresh trace) :=
  inferInstanceAs (Decidable (_ ∉ trace))

theorem Fresh.of_append {trace events : List Event} (fresh : Fresh (trace ++ events)) : Fresh trace :=
  fun member => fresh (List.mem_append_left _ member)

theorem fresh_establish {conn : Conn} (fresh : Fresh (establish conn).trace) :
    conn.state ≠ .kDisconnected := by
  intro closed
  apply fresh
  simp [establish_trace, closed]

theorem connectEstablished_eq (world : World) (call : Callback → Conn → Conn) (conn : Conn) :
    connectEstablished world call conn =
      let conn := apply call (establish conn).outputBuffer.length (establish conn)
      if handshakePending conn then advanceTransportHandshake world call conn
      else notifyConnected call (conn.emit (.checkpoint .notifyConnected conn.state)) := rfl

/-- User code does not notify of the establishment. -/
theorem unconnected : Invariant world false fun conn => .callback .connected ∉ conn.trace := by
  have silent : ∀ {before after : Conn} {events : List Event}, after.trace = before.trace ++ events →
      .callback .connected ∉ events → .callback .connected ∉ before.trace →
      .callback .connected ∉ after.trace := by
    intro before after events trace none kept member
    rw [trace] at member
    exact (List.mem_append.mp member).elim kept none
  have framed : ∀ {before after : Conn} {events : List Event}, Frame before after events →
      .callback .connected ∉ before.trace → .callback .connected ∉ after.trace :=
    fun frame => silent frame.trace fun member => by cases frame.quiet _ member
  constructor
  case move =>
    intro before after move kept
    obtain ⟨_, frame⟩ := move.frame
    exact framed frame kept
  case take =>
    intro waiter awaitable before after takes kept
    cases takes <;> exact kept
  case finish =>
    intro waiter before after finishes kept
    cases finishes with
    | complete _ _ => exact kept
    | finish _ _ =>
        obtain ⟨_, _, _, _, finished⟩ := finishAwait_eq _ _ _
        rw [finished]
        exact silent rfl (by simp) kept
  case dispatch => exact fun on => by cases on
  case retrieve => exact fun on => by cases on
  case settle => exact fun on => by cases on
  case close =>
    intro conn failed _ fails kept
    obtain ⟨_, frame⟩ := fails.frame
    exact silent (shutChannel_trace failed) (by simp) (framed frame kept)
  case disconnected => exact fun _ kept => silent rfl (by simp) kept
  case closeCallback => exact fun kept => silent rfl (by simp) kept

theorem connectEstablished_ran {call : Callback → Conn → Conn}
    (calls : ∀ callback conn, Ran world .user conn (call callback conn)) {conn : Conn}
    (none : .callback .connected ∉ conn.trace) :
    Ran world .dispatch (establish conn) (connectEstablished world call conn) := by
  have applied : Ran world .user (establish conn)
      (apply call (establish conn).outputBuffer.length (establish conn)) := apply_ran calls _ _
  rw [connectEstablished_eq]
  dsimp only
  split
  case isTrue handshaking =>
    have ssl := (Bool.and_eq_true_iff.mp handshaking).1
    exact applied.mono.trans (advanceTransportHandshake_ran calls ssl)
  case isFalse =>
    refine applied.mono.trans (notifyConnected_ran calls (.inr ?_))
    refine unconnected.ran applied (by simp) ?_
    rw [establish_trace]
    simpa using none

/-! ## Runs -/

theorem Setup.hooked_ran (setup : Setup) (world : World) (depth : Nat) :
    Ran world .dispatch setup.initial (setup.hooked world depth) ∧
      .callback .connected ∉ (setup.hooked world depth).trace := by
  have calls := world.call_ran depth
  have started : .callback .connected ∉
      (setup.initial.emit (.callback (.tls .handshakeStarted))).trace := by
    simp [Setup.initial]
  unfold Setup.hooked
  split
  · refine ⟨fireTlsEvent_ran calls _ (by rintro ⟨⟩), ?_⟩
    simp only [fireTlsEvent, invoke]
    split
    · exact unconnected.ran (calls _ _) (by simp) started
    · exact List.not_mem_nil
  · exact ⟨.refl, List.not_mem_nil⟩

/-- What `startTls` leaves, if it is called. -/
def Setup.transport (setup : Setup) (world : World) : Transport :=
  if setup.tls && world.sslNew then { ssl := true, tlsState := .kTlsHandshaking } else {}

/-- The connection when `connectEstablished` turns to the backpressure policy. -/
def Setup.begun (setup : Setup) (world : World) (depth : Nat) : Conn :=
  establish { setup.hooked world depth with transport := setup.transport world }

theorem Setup.started_eq (setup : Setup) (world : World) (depth : Nat) :
    (if setup.tls then startTls world (setup.hooked world depth) else setup.hooked world depth) =
      { setup.hooked world depth with transport := setup.transport world } := by
  unfold Setup.transport
  cases tls : setup.tls with
  | true => rfl
  | false =>
      have same : setup.hooked world depth = setup.initial := by simp [Setup.hooked, tls]
      rw [same]
      rfl

theorem Setup.established_started (setup : Setup) (world : World) (depth : Nat) :
    setup.established world depth = connectEstablished world (world.call depth)
      { setup.hooked world depth with transport := setup.transport world } := by
  rw [← Setup.started_eq]
  rfl

theorem Setup.established_ran (setup : Setup) (world : World) (depth : Nat) :
    Ran world .dispatch (setup.begun world depth) (setup.established world depth) := by
  rw [Setup.established_started]
  exact connectEstablished_ran (world.call_ran depth) (setup.hooked_ran world depth).2

/-- Further steps of the owner loop. -/
def World.steps (world : World) (depth : Nat) (steps : List Step) (conn : Conn) : Conn :=
  steps.foldl (fun conn step => step.take world depth conn) conn

/-- The step rule. Steps from a state whose arming functors are sound are chains
of stretches of code, each in the scope of its step. -/
theorem World.steps_induction {world : World} {depth : Nat} {holds : Conn → Prop} {conn : Conn}
    (armed : ∀ waiter awaitable, Captured waiter awaitable conn) (start : holds conn)
    (ran : ∀ {step : Step} {before after}, Ran world (step.scope world before) before after →
      holds before → holds after)
    (steps : List Step) : holds (world.steps depth steps conn) := by
  induction steps generalizing conn with
  | nil => exact start
  | cons step steps ih =>
      have taken := Step.take_ran world depth step armed
      exact ih (fun waiter awaitable => (captured waiter awaitable).ran taken (fun _ => rfl)
        (armed waiter awaitable)) (ran taken start)

/-- What a new connection has, every stretch of code keeps and `connectEstablished`
begins with holds when it turns to the backpressure policy. -/
theorem Setup.begun_induction {setup : Setup} {world : World} {depth : Nat} {holds : Conn → Prop}
    (initial : holds setup.initial)
    (ran : ∀ {scope before after}, Ran world scope before after → holds before → holds after)
    (begins : ∀ conn transport, conn.transport.ssl = false → holds conn →
      holds (establish { conn with transport })) :
    holds (setup.begun world depth) :=
  begins _ _ (setup.hooked_ran world depth).1.ssl_eq (ran (setup.hooked_ran world depth).1 initial)

theorem Setup.captured_established (setup : Setup) (world : World) (depth : Nat)
    (waiter : WaiterId) (awaitable : Awaitable) :
    Captured waiter awaitable (setup.established world depth) := by
  refine (captured waiter awaitable).ran (setup.established_ran world depth) (fun _ => rfl) ?_
  refine Setup.begun_induction (by rintro ⟨⟩)
    (fun ran => (captured waiter awaitable).ran ran fun _ => rfl) fun _ _ _ kept => kept

/-- What every stretch of code keeps holds between any two steps of a run. -/
theorem Setup.run_begun {setup : Setup} {world : World} {depth : Nat} {holds : Conn → Prop}
    (begun : holds (setup.begun world depth))
    (ran : ∀ {scope before after}, Ran world scope before after → holds before → holds after)
    (steps : List Step) : holds (setup.run world depth steps) :=
  World.steps_induction (setup.captured_established world depth)
    (ran (setup.established_ran world depth) begun) ran steps

theorem Setup.run_induction {setup : Setup} {world : World} {depth : Nat} {holds : Conn → Prop}
    (initial : holds setup.initial)
    (ran : ∀ {scope before after}, Ran world scope before after → holds before → holds after)
    (begins : ∀ conn transport, conn.transport.ssl = false → holds conn →
      holds (establish { conn with transport }))
    (steps : List Step) : holds (setup.run world depth steps) :=
  Setup.run_begun (Setup.begun_induction initial ran begins) ran steps

theorem Invariant.run {setup : Setup} {world : World} {holds : Conn → Prop}
    (invariant : Invariant world true holds) (initial : holds setup.initial)
    (begins : ∀ conn transport, conn.transport.ssl = false → holds conn →
      holds (establish { conn with transport }))
    (depth : Nat) (steps : List Step) : holds (setup.run world depth steps) :=
  Setup.run_induction initial (fun ran => invariant.ran ran fun _ => rfl) begins steps

theorem Setup.run_captured (setup : Setup) (world : World) (depth : Nat) (steps : List Step)
    (waiter : WaiterId) (awaitable : Awaitable) :
    Captured waiter awaitable (setup.run world depth steps) :=
  (captured waiter awaitable).run (by rintro ⟨⟩) (fun _ _ _ kept => kept) depth steps

theorem Setup.transport_ssl {setup : Setup} {world : World}
    (ssl : (setup.transport world).ssl = true) : setup.tls = true := by
  unfold Setup.transport at ssl
  split at ssl
  case isTrue enabled => exact (Bool.and_eq_true_iff.mp enabled).1
  case isFalse => cases ssl

theorem Setup.run_ssl (setup : Setup) (world : World) (depth : Nat) (steps : List Step) :
    (setup.run world depth steps).transport.ssl = (setup.transport world).ssl := by
  refine Setup.run_begun ?_ (fun ran kept => ran.ssl_eq.trans kept) steps
  rfl

theorem Setup.run_fresh {setup : Setup} {world : World} {depth : Nat} {steps : List Step}
    (fresh : Fresh (setup.run world depth steps).trace) : Fresh (setup.begun world depth).trace := by
  obtain ⟨later, trace⟩ := @Setup.run_begun setup world depth
    (fun conn => ∃ later, conn.trace = (setup.begun world depth).trace ++ later) ⟨[], by simp⟩
    (fun ran => (extends_trace _).ran ran fun _ => rfl) steps
  rw [trace] at fresh
  exact fresh.of_append

/-! ## Without TLS -/

/-- The connection at the entry of the connection callback, if there is no TLS. -/
def Setup.opened (setup : Setup) : Conn :=
  { setup.initial with
    state := .kConnected
    channel := { events := { read := true }, addedToLoop := true }
    backpressure :=
      { highWaterMark := setup.highWaterMark
        lowWaterMark := setup.lowWaterMark
        active := true
        readingEnabled := true }
    trace :=
      [.checkpoint .connectEstablished .kConnecting, .setState .kConnected, .update { read := true },
        .checkpoint .notifyConnected .kConnected, .callback .connected] }

/-- Backpressure has nothing to do while reading is enabled and nothing is buffered. -/
theorem apply_idle (call : Callback → Conn → Conn) {conn : Conn}
    (reading : conn.backpressure.readingEnabled = true) : apply call 0 conn = conn := by
  unfold apply
  dsimp only
  split
  · rfl
  · split
    · simp [reading]
    case isFalse enabled =>
      have positive : ¬0 ≥ conn.backpressure.highWaterMark := by omega
      simp [reading, positive]

theorem Setup.established_eq (setup : Setup) (plain : setup.tls = false) (world : World)
    (depth : Nat) : setup.established world depth =
      if setup.callbacks.connection then world.call depth .connected setup.opened
      else setup.opened := by
  have idle : apply (world.call depth) (establish setup.initial).outputBuffer.length
      (establish setup.initial) = establish setup.initial := apply_idle (world.call depth) rfl
  have established : setup.established world depth =
      connectEstablished world (world.call depth) setup.initial := by
    simp [Setup.established, Setup.hooked, plain]
  rw [established, connectEstablished_eq]
  dsimp only
  rw [idle]
  rfl

theorem Setup.opened_ran (setup : Setup) (plain : setup.tls = false) (world : World) (depth : Nat) :
    Ran world .dispatch setup.opened (setup.established world depth) := by
  rw [Setup.established_eq setup plain]
  split
  · exact (world.call_ran depth .connected _).mono
  · exact .refl

/-- The rule for connections without TLS. -/
theorem Setup.run_opened {setup : Setup} {world : World} {depth : Nat} {holds : Conn → Prop}
    (plain : setup.tls = false) (opened : holds setup.opened)
    (ran : ∀ {scope before after}, Ran world scope before after → holds before → holds after)
    (steps : List Step) : holds (setup.run world depth steps) :=
  World.steps_induction (setup.captured_established world depth)
    (ran (setup.opened_ran plain world depth) opened) ran steps

theorem Invariant.run_opened {setup : Setup} {world : World} {holds : Conn → Prop}
    (invariant : Invariant world true holds) (plain : setup.tls = false) (opened : holds setup.opened)
    (depth : Nat) (steps : List Step) : holds (setup.run world depth steps) :=
  Setup.run_opened plain opened (fun ran => invariant.ran ran fun _ => rfl) steps

end MiniTrantor.Net
