import MiniTrantor.Net.Connection.Destroyed

/-!
# Reading follows the backpressure policy

Between two steps of a plain connection that is still open, the read interest of
the channel is what the controller believes it to be, and it is off only while
the output buffer is above the low water mark and on only below the high one.

The moves of the other modules are too small for this: the buffer changes first
and the controller is told afterwards. So each function is taken as a whole, and
what a function leaves is asked for at the callbacks that it enters.
-/

set_option autoImplicit false

namespace MiniTrantor.Net

open ConnectionAwaiterRegistry ConnectionBackpressureController ConnectionCallbackDispatcher
open TcpConnection

variable {world : World} {before after conn : Conn}

/-- The connection was closed, or its owner has run `connectDestroyed`. -/
def Conn.Ended (conn : Conn) : Prop :=
  conn.state = .kDisconnected ∨ ∃ event ∈ conn.trace, event.isDestroyed = true

instance (conn : Conn) : Decidable conn.Ended :=
  inferInstanceAs (Decidable (conn.state = .kDisconnected ∨
    ∃ event ∈ conn.trace, event.isDestroyed = true))

/-- A policy that is waiting to be applied has passed its check. -/
def Functor.Sound : Functor → Prop
  | .setBackpressurePolicyInLoop high low => validateThresholds high low = .ok ()
  | _ => True

theorem validateThresholds_ok {high low : Nat} (valid : validateThresholds high low = .ok ()) :
    high = 0 ∨ low < high := by
  unfold validateThresholds at valid
  split at valid
  · exact .inl ‹_›
  · split at valid
    · cases valid
    · exact .inr (by omega)

/-- What holds of an open connection even while the controller has not been told
of a change of the output buffer. -/
structure Loose (conn : Conn) : Prop where
  plain : conn.transport.ssl = false
  active : conn.backpressure.active = true
  policy : conn.backpressure.highWaterMark = 0 ∨
    conn.backpressure.lowWaterMark < conn.backpressure.highWaterMark
  reading : conn.channel.isReading = conn.backpressure.readingEnabled
  writing : conn.outputBuffer ≠ [] → conn.channel.isWriting = true
  sound : ∀ functor ∈ conn.functors, functor.Sound

/-- The controller has been told. -/
structure Steady (conn : Conn) : Prop extends Loose conn where
  paused : conn.backpressure.readingEnabled = false →
    conn.backpressure.lowWaterMark < conn.outputBuffer.length
  enabled : conn.backpressure.readingEnabled = true → conn.backpressure.highWaterMark = 0 ∨
    conn.outputBuffer.length < conn.backpressure.highWaterMark

/-- What code without callbacks leaves alone. -/
structure Spared (before after : Conn) : Prop where
  channel : after.channel = before.channel
  outputBuffer : after.outputBuffer = before.outputBuffer
  backpressure : after.backpressure = before.backpressure
  ssl : after.transport.ssl = before.transport.ssl
  sound : (∀ functor ∈ before.functors, functor.Sound) → ∀ functor ∈ after.functors, functor.Sound
  ended : before.Ended → after.Ended

namespace Spared

theorem refl (conn : Conn) : Spared conn conn :=
  ⟨rfl, rfl, rfl, rfl, fun sound => sound, fun ended => ended⟩

theorem trans {middle : Conn} (first : Spared before middle) (second : Spared middle after) :
    Spared before after :=
  ⟨second.channel.trans first.channel, second.outputBuffer.trans first.outputBuffer,
    second.backpressure.trans first.backpressure, second.ssl.trans first.ssl,
    fun sound => second.sound (first.sound sound), fun ended => second.ended (first.ended ended)⟩

theorem loose (spared : Spared before after) (loose : Loose before) : Loose after := by
  constructor
  · exact spared.ssl.trans loose.plain
  · rw [spared.backpressure]
    exact loose.active
  · rw [spared.backpressure]
    exact loose.policy
  · rw [spared.channel, spared.backpressure]
    exact loose.reading
  · rw [spared.outputBuffer, spared.channel]
    exact loose.writing
  · exact spared.sound loose.sound

theorem steady (spared : Spared before after) (steady : Steady before) : Steady after := by
  refine ⟨spared.loose steady.toLoose, ?_, ?_⟩
  · rw [spared.backpressure, spared.outputBuffer]
    exact steady.paused
  · rw [spared.backpressure, spared.outputBuffer]
    exact steady.enabled

end Spared

theorem ended_of_trace (state : after.state = before.state) {events : List Event}
    (trace : after.trace = before.trace ++ events) (ended : before.Ended) : after.Ended := by
  rcases ended with closed | ⟨event, member, teardown⟩
  · exact .inl (state.trans closed)
  · refine .inr ⟨event, ?_, teardown⟩
    rw [trace]
    exact List.mem_append_left _ member

/-- Code that queues nothing and does not touch the state. -/
theorem Spared.local {events : List Event} (channel : after.channel = before.channel)
    (outputBuffer : after.outputBuffer = before.outputBuffer)
    (backpressure : after.backpressure = before.backpressure)
    (ssl : after.transport.ssl = before.transport.ssl) (functors : after.functors = before.functors)
    (state : after.state = before.state) (trace : after.trace = before.trace ++ events) :
    Spared before after :=
  ⟨channel, outputBuffer, backpressure, ssl, fun sound => functors ▸ sound,
    ended_of_trace state trace⟩

theorem emit_spared (event : Event) (conn : Conn) : Spared conn (conn.emit event) :=
  .local rfl rfl rfl rfl rfl rfl rfl

theorem updateChannel_ended (change : Channel → Channel) (ended : conn.Ended) :
    (conn.updateChannel change).Ended :=
  @ended_of_trace conn _ rfl _ rfl ended

theorem Ran.keeps_ended {scope : Scope} (ran : Ran world scope before after)
    (ended : before.Ended) : after.Ended := by
  rcases ended with closed | ⟨event, member, teardown⟩
  · exact .inl (ran.disconnected closed)
  · exact .inr ⟨event, ran.mem_trace member, teardown⟩

/-! ## Code without callbacks -/

theorem begin_sound (thread : ThreadId) (functor : Functor) (sound : functor.Sound) (conn : Conn) :
    (∀ other ∈ conn.functors, other.Sound) →
      ∀ other ∈ (Remote.begin thread functor conn).functors, other.Sound := by
  intro all other member
  simp only [Conn.functors, Remote.begin_queue, Remote.begin_inflight, List.map_append,
    List.map_cons, List.map_nil, List.mem_append, List.mem_singleton] at member
  rcases member with queued | pushed | rfl
  · exact all other (List.mem_append_left _ queued)
  · exact all other (List.mem_append_right _ pushed)
  · exact sound

theorem Remote.enter_sound (thread : ThreadId) (conn : Conn) (request : RemoteCall)
    (sound : ∀ functor ∈ conn.functors, functor.Sound) :
    ∀ functor ∈ (Remote.enter thread conn request).functors, functor.Sound := by
  cases request with
  | send data =>
      simp only [Remote.enter]
      split
      · exact begin_sound thread (.sendInLoop data) trivial _ sound
      · exact sound
  | shutdown =>
      simp only [Remote.enter]
      split
      · exact begin_sound thread .shutdownInLoop trivial _ sound
      · exact sound
  | forceClose => exact begin_sound thread .forceCloseInLoop trivial conn sound
  | setBackpressurePolicy high low =>
      simp only [Remote.enter]
      split
      case h_1 valid =>
        exact begin_sound thread (.setBackpressurePolicyInLoop high low) valid conn sound
      case h_2 => exact sound
  | await waiter awaitable =>
      simp only [Remote.enter]
      split
      · exact begin_sound thread (.armWaiter waiter awaitable) trivial _ sound
      · exact sound
  | connectDestroyed => exact begin_sound thread .connectDestroyed trivial conn sound
  | queueInLoop label => exact begin_sound thread (.user label) trivial conn sound

theorem Remote.act_sound (conn : Conn) (remote : Remote)
    (sound : ∀ functor ∈ conn.functors, functor.Sound) :
    ∀ functor ∈ (Remote.act conn remote).functors, functor.Sound := by
  cases remote with
  | call thread request =>
      simp only [Remote.act]
      split
      · exact sound
      · exact Remote.enter_sound thread conn request sound
  | push thread =>
      simp only [Remote.act]
      split
      · exact sound
      case h_2 entry found =>
        intro functor member
        simp only [Conn.functors, List.append_assoc, List.mem_append, List.mem_singleton] at member
        rcases member with queued | rfl | left
        · exact sound functor (List.mem_append_left _ queued)
        · exact sound _ (List.mem_append_right _
            (List.mem_map_of_mem (List.mem_of_find?_eq_some found)))
        · obtain ⟨other, kept, rfl⟩ := List.mem_map.mp left
          exact sound _ (List.mem_append_right _ (List.mem_map_of_mem (List.mem_of_mem_erase kept)))
  | requestCancel token => exact sound
  | claimCallbacks token =>
      simp only [Remote.act]
      split <;> exact sound
  | postCancel =>
      simp only [Remote.act]
      split
      · exact sound
      · intro functor member
        simp only [Conn.functors, List.append_assoc, List.mem_append, List.mem_singleton] at member
        rcases member with queued | rfl | left
        · exact sound functor (List.mem_append_left _ queued)
        · exact trivial
        · exact sound functor (List.mem_append_right _ left)

theorem sync_sound (conn : Conn) (sound : ∀ functor ∈ conn.functors, functor.Sound) :
    ∀ functor ∈ (sync world conn).functors, functor.Sound := by
  unfold sync
  generalize world.others conn = remotes
  induction remotes generalizing conn with
  | nil => exact sound
  | cons remote remotes ih => exact ih _ (Remote.act_sound conn remote sound)

theorem sync_spared (conn : Conn) : Spared conn (sync world conn) := by
  have shared := sync_sharedOnly world conn
  exact ⟨shared.channel, shared.outputBuffer, shared.backpressure, by rw [shared.transport],
    sync_sound conn, (@sync_ran world .user conn).keeps_ended⟩

theorem queueInLoop_spared (functor : Functor) (sound : functor.Sound) (conn : Conn) :
    Spared conn (EventLoop.queueInLoop world functor conn) := by
  refine (sync_spared conn).trans ⟨rfl, rfl, rfl, rfl, ?_, fun ended => ended⟩
  intro all other member
  simp only [EventLoop.queueInLoop, Conn.functors, List.append_assoc, List.mem_append,
    List.mem_singleton] at member
  rcases member with queued | rfl | pushed
  · exact all other (List.mem_append_left _ queued)
  · exact sound
  · exact all other (List.mem_append_right _ pushed)

theorem registerCallback_spared (waiter : WaiterId) (token : Option TokenId) (conn : Conn) :
    Spared conn (CancellationToken.registerCallback world waiter token conn) := by
  cases token with
  | none => exact .refl conn
  | some token =>
      simp only [CancellationToken.registerCallback]
      split
      · exact (sync_spared conn).trans (queueInLoop_spared (.cancelWaiter waiter) trivial _)
      · exact (sync_spared conn).trans (.local rfl rfl rfl rfl rfl rfl (List.append_nil _).symm)

theorem cancel_spared (token : TokenId) (conn : Conn) :
    Spared conn (CancellationSource.cancel world token conn) := by
  simp only [CancellationSource.cancel]
  split
  · exact sync_spared conn
  · have taken : Spared (sync world conn) { sync world conn with
        tokens := Function.update (sync world conn).tokens token
          { cancelled := true, callbacks := [] } } :=
      .local rfl rfl rfl rfl rfl rfl (List.append_nil _).symm
    exact ((sync_spared conn).trans taken).trans (Reentry.Within.foldl Spared.refl .trans
      (fun waiter => EventLoop.queueInLoop world (.cancelWaiter waiter)) _
      (fun waiter _ => queueInLoop_spared (.cancelWaiter waiter) trivial) _)

theorem setWaiter_spared (waiter : WaiterId) (state : AwaiterState) (conn : Conn) :
    Spared conn (conn.setWaiter waiter state) :=
  .local rfl rfl rfl rfl rfl rfl (List.append_nil _).symm

theorem queueResume_spared (waiter : WaiterId) (conn : Conn) :
    Spared conn (queueResume world waiter conn) := by
  simp only [queueResume]
  split
  · exact ((setWaiter_spared waiter _ conn).trans (emit_spared _ _)).trans
      (queueInLoop_spared (.resumeWaiter waiter) trivial _)
  · exact .refl conn

theorem queueResumeSlot_spared (slot : Option WaiterId) (conn : Conn) :
    Spared conn (queueResumeSlot world slot conn) := by
  cases slot with
  | none => exact .refl conn
  | some waiter => exact queueResume_spared waiter conn

theorem resumeReadWaiterIfSatisfied_spared (readableBytes : Nat) (conn : Conn) :
    Spared conn (resumeReadWaiterIfSatisfied world readableBytes conn) := by
  simp only [resumeReadWaiterIfSatisfied]
  split
  · exact queueResumeSlot_spared _ conn
  · exact .refl conn

theorem cancelWaiter_spared (waiter : WaiterId) (conn : Conn) :
    Spared conn (cancelWaiter world waiter conn) := by
  simp only [cancelWaiter]
  split
  · exact (setWaiter_spared waiter _ conn).trans (queueResume_spared waiter _)
  · exact .refl conn

theorem unregisterWaiter_spared (waiter : WaiterId) (conn : Conn) :
    Spared conn (unregisterWaiter waiter conn) :=
  .local rfl rfl rfl rfl rfl rfl (List.append_nil _).symm

theorem abandonWaiter_spared (waiter : WaiterId) (conn : Conn) :
    Spared conn (abandonWaiter waiter conn) := by
  simp only [abandonWaiter]
  split
  · exact (unregisterWaiter_spared waiter conn).trans (emit_spared _ _)
  · exact .refl conn

theorem armFailed_spared (synchronous : Bool) (waiter : WaiterId) (message : String) (conn : Conn) :
    Spared conn (armFailed world synchronous waiter message conn) := by
  simp only [armFailed]
  split
  · exact ((unregisterWaiter_spared waiter conn).trans (emit_spared _ _)).trans (emit_spared _ _)
  · exact (setWaiter_spared waiter _ conn).trans (queueResume_spared waiter _)

theorem shutdownInLoop_spared (conn : Conn) : Spared conn (shutdownInLoop conn) := by
  simp only [shutdownInLoop]
  split
  · exact .refl conn
  · exact .local rfl rfl rfl (sslShutdown_ssl _) rfl rfl rfl

theorem queueWriteComplete_spared (conn : Conn) : Spared conn (queueWriteComplete world conn) := by
  simp only [queueWriteComplete]
  split
  · exact queueInLoop_spared .writeComplete trivial conn
  · exact .refl conn

theorem queueHighWaterMark_spared (oldLen newLen : Nat) (conn : Conn) :
    Spared conn (queueHighWaterMark world oldLen newLen conn) := by
  simp only [queueHighWaterMark]
  split
  · exact .refl conn
  · split
    · exact .refl conn
    · exact queueInLoop_spared (.highWaterMark newLen) trivial conn

theorem finishPendingWrite_spared (conn : Conn) : Spared conn (finishPendingWrite world conn) := by
  have noticed := @queueWriteComplete_spared world conn
  have resumed : Spared conn (sync world (resumeWriteWaiterIfNeeded world
      (queueWriteComplete world conn))) :=
    (noticed.trans (queueResumeSlot_spared _ _)).trans (sync_spared _)
  simp only [finishPendingWrite]
  split
  · exact resumed.trans (shutdownInLoop_spared _)
  · exact resumed

theorem shutdown_spared (conn : Conn) : Spared conn (TcpConnection.shutdown world conn) := by
  simp only [TcpConnection.shutdown]
  split
  case isFalse => exact sync_spared conn
  case isTrue connected =>
    have begun : Spared (sync world conn) ((sync world conn).setState .kDisconnecting) := by
      refine ⟨rfl, rfl, rfl, rfl, fun sound => sound, fun ended => ?_⟩
      rcases ended with closed | ⟨event, member, teardown⟩
      · cases closed.symm.trans connected
      · exact .inr ⟨event, List.mem_append_left _ member, teardown⟩
    exact ((sync_spared conn).trans begun).trans (shutdownInLoop_spared _)

theorem awaitResume_spared (waiter : WaiterId) (awaitable : Awaitable) (conn : Conn) :
    Spared conn (awaitResume waiter awaitable conn).2 := by
  refine (unregisterWaiter_spared waiter conn).trans ?_
  unfold awaitResume resumeReadAwait consumeReadableBytes
  dsimp only
  repeat' split
  all_goals first
    | exact .refl _
    | exact .local rfl rfl rfl rfl rfl rfl (List.append_nil _).symm

/-! ## The plain transport -/

theorem writeRaw_spared (data : Bytes) (plain : conn.transport.ssl = false) :
    Spared conn (ConnectionTransport.writeRaw world data conn).2 := by
  simp only [ConnectionTransport.writeRaw, plain, Bool.false_eq_true, ↓reduceIte]
  split
  · exact emit_spared _ conn
  · split <;> exact .refl conn

theorem readInto_spared (plain : conn.transport.ssl = false) :
    Spared conn (ConnectionTransport.readInto world conn).2 := by
  simp only [ConnectionTransport.readInto, plain, Bool.false_eq_true, ↓reduceIte]
  split
  · exact .refl conn
  · exact .local rfl rfl rfl rfl rfl rfl rfl
  · split <;> exact .refl conn

/-- A write from the buffer takes bytes out of it, or does nothing. -/
theorem writeFromBuffer_plain (plain : conn.transport.ssl = false) :
    (ConnectionTransport.writeFromBuffer world conn).2 = conn ∨
      (ConnectionTransport.writeFromBuffer world conn).1.status = .kOk ∧
        ∃ count, (ConnectionTransport.writeFromBuffer world conn).2 =
          ConnectionTransport.retrieveWritten count conn := by
  simp only [ConnectionTransport.writeFromBuffer, plain, Bool.false_eq_true, ↓reduceIte]
  split
  · exact .inl rfl
  · exact .inr ⟨rfl, _, rfl⟩
  · split <;> exact .inl rfl

theorem Loose.retrieveWritten (loose : Loose conn) (writing : conn.channel.isWriting = true)
    (count : Nat) : Loose (ConnectionTransport.retrieveWritten count conn) :=
  ⟨loose.plain, loose.active, loose.policy, loose.reading, fun _ => writing, loose.sound⟩

theorem Loose.appendOutput (loose : Loose conn) (data : Bytes) :
    Loose (TcpConnection.appendOutput data conn) := by
  unfold TcpConnection.appendOutput
  dsimp only
  split
  case isTrue writing =>
    exact ⟨loose.plain, loose.active, loose.policy, loose.reading, fun _ => writing, loose.sound⟩
  case isFalse =>
    exact ⟨loose.plain, loose.active, loose.policy, loose.reading, fun _ => rfl, loose.sound⟩

/-- With an empty buffer nothing is paused, so write interest may go. -/
theorem Steady.disableWriting (steady : Steady conn) (drained : conn.outputBuffer = []) :
    Steady (conn.updateChannel Channel.disableWriting) :=
  ⟨⟨steady.plain, steady.active, steady.policy, steady.reading, fun left => absurd drained left,
    steady.sound⟩, steady.paused, steady.enabled⟩

theorem Loose.setReading (loose : Loose conn) (enabled : Bool) :
    Loose (ConnectionBackpressureController.setReading enabled conn) := by
  cases enabled with
  | false => exact ⟨loose.plain, loose.active, loose.policy, rfl, loose.writing, loose.sound⟩
  | true => exact ⟨loose.plain, loose.active, loose.policy, rfl, loose.writing, loose.sound⟩

/-! ## Code that enters callbacks -/

/-- A connection that is open is steady. -/
def Guided (conn : Conn) : Prop := conn.Ended ∨ Steady conn

theorem Guided.spared (guided : Guided before) (spared : Spared before after) : Guided after :=
  guided.imp spared.ended spared.steady

section Callbacks

variable {call : Callback → Conn → Conn}

theorem handleClose_ended (calls : ∀ callback conn, Ran world .user conn (call callback conn))
    (conn : Conn) : (TcpConnection.handleClose world call conn).Ended := by
  simp only [TcpConnection.handleClose]
  split
  case isTrue closed => exact .inl closed
  case isFalse => exact .inl (runCloseSequence_state calls true _)

theorem handleError_ended (calls : ∀ callback conn, Ran world .user conn (call callback conn))
    (errno : Nat) (conn : Conn) : (TcpConnection.handleError world call errno conn).Ended := by
  simp only [TcpConnection.handleError]
  split
  case isTrue => exact handleClose_ended calls _
  case isFalse closed => exact .inl (by simpa using closed)

theorem connectDestroyed_ended (conn : Conn) :
    (TcpConnection.connectDestroyed world call conn).Ended := by
  unfold TcpConnection.connectDestroyed
  exact .inr ⟨_, List.mem_append_right _ (List.mem_singleton.mpr rfl), rfl⟩

variable (kept : ∀ callback conn, Guided conn → Guided (call callback conn))

include kept

theorem invoke_guided (callback : Callback) (guided : Guided conn) :
    Guided (invoke call callback conn) :=
  kept callback _ (guided.spared (emit_spared _ conn))

theorem fire_guided (event : BackpressureEvent) (bufferedBytes : Nat) (steady : Steady conn) :
    Guided (fire call event bufferedBytes conn) := by
  simp only [fire]
  split
  · exact invoke_guided kept _ (.inr steady)
  · exact .inr steady

/-- Told the size of the buffer, the controller makes the connection steady. -/
theorem apply_guided (loose : Loose conn) :
    Guided (apply call conn.outputBuffer.length conn) := by
  unfold ConnectionBackpressureController.apply
  dsimp only
  rw [if_neg (by simp [loose.active])]
  have policy := loose.policy
  split
  case isTrue off =>
    split
    · refine .inr ⟨loose.setReading true, fun paused => ?_, fun _ => .inl off⟩
      cases paused
    case isFalse reads =>
      have enabled : conn.backpressure.readingEnabled = true := by simpa using reads
      refine .inr ⟨loose, fun paused => ?_, fun _ => .inl off⟩
      cases enabled.symm.trans paused
  case isFalse on =>
    split
    case isTrue full =>
      simp only [Bool.and_eq_true, decide_eq_true_eq] at full
      refine fire_guided kept _ _ ⟨loose.setReading false, fun _ => ?_, fun enabled => ?_⟩
      · change conn.backpressure.lowWaterMark < conn.outputBuffer.length
        omega
      · cases enabled
    case isFalse unfull =>
      split
      case isTrue drained =>
        simp only [Bool.and_eq_true, decide_eq_true_eq] at drained
        refine fire_guided kept _ _ ⟨loose.setReading true, fun paused => ?_, fun _ => .inr ?_⟩
        · cases paused
        · change conn.outputBuffer.length < conn.backpressure.highWaterMark
          omega
      case isFalse undrained =>
        simp only [Bool.and_eq_true, decide_eq_true_eq, not_and] at unfull undrained
        refine .inr ⟨loose, fun paused => ?_, fun enabled => .inr ?_⟩
        · have above := undrained (by simp [paused])
          omega
        · have below := unfull enabled
          omega

theorem configure_guided {high low : Nat} (steady : Steady conn)
    (valid : validateThresholds high low = .ok ()) :
    Guided (setBackpressurePolicyInLoop call high low conn) := by
  have loose : Loose { conn with
      backpressure := { conn.backpressure with highWaterMark := high, lowWaterMark := low } } :=
    ⟨steady.plain, steady.active, validateThresholds_ok valid, steady.reading, steady.writing,
      steady.sound⟩
  exact apply_guided kept loose

theorem setBackpressurePolicy_guided (high low : Nat) (steady : Steady conn) :
    Guided (TcpConnection.setBackpressurePolicy call high low conn) := by
  simp only [TcpConnection.setBackpressurePolicy]
  split
  case h_1 valid => exact configure_guided kept steady valid
  case h_2 => exact .inr steady

theorem bufferOutput_guided (remaining : Bytes) (steady : Steady conn) :
    Guided (bufferOutput world call remaining conn) :=
  apply_guided kept ((queueHighWaterMark_spared _ _ _).loose (steady.appendOutput remaining))

variable (calls : ∀ callback conn, Ran world .user conn (call callback conn))

include calls

theorem sendInLoop_guided (origin : Origin) (data : Bytes) (steady : Steady conn) :
    Guided (TcpConnection.sendInLoop world call origin data conn) := by
  simp only [TcpConnection.sendInLoop]
  split
  · exact .inr steady
  · have submitted := (emit_spared (.submitted origin data) conn).steady steady
    split
    · have written := (@writeRaw_spared world _ data submitted.plain).steady submitted
      split
      · exact .inl (handleError_ended calls _ _)
      · split
        · exact .inr ((finishPendingWrite_spared _).steady written)
        · exact bufferOutput_guided kept _ written
    · split
      · exact .inr submitted
      · exact bufferOutput_guided kept _ submitted

theorem send_guided (data : Bytes) (steady : Steady conn) :
    Guided (TcpConnection.send world call data conn) := by
  have synced := (@sync_spared world conn).steady steady
  simp only [TcpConnection.send]
  split
  · exact sendInLoop_guided kept calls _ _ ((emit_spared _ _).steady synced)
  · exact .inr synced

omit kept in
theorem forceCloseInLoop_guided (steady : Steady conn) :
    Guided (TcpConnection.forceCloseInLoop world call conn) := by
  simp only [TcpConnection.forceCloseInLoop]
  split
  · exact .inl (handleClose_ended calls conn)
  · exact .inr steady

theorem armKind_guided (synchronous : Bool) (waiter : WaiterId) (awaitable : Awaitable)
    (steady : Steady conn) : Guided (armKind world call synchronous waiter awaitable conn) := by
  unfold armKind
  split
  · unfold armReadWaiter
    have occupied : Spared conn (occupyRead waiter awaitable.minBytes conn) :=
      .local rfl rfl rfl rfl rfl rfl (List.append_nil _).symm
    split
    case h_1 armed =>
      split at armed
      · cases armed
      · split at armed
        · cases armed
          exact .inr ((occupied.trans (queueResume_spared waiter _)).steady steady)
        · cases armed
          exact .inr (occupied.steady steady)
    case h_2 => exact .inr ((armFailed_spared synchronous waiter _ conn).steady steady)
  · unfold armWriteWaiter
    have occupied : Spared conn (occupyWrite waiter conn) :=
      .local rfl rfl rfl rfl rfl rfl (List.append_nil _).symm
    dsimp only
    split
    case h_1 armed =>
      split at armed
      · cases armed
      · split at armed
        case isTrue ready =>
          cases armed
          rw [if_pos ready]
          exact .inr ((occupied.trans (queueResume_spared waiter _)).steady steady)
        case isFalse unready =>
          cases armed
          rw [if_neg unready]
          have sent := sendInLoop_guided kept calls (.waiter waiter) awaitable.data
            (occupied.steady steady)
          split
          · exact sent.spared (queueResumeSlot_spared _ _)
          · exact sent
    case h_2 => exact .inr ((armFailed_spared synchronous waiter _ conn).steady steady)
  · unfold armCloseWaiter
    have occupied : Spared conn (occupyClose waiter conn) :=
      .local rfl rfl rfl rfl rfl rfl (List.append_nil _).symm
    split
    case h_1 armed =>
      split at armed
      · cases armed
      · split at armed
        · cases armed
          exact .inr ((occupied.trans (queueResume_spared waiter _)).steady steady)
        · cases armed
          exact .inr (occupied.steady steady)
    case h_2 => exact .inr ((armFailed_spared synchronous waiter _ conn).steady steady)

theorem armWaiterInLoop_guided (synchronous : Bool) (waiter : WaiterId) (awaitable : Awaitable)
    (steady : Steady conn) :
    Guided (armWaiterInLoop world call synchronous waiter awaitable conn) := by
  unfold armWaiterInLoop
  split
  case isFalse => exact .inr steady
  case isTrue =>
    have synced := @sync_spared world conn
    dsimp only
    split
    · exact .inr ((synced.trans (cancelWaiter_spared waiter _)).steady steady)
    · have registered := synced.trans (@registerCallback_spared world waiter awaitable.token _)
      have ready := (registered.trans (@sync_spared world _)).steady steady
      exact armKind_guided kept calls synchronous waiter awaitable ((emit_spared _ _).steady ready)

theorem armWaiter_guided (waiter : WaiterId) (awaitable : Awaitable) (steady : Steady conn) :
    Guided (TcpConnection.armWaiter world call waiter awaitable conn) := by
  unfold TcpConnection.armWaiter
  split
  · exact armWaiterInLoop_guided kept calls true waiter awaitable
      ((setWaiter_spared waiter _ conn).steady steady)
  · exact .inr ((emit_spared _ conn).steady steady)

omit calls in
theorem resumeWaiter_guided (waiter : WaiterId) (steady : Steady conn) :
    Guided (TcpConnection.resumeWaiter call waiter conn) := by
  unfold TcpConnection.resumeWaiter
  dsimp only
  split
  case isFalse => exact .inr steady
  case isTrue =>
    have reset : Spared conn (CancellationToken.resetRegistration waiter (conn.setWaiter waiter
        { conn.waiters waiter with phase := .completed, handle := none })) :=
      .local rfl rfl rfl rfl rfl rfl (List.append_nil _).symm
    split
    · exact .inr (reset.steady steady)
    case h_2 awaitable _ =>
      have finished := (reset.trans (awaitResume_spared waiter awaitable _)).steady steady
      exact invoke_guided kept _ (.inr ((emit_spared _ _).steady finished))

theorem Op.perform_guided (op : Op) (guided : Guided conn) :
    Guided (op.perform world call conn) := by
  rcases guided with ended | steady
  · exact .inl ((@Op.perform_ran world .user call calls op conn).keeps_ended ended)
  · cases op with
    | send data => exact send_guided kept calls data steady
    | shutdown => exact .inr ((shutdown_spared conn).steady steady)
    | forceClose => exact forceCloseInLoop_guided calls steady
    | setBackpressurePolicy high low => exact setBackpressurePolicy_guided kept high low steady
    | setCallbacks callbacks =>
        have spared : Spared conn { conn with callbacks } :=
          .local rfl rfl rfl rfl rfl rfl (List.append_nil _).symm
        exact .inr (spared.steady steady)
    | await waiter awaitable => exact armWaiter_guided kept calls waiter awaitable steady
    | destroyAwaitable waiter => exact .inr ((abandonWaiter_spared waiter conn).steady steady)
    | cancel token => exact .inr ((cancel_spared token conn).steady steady)
    | connectDestroyed => exact .inl (connectDestroyed_ended conn)
    | queueInLoop label =>
        exact .inr ((queueInLoop_spared (.user label) trivial conn).steady steady)
    | modifyInput contents =>
        have spared : Spared conn { conn with inputBuffer := contents } :=
          .local rfl rfl rfl rfl rfl rfl (List.append_nil _).symm
        exact .inr ((spared.trans (emit_spared _ _)).steady steady)

theorem Functor.run_guided (functor : Functor) (sound : functor.Sound) (steady : Steady conn) :
    Guided (functor.run world call conn) := by
  cases functor with
  | sendInLoop data => exact sendInLoop_guided kept calls .queuedSend data steady
  | shutdownInLoop => exact .inr ((shutdownInLoop_spared conn).steady steady)
  | forceCloseInLoop => exact forceCloseInLoop_guided calls steady
  | setBackpressurePolicyInLoop high low => exact configure_guided kept steady sound
  | armWaiter waiter awaitable =>
      exact armWaiterInLoop_guided kept calls false waiter awaitable steady
  | cancelWaiter waiter => exact .inr ((cancelWaiter_spared waiter conn).steady steady)
  | resumeWaiter waiter => exact resumeWaiter_guided kept waiter steady
  | writeComplete => exact invoke_guided kept _ (.inr steady)
  | highWaterMark bufferedBytes => exact invoke_guided kept _ (.inr steady)
  | connectDestroyed => exact .inl (connectDestroyed_ended conn)
  | user label => exact invoke_guided kept _ (.inr steady)

omit kept calls in
theorem handshakePending_plain (plain : conn.transport.ssl = false) :
    ConnectionTransport.handshakePending conn = false := by
  simp [ConnectionTransport.handshakePending, plain]

theorem handleRead_guided (steady : Steady conn) :
    Guided (TcpConnection.handleRead world call conn) := by
  simp only [TcpConnection.handleRead, handshakePending_plain steady.plain, Bool.false_eq_true,
    ↓reduceIte]
  have noted := emit_spared (.checkpoint .handleRead conn.state) conn
  have filled := noted.trans (@readInto_spared world _ (noted.steady steady).plain)
  split
  · have resumed : ∀ readableBytes, Steady (resumeReadWaiterIfSatisfied world readableBytes
        (ConnectionTransport.readInto world
          (conn.emit (.checkpoint .handleRead conn.state))).2) := fun _ =>
      (resumeReadWaiterIfSatisfied_spared _ _).steady (filled.steady steady)
    simp only [notifyMessage]
    split
    · exact invoke_guided kept _ (.inr (resumed _))
    · exact .inr (resumed _)
  · exact .inl (handleClose_ended calls _)
  · exact .inl (handleError_ended calls _ _)
  · exact .inr (filled.steady steady)

/-- A write that made progress tells the controller before it looks at the buffer again. -/
theorem handleWrite_guided (steady : Steady conn) :
    Guided (TcpConnection.handleWrite world call conn) := by
  simp only [TcpConnection.handleWrite, handshakePending_plain steady.plain, Bool.false_eq_true,
    ↓reduceIte]
  split
  case isTrue => exact .inr steady
  case isFalse busy =>
    have writing : conn.channel.isWriting = true := by simpa using busy
    have noted := (emit_spared (.draining conn.outputBuffer.length) conn).steady steady
    have wrote := @writeFromBuffer_plain world _ noted.plain
    have drained : Loose (ConnectionTransport.writeFromBuffer world
        (conn.emit (.draining conn.outputBuffer.length))).2 := by
      rcases wrote with same | ⟨_, count, retrieved⟩
      · rw [same]
        exact noted.toLoose
      · rw [retrieved]
        exact noted.toLoose.retrieveWritten writing count
    have untouched : (ConnectionTransport.writeFromBuffer world
        (conn.emit (.draining conn.outputBuffer.length))).1.status ≠ .kOk →
        Steady (ConnectionTransport.writeFromBuffer world
          (conn.emit (.draining conn.outputBuffer.length))).2 := by
      intro blocked
      rcases wrote with same | ⟨ok, _⟩
      · rw [same]
        exact noted
      · exact absurd ok blocked
    split
    · exact .inl (handleError_ended calls _ _)
    · have told := apply_guided kept drained
      split
      case isTrue empty =>
        refine Guided.spared ?_ (finishPendingWrite_spared _)
        rcases told with ended | settled
        · exact .inl (updateChannel_ended _ ((emit_spared _ _).ended ended))
        · exact .inr (((emit_spared _ _).steady settled).disableWriting (List.isEmpty_iff.mp empty))
      case isFalse => exact told
    case h_3 closed => exact .inr (untouched (by simp [closed]))
    case h_4 blocked => exact .inr (untouched (by simp [blocked]))

theorem handleEventWithGuard_guided (revents : EventMask) (guided : Guided conn) :
    Guided (TcpConnection.handleEventWithGuard world call revents conn) := by
  have handler : ∀ (wanted : Bool) {handler : Conn → Conn} {conn : Conn},
      (∀ conn, Ran world .dispatch conn (handler conn)) →
      (∀ conn, Steady conn → Guided (handler conn)) → Guided conn →
      Guided (if wanted then handler conn else conn) := by
    intro wanted handler conn ran steadies guided
    cases wanted with
    | false => exact guided
    | true =>
        rcases guided with ended | steady
        · exact .inl ((ran conn).keeps_ended ended)
        · exact steadies conn steady
  have closed := handler (revents.close && !revents.read) (handleClose_ran calls)
    (fun conn _ => .inl (handleClose_ended calls conn)) guided
  have failed := handler revents.error (handleError_ran calls 0)
    (fun conn _ => .inl (handleError_ended calls 0 conn)) closed
  have reads := handler revents.read (handleRead_ran calls)
    (fun _ steady => handleRead_guided kept calls steady) failed
  exact handler revents.write (handleWrite_ran calls)
    (fun _ steady => handleWrite_guided kept calls steady) reads

end Callbacks

/-! ## Runs -/

theorem World.call_guided (world : World) (depth : Nat) (callback : Callback)
    (guided : Guided conn) : Guided (world.call depth callback conn) := by
  induction depth generalizing callback conn with
  | zero => exact guided
  | succ depth ih =>
      have each : ∀ op ∈ world.user callback conn, Reentry.Within
          (fun before after => Guided before → Guided after)
          (op.perform world (world.call depth)) := by
        intro op _ state guided
        exact Op.perform_guided (fun callback _ guided => ih callback guided)
          (world.call_ran depth) op guided
      exact Reentry.Within.foldl (fun _ guided => guided)
        (fun first second guided => second (first guided)) (Op.perform world (world.call depth))
        (world.user callback conn) each conn guided

theorem Step.take_guided (world : World) (depth : Nat) (step : Step)
    (armed : ∀ waiter awaitable, Captured waiter awaitable conn) (guided : Guided conn) :
    Guided (step.take world depth conn) := by
  rcases guided with ended | steady
  · exact .inl ((Step.take_ran world depth step armed).keeps_ended ended)
  · have kept := fun callback (conn : Conn) (guided : Guided conn) =>
      World.call_guided world depth callback guided
    have calls := world.call_ran depth
    have synced := (@sync_spared world conn).steady steady
    cases step with
    | event revents =>
        simp only [Step.take]
        split
        · exact handleEventWithGuard_guided kept calls revents (.inr synced)
        · exact .inr synced
    | functor =>
        simp only [Step.take]
        split
        · exact .inr synced
        case h_2 functor rest queue =>
          have sound := synced.sound functor (by simp [Conn.functors, queue])
          have popped : Steady { sync world conn with queue := rest } := by
            refine ⟨⟨synced.plain, synced.active, synced.policy, synced.reading, synced.writing,
              ?_⟩, synced.paused, synced.enabled⟩
            intro other member
            apply synced.sound other
            simp only [Conn.functors, queue, List.mem_append, List.mem_cons] at member ⊢
            rcases member with queued | pushed
            · exact .inl (.inr queued)
            · exact .inr pushed
          exact Functor.run_guided kept calls functor sound popped
    | call op => exact Op.perform_guided kept calls op (.inr synced)

theorem Setup.established_guided (setup : Setup) (plain : setup.tls = false) (world : World)
    (depth : Nat) : Guided (setup.established world depth) := by
  have opened : Steady setup.opened := by
    refine ⟨⟨rfl, rfl, validateThresholds_ok setup.policy_valid, rfl, fun left => absurd rfl left,
      fun _ member => ?_⟩, fun paused => ?_, fun _ => ?_⟩
    · cases member
    · cases paused
    · change setup.highWaterMark = 0 ∨ 0 < setup.highWaterMark
      omega
  rw [Setup.established_eq setup plain]
  split
  · exact World.call_guided world depth .connected (.inr opened)
  · exact .inr opened

theorem Setup.run_guided (setup : Setup) (plain : setup.tls = false) (world : World) (depth : Nat)
    (steps : List Step) : Guided (setup.run world depth steps) := by
  induction steps using List.reverseRecOn with
  | nil => exact setup.established_guided plain world depth
  | append_singleton steps step ih =>
      have armed := setup.run_captured world depth steps
      have taken := Step.take_guided world depth step armed ih
      simpa only [Setup.run, List.foldl_append, List.foldl_cons, List.foldl_nil] using taken

/-- Reads are on exactly when the controller lets them be, off only while a later
drain will turn them on, and on only while the buffer is below its bound. -/
structure ReadsFollowPolicy (conn : Conn) : Prop where
  reading : conn.channel.isReading = conn.backpressure.readingEnabled
  paused : conn.channel.isReading = false →
    conn.backpressure.lowWaterMark < conn.outputBuffer.length ∧ conn.channel.isWriting = true
  enabled : conn.channel.isReading = true → conn.backpressure.highWaterMark = 0 ∨
    conn.outputBuffer.length < conn.backpressure.highWaterMark

theorem reads_follow_policy (setup : Setup) (plain : setup.tls = false) (world : World)
    (depth : Nat) (steps : List Step) (opened : ¬ (setup.run world depth steps).Ended) :
    ReadsFollowPolicy (setup.run world depth steps) := by
  rcases setup.run_guided plain world depth steps with ended | steady
  · exact absurd ended opened
  · refine ⟨steady.reading, fun paused => ?_, fun enabled => ?_⟩
    · have above := steady.paused (steady.reading.symm.trans paused)
      exact ⟨above, steady.writing (List.ne_nil_of_length_pos (by omega))⟩
    · exact steady.enabled (steady.reading.symm.trans enabled)

/-- The socket takes one byte at a time, and the hook that reports a pause sends
more and lowers the marks. -/
def raisingHook : World where
  user := fun callback _ =>
    match callback with
    | .backpressure .readPaused _ => [.send [7], .setBackpressurePolicy 3 2]
    | _ => []
  write := fun _ data => .wrote (min 1 data.length)
  write_le := wroteOne_le

def watchedSetup : Setup where
  callbacks := { backpressureEvent := true }
  highWaterMark := 4
  lowWaterMark := 1

theorem reads_follow_policy_hooked :
    ∃ conn, conn = watchedSetup.run raisingHook 3
        [.call (.send [1, 2, 3, 4, 5]), .event { write := true }] ∧
      conn.outputBuffer = [3, 4, 5, 7] ∧ conn.backpressure.readingEnabled = false ∧
      ReadsFollowPolicy conn := by
  refine ⟨_, rfl, rfl, rfl, ?_⟩
  apply reads_follow_policy
  · rfl
  · decide

end MiniTrantor.Net
