import MiniTrantor.Net.Session.Session

/-!
# What the functions of a connection do

Functions that neither read nor write come in three shapes: they leave the output
and its write interest alone, they close the connection, or they end it.
-/

set_option autoImplicit false

namespace MiniTrantor.Net.Session

variable {before after session : Session}

/-- Frames that are pushed in the middle of sending or writing. -/
def Frame.isRoutine : Frame → Bool
  | .applied .connectEstablished _ => false
  | .applied _ _ => true
  | _ => false

/-- Nothing was read, written, recorded or closed. -/
structure Quiet (before after : Session) : Prop where
  ssl : after.ssl = before.ssl
  hooks : after.hooks = before.hooks
  outputBuffer : after.outputBuffer = before.outputBuffer
  trace : after.trace = before.trace
  writing : after.channel.isWriting = before.channel.isWriting
  tlsState : after.tlsState = before.tlsState ∨
    before.tlsState = .kTlsEstablished ∧ after.tlsState = .kTlsShuttingDown
  state : after.state = before.state ∨ before.state = .kConnected ∧ after.state = .kDisconnecting
  stack : ∃ frames, after.stack = frames ++ before.stack ∧
    ∀ frame ∈ frames, frame.isRoutine = true

/-- The connection was open and runs its close sequence. -/
structure Closing (before after : Session) : Prop where
  opened : before.state ≠ .kDisconnected
  closed : after.state = .kDisconnected
  ssl : after.ssl = before.ssl
  hooks : after.hooks = before.hooks
  outputBuffer : after.outputBuffer = before.outputBuffer
  trace : after.trace = before.trace
  tlsState : after.tlsState = before.tlsState
  writing : after.channel.isWriting = false
  stack : ∃ destroying, after.stack = .notify (.disconnected destroying) :: before.stack

/-- The channel was removed. -/
structure Ending (before after : Session) : Prop where
  state : after.state = before.state
  ssl : after.ssl = before.ssl
  hooks : after.hooks = before.hooks
  outputBuffer : after.outputBuffer = before.outputBuffer
  trace : after.trace = before.trace ++ [.destroyed]
  tlsState : after.tlsState = before.tlsState
  stack : after.stack = before.stack

namespace Quiet

/-- Fields that nothing here looks at. -/
theorem same (ssl : after.ssl = before.ssl) (hooks : after.hooks = before.hooks)
    (outputBuffer : after.outputBuffer = before.outputBuffer) (trace : after.trace = before.trace)
    (writing : after.channel.isWriting = before.channel.isWriting)
    (tlsState : after.tlsState = before.tlsState) (state : after.state = before.state)
    (stack : after.stack = before.stack) : Quiet before after :=
  ⟨ssl, hooks, outputBuffer, trace, writing, .inl tlsState, .inl state, [], stack, by simp⟩

theorem refl (session : Session) : Quiet session session :=
  .same rfl rfl rfl rfl rfl rfl rfl rfl

theorem trans {middle : Session} (first : Quiet before middle) (second : Quiet middle after) :
    Quiet before after := by
  refine ⟨second.ssl.trans first.ssl, second.hooks.trans first.hooks,
    second.outputBuffer.trans first.outputBuffer, second.trace.trans first.trace,
    second.writing.trans first.writing, ?_, ?_, ?_⟩
  · rcases second.tlsState with same | ⟨established, shutting⟩
    · rw [same]
      exact first.tlsState
    · rcases first.tlsState with same | ⟨_, already⟩
      · exact .inr ⟨same ▸ established, shutting⟩
      · cases already.symm.trans established
  · rcases second.state with same | ⟨connected, disconnecting⟩
    · rw [same]
      exact first.state
    · rcases first.state with same | ⟨_, already⟩
      · exact .inr ⟨same ▸ connected, disconnecting⟩
      · cases already.symm.trans connected
  · obtain ⟨lower, grown, routine⟩ := first.stack
    obtain ⟨upper, further, others⟩ := second.stack
    refine ⟨upper ++ lower, by rw [further, grown, List.append_assoc], fun frame member => ?_⟩
    rcases List.mem_append.mp member with new | old
    · exact others frame new
    · exact routine frame old

theorem push {frame : Frame} (routine : frame.isRoutine = true) (session : Session) :
    Quiet session (session.push frame) :=
  ⟨rfl, rfl, rfl, rfl, rfl, .inl rfl, .inl rfl, [frame], rfl, by simp [routine]⟩

theorem setReading (enabled : Bool) (session : Session) : Quiet session (session.setReading enabled) := by
  cases enabled <;> exact .same rfl rfl rfl rfl rfl rfl rfl rfl

theorem apply {function : Applying} (inner : function ≠ .connectEstablished) (session : Session) :
    Quiet session (session.apply function) := by
  have routine : ∀ event, (Frame.applied function event).isRoutine = true := by
    intro event
    cases function with
    | connectEstablished => exact absurd rfl inner
    | handleWrite | last => rfl
  unfold Session.apply
  dsimp only
  split
  · exact .push (routine _) session
  · split
    · split
      · exact (setReading true session).trans (.push (routine _) _)
      · exact .push (routine _) session
    · split
      · exact (setReading false session).trans (.push (routine _) _)
      · split
        · exact (setReading true session).trans (.push (routine _) _)
        · exact .push (routine _) session

theorem policy (high low : Nat) (session : Session) :
    Quiet session (session.setBackpressurePolicyInLoop high low) := by
  have set : Quiet session { session with backpressure :=
      { session.backpressure with highWaterMark := high, lowWaterMark := low } } :=
    .same rfl rfl rfl rfl rfl rfl rfl rfl
  exact set.trans (.apply (by simp) _)

theorem shutdownInLoop (session : Session) : Quiet session session.shutdownInLoop := by
  unfold Session.shutdownInLoop
  split
  · exact .refl session
  · split
    case isTrue established =>
      simp only [Bool.and_eq_true, beq_iff_eq] at established
      exact ⟨rfl, rfl, rfl, rfl, rfl, .inr ⟨established.2, rfl⟩, .inl rfl, [], rfl, by simp⟩
    case isFalse => exact .refl session

theorem finishPendingWrite (session : Session) : Quiet session session.finishPendingWrite := by
  unfold Session.finishPendingWrite
  split
  · exact .shutdownInLoop session
  · exact .refl session

theorem disconnecting (connected : session.state = .kConnected) :
    Quiet session { session with state := .kDisconnecting } :=
  ⟨rfl, rfl, rfl, rfl, rfl, .inl rfl, .inr ⟨connected, rfl⟩, [], rfl, by simp⟩

theorem shutdown (session : Session) : Quiet session session.shutdown := by
  unfold Session.shutdown
  split
  case isTrue connected => exact (disconnecting connected).trans (.shutdownInLoop _)
  case isFalse => exact .refl session

theorem queueInLoop (functor : Functor) (session : Session) :
    Quiet session (session.queueInLoop functor) :=
  .same rfl rfl rfl rfl rfl rfl rfl rfl

theorem request (session : Session) (request : Request) : Quiet session (session.request request) := by
  cases request with
  | send pointer data =>
      simp only [Session.request]
      split
      · exact queueInLoop _ session
      · exact .refl session
  | shutdown =>
      simp only [Session.request]
      split
      case isTrue connected => exact (disconnecting connected).trans (queueInLoop _ _)
      case isFalse => exact .refl session
  | forceClose => exact queueInLoop _ session
  | setBackpressurePolicy high low =>
      simp only [Session.request]
      split
      · exact queueInLoop _ session
      · exact .refl session
  | connectDestroyed => exact queueInLoop _ session

end Quiet

theorem apply_pushed (function : Applying) (session : Session) :
    ∃ event, .applied function event ∈ (session.apply function).stack := by
  unfold Session.apply
  dsimp only
  split
  · exact ⟨_, List.mem_cons_self⟩
  · split
    · exact ⟨_, List.mem_cons_self⟩
    · split
      · exact ⟨_, List.mem_cons_self⟩
      · split
        · exact ⟨_, List.mem_cons_self⟩
        · exact ⟨_, List.mem_cons_self⟩

theorem runCloseSequence_closing (destroying : Bool) (opened : session.state ≠ .kDisconnected) :
    Closing session (session.runCloseSequence destroying) :=
  ⟨opened, rfl, rfl, rfl, rfl, rfl, rfl, rfl, destroying, rfl⟩

theorem unregisterChannel_ending (session : Session) : Ending session session.unregisterChannel :=
  ⟨rfl, rfl, rfl, rfl, rfl, rfl, rfl⟩

theorem handleClose_shape (session : Session) :
    session.handleClose = session ∨ Closing session session.handleClose := by
  unfold handleClose
  split
  case isTrue => exact .inl rfl
  case isFalse opened => exact .inr (runCloseSequence_closing false opened)

theorem forceCloseInLoop_shape (session : Session) :
    session.forceCloseInLoop = session ∨ Closing session session.forceCloseInLoop := by
  unfold forceCloseInLoop
  split
  · exact session.handleClose_shape
  · exact .inl rfl

theorem connectDestroyed_shape (session : Session) :
    Ending session session.connectDestroyed ∨ Closing session session.connectDestroyed := by
  unfold connectDestroyed
  split
  case isTrue connected => exact .inr (runCloseSequence_closing true (by simp [connected]))
  case isFalse => exact .inl (unregisterChannel_ending session)

/-- The payload is in the buffer, and write interest is on. -/
def buffered (data : Bytes) (session : Session) : Session :=
  { session with
    outputBuffer := session.outputBuffer.append data
    channel :=
      if session.channel.isWriting then session.channel else session.channel.enableWriting }

theorem buffered_writing (data : Bytes) (session : Session) :
    (session.buffered data).channel.isWriting = true := by
  unfold buffered
  dsimp only
  split
  · assumption
  · rfl

theorem bufferOutput_quiet (data : Bytes) (session : Session) :
    Quiet (session.buffered data) (session.bufferOutput data) := by
  have same : session.bufferOutput data = (session.buffered data).apply .last := by
    unfold bufferOutput buffered updateChannel
    dsimp only
    split <;> rfl
  rw [same]
  exact .apply (by simp) _

/-- A connection is established with an empty output buffer, so its policy has nothing to do. -/
theorem connectEstablished_eq (empty : session.outputBuffer.readable = []) :
    session.connectEstablished =
      { session with
        state := .kConnected
        channel := session.channel.enableReading
        backpressure := { session.backpressure with active := true, readingEnabled := true }
        stack := .applied .connectEstablished none :: session.stack } := by
  unfold connectEstablished Session.apply Buffer.readableBytes
  dsimp only [updateChannel]
  rw [empty, if_neg (by simp)]
  split
  · simp [Session.push]
  case isFalse bounded =>
    have positive : ¬ 0 ≥ session.backpressure.highWaterMark := by omega
    simp [positive, Session.push]

/-- What `sendInLoop` comes to. A payload is written at once only while nothing is
buffered and write interest is off. -/
inductive Sends (calls : Calls) (pointer : Nat) (data : Bytes) (session : Session) :
    Session → Prop where
  | nothing : Sends calls pointer data session session
  | behind (busy : session.channel.isWriting = true ∨ session.outputBuffer.readable ≠ [])
      (some : data ≠ []) : Sends calls pointer data session (session.bufferOutput data)
  | failed {written : Session} (idle : session.channel.isWriting = false)
      (empty : session.outputBuffer.readable = [])
      (raw : session.writeRaw calls pointer data = (none, written)) :
      Sends calls pointer data session written.handleError
  | finished {written : Session} (idle : session.channel.isWriting = false)
      (empty : session.outputBuffer.readable = [])
      (raw : session.writeRaw calls pointer data = (some [], written)) :
      Sends calls pointer data session written.finishPendingWrite
  | rest {written : Session} {remaining : Bytes} (idle : session.channel.isWriting = false)
      (empty : session.outputBuffer.readable = [])
      (raw : session.writeRaw calls pointer data = (some remaining, written))
      (left : remaining ≠ []) : Sends calls pointer data session (written.bufferOutput remaining)

theorem sendInLoop_sends (calls : Calls) (pointer : Nat) (data : Bytes) (session : Session) :
    Sends calls pointer data session (session.sendInLoop calls pointer data) := by
  unfold sendInLoop
  split
  · exact .nothing
  · split
    case isTrue direct =>
      simp only [Bool.and_eq_true, Bool.not_eq_true', Buffer.readableBytes, decide_eq_true_eq,
        List.length_eq_zero_iff] at direct
      obtain ⟨idle, empty⟩ := direct
      split
      case h_1 raw => exact .failed idle empty raw
      case h_2 raw => exact .finished idle empty raw
      case h_3 left raw => exact .rest idle empty raw fun none => left none
    case isFalse busy =>
      split
      case isTrue => exact .nothing
      case isFalse some =>
        refine .behind ?_ (by simpa using some)
        simp only [Bool.and_eq_true, Bool.not_eq_true', Buffer.readableBytes, decide_eq_true_eq,
          List.length_eq_zero_iff, not_and] at busy
        by_cases writing : session.channel.isWriting = true
        · exact .inl writing
        · exact .inr (busy (by simpa using writing))

/-- A result that leaves the operation to be repeated. -/
def wants : Except SslError Nat → Bool
  | .error .wantRead | .error .wantWrite => true
  | _ => false

/-- What a direct write with TLS leaves of its data. -/
def leftOf (data : Bytes) (result : Except SslError Nat) : Option Bytes :=
  match result with
  | .ok count => some (data.drop count)
  | .error .wantWrite | .error .wantRead => some data
  | .error _ => none

theorem writeRaw_ssl {calls : Calls} {pointer : Nat} {data : Bytes} {left : Option Bytes}
    {written : Session} (ssl : session.ssl = true)
    (raw : session.writeRaw calls pointer data = (left, written)) :
    ∃ result, left = leftOf data result ∧
      result = (session.sslWrite calls (.caller pointer) data).1 ∧
      Quiet (session.emit (.sslWrite (.caller pointer) data
        (ConnectionTransport.toInt data.length) result)) written := by
  rw [writeRaw, if_pos ssl, sslWriteRaw] at raw
  have same : (session.sslWrite calls (.caller pointer) data).2 =
      session.emit (.sslWrite (.caller pointer) data (ConnectionTransport.toInt data.length)
        (session.sslWrite calls (.caller pointer) data).1) := rfl
  generalize session.sslWrite calls (.caller pointer) data = returned at raw same ⊢
  obtain ⟨result, recorded⟩ := returned
  dsimp only at same
  subst same
  refine ⟨result, ?_⟩
  split at raw
  all_goals
    simp only [Prod.mk.injEq] at raw
    obtain ⟨rfl, rfl⟩ := raw
  case h_1 count _ equation =>
    cases equation
    exact ⟨rfl, rfl, .refl _⟩
  case h_2 equation =>
    cases equation
    exact ⟨rfl, rfl, .refl _⟩
  case h_3 equation =>
    cases equation
    exact ⟨rfl, rfl, .same rfl rfl rfl rfl rfl rfl rfl rfl⟩
  case h_4 error _ unwritten unread equation =>
    cases equation
    refine ⟨?_, rfl, .refl _⟩
    cases error with
    | wantRead => exact (unread rfl).elim
    | wantWrite => exact (unwritten rfl).elim
    | zeroReturn | fatal => rfl

theorem writeRaw_plain {calls : Calls} {pointer : Nat} {data : Bytes} {left : Option Bytes}
    {written : Session} (plain : session.ssl = false)
    (raw : session.writeRaw calls pointer data = (left, written)) :
    written = session.emit (.write data) := by
  rw [writeRaw, if_neg (by simp [plain])] at raw
  split at raw <;> exact (Prod.mk.inj raw).2.symm

/-- A call of `SSL_write` that succeeds takes at least one byte, and at most those it was given. -/
theorem sslWrite_ok {calls : Calls} {address : Address} {data : Bytes} {count : Nat}
    {recorded : Session} (returned : session.sslWrite calls address data = (.ok count, recorded)) :
    0 < count ∧ (count : Int) ≤ ConnectionTransport.toInt data.length := by
  simp only [sslWrite, Prod.mk.injEq] at returned
  have result := returned.1
  split at result
  · split at result
    · cases result
      assumption
    · cases result
  · cases result

theorem sslWrite_recorded {calls : Calls} {address : Address} {data : Bytes}
    {result : Except SslError Nat} {recorded : Session}
    (returned : session.sslWrite calls address data = (result, recorded)) :
    recorded = session.emit
      (.sslWrite address data (ConnectionTransport.toInt data.length) result) := by
  simp only [sslWrite, Prod.mk.injEq] at returned
  rw [← returned.2, returned.1]

/-- What the loop of `sslWriteFromBuffer` leaves alone. -/
structure Drains (before after : Session) : Prop where
  state : after.state = before.state
  ssl : after.ssl = before.ssl
  hooks : after.hooks = before.hooks
  tlsState : after.tlsState = before.tlsState
  stack : after.stack = before.stack
  writing : after.channel.isWriting = before.channel.isWriting

theorem sslWriteLoop_drains (calls : Calls) (fuel totalWritten : Nat) (session : Session) :
    Drains session (Session.sslWriteLoop calls fuel totalWritten session).2 := by
  induction fuel generalizing totalWritten session with
  | zero => exact ⟨rfl, rfl, rfl, rfl, rfl, rfl⟩
  | succ fuel ih =>
      rw [Session.sslWriteLoop]
      split
      · exact ⟨rfl, rfl, rfl, rfl, rfl, rfl⟩
      · split
        all_goals
          rename_i returned
          have recorded := sslWrite_recorded returned
          subst recorded
        case h_1 count =>
          have rest := ih (totalWritten + count) { session.emit (.sslWrite
            session.outputBuffer.peek session.outputBuffer.readable
            (ConnectionTransport.toInt session.outputBuffer.readable.length) (.ok count)) with
              outputBuffer := session.outputBuffer.retrieve count }
          exact ⟨rest.state, rest.ssl, rest.hooks, rest.tlsState, rest.stack, rest.writing⟩
        · exact ⟨rfl, rfl, rfl, rfl, rfl, rfl⟩
        · exact ⟨rfl, rfl, rfl, rfl, rfl, rfl⟩
        · exact ⟨rfl, rfl, rfl, rfl, rfl, rfl⟩

theorem Drain.of_blocked {totalWritten : Nat} (stuck : Drain.of totalWritten = .blocked) :
    totalWritten = 0 := by
  unfold Drain.of at stuck
  split at stuck
  · cases stuck
  · omega

/-- A write that is blocked took nothing, and was not even tried if there was nothing. -/
theorem sslWriteLoop_blocked (calls : Calls) (fuel totalWritten : Nat) {session after : Session}
    (blocked : Session.sslWriteLoop calls fuel totalWritten session = (.blocked, after)) :
    totalWritten = 0 ∧ after.outputBuffer = session.outputBuffer ∧
      (session.outputBuffer.readable = [] → after.trace = session.trace) := by
  induction fuel generalizing totalWritten session with
  | zero =>
      obtain ⟨stuck, rfl⟩ := Prod.mk.inj blocked
      exact ⟨Drain.of_blocked stuck, rfl, fun _ => rfl⟩
  | succ fuel ih =>
      rw [Session.sslWriteLoop] at blocked
      split at blocked
      · obtain ⟨stuck, rfl⟩ := Prod.mk.inj blocked
        exact ⟨Drain.of_blocked stuck, rfl, fun _ => rfl⟩
      case isFalse left =>
        have some : session.outputBuffer.readable ≠ [] := by
          intro empty
          exact left (by simp [Buffer.readableBytes, empty])
        split at blocked
        all_goals
          rename_i returned
          have recorded := sslWrite_recorded returned
          subst recorded
        · have taken := (sslWrite_ok returned).1
          have none := (ih _ blocked).1
          omega
        · obtain ⟨stuck, rfl⟩ := Prod.mk.inj blocked
          exact ⟨Drain.of_blocked stuck, rfl, fun empty => absurd empty some⟩
        · obtain ⟨stuck, rfl⟩ := Prod.mk.inj blocked
          exact ⟨Drain.of_blocked stuck, rfl, fun empty => absurd empty some⟩
        · obtain ⟨stuck, rfl⟩ := Prod.mk.inj blocked
          split at stuck <;> cases stuck

/-- What is recorded stays, and so does a connection that was closed. -/
structure Grows (before after : Session) : Prop where
  closed : before.state = .kDisconnected → after.state = .kDisconnected
  trace : before.trace <+: after.trace

namespace Grows

theorem refl (session : Session) : Grows session session :=
  ⟨fun closed => closed, List.prefix_refl _⟩

theorem trans {middle : Session} (first : Grows before middle) (second : Grows middle after) :
    Grows before after :=
  ⟨fun closed => second.closed (first.closed closed), first.trace.trans second.trace⟩

theorem same (state : after.state = before.state) (trace : after.trace = before.trace) :
    Grows before after :=
  ⟨fun closed => state.trans closed, by rw [trace]⟩

theorem emit (event : Event) (session : Session) : Grows session (session.emit event) :=
  ⟨fun closed => closed, List.prefix_append ..⟩

theorem quiet (quiet : Quiet before after) : Grows before after := by
  refine ⟨fun closed => ?_, by rw [quiet.trace]⟩
  rcases quiet.state with same | ⟨connected, _⟩
  · exact same.trans closed
  · cases closed.symm.trans connected

theorem closing (closing : Closing before after) : Grows before after :=
  ⟨fun _ => closing.closed, by rw [closing.trace]⟩

theorem ending (ending : Ending before after) : Grows before after :=
  ⟨fun closed => ending.state.trans closed, by rw [ending.trace]; exact List.prefix_append ..⟩

theorem handleClose (session : Session) : Grows session session.handleClose := by
  rcases session.handleClose_shape with same | closing
  · rw [same]
    exact .refl session
  · exact .closing closing

theorem forceCloseInLoop (session : Session) : Grows session session.forceCloseInLoop := by
  rcases session.forceCloseInLoop_shape with same | closing
  · rw [same]
    exact .refl session
  · exact .closing closing

theorem connectDestroyed (session : Session) : Grows session session.connectDestroyed := by
  rcases session.connectDestroyed_shape with ending | closing
  · exact .ending ending
  · exact .closing closing

theorem bufferOutput (data : Bytes) (session : Session) :
    Grows session (session.bufferOutput data) := by
  have held : Grows session (session.buffered data) := .same rfl rfl
  exact held.trans (.quiet (bufferOutput_quiet data session))

theorem writeRaw {calls : Calls} {pointer : Nat} {data : Bytes} {left : Option Bytes}
    {written : Session} (raw : session.writeRaw calls pointer data = (left, written)) :
    Grows session written := by
  cases ssl : session.ssl with
  | true =>
      obtain ⟨result, _, _, quiet⟩ := writeRaw_ssl ssl raw
      exact (emit _ session).trans (.quiet quiet)
  | false =>
      rw [writeRaw_plain ssl raw]
      exact emit _ session

theorem sendInLoop (calls : Calls) (pointer : Nat) (data : Bytes) (session : Session) :
    Grows session (session.sendInLoop calls pointer data) := by
  have sends := sendInLoop_sends calls pointer data session
  generalize session.sendInLoop calls pointer data = sent at sends ⊢
  cases sends with
  | nothing => exact .refl session
  | behind => exact .bufferOutput data session
  | failed _ _ raw => exact (writeRaw raw).trans (.handleClose _)
  | finished _ _ raw => exact (writeRaw raw).trans (.quiet (.finishPendingWrite _))
  | rest _ _ raw _ => exact (writeRaw raw).trans (.bufferOutput _ _)

theorem sslWriteLoop (calls : Calls) (fuel totalWritten : Nat) (session : Session) :
    Grows session (Session.sslWriteLoop calls fuel totalWritten session).2 := by
  induction fuel generalizing totalWritten session with
  | zero => exact .refl session
  | succ fuel ih =>
      rw [Session.sslWriteLoop]
      split
      · exact .refl session
      · have recorded : Grows session (session.sslWrite calls session.outputBuffer.peek
            session.outputBuffer.readable).2 := emit _ session
        split
        all_goals
          rename_i equation
          rw [equation] at recorded
        · refine recorded.trans (Grows.trans ?_ (ih _ _))
          exact .same rfl rfl
        · exact recorded
        · exact recorded.trans (.same rfl rfl)
        · exact recorded

theorem writeFromBuffer (calls : Calls) (session : Session) :
    Grows session (session.writeFromBuffer calls).2 := by
  rw [Session.writeFromBuffer]
  split
  · exact sslWriteLoop calls _ 0 session
  · have recorded := emit (.write session.outputBuffer.readable) session
    dsimp only
    split
    · exact recorded
    · exact recorded.trans (.same rfl rfl)
    · exact recorded

theorem advanceTransportHandshake (calls : Calls) (session : Session) :
    Grows session (session.advanceTransportHandshake calls) := by
  have recorded := emit (.sslDoHandshake calls.sslDoHandshake) session
  unfold Session.advanceTransportHandshake
  dsimp only
  split
  · exact recorded.trans (.same rfl rfl)
  · split
    · exact recorded
    · exact recorded.trans (.same rfl rfl)
  · exact recorded.trans (.same rfl rfl)
  · exact recorded.trans (.same rfl rfl)
  · exact recorded.trans (.same rfl rfl)

theorem handleRead (calls : Calls) (session : Session) :
    Grows session (session.handleRead calls) := by
  unfold Session.handleRead sslReadIntoBuffer
  split
  · exact advanceTransportHandshake calls session
  · split
    · have recorded := emit (.sslRead calls.sslRead.2) session
      dsimp only
      split
      · split
        · exact recorded
        · exact recorded.trans (.same rfl rfl)
      · split
        · exact recorded.trans (.same rfl rfl)
        · exact recorded.trans (.same rfl rfl)
      · split
        · exact recorded.trans (.handleClose _)
        · exact recorded.trans (.same rfl rfl)
      · split
        · exact recorded.trans (.handleClose _)
        · exact recorded.trans (.same rfl rfl)
    · split
      · exact .handleClose session
      · exact .same rfl rfl
      · split
        · exact .refl session
        · exact .handleClose session

theorem handleWrite (calls : Calls) (session : Session) :
    Grows session (session.handleWrite calls) := by
  unfold Session.handleWrite
  split
  · exact advanceTransportHandshake calls session
  · split
    · exact .refl session
    · have drained := writeFromBuffer calls session
      split
      all_goals
        rename_i equation
        rw [equation] at drained
      · exact drained.trans (.handleClose _)
      · exact drained.trans (.quiet (.apply (by simp) _))
      · exact drained

theorem resume (calls : Calls) (frame : Frame) (session : Session) :
    Grows session (frame.resume calls session) := by
  have noted : ∀ (wanted : Bool) (event : Event) (frame : Frame),
      Grows session ((if wanted then session.emit event else session).push frame) := by
    intro wanted event frame
    cases wanted with
    | false => exact .same rfl rfl
    | true => exact (emit event session).trans (.same rfl rfl)
  cases frame with
  | applied function event =>
      cases function with
      | last => exact .refl session
      | handleWrite =>
          simp only [Frame.resume, wrote]
          split
          · have disabled : Grows session (session.updateChannel Channel.disableWriting) :=
              .same rfl rfl
            exact disabled.trans (.quiet (.finishPendingWrite _))
          · exact .refl session
      | connectEstablished =>
          simp only [Frame.resume]
          split
          · exact advanceTransportHandshake calls session
          · exact (emit _ session).trans (.same rfl rfl)
  | handshakeFailed errno runs => exact .handleClose session
  | handshakeCompleted runs => exact (emit _ session).trans (.same rfl rfl)
  | notify notice => exact noted _ _ _
  | connectionEvent notice runs => exact noted _ _ _
  | connectionCallback notice runs =>
      cases notice with
      | connected => exact .refl session
      | disconnected destroying =>
          cases destroying with
          | true => exact .ending (unregisterChannel_ending session)
          | false => exact .same rfl rfl
  | close runs => exact .refl session
  | message runs => exact .refl session

theorem moves {next : Session} {action : Action} (moves : Moves session action next) :
    Grows session next := by
  cases moves with
  | skip => exact .refl session
  | send | asyncWrite => exact .sendInLoop ..
  | shutdown => exact .quiet (.shutdown session)
  | forceClose => exact .forceCloseInLoop session
  | policy => exact .quiet (.policy _ _ session)
  | connectDestroyed => exact .connectDestroyed session
  | request request => exact .quiet (.request session request)
  | @functor calls functor rest _ queued =>
      have popped : Grows session { session with queue := rest } := .same rfl rfl
      cases functor with
      | sendInLoop pointer data => exact popped.trans (.sendInLoop ..)
      | shutdownInLoop => exact popped.trans (.quiet (.shutdownInLoop _))
      | forceCloseInLoop => exact popped.trans (.forceCloseInLoop _)
      | setBackpressurePolicyInLoop high low => exact popped.trans (.quiet (.policy high low _))
      | connectDestroyed => exact popped.trans (.connectDestroyed _)
  | dispatch => exact .same rfl rfl
  | @handle calls handler rest =>
      have popped : Grows session { session with handlers := rest } := .same rfl rfl
      cases handler with
      | handleClose => exact popped.trans (.handleClose _)
      | handleError => exact popped.trans (.handleClose _)
      | handleRead => exact popped.trans (.handleRead calls _)
      | handleWrite => exact popped.trans (.handleWrite calls _)
  | @resume calls frame rest top =>
      have popped : Grows session { session with stack := rest } := .same rfl rfl
      exact popped.trans (.resume calls frame _)

end Grows

end MiniTrantor.Net.Session
