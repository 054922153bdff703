import MiniTrantor.Net.Connection.Dispatch

/-!
# The end of a TLS stream

`SSL_read` is called until it has nothing more to give. What ended the loop, the
end of the stream or an error, is reported only if the loop received nothing:
else the connection stays as it is until the socket is readable again.
-/

set_option autoImplicit false

namespace MiniTrantor.Net

open ConnectionAwaiterRegistry ConnectionBackpressureController ConnectionCallbackDispatcher
open ConnectionTransport TcpConnection

variable {world : World}

/-! ## A closed connection keeps the reason of its close -/

/-- A connection that was closed is closed, for the same reason. -/
def Sealed (before after : Conn) : Prop :=
  before.state = .kDisconnected →
    after.state = .kDisconnected ∧ after.closeReason = before.closeReason

namespace Sealed

variable {first second third before after : Conn}

theorem refl (conn : Conn) : Sealed conn conn := fun closed => ⟨closed, rfl⟩

theorem trans (front : Sealed first second) (back : Sealed second third) : Sealed first third := by
  intro closed
  obtain ⟨still, same⟩ := front closed
  obtain ⟨again, kept⟩ := back still
  exact ⟨again, kept.trans same⟩

theorem same (state : after.state = before.state) (reason : after.closeReason = before.closeReason) :
    Sealed before after :=
  fun closed => ⟨state.trans closed, reason⟩

/-- A change of other fields, and what follows it. -/
theorem behind (rest : Sealed second third) (state : second.state = first.state)
    (reason : second.closeReason = first.closeReason) : Sealed first third :=
  (same state reason).trans rest

theorem sync (conn : Conn) : Sealed conn (sync world conn) := by
  intro closed
  have shared := sync_sharedOnly world conn
  refine ⟨?_, shared.closeReason⟩
  rcases shared.state with same | ⟨connected, _⟩
  · exact same.trans closed
  · rw [closed] at connected
    cases connected

theorem queueInLoop (functor : Functor) (conn : Conn) :
    Sealed conn (EventLoop.queueInLoop world functor conn) :=
  (sync conn).trans (.same rfl rfl)

theorem registerCallback (waiter : WaiterId) (token : Option TokenId) (conn : Conn) :
    Sealed conn (CancellationToken.registerCallback world waiter token conn) := by
  cases token with
  | none => exact .refl conn
  | some token =>
      simp only [CancellationToken.registerCallback]
      split
      · exact (sync conn).trans (queueInLoop _ _)
      · exact (sync conn).trans (.same rfl rfl)

theorem cancel (token : TokenId) (conn : Conn) :
    Sealed conn (CancellationSource.cancel world token conn) := by
  simp only [CancellationSource.cancel]
  split
  · exact sync conn
  · have posts := Reentry.Within.foldl refl trans
      (fun waiter => EventLoop.queueInLoop world (.cancelWaiter waiter))
      ((Net.sync world conn).tokens token).callbacks (fun _ _ conn => queueInLoop _ conn)
    exact (@sync world conn).trans ((posts _).behind rfl rfl)

theorem queueResume (waiter : WaiterId) (conn : Conn) :
    Sealed conn (queueResume world waiter conn) := by
  simp only [ConnectionAwaiterRegistry.queueResume]
  split
  · exact (queueInLoop _ _).behind rfl rfl
  · exact .refl conn

theorem queueResumeSlot (slot : Option WaiterId) (conn : Conn) :
    Sealed conn (queueResumeSlot world slot conn) := by
  cases slot with
  | none => exact .refl conn
  | some waiter => exact queueResume waiter conn

theorem resumeAllOnClose (conn : Conn) : Sealed conn (resumeAllOnClose world conn) :=
  ((queueResumeSlot _ conn).trans (queueResumeSlot _ _)).trans (queueResumeSlot _ _)

theorem cancelWaiter (waiter : WaiterId) (conn : Conn) :
    Sealed conn (cancelWaiter world waiter conn) := by
  simp only [ConnectionAwaiterRegistry.cancelWaiter]
  split
  · exact (queueResume _ _).behind rfl rfl
  · exact .refl conn

theorem armFailed (synchronous : Bool) (waiter : WaiterId) (message : String) (conn : Conn) :
    Sealed conn (armFailed world synchronous waiter message conn) := by
  simp only [TcpConnection.armFailed]
  split
  · exact .same rfl rfl
  · exact (queueResume _ _).behind rfl rfl

variable {call : Callback → Conn → Conn}

theorem queueIf (ready : Bool) (waiter : WaiterId) (conn : Conn) :
    Sealed conn (if ready then ConnectionAwaiterRegistry.queueResume world waiter conn else conn) := by
  cases ready
  · exact .refl conn
  · exact queueResume waiter conn

theorem armReadWaiter {waiter : WaiterId} {minBytes : Nat} {ready : Bool} {conn made : Conn}
    (armed : armReadWaiter world waiter minBytes ready conn = .ok made) : Sealed conn made := by
  simp only [ConnectionAwaiterRegistry.armReadWaiter] at armed
  split at armed
  · cases armed
  · cases armed
    exact (queueIf ready waiter _).behind rfl rfl

theorem armWriteWaiter {waiter : WaiterId} {ready : Bool} {conn made : Conn}
    (armed : armWriteWaiter world waiter ready conn = .ok made) : Sealed conn made := by
  simp only [ConnectionAwaiterRegistry.armWriteWaiter] at armed
  split at armed
  · cases armed
  · cases armed
    exact (queueIf ready waiter _).behind rfl rfl

theorem armCloseWaiter {waiter : WaiterId} {ready : Bool} {conn made : Conn}
    (armed : armCloseWaiter world waiter ready conn = .ok made) : Sealed conn made := by
  simp only [ConnectionAwaiterRegistry.armCloseWaiter] at armed
  split at armed
  · cases armed
  · cases armed
    exact (queueIf ready waiter _).behind rfl rfl

/-- A closed connection is asked to write nothing. -/
theorem armKind (synchronous : Bool) (waiter : WaiterId) (awaitable : Awaitable) (conn : Conn) :
    Sealed conn (armKind world call synchronous waiter awaitable conn) := by
  intro closed
  simp only [TcpConnection.armKind, closed, decide_true, Bool.or_true, ↓reduceIte]
  split
  · split
    case h_1 armed => exact armReadWaiter armed closed
    case h_2 => exact armFailed _ _ _ conn closed
  · split
    case h_1 armed => exact armWriteWaiter armed closed
    case h_2 => exact armFailed _ _ _ conn closed
  · split
    case h_1 armed => exact armCloseWaiter armed closed
    case h_2 => exact armFailed _ _ _ conn closed

theorem armWaiterInLoop (synchronous : Bool) (waiter : WaiterId) (awaitable : Awaitable)
    (conn : Conn) :
    Sealed conn (armWaiterInLoop world call synchronous waiter awaitable conn) := by
  simp only [TcpConnection.armWaiterInLoop]
  split
  case isFalse => exact .refl conn
  case isTrue =>
    split
    · exact (@sync world conn).trans (cancelWaiter waiter _)
    · have registered := (@sync world conn).trans
        (@registerCallback world waiter awaitable.token (Net.sync world conn))
      exact registered.trans ((@sync world _).trans
        ((@armKind world call synchronous waiter awaitable _).behind rfl rfl))

theorem armWaiter (waiter : WaiterId) (awaitable : Awaitable) (conn : Conn) :
    Sealed conn (armWaiter world call waiter awaitable conn) := by
  simp only [TcpConnection.armWaiter]
  split
  · exact (armWaiterInLoop true waiter awaitable _).behind rfl rfl
  · exact .same rfl rfl

theorem connectDestroyed (conn : Conn) : Sealed conn (connectDestroyed world call conn) := by
  intro closed
  obtain ⟨still, same⟩ := @sync world conn closed
  obtain ⟨_, _, _, removed⟩ := unregisterChannel_eq
    ((Net.sync world conn).emit (.checkpoint .connectDestroyed (Net.sync world conn).state))
  have open_ : (Net.sync world conn).state ≠ .kConnected := by rw [still]; decide
  simp only [TcpConnection.connectDestroyed, if_neg open_, removed]
  exact ⟨still, same⟩

section Calls

variable (calls : ∀ callback, Reentry.Within Sealed (call callback))

include calls

theorem apply (bufferedBytes : Nat) (conn : Conn) : Sealed conn (apply call bufferedBytes conn) := by
  have fires : ∀ event (conn : Conn), Sealed conn (fire call event bufferedBytes conn) := by
    intro event conn
    simp only [fire]
    split
    · exact (calls _ _).behind rfl rfl
    · exact .refl conn
  simp only [ConnectionBackpressureController.apply]
  repeat' split
  · exact .refl conn
  · exact .same rfl rfl
  · exact .refl conn
  · exact (fires _ _).behind rfl rfl
  · exact (fires _ _).behind rfl rfl
  · exact .refl conn

theorem setBackpressurePolicy (highWaterMark lowWaterMark : Nat) (conn : Conn) :
    Sealed conn (setBackpressurePolicy call highWaterMark lowWaterMark conn) := by
  simp only [TcpConnection.setBackpressurePolicy]
  split
  · exact (apply calls _ _).behind rfl rfl
  · exact .refl conn

/-- Whatever user code does with it. -/
theorem perform (op : Op) (conn : Conn) : Sealed conn (op.perform world call conn) := by
  have refuses : Sealed conn (Net.sync world conn) := sync conn
  cases op with
  | send data =>
      intro closed
      have still := (refuses closed).1
      simp only [Op.perform, send, still, reduceCtorEq, ↓reduceIte]
      exact ⟨trivial, (refuses closed).2⟩
  | shutdown =>
      intro closed
      have still := (refuses closed).1
      simp only [Op.perform, shutdown, still, reduceCtorEq, ↓reduceIte]
      exact ⟨trivial, (refuses closed).2⟩
  | forceClose =>
      intro closed
      simp only [Op.perform, forceClose, forceCloseInLoop, closed, reduceCtorEq, or_self, ↓reduceIte]
      exact ⟨trivial, trivial⟩
  | setBackpressurePolicy high low => exact setBackpressurePolicy calls high low conn
  | setCallbacks callbacks => exact .same rfl rfl
  | await waiter awaitable => exact armWaiter waiter awaitable conn
  | destroyAwaitable waiter =>
      simp only [Op.perform, abandonWaiter]
      split
      · exact .same rfl rfl
      · exact .refl conn
  | cancel token => exact cancel token conn
  | connectDestroyed => exact connectDestroyed conn
  | queueInLoop label => exact queueInLoop _ conn
  | modifyInput contents => exact .same rfl rfl

/-- The close sequence closes the connection for the reason recorded before it. -/
theorem runCloseSequence (notified : Bool) (conn : Conn) :
    (runCloseSequence world call notified conn).state = .kDisconnected ∧
      (runCloseSequence world call notified conn).closeReason = conn.closeReason := by
  have begun : Sealed (shutChannel conn) (beginClose world conn) := resumeAllOnClose _
  have told : Sealed (beginClose world conn)
      (notifyDisconnected call (beginClose world conn)) := by
    simp only [notifyDisconnected]
    split
    · exact (calls _ _).behind rfl rfl
    · exact .same rfl rfl
  have closes : Sealed (notifyDisconnected call (beginClose world conn))
      (TcpConnection.runCloseSequence world call notified conn) := by
    simp only [TcpConnection.runCloseSequence]
    split
    · simp only [notifyClose]
      split
      · exact (calls _ _).behind rfl rfl
      · exact .refl _
    · exact .refl _
  exact (begun.trans (told.trans closes)) rfl

end Calls

theorem reentered (world : World) (depth : Nat) (callback : Callback) :
    Reentry.Within Sealed (world.call depth callback) :=
  Reentry.Within.reenter .refl .trans
    (fun _ calls op conn => perform calls op conn) depth callback

end Sealed

/-! ## An open connection has no reason -/

/-- A reason is recorded only together with the close. -/
def Unmarked (conn : Conn) : Prop := conn.state ≠ .kDisconnected → conn.closeReason = .kNone

theorem Unmarked.framed {before after : Conn} {events : List Event} (unmarked : Unmarked before)
    (frame : Frame before after events) (reason : after.closeReason = before.closeReason) :
    Unmarked after := by
  intro opened
  rw [reason]
  exact unmarked fun closed => opened (frame.closed closed)

theorem Arrives.closeReason {origin : Origin} {data : Bytes} {before after : Conn}
    (arrives : Arrives origin data before after) : after.closeReason = before.closeReason := by
  cases arrives <;> rfl

theorem Move.closeReason {before after : Conn} (move : Move world before after) :
    after.closeReason = before.closeReason ∨ before.state = .kDisconnected := by
  cases move with
  | error closed => exact .inr closed
  | submit arrives _ submits =>
      rw [submits.effect.frame]
      exact .inl arrives.closeReason
  | unregisterChannel _ =>
      obtain ⟨_, _, _, removed⟩ := unregisterChannel_eq before
      rw [removed]
      exact .inl rfl
  | @armRead _ _ _ ready | @armClose _ _ _ ready => cases ready <;> exact .inl rfl
  | _ => exact .inl rfl

theorem unmarked : Invariant world true Unmarked := by
  have quiet : ∀ {before after : Conn}, after.state = before.state →
      after.closeReason = before.closeReason → Unmarked before → Unmarked after := by
    intro before after state reason kept opened
    rw [reason]
    exact kept (state ▸ opened)
  constructor
  case move =>
    intro before after move kept
    obtain ⟨_, frame⟩ := move.frame
    rcases move.closeReason with same | closed
    · exact kept.framed frame same
    · exact fun opened => absurd (frame.closed closed) opened
  case take =>
    intro waiter awaitable before after takes kept
    cases takes <;> exact kept
  case finish =>
    intro waiter before after finishes kept
    cases finishes with
    | complete _ _ => exact kept
    | finish _ _ =>
        obtain ⟨_, _, _, _, finished⟩ := finishAwait_eq _ _ _
        rw [finished]
        exact quiet rfl rfl kept
  case dispatch =>
    intro _ before after move kept
    cases move <;> exact quiet rfl rfl kept
  case retrieve => exact fun _ _ _ _ kept => quiet rfl rfl kept
  case settle =>
    intro _ conn kept
    rcases settle_eq conn with same | settled
    · rw [same]
      exact kept
    · rw [settled]
      exact quiet rfl rfl kept
  case close => exact fun _ _ _ opened => absurd rfl opened
  case disconnected => exact fun closed _ opened => absurd closed opened
  case closeCallback => exact fun kept => quiet rfl rfl kept

/-! ## One readable event -/

/-- The connection that a readable event of a run finds, behind the error handler
if the event reports an error as well. -/
def Setup.readable (setup : Setup) (world : World) (depth : Nat) (steps : List Step)
    (error : Bool) : Conn :=
  let conn := sync world (setup.run world depth steps)
  if error then handleError world (world.call depth) 0 conn else conn

theorem Setup.readable_unmarked (setup : Setup) (world : World) (depth : Nat) (steps : List Step)
    (error : Bool) : Unmarked (setup.readable world depth steps error) := by
  have ran := @Invariant.run setup world Unmarked unmarked (fun _ => rfl) (fun _ _ _ _ _ => rfl)
    depth steps
  have synced : Unmarked (sync world (setup.run world depth steps)) :=
    (@unmarked world).ran (@sync_ran world .user _) (fun _ => rfl) ran
  unfold Setup.readable
  dsimp only
  split
  · exact (@unmarked world).ran (@handleError_ran world .user _ (world.call_ran depth) 0 _)
      (fun _ => rfl) synced
  · exact synced

/-- The reason of the close that follows a result of `SSL_read`. -/
def SslError.closeReason : SslError → Option CloseReason
  | .zeroReturn => some .kPeerClosed
  | .fatal _ => some .kError
  | .wantRead | .wantWrite => none

/-- What was received is delivered, and the connection is closed for the reason
that ended the stream. -/
structure Surfaced (conn : Conn) (reads : List Bytes) (reason : CloseReason) (after : Conn) :
    Prop where
  delivered : reads.flatten ≠ [] → conn.callbacks.message = true →
    conn.registry.readWaiter = none → .callback .message ∈ after.trace.drop conn.trace.length
  closed : after.state = .kDisconnected
  reason : conn.state ≠ .kDisconnected → after.closeReason = reason

/-- The connection after the decrypted bytes are appended. -/
def received (reads : List Bytes) (conn : Conn) : Conn :=
  reads.foldl (fun conn data => appendInput data conn) conn

theorem received_eq (reads : List Bytes) (conn : Conn) :
    received reads conn = { conn with
      inputBuffer := conn.inputBuffer ++ reads.flatten
      trace := conn.trace ++ reads.map .received } := by
  induction reads generalizing conn with
  | nil => simp [received]
  | cons data reads ih =>
      change received reads (appendInput data conn) = _
      rw [ih]
      simp [appendInput, Conn.emit, List.append_assoc]

theorem received_sum (reads : List Bytes) : (reads.map List.length).sum = reads.flatten.length :=
  List.length_flatten.symm

/-- All decrypted bytes are appended, in order, whatever ends the loop. -/
theorem sslReadIntoBuffer_appends (world : World) (conn : Conn) :
    (sslReadIntoBuffer world conn).2.inputBuffer =
      conn.inputBuffer ++ (world.sslRead conn).1.flatten := by
  have filled := received_eq (world.sslRead conn).1 conn
  unfold sslReadIntoBuffer
  dsimp only
  change (received (world.sslRead conn).1 conn) = _ at filled
  unfold received at filled
  rw [filled]
  repeat' split
  all_goals rfl

/-- The connection inside `handleRead`. -/
def reading (conn : Conn) : Conn := conn.emit (.checkpoint .handleRead conn.state)

section Read

variable {call : Callback → Conn → Conn} {conn : Conn} {reads : List Bytes} {terminal : SslError}
  {reason : CloseReason}

theorem handleRead_settled (settled : handshakePending conn = false) {result : Result}
    {after : Conn} (returned : readInto world (reading conn) = (result, after)) :
    handleRead world call conn =
      match result.status with
      | .kOk =>
          notifyMessage call conn.registry.readWaiter.isSome
            (resumeReadWaiterIfSatisfied world after.inputBuffer.length after)
      | .kPeerClosed => handleClose world call after
      | .kError => handleError world call result.savedErrno after
      | .kWouldBlock => after := by
  unfold reading at returned
  simp only [handleRead, settled, Bool.false_eq_true, ↓reduceIte, returned]
  rfl

/-- Bytes before the end: the loop reports the bytes and not the end. -/
theorem handleRead_received (ssl : conn.transport.ssl = true)
    (established : conn.transport.tlsState ≠ .kTlsHandshaking)
    (results : world.sslRead (reading conn) = (reads, terminal))
    (ends : terminal.closeReason = some reason) (some : reads.flatten ≠ []) :
    handleRead world call conn =
      notifyMessage call conn.registry.readWaiter.isSome
        (resumeReadWaiterIfSatisfied world (received reads (reading conn)).inputBuffer.length
          (received reads (reading conn))) := by
  have secured : (reading conn).transport.ssl = true := ssl
  have count : 0 < (reads.map List.length).sum := by
    rw [received_sum]
    exact List.length_pos_iff.mpr some
  have returned : readInto world (reading conn) =
      ({ status := .kOk, bytes := (reads.map List.length).sum }, received reads (reading conn)) := by
    rw [readInto, if_pos secured, sslReadIntoBuffer, results]
    cases terminal with
    | wantRead | wantWrite => cases ends
    | zeroReturn | fatal => simp only [count, ↓reduceIte, received]
  rw [handleRead_settled (by simp [handshakePending, established]) returned]

/-- The end alone: it is reported, and the connection is closed. -/
theorem handleRead_ended (calls : ∀ callback, Reentry.Within Sealed (call callback))
    (ssl : conn.transport.ssl = true) (established : conn.transport.tlsState ≠ .kTlsHandshaking)
    (results : world.sslRead (reading conn) = (reads, terminal))
    (ends : terminal.closeReason = some reason) (none : reads.flatten = [])
    (opened : conn.state ≠ .kDisconnected) (unmarked : conn.closeReason = .kNone) :
    (handleRead world call conn).state = .kDisconnected ∧
      (handleRead world call conn).closeReason = reason := by
  have secured : (reading conn).transport.ssl = true := ssl
  have count : (reads.map List.length).sum = 0 := by
    rw [received_sum, none]
    rfl
  have settled : handshakePending conn = false := by simp [handshakePending, established]
  have filled := received_eq reads (reading conn)
  have stillOpen : (received reads (reading conn)).state ≠ .kDisconnected := by
    rw [filled]
    exact opened
  have stillUnmarked : (received reads (reading conn)).closeReason = .kNone := by
    rw [filled]
    exact unmarked
  cases terminal with
  | wantRead | wantWrite => cases ends
  | zeroReturn =>
      cases ends
      have returned : readInto world (reading conn) =
          ({ status := .kPeerClosed }, received reads (reading conn)) := by
        rw [readInto, if_pos secured, sslReadIntoBuffer, results]
        simp only [count, gt_iff_lt, Nat.lt_irrefl, ↓reduceIte, received]
      rw [handleRead_settled settled returned, handleClose, if_neg stillOpen]
      have closed := @Sealed.runCloseSequence world call calls true
        (markPeerClosed (received reads (reading conn)))
      rw [closed.1, closed.2, markPeerClosed]
      exact ⟨rfl, if_pos stillUnmarked⟩
  | fatal errno =>
      cases ends
      have returned : readInto world (reading conn) =
          ({ status := .kError, savedErrno := errno }, received reads (reading conn)) := by
        rw [readInto, if_pos secured, sslReadIntoBuffer, results]
        simp only [count, gt_iff_lt, Nat.lt_irrefl, ↓reduceIte, received]
      rw [handleRead_settled settled returned]
      dsimp only
      rw [handleError_eq errno stillOpen]
      exact @Sealed.runCloseSequence world call calls true _

/-- What was received before the end goes to the message callback. -/
theorem handleRead_delivers (calls : ∀ callback, Reentry.Within (Ran world .user) (call callback))
    (ssl : conn.transport.ssl = true) (established : conn.transport.tlsState ≠ .kTlsHandshaking)
    (results : world.sslRead (reading conn) = (reads, terminal))
    (ends : terminal.closeReason = some reason) (some : reads.flatten ≠ [])
    (message : conn.callbacks.message = true) (unawaited : conn.registry.readWaiter = none) :
    .callback .message ∈ (handleRead world call conn).trace.drop conn.trace.length := by
  have filled := received_eq reads (reading conn)
  have idle : resumeReadWaiterIfSatisfied world (received reads (reading conn)).inputBuffer.length
      (received reads (reading conn)) = received reads (reading conn) := by
    have registry : (received reads (reading conn)).registry.readWaiter = none := by
      rw [filled]
      exact unawaited
    simp only [resumeReadWaiterIfSatisfied, registry, queueResumeSlot, ite_self]
  have told : handleRead world call conn =
      call .message ((received reads (reading conn)).emit (.callback .message)) := by
    have set : (received reads (reading conn)).callbacks.message = true := by
      rw [filled]
      exact message
    rw [handleRead_received ssl established results ends some, idle, notifyMessage, unawaited]
    simp only [Option.isSome_none, Bool.not_false, Bool.and_true, set, ↓reduceIte, invoke]
  obtain ⟨later, trace⟩ := (calls .message ((received reads (reading conn)).emit
    (.callback .message))).trace_extends
  rw [told, trace, filled]
  simp [reading, Conn.emit, List.append_assoc]

end Read

/-- The end of the stream comes out of the readable event at which `SSL_read`
reports it, whatever the application does, exactly if nothing came before it
(or if the connection is closed as it is). -/
theorem end_of_stream_surfaces (setup : Setup) (world : World) (depth : Nat) (steps : List Step)
    (error : Bool) (ssl : (setup.readable world depth steps error).transport.ssl = true)
    (established : (setup.readable world depth steps error).transport.tlsState ≠ .kTlsHandshaking)
    (reads : List Bytes) {terminal : SslError} {reason : CloseReason}
    (ends : terminal.closeReason = some reason) :
    let conn := setup.readable world depth steps error
    (∀ (world : World), world.sslRead (reading conn) = (reads, terminal) →
      (sslReadIntoBuffer world (reading conn)).2.inputBuffer = conn.inputBuffer ++ reads.flatten) ∧
    ((∀ (world : World) (depth : Nat), world.sslRead (reading conn) = (reads, terminal) →
        Surfaced conn reads reason (handleRead world (world.call depth) conn)) ↔
      conn.state = .kDisconnected ∨ reads.flatten = []) := by
  intro conn
  have unmarked := setup.readable_unmarked world depth steps error
  refine ⟨fun world results => ?_, fun surfaces => ?_, fun condition world depth results => ?_⟩
  · have appended := sslReadIntoBuffer_appends world (reading conn)
    rw [results] at appended
    exact appended
  · -- an application that does nothing, for the other direction
    by_contra other
    obtain ⟨opened, some⟩ := not_or.mp other
    let silent : World := { sslRead := fun _ => (reads, terminal) }
    have closed := (surfaces silent 0 rfl).closed
    have filled := received_eq reads (reading conn)
    have stillOpen : (received reads (reading conn)).state ≠ .kDisconnected := by
      rw [filled]
      exact opened
    rw [@handleRead_received silent _ conn reads terminal reason ssl established rfl ends some]
      at closed
    have quiet : ∀ suppressed (conn : Conn),
        (notifyMessage (silent.call 0) suppressed conn).state = conn.state := by
      intro suppressed conn
      simp only [notifyMessage]
      split <;> rfl
    rw [quiet] at closed
    exact stillOpen (resumeReadWaiterIfSatisfied_open closed)
  · have calls := world.call_ran depth
    by_cases closed : conn.state = .kDisconnected
    · exact ⟨fun some message unawaited =>
          handleRead_delivers calls ssl established results ends some message unawaited,
        (handleRead_ran calls conn).disconnected closed, fun opened => absurd closed opened⟩
    · have none := condition.resolve_left closed
      have ended := handleRead_ended (Sealed.reentered world depth) ssl established results ends
        none closed (unmarked closed)
      exact ⟨fun some => absurd none some, ended.1, fun _ => ended.2⟩

/-- The peer sends two bytes and closes, and both are there at the first `SSL_read`. -/
def lastWords : World where
  sslRead := fun _ => ([[104, 105]], .zeroReturn)

/-- The peer closes. -/
def noWords : World where
  sslRead := fun _ => ([], .zeroReturn)

def tlsSetup : Setup where
  callbacks := { message := true }
  tls := true

theorem end_of_stream_surfaces_alone :
    let conn := tlsSetup.readable noWords 1 [] false
    conn.state = .kConnected ∧
      Surfaced conn [] .kPeerClosed (handleRead noWords (noWords.call 1) conn) := by
  refine ⟨rfl, ?_⟩
  have surfaces := (@end_of_stream_surfaces tlsSetup noWords 1 [] false rfl (by decide) []
    .zeroReturn .kPeerClosed rfl).2.mpr (.inr rfl)
  exact surfaces noWords 1 rfl

/-- The two bytes are delivered, and that the peer has closed is forgotten. -/
theorem end_of_stream_swallowed :
    let conn := tlsSetup.readable lastWords 1 [] false
    let after := handleRead lastWords (lastWords.call 1) conn
    conn.state = .kConnected ∧ after.inputBuffer = [104, 105] ∧ after.state = .kConnected ∧
      ¬Surfaced conn [[104, 105]] .kPeerClosed after := by
  refine ⟨rfl, rfl, rfl, fun surfaced => ?_⟩
  cases surfaced.closed

end MiniTrantor.Net
