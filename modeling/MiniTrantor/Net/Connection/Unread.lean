import MiniTrantor.Net.Connection.Behaviour

/-!
# Code that reads nothing

All but the read handler read nothing from the transport, and leave the message
callback in place as long as the user does.
-/

set_option autoImplicit false

namespace MiniTrantor.Net

open ConnectionAwaiterRegistry ConnectionBackpressureController ConnectionCallbackDispatcher
open ConnectionTransport TcpConnection

variable {world : World} {call : Callback → Conn → Conn}

/-- Bytes that were read from the transport. -/
def Event.isRead : Event → Bool
  | .received (_ :: _) => true
  | _ => false

/-- The message callback stays, and nothing is read. -/
structure Unread (before after : Conn) : Prop where
  message : before.callbacks.message = true → after.callbacks.message = true
  silent : ∃ events, after.trace = before.trace ++ events ∧ ∀ event ∈ events, event.isRead = false

namespace Unread

variable {first second third before after : Conn}

theorem grown {events : List Event} (callbacks : after.callbacks = before.callbacks)
    (trace : after.trace = before.trace ++ events) (quiet : ∀ event ∈ events, event.isRead = false) :
    Unread before after :=
  ⟨fun set => callbacks ▸ set, events, trace, quiet⟩

theorem same (callbacks : after.callbacks = before.callbacks) (trace : after.trace = before.trace) :
    Unread before after :=
  grown callbacks (by rw [trace, List.append_nil]) (by simp)

theorem refl (conn : Conn) : Unread conn conn := same rfl rfl

theorem trans (front : Unread first second) (back : Unread second third) : Unread first third := by
  refine ⟨back.message ∘ front.message, ?_⟩
  obtain ⟨early, trace, quiet⟩ := front.silent
  obtain ⟨late, further, silent⟩ := back.silent
  refine ⟨early ++ late, by rw [further, trace, List.append_assoc], fun event member => ?_⟩
  rcases List.mem_append.mp member with old | new
  · exact quiet event old
  · exact silent event new

/-- A change of other fields, and what follows it. -/
theorem behind (rest : Unread second third) (callbacks : second.callbacks = first.callbacks)
    (trace : second.trace = first.trace) : Unread first third :=
  (same callbacks trace).trans rest

theorem emit (event : Event) (quiet : event.isRead = false) (conn : Conn) :
    Unread conn (conn.emit event) :=
  grown rfl rfl (by simpa using quiet)

theorem updateChannel (change : Channel → Channel) (conn : Conn) :
    Unread conn (conn.updateChannel change) :=
  grown rfl rfl (by simp [Event.isRead])

theorem setState (state : StateE) (conn : Conn) : Unread conn (conn.setState state) :=
  grown rfl rfl (by simp [Event.isRead])

/-! ## Code without callbacks -/

theorem sync (conn : Conn) : Unread conn (sync world conn) := by
  have shared := sync_sharedOnly world conn
  obtain ⟨events, trace, remote⟩ := shared.trace
  refine grown shared.callbacks trace fun event member => ?_
  have other := remote event member
  cases event <;> first | rfl | cases other

theorem queueInLoop (functor : Functor) (conn : Conn) :
    Unread conn (EventLoop.queueInLoop world functor conn) :=
  (sync conn).trans (.same rfl rfl)

theorem registerCallback (waiter : WaiterId) (token : Option TokenId) (conn : Conn) :
    Unread conn (CancellationToken.registerCallback world waiter token conn) := by
  cases token with
  | none => exact .refl conn
  | some token =>
      simp only [CancellationToken.registerCallback]
      split
      · exact (sync conn).trans (queueInLoop _ _)
      · exact (sync conn).trans (.same rfl rfl)

theorem cancel (token : TokenId) (conn : Conn) :
    Unread conn (CancellationSource.cancel world token conn) := by
  simp only [CancellationSource.cancel]
  split
  · exact sync conn
  · have posts := Reentry.Within.foldl refl trans
      (fun waiter => EventLoop.queueInLoop world (.cancelWaiter waiter))
      ((Net.sync world conn).tokens token).callbacks (fun _ _ conn => queueInLoop _ conn)
    exact (@sync world conn).trans ((posts _).behind rfl rfl)

theorem queueResume (waiter : WaiterId) (conn : Conn) :
    Unread conn (queueResume world waiter conn) := by
  simp only [ConnectionAwaiterRegistry.queueResume]
  split
  · exact ((emit _ rfl _).trans (queueInLoop _ _)).behind rfl rfl
  · exact .refl conn

theorem queueResumeSlot (slot : Option WaiterId) (conn : Conn) :
    Unread conn (queueResumeSlot world slot conn) := by
  cases slot with
  | none => exact .refl conn
  | some waiter => exact queueResume waiter conn

theorem resumeAllOnClose (conn : Conn) : Unread conn (resumeAllOnClose world conn) :=
  ((queueResumeSlot _ conn).trans (queueResumeSlot _ _)).trans (queueResumeSlot _ _)

theorem cancelWaiter (waiter : WaiterId) (conn : Conn) :
    Unread conn (cancelWaiter world waiter conn) := by
  simp only [ConnectionAwaiterRegistry.cancelWaiter]
  split
  · exact (queueResume _ _).behind rfl rfl
  · exact .refl conn

theorem armFailed (synchronous : Bool) (waiter : WaiterId) (message : String) (conn : Conn) :
    Unread conn (armFailed world synchronous waiter message conn) := by
  simp only [TcpConnection.armFailed]
  split
  · exact ((emit (.abandoned waiter) rfl _).trans (emit _ rfl _)).behind rfl rfl
  · exact (queueResume _ _).behind rfl rfl

theorem queueIf (ready : Bool) (waiter : WaiterId) (conn : Conn) :
    Unread conn (if ready then ConnectionAwaiterRegistry.queueResume world waiter conn else conn) := by
  cases ready
  · exact .refl conn
  · exact queueResume waiter conn

theorem armReadWaiter {waiter : WaiterId} {minBytes : Nat} {ready : Bool} {conn made : Conn}
    (armed : armReadWaiter world waiter minBytes ready conn = .ok made) : Unread conn made := by
  simp only [ConnectionAwaiterRegistry.armReadWaiter] at armed
  split at armed
  · cases armed
  · cases armed
    exact (queueIf ready waiter _).behind rfl rfl

theorem armWriteWaiter {waiter : WaiterId} {ready : Bool} {conn made : Conn}
    (armed : armWriteWaiter world waiter ready conn = .ok made) : Unread conn made := by
  simp only [ConnectionAwaiterRegistry.armWriteWaiter] at armed
  split at armed
  · cases armed
  · cases armed
    exact (queueIf ready waiter _).behind rfl rfl

theorem armCloseWaiter {waiter : WaiterId} {ready : Bool} {conn made : Conn}
    (armed : armCloseWaiter world waiter ready conn = .ok made) : Unread conn made := by
  simp only [ConnectionAwaiterRegistry.armCloseWaiter] at armed
  split at armed
  · cases armed
  · cases armed
    exact (queueIf ready waiter _).behind rfl rfl

theorem abandonWaiter (waiter : WaiterId) (conn : Conn) :
    Unread conn (abandonWaiter waiter conn) := by
  simp only [TcpConnection.abandonWaiter]
  split
  · exact (emit _ rfl _).behind rfl rfl
  · exact .refl conn

theorem shutdownInLoop (conn : Conn) : Unread conn (shutdownInLoop conn) := by
  simp only [TcpConnection.shutdownInLoop]
  split
  · exact .refl conn
  · exact grown rfl rfl (by simp [Event.isRead])

theorem queueWriteComplete (conn : Conn) : Unread conn (queueWriteComplete world conn) := by
  simp only [ConnectionCallbackDispatcher.queueWriteComplete]
  split
  · exact queueInLoop _ conn
  · exact .refl conn

theorem finishPendingWrite (conn : Conn) : Unread conn (finishPendingWrite world conn) := by
  have queued : Unread conn (Net.sync world
      (resumeWriteWaiterIfNeeded world (ConnectionCallbackDispatcher.queueWriteComplete world conn))) :=
    ((queueWriteComplete conn).trans (queueResumeSlot _ _)).trans (sync _)
  simp only [TcpConnection.finishPendingWrite]
  split
  · exact queued.trans (shutdownInLoop _)
  · exact queued

theorem queueHighWaterMark (oldLen newLen : Nat) (conn : Conn) :
    Unread conn (queueHighWaterMark world oldLen newLen conn) := by
  simp only [ConnectionCallbackDispatcher.queueHighWaterMark]
  repeat' split
  · exact .refl conn
  · exact .refl conn
  · exact queueInLoop _ conn

theorem appendOutput (data : Bytes) (conn : Conn) : Unread conn (appendOutput data conn) := by
  simp only [TcpConnection.appendOutput]
  split
  · exact .same rfl rfl
  · exact (updateChannel _ _).behind rfl rfl

theorem writeRaw (data : Bytes) (conn : Conn) : Unread conn (writeRaw world data conn).2 := by
  simp only [ConnectionTransport.writeRaw, sslWriteRaw]
  repeat' split
  all_goals first
    | exact .refl conn
    | exact emit _ rfl conn
    | exact updateChannel _ conn

theorem advanceHandshake (conn : Conn) : Unread conn (advanceHandshake world conn).2 := by
  simp only [ConnectionTransport.advanceHandshake]
  repeat' split
  all_goals first
    | exact .refl conn
    | exact updateChannel _ conn
    | exact (updateChannel _ _).behind rfl rfl

theorem retrieveWritten (count : Nat) (conn : Conn) : Unread conn (retrieveWritten count conn) :=
  (emit _ rfl _).behind rfl rfl

theorem sslWriteLoop (fuel totalWritten : Nat) (conn : Conn) :
    Unread conn (sslWriteLoop world fuel totalWritten conn).2 := by
  induction fuel generalizing totalWritten conn with
  | zero =>
      simp only [ConnectionTransport.sslWriteLoop]
      split <;> exact .refl conn
  | succ fuel ih =>
      simp only [ConnectionTransport.sslWriteLoop]
      repeat' split
      all_goals first
        | exact .refl conn
        | exact updateChannel _ conn
        | exact (retrieveWritten _ _).trans (ih _ _)

theorem writeFromBuffer (conn : Conn) : Unread conn (writeFromBuffer world conn).2 := by
  simp only [ConnectionTransport.writeFromBuffer]
  repeat' split
  all_goals first
    | exact .refl conn
    | exact sslWriteLoop _ _ conn
    | exact retrieveWritten _ conn

theorem unregisterChannel (conn : Conn) : Unread conn (unregisterChannel conn) := by
  have disabled : Unread conn
      (if conn.channel.events ≠ .none then conn.updateChannel Channel.disableAll else conn) := by
    split
    · exact updateChannel _ conn
    · exact .refl conn
  simp only [TcpConnection.unregisterChannel]
  split
  · exact disabled.trans (grown rfl rfl (by simp [Event.isRead]))
  · exact disabled

theorem shutChannel (conn : Conn) : Unread conn (shutChannel conn) :=
  grown rfl (shutChannel_trace conn) (by simp [Event.isRead])

theorem setReading (enabled : Bool) (conn : Conn) : Unread conn (setReading enabled conn) :=
  (updateChannel _ _).behind rfl rfl

/-! ## Code that enters callbacks -/

section Calls

variable (calls : ∀ callback, Reentry.Within Unread (call callback))

include calls

theorem invoke (callback : Callback) (conn : Conn) : Unread conn (invoke call callback conn) :=
  (emit _ rfl conn).trans (calls _ _)

theorem notifyConnected (conn : Conn) : Unread conn (notifyConnected call conn) := by
  simp only [ConnectionCallbackDispatcher.notifyConnected]
  split
  · exact invoke calls _ conn
  · exact emit _ rfl conn

theorem notifyDisconnected (conn : Conn) : Unread conn (notifyDisconnected call conn) := by
  simp only [ConnectionCallbackDispatcher.notifyDisconnected]
  split
  · exact invoke calls _ conn
  · exact emit _ rfl conn

/-- A callback that may not be set. -/
theorem invokeIf (set : Bool) (callback : Callback) (conn : Conn) :
    Unread conn (if set then Net.invoke call callback conn else conn) := by
  split
  · exact invoke calls callback conn
  · exact .refl conn

theorem apply (bufferedBytes : Nat) (conn : Conn) : Unread conn (apply call bufferedBytes conn) := by
  have fires : ∀ event enabled, Unread conn
      (fire call event bufferedBytes (ConnectionBackpressureController.setReading enabled conn)) :=
    fun event enabled => (setReading enabled conn).trans (invokeIf calls _ _ _)
  simp only [ConnectionBackpressureController.apply]
  repeat' split
  · exact .refl conn
  · exact setReading _ conn
  · exact .refl conn
  · exact fires _ _
  · exact fires _ _
  · exact .refl conn

theorem applyBackpressurePolicy (conn : Conn) :
    Unread conn (applyBackpressurePolicy call conn) :=
  apply calls _ conn

theorem bufferOutput (remaining : Bytes) (conn : Conn) :
    Unread conn (bufferOutput world call remaining conn) :=
  ((appendOutput remaining conn).trans (queueHighWaterMark _ _ _)).trans (apply calls _ _)

theorem runCloseSequence (notified : Bool) (conn : Conn) :
    Unread conn (runCloseSequence world call notified conn) := by
  have told : Unread conn
      (ConnectionCallbackDispatcher.notifyDisconnected call (beginClose world conn)) :=
    ((shutChannel conn).trans (resumeAllOnClose _)).trans (notifyDisconnected calls _)
  simp only [TcpConnection.runCloseSequence]
  split
  · exact told.trans (invokeIf calls _ _ _)
  · exact told

theorem handleClose (conn : Conn) : Unread conn (handleClose world call conn) := by
  simp only [TcpConnection.handleClose]
  split
  · exact .refl conn
  · exact (runCloseSequence calls true _).behind rfl rfl

theorem handleError (errno : Nat) (conn : Conn) :
    Unread conn (handleError world call errno conn) := by
  have marked : Unread conn (markError world errno conn) := grown rfl rfl (by simp [Event.isRead])
  simp only [TcpConnection.handleError]
  split
  · exact marked.trans (handleClose calls _)
  · exact marked

theorem sendInLoop (origin : Origin) (data : Bytes) (conn : Conn) :
    Unread conn (sendInLoop world call origin data conn) := by
  have submitted := emit (.submitted origin data) rfl conn
  have written := submitted.trans (@writeRaw world data _)
  simp only [TcpConnection.sendInLoop]
  repeat' split
  · exact .refl conn
  · exact written.trans (handleError calls _ _)
  · exact written.trans (finishPendingWrite _)
  · exact written.trans (bufferOutput calls _ _)
  · exact submitted
  · exact submitted.trans (bufferOutput calls _ _)

theorem armKind (synchronous : Bool) (waiter : WaiterId) (awaitable : Awaitable) (conn : Conn) :
    Unread conn (armKind world call synchronous waiter awaitable conn) := by
  simp only [TcpConnection.armKind]
  split
  · split
    case h_1 armed => exact armReadWaiter armed
    case h_2 => exact armFailed _ _ _ conn
  · split
    case h_1 armed =>
      have sent := (armWriteWaiter armed).trans
        (@sendInLoop world call calls (.waiter waiter) awaitable.data _)
      repeat' split
      · exact armWriteWaiter armed
      · exact sent.trans (queueResumeSlot _ _)
      · exact sent
    case h_2 => exact armFailed _ _ _ conn
  · split
    case h_1 armed => exact armCloseWaiter armed
    case h_2 => exact armFailed _ _ _ conn

theorem armWaiterInLoop (synchronous : Bool) (waiter : WaiterId) (awaitable : Awaitable)
    (conn : Conn) :
    Unread conn (armWaiterInLoop world call synchronous waiter awaitable conn) := by
  simp only [TcpConnection.armWaiterInLoop]
  split
  case isFalse => exact .refl conn
  case isTrue =>
    split
    · exact (@sync world conn).trans (cancelWaiter waiter _)
    · have registered := (@sync world conn).trans
        ((@registerCallback world waiter awaitable.token (Net.sync world conn)).trans (@sync world _))
      exact (registered.trans (emit _ rfl _)).trans (armKind calls synchronous waiter awaitable _)

theorem armWaiter (waiter : WaiterId) (awaitable : Awaitable) (conn : Conn) :
    Unread conn (armWaiter world call waiter awaitable conn) := by
  simp only [TcpConnection.armWaiter]
  split
  · exact (armWaiterInLoop calls true waiter awaitable _).behind rfl rfl
  · exact emit _ rfl conn

theorem connectDestroyed (conn : Conn) : Unread conn (connectDestroyed world call conn) := by
  have noted := (@sync world conn).trans
    (emit (.checkpoint .connectDestroyed (Net.sync world conn).state) rfl _)
  simp only [TcpConnection.connectDestroyed]
  split
  · have shut : ∀ conn, Unread conn
        (TcpConnection.runCloseSequence world call false (markPeerClosed conn)) :=
      fun conn => (runCloseSequence calls false (markPeerClosed conn)).behind rfl rfl
    exact ((noted.trans (shut _)).trans (unregisterChannel _)).trans (emit _ rfl _)
  · exact (noted.trans (unregisterChannel _)).trans (emit _ rfl _)

theorem setBackpressurePolicyInLoop (highWaterMark lowWaterMark : Nat) (conn : Conn) :
    Unread conn (setBackpressurePolicyInLoop call highWaterMark lowWaterMark conn) :=
  (apply calls _ _).behind rfl rfl

/-- What user code does with it, but for a change of the message callback. -/
theorem perform {op : Op} (keeps : ∀ callbacks, op = .setCallbacks callbacks → callbacks.message = true)
    (conn : Conn) : Unread conn (op.perform world call conn) := by
  have synced : Unread conn (Net.sync world conn) := sync conn
  cases op with
  | send data =>
      simp only [Op.perform, send]
      split
      · exact (synced.trans (emit _ rfl _)).trans (sendInLoop calls _ _ _)
      · exact synced
  | shutdown =>
      simp only [Op.perform, shutdown]
      split
      · exact (synced.trans (setState _ _)).trans (shutdownInLoop _)
      · exact synced
  | forceClose =>
      simp only [Op.perform, forceClose, forceCloseInLoop]
      split
      · exact handleClose calls conn
      · exact .refl conn
  | setBackpressurePolicy high low =>
      simp only [Op.perform, setBackpressurePolicy]
      split
      · exact setBackpressurePolicyInLoop calls high low conn
      · exact .refl conn
  | setCallbacks callbacks => exact ⟨fun _ => keeps callbacks rfl, [], by simp [Op.perform]⟩
  | await waiter awaitable => exact armWaiter calls waiter awaitable conn
  | destroyAwaitable waiter => exact abandonWaiter waiter conn
  | cancel token => exact cancel token conn
  | connectDestroyed => exact connectDestroyed calls conn
  | queueInLoop label => exact queueInLoop _ conn
  | modifyInput contents => exact (emit _ rfl _).behind rfl rfl

theorem resumeWaiter (waiter : WaiterId) (conn : Conn) :
    Unread conn (resumeWaiter call waiter conn) := by
  simp only [TcpConnection.resumeWaiter]
  split
  · cases (conn.waiters waiter).handle with
    | none => exact .same rfl rfl
    | some awaitable =>
        obtain ⟨_, _, _, _, finished⟩ := finishAwait_eq waiter awaitable conn
        have resumed : Unread conn (finishAwait waiter awaitable conn) := by
          rw [finished]
          exact grown rfl rfl (by simp [Event.isRead])
        exact resumed.trans (calls _ _)
  · exact .refl conn

theorem functor (functor : Functor) (conn : Conn) :
    Unread conn (functor.run world call conn) := by
  cases functor with
  | sendInLoop data => exact sendInLoop calls _ data conn
  | shutdownInLoop => exact shutdownInLoop conn
  | forceCloseInLoop =>
      simp only [Functor.run, forceCloseInLoop]
      split
      · exact handleClose calls conn
      · exact .refl conn
  | setBackpressurePolicyInLoop high low => exact setBackpressurePolicyInLoop calls high low conn
  | armWaiter waiter awaitable => exact armWaiterInLoop calls false waiter awaitable conn
  | cancelWaiter waiter => exact cancelWaiter waiter conn
  | resumeWaiter waiter => exact resumeWaiter calls waiter conn
  | writeComplete => exact invoke calls _ conn
  | highWaterMark bufferedBytes => exact invoke calls _ conn
  | connectDestroyed => exact connectDestroyed calls conn
  | user label => exact invoke calls _ conn

/-! ## Handlers -/

theorem advanceTransportHandshake (conn : Conn) :
    Unread conn (advanceTransportHandshake world call conn) := by
  have advanced : Unread conn (ConnectionTransport.advanceHandshake world
      (conn.emit (.checkpoint .handshake conn.state))).2 :=
    (emit _ rfl _).trans (advanceHandshake _)
  have fires : ∀ event conn, Unread conn (fireTlsEvent call event conn) :=
    fun event conn => invokeIf calls _ _ conn
  simp only [TcpConnection.advanceTransportHandshake]
  repeat' split
  · exact (advanced.trans (fires _ _)).trans (handleError calls _ _)
  · exact ((advanced.trans (fires _ _)).trans (emit _ rfl _)).trans (notifyConnected calls _)
  · exact advanced

theorem handleWrite (conn : Conn) : Unread conn (handleWrite world call conn) := by
  have written : Unread conn (ConnectionTransport.writeFromBuffer world
      (conn.emit (.draining conn.outputBuffer.length))).2 :=
    (emit _ rfl _).trans (writeFromBuffer _)
  have drained := written.trans (applyBackpressurePolicy calls _)
  simp only [TcpConnection.handleWrite]
  repeat' split
  · exact advanceTransportHandshake calls conn
  · exact .refl conn
  · exact written.trans (handleError calls _ _)
  · exact (drained.trans ((emit _ rfl _).trans (updateChannel _ _))).trans (finishPendingWrite _)
  · exact drained
  · exact written
  · exact written

end Calls

end Unread

end MiniTrantor.Net
