import MiniTrantor.Net.Connection.Invariants

/-!
# Every function is a sequence of moves

One lemma per function of the source. `calls` says that user callbacks make only
the moves of user code; the re-entry rule discharges it at every nesting depth.
-/

set_option autoImplicit false

namespace MiniTrantor.Net

open ConnectionAwaiterRegistry ConnectionBackpressureController ConnectionCallbackDispatcher
open TcpConnection

variable {world : World} {scope : Scope}

/-! ## Other threads and the queue -/

theorem Remote.enter_ran (thread : ThreadId) (conn : Conn) (request : RemoteCall) :
    Ran world scope conn (enter thread conn request) := by
  cases request with
  | send data =>
      simp only [enter]
      split
      case isTrue connected => exact .single (.accept connected)
      case isFalse => exact .refl
  | shutdown =>
      simp only [enter]
      split
      case isTrue connected => exact .single (.requestShutdown connected)
      case isFalse => exact .refl
  | forceClose => exact .single (.request rfl)
  | setBackpressurePolicy high low =>
      simp only [enter]
      split
      · exact .single (.request rfl)
      · exact .refl
  | await waiter awaitable =>
      simp only [enter]
      split
      case isTrue unarmed => exact .single (.requestAwait unarmed)
      case isFalse => exact .single (.note rfl)
  | connectDestroyed => exact .single (.request rfl)
  | queueInLoop label => exact .single (.request rfl)

theorem Remote.act_ran (conn : Conn) (remote : Remote) : Ran world scope conn (remote.act conn) := by
  cases remote with
  | call thread request =>
      simp only [act]
      split
      · exact .refl
      · exact enter_ran thread conn request
  | push thread =>
      simp only [act]
      split
      · exact .refl
      case h_2 entry found => exact .single (.push (List.mem_of_find?_eq_some found))
  | requestCancel token => exact .single (.claims _ _)
  | claimCallbacks token =>
      simp only [act]
      split
      · exact .single (.claims _ _)
      · exact .refl
  | postCancel =>
      simp only [act]
      split
      · exact .refl
      case h_2 waiter rest _ =>
        exact Ran.trans (.single (.claims conn.tokens rest)) (.single (.enqueue rfl))

theorem sync_ran (conn : Conn) : Ran world scope conn (sync world conn) :=
  Reentry.Within.foldl (fun _ => .refl) .trans (fun remote conn => Remote.act conn remote)
    (world.others conn) (fun remote _ conn => Remote.act_ran conn remote) conn

theorem queueInLoop_ran (functor : Functor) (notice : functor.isNotice = true) (conn : Conn) :
    Ran world scope conn (EventLoop.queueInLoop world functor conn) :=
  (sync_ran conn).step (.enqueue notice)

theorem registerCallback_ran (waiter : WaiterId) (token : Option TokenId) (conn : Conn) :
    Ran world scope conn (CancellationToken.registerCallback world waiter token conn) := by
  cases token with
  | none => exact .refl
  | some token =>
      simp only [CancellationToken.registerCallback]
      split
      · exact (sync_ran conn).trans (queueInLoop_ran _ rfl _)
      · exact (sync_ran conn).step .register

theorem cancel_ran (token : TokenId) (conn : Conn) :
    Ran world scope conn (CancellationSource.cancel world token conn) := by
  simp only [CancellationSource.cancel]
  split
  · exact sync_ran conn
  · have taken := (@sync_ran world scope conn).step (.claims
      (Function.update (sync world conn).tokens token { cancelled := true, callbacks := [] })
      (sync world conn).claimed)
    exact taken.trans (Reentry.Within.foldl (fun _ => .refl) .trans
      (fun waiter => EventLoop.queueInLoop world (.cancelWaiter waiter)) _
      (fun waiter _ => queueInLoop_ran (.cancelWaiter waiter) rfl) _)

/-! ## Waiters -/

theorem queueResume_eq {waiter : WaiterId} {conn : Conn}
    (pending : (conn.waiters waiter).phase = .pending) :
    queueResume world waiter conn =
      EventLoop.queueInLoop world (.resumeWaiter waiter) (markQueued waiter conn) := by
  simp only [queueResume, pending, ↓reduceIte, markQueued]

theorem queueResume_ran {waiter : WaiterId} {conn : Conn}
    (wakes : (conn.waiters waiter).phase = .pending → Wakes conn waiter) :
    Ran world scope conn (queueResume world waiter conn) := by
  by_cases pending : (conn.waiters waiter).phase = .pending
  · rw [queueResume_eq pending]
    exact Ran.trans (.single (.queued pending (wakes pending))) (queueInLoop_ran _ rfl _)
  · simp only [queueResume, pending, ↓reduceIte]
    exact .refl

theorem queueResumeSlot_ran {slot : Option WaiterId} {conn : Conn}
    (wakes : ∀ waiter, slot = some waiter → (conn.waiters waiter).phase = .pending →
      Wakes conn waiter) :
    Ran world scope conn (queueResumeSlot world slot conn) := by
  cases slot with
  | none => exact .refl
  | some waiter => exact queueResume_ran (wakes waiter rfl)

theorem resumeReadWaiterIfSatisfied_ran (conn : Conn) :
    Ran world scope conn
      (resumeReadWaiterIfSatisfied world conn.inputBuffer.length conn) := by
  simp only [resumeReadWaiterIfSatisfied]
  split
  case isTrue enough =>
      exact queueResumeSlot_ran fun waiter slot _ => .readable slot enough
  case isFalse => exact .refl

theorem resumeWriteWaiterIfNeeded_ran {conn : Conn} (drained : conn.outputBuffer = []) :
    Ran world scope conn (resumeWriteWaiterIfNeeded world conn) :=
  queueResumeSlot_ran fun _ slot _ => .written slot drained

/-- A closed connection queues whatever waits in its slots. -/
theorem resumeAllOnClose_ran {conn : Conn} (closed : conn.state = .kDisconnected) :
    Ran world scope conn (resumeAllOnClose world conn) := by
  have slot : ∀ {conn : Conn} (waiter : Option WaiterId), conn.state = .kDisconnected →
      Ran world scope conn (queueResumeSlot world waiter conn) :=
    fun _ closed => queueResumeSlot_ran fun _ _ _ => .closed closed
  have read := slot conn.registry.readWaiter closed
  have write := slot (queueResumeSlot world conn.registry.readWaiter conn).registry.writeWaiter
    (read.disconnected closed)
  exact (read.trans write).trans (slot _ (write.disconnected (read.disconnected closed)))

theorem cancelWaiter_ran (waiter : WaiterId) (conn : Conn) :
    Ran world scope conn (cancelWaiter world waiter conn) := by
  simp only [cancelWaiter]
  split
  case isTrue pending =>
      rw [queueResume_eq (by simpa using pending)]
      exact Ran.trans (.single (.cancelled pending)) (queueInLoop_ran _ rfl _)
  case isFalse => exact .refl

theorem failWaiter_ran {waiter : WaiterId} {conn : Conn} (message : String)
    (pending : (conn.waiters waiter).phase = .pending) :
    Ran world scope conn (failWaiter world waiter message conn) := by
  rw [failWaiter, queueResume_eq (by simpa using pending)]
  exact Ran.trans (.single (.failed pending)) (queueInLoop_ran _ rfl _)

theorem armFailed_ran (synchronous : Bool) {waiter : WaiterId} (message : String) {conn : Conn}
    (pending : (conn.waiters waiter).phase = .pending) :
    Ran world scope conn (armFailed world synchronous waiter message conn) := by
  simp only [armFailed]
  split
  · exact Ran.trans (.single (.unregister (.inl pending))) (.single (.note rfl))
  · exact failWaiter_ran message pending

theorem abandonWaiter_ran (waiter : WaiterId) (conn : Conn) :
    Ran world scope conn (abandonWaiter waiter conn) := by
  simp only [abandonWaiter]
  split
  case isTrue waiting => exact .single (.unregister waiting)
  case isFalse => exact .refl

/-! ## Code that enters callbacks -/

section Callbacks

variable {call : Callback → Conn → Conn}
  (calls : ∀ callback conn, Ran world .user conn (call callback conn))

include calls

theorem invoke_routine_ran {callback : Callback} (routine : callback.isRoutine = true)
    (conn : Conn) : Ran world scope conn (invoke call callback conn) :=
  Ran.trans (.single (@Move.note world conn (.callback callback) routine)) (calls callback _).mono

theorem fire_ran (event : BackpressureEvent) (bufferedBytes : Nat) (conn : Conn) :
    Ran world scope conn (fire call event bufferedBytes conn) := by
  simp only [fire]
  split
  · exact invoke_routine_ran calls rfl conn
  · exact .refl

theorem apply_ran (bufferedBytes : Nat) (conn : Conn) :
    Ran world scope conn (apply call bufferedBytes conn) := by
  unfold apply
  dsimp only
  split
  case isTrue => exact .refl
  case isFalse started =>
    have active : conn.backpressure.active = true := by simpa using started
    split
    · split
      · exact .single (.reading active)
      · exact .refl
    · split
      · exact Ran.trans (.single (.reading active)) (fire_ran calls _ _ _)
      · split
        · exact Ran.trans (.single (.reading active)) (fire_ran calls _ _ _)
        · exact .refl

theorem configure_ran (high low bufferedBytes : Nat) (conn : Conn) :
    Ran world scope conn (configure call high low bufferedBytes conn) :=
  Ran.trans (.single .policy) (apply_ran calls bufferedBytes _)

/-- The close sequence, from whatever made the connection close. -/
theorem runCloseSequence_ran {conn failed : Conn} (notifyCloseCallback : Bool)
    (opened : conn.state ≠ .kDisconnected) (fails : Fails world conn failed) :
    Ran world scope conn (runCloseSequence world call notifyCloseCallback failed) := by
  have entered : Ran world .user (noteDisconnected (beginClose world failed))
      (notifyDisconnected call (beginClose world failed)) := by
    simp only [notifyDisconnected]
    split
    · exact calls .disconnected _
    · exact .refl
  have resumed : Ran world .user (shutChannel failed) (beginClose world failed) :=
    resumeAllOnClose_ran rfl
  have closed : ∀ notified, Ran world scope conn (noteClosed notified
      (notifyDisconnected call (beginClose world failed))) :=
    fun notified => .closing notified .refl opened fails resumed entered
  simp only [runCloseSequence]
  split
  · simp only [notifyClose]
    split
    · exact (closed true).trans (calls .close _).mono
    · exact closed false
  · exact closed false

theorem runCloseSequence_state (notifyCloseCallback : Bool) (conn : Conn) :
    (runCloseSequence world call notifyCloseCallback conn).state = .kDisconnected := by
  have begun : (beginClose world conn).state = .kDisconnected :=
    (@resumeAllOnClose_ran world .user _ rfl).disconnected rfl
  have notified : (notifyDisconnected call (beginClose world conn)).state = .kDisconnected := by
    simp only [notifyDisconnected]
    split
    · exact (calls .disconnected _).disconnected begun
    · exact begun
  simp only [runCloseSequence, notifyClose]
  split
  · split
    · exact (calls .close _).disconnected notified
    · exact notified
  · exact notified

theorem handleClose_ran (conn : Conn) : Ran world scope conn (handleClose world call conn) := by
  simp only [handleClose]
  split
  case isTrue => exact .refl
  case isFalse opened => exact runCloseSequence_ran calls true opened .close

omit calls in
theorem handleError_eq {conn : Conn} (errno : Nat) (opened : conn.state ≠ .kDisconnected) :
    handleError world call errno conn =
      runCloseSequence world call true (markPeerClosed (markError world errno conn)) := by
  have still : (markError world errno conn).state ≠ .kDisconnected := opened
  simp only [handleError, handleClose, still, ne_eq, not_false_eq_true, ↓reduceIte]

theorem handleError_ran (errno : Nat) (conn : Conn) :
    Ran world scope conn (handleError world call errno conn) := by
  by_cases disconnected : conn.state = .kDisconnected
  · have same : handleError world call errno conn = markError world errno conn := by
      have still : (markError world errno conn).state = .kDisconnected := disconnected
      simp only [handleError, still, ne_eq, not_true_eq_false, ↓reduceIte]
    rw [same]
    exact .single (.error disconnected)
  · rw [handleError_eq errno disconnected]
    exact runCloseSequence_ran calls true disconnected .error

theorem forceCloseInLoop_ran (conn : Conn) :
    Ran world scope conn (forceCloseInLoop world call conn) := by
  simp only [forceCloseInLoop]
  split
  · exact handleClose_ran calls conn
  · exact .refl

end Callbacks

theorem queueWriteComplete_ran (conn : Conn) :
    Ran world scope conn (queueWriteComplete world conn) := by
  simp only [queueWriteComplete]
  split
  · exact queueInLoop_ran _ rfl conn
  · exact .refl

theorem finishPendingWrite_ran {conn : Conn} (drained : conn.outputBuffer = []) :
    Ran world scope conn (finishPendingWrite world conn) := by
  have noticed : (queueWriteComplete world conn).outputBuffer = [] := by
    simp only [queueWriteComplete, EventLoop.queueInLoop]
    split
    · simpa using drained
    · exact drained
  have resumed := (@queueWriteComplete_ran world scope conn).trans
    (resumeWriteWaiterIfNeeded_ran noticed)
  have synced := resumed.trans (sync_ran _)
  simp only [finishPendingWrite, shutdownInLoop]
  split
  case isTrue disconnecting =>
    split
    case isTrue => exact synced
    case isFalse idle => exact synced.step (.shutdownWrite disconnecting (by simpa using idle))
  case isFalse => exact synced

theorem queueHighWaterMark_ran (oldLen newLen : Nat) (conn : Conn) :
    Ran world scope conn (queueHighWaterMark world oldLen newLen conn) := by
  simp only [queueHighWaterMark]
  split
  · exact .refl
  · split
    · exact .refl
    · exact queueInLoop_ran _ rfl conn

/-! ## Sending -/

theorem writeRaw_of_error {data : Bytes} {conn : Conn}
    (failed : (ConnectionTransport.writeRaw world data conn).1.status = .kError) :
    (ConnectionTransport.writeRaw world data conn).2 = conn := by
  unfold ConnectionTransport.writeRaw ConnectionTransport.sslWriteRaw at failed ⊢
  split at failed
  · split at failed <;> simp_all
  · split at failed
    · simp at failed
    · split at failed <;> simp_all

theorem writeRaw_outputBuffer (data : Bytes) (conn : Conn) :
    (ConnectionTransport.writeRaw world data conn).2.outputBuffer = conn.outputBuffer := by
  unfold ConnectionTransport.writeRaw ConnectionTransport.sslWriteRaw
  split
  · split <;> rfl
  · split
    · rfl
    · split <;> rfl

theorem Arrives.state_eq {origin : Origin} {data : Bytes} {before conn : Conn}
    (arrives : Arrives origin data before conn) : conn.state = before.state := by
  cases arrives <;> rfl

section Sending

variable {call : Callback → Conn → Conn}
  (calls : ∀ callback conn, Ran world .user conn (call callback conn))

include calls

theorem bufferOutput_ran (remaining : Bytes) (conn : Conn) :
    Ran world scope (appendOutput remaining conn) (bufferOutput world call remaining conn) :=
  (queueHighWaterMark_ran _ _ _).trans (apply_ran calls _ _)

theorem sendInLoop_ran {origin : Origin} {data : Bytes} {before conn : Conn}
    (arrives : Arrives origin data before conn) (opened : before.state ≠ .kDisconnected) :
    Ran world scope before (sendInLoop world call origin data conn) := by
  have arrivedOpen : conn.state ≠ .kDisconnected := by rw [arrives.state_eq]; exact opened
  simp only [sendInLoop, arrivedOpen, ↓reduceIte, Conn.emit_channel, Conn.emit_outputBuffer]
  split
  case isTrue idle =>
    have idleChannel : conn.channel.isWriting = false := by
      simpa using (Bool.and_eq_true_iff.mp idle).1
    have idleBuffer : conn.outputBuffer = [] := by
      simpa using (Bool.and_eq_true_iff.mp idle).2
    cases returned : ConnectionTransport.writeRaw world data (conn.emit (.submitted origin data)) with
    | mk result written =>
    have buffer := @writeRaw_outputBuffer world data (conn.emit (.submitted origin data))
    rw [returned] at buffer
    dsimp only
    split
    case isTrue failed =>
      have unchanged := @writeRaw_of_error world data (conn.emit (.submitted origin data)) (by rw [returned]; exact failed)
      rw [returned] at unchanged
      subst unchanged
      rw [handleError_eq _ (by simpa using arrivedOpen)]
      exact runCloseSequence_ran calls true opened (.send arrives)
    case isFalse accepted =>
      have submitted := Move.submit arrives opened (.direct idleChannel idleBuffer returned accepted)
      split
      case isTrue finished =>
        simp only [appendRest, finished, ↓reduceIte] at submitted
        exact Ran.trans (.single submitted) (finishPendingWrite_ran (buffer.trans idleBuffer))
      case isFalse unfinished =>
        simp only [appendRest, unfinished, Bool.false_eq_true, ↓reduceIte] at submitted
        exact Ran.trans (.single submitted) (bufferOutput_ran calls _ _)
  case isFalse busy =>
    have submitted : Move world before _ := .submit arrives opened (.buffered (by simpa using busy))
    split
    case isTrue nothing =>
      simp only [appendRest, nothing, ↓reduceIte] at submitted
      exact .single submitted
    case isFalse something =>
      simp only [appendRest, something, Bool.false_eq_true, ↓reduceIte] at submitted
      exact Ran.trans (.single submitted) (bufferOutput_ran calls _ _)

theorem send_ran (data : Bytes) (conn : Conn) :
    Ran world scope conn (TcpConnection.send world call data conn) := by
  simp only [TcpConnection.send]
  split
  case isTrue connected =>
    exact (sync_ran conn).trans
      (sendInLoop_ran calls (.ownerSend connected) (by rw [connected]; decide))
  case isFalse => exact sync_ran conn

end Sending

/-! ## Awaiting -/

theorem armRead_ran (synchronous : Bool) {waiter : WaiterId} {awaitable : Awaitable} {conn : Conn}
    (pending : (conn.waiters waiter).phase = .pending)
    (handle : (conn.waiters waiter).handle = some awaitable) (kind : awaitable.kind = .read)
    (noted : .arming waiter awaitable conn.state conn.inputBuffer.length ∈ conn.trace)
    {call : Callback → Conn → Conn} :
    Ran world scope conn (armKind world call synchronous waiter awaitable conn) := by
  simp only [armKind, kind, armReadWaiter]
  by_cases taken : conn.registry.readWaiter.isSome
  · simp only [taken, ↓reduceIte]
    exact armFailed_ran synchronous _ pending
  · have free : conn.registry.readWaiter = none := by simpa using taken
    have armed := @Move.armRead world conn waiter awaitable _ pending handle kind free noted rfl
    simp only [taken, Bool.false_eq_true, ↓reduceIte]
    cases ready : canReadImmediately awaitable.minBytes conn with
    | false =>
        simp only [ready, queueIf, Bool.false_eq_true, ↓reduceIte] at armed ⊢
        exact .single armed
    | true =>
        simp only [ready, queueIf, ↓reduceIte] at armed ⊢
        rw [queueResume_eq (by exact pending)]
        exact Ran.trans (.single armed) (queueInLoop_ran _ rfl _)

theorem armClose_ran (synchronous : Bool) {waiter : WaiterId} {awaitable : Awaitable} {conn : Conn}
    (pending : (conn.waiters waiter).phase = .pending)
    (handle : (conn.waiters waiter).handle = some awaitable) (kind : awaitable.kind = .close)
    {call : Callback → Conn → Conn} :
    Ran world scope conn (armKind world call synchronous waiter awaitable conn) := by
  simp only [armKind, kind, armCloseWaiter]
  by_cases taken : conn.registry.closeWaiter.isSome
  · simp only [taken, ↓reduceIte]
    exact armFailed_ran synchronous _ pending
  · have free : conn.registry.closeWaiter = none := by simpa using taken
    have armed := @Move.armClose world conn waiter awaitable _ pending handle kind free rfl
    simp only [taken, Bool.false_eq_true, ↓reduceIte]
    by_cases ready : conn.state = .kDisconnected
    · simp only [ready, queueIf, decide_true, ↓reduceIte] at armed ⊢
      rw [queueResume_eq (by exact pending)]
      exact Ran.trans (.single armed) (queueInLoop_ran _ rfl _)
    · simp only [ready, queueIf, decide_false, Bool.false_eq_true, ↓reduceIte] at armed ⊢
      exact .single armed

section Awaiting

variable {call : Callback → Conn → Conn}
  (calls : ∀ callback conn, Ran world .user conn (call callback conn))

include calls

theorem armWrite_ran (synchronous : Bool) {waiter : WaiterId} {awaitable : Awaitable} {conn : Conn}
    (pending : (conn.waiters waiter).phase = .pending)
    (handle : (conn.waiters waiter).handle = some awaitable) (kind : awaitable.kind = .write)
    {past : List Event}
    (noted : conn.trace = past ++ [.arming waiter awaitable conn.state conn.inputBuffer.length]) :
    Ran world scope conn (armKind world call synchronous waiter awaitable conn) := by
  simp only [armKind, kind, armWriteWaiter]
  by_cases taken : conn.registry.writeWaiter.isSome
  · simp only [taken, ↓reduceIte]
    exact armFailed_ran synchronous _ pending
  · have free : conn.registry.writeWaiter = none := by simpa using taken
    simp only [taken, Bool.false_eq_true, ↓reduceIte]
    by_cases ready : awaitable.data = [] ∨ conn.state = .kDisconnected
    · have readyNow : (awaitable.data.isEmpty || decide (conn.state = .kDisconnected)) = true := by
        simpa using ready
      simp only [readyNow, ↓reduceIte]
      rw [queueResume_eq (by exact pending)]
      exact Ran.trans (.single (.armWriteReady pending handle kind free ready))
        (queueInLoop_ran _ rfl _)
    · have later : (awaitable.data.isEmpty || decide (conn.state = .kDisconnected)) = false := by
        simpa using ready
      have opened : conn.state ≠ .kDisconnected := fun closed => ready (.inr closed)
      have arrives := Arrives.waiter pending handle kind (fun empty => ready (.inl empty))
        (by simp [free]) ⟨_, _, noted⟩
      have sent := @sendInLoop_ran world scope call calls _ _ _ _ arrives opened
      simp only [later, Bool.false_eq_true, ↓reduceIte]
      split
      case isTrue idle =>
        have drained := (Bool.and_eq_true_iff.mp idle).2
        exact sent.trans (resumeWriteWaiterIfNeeded_ran (by simpa using drained))
      case isFalse => exact sent

theorem armKind_ran (synchronous : Bool) {waiter : WaiterId} {awaitable : Awaitable} {conn : Conn}
    (pending : (conn.waiters waiter).phase = .pending)
    (handle : (conn.waiters waiter).handle = some awaitable)
    {past : List Event}
    (noted : conn.trace = past ++ [.arming waiter awaitable conn.state conn.inputBuffer.length]) :
    Ran world scope conn (armKind world call synchronous waiter awaitable conn) := by
  cases kind : awaitable.kind with
  | read => exact armRead_ran synchronous pending handle kind (by simp [noted])
  | write => exact armWrite_ran calls synchronous pending handle kind noted
  | close => exact armClose_ran synchronous pending handle kind

omit calls in
/-- Registration leaves the waiter's phase and handle alone. -/
theorem registerCallback_waiter {waiter : WaiterId} (token : Option TokenId) {conn : Conn}
    (armed : (conn.waiters waiter).phase ≠ .unarmed) :
    ((CancellationToken.registerCallback world waiter token conn).waiters waiter).phase =
        (conn.waiters waiter).phase ∧
      ((CancellationToken.registerCallback world waiter token conn).waiters waiter).handle =
        (conn.waiters waiter).handle := by
  have synced := (sync_sharedOnly world conn).waiters waiter armed
  cases token with
  | none => exact ⟨rfl, rfl⟩
  | some token =>
      simp only [CancellationToken.registerCallback]
      split
      · have again := (sync_sharedOnly world (sync world conn)).waiters waiter (by rw [synced]; exact armed)
        simp only [EventLoop.queueInLoop, again, synced, and_self]
      · simp only [Conn.setWaiter_waiters, Function.update_self, synced, and_self]

omit calls in
/-- A waiter queued for resumption waits in no slot. -/
theorem queueResume_settled {waiter : WaiterId} {conn : Conn}
    (pending : (conn.waiters waiter).phase = .pending) :
    ArmedSettled waiter (queueResume world waiter conn) := by
  rw [queueResume_eq pending]
  have queued : ArmedSettled waiter (markQueued waiter conn) := by
    simp [ArmedSettled, Settled, markQueued]
  exact (armedSettled waiter).ran (@queueInLoop_ran world .user _ rfl _) (by simp) queued

omit calls in
theorem armFailed_settled (synchronous : Bool) {waiter : WaiterId} (message : String) {conn : Conn}
    (pending : (conn.waiters waiter).phase = .pending) :
    ArmedSettled waiter (armFailed world synchronous waiter message conn) := by
  cases synchronous with
  | false => exact queueResume_settled (by simpa using pending)
  | true =>
      have waiters : (armFailed world true waiter message conn).waiters =
          (unregisterWaiter waiter conn).waiters := rfl
      unfold ArmedSettled Settled
      rw [waiters, unregisterWaiter_waiters, Function.update_self]
      simp [AwaiterState.abandon, pending]

/-- However the arm step ends, the waiter is queued, abandoned or in its slot. -/
theorem armKind_settled (synchronous : Bool) {waiter : WaiterId} {awaitable : Awaitable} {conn : Conn}
    (pending : (conn.waiters waiter).phase = .pending)
    (handle : (conn.waiters waiter).handle = some awaitable) {past : List Event}
    (noted : conn.trace = past ++ [.arming waiter awaitable conn.state conn.inputBuffer.length]) :
    ArmedSettled waiter (armKind world call synchronous waiter awaitable conn) := by
  have armed : (conn.waiters waiter).phase ≠ .unarmed := by rw [pending]; decide
  cases kind : awaitable.kind with
  | read =>
      simp only [armKind, kind, armReadWaiter]
      by_cases taken : conn.registry.readWaiter.isSome
      · simp only [taken, ↓reduceIte]
        exact armFailed_settled synchronous _ pending
      · simp only [taken, Bool.false_eq_true, ↓reduceIte]
        split
        · exact queueResume_settled pending
        · exact ⟨armed, fun _ => .inl rfl⟩
  | write =>
      simp only [armKind, kind, armWriteWaiter]
      by_cases taken : conn.registry.writeWaiter.isSome
      · simp only [taken, ↓reduceIte]
        exact armFailed_settled synchronous _ pending
      · simp only [taken, Bool.false_eq_true, ↓reduceIte]
        by_cases ready : awaitable.data = [] ∨ conn.state = .kDisconnected
        · have readyNow : (awaitable.data.isEmpty || decide (conn.state = .kDisconnected)) = true := by
            simpa using ready
          simp only [readyNow, ↓reduceIte]
          exact queueResume_settled pending
        · have later : (awaitable.data.isEmpty || decide (conn.state = .kDisconnected)) = false := by
            simpa using ready
          have arrives : Arrives (.waiter waiter) awaitable.data (occupyWrite waiter conn)
              (occupyWrite waiter conn) :=
            @Arrives.waiter waiter awaitable (occupyWrite waiter conn) pending handle kind
              (fun empty => ready (.inl empty)) (by simp) ⟨_, _, noted⟩
          have slot : ArmedSettled waiter (occupyWrite waiter conn) :=
            ⟨armed, fun _ => .inr (.inl rfl)⟩
          have sent := (armedSettled waiter).ran
            (@sendInLoop_ran world .user call calls _ _ _ _ arrives fun closed => ready (.inr closed))
            (by simp) slot
          simp only [later, Bool.false_eq_true, ↓reduceIte]
          split
          case isTrue idle =>
            have drained := (Bool.and_eq_true_iff.mp idle).2
            exact (armedSettled waiter).ran
              (@resumeWriteWaiterIfNeeded_ran world .user _ (by simpa using drained)) (by simp) sent
          case isFalse => exact sent
  | close =>
      simp only [armKind, kind, armCloseWaiter]
      by_cases taken : conn.registry.closeWaiter.isSome
      · simp only [taken, ↓reduceIte]
        exact armFailed_settled synchronous _ pending
      · simp only [taken, Bool.false_eq_true, ↓reduceIte]
        split
        · exact queueResume_settled pending
        · exact ⟨armed, fun _ => .inr (.inr rfl)⟩

omit calls in
/-- The state in which the `switch` of an arm step runs. -/
theorem armWaiterInLoop_ready {waiter : WaiterId} {awaitable : Awaitable} {conn : Conn}
    (pending : (conn.waiters waiter).phase = .pending)
    (captured : (conn.waiters waiter).handle = some awaitable) :
    let ready := sync world
      (CancellationToken.registerCallback world waiter awaitable.token (sync world conn))
    Ran world scope conn ready ∧ (ready.waiters waiter).phase = .pending ∧
      (ready.waiters waiter).handle = some awaitable := by
  have armed : (conn.waiters waiter).phase ≠ .unarmed := by rw [pending]; decide
  have synced := (sync_sharedOnly world conn).waiters waiter armed
  have kept := @registerCallback_waiter world waiter awaitable.token (sync world conn)
    (by rw [synced]; exact armed)
  rw [synced, pending, captured] at kept
  have again := (sync_sharedOnly world
    (CancellationToken.registerCallback world waiter awaitable.token (sync world conn))).waiters
      waiter (by rw [kept.1]; decide)
  dsimp only
  rw [again]
  exact ⟨((sync_ran conn).trans (registerCallback_ran waiter awaitable.token _)).trans (sync_ran _),
    kept⟩

theorem armWaiterInLoop_ran (synchronous : Bool) {waiter : WaiterId} {awaitable : Awaitable}
    {conn : Conn}
    (captured : (conn.waiters waiter).phase = .pending →
      (conn.waiters waiter).handle = some awaitable) :
    Ran world scope conn (armWaiterInLoop world call synchronous waiter awaitable conn) := by
  simp only [armWaiterInLoop]
  split
  case isFalse => exact .refl
  case isTrue pending =>
    obtain ⟨before, phase, handle⟩ :=
      @armWaiterInLoop_ready world scope waiter awaitable conn pending (captured pending)
    split
    · exact (sync_ran conn).trans (cancelWaiter_ran waiter _)
    · exact before.trans (Ran.trans (.single (.note rfl))
        (armKind_ran calls synchronous phase handle rfl))

theorem armWaiterInLoop_settled (synchronous : Bool) {waiter : WaiterId} {awaitable : Awaitable}
    {conn : Conn}
    (captured : (conn.waiters waiter).phase = .pending →
      (conn.waiters waiter).handle = some awaitable) :
    Settled waiter (armWaiterInLoop world call synchronous waiter awaitable conn) := by
  simp only [armWaiterInLoop]
  split
  case isFalse left => exact fun pending => absurd pending left
  case isTrue pending =>
    obtain ⟨_, phase, handle⟩ :=
      @armWaiterInLoop_ready world .user waiter awaitable conn pending (captured pending)
    split
    · have synced := (sync_sharedOnly world conn).waiters waiter (by rw [pending]; decide)
      simp only [cancelWaiter, synced, pending, ↓reduceIte]
      exact (queueResume_settled (by simp)).2
    · exact (@armKind_settled world call calls synchronous waiter awaitable (Conn.emit _ _)
        phase handle _ rfl).2

/-- The arm step, from the moment its waiter is taken. -/
theorem armWaiterInLoop_arms (synchronous : Bool) {waiter : WaiterId} {awaitable : Awaitable}
    {before conn : Conn} (takes : Takes waiter awaitable before conn)
    (captured : (conn.waiters waiter).phase = .pending →
      (conn.waiters waiter).handle = some awaitable) :
    Ran world scope before (armWaiterInLoop world call synchronous waiter awaitable conn) :=
  .arm .refl takes (armWaiterInLoop_ran calls synchronous captured)
    (armWaiterInLoop_settled calls synchronous captured)

theorem armWaiter_ran (waiter : WaiterId) (awaitable : Awaitable) (conn : Conn) :
    Ran world scope conn (TcpConnection.armWaiter world call waiter awaitable conn) := by
  simp only [TcpConnection.armWaiter]
  split
  case isTrue unarmed =>
    have captured : ((awaitPending waiter awaitable conn).waiters waiter).handle = some awaitable := by
      simp [awaitPending]
    exact armWaiterInLoop_arms calls true (.await unarmed) fun _ => captured
  case isFalse => exact .single (.note rfl)

theorem resumeWaiter_ran (waiter : WaiterId) (conn : Conn) :
    Ran world (.resume waiter) conn (TcpConnection.resumeWaiter call waiter conn) := by
  simp only [TcpConnection.resumeWaiter]
  split
  case isFalse => exact .refl
  case isTrue queued =>
    cases handle : (conn.waiters waiter).handle with
    | none => exact .resumed .refl (.complete queued handle)
    | some awaitable =>
        exact Ran.trans (.resumed .refl (.finish queued handle)) (calls _ _).mono

end Awaiting

/-! ## Operations and functors -/

theorem shutdown_ran (conn : Conn) : Ran world scope conn (TcpConnection.shutdown world conn) := by
  simp only [TcpConnection.shutdown]
  split
  case isFalse => exact sync_ran conn
  case isTrue connected =>
    have begun := (@sync_ran world scope conn).step (.beginShutdown connected)
    simp only [shutdownInLoop]
    split
    case isTrue => exact begun
    case isFalse idle => exact begun.step (.shutdownWrite rfl (by simpa using idle))

section Operations

variable {call : Callback → Conn → Conn}
  (calls : ∀ callback conn, Ran world .user conn (call callback conn))

include calls

theorem connectDestroyed_ran (conn : Conn) :
    Ran world scope conn (TcpConnection.connectDestroyed world call conn) := by
  have found := (@sync_ran world scope conn).step
    (@Move.note world _ (.checkpoint .connectDestroyed (sync world conn).state) rfl)
  simp only [TcpConnection.connectDestroyed]
  split
  case isTrue connected =>
    have opened : (sync world conn).state ≠ .kDisconnected := by
      intro closed
      rw [closed] at connected
      cases connected
    have closed := runCloseSequence_state calls false
      (markPeerClosed ((sync world conn).emit (.checkpoint .connectDestroyed (sync world conn).state)))
    have removed := (found.trans (runCloseSequence_ran calls false opened .close)).step
      (.unregisterChannel (.inl closed))
    refine removed.step (.destroyed ?_)
    rw [unregisterChannel_state, if_pos connected]
    exact closed
  case isFalse unconnected =>
    refine (found.step (.unregisterChannel ?_)).step (.destroyed ?_)
    · by_cases closed : (sync world conn).state = .kDisconnected
      · exact .inl closed
      · exact .inr ⟨_, by simp, unconnected, closed⟩
    · rw [unregisterChannel_state, if_neg unconnected]
      rfl

theorem setBackpressurePolicy_ran (high low : Nat) (conn : Conn) :
    Ran world scope conn (TcpConnection.setBackpressurePolicy call high low conn) := by
  simp only [TcpConnection.setBackpressurePolicy]
  split
  · exact configure_ran calls high low _ conn
  · exact .refl

theorem Op.perform_ran (op : Op) (conn : Conn) :
    Ran world scope conn (op.perform world call conn) := by
  cases op with
  | send data => exact send_ran calls data conn
  | shutdown => exact shutdown_ran conn
  | forceClose => exact forceCloseInLoop_ran calls conn
  | setBackpressurePolicy high low => exact setBackpressurePolicy_ran calls high low conn
  | setCallbacks callbacks => exact .single .callbacks
  | await waiter awaitable => exact armWaiter_ran calls waiter awaitable conn
  | destroyAwaitable waiter => exact abandonWaiter_ran waiter conn
  | cancel token => exact cancel_ran token conn
  | connectDestroyed => exact connectDestroyed_ran calls conn
  | queueInLoop label => exact queueInLoop_ran _ rfl conn
  | modifyInput contents => exact .single .modifyInput

/-- The next functor of the queue. What an arming functor captured is still the
awaitable at which its coroutine is suspended. -/
theorem Functor.run_ran {functor : Functor} {rest : List Functor} {conn : Conn}
    (queued : conn.queue = functor :: rest)
    (captured : ∀ waiter awaitable, functor = .armWaiter waiter awaitable →
      (conn.waiters waiter).phase = .pending →
      (conn.waiters waiter).handle = some awaitable) :
    Ran world functor.scope conn (functor.run world call { conn with queue := rest }) := by
  cases functor with
  | sendInLoop data =>
      by_cases disconnected : conn.state = .kDisconnected
      · have dropped : TcpConnection.sendInLoop world call .queuedSend data { conn with queue := rest } =
            { conn with queue := rest } := by
          simp only [TcpConnection.sendInLoop, disconnected, ↓reduceIte]
        rw [Functor.run, dropped]
        exact .single (.dequeue queued (by simp) (by simp) fun _ _ => disconnected)
      · exact sendInLoop_ran calls (.queuedSend queued) disconnected
  | shutdownInLoop =>
      simp only [Functor.run, TcpConnection.shutdownInLoop]
      split
      case isTrue writing => exact .single (.dequeue queued (fun _ => writing) (by simp) (by simp))
      case isFalse idle => exact .single (.dequeueShutdown queued (by simpa using idle))
  | forceCloseInLoop =>
      exact Ran.trans (.single (.dequeue queued (by simp) (by simp) (by simp))) (forceCloseInLoop_ran calls _)
  | setBackpressurePolicyInLoop high low =>
      exact Ran.trans (.single (.dequeue queued (by simp) (by simp) (by simp))) (configure_ran calls high low _ _)
  | armWaiter waiter awaitable =>
      exact armWaiterInLoop_arms calls false (.dequeue queued) (captured waiter awaitable rfl)
  | cancelWaiter waiter =>
      exact Ran.trans (.single (.dequeue queued (by simp) (by simp) (by simp))) (cancelWaiter_ran waiter _)
  | resumeWaiter waiter =>
      exact Ran.trans (.single (.dequeue queued (by simp) (by simp) (by simp))) (resumeWaiter_ran calls waiter _)
  | writeComplete =>
      exact Ran.trans (.single (.dequeue queued (by simp) (by simp) (by simp))) (invoke_routine_ran calls rfl _)
  | highWaterMark bufferedBytes =>
      exact Ran.trans (.single (.dequeue queued (by simp) (by simp) (by simp))) (invoke_routine_ran calls rfl _)
  | connectDestroyed =>
      exact Ran.trans (.single (.dequeue queued (by simp) (by simp) (by simp))) (connectDestroyed_ran calls _)
  | user label =>
      exact Ran.trans (.single (.dequeue queued (by simp) (by simp) (by simp))) (invoke_routine_ran calls rfl _)

end Operations

/-- User callbacks make only the moves of user code, however deep they nest. -/
theorem World.call_ran (world : World) (depth : Nat) (callback : Callback) (conn : Conn) :
    Ran world .user conn (world.call depth callback conn) :=
  Reentry.Within.reenter (fun _ => .refl) .trans
    (fun _ calls op conn => Op.perform_ran calls op conn) depth callback conn

end MiniTrantor.Net
