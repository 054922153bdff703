import MiniTrantor.Net.Connection.Awaiters
import MiniTrantor.Net.Connection.Transport

/-!
# TcpConnection

The member functions of `TcpConnection` and of the helpers that run user code,
as state transformers. `call` is what running a user callback does.
-/

set_option autoImplicit false

namespace MiniTrantor.Net

variable (world : World) (call : Callback → Conn → Conn)

/-- Enter a callback that is set. -/
def invoke (callback : Callback) (conn : Conn) : Conn :=
  call callback (conn.emit (.callback callback))

namespace ConnectionCallbackDispatcher

def notifyConnected (conn : Conn) : Conn :=
  let conn := conn.emit (.callback .connected)
  if conn.callbacks.connection then call .connected conn else conn

def notifyDisconnected (conn : Conn) : Conn :=
  let conn := conn.emit (.callback .disconnected)
  if conn.callbacks.connection then call .disconnected conn else conn

def notifyMessage (suppressed : Bool) (conn : Conn) : Conn :=
  if conn.callbacks.message && !suppressed then invoke call .message conn else conn

def queueWriteComplete (conn : Conn) : Conn :=
  if conn.callbacks.writeComplete then EventLoop.queueInLoop world .writeComplete conn else conn

def queueHighWaterMark (oldLen newLen : Nat) (conn : Conn) : Conn :=
  let mark := conn.callbacks.highWaterMarkBytes
  if !conn.callbacks.highWaterMark || mark = 0 then conn
  else if oldLen ≥ mark || newLen < mark then conn
  else EventLoop.queueInLoop world (.highWaterMark newLen) conn

def notifyClose (conn : Conn) : Conn :=
  if conn.callbacks.close then invoke call .close conn else conn

end ConnectionCallbackDispatcher

namespace ConnectionBackpressureController

def setReading (enabled : Bool) (conn : Conn) : Conn :=
  let conn := { conn with backpressure := { conn.backpressure with readingEnabled := enabled } }
  conn.updateChannel (if enabled then Channel.enableReading else Channel.disableReading)

def fire (event : BackpressureEvent) (bufferedBytes : Nat) (conn : Conn) : Conn :=
  if conn.callbacks.backpressureEvent then
    invoke call (.backpressure event bufferedBytes) conn
  else conn

def apply (bufferedBytes : Nat) (conn : Conn) : Conn :=
  let policy := conn.backpressure
  if !policy.active then conn
  else if policy.highWaterMark = 0 then
    if !policy.readingEnabled then setReading true conn else conn
  else if policy.readingEnabled && bufferedBytes ≥ policy.highWaterMark then
    fire call .readPaused bufferedBytes (setReading false conn)
  else if !policy.readingEnabled && bufferedBytes ≤ policy.lowWaterMark then
    fire call .readResumed bufferedBytes (setReading true conn)
  else conn

def configure (highWaterMark lowWaterMark bufferedBytes : Nat) (conn : Conn) : Conn :=
  apply call bufferedBytes
    { conn with backpressure := { conn.backpressure with highWaterMark, lowWaterMark } }

def onConnectionEstablished (bufferedBytes : Nat) (conn : Conn) : Conn :=
  apply call bufferedBytes
    { conn with backpressure := { conn.backpressure with active := true, readingEnabled := true } }

def onBufferedBytesChanged (bufferedBytes : Nat) (conn : Conn) : Conn :=
  apply call bufferedBytes conn

def onClosed (conn : Conn) : Conn :=
  { conn with backpressure := { conn.backpressure with active := false, readingEnabled := false } }

end ConnectionBackpressureController

namespace TcpConnection

open ConnectionAwaiterRegistry ConnectionBackpressureController ConnectionCallbackDispatcher
open ConnectionTransport (handshakePending)

def applyBackpressurePolicy (conn : Conn) : Conn :=
  onBufferedBytesChanged call conn.outputBuffer.length conn

/-- `runCloseSequence` up to the call of `resumeAllOnClose`. -/
def shutChannel (conn : Conn) : Conn :=
  let conn := conn.setState .kDisconnected
  let conn := onClosed conn
  (conn.updateChannel Channel.disableAll).emit .channelClosed

/-- `runCloseSequence` up to the entry of the connection callback. -/
def beginClose (conn : Conn) : Conn :=
  resumeAllOnClose world (shutChannel conn)

def runCloseSequence (notifyCloseCallback : Bool) (conn : Conn) : Conn :=
  let conn := notifyDisconnected call (beginClose world conn)
  if notifyCloseCallback then notifyClose call conn else conn

/-- The reason a close records when no error was recorded before. -/
def markPeerClosed (conn : Conn) : Conn :=
  { conn with closeReason := if conn.closeReason = .kNone then .kPeerClosed else conn.closeReason }

def handleClose (conn : Conn) : Conn :=
  if conn.state = .kDisconnected then conn
  else runCloseSequence world call true (markPeerClosed conn)

/-- `handleError` up to its test of the state. -/
def markError (savedErrno : Nat) (conn : Conn) : Conn :=
  let error := if savedErrno ≠ 0 then savedErrno else world.socketError conn
  { conn.emit (.loggedError error) with closeReason := .kError }

def handleError (savedErrno : Nat) (conn : Conn) : Conn :=
  let conn := markError world savedErrno conn
  if conn.state ≠ .kDisconnected then handleClose world call conn else conn

def shutdownInLoop (conn : Conn) : Conn :=
  if conn.channel.isWriting then conn else ConnectionTransport.shutdownWrite conn

def finishPendingWrite (conn : Conn) : Conn :=
  let conn := queueWriteComplete world conn
  let conn := resumeWriteWaiterIfNeeded world conn
  let conn := sync world conn
  if conn.state = .kDisconnecting then shutdownInLoop conn else conn

/-- `Buffer::append` on the output buffer and the write interest that follows. -/
def appendOutput (data : Bytes) (conn : Conn) : Conn :=
  let conn := { conn with outputBuffer := conn.outputBuffer ++ data }
  if conn.channel.isWriting then conn else conn.updateChannel Channel.enableWriting

/-- The last block of `sendInLoop`, for the bytes not written directly. -/
def bufferOutput (remaining : Bytes) (conn : Conn) : Conn :=
  let oldLen := conn.outputBuffer.length
  let conn := appendOutput remaining conn
  let conn := queueHighWaterMark world oldLen conn.outputBuffer.length conn
  applyBackpressurePolicy call conn

def sendInLoop (origin : Origin) (data : Bytes) (conn : Conn) : Conn :=
  if conn.state = .kDisconnected then conn
  else
    let conn := conn.emit (.submitted origin data)
    if !conn.channel.isWriting && conn.outputBuffer.isEmpty then
      let (result, conn) := ConnectionTransport.writeRaw world data conn
      if result.status = .kError then handleError world call result.savedErrno conn
      else
        let remaining := data.drop result.bytes
        if remaining.isEmpty then finishPendingWrite world conn
        else bufferOutput world call remaining conn
    else if data.isEmpty then conn
    else bufferOutput world call data conn

def forceCloseInLoop (conn : Conn) : Conn :=
  if conn.state = .kConnected ∨ conn.state = .kDisconnecting then handleClose world call conn
  else conn

def setBackpressurePolicyInLoop (highWaterMark lowWaterMark : Nat) (conn : Conn) : Conn :=
  configure call highWaterMark lowWaterMark conn.outputBuffer.length conn

def fireTlsEvent (event : TlsEvent) (conn : Conn) : Conn :=
  if conn.callbacks.tlsEvent then invoke call (.tls event) conn else conn

def advanceTransportHandshake (conn : Conn) : Conn :=
  let conn := conn.emit (.checkpoint .handshake conn.state)
  let (result, conn) := ConnectionTransport.advanceHandshake world conn
  if result.failed then
    handleError world call result.savedErrno (fireTlsEvent call .handshakeFailed conn)
  else if result.completed then
    let conn := fireTlsEvent call .handshakeCompleted conn
    notifyConnected call (conn.emit (.checkpoint .notifyConnected conn.state))
  else conn

def handleRead (conn : Conn) : Conn :=
  if handshakePending conn then advanceTransportHandshake world call conn
  else
    let conn := conn.emit (.checkpoint .handleRead conn.state)
    let hasReadWaiter := conn.registry.readWaiter.isSome
    let (result, conn) := ConnectionTransport.readInto world conn
    match result.status with
    | .kOk =>
        let conn := resumeReadWaiterIfSatisfied world conn.inputBuffer.length conn
        notifyMessage call hasReadWaiter conn
    | .kPeerClosed => handleClose world call conn
    | .kError => handleError world call result.savedErrno conn
    | .kWouldBlock => conn

def handleWrite (conn : Conn) : Conn :=
  if handshakePending conn then advanceTransportHandshake world call conn
  else if !conn.channel.isWriting then conn
  else
    let conn := conn.emit (.draining conn.outputBuffer.length)
    let (result, conn) := ConnectionTransport.writeFromBuffer world conn
    match result.status with
    | .kError => handleError world call result.savedErrno conn
    | .kOk =>
        let conn := applyBackpressurePolicy call conn
        if conn.outputBuffer.isEmpty then
          let conn := conn.emit (.checkpoint .drained conn.state)
          finishPendingWrite world (conn.updateChannel Channel.disableWriting)
        else conn
    | .kPeerClosed | .kWouldBlock => conn

/-- `Channel::handleEventWithGuard` with this connection's handlers. -/
def handleEventWithGuard (revents : EventMask) (conn : Conn) : Conn :=
  let conn := if revents.close && !revents.read then handleClose world call conn else conn
  let conn := if revents.error then handleError world call 0 conn else conn
  let conn := if revents.read then handleRead world call conn else conn
  if revents.write then handleWrite world call conn else conn

def canReadImmediately (minBytes : Nat) (conn : Conn) : Bool :=
  conn.inputBuffer.length ≥ minBytes || conn.state ≠ .kConnected

def consumeReadableBytes (minBytes : Nat) (conn : Conn) : Bytes × Conn :=
  if conn.inputBuffer.isEmpty then ([], conn)
  else if conn.inputBuffer.length < minBytes ∧ conn.state = .kConnected then ([], conn)
  else (conn.inputBuffer, { conn with inputBuffer := [] })

def closeError (conn : Conn) : NetError :=
  if conn.closeReason = .kError then .connectionReset else .peerClosed

def resumeReadAwait (minBytes : Nat) (conn : Conn) : AwaitResult × Conn :=
  if conn.state = .kDisconnected ∧ conn.inputBuffer.isEmpty then (.error (closeError conn), conn)
  else
    let (data, conn) := consumeReadableBytes minBytes conn
    (.value data, conn)

def resumeWriteAwait (conn : Conn) : AwaitResult :=
  if conn.state = .kDisconnected then .error (closeError conn) else .done

def resumeCloseAwait : AwaitResult := .done

/-- `await_resume` of the awaitable that owns the waiter. -/
def awaitResume (waiter : WaiterId) (awaitable : Awaitable) (conn : Conn) : AwaitResult × Conn :=
  let conn := unregisterWaiter waiter conn
  match (conn.waiters waiter).failure with
  | some message => (.threw message, conn)
  | none =>
      if (conn.waiters waiter).outcome = .cancelled then (.error .cancelled, conn)
      else
        match awaitable.kind with
        | .read => resumeReadAwait awaitable.minBytes conn
        | .write => (resumeWriteAwait conn, conn)
        | .close => (resumeCloseAwait, conn)

/-- The functor that `queueResume` pushes. -/
def resumeWaiter (waiter : WaiterId) (conn : Conn) : Conn :=
  let state := conn.waiters waiter
  if state.phase = .queued then
    let conn := CancellationToken.resetRegistration waiter
      (conn.setWaiter waiter { state with phase := .completed, handle := none })
    match state.handle with
    | none => conn
    | some awaitable =>
        let (result, conn) := awaitResume waiter awaitable conn
        invoke call (.resumed waiter result)
          (conn.emit (.awaitFinished waiter awaitable conn.state result))
  else conn

/-- The `catch` block of `armWaiter`. -/
def armFailed (synchronous : Bool) (waiter : WaiterId) (message : String) (conn : Conn) : Conn :=
  if synchronous then
    ((unregisterWaiter waiter conn).emit (.abandoned waiter)).emit (.awaitThrew waiter message)
  else failWaiter world waiter message conn

/-- The `switch` of `armWaiter`. -/
def armKind (synchronous : Bool) (waiter : WaiterId) (awaitable : Awaitable) (conn : Conn) : Conn :=
  match awaitable.kind with
  | .read =>
      match armReadWaiter world waiter awaitable.minBytes
          (canReadImmediately awaitable.minBytes conn) conn with
      | .ok conn => conn
      | .error message => armFailed world synchronous waiter message conn
  | .write =>
      let ready := awaitable.data.isEmpty || conn.state = .kDisconnected
      match armWriteWaiter world waiter ready conn with
      | .ok conn =>
          if ready then conn
          else
            let conn := sendInLoop world call (.waiter waiter) awaitable.data conn
            if !conn.channel.isWriting && conn.outputBuffer.isEmpty then
              resumeWriteWaiterIfNeeded world conn
            else conn
      | .error message => armFailed world synchronous waiter message conn
  | .close =>
      match armCloseWaiter world waiter (conn.state = .kDisconnected) conn with
      | .ok conn => conn
      | .error message => armFailed world synchronous waiter message conn

/-- The functor that `armWaiter` runs on the owner loop. -/
def armWaiterInLoop (synchronous : Bool) (waiter : WaiterId) (awaitable : Awaitable)
    (conn : Conn) : Conn :=
  if (conn.waiters waiter).phase = .pending then
    let conn := sync world conn
    if CancellationToken.isCancellationRequested awaitable.token conn then
      cancelWaiter world waiter conn
    else
      let conn := CancellationToken.registerCallback world waiter awaitable.token conn
      let conn := sync world conn
      armKind world call synchronous waiter awaitable
        (conn.emit (.arming waiter awaitable conn.state conn.inputBuffer.length))
  else conn

/-- `armWaiter` on the owner thread. -/
def armWaiter (waiter : WaiterId) (awaitable : Awaitable) (conn : Conn) : Conn :=
  if (conn.waiters waiter).phase = .unarmed then
    armWaiterInLoop world call true waiter awaitable
      (conn.setWaiter waiter
        { conn.waiters waiter with handle := some awaitable, phase := .pending })
  else conn.emit (.awaitThrew waiter "a TCP awaitable can only be awaited once")

def abandonWaiter (waiter : WaiterId) (conn : Conn) : Conn :=
  let phase := (conn.waiters waiter).phase
  if phase = .pending ∨ phase = .queued then
    (unregisterWaiter waiter conn).emit (.abandoned waiter)
  else conn

def send (data : Bytes) (conn : Conn) : Conn :=
  let conn := sync world conn
  if conn.state = .kConnected then
    sendInLoop world call .ownerSend data (conn.emit (.accepted data))
  else conn

def shutdown (conn : Conn) : Conn :=
  let conn := sync world conn
  if conn.state = .kConnected then
    shutdownInLoop (conn.setState .kDisconnecting)
  else conn

def forceClose (conn : Conn) : Conn :=
  forceCloseInLoop world call conn

def setBackpressurePolicy (highWaterMark lowWaterMark : Nat) (conn : Conn) : Conn :=
  match validateThresholds highWaterMark lowWaterMark with
  | .ok () => setBackpressurePolicyInLoop call highWaterMark lowWaterMark conn
  | .error _ => conn

def startTls (conn : Conn) : Conn :=
  ConnectionTransport.enableTls world conn

def connectEstablished (conn : Conn) : Conn :=
  let conn := conn.emit (.checkpoint .connectEstablished conn.state)
  let conn := { conn.setState .kConnected with closeReason := .kNone }
  let conn := conn.updateChannel Channel.enableReading
  let conn := onConnectionEstablished call conn.outputBuffer.length conn
  if handshakePending conn then advanceTransportHandshake world call conn
  else notifyConnected call (conn.emit (.checkpoint .notifyConnected conn.state))

/-- The end of `connectDestroyed`, after the close sequence. -/
def unregisterChannel (conn : Conn) : Conn :=
  let conn :=
    if conn.channel.events ≠ .none then conn.updateChannel Channel.disableAll else conn
  match conn.channel.remove with
  | .ok channel => { conn with channel }.emit .removed
  | .error _ => conn

def connectDestroyed (conn : Conn) : Conn :=
  let conn := sync world conn
  let found := conn.state
  let conn := conn.emit (.checkpoint .connectDestroyed found)
  let conn := unregisterChannel
    (if found = .kConnected then runCloseSequence world call false (markPeerClosed conn)
    else conn)
  conn.emit (.destroyed found conn.state conn.waiting)

end TcpConnection

end MiniTrantor.Net
