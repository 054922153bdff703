import MiniTrantor.Net.Session.Buffer
import MiniTrantor.Net.Connection.Transport

/-!
# A connection between its callbacks

`TcpConnection` once more, for what depends on the moment at which a callback
runs and on each single call of OpenSSL: a function is given up to the callback
that it enters, and what is left to do after the callback is kept on a stack.
Awaitables are left out but for what they send, and so is the input buffer.

The callback of a connection is the wrapper that `TcpServer::newConnection` and
`TcpClient::newConnection` set, which asks for the state once for the hook of
connection events and leaves it to the user's callback to ask again.
-/

set_option autoImplicit false

namespace MiniTrantor.Net

namespace Session

/-- Which callbacks are set. -/
structure Hooks where
  connectionEvent : Bool := false
  connection : Bool := false
  message : Bool := false
  close : Bool := false
  backpressureEvent : Bool := false
  tlsEvent : Bool := false
  deriving DecidableEq, Repr

/-- What the wrapper is called for, and whether it is in the course of `connectDestroyed`. -/
inductive Notice where
  | connected
  | disconnected (destroying : Bool)
  deriving DecidableEq, Repr

/-- The function that has applied the backpressure policy. -/
inductive Applying where
  | connectEstablished
  | handleWrite
  | last
  deriving DecidableEq, Repr

/-- What is left to do when a callback returns, and whether there is one. The hook of
backpressure events has an event. -/
inductive Frame where
  | applied (function : Applying) (event : Option BackpressureEvent)
  | handshakeFailed (errno : Nat) (runs : Bool)
  | handshakeCompleted (runs : Bool)
  | notify (notice : Notice)
  | connectionEvent (notice : Notice) (runs : Bool)
  | connectionCallback (notice : Notice) (runs : Bool)
  | close (runs : Bool)
  | message (runs : Bool)
  deriving DecidableEq, Repr

def Frame.runs : Frame → Bool
  | .notify _ => false
  | .applied _ event => event.isSome
  | .handshakeFailed _ runs | .handshakeCompleted runs
  | .connectionEvent _ runs | .connectionCallback _ runs | .close runs | .message runs => runs

/-- Functors that other threads queue. -/
inductive Functor where
  | sendInLoop (pointer : Nat) (data : Bytes)
  | shutdownInLoop
  | forceCloseInLoop
  | setBackpressurePolicyInLoop (highWaterMark lowWaterMark : Nat)
  | connectDestroyed
  deriving DecidableEq, Repr

/-- Handlers of one event of the channel that are still to be run. -/
inductive Handler where
  | handleClose
  | handleError
  | handleRead
  | handleWrite
  deriving DecidableEq, Repr

inductive Event where
  | sslDoHandshake (result : Option SslError)
  | sslRead (result : SslError)
  | sslWrite (address : Address) (data : Bytes) (length : Int) (result : Except SslError Nat)
  /-- `sockets::write` was given the data. -/
  | write (data : Bytes)
  | notifyConnected
  | connectionEvent (connected : Bool)
  | connectionCallback (connected : Bool)
  | destroyed

/-- What the system calls of one step return. -/
structure Calls where
  write : Bytes → WriteReturn := fun data => .wrote data.length
  read : ReadReturn := .bytes []
  sslDoHandshake : Option SslError := none
  /-- The results of `SSL_read` up to the first that is not positive. -/
  sslRead : List Bytes × SslError := ([], .wantRead)
  /-- The result of each call of `SSL_write`, by the bytes that are left to write. -/
  sslWrite : Bytes → Int → Except SslError Nat := fun _ length =>
    if 0 < length then .ok length.toNat else .error (.fatal 0)

end Session

open Session in
structure Session where
  state : StateE := .kConnecting
  ssl : Bool := false
  tlsState : TlsState := .kTlsNone
  channel : Channel := {}
  outputBuffer : Buffer := {}
  backpressure : Backpressure := {}
  hooks : Hooks := {}
  queue : List Session.Functor := []
  handlers : List Handler := []
  stack : List Session.Frame := []
  trace : List Session.Event := []

namespace Session

def emit (event : Event) (session : Session) : Session :=
  { session with trace := session.trace ++ [event] }

def push (frame : Frame) (session : Session) : Session :=
  { session with stack := frame :: session.stack }

def updateChannel (change : Channel → Channel) (session : Session) : Session :=
  { session with channel := change session.channel }

/-- `std::numeric_limits<int>::max()` -/
def maxInt : Nat := 2 ^ 31 - 1

/-- `TcpConnection::startTls`, which does not look at what `enableTls` returns. -/
def startTls (fd : Nat) (sslNew : Bool) (session : Session) : Session :=
  if !sslNew then { session with ssl := false, tlsState := .kTlsNone }
  else if fd > maxInt then { session with ssl := false, tlsState := .kTlsNone }
  else { session with ssl := true, tlsState := .kTlsHandshaking }

def handshakePending (session : Session) : Bool :=
  session.ssl && session.tlsState == .kTlsHandshaking

def setReading (enabled : Bool) (session : Session) : Session :=
  { session with backpressure :=
      { session.backpressure with readingEnabled := enabled } }.updateChannel
        (if enabled then Channel.enableReading else Channel.disableReading)

/-- The hook is called if it is set. -/
def fire (function : Applying) (event : BackpressureEvent) (session : Session) : Session :=
  session.push (.applied function (if session.hooks.backpressureEvent then some event else none))

/-- `ConnectionBackpressureController::apply` with the function that goes on after it. -/
def apply (function : Applying) (session : Session) : Session :=
  let policy := session.backpressure
  let bufferedBytes := session.outputBuffer.readableBytes
  if !policy.active then session.push (.applied function none)
  else if policy.highWaterMark = 0 then
    (if !policy.readingEnabled then session.setReading true else session).push
      (.applied function none)
  else if policy.readingEnabled && bufferedBytes ≥ policy.highWaterMark then
    (session.setReading false).fire function .readPaused
  else if !policy.readingEnabled && bufferedBytes ≤ policy.lowWaterMark then
    (session.setReading true).fire function .readResumed
  else session.push (.applied function none)

/-- `connectEstablished` up to the call of `onConnectionEstablished`. -/
def connectEstablished (session : Session) : Session :=
  { session.updateChannel Channel.enableReading with
    state := .kConnected
    backpressure :=
      { session.backpressure with active := true, readingEnabled := true } }.apply
        .connectEstablished

def notifyConnected (session : Session) : Session :=
  (session.emit .notifyConnected).push (.notify .connected)

/-- `runCloseSequence` up to the connection callback. -/
def runCloseSequence (destroying : Bool) (session : Session) : Session :=
  { session.updateChannel Channel.disableAll with
    state := .kDisconnected
    backpressure :=
      { session.backpressure with active := false, readingEnabled := false } }.push
        (.notify (.disconnected destroying))

def handleClose (session : Session) : Session :=
  if session.state = .kDisconnected then session else session.runCloseSequence false

/-- The error number is only logged. -/
def handleError (session : Session) : Session := session.handleClose

/-- The end of `connectDestroyed`. -/
def unregisterChannel (session : Session) : Session :=
  { session with channel := { session.channel with events := .none, addedToLoop := false } }.emit
    .destroyed

def connectDestroyed (session : Session) : Session :=
  if session.state = .kConnected then session.runCloseSequence true else session.unregisterChannel

def shutdownInLoop (session : Session) : Session :=
  if session.channel.isWriting then session
  else if session.ssl && session.tlsState == .kTlsEstablished then
    { session with tlsState := .kTlsShuttingDown }
  else session

def finishPendingWrite (session : Session) : Session :=
  if session.state = .kDisconnecting then session.shutdownInLoop else session

/-- The call of `SSL_write` with a result it can have: at least one byte and at most
those it was given. -/
def sslWrite (calls : Calls) (address : Address) (data : Bytes) (session : Session) :
    Except SslError Nat × Session :=
  let length := ConnectionTransport.toInt data.length
  let result :=
    match calls.sslWrite data length with
    | .ok count => if 0 < count ∧ (count : Int) ≤ length then .ok count else .error (.fatal 0)
    | .error error => .error error
  (result, session.emit (.sslWrite address data length result))

/-- `sslWriteRaw` with what is left of the data, unless it failed. -/
def sslWriteRaw (calls : Calls) (pointer : Nat) (data : Bytes) (session : Session) :
    Option Bytes × Session :=
  match session.sslWrite calls (.caller pointer) data with
  | (.ok count, session) => (some (data.drop count), session)
  | (.error .wantWrite, session) => (some data, session)
  | (.error .wantRead, session) => (some data, session.updateChannel Channel.enableReading)
  | (.error _, session) => (none, session)

def writeRaw (calls : Calls) (pointer : Nat) (data : Bytes) (session : Session) :
    Option Bytes × Session :=
  if session.ssl then session.sslWriteRaw calls pointer data
  else
    match calls.write data with
    | .wrote count => (some (data.drop count), session.emit (.write data))
    | .failed errno =>
        (if sockets.isWouldBlock errno then some data else none, session.emit (.write data))

/-- The last block of `sendInLoop`. -/
def bufferOutput (remaining : Bytes) (session : Session) : Session :=
  let session := { session with outputBuffer := session.outputBuffer.append remaining }
  (if session.channel.isWriting then session
    else session.updateChannel Channel.enableWriting).apply .last

def sendInLoop (calls : Calls) (pointer : Nat) (data : Bytes) (session : Session) : Session :=
  if session.state = .kDisconnected then session
  else if !session.channel.isWriting && session.outputBuffer.readableBytes = 0 then
    match session.writeRaw calls pointer data with
    | (none, session) => session.handleError
    | (some [], session) => session.finishPendingWrite
    | (some remaining, session) => session.bufferOutput remaining
  else if data.isEmpty then session
  else session.bufferOutput data

/-- How a write from the buffer ended: with an error, without progress, with some. -/
inductive Drain where
  | failed
  | blocked
  | progress
  deriving DecidableEq, Repr

def Drain.of (totalWritten : Nat) : Drain := if totalWritten > 0 then .progress else .blocked

/-- The loop of `sslWriteFromBuffer`. Each call that succeeds takes at least one byte,
so the bytes in the buffer bound the number of calls. -/
def sslWriteLoop (calls : Calls) : Nat → Nat → Session → Drain × Session
  | 0, totalWritten, session => (.of totalWritten, session)
  | fuel + 1, totalWritten, session =>
      if session.outputBuffer.readableBytes = 0 then (.of totalWritten, session)
      else
        match session.sslWrite calls session.outputBuffer.peek session.outputBuffer.readable with
        | (.ok count, session) =>
            sslWriteLoop calls fuel (totalWritten + count)
              { session with outputBuffer := session.outputBuffer.retrieve count }
        | (.error .wantWrite, session) => (.of totalWritten, session)
        | (.error .wantRead, session) =>
            (.of totalWritten, session.updateChannel Channel.enableReading)
        | (.error _, session) =>
            (if totalWritten > 0 then .progress else .failed, session)

def writeFromBuffer (calls : Calls) (session : Session) : Drain × Session :=
  if session.ssl then sslWriteLoop calls session.outputBuffer.readableBytes 0 session
  else
    let session := session.emit (.write session.outputBuffer.readable)
    match calls.write session.outputBuffer.readable with
    | .wrote 0 => (.failed, session)
    | .wrote count =>
        (.progress, { session with outputBuffer := session.outputBuffer.retrieve count })
    | .failed errno => (if sockets.isWouldBlock errno then .blocked else .failed, session)

/-- `advanceTransportHandshake` up to its hook. -/
def advanceTransportHandshake (calls : Calls) (session : Session) : Session :=
  let session := session.emit (.sslDoHandshake calls.sslDoHandshake)
  match calls.sslDoHandshake with
  | none =>
      ({ session with tlsState := .kTlsEstablished }.updateChannel Channel.disableWriting).push
        (.handshakeCompleted session.hooks.tlsEvent)
  | some .wantRead =>
      if session.channel.isReading then session
      else session.updateChannel Channel.enableReading
  | some .wantWrite => session.updateChannel Channel.enableWriting
  | some .zeroReturn => session.push (.handshakeFailed 0 session.hooks.tlsEvent)
  | some (.fatal errno) => session.push (.handshakeFailed errno session.hooks.tlsEvent)

def sslReadIntoBuffer (calls : Calls) (session : Session) : Session :=
  let session := session.emit (.sslRead calls.sslRead.2)
  let received := session.push (.message session.hooks.message)
  let empty := (calls.sslRead.1.map List.length).sum = 0
  match calls.sslRead.2 with
  | .wantRead => if empty then session else received
  | .wantWrite => (if empty then session else received).updateChannel Channel.enableWriting
  | .zeroReturn => if empty then session.handleClose else received
  | .fatal _ => if empty then session.handleError else received

def handleRead (calls : Calls) (session : Session) : Session :=
  if session.handshakePending then session.advanceTransportHandshake calls
  else if session.ssl then session.sslReadIntoBuffer calls
  else
    match calls.read with
    | .bytes [] => session.handleClose
    | .bytes _ => session.push (.message session.hooks.message)
    | .failed errno => if sockets.isWouldBlock errno then session else session.handleError

/-- `handleWrite` up to the call of `applyBackpressurePolicy`. -/
def handleWrite (calls : Calls) (session : Session) : Session :=
  if session.handshakePending then session.advanceTransportHandshake calls
  else if !session.channel.isWriting then session
  else
    match session.writeFromBuffer calls with
    | (.failed, session) => session.handleError
    | (.progress, session) => session.apply .handleWrite
    | (.blocked, session) => session

/-- The rest of `handleWrite`. -/
def wrote (session : Session) : Session :=
  if session.outputBuffer.readableBytes = 0 then
    (session.updateChannel Channel.disableWriting).finishPendingWrite
  else session

/-- The wrapper of the connection callback, up to the hook of connection events. -/
def wrapper (notice : Notice) (session : Session) : Session :=
  (if session.hooks.connectionEvent then
    session.emit (.connectionEvent (session.state = .kConnected))
  else session).push (.connectionEvent notice session.hooks.connectionEvent)

/-- The rest of the wrapper. -/
def callUser (notice : Notice) (session : Session) : Session :=
  (if session.hooks.connection then
    session.emit (.connectionCallback (session.state = .kConnected))
  else session).push (.connectionCallback notice session.hooks.connection)

def shutdown (session : Session) : Session :=
  if session.state = .kConnected then { session with state := .kDisconnecting }.shutdownInLoop
  else session

def forceCloseInLoop (session : Session) : Session :=
  if session.state = .kConnected ∨ session.state = .kDisconnecting then session.handleClose
  else session

def setBackpressurePolicyInLoop (highWaterMark lowWaterMark : Nat) (session : Session) : Session :=
  { session with backpressure :=
      { session.backpressure with highWaterMark, lowWaterMark } }.apply .last

def Functor.run (calls : Calls) : Functor → Session → Session
  | .sendInLoop pointer data => Session.sendInLoop calls pointer data
  | .shutdownInLoop => Session.shutdownInLoop
  | .forceCloseInLoop => Session.forceCloseInLoop
  | .setBackpressurePolicyInLoop high low => Session.setBackpressurePolicyInLoop high low
  | .connectDestroyed => Session.connectDestroyed

def Handler.run (calls : Calls) : Handler → Session → Session
  | .handleClose => Session.handleClose
  | .handleError => Session.handleError
  | .handleRead => Session.handleRead calls
  | .handleWrite => Session.handleWrite calls

/-- What is done when the callback of a frame returns. -/
def Frame.resume (calls : Calls) : Frame → Session → Session
  | .applied .last _ => fun session => session
  | .applied .handleWrite _ => wrote
  | .applied .connectEstablished _ => fun session =>
      if session.handshakePending then session.advanceTransportHandshake calls
      else session.notifyConnected
  | .handshakeFailed _ _ => handleError
  | .handshakeCompleted _ => notifyConnected
  | .notify notice => wrapper notice
  | .connectionEvent notice _ => callUser notice
  | .connectionCallback .connected _ => fun session => session
  | .connectionCallback (.disconnected true) _ => unregisterChannel
  | .connectionCallback (.disconnected false) _ => fun session =>
      session.push (.close session.hooks.close)
  | .close _ | .message _ => fun session => session

/-- Calls that another thread makes. -/
inductive Request where
  | send (pointer : Nat) (data : Bytes)
  | shutdown
  | forceClose
  | setBackpressurePolicy (highWaterMark lowWaterMark : Nat)
  | connectDestroyed
  deriving DecidableEq, Repr

def queueInLoop (functor : Functor) (session : Session) : Session :=
  { session with queue := session.queue ++ [functor] }

/-- The part of a call that another thread runs. No close comes between the test and the
store of `shutdown`. -/
def request (session : Session) : Request → Session
  | .send pointer data =>
      if session.state = .kConnected then session.queueInLoop (.sendInLoop pointer data)
      else session
  | .shutdown =>
      if session.state = .kConnected then
        { session with state := .kDisconnecting }.queueInLoop .shutdownInLoop
      else session
  | .forceClose => session.queueInLoop .forceCloseInLoop
  | .setBackpressurePolicy high low =>
      match ConnectionBackpressureController.validateThresholds high low with
      | .ok () => session.queueInLoop (.setBackpressurePolicyInLoop high low)
      | .error _ => session
  | .connectDestroyed => session.queueInLoop .connectDestroyed

inductive Action where
  | send (pointer : Nat) (data : Bytes) (calls : Calls)
  | asyncWrite (pointer : Nat) (data : Bytes) (calls : Calls)
  | shutdown
  | forceClose
  | setBackpressurePolicy (highWaterMark lowWaterMark : Nat)
  | connectDestroyed
  | remote (request : Request)
  | functor (calls : Calls)
  | dispatch (revents : EventMask)
  | handle (calls : Calls)
  | resume (calls : Calls)

/-- The loop is between two of its steps. -/
def idle (session : Session) : Bool := session.stack.isEmpty && session.handlers.isEmpty

/-- User code runs on the loop. -/
def callable (session : Session) : Bool :=
  match session.stack with
  | [] => session.handlers.isEmpty
  | frame :: _ => frame.runs

def handlersOf (revents : EventMask) : List Handler :=
  (if revents.close && !revents.read then [.handleClose] else []) ++
    (if revents.error then [.handleError] else []) ++
    (if revents.read then [.handleRead] else []) ++
    (if revents.write then [.handleWrite] else [])

def step (session : Session) : Action → Option Session
  | .send pointer data calls =>
      if session.callable then
        some (if session.state = .kConnected then session.sendInLoop calls pointer data
          else session)
      else none
  | .asyncWrite pointer data calls =>
      if session.callable then
        some (if data.isEmpty || session.state = .kDisconnected then session
          else session.sendInLoop calls pointer data)
      else none
  | .shutdown => if session.callable then some session.shutdown else none
  | .forceClose => if session.callable then some session.forceCloseInLoop else none
  | .setBackpressurePolicy high low =>
      if session.callable then
        match ConnectionBackpressureController.validateThresholds high low with
        | .ok () => some (session.setBackpressurePolicyInLoop high low)
        | .error _ => some session
      else none
  | .connectDestroyed => if session.callable then some session.connectDestroyed else none
  | .remote request => some (session.request request)
  | .functor calls =>
      if session.idle then
        match session.queue with
        | [] => none
        | functor :: rest => some (functor.run calls { session with queue := rest })
      else none
  | .dispatch revents =>
      if session.idle && session.channel.addedToLoop then
        some { session with handlers := handlersOf revents }
      else none
  | .handle calls =>
      match session.stack, session.handlers with
      | [], handler :: rest => some (handler.run calls { session with handlers := rest })
      | _, _ => none
  | .resume calls =>
      match session.stack with
      | [] => none
      | frame :: rest => some (frame.resume calls { session with stack := rest })

/-- Everything that a step can be. -/
inductive Moves (session : Session) : Action → Session → Prop where
  | skip (action : Action) : Moves session action session
  | send {pointer : Nat} {data : Bytes} {calls : Calls} (callable : session.callable = true)
      (connected : session.state = .kConnected) :
      Moves session (.send pointer data calls) (session.sendInLoop calls pointer data)
  | asyncWrite {pointer : Nat} {data : Bytes} {calls : Calls} (callable : session.callable = true)
      (opened : session.state ≠ .kDisconnected) :
      Moves session (.asyncWrite pointer data calls) (session.sendInLoop calls pointer data)
  | shutdown (callable : session.callable = true) : Moves session .shutdown session.shutdown
  | forceClose (callable : session.callable = true) :
      Moves session .forceClose session.forceCloseInLoop
  | policy {high low : Nat} (callable : session.callable = true) :
      Moves session (.setBackpressurePolicy high low) (session.setBackpressurePolicyInLoop high low)
  | connectDestroyed (callable : session.callable = true) :
      Moves session .connectDestroyed session.connectDestroyed
  | request (request : Request) : Moves session (.remote request) (session.request request)
  | functor {calls : Calls} {functor : Functor} {rest : List Functor}
      (idle : session.idle = true) (queued : session.queue = functor :: rest) :
      Moves session (.functor calls) (functor.run calls { session with queue := rest })
  | dispatch {revents : EventMask} (idle : session.idle = true) :
      Moves session (.dispatch revents) { session with handlers := handlersOf revents }
  | handle {calls : Calls} {handler : Handler} {rest : List Handler} (bare : session.stack = [])
      (waits : session.handlers = handler :: rest) :
      Moves session (.handle calls) (handler.run calls { session with handlers := rest })
  | resume {calls : Calls} {frame : Frame} {rest : List Frame} (top : session.stack = frame :: rest) :
      Moves session (.resume calls) (frame.resume calls { session with stack := rest })

theorem step_moves {session next : Session} {action : Action}
    (taken : session.step action = some next) : Moves session action next := by
  cases action with
  | send pointer data calls =>
      simp only [step, Option.ite_none_right_eq_some, Option.some.injEq] at taken
      obtain ⟨callable, rfl⟩ := taken
      split
      case isTrue connected => exact .send callable connected
      case isFalse => exact .skip _
  | asyncWrite pointer data calls =>
      simp only [step, Option.ite_none_right_eq_some, Option.some.injEq] at taken
      obtain ⟨callable, rfl⟩ := taken
      split
      case isTrue => exact .skip _
      case isFalse ready =>
        simp only [Bool.or_eq_true, decide_eq_true_eq, not_or] at ready
        exact .asyncWrite callable ready.2
  | shutdown =>
      simp only [step, Option.ite_none_right_eq_some, Option.some.injEq] at taken
      exact taken.2 ▸ .shutdown taken.1
  | forceClose =>
      simp only [step, Option.ite_none_right_eq_some, Option.some.injEq] at taken
      exact taken.2 ▸ .forceClose taken.1
  | setBackpressurePolicy high low =>
      simp only [step, Option.ite_none_right_eq_some] at taken
      obtain ⟨callable, taken⟩ := taken
      split at taken
      · cases taken
        exact .policy callable
      · cases taken
        exact .skip _
  | connectDestroyed =>
      simp only [step, Option.ite_none_right_eq_some, Option.some.injEq] at taken
      exact taken.2 ▸ .connectDestroyed taken.1
  | remote request =>
      cases taken
      exact .request request
  | functor calls =>
      simp only [step, Option.ite_none_right_eq_some] at taken
      obtain ⟨idle, taken⟩ := taken
      split at taken
      · cases taken
      case h_2 queued =>
        cases taken
        exact .functor idle queued
  | dispatch revents =>
      simp only [step, Option.ite_none_right_eq_some, Option.some.injEq, Bool.and_eq_true] at taken
      exact taken.2 ▸ .dispatch taken.1.1
  | handle calls =>
      simp only [step] at taken
      split at taken
      case h_1 bare waits =>
        cases taken
        exact .handle bare waits
      case h_2 => cases taken
  | resume calls =>
      simp only [step] at taken
      split at taken
      case h_1 => cases taken
      case h_2 top =>
        cases taken
        exact .resume top

/-- A connection with the hooks and the policy that its owner has set. -/
def create (hooks : Hooks) (highWaterMark lowWaterMark : Nat) : Session :=
  { hooks, backpressure := { highWaterMark, lowWaterMark } }

end Session

end MiniTrantor.Net
