import MiniTrantor.Net.Channel

/-!
# State of one connection

The fields of `TcpConnection::Impl` and of the helper objects it owns, the part
of the owner loop that the connection uses (its functor queue), and the calls
that other threads have begun. A buffer is the list of its readable bytes.

`trace` is not in the source. It records, in order, what the connection did to
its surroundings: channel updates, bytes moved, callbacks entered.
-/

set_option autoImplicit false

namespace MiniTrantor.Net

abbrev Bytes := List UInt8
abbrev WaiterId := Nat
abbrev TokenId := Nat
abbrev ThreadId := Nat

inductive StateE where
  | kConnecting
  | kConnected
  | kDisconnecting
  | kDisconnected
  deriving DecidableEq, Repr

/-- Declaration order of `StateE`, which is also the order of a life cycle. -/
def StateE.rank : StateE → Nat
  | .kConnecting => 0
  | .kConnected => 1
  | .kDisconnecting => 2
  | .kDisconnected => 3

inductive CloseReason where
  | kNone
  | kPeerClosed
  | kError
  deriving DecidableEq, Repr

inductive BackpressureEvent where
  | readPaused
  | readResumed
  deriving DecidableEq, Repr

/-- The server or client reports the first, the connection itself the others. -/
inductive TlsEvent where
  | handshakeStarted
  | handshakeCompleted
  | handshakeFailed
  deriving DecidableEq, Repr

/-- The errors a connection's awaitables resume with. -/
inductive NetError where
  | peerClosed
  | connectionReset
  | cancelled
  deriving DecidableEq, Repr

inductive AwaitKind where
  | read
  | write
  | close
  deriving DecidableEq, Repr

/-- The arguments of a read, write or close awaitable. -/
structure Awaitable where
  kind : AwaitKind
  minBytes : Nat := 1
  data : Bytes := []
  token : Option TokenId := none
  deriving DecidableEq, Repr

inductive Phase where
  | unarmed
  | pending
  | queued
  | completed
  | abandoned
  deriving DecidableEq, Repr

inductive Outcome where
  | ready
  | cancelled
  | failed
  deriving DecidableEq, Repr

/-- `ConnectionAwaiterState`. The borrowed coroutine handle is the awaitable at
which the coroutine is suspended. -/
structure AwaiterState where
  phase : Phase := .unarmed
  outcome : Outcome := .ready
  handle : Option Awaitable := none
  registration : Option TokenId := none
  failure : Option String := none
  deriving DecidableEq, Repr

/-- What `await_resume` gives back to the coroutine. -/
inductive AwaitResult where
  | value (data : Bytes)
  | done
  | error (error : NetError)
  | threw (message : String)
  deriving DecidableEq, Repr

/-- User code that the connection enters on the owner loop. -/
inductive Callback where
  | connected
  | disconnected
  | message
  | writeComplete
  | highWaterMark (bufferedBytes : Nat)
  | close
  | backpressure (event : BackpressureEvent) (bufferedBytes : Nat)
  | tls (event : TlsEvent)
  | resumed (waiter : WaiterId) (result : AwaitResult)
  | functor (label : Nat)
  deriving DecidableEq, Repr

/-- Work queued on the owner loop. -/
inductive Functor where
  | sendInLoop (data : Bytes)
  | shutdownInLoop
  | forceCloseInLoop
  | setBackpressurePolicyInLoop (highWaterMark lowWaterMark : Nat)
  | armWaiter (waiter : WaiterId) (awaitable : Awaitable)
  | cancelWaiter (waiter : WaiterId)
  | resumeWaiter (waiter : WaiterId)
  | writeComplete
  | highWaterMark (bufferedBytes : Nat)
  | connectDestroyed
  | user (label : Nat)
  deriving DecidableEq, Repr

def Functor.payload : Functor → Option Bytes
  | .sendInLoop data => some data
  | _ => none

/-- Where a payload given to `sendInLoop` came from. -/
inductive Origin where
  | ownerSend
  | queuedSend
  | waiter (waiter : WaiterId)
  deriving DecidableEq, Repr

/-- Places where the source goes on without a test for every state it may be in. -/
inductive Checkpoint where
  | connectEstablished
  | notifyConnected
  | handleRead
  | handshake
  | drained
  | connectDestroyed
  deriving DecidableEq, Repr

inductive Event where
  | setState (state : StateE)
  | update (events : EventMask)
  | removed
  | destroyed (found state : StateE) (waiting : List WaiterId)
  | channelClosed
  | accepted (data : Bytes)
  | submitted (origin : Origin) (data : Bytes)
  | wrote (data : Bytes)
  | shutdownWrite (backlog : Nat)
  | received (data : Bytes)
  | inputModified (awaited : Bool)
  | loggedError (error : Nat)
  | arming (waiter : WaiterId) (awaitable : Awaitable) (state : StateE) (readableBytes : Nat)
  | resumeQueued (waiter : WaiterId) (outcome : Outcome)
  | abandoned (waiter : WaiterId)
  | awaitThrew (waiter : WaiterId) (message : String)
  | awaitFinished (waiter : WaiterId) (awaitable : Awaitable) (state : StateE) (result : AwaitResult)
  | draining (bufferedBytes : Nat)
  | callback (callback : Callback)
  | checkpoint (place : Checkpoint) (state : StateE)
  deriving DecidableEq, Repr

/-- Which callbacks of the dispatcher and which metric hooks are set. -/
structure Callbacks where
  connection : Bool := false
  message : Bool := false
  highWaterMark : Bool := false
  highWaterMarkBytes : Nat := 0
  writeComplete : Bool := false
  close : Bool := false
  backpressureEvent : Bool := false
  tlsEvent : Bool := false
  deriving DecidableEq, Repr

/-- `ConnectionBackpressureController`. -/
structure Backpressure where
  highWaterMark : Nat := 0
  lowWaterMark : Nat := 0
  active : Bool := false
  readingEnabled : Bool := true
  deriving DecidableEq, Repr

/-- `ConnectionAwaiterRegistry`. -/
structure Registry where
  readWaiter : Option WaiterId := none
  writeWaiter : Option WaiterId := none
  closeWaiter : Option WaiterId := none
  minReadBytes : Nat := 1
  deriving DecidableEq, Repr

inductive TlsState where
  | kTlsNone
  | kTlsHandshaking
  | kTlsEstablished
  | kTlsShuttingDown
  deriving DecidableEq, Repr

/-- `ConnectionTransport`; `ssl` says that `ssl_` is not null. -/
structure Transport where
  ssl : Bool := false
  tlsState : TlsState := .kTlsNone
  deriving DecidableEq, Repr

/-- `CancellationState`, with the waiters of this connection whose callback is
registered. -/
structure TokenState where
  cancelled : Bool := false
  callbacks : List WaiterId := []
  deriving DecidableEq, Repr

structure Conn where
  state : StateE := .kConnecting
  closeReason : CloseReason := .kNone
  channel : Channel := {}
  inputBuffer : Bytes := []
  outputBuffer : Bytes := []
  callbacks : Callbacks := {}
  backpressure : Backpressure := {}
  registry : Registry := {}
  waiters : WaiterId → AwaiterState := fun _ => {}
  transport : Transport := {}
  tokens : TokenId → TokenState := fun _ => {}
  /-- Callbacks that a `cancel` has taken out of a token and not yet run. -/
  claimed : List WaiterId := []
  queue : List Functor := []
  /-- Functors of calls that have passed their checks and are not yet pushed. -/
  inflight : List (ThreadId × Functor) := []
  trace : List Event := []

namespace Conn

@[simps] def emit (conn : Conn) (event : Event) : Conn :=
  { conn with trace := conn.trace ++ [event] }

@[simps!] def setState (state : StateE) (conn : Conn) : Conn :=
  { conn with state }.emit (.setState state)

@[simps!] def updateChannel (change : Channel → Channel) (conn : Conn) : Conn :=
  { conn with channel := change conn.channel }.emit (.update (change conn.channel).events)

@[simps] def setWaiter (waiter : WaiterId) (state : AwaiterState) (conn : Conn) : Conn :=
  { conn with waiters := Function.update conn.waiters waiter state }

/-- Functors in the queue and those about to be pushed. -/
def functors (conn : Conn) : List Functor :=
  conn.queue ++ conn.inflight.map (·.2)

/-- Payloads that `send` accepted and that no `sendInLoop` has been given yet. -/
def pendingPayloads (conn : Conn) : List Bytes :=
  conn.functors.filterMap Functor.payload

/-- Waiters in the slots that are not yet queued for resumption. -/
def waiting (conn : Conn) : List WaiterId :=
  ([conn.registry.readWaiter, conn.registry.writeWaiter, conn.registry.closeWaiter].filterMap id).filter
    fun waiter => (conn.waiters waiter).phase == .pending

end Conn

/-- Calls that user code makes on the owner thread, inside or outside a callback. -/
inductive Op where
  | send (data : Bytes)
  | shutdown
  | forceClose
  | setBackpressurePolicy (highWaterMark lowWaterMark : Nat)
  | setCallbacks (callbacks : Callbacks)
  | await (waiter : WaiterId) (awaitable : Awaitable)
  | destroyAwaitable (waiter : WaiterId)
  | cancel (token : TokenId)
  | connectDestroyed
  | queueInLoop (label : Nat)
  | modifyInput (contents : Bytes)
  deriving DecidableEq, Repr

/-- Calls that other threads make on the connection or its owner loop. -/
inductive RemoteCall where
  | send (data : Bytes)
  | shutdown
  | forceClose
  | setBackpressurePolicy (highWaterMark lowWaterMark : Nat)
  | await (waiter : WaiterId) (awaitable : Awaitable)
  | connectDestroyed
  | queueInLoop (label : Nat)
  deriving DecidableEq, Repr

/-- One step of another thread: the checks at the start of a call, the push that
ends it, or one of the three steps of `CancellationSource::cancel`. -/
inductive Remote where
  | call (thread : ThreadId) (request : RemoteCall)
  | push (thread : ThreadId)
  | requestCancel (token : TokenId)
  | claimCallbacks (token : TokenId)
  | postCancel
  deriving DecidableEq, Repr

/-- Result of a `write` on the socket: a byte count, or `errno`. -/
inductive WriteReturn where
  | wrote (count : Nat)
  | failed (errno : Nat)
  deriving DecidableEq, Repr

/-- Result of `Buffer::readFd`: the bytes received, none at end of stream, or `errno`. -/
inductive ReadReturn where
  | bytes (data : Bytes)
  | failed (errno : Nat)
  deriving DecidableEq, Repr

/-- How `SSL_get_error` classifies a call that did not succeed. -/
inductive SslError where
  | wantRead
  | wantWrite
  | zeroReturn
  | fatal (errno : Nat)
  deriving DecidableEq, Repr

theorem wroteAll_le : ∀ (_ : Conn) (data : Bytes) (count : Nat),
    WriteReturn.wrote data.length = .wrote count → count ≤ data.length := by
  intro conn data count returned
  cases returned
  exact Nat.le_refl _

theorem wroteOne_le : ∀ (_ : Conn) (data : Bytes) (count : Nat),
    WriteReturn.wrote (min 1 data.length) = .wrote count → count ≤ data.length := by
  intro conn data count returned
  cases returned
  exact Nat.min_le_right 1 data.length

theorem sslWroteAll_range : ∀ (_ : Conn) (_ : Bytes) (length : Int) (count : Nat),
    (if 0 < length then Except.ok length.toNat else .error (SslError.fatal 0)) = .ok count →
      0 < count ∧ (count : Int) ≤ length := by
  intro conn data length count returned
  split at returned
  · cases returned
    omega
  · cases returned

/-- Everything the connection does not decide: what other threads do before each
access to shared data, what user code does, what the system calls return. -/
structure World where
  others : Conn → List Remote := fun _ => []
  user : Callback → Conn → List Op := fun _ _ => []
  write : Conn → Bytes → WriteReturn := fun _ data => .wrote data.length
  read : Conn → ReadReturn := fun _ => .bytes []
  socketError : Conn → Nat := fun _ => 0
  /-- `SSL_new` gives a session, and the socket handle is one that `SSL_set_fd` takes. -/
  sslNew : Bool := true
  /-- `none` is a handshake that completed. -/
  sslDoHandshake : Conn → Option SslError := fun _ => none
  /-- The successive results of `SSL_read` up to the first that is not positive. -/
  sslRead : Conn → List Bytes × SslError := fun _ => ([], .wantRead)
  /-- `SSL_write` of the given bytes with the given `int` length. -/
  sslWrite : Conn → Bytes → Int → Except SslError Nat := fun _ _ length =>
    if 0 < length then .ok length.toNat else .error (.fatal 0)
  write_le : ∀ conn data count, write conn data = .wrote count → count ≤ data.length := by
    exact wroteAll_le
  sslWrite_range : ∀ conn data length count, sslWrite conn data length = .ok count →
      0 < count ∧ (count : Int) ≤ length := by
    exact sslWroteAll_range

end MiniTrantor.Net
