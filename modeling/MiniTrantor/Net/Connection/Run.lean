import MiniTrantor.Net.Connection.TcpConnection
import MiniTrantor.Reentry

/-!
# Runs of one connection

User operations, queued functors and channel events, and the runs they make up.
A run starts from a connection that the server or client has configured. With TLS
it reports the start of the handshake to a hook, which may use the connection
already; then it establishes the connection. User callbacks nest to any finite depth.
-/

set_option autoImplicit false

namespace MiniTrantor.Net

/-- A call made by user code on the owner thread. -/
def Op.perform (world : World) (call : Callback → Conn → Conn) : Op → Conn → Conn
  | .send data => TcpConnection.send world call data
  | .shutdown => TcpConnection.shutdown world
  | .forceClose => TcpConnection.forceClose world call
  | .setBackpressurePolicy high low => TcpConnection.setBackpressurePolicy call high low
  | .setCallbacks callbacks => fun conn => { conn with callbacks }
  | .await waiter awaitable => TcpConnection.armWaiter world call waiter awaitable
  | .destroyAwaitable waiter => TcpConnection.abandonWaiter waiter
  | .cancel token => CancellationSource.cancel world token
  | .connectDestroyed => TcpConnection.connectDestroyed world call
  | .queueInLoop label => EventLoop.queueInLoop world (.user label)
  | .modifyInput contents => fun conn =>
      { conn with inputBuffer := contents }.emit (.inputModified conn.registry.readWaiter.isSome)

/-- Work popped from the functor queue. -/
def Functor.run (world : World) (call : Callback → Conn → Conn) : Functor → Conn → Conn
  | .sendInLoop data => TcpConnection.sendInLoop world call .queuedSend data
  | .shutdownInLoop => TcpConnection.shutdownInLoop
  | .forceCloseInLoop => TcpConnection.forceCloseInLoop world call
  | .setBackpressurePolicyInLoop high low =>
      TcpConnection.setBackpressurePolicyInLoop call high low
  | .armWaiter waiter awaitable => TcpConnection.armWaiterInLoop world call false waiter awaitable
  | .cancelWaiter waiter => ConnectionAwaiterRegistry.cancelWaiter world waiter
  | .resumeWaiter waiter => TcpConnection.resumeWaiter call waiter
  | .writeComplete => invoke call .writeComplete
  | .highWaterMark bufferedBytes => invoke call (.highWaterMark bufferedBytes)
  | .connectDestroyed => TcpConnection.connectDestroyed world call
  | .user label => invoke call (.functor label)

/-- One step of the owner loop: dispatch of this connection's channel, the next
functor of the queue, or user code of another source (a timer, another channel). -/
inductive Step where
  | event (revents : EventMask)
  | functor
  | call (op : Op)
  deriving DecidableEq, Repr

/-- User callbacks at a given nesting depth. -/
def World.call (world : World) (depth : Nat) : Callback → Conn → Conn :=
  Reentry.reenter world.user (Op.perform world) depth

/-- `loop()` dispatches no event to a channel that was removed. -/
def Step.take (world : World) (depth : Nat) (step : Step) (conn : Conn) : Conn :=
  let conn := sync world conn
  match step with
  | .event revents =>
      if conn.channel.addedToLoop then
        TcpConnection.handleEventWithGuard world (world.call depth) revents conn
      else conn
  | .functor =>
      match conn.queue with
      | [] => conn
      | next :: rest => next.run world (world.call depth) { conn with queue := rest }
  | .call op => op.perform world (world.call depth) conn

/-- What the server or client sets up before `connectEstablished`. -/
structure Setup where
  callbacks : Callbacks := {}
  highWaterMark : Nat := 0
  lowWaterMark : Nat := 0
  tls : Bool := false
  policy_valid :
      ConnectionBackpressureController.validateThresholds highWaterMark lowWaterMark = .ok () := by rfl

def Setup.initial (setup : Setup) : Conn where
  callbacks := setup.callbacks
  backpressure := { highWaterMark := setup.highWaterMark, lowWaterMark := setup.lowWaterMark }

/-- The connection after the `HandshakeStarted` hook, if there is one. -/
def Setup.hooked (setup : Setup) (world : World) (depth : Nat) : Conn :=
  if setup.tls then TcpConnection.fireTlsEvent (world.call depth) .handshakeStarted setup.initial
  else setup.initial

/-- The end of `newConnection` in the server and in the client. -/
def Setup.established (setup : Setup) (world : World) (depth : Nat) : Conn :=
  let conn := setup.hooked world depth
  let conn := if setup.tls then TcpConnection.startTls world conn else conn
  TcpConnection.connectEstablished world (world.call depth) conn

/-- The connection after `newConnection` and the given steps. -/
def Setup.run (setup : Setup) (world : World) (depth : Nat) (steps : List Step) : Conn :=
  steps.foldl (fun conn step => step.take world depth conn) (setup.established world depth)

end MiniTrantor.Net
