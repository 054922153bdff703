import MiniTrantor.Net.Connection.State
import MiniTrantor.Threads

/-!
# TcpServer

The server with its base loop, the loops of its pool and its connections. A function
of the server is given up to the callback that it enters, and what is left to do is
kept on the stack of the thread. Of a connection only what its owner's bookkeeping
depends on is kept: its state, and whether its close callback is still set.

Connections are known by the number in their name. Fewer than 2^31 are accepted, so
the counter does not wrap and no two have the same name.
-/

set_option autoImplicit false

namespace MiniTrantor.Net

namespace TcpServer

inductive Loop where
  | base
  | worker (index : Nat)
  deriving DecidableEq, Repr

/-- What is posted to a loop, by `newConnection`, `forceCloseAllConnections`, the destructor,
`removeConnectionInLoop` and the close callback of a connection. -/
inductive Functor where
  | connectEstablished (id : Nat)
  | forceClose (id : Nat)
  | destroy (id : Nat)
  | connectDestroyed (id : Nat)
  | removeConnectionInLoop (id : Nat)
  deriving DecidableEq, Repr

/-- What a thread is in the middle of: `Acceptor::handleRead`, the hook before
`connectEstablished`, a callback of a connection, the functor of `forceCloseAllConnections`
before `connectDestroyed`, one of the two loops over connections, the end of
`removeConnectionInLoop`, or `EventLoopThreadPool::stop`. -/
inductive Frame where
  | accepting
  | handshakeStarted (id : Nat)
  | connected (id : Nat)
  | disconnected (id : Nat) (notifyClose : Bool)
  | forceClosed (id : Nat)
  | destroying (id : Nat)
  | forceClosing (rest : List Nat)
  | destructing (rest : List Nat)
  | removed
  | joining (destructor : Bool)
  deriving DecidableEq, Repr

def Frame.isCallback : Frame → Bool
  | .handshakeStarted _ | .connected _ | .disconnected _ _ | .forceClosed _ => true
  | _ => false

structure Connection where
  loop : Loop := .base
  state : StateE := .kConnecting
  closeCallback : Bool := true

inductive Cause where
  | empty
  | removal
  | timeout
  deriving DecidableEq, Repr

/-- A connection leaves the map with a posted removal, which found the server alive, or with
the whole map. It is `closed` when its close callback is called. -/
inductive Event where
  | inserted (id : Nat)
  | left (id : Nat) (posted : Bool)
  | connectEstablished (id : Nat) (loop : Loop)
  | connectDestroyed (id : Nat) (loop : Loop)
  | closed (id : Nat)
  | removal (id : Nat)
  | drained (cause : Cause)
  | poolStop
  | destructor
  deriving DecidableEq, Repr

inductive Pool where
  | stopped
  | running
  | stopping
  deriving DecidableEq, Repr

def Pool.requestStop : Pool → Pool
  | .running => .stopping
  | pool => pool

def Pool.joined : Pool → Pool
  | .stopping => .stopped
  | pool => pool

end TcpServer

/-- `next` is the worker that the pool gives out next, `timers` are the drain timers of the
base loop, and `alive` ends with the destructor. -/
structure TcpServer where
  numThreads : Nat
  tlsContext : Bool
  started : Bool := false
  stopped : Bool := false
  draining : Bool := false
  listening : Bool := false
  threadPool : TcpServer.Pool := .stopped
  next : Nat := 0
  nextConnId : Nat := 1
  connections : List Nat := []
  timers : List Nat := []
  nextTimer : Nat := 0
  drainTimerId : Option Nat := none
  lifetimeToken : Bool := true
  alive : Bool := true
  conns : Nat → TcpServer.Connection := fun _ => {}
  threads : TcpServer.Loop → Thread TcpServer.Frame TcpServer.Functor := fun _ => {}
  trace : List TcpServer.Event := []

namespace TcpServer

def emit (event : Event) (server : TcpServer) : TcpServer :=
  { server with trace := server.trace ++ [event] }

def onThread (loop : Loop) (change : Thread Frame Functor → Thread Frame Functor)
    (server : TcpServer) : TcpServer :=
  { server with threads := Function.update server.threads loop (change (server.threads loop)) }

def push (loop : Loop) (frame : Frame) (server : TcpServer) : TcpServer :=
  server.onThread loop (Thread.push frame)

def onConn (id : Nat) (change : Connection → Connection) (server : TcpServer) : TcpServer :=
  { server with conns := Function.update server.conns id (change (server.conns id)) }

def setState (id : Nat) (state : StateE) (server : TcpServer) : TcpServer :=
  server.onConn id fun connection => { connection with state }

def clearCloseCallback (id : Nat) (server : TcpServer) : TcpServer :=
  server.onConn id fun connection => { connection with closeCallback := false }

/-! Functions of a connection, on the thread of a loop. -/

def connectEstablished (loop : Loop) (id : Nat) (server : TcpServer) : TcpServer :=
  ((server.emit (.connectEstablished id loop)).setState id .kConnected).push loop (.connected id)

/-- `runCloseSequence` up to the connection callback. -/
def runCloseSequence (loop : Loop) (id : Nat) (notifyClose : Bool) (server : TcpServer) :
    TcpServer :=
  (server.setState id .kDisconnected).push loop (.disconnected id notifyClose)

def connectDestroyed (loop : Loop) (id : Nat) (server : TcpServer) : TcpServer :=
  let server := server.emit (.connectDestroyed id loop)
  if (server.conns id).state = .kConnected then server.runCloseSequence loop id false else server

def forceCloseInLoop (loop : Loop) (id : Nat) (server : TcpServer) : TcpServer :=
  if (server.conns id).state = .kConnected ∨ (server.conns id).state = .kDisconnecting then
    server.runCloseSequence loop id true
  else server

/-- The close sequence, by an error or by `forceClose`. A connection that is not established yet
is known to the user in its TLS event hook, where a write may fail. -/
def handleClose (loop : Loop) (id : Nat) (server : TcpServer) : TcpServer :=
  if (server.conns id).state = .kConnecting ∧
      .handshakeStarted id ∈ (server.threads loop).stack then
    server.runCloseSequence loop id true
  else server.forceCloseInLoop loop id

/-- `posting.queue`, which the base loop refuses when it is over. -/
def queueInBase (functor : Functor) (server : TcpServer) : TcpServer :=
  if (server.threads .base).exited then server else server.onThread .base (Thread.post functor)

/-- The close callback that `newConnection` has set. -/
def notifyClose (id : Nat) (server : TcpServer) : TcpServer :=
  if (server.conns id).closeCallback then
    (server.emit (.closed id)).queueInBase (.removeConnectionInLoop id)
  else server

/-! What is run on the owner loop of a connection. -/

def establish (loop : Loop) (id : Nat) (server : TcpServer) : TcpServer :=
  if server.tlsContext then server.push loop (.handshakeStarted id)
  else server.connectEstablished loop id

def closeAndDestroy (loop : Loop) (id : Nat) (server : TcpServer) : TcpServer :=
  (server.push loop (.destroying id)).forceCloseInLoop loop id

def forceClose (loop : Loop) (id : Nat) (server : TcpServer) : TcpServer :=
  let server := server.clearCloseCallback id
  if (server.conns id).state = .kConnected then server.push loop (.forceClosed id)
  else server.closeAndDestroy loop id

def destroyConnection (loop : Loop) (id : Nat) (server : TcpServer) : TcpServer :=
  (server.clearCloseCallback id).connectDestroyed loop id

/-- `runInLoop` on the base thread, for a loop of the pool or the base loop itself. -/
def runInLoop (id : Nat) (functor : Functor) (run : TcpServer → TcpServer) (server : TcpServer) :
    TcpServer :=
  match (server.conns id).loop with
  | .base => run server
  | .worker index => server.onThread (.worker index) (Thread.post functor)

/-! Functions of the server, on the base thread. -/

/-- `EventLoopThreadPool::stop` up to the join. -/
def stopPool (destructor : Bool) (server : TcpServer) : TcpServer :=
  ({ server with threadPool := server.threadPool.requestStop }.emit .poolStop).push .base
    (.joining destructor)

def moveOut (server : TcpServer) : TcpServer :=
  { server with
    connections := []
    trace := server.trace ++ server.connections.map fun id => .left id false }

def forceCloseAllConnections (server : TcpServer) : TcpServer :=
  server.moveOut.push .base (.forceClosing server.connections)

def start (server : TcpServer) : TcpServer :=
  if server.started then server
  else
    { server with
      started := true, stopped := false, listening := true, threadPool := .running, next := 0 }

def stop (server : TcpServer) : TcpServer :=
  if server.stopped then server
  else
    { server with
      stopped := true, draining := false, listening := false }.forceCloseAllConnections

def stopAfter (server : TcpServer) : TcpServer :=
  if server.stopped then server
  else if server.connections.isEmpty then
    ({ server with stopped := true, draining := false, listening := false }.emit
      (.drained .empty)).stopPool false
  else
    { server with
      stopped := true
      draining := true
      listening := false
      timers := server.timers ++ [server.nextTimer]
      nextTimer := server.nextTimer + 1
      drainTimerId := some server.nextTimer }

def onDrainTimeout (server : TcpServer) : TcpServer :=
  if !server.draining then { server with drainTimerId := none }
  else
    ({ server with drainTimerId := none, draining := false }.emit
      (.drained .timeout)).forceCloseAllConnections

/-- `EventLoop::cancel` of a timer that is set. -/
def cancel (timer : Option Nat) (timers : List Nat) : List Nat :=
  match timer with
  | some timer => timers.erase timer
  | none => timers

def finishRemoval (server : TcpServer) : TcpServer :=
  if server.draining && server.connections.isEmpty then
    ({ server with
      draining := false
      timers := cancel server.drainTimerId server.timers
      drainTimerId := none }.emit (.drained .removal)).stopPool false
  else server

def removeConnectionInLoop (id : Nat) (server : TcpServer) : TcpServer :=
  let server := server.emit (.removal id)
  if id ∈ server.connections then
    (({ server with connections := server.connections.erase id }.emit (.left id true)).push .base
      .removed).runInLoop id (.connectDestroyed id) (connectDestroyed .base id)
  else server

def getNextLoop (server : TcpServer) : Loop × TcpServer :=
  if server.threadPool = .running ∧ 0 < server.numThreads then
    (.worker server.next,
      { server with next := if server.next + 1 ≥ server.numThreads then 0 else server.next + 1 })
  else (.base, server)

theorem getNextLoop_same (server : TcpServer) :
    ∃ next, server.getNextLoop.2 = { server with next } := by
  unfold getNextLoop
  split
  · exact ⟨_, rfl⟩
  · exact ⟨server.next, rfl⟩

def insert (loop : Loop) (server : TcpServer) : TcpServer :=
  { server with
    nextConnId := server.nextConnId + 1
    connections := server.nextConnId :: server.connections
    conns := Function.update server.conns server.nextConnId { loop } }.emit
      (.inserted server.nextConnId)

def newConnection (server : TcpServer) : TcpServer :=
  if server.stopped then server
  else
    let id := server.nextConnId
    let selected := server.getNextLoop
    (selected.2.insert selected.1).runInLoop id (.connectEstablished id) (establish .base id)

/-- The destructor up to its loop. -/
def destruct (server : TcpServer) : TcpServer :=
  ({ server with
    stopped := true
    draining := false
    lifetimeToken := false
    listening := false
    timers := cancel server.drainTimerId server.timers }.emit .destructor).moveOut.push .base
      (.destructing server.connections)

def Functor.run (loop : Loop) : Functor → TcpServer → TcpServer
  | .connectEstablished id => establish loop id
  | .forceClose id => TcpServer.forceClose loop id
  | .destroy id => destroyConnection loop id
  | .connectDestroyed id => TcpServer.connectDestroyed loop id
  | .removeConnectionInLoop id => fun server =>
      if server.lifetimeToken then server.removeConnectionInLoop id else server

/-- What is done when the code of the user in a frame, or what it waits for, returns. -/
def Frame.resume (loop : Loop) : Frame → TcpServer → TcpServer
  | .accepting | .connected _ => fun server => server
  | .handshakeStarted id => connectEstablished loop id
  | .disconnected id notifies => fun server =>
      if notifies then server.notifyClose id else server
  | .forceClosed id => closeAndDestroy loop id
  | .destroying id => connectDestroyed loop id
  | .forceClosing _ => stopPool false
  | .destructing _ => stopPool true
  | .removed => finishRemoval
  | .joining destructor => fun server =>
      { server with
        threadPool := server.threadPool.joined
        alive := server.alive && !destructor }

/-- Whether what a frame waits for has come about. -/
def ready (server : TcpServer) : Frame → Bool
  | .forceClosing rest | .destructing rest => rest.isEmpty
  | .joining _ => server.threadPool != .stopping ||
      (List.range server.numThreads).all fun index => (server.threads (.worker index)).exited
  | _ => true

/-- A connection is closed from its own loop and shut down from any thread, where test and
store of the state are one step. A loop over connections takes up the next one. -/
inductive Action where
  | start
  | stop
  | stopAfter
  | destruct
  | acceptable
  | accept
  | functor (loop : Loop)
  | timer (timer : Nat)
  | close (loop : Loop) (id : Nat)
  | shutdown (id : Nat)
  | take (id : Nat)
  | resume (loop : Loop)
  | exit (loop : Loop)
  deriving DecidableEq, Repr

def idle (server : TcpServer) (loop : Loop) : Bool :=
  (server.threads loop).stack.isEmpty && !(server.threads loop).exited

def callable (server : TcpServer) (loop : Loop) : Bool :=
  match (server.threads loop).stack with
  | [] => loop == .base || !(server.threads loop).exited
  | frame :: _ => frame.isCallback

def takeUp (id : Nat) (server : TcpServer) : Option TcpServer :=
  match (server.threads .base).stack with
  | .forceClosing rest :: _ =>
      if id ∈ rest then
        some (((server.onThread .base Thread.pop).push .base (.forceClosing (rest.erase id))).runInLoop
          id (.forceClose id) (forceClose .base id))
      else none
  | .destructing rest :: _ =>
      if id ∈ rest then
        some (((server.onThread .base Thread.pop).push .base (.destructing (rest.erase id))).runInLoop
          id (.destroy id) (destroyConnection .base id))
      else none
  | _ => none

/-- The server is not destroyed from inside its own accept step, nor twice, and is not
started in its destructor. -/
def step (server : TcpServer) : Action → Option TcpServer
  | .start => if server.lifetimeToken ∧ server.callable .base then some server.start else none
  | .stop => if server.alive ∧ server.callable .base then some server.stop else none
  | .stopAfter => if server.alive ∧ server.callable .base then some server.stopAfter else none
  | .destruct =>
      if server.lifetimeToken ∧ server.callable .base ∧
          .accepting ∉ (server.threads .base).stack then some server.destruct
      else none
  | .acceptable =>
      if server.idle .base ∧ server.listening then some (server.push .base .accepting) else none
  | .accept =>
      if (server.threads .base).stack.head? = some .accepting ∧ server.listening then
        some server.newConnection
      else none
  | .functor loop =>
      if server.idle loop then
        match (server.threads loop).queue with
        | [] => none
        | functor :: _ => some (functor.run loop (server.onThread loop Thread.take))
      else none
  | .timer timer =>
      if server.idle .base ∧ timer ∈ server.timers then
        some (if server.lifetimeToken then
            { server with timers := server.timers.erase timer }.onDrainTimeout
          else { server with timers := server.timers.erase timer })
      else none
  | .close loop id =>
      if server.callable loop ∧ (server.conns id).loop = loop then
        some (server.handleClose loop id)
      else none
  | .shutdown id =>
      some (if (server.conns id).state = .kConnected then server.setState id .kDisconnecting
        else server)
  | .take id => server.takeUp id
  | .resume loop =>
      match (server.threads loop).stack with
      | [] => none
      | frame :: _ =>
          if server.ready frame then some (frame.resume loop (server.onThread loop Thread.pop))
          else none
  | .exit loop =>
      if server.idle loop ∧ (server.threads loop).queue = [] ∧
          (loop = .base ∨ server.threadPool = .stopping) then
        some (server.onThread loop fun thread => { thread with exited := true })
      else none

/-- Everything that a step can be. -/
inductive Moves (server : TcpServer) : Action → TcpServer → Prop where
  | start (lifetime : server.lifetimeToken = true) (callable : server.callable .base = true) :
      Moves server .start server.start
  | stop (alive : server.alive = true) (callable : server.callable .base = true) :
      Moves server .stop server.stop
  | stopAfter (alive : server.alive = true) (callable : server.callable .base = true) :
      Moves server .stopAfter server.stopAfter
  | destruct (lifetime : server.lifetimeToken = true) (callable : server.callable .base = true)
      (outside : .accepting ∉ (server.threads .base).stack) :
      Moves server .destruct server.destruct
  | acceptable (idle : server.idle .base = true) (listening : server.listening = true) :
      Moves server .acceptable (server.push .base .accepting)
  | accept {rest : List Frame} (top : (server.threads .base).stack = .accepting :: rest)
      (listening : server.listening = true) : Moves server .accept server.newConnection
  | functor {loop : Loop} {functor : Functor} {rest : List Functor}
      (idle : server.idle loop = true) (queued : (server.threads loop).queue = functor :: rest) :
      Moves server (.functor loop) (functor.run loop (server.onThread loop Thread.take))
  | expired {timer : Nat} (idle : server.idle .base = true) (live : timer ∈ server.timers)
      (lifetime : server.lifetimeToken = true) :
      Moves server (.timer timer)
        { server with timers := server.timers.erase timer }.onDrainTimeout
  | outlived {timer : Nat} (idle : server.idle .base = true) (live : timer ∈ server.timers)
      (lifetime : server.lifetimeToken = false) :
      Moves server (.timer timer) { server with timers := server.timers.erase timer }
  | close {loop : Loop} {id : Nat} (callable : server.callable loop = true)
      (own : (server.conns id).loop = loop) :
      Moves server (.close loop id) (server.forceCloseInLoop loop id)
  | abort {loop : Loop} {id : Nat} (callable : server.callable loop = true)
      (own : (server.conns id).loop = loop) (early : (server.conns id).state = .kConnecting)
      (hooked : .handshakeStarted id ∈ (server.threads loop).stack) :
      Moves server (.close loop id) (server.runCloseSequence loop id true)
  | shutdown {id : Nat} (connected : (server.conns id).state = .kConnected) :
      Moves server (.shutdown id) (server.setState id .kDisconnecting)
  | noShutdown {id : Nat} : Moves server (.shutdown id) server
  | forceClose {id : Nat} {listed : List Nat} {rest : List Frame}
      (top : (server.threads .base).stack = .forceClosing listed :: rest) (member : id ∈ listed) :
      Moves server (.take id)
        (((server.onThread .base Thread.pop).push .base (.forceClosing (listed.erase id))).runInLoop
          id (.forceClose id) (TcpServer.forceClose .base id))
  | destroy {id : Nat} {listed : List Nat} {rest : List Frame}
      (top : (server.threads .base).stack = .destructing listed :: rest) (member : id ∈ listed) :
      Moves server (.take id)
        (((server.onThread .base Thread.pop).push .base (.destructing (listed.erase id))).runInLoop
          id (.destroy id) (destroyConnection .base id))
  | resume {loop : Loop} {frame : Frame} {rest : List Frame}
      (top : (server.threads loop).stack = frame :: rest) (ready : server.ready frame = true) :
      Moves server (.resume loop) (frame.resume loop (server.onThread loop Thread.pop))
  | exit {loop : Loop} (idle : server.idle loop = true) (empty : (server.threads loop).queue = [])
      (asked : loop = .base ∨ server.threadPool = .stopping) :
      Moves server (.exit loop) (server.onThread loop fun thread => { thread with exited := true })

theorem step_moves {server next : TcpServer} {action : Action}
    (taken : server.step action = some next) : Moves server action next := by
  cases action with
  | start | stop | stopAfter =>
      simp only [step, Option.ite_none_right_eq_some, Option.some.injEq] at taken
      obtain ⟨⟨alive, callable⟩, rfl⟩ := taken
      constructor
      · exact alive
      · exact callable
  | destruct =>
      simp only [step, Option.ite_none_right_eq_some, Option.some.injEq] at taken
      obtain ⟨⟨lifetime, callable, outside⟩, rfl⟩ := taken
      exact .destruct lifetime callable outside
  | acceptable =>
      simp only [step, Option.ite_none_right_eq_some, Option.some.injEq] at taken
      obtain ⟨⟨idle, listening⟩, rfl⟩ := taken
      exact .acceptable idle listening
  | accept =>
      simp only [step, Option.ite_none_right_eq_some, Option.some.injEq,
        List.head?_eq_some_iff] at taken
      obtain ⟨⟨⟨rest, top⟩, listening⟩, rfl⟩ := taken
      exact .accept top listening
  | functor loop =>
      simp only [step, Option.ite_none_right_eq_some] at taken
      obtain ⟨idle, taken⟩ := taken
      split at taken
      · cases taken
      case h_2 queued =>
        cases taken
        exact .functor idle queued
  | timer timer =>
      simp only [step, Option.ite_none_right_eq_some, Option.some.injEq] at taken
      obtain ⟨⟨idle, live⟩, rfl⟩ := taken
      split
      case isTrue lifetime => exact .expired idle live lifetime
      case isFalse gone => exact .outlived idle live (by simpa using gone)
  | close loop id =>
      simp only [step, Option.ite_none_right_eq_some, Option.some.injEq] at taken
      obtain ⟨⟨callable, own⟩, rfl⟩ := taken
      unfold handleClose
      split
      case isTrue early => exact .abort callable own early.1 early.2
      case isFalse => exact .close callable own
  | shutdown id =>
      simp only [step, Option.some.injEq] at taken
      subst taken
      split
      case isTrue connected => exact .shutdown connected
      case isFalse => exact .noShutdown
  | take id =>
      simp only [step, takeUp] at taken
      split at taken
      case h_1 top =>
        obtain ⟨member, result⟩ := Option.ite_none_right_eq_some.mp taken
        cases result
        exact .forceClose top member
      case h_2 top =>
        obtain ⟨member, result⟩ := Option.ite_none_right_eq_some.mp taken
        cases result
        exact .destroy top member
      case h_3 => cases taken
  | resume loop =>
      simp only [step] at taken
      split at taken
      · cases taken
      case h_2 top =>
        obtain ⟨ready, result⟩ := Option.ite_none_right_eq_some.mp taken
        cases result
        exact .resume top ready
  | exit loop =>
      simp only [step, Option.ite_none_right_eq_some, Option.some.injEq] at taken
      obtain ⟨⟨idle, empty, asked⟩, rfl⟩ := taken
      exact .exit idle empty asked

/-- A server that was constructed and not yet started. -/
def create (numThreads : Nat) (tlsContext : Bool) : TcpServer := { numThreads, tlsContext }

end TcpServer

end MiniTrantor.Net
