import MiniTrantor.SharedOwnership

/-!
# Accepted descriptors

What becomes of the descriptors that `Acceptor::handleRead` accepts. A descriptor is
known by how many were accepted before it, since the system gives the number of a closed
one out again. Up to the constructor of `Socket` it is a mere number in `newConnection`;
from then on it belongs to a connection, which is destroyed with the last pointer to it.
-/

set_option autoImplicit false

namespace MiniTrantor.Net

namespace Accept

abbrev SocketFd := Nat

/-- What keeps a connection alive: the variable of `newConnection`, the map (also one that was
moved out of `connections_`), a functor queued to a worker, a pointer of the user. -/
inductive Holder where
  | newConnection
  | connections
  | functor
  | user
  deriving DecidableEq, Repr

inductive Loop where
  | base
  | worker (index : Nat)
  deriving DecidableEq, Repr

inductive EventLoopThreadPool.State where
  | stopped
  | starting
  | running
  | stopping
  deriving DecidableEq, Repr

/-- The workers that are published, by whether they are `running()`. -/
structure EventLoopThreadPool where
  state : EventLoopThreadPool.State := .stopped
  workers : List Bool := []
  next : Nat := 0
  next_lt : workers ≠ [] → next < workers.length

namespace EventLoopThreadPool

def assertStable (pool : EventLoopThreadPool) : Except String Unit :=
  if pool.state = .starting ∨ pool.state = .stopping then
    .error "thread pool control/selection cannot re-enter a transition"
  else .ok ()

theorem advanced_lt {next size : Nat} : size ≠ 0 → (if next + 1 ≥ size then 0 else next + 1) < size := by
  intro some
  split <;> omega

def getNextLoop (pool : EventLoopThreadPool) : Except String (Loop × EventLoopThreadPool) := do
  pool.assertStable
  if some : pool.workers = [] then return (.base, pool)
  else if pool.workers.get ⟨pool.next, pool.next_lt some⟩ then
    return (.worker pool.next,
      { pool with
        next := if pool.next + 1 ≥ pool.workers.length then 0 else pool.next + 1
        next_lt := fun some => advanced_lt (fun none => some (List.length_eq_zero_iff.mp none)) })
  else throw "selected worker has stopped dispatching"

def joined : EventLoopThreadPool where
  next_lt := fun some => absurd rfl some

def started (workers : Nat) : EventLoopThreadPool where
  state := .running
  workers := List.replicate workers true
  next_lt := List.length_pos_of_ne_nil

def quit (index : Nat) (pool : EventLoopThreadPool) : EventLoopThreadPool :=
  { pool with
    workers := pool.workers.set index false
    next_lt := fun some => by
      rw [List.length_set]
      exact pool.next_lt fun none => some (by rw [none]; rfl) }

end EventLoopThreadPool

/-- Where an exception leaves `newConnection`, in the order of the source. -/
inductive Place where
  | connName
  | makeShared
  | impl
  | socket
  -- the other members of `impl_`, and the handlers of its channel
  | members
  -- the entry of `connections_`
  | insert
  -- the idle timeout, the callbacks and the functor
  | setUp
  deriving DecidableEq, Repr

/-- What user code does with pointers to connections in a callback. -/
inductive Pointer where
  -- keeps a copy of the one it was given
  | copy
  -- lets go of one that it kept
  | reset (sockfd : SocketFd)
  deriving DecidableEq, Repr

/-- The user code of one connection in `forceCloseAllConnections`. It may stop the server
again, which does nothing. -/
structure Hook where
  pointers : List Pointer := []
  throws : Bool := false
  deriving DecidableEq, Repr

inductive UserCall where
  | pointer (pointer : Pointer)
  | stop (hooks : List Hook)
  | stopDraining
  | throw
  deriving DecidableEq, Repr

inductive Elsewhere where
  | quit (index : Nat)
  -- a worker has run the functor of a connection
  | ran (sockfd : SocketFd) (pointers : List Pointer)
  -- user code copies one of its pointers, or lets go of it
  | copied (sockfd : SocketFd)
  | reset (sockfd : SocketFd)
  deriving DecidableEq, Repr

structure Circumstances where
  -- what other threads did before it
  meanwhile : List Elsewhere := []
  failure : Option Place := none
  user : List UserCall := []
  deriving DecidableEq, Repr

inductive AcceptResult where
  | accepted (circumstances : Circumstances)
  | wouldBlock
  | interrupted
  | failed
  deriving DecidableEq, Repr

structure TcpServer where
  started : Bool := false
  stopped : Bool := false
  draining : Bool := false
  listening : Bool := false
  newConnectionCallback : Bool := true
  threadPool : EventLoopThreadPool := .joined
  nextConnId : Nat := 1
  -- how many descriptors were accepted
  accepted : Nat := 0
  connections : List SocketFd := []
  ioLoop : SocketFd → Loop := fun _ => .base
  -- connections that were given to their owner loops, and those still in workers' queues
  handed : List SocketFd := []
  queued : List SocketFd := []
  holdings : Holdings SocketFd Holder := {}

/-! The functions give the state they leave, and whether an exception leaves them. -/

namespace TcpServer

def hold (change : Holdings SocketFd Holder → Holdings SocketFd Holder) (server : TcpServer) :
    TcpServer :=
  { server with holdings := change server.holdings }

def handOver (sockfd : SocketFd) (server : TcpServer) : TcpServer :=
  { server with handed := sockfd :: server.handed }

def pointer (sockfd : SocketFd) (server : TcpServer) : Pointer → TcpServer
  | .copy => server.hold fun holdings => holdings.copy sockfd .user
  | .reset other => server.hold fun holdings => holdings.drop other .user

def pointers (sockfd : SocketFd) (pointers : List Pointer) (server : TcpServer) : TcpServer :=
  pointers.foldl (pointer sockfd) server

/-- `threadPool_->stop()`. What is queued to a worker is run or destroyed by then. -/
def stopPool (server : TcpServer) : TcpServer × Bool :=
  match server.threadPool.assertStable with
  | .error _ => (server, true)
  | .ok () =>
      ({ server with
        threadPool := .joined
        queued := []
        holdings := server.queued.foldl (fun holdings sockfd => holdings.drop sockfd .functor)
          server.holdings }, false)

/-- The map that was moved out of `connections_` is destroyed. -/
def dropAll (connections : List SocketFd) (server : TcpServer) : TcpServer :=
  server.hold fun holdings =>
    connections.foldl (fun holdings sockfd => holdings.drop sockfd .connections) holdings

/-- The loop of `forceCloseAllConnections`. -/
def forceCloseEach : List SocketFd → List Hook → TcpServer → TcpServer × Bool
  | [], _, server => (server, false)
  | sockfd :: rest, hooks, server =>
      let hook := hooks.headD {}
      let server := server.handOver sockfd
      match server.ioLoop sockfd with
      | .base =>
          let server := server.pointers sockfd hook.pointers
          let server := server.hold fun holdings => holdings.drop sockfd .connections
          if hook.throws then (server.dropAll rest, true)
          else server.forceCloseEach rest hooks.tail
      | .worker _ =>
          -- a functor that cannot be queued takes its pointer along
          if hook.throws then (server.dropAll (sockfd :: rest), true)
          else
            forceCloseEach rest hooks.tail
              { server with
                queued := sockfd :: server.queued
                holdings := server.holdings.move sockfd .connections .functor }

def forceCloseAllConnections (hooks : List Hook) (server : TcpServer) : TcpServer × Bool :=
  forceCloseEach server.connections hooks { server with connections := [] }

def stopAccepting (server : TcpServer) : TcpServer :=
  if server.listening then { server with newConnectionCallback := false, listening := false }
  else server

def stop (hooks : List Hook) (server : TcpServer) : TcpServer × Bool :=
  if server.stopped then (server, false)
  else
    let server := stopAccepting { server with stopped := true, draining := false }
    match server.forceCloseAllConnections hooks with
    | (server, true) => (server, true)
    | (server, false) => server.stopPool

def stopDraining (server : TcpServer) : TcpServer × Bool :=
  if server.stopped then (server, false)
  else
    let server := stopAccepting { server with stopped := true, draining := true }
    if server.connections.isEmpty then stopPool { server with draining := false }
    else (server, false)

/-- User code in the callbacks of `connectEstablished`, up to its first exception. -/
def runUser (sockfd : SocketFd) : List UserCall → TcpServer → TcpServer × Bool
  | [], server => (server, false)
  | .pointer pointer :: rest, server => runUser sockfd rest (server.pointer sockfd pointer)
  | .stop hooks :: rest, server =>
      match server.stop hooks with
      | (server, true) => (server, true)
      | (server, false) => runUser sockfd rest server
  | .stopDraining :: rest, server =>
      match server.stopDraining with
      | (server, true) => (server, true)
      | (server, false) => runUser sockfd rest server
  | .throw :: _, server => (server, true)

/-- `runInLoop` of `connectEstablished`. -/
def establish (sockfd : SocketFd) (user : List UserCall) (server : TcpServer) : TcpServer × Bool :=
  let server := server.handOver sockfd
  match server.ioLoop sockfd with
  | .base => runUser sockfd user server
  | .worker _ =>
      ({ server with
        queued := sockfd :: server.queued
        holdings := server.holdings.copy sockfd .functor }, false)

/-- `newConnection` from the construction of the connection on. -/
def construct (sockfd : SocketFd) (circumstances : Circumstances) (server : TcpServer) :
    TcpServer × Bool :=
  let server := server.hold fun holdings => holdings.take sockfd .newConnection
  let leave (server : TcpServer) : TcpServer :=
    server.hold fun holdings => holdings.drop sockfd .newConnection
  match circumstances.failure with
  | some .members | some .insert => (leave server, true)
  | failure =>
      let server :=
        { server with
          connections := sockfd :: server.connections
          holdings := server.holdings.copy sockfd .connections }
      if failure = some .setUp then (leave server, true)
      else
        let result := server.establish sockfd circumstances.user
        (leave result.1, result.2)

end TcpServer

/-- No `Socket` has the descriptor yet. -/
def Place.isEarly : Place → Bool
  | .connName | .makeShared | .impl | .socket => true
  | .members | .insert | .setUp => false

namespace TcpServer

def newConnection (sockfd : SocketFd) (circumstances : Circumstances) (server : TcpServer) :
    TcpServer × Bool :=
  if server.stopped then (server.hold fun holdings => holdings.close sockfd, false)
  else
    match server.threadPool.getNextLoop with
    | .error _ => (server, true)
    | .ok (ioLoop, threadPool) =>
        let server :=
          { server with
            threadPool
            nextConnId := server.nextConnId + 1
            ioLoop := Function.update server.ioLoop sockfd ioLoop }
        if circumstances.failure.any Place.isEarly then (server, true)
        else server.construct sockfd circumstances

def elsewhere (server : TcpServer) : Elsewhere → TcpServer
  | .quit index => { server with threadPool := server.threadPool.quit index }
  | .ran sockfd pointers =>
      if .functor ∈ server.holdings.holders sockfd then
        hold (fun holdings => holdings.drop sockfd .functor)
          { server.pointers sockfd pointers with queued := server.queued.erase sockfd }
      else server
  | .copied sockfd =>
      if .user ∈ server.holdings.holders sockfd then server.pointer sockfd .copy else server
  | .reset sockfd => server.hold fun holdings => holdings.drop sockfd .user

/-- `Acceptor::handleRead`, with what `accept` returns. After the results there are none
to wait for, and a listening socket that was closed gives no result. -/
def handleRead : List AcceptResult → TcpServer → TcpServer × Bool
  | [], server => (server, false)
  | result :: rest, server =>
      if !server.listening then (server, false)
      else
        match result with
        | .accepted circumstances =>
            let server := circumstances.meanwhile.foldl elsewhere server
            let connfd := server.accepted
            let server := { server with accepted := server.accepted + 1 }
            if server.newConnectionCallback then
              match server.newConnection connfd circumstances with
              | (server, true) => (server, true)
              | (server, false) => handleRead rest server
            else handleRead rest (server.hold fun holdings => holdings.close connfd)
        | .interrupted => handleRead rest server
        | .wouldBlock | .failed => (server, false)

/-- `start`, with the number of workers, unless the startup fails. -/
def start (workers : Option Nat) (server : TcpServer) : TcpServer × Bool :=
  if server.started then (server, false)
  else
    let server := { server with started := true, stopped := false }
    match server.threadPool.assertStable, workers with
    | .ok (), some workers =>
        ({ server with
          listening := true
          threadPool :=
            if server.threadPool.state = .running then server.threadPool else .started workers },
          false)
    | .ok (), none => ({ server.stopPool.1 with started := false }, true)
    -- neither `start` nor `stop` of the pool gets further than this
    | .error _, _ => (server, true)

def onDrainTimeout (hooks : List Hook) (server : TcpServer) : TcpServer × Bool :=
  if !server.draining then (server, false)
  else
    match { server with draining := false }.forceCloseAllConnections hooks with
    | (server, true) => (server, true)
    | (server, false) => server.stopPool

/-- The end of `removeConnectionInLoop`. -/
def finishDraining (server : TcpServer) : TcpServer × Bool :=
  if server.draining && server.connections.isEmpty then stopPool { server with draining := false }
  else (server, false)

def removeConnectionInLoop (sockfd : SocketFd) (user : List UserCall) (server : TcpServer) :
    TcpServer × Bool :=
  if sockfd ∈ server.connections then
    let server := handOver sockfd { server with connections := server.connections.erase sockfd }
    match server.ioLoop sockfd with
    | .base =>
        let result := server.runUser sockfd user
        let server := result.1.hold fun holdings => holdings.drop sockfd .connections
        if result.2 then (server, true) else server.finishDraining
    | .worker _ =>
        finishDraining
          { server with
            queued := sockfd :: server.queued
            holdings := server.holdings.move sockfd .connections .functor }
  else (server, false)

inductive Action where
  | start (workers : Option Nat)
  | handleRead (results : List AcceptResult)
  | stop (hooks : List Hook)
  | stopDraining
  | onDrainTimeout (hooks : List Hook)
  | removeConnectionInLoop (sockfd : SocketFd) (user : List UserCall)
  | elsewhere (act : Elsewhere)
  deriving DecidableEq, Repr

def step (server : TcpServer) : Action → TcpServer
  | .start workers => (server.start workers).1
  | .handleRead results => (server.handleRead results).1
  | .stop hooks => (server.stop hooks).1
  | .stopDraining => server.stopDraining.1
  | .onDrainTimeout hooks => (server.onDrainTimeout hooks).1
  | .removeConnectionInLoop sockfd user => (server.removeConnectionInLoop sockfd user).1
  | .elsewhere act => server.elsewhere act

end TcpServer

end Accept

end MiniTrantor.Net
