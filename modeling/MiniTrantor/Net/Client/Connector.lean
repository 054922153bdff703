import Mathlib

/-!
# Connector

One `Connector` with what it has left in its loop: queued starts, timers and a
registered channel. User hooks run in the middle of its functions, so a function
is given as the stretches between hooks; a stretch ends with the hook it calls
and what is left to do after it.
-/

set_option autoImplicit false

namespace MiniTrantor.Net

/-- A socket that was created, whatever descriptor it has. -/
abbrev SocketId := Nat

inductive ConnectorEvent where
  | connectAttempt
  | connectSuccess
  | connectFailed
  | connectTimeout
  | selfConnectDetected
  | retryScheduled
  deriving DecidableEq, Repr

/-- Error numbers that the connector tells apart. -/
inductive SocketError where
  | inProgress
  | isConnected
  | interrupted
  | again
  | addressInUse
  | addressNotAvailable
  | connectionRefused
  | networkUnreachable
  | other
  deriving DecidableEq, Repr

namespace SocketError

def isInProgress : SocketError → Bool
  | .inProgress | .isConnected => true
  | _ => false

def isInterrupted : SocketError → Bool
  | .interrupted => true
  | _ => false

def isConnectRetryable : SocketError → Bool
  | .again | .addressInUse | .addressNotAvailable | .connectionRefused | .networkUnreachable => true
  | _ => false

end SocketError

/-- What `createNonblocking` and then `connect` answered. -/
inductive Opening where
  | unavailable (error : SocketError)
  | opened (connectError : Option SocketError)
  deriving DecidableEq, Repr

structure SocketAddress where
  family : Nat
  address : Nat
  port : Nat
  deriving DecidableEq, Repr

/-- What `handleWrite` asks about a socket that became writable. -/
structure Probe where
  socketError : Nat := 0
  localAddress : SocketAddress
  peerAddress : SocketAddress
  deriving DecidableEq, Repr

def Probe.selfConnect (probe : Probe) : Bool :=
  probe.localAddress.family = probe.peerAddress.family &&
    probe.localAddress.port = probe.peerAddress.port &&
    probe.localAddress.address = probe.peerAddress.address

structure ConnectorOptions where
  initRetryDelay : Int := 500
  maxRetryDelay : Int := 30000
  connectTimeout : Int := 0
  enableRetry : Bool := false
  deriving DecidableEq, Repr

def ConnectorOptions.validate (options : ConnectorOptions) : Except String Unit :=
  if options.initRetryDelay ≤ 0 then .error "ConnectorOptions: initRetryDelay must be positive"
  else if options.maxRetryDelay < options.initRetryDelay then
    .error "ConnectorOptions: maxRetryDelay must be >= initRetryDelay"
  else if options.connectTimeout < 0 then
    .error "ConnectorOptions: connectTimeout must be non-negative"
  else .ok ()

/-- The generation is captured by the callbacks that `connecting` sets. -/
structure ConnectChannel where
  fd : SocketId
  generation : Nat
  deriving DecidableEq, Repr

inductive ConnectTimer.Kind where
  | connectTimeout
  | retry
  deriving DecidableEq, Repr

structure ConnectTimer where
  id : Nat
  kind : ConnectTimer.Kind
  generation : Nat
  delay : Int
  deriving DecidableEq, Repr

namespace Connector

inductive Phase where
  | idle
  | startQueued
  | connecting
  | connected
  | retryWaiting
  deriving DecidableEq, Repr

end Connector

structure Connector where
  phase : Connector.Phase := .idle
  generation : Nat := 0
  retryEnabled : Bool := false
  newConnectionCallback : Bool := false
  connectorEventCallback : Bool := false
  channel : Option ConnectChannel := none
  initialRetryDelay : Int := 500
  retryDelay : Int := 500
  maxRetryDelay : Int := 30000
  connectTimeout : Int := 0
  retryTimerId : Option Nat := none
  connectTimeoutTimerId : Option Nat := none
  starts : List Nat := []
  timers : List ConnectTimer := []
  nextTimer : Nat := 1
  deriving DecidableEq, Repr

namespace Connector

/-- What is left to do when a hook returns. -/
inductive Frame where
  | attempting (generation : Nat)
  | succeeding (generation : Nat) (socket : SocketId)
  | delivering
  | failing (generation : Nat) (retryable : Bool)
  | retrying
  deriving DecidableEq, Repr

inductive Next where
  | done
  | emit (event : ConnectorEvent) (frame : Frame)
  | deliver (socket : SocketId)
  deriving DecidableEq, Repr

/-- A stretch of code up to the next hook: the sockets it made and closed. -/
structure Turn where
  connector : Connector
  created : Option SocketId := none
  closed : Option SocketId := none
  next : Next := .done
  deriving DecidableEq, Repr

def create (options : ConnectorOptions) : Connector :=
  { retryEnabled := options.enableRetry
    initialRetryDelay := options.initRetryDelay
    retryDelay := options.initRetryDelay
    maxRetryDelay := options.maxRetryDelay
    connectTimeout := options.connectTimeout }

def runAfter (kind : ConnectTimer.Kind) (generation : Nat) (delay : Int) (connector : Connector) :
    Connector :=
  { connector with
    timers := connector.timers ++ [{ id := connector.nextTimer, kind, generation, delay }]
    nextTimer := connector.nextTimer + 1 }

def cancelTimers (connector : Connector) : Connector :=
  { connector with
    timers := connector.timers.filter fun timer =>
      some timer.id ≠ connector.retryTimerId && some timer.id ≠ connector.connectTimeoutTimerId
    retryTimerId := none
    connectTimeoutTimerId := none }

def start (connector : Connector) : Connector :=
  if connector.phase ≠ .idle then connector
  else
    { connector with
      phase := .startQueued
      generation := connector.generation + 1
      starts := connector.starts ++ [connector.generation + 1] }

/-- The channel is removed at once, so nothing else of it is of interest. -/
def removeAndResetChannel (connector : Connector) : Connector := { connector with channel := none }

/-- `stop` with the socket it closes. -/
def stop (connector : Connector) : Turn :=
  let connector := { connector with generation := connector.generation + 1, phase := .idle }
  let connector := connector.cancelTimers
  { connector := connector.removeAndResetChannel, closed := connector.channel.map (·.fd) }

def restart (connector : Connector) : Turn :=
  let turn := connector.stop
  { turn with
    connector := { turn.connector with retryDelay := turn.connector.initialRetryDelay }.start }

/-- Arguments that are out of range throw and change nothing. -/
def setRetryDelay (initial max : Int) (connector : Connector) : Connector :=
  if initial ≤ 0 ∨ max < initial then connector
  else
    { connector with initialRetryDelay := initial, retryDelay := initial, maxRetryDelay := max }

/-- The destructor. -/
def destroy (connector : Connector) : Turn :=
  if connector.channel.isSome || connector.retryTimerId.isSome ||
      connector.connectTimeoutTimerId.isSome then
    let connector := connector.cancelTimers
    { connector := connector.removeAndResetChannel, closed := connector.channel.map (·.fd) }
  else { connector }

/-- `fail` up to the hook of its event. -/
def fail (sockfd : Option SocketId) (event : ConnectorEvent) (generation : Nat) (retryable : Bool)
    (connector : Connector) : Turn :=
  let connector := connector.cancelTimers
  { connector := { connector with phase := .idle }
    closed := sockfd
    next := .emit event (.failing generation retryable) }

def scheduleRetry (generation : Nat) (connector : Connector) : Turn :=
  let connector := { connector with
    phase := .retryWaiting
    retryTimerId := some connector.nextTimer }.runAfter .retry generation connector.retryDelay
  { connector := { connector with
      retryDelay :=
        if connector.retryDelay > connector.maxRetryDelay - connector.retryDelay then
          connector.maxRetryDelay
        else connector.retryDelay * 2 }
    next := .emit .retryScheduled .retrying }

/-- The rest of `fail`. -/
def failed (generation : Nat) (retryable : Bool) (connector : Connector) : Turn :=
  if connector.generation = generation ∧ connector.phase = .idle ∧ connector.retryEnabled ∧
      retryable then
    connector.scheduleRetry generation
  else { connector }

def connecting (socket : SocketId) (generation : Nat) (connector : Connector) : Connector :=
  let connector := { connector with channel := some { fd := socket, generation } }
  if connector.connectTimeout > 0 then
    { connector with connectTimeoutTimerId := some connector.nextTimer }.runAfter .connectTimeout
      generation connector.connectTimeout
  else connector

/-- `startInLoop` up to the hook of the attempt. -/
def startInLoop (generation : Nat) (connector : Connector) : Turn :=
  if connector.generation ≠ generation ∨ connector.phase ≠ .startQueued then { connector }
  else
    { connector := { connector with phase := .connecting }
      next := .emit .connectAttempt (.attempting generation) }

/-- The rest of `startInLoop`, with the next socket and what the system said. -/
def attempted (generation : Nat) (socket : SocketId) (opening : Opening) (connector : Connector) :
    Turn :=
  if connector.generation ≠ generation ∨ connector.phase ≠ .connecting then { connector }
  else
    match opening with
    | .unavailable error =>
        connector.fail none .connectFailed generation error.isConnectRetryable
    | .opened none => { connector := connector.connecting socket generation, created := some socket }
    | .opened (some error) =>
        if error.isInProgress || error.isInterrupted then
          { connector := connector.connecting socket generation, created := some socket }
        else
          { connector.fail (some socket) .connectFailed generation error.isConnectRetryable with
            created := some socket }

/-- `handleWrite` up to the hook of its outcome. -/
def handleWrite (generation : Nat) (probe : Probe) (connector : Connector) : Turn :=
  if connector.generation ≠ generation ∨ connector.phase ≠ .connecting then { connector }
  else
    match connector.channel with
    | none => { connector }
    | some channel =>
        let connector := connector.cancelTimers.removeAndResetChannel
        if probe.socketError ≠ 0 then
          connector.fail (some channel.fd) .connectFailed generation true
        else if probe.selfConnect then
          connector.fail (some channel.fd) .selfConnectDetected generation true
        else
          { connector := { connector with phase := .connected }
            next := .emit .connectSuccess (.succeeding generation channel.fd) }

/-- The rest of `handleWrite`; a socket that is not delivered is closed by its
`Socket` object. -/
def succeeded (generation : Nat) (socket : SocketId) (connector : Connector) : Turn :=
  if connector.generation ≠ generation ∨ connector.phase ≠ .connected then
    { connector, closed := some socket }
  else if connector.newConnectionCallback then { connector, next := .deliver socket }
  else { connector := { connector with phase := .idle }, closed := some socket }

def handleError (generation : Nat) (connector : Connector) : Turn :=
  if connector.generation ≠ generation ∨ connector.phase ≠ .connecting then { connector }
  else
    match connector.channel with
    | none => { connector }
    | some channel =>
        connector.removeAndResetChannel.fail (some channel.fd) .connectFailed generation true

def handleConnectTimeout (generation : Nat) (connector : Connector) : Turn :=
  if connector.generation ≠ generation ∨ connector.phase ≠ .connecting then { connector }
  else
    match connector.channel with
    | none => { connector }
    | some channel =>
        { connector with connectTimeoutTimerId := none }.removeAndResetChannel.fail
          (some channel.fd) .connectTimeout generation true

/-- The callback of the timer that `scheduleRetry` sets. -/
def handleRetry (generation : Nat) (connector : Connector) : Turn :=
  if connector.generation ≠ generation ∨ connector.phase ≠ .retryWaiting then { connector }
  else { connector := { connector with retryTimerId := none, phase := .idle }.start }

def handleTimer (timer : ConnectTimer) (connector : Connector) : Turn :=
  let connector := { connector with timers := connector.timers.erase timer }
  match timer.kind with
  | .connectTimeout => connector.handleConnectTimeout timer.generation
  | .retry => connector.handleRetry timer.generation

/-- What a function does when its hook returns. -/
def resume (frame : Frame) (socket : SocketId) (opening : Opening) (connector : Connector) : Turn :=
  match frame with
  | .attempting generation => connector.attempted generation socket opening
  | .succeeding generation held => connector.succeeded generation held
  | .failing generation retryable => connector.failed generation retryable
  | .delivering | .retrying => { connector }

end Connector

end MiniTrantor.Net
