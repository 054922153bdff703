import MiniTrantor.Net.Client.Connector
import MiniTrantor.Net.Connection.State

/-!
# TcpClient

A client with the connectors and connections that it made. As in the connector,
a function is given up to the hook that it runs, and what is left to do after
the hook is kept. `connect`, `stop` and `disconnect` run in the loop, so that a
call from another thread is one that the loop makes between its steps.

A connector queues its starts, so none of its hooks is ever run from inside
another function: at the bottom of the stack there is at most the hook of one
connector, and over it only hooks of connections.
-/

set_option autoImplicit false

namespace MiniTrantor.Net

abbrev ConnectorId := Nat
abbrev ConnectionId := Nat

namespace TcpClient

inductive ConnectPhase where
  | idle
  | resolving
  | connecting
  | connected
  deriving DecidableEq, Repr

/-- A connector with what the callbacks that `initConnector` sets have captured. -/
structure Attempt where
  address : SocketAddress
  generation : Nat
  connector : Connector
  deriving DecidableEq, Repr

/-- Functors that the client queues in its loop. -/
inductive Functor where
  | reconnect (generation : Nat)
  | advance (generation : Nat) (attempt : ConnectorId)
  | connectDestroyed (connection : ConnectionId)
  deriving DecidableEq, Repr

/-- A connector that waits for its hook, and whether the hook reaches the user. -/
structure Hook where
  id : ConnectorId
  frame : Connector.Frame
  runs : Bool
  deriving DecidableEq, Repr

/-- Hooks of a connection: `connectEstablished` follows the first, `removeConnection` the third. -/
inductive Session where
  | handshakeStarted (connection : ConnectionId) (runs : Bool)
  | established (connection : ConnectionId)
  | disconnected (connection : ConnectionId)
  | destroyed (connection : ConnectionId)
  deriving DecidableEq, Repr

inductive Event where
  | resolved (generation : Nat) (addresses : List SocketAddress)
  | candidate (generation : Nat) (address : SocketAddress)
  | emitted (generation : Nat) (address : SocketAddress) (event : ConnectorEvent)
  | newConnection (connection : ConnectionId) (found : Option ConnectionId)
  | removeConnection (connection : ConnectionId) (found : Option ConnectionId)
  deriving DecidableEq, Repr

end TcpClient

open TcpClient in
structure TcpClient where
  retry : Bool := false
  connect : Bool := false
  nextConnId : ConnectionId := 1
  fixedAddress : Option SocketAddress := none
  connectorOptions : ConnectorOptions := {}
  tlsContext : Bool := false
  tlsEventCallback : Bool := false
  connectorEventCallback : Bool := false
  connectPhase : ConnectPhase := .idle
  connectGeneration : Nat := 0
  candidates : List SocketAddress := []
  nextCandidate : Nat := 0
  connector : Option ConnectorId := none
  connection : Option ConnectionId := none
  attempts : ConnectorId → Attempt := fun _ =>
    { address := { family := 0, address := 0, port := 0 }, generation := 0, connector := {} }
  nextConnector : ConnectorId := 0
  sockets : SocketId := 0
  connections : ConnectionId → Option StateE := fun _ => none
  queue : List TcpClient.Functor := []
  resolutions : List Nat := []
  writable : Option (ConnectorId × Nat) := none
  hook : Option Hook := none
  sessions : List Session := []
  trace : List TcpClient.Event := []

namespace TcpClient

/-- The connectors when the given one has been changed. -/
def withConnector (id : ConnectorId) (connector : Connector) (client : TcpClient) :
    ConnectorId → Attempt :=
  Function.update client.attempts id { client.attempts id with connector }

def setState (connection : ConnectionId) (state : StateE) (client : TcpClient) : TcpClient :=
  { client with connections := Function.update client.connections connection (some state) }

def queueInLoop (functor : Functor) (client : TcpClient) : TcpClient :=
  { client with queue := client.queue ++ [functor] }

/-- `if (auto previous = std::move(connector_)) { previous->stop(); }` -/
def stopPrevious (client : TcpClient) : TcpClient :=
  { client with
    connector := none
    attempts :=
      match client.connector with
      | some previous =>
          client.withConnector previous (client.attempts previous).connector.stop.connector
      | none => client.attempts }

def initConnector (address : SocketAddress) (options : ConnectorOptions) (client : TcpClient) :
    TcpClient :=
  let connector := { Connector.create options with
    newConnectionCallback := true
    connectorEventCallback := true }
  { client with
    connector := some client.nextConnector
    nextConnector := client.nextConnector + 1
    attempts := Function.update client.attempts client.nextConnector
      { address, generation := client.connectGeneration, connector } }

/-- `connector_->start()` -/
def startConnector (client : TcpClient) : TcpClient :=
  { client with
    attempts :=
      match client.connector with
      | some id => client.withConnector id (client.attempts id).connector.start
      | none => client.attempts }

def resolveAndConnect (client : TcpClient) : TcpClient :=
  { client with
    connectPhase := .resolving
    resolutions := client.resolutions ++ [client.connectGeneration] }

def connectInLoop (client : TcpClient) : TcpClient :=
  let client := { client with connect := true }
  if client.connectPhase = .connected then
    match client.connection with
    | some current =>
        if client.connections current = some .kDisconnected then
          client.queueInLoop (.reconnect client.connectGeneration)
        else client
    | none => client
  else if client.connectPhase ≠ .idle then client
  else
    let client := { client with
      connectGeneration := client.connectGeneration + 1
      candidates := []
      nextCandidate := 0 }.stopPrevious
    match client.fixedAddress with
    | none => client.resolveAndConnect
    | some address =>
        ({ client with connectPhase := .connecting }.initConnector address
          client.connectorOptions).startConnector

def stopInLoop (client : TcpClient) : TcpClient :=
  let client := { client with
    connect := false
    connectGeneration := client.connectGeneration + 1
    candidates := []
    nextCandidate := 0
    connectPhase :=
      if client.connectPhase ≠ ConnectPhase.connected then .idle else client.connectPhase }
  client.stopPrevious

/-- `TcpConnection::shutdown` -/
def shutdown (connection : ConnectionId) (client : TcpClient) : TcpClient :=
  if client.connections connection = some .kConnected then
    client.setState connection .kDisconnecting
  else client

def disconnectInLoop (client : TcpClient) : TcpClient :=
  let client := client.stopInLoop
  match client.connection with
  | some connection => client.shutdown connection
  | none => client

/-- `TcpConnection::connectEstablished` up to its hooks. -/
def connectEstablished (connection : ConnectionId) (client : TcpClient) : TcpClient :=
  let client := client.setState connection .kConnected
  { client with sessions := .established connection :: client.sessions }

/-- `newConnection` up to its first hook. -/
def newConnection (client : TcpClient) : TcpClient :=
  let connection := client.nextConnId
  let client := { client with
    nextConnId := connection + 1
    connection := some connection
    connectPhase := .connected
    candidates := []
    nextCandidate := 0
    trace := client.trace ++ [Event.newConnection connection client.connection] }.setState connection
      .kConnecting
  if client.tlsContext then
    { client with
      sessions := .handshakeStarted connection client.tlsEventCallback :: client.sessions }
  else client.connectEstablished connection

def removeConnection (connection : ConnectionId) (client : TcpClient) : TcpClient :=
  let client := { client with
    connection := none
    connectPhase := .idle
    trace := client.trace ++ [Event.removeConnection connection client.connection] }.queueInLoop
      (.connectDestroyed connection)
  if client.retry && client.connect then client.connectInLoop else client

/-- `TcpConnection::handleClose` up to the notification. -/
def handleClose (connection : ConnectionId) (client : TcpClient) : TcpClient :=
  let client := client.setState connection .kDisconnected
  { client with sessions := .disconnected connection :: client.sessions }

def connectDestroyed (connection : ConnectionId) (client : TcpClient) : TcpClient :=
  if client.connections connection = some .kConnected then
    let client := client.setState connection .kDisconnected
    { client with sessions := .destroyed connection :: client.sessions }
  else client

def startNextCandidate (client : TcpClient) : TcpClient :=
  let client := client.stopPrevious
  if client.nextCandidate = client.candidates.length then
    { client with candidates := [], nextCandidate := 0, connectPhase := .idle }
  else
    match client.candidates[client.nextCandidate]? with
    | none => client
    | some address =>
        ({ client with
          connectPhase := .connecting
          nextCandidate := client.nextCandidate + 1
          trace := client.trace ++
            [Event.candidate client.connectGeneration address] }.initConnector address
              { client.connectorOptions with enableRetry := false }).startConnector

/-- The callback of `resolveAndConnect`; without addresses the resolution failed. -/
def handleResolved (generation : Nat) (addresses : Option (List SocketAddress))
    (client : TcpClient) : TcpClient :=
  if generation ≠ client.connectGeneration || !client.connect then client
  else
    match addresses with
    | none => { client with connectPhase := .idle }
    | some addresses =>
        { client with
          candidates := addresses
          nextCandidate := 0
          trace := client.trace ++ [Event.resolved generation addresses] }.startNextCandidate

def isFailure : ConnectorEvent → Bool
  | .connectFailed | .connectTimeout | .selfConnectDetected => true
  | _ => false

/-- `handleConnectorEvent` up to the user's hook. -/
def handleConnectorEvent (event : ConnectorEvent) (generation : Nat) (attempt : ConnectorId)
    (client : TcpClient) : TcpClient :=
  if isFailure event && client.fixedAddress.isNone then
    { client with
      connectPhase :=
        if client.nextCandidate = client.candidates.length then .idle else client.connectPhase
      }.queueInLoop (.advance generation attempt)
  else if isFailure event then { client with connectPhase := .idle }
  else if event = .connectAttempt ∨ event = .retryScheduled then
    { client with connectPhase := .connecting }
  else client

/-- The event is the client's business: its connector has not been replaced. -/
def concerns (attempt : ConnectorId) (client : TcpClient) : Bool :=
  (client.attempts attempt).generation = client.connectGeneration && client.connector = some attempt

/-- The event callback of `initConnector`. -/
def connectorCallback (event : ConnectorEvent) (attempt : ConnectorId) (client : TcpClient) :
    TcpClient :=
  if client.concerns attempt then
    client.handleConnectorEvent event (client.attempts attempt).generation attempt
  else client

/-- The new connection callback of `initConnector`; the socket is closed otherwise. -/
def newConnectionCallback (attempt : ConnectorId) (client : TcpClient) : TcpClient :=
  if client.concerns attempt && client.connect then client.newConnection else client

/-- What a stretch leaves of its connector. -/
def ran (id : ConnectorId) (turn : Connector.Turn) (client : TcpClient) : TcpClient :=
  { client with
    attempts := client.withConnector id turn.connector
    sockets := client.sockets + turn.created.toList.length
    hook := none }

/-- `emitEvent` of a connector. -/
def emitEvent (id : ConnectorId) (event : ConnectorEvent) (frame : Connector.Frame)
    (client : TcpClient) : TcpClient :=
  { client with
    hook := some { id, frame, runs := client.concerns id && client.connectorEventCallback }
    trace := client.trace ++
      [Event.emitted (client.attempts id).generation
        (client.attempts id).address event] }.connectorCallback event id

/-- A stretch of a connector with the callback that it ends with. -/
def take (id : ConnectorId) (turn : Connector.Turn) (client : TcpClient) : TcpClient :=
  match turn.next with
  | .done => client.ran id turn
  | .emit event frame => (client.ran id turn).emitEvent id event frame
  | .deliver _ =>
      { client.ran id turn with
        hook := some { id, frame := .delivering, runs := false } }.newConnectionCallback id

inductive Action where
  | connect
  | stop
  | disconnect
  | setRetry (retry : Bool)
  | enableSsl
  | setTlsEventCallback (set : Bool)
  | setConnectorEventCallback (set : Bool)
  | shutdown (connection : ConnectionId)
  | close (connection : ConnectionId)
  | startInLoop (id : ConnectorId) (generation : Nat)
  | handleEvent (id : ConnectorId) (error write : Bool) (probe : Probe)
  | handleTimer (id : ConnectorId) (timer : ConnectTimer)
  | resolved (generation : Nat) (addresses : Option (List SocketAddress))
  | execute (functor : Functor)
  | resume (opening : Opening) (probe : Probe)
  deriving DecidableEq, Repr

/-- The loop is between two of its steps. -/
def idle (client : TcpClient) : Bool :=
  client.sessions.isEmpty && client.hook.isNone && client.writable.isNone

/-- User code runs. -/
def callable (client : TcpClient) : Bool :=
  match client.sessions with
  | .handshakeStarted _ runs :: _ => runs
  | _ :: _ => true
  | [] =>
      match client.hook with
      | some hook => hook.runs
      | none => client.writable.isNone

def execute (functor : Functor) (client : TcpClient) : TcpClient :=
  match functor with
  | .reconnect generation =>
      if generation ≠ client.connectGeneration || !client.connect then client
      else client.connectInLoop
  | .advance generation attempt =>
      if generation ≠ client.connectGeneration || !client.connect then client
      else if client.connector ≠ some attempt then client
      else client.startNextCandidate
  | .connectDestroyed connection => client.connectDestroyed connection

/-- What is done when the hook on the top of the stack returns. -/
def resume (opening : Opening) (probe : Probe) (client : TcpClient) : Option TcpClient :=
  match client.sessions with
  | .handshakeStarted connection _ :: rest =>
      some ({ client with sessions := rest }.connectEstablished connection)
  | .disconnected connection :: rest =>
      some ({ client with sessions := rest }.removeConnection connection)
  | .established _ :: rest | .destroyed _ :: rest => some { client with sessions := rest }
  | [] =>
      match client.hook, client.writable with
      | some hook, _ =>
          some (client.take hook.id
            ((client.attempts hook.id).connector.resume hook.frame client.sockets opening))
      | none, some (id, generation) =>
          some ({ client with writable := none }.take id
            ((client.attempts id).connector.handleWrite generation probe))
      | none, none => none

/-- The poller knows the channel of a connector as long as it is registered. -/
def handleEvent (id : ConnectorId) (error write : Bool) (probe : Probe) (client : TcpClient) :
    Option TcpClient :=
  match (client.attempts id).connector.channel with
  | some channel =>
      if error then
        some ({ client with
          writable := if write then some (id, channel.generation) else none }.take id
            ((client.attempts id).connector.handleError channel.generation))
      else if write then
        some (client.take id ((client.attempts id).connector.handleWrite channel.generation probe))
      else some client
  | none => none

def step (client : TcpClient) : Action → Option TcpClient
  | .connect => if client.callable then some client.connectInLoop else none
  | .stop => if client.callable then some client.stopInLoop else none
  | .disconnect => if client.callable then some client.disconnectInLoop else none
  | .setRetry retry => if client.callable then some { client with retry } else none
  | .enableSsl => if client.callable then some { client with tlsContext := true } else none
  | .setTlsEventCallback set =>
      if client.callable then some { client with tlsEventCallback := set } else none
  | .setConnectorEventCallback set =>
      if client.callable then some { client with connectorEventCallback := set } else none
  | .shutdown connection => if client.callable then some (client.shutdown connection) else none
  -- a write that fails closes a connection that is not even established
  | .close connection =>
      if client.callable && (client.connections connection).any (· != .kDisconnected) then
        some (client.handleClose connection)
      else none
  | .startInLoop id generation =>
      let connector := (client.attempts id).connector
      if client.idle && connector.starts.contains generation then
        some (client.take id
          ({ connector with starts := connector.starts.erase generation }.startInLoop generation))
      else none
  | .handleEvent id error write probe =>
      if client.idle then client.handleEvent id error write probe else none
  | .handleTimer id timer =>
      let connector := (client.attempts id).connector
      if client.idle && connector.timers.contains timer then
        some (client.take id (connector.handleTimer timer))
      else none
  | .resolved generation addresses =>
      if client.idle && client.resolutions.contains generation then
        some ({ client with
          resolutions := client.resolutions.erase generation }.handleResolved generation addresses)
      else none
  | .execute functor =>
      if client.idle && client.queue.contains functor then
        some ({ client with queue := client.queue.erase functor }.execute functor)
      else none
  | .resume opening probe => client.resume opening probe

/-- A client for an address, with the options of its constructor. -/
def atAddress (address : SocketAddress) (retry : Bool) (options : ConnectorOptions) : TcpClient :=
  { fixedAddress := some address, retry, connectorOptions := options }

/-- A client for the name of a host. -/
def atHostname : TcpClient := {}

end TcpClient

end MiniTrantor.Net
