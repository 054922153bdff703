import MiniTrantor.Net.Client.TcpClient
import MiniTrantor.Net.Client.ConnectorInvariant

/-!
# What a client is busy with

A client is busy with a resolution, a connector or a connection. What holds of its
resolutions, its connectors and the advances that are queued does not depend on what becomes
of its connections. The phase tells which of these the client is busy with, as long as no
connection is closed before it is established.
-/

set_option autoImplicit false

namespace MiniTrantor.Net

/-- The connector has begun and not ended its work. -/
def Connector.Phase.inFlight : Connector.Phase → Bool
  | .startQueued | .connecting | .retryWaiting => true
  | .idle | .connected => false

namespace TcpClient

/-- The function of a connector that waits for its hook. -/
def hookOf (client : TcpClient) (id : ConnectorId) : Option Connector.Frame :=
  client.hook.bind fun hook => if hook.id = id then some hook.frame else none

/-- Every connector is as its hook expects, and those that were replaced are stopped. -/
structure Connectors (client : TcpClient) : Prop where
  valid : ∀ id, Connector.Valid (client.hookOf id) (client.attempts id).connector
  halted : ∀ id, client.connector ≠ some id →
    Connector.Halted (client.hookOf id) (client.attempts id).connector
  known : ∀ hook, client.hook = some hook → hook.id < client.nextConnector

/-- The connector of the client, if there is one. -/
structure Attempting (client : TcpClient) : Prop extends Connectors client where
  made : ∀ id, client.connector = some id → id < client.nextConnector ∧
    (client.attempts id).generation = client.connectGeneration ∧ client.connect = true

/-- The answers that are still to come. -/
structure Resolving (client : TcpClient) : Prop where
  current : ∀ generation ∈ client.resolutions, generation ≤ client.connectGeneration
  single : client.resolutions.count client.connectGeneration ≤ 1
  wanted : client.connectGeneration ∈ client.resolutions →
    client.connect = true ∧ client.connector = none

/-- A hook after which something is done with the connection, and the state that this needs. -/
def Session.pending : Session → Option (ConnectionId × StateE)
  | .handshakeStarted connection _ => some (connection, .kConnecting)
  | .disconnected connection => some (connection, .kDisconnected)
  | .established _ | .destroyed _ => none

/-- The connections, of which all but the client's own are closed. -/
structure Connected (client : TcpClient) : Prop where
  phase : client.connectPhase = .connected ↔ client.connection.isSome = true
  fresh : ∀ connection, client.nextConnId ≤ connection → client.connections connection = none
  known : ∀ connection, client.connection = some connection →
    client.connections connection ≠ none
  closed : ∀ connection, client.connection ≠ some connection →
    client.connections connection = none ∨ client.connections connection = some .kDisconnected
  pending : ∀ session ∈ client.sessions, ∀ connection state,
    session.pending = some (connection, state) →
      client.connection = some connection ∧ client.connections connection = some state
  once : client.sessions.countP (·.pending.isSome) ≤ 1
  entered : ∀ connection found, .newConnection connection found ∈ client.trace → found = none
  left : ∀ connection found, .removeConnection connection found ∈ client.trace →
    found = some connection

/-- The advances that are queued: a candidate that failed is not tried again. -/
structure Advancing (client : TcpClient) : Prop where
  plain : client.fixedAddress = none → ∀ id, client.connector = some id →
    (client.attempts id).connector.retryEnabled = false
  queued : ∀ generation id, .advance generation id ∈ client.queue →
    client.fixedAddress = none ∧ id < client.nextConnector ∧ (client.connector = some id →
      (client.attempts id).connector.phase = .idle)

/-- What is known of a client at every point of a run. -/
structure Coherent (client : TcpClient) : Prop where
  attempting : Attempting client
  resolving : Resolving client
  advancing : Advancing client

/-- What the phase says of the connector of the client. -/
structure Flying (client : TcpClient) : Prop where
  unresolved : client.connector ≠ none → client.connectPhase ≠ .resolving
  flying : ∀ id, client.connector = some id →
    (client.attempts id).connector.phase.inFlight = true → client.connectPhase = .connecting
  waiting : ∀ id frame, client.connector = some id → client.hookOf id = some frame →
    frame.generation? = some (client.attempts id).connector.generation →
      client.connectPhase ≠ .connected

/-- The phase tells what the client is busy with. -/
structure Phased (client : TcpClient) : Prop where
  coherent : Coherent client
  flying : Flying client
  asked : client.connectGeneration ∈ client.resolutions → client.connectPhase = .resolving
  settled : ∀ generation id, .advance generation id ∈ client.queue →
    client.connector = some id → client.connectPhase ≠ .connected
  connected : Connected client

variable {client changed : TcpClient}

section Connectors

theorem withConnector_self (id : ConnectorId) (connector : Connector) :
    client.withConnector id connector id = { client.attempts id with connector } :=
  Function.update_self ..

theorem withConnector_of_ne {id other : ConnectorId} (connector : Connector) (differ : other ≠ id) :
    client.withConnector id connector other = client.attempts other :=
  Function.update_of_ne differ ..

theorem Connectors.same (connectors : Connectors client) (hook : changed.hook = client.hook)
    (connector : changed.connector = client.connector)
    (attempts : changed.attempts = client.attempts)
    (next : changed.nextConnector = client.nextConnector) : Connectors changed := by
  have hooks : ∀ id, changed.hookOf id = client.hookOf id := by
    intro id
    rw [hookOf, hook, hookOf]
  constructor
  · intro id
    rw [hooks, attempts]
    exact connectors.valid id
  · intro id other
    rw [hooks, attempts]
    exact connectors.halted id (connector ▸ other)
  · intro held found
    rw [next]
    exact connectors.known held (hook ▸ found)

theorem Connectors.stopPrevious (connectors : Connectors client) : Connectors client.stopPrevious := by
  cases present : client.connector with
  | none =>
      have attempts : client.stopPrevious.attempts = client.attempts := by
        rw [TcpClient.stopPrevious, present]
      exact connectors.same rfl present.symm attempts rfl
  | some previous =>
      have attempts : client.stopPrevious.attempts =
          client.withConnector previous (client.attempts previous).connector.stop.connector := by
        rw [TcpClient.stopPrevious, present]
      have each : ∀ id, Connector.Valid (client.hookOf id) (client.stopPrevious.attempts id).connector ∧
          Connector.Halted (client.hookOf id) (client.stopPrevious.attempts id).connector := by
        intro id
        rw [attempts]
        by_cases same : id = previous
        · rw [same, withConnector_self]
          exact ⟨(connectors.valid previous).stop, .stop (connectors.valid previous)⟩
        · rw [withConnector_of_ne _ same]
          refine ⟨connectors.valid id, connectors.halted id fun found => same ?_⟩
          exact Option.some.inj (found.symm.trans present)
      exact ⟨fun id => (each id).1, fun id _ => (each id).2, connectors.known⟩

/-- A client without a connector. -/
theorem Connectors.unattached (connectors : Connectors client) (none : client.connector = none) :
    Attempting client := by
  refine ⟨connectors, ?_⟩
  intro id found
  cases none.symm.trans found

theorem Flying.unattached (none : client.connector = none) : Flying client := by
  refine ⟨fun some => absurd none some, ?_, ?_⟩
  · intro id found
    cases none.symm.trans found
  · intro id frame found
    cases none.symm.trans found

/-- A new connector has nothing behind it but the start that it queued. -/
theorem Connectors.begin (connectors : Connectors client) (none : client.connector = none)
    (wanted : client.connect = true) (address : SocketAddress) (options : ConnectorOptions) :
    Attempting (client.initConnector address options).startConnector ∧
      (client.connectPhase = .connecting →
        Flying (client.initConnector address options).startConnector) := by
  have unhooked : client.hookOf client.nextConnector = .none := by
    rw [hookOf, Option.bind_eq_none_iff]
    intro hook found
    exact if_neg (connectors.known hook found).ne
  have fresh : (client.initConnector address options).startConnector.attempts client.nextConnector =
      { address, generation := client.connectGeneration, connector := { Connector.create options with
          newConnectionCallback := true
          connectorEventCallback := true }.start } := by
    simp [startConnector, initConnector, withConnector]
  have older : ∀ id, id ≠ client.nextConnector →
      (client.initConnector address options).startConnector.attempts id = client.attempts id := by
    intro id differ
    simp [startConnector, initConnector, withConnector, differ]
  have created : Connector.Valid .none { Connector.create options with
      newConnectionCallback := true
      connectorEventCallback := true } := (Connector.Valid.create options).same rfl rfl rfl rfl rfl
  have own : ∀ id, (client.initConnector address options).startConnector.connector = some id →
      id = client.nextConnector := fun id found => (Option.some.inj found).symm
  refine ⟨⟨⟨?_, ?_, ?_⟩, ?_⟩, fun phase => ⟨fun _ => ?_, fun _ _ _ => phase, ?_⟩⟩
  · intro id
    change Connector.Valid (client.hookOf id) _
    by_cases same : id = client.nextConnector
    · rw [same, fresh, unhooked]
      exact created.start
    · rw [older id same]
      exact connectors.valid id
  · intro id other
    have differ : id ≠ client.nextConnector := fun same => other (congrArg some same.symm)
    rw [older id differ]
    exact connectors.halted id (by simp [none])
  · exact fun hook found => Nat.lt_succ_of_lt (connectors.known hook found)
  · intro id found
    rw [own id found, fresh]
    exact ⟨Nat.lt_succ_self _, rfl, wanted⟩
  · change client.connectPhase ≠ _
    simp [phase]
  · intro id frame found waits
    rw [own id found] at waits
    cases unhooked.symm.trans waits

theorem Attempting.same (attempting : Attempting client) (hook : changed.hook = client.hook)
    (connector : changed.connector = client.connector)
    (attempts : changed.attempts = client.attempts)
    (next : changed.nextConnector = client.nextConnector)
    (generation : changed.connectGeneration = client.connectGeneration)
    (connect : client.connect = true → changed.connect = true) : Attempting changed := by
  refine ⟨attempting.toConnectors.same hook connector attempts next, ?_⟩
  intro id found
  obtain ⟨below, current, wanted⟩ := attempting.made id (connector ▸ found)
  rw [attempts, next, generation]
  exact ⟨below, current, connect wanted⟩

theorem Flying.same (flying : Flying client) (hook : changed.hook = client.hook)
    (connector : changed.connector = client.connector)
    (attempts : changed.attempts = client.attempts)
    (phase : changed.connectPhase = client.connectPhase) : Flying changed := by
  have hooks : ∀ id, changed.hookOf id = client.hookOf id := by
    intro id
    rw [hookOf, hook, hookOf]
  constructor
  · rw [connector, phase]
    exact flying.unresolved
  · intro id found
    rw [attempts, phase]
    exact flying.flying id (connector ▸ found)
  · intro id frame found
    rw [attempts, hooks, phase]
    exact flying.waiting id frame (connector ▸ found)

end Connectors

theorem Resolving.same (resolving : Resolving client)
    (resolutions : changed.resolutions = client.resolutions)
    (generation : changed.connectGeneration = client.connectGeneration)
    (connect : client.connect = true → changed.connect = true)
    (connector : client.connector = none → changed.connector = none) :
    Resolving changed := by
  refine ⟨?_, ?_, fun waits => ?_⟩
  · rw [resolutions, generation]
    exact resolving.current
  · rw [resolutions, generation]
    exact resolving.single
  · rw [resolutions, generation] at waits
    obtain ⟨wanted, detached⟩ := resolving.wanted waits
    exact ⟨connect wanted, connector detached⟩

/-- Answers of earlier rounds only. -/
theorem Resolving.outdated (older : ∀ generation ∈ client.resolutions,
    generation < client.connectGeneration) : Resolving client := by
  have none : client.connectGeneration ∉ client.resolutions := fun member =>
    Nat.lt_irrefl _ (older _ member)
  refine ⟨fun generation member => (older generation member).le, ?_, fun waits => absurd waits none⟩
  rw [List.count_eq_zero.mpr none]
  exact Nat.zero_le 1

/-- A client with a connector waits for no answer. -/
theorem Resolving.older (resolving : Resolving client)
    (answered : client.connectGeneration ∉ client.resolutions) :
    ∀ generation ∈ client.resolutions, generation < client.connectGeneration := by
  intro generation member
  refine Nat.lt_of_le_of_ne (resolving.current generation member) fun same => ?_
  exact answered (same ▸ member)

theorem Resolving.begin (older : ∀ generation ∈ client.resolutions,
    generation < client.connectGeneration) (wanted : client.connect = true)
    (detached : client.connector = none) : Resolving client.resolveAndConnect := by
  refine ⟨?_, ?_, fun _ => ⟨wanted, detached⟩⟩
  · intro generation member
    rcases List.mem_append.mp member with old | new
    · exact (older generation old).le
    · exact (List.mem_singleton.mp new).le
  · have none : client.connectGeneration ∉ client.resolutions := fun member =>
      Nat.lt_irrefl _ (older _ member)
    change (client.resolutions ++ [client.connectGeneration]).count client.connectGeneration ≤ 1
    rw [List.count_append, List.count_eq_zero.mpr none, List.count_singleton_self]

theorem Resolving.answered (resolving : Resolving client) (generation : Nat) :
    Resolving { client with resolutions := client.resolutions.erase generation } ∧
      (generation = client.connectGeneration →
        client.connectGeneration ∉ client.resolutions.erase generation) := by
  have single := resolving.single
  refine ⟨⟨?_, ?_, fun waits => resolving.wanted (List.mem_of_mem_erase waits)⟩, ?_⟩
  · exact fun other member => resolving.current other (List.mem_of_mem_erase member)
  · exact Nat.le_trans (List.Sublist.count_le _ List.erase_sublist) single
  · intro same
    rw [same, ← List.count_pos_iff, List.count_erase_self]
    omega

section Connections

def Event.isSession : Event → Bool
  | .newConnection .. | .removeConnection .. => true
  | _ => false

theorem Connected.same (connected : Connected client)
    (phase : changed.connectPhase = .connected ↔ client.connectPhase = .connected)
    (next : changed.nextConnId = client.nextConnId)
    (connection : changed.connection = client.connection)
    (connections : changed.connections = client.connections)
    (sessions : changed.sessions = client.sessions)
    (trace : ∀ event ∈ changed.trace, event.isSession = true → event ∈ client.trace) :
    Connected changed := by
  obtain ⟨linked, fresh, known, closed, pending, once, entered, left⟩ := connected
  constructor
  · rw [connection]
    exact phase.trans linked
  · rw [next, connections]
    exact fresh
  · rw [connection, connections]
    exact known
  · rw [connection, connections]
    exact closed
  · rw [connection, connections, sessions]
    exact pending
  · rw [sessions]
    exact once
  · exact fun other found member => entered other found (trace _ member rfl)
  · exact fun other found member => left other found (trace _ member rfl)

/-- No hook is pending for a connection in any other state. -/
theorem Connected.none_pending (connected : Connected client) {connection : ConnectionId}
    {state : StateE} (own : client.connection = some connection)
    (found : client.connections connection = some state) (opened : state ≠ .kConnecting)
    (unclosed : state ≠ .kDisconnected) : ∀ session ∈ client.sessions, session.pending = none := by
  intro session member
  cases waits : session.pending with
  | none => rfl
  | some pair =>
      obtain ⟨other, expected⟩ := pair
      obtain ⟨current, same⟩ := connected.pending session member other expected waits
      cases own.symm.trans current
      cases found.symm.trans same
      cases session with
      | handshakeStarted => exact absurd (congrArg Prod.snd (Option.some.inj waits)).symm opened
      | disconnected => exact absurd (congrArg Prod.snd (Option.some.inj waits)).symm unclosed
      | established => cases waits
      | destroyed => cases waits

theorem Connected.own_of_open (connected : Connected client) {connection : ConnectionId}
    {state : StateE} (found : client.connections connection = some state)
    (unclosed : state ≠ .kDisconnected) : client.connection = some connection := by
  by_contra other
  rcases connected.closed connection other with none | closed
  · cases none.symm.trans found
  · exact unclosed (Option.some.inj (found.symm.trans closed))

/-- The client's own connection changes its state while no hook is pending. -/
theorem Connected.setState (connected : Connected client) {connection : ConnectionId}
    (state : StateE) (own : client.connection = some connection)
    (quiet : ∀ session ∈ client.sessions, session.pending = none) :
    Connected (client.setState connection state) := by
  have self : (client.setState connection state).connections connection = some state :=
    Function.update_self ..
  have others : ∀ other, other ≠ connection →
      (client.setState connection state).connections other = client.connections other :=
    fun other differ => Function.update_of_ne differ ..
  refine ⟨connected.phase, ?_, ?_, ?_, ?_, connected.once, connected.entered, connected.left⟩
  · intro other above
    have differ : other ≠ connection := by
      intro same
      exact connected.known connection own (connected.fresh connection (same ▸ above))
    rw [others other differ]
    exact connected.fresh other above
  · intro other found
    cases own.symm.trans found
    rw [self]
    simp
  · intro other differ
    rw [others other fun same => differ (same ▸ own)]
    exact connected.closed other differ
  · intro session member other expected waits
    cases (quiet session member).symm.trans waits

theorem Connected.push (connected : Connected client) {session : Session}
    (none : session.pending = none) :
    Connected { client with sessions := session :: client.sessions } := by
  refine ⟨connected.phase, connected.fresh, connected.known, connected.closed, ?_, ?_,
    connected.entered, connected.left⟩
  · intro other member
    rcases List.mem_cons.mp member with rfl | older
    · simp [none]
    · exact connected.pending other older
  · rw [List.countP_cons, none]
    exact connected.once

theorem Connected.pushPending (connected : Connected client) {session : Session}
    {connection : ConnectionId} {state : StateE} (waits : session.pending = some (connection, state))
    (own : client.connection = some connection)
    (found : client.connections connection = some state)
    (quiet : ∀ session ∈ client.sessions, session.pending = none) :
    Connected { client with sessions := session :: client.sessions } := by
  refine ⟨connected.phase, connected.fresh, connected.known, connected.closed, ?_, ?_,
    connected.entered, connected.left⟩
  · intro other member
    rcases List.mem_cons.mp member with rfl | older
    · intro current expected same
      cases waits.symm.trans same
      exact ⟨own, found⟩
    · simp [quiet other older]
  · have none : client.sessions.countP (·.pending.isSome) = 0 := by
      rw [List.countP_eq_zero]
      intro other member
      simp [quiet other member]
    rw [List.countP_cons, none]
    split <;> simp

/-- The hook on the top returns. -/
theorem Connected.pop (connected : Connected client) {session : Session} {rest : List Session}
    (top : client.sessions = session :: rest) :
    Connected { client with sessions := rest } ∧
      (session.pending.isSome = true → ∀ other ∈ rest, other.pending = none) := by
  have once := connected.once
  rw [top, List.countP_cons] at once
  refine ⟨⟨connected.phase, connected.fresh, connected.known, connected.closed, ?_, ?_,
    connected.entered, connected.left⟩, ?_⟩
  · intro other member
    exact connected.pending other (by rw [top]; exact List.mem_cons_of_mem _ member)
  · exact Nat.le_trans (Nat.le_add_right _ _) once
  · intro waits other member
    rw [if_pos waits] at once
    have none : rest.countP (·.pending.isSome) = 0 := by omega
    have quiet := List.countP_eq_zero.mp none other member
    simpa using quiet

end Connections

section Advances

theorem Advancing.same (advancing : Advancing client)
    (address : changed.fixedAddress = client.fixedAddress)
    (connector : changed.connector = client.connector)
    (attempts : changed.attempts = client.attempts)
    (next : changed.nextConnector = client.nextConnector)
    (queue : ∀ generation id, .advance generation id ∈ changed.queue →
      .advance generation id ∈ client.queue) : Advancing changed := by
  constructor
  · rw [address, connector, attempts]
    exact advancing.plain
  · intro generation id member
    rw [address, connector, attempts, next]
    exact advancing.queued generation id (queue generation id member)

theorem Advancing.detached (advancing : Advancing client)
    (address : changed.fixedAddress = client.fixedAddress) (none : changed.connector = none)
    (next : changed.nextConnector = client.nextConnector) (queue : changed.queue = client.queue) :
    Advancing changed := by
  constructor
  · intro _ id own
    cases none.symm.trans own
  · intro generation id member
    obtain ⟨unset, below, _⟩ := advancing.queued generation id (queue ▸ member)
    rw [address, next]
    refine ⟨unset, below, fun own => ?_⟩
    cases none.symm.trans own

theorem Advancing.begin (advancing : Advancing client) (address : SocketAddress)
    {options : ConnectorOptions} (plain : client.fixedAddress = none → options.enableRetry = false) :
    Advancing (client.initConnector address options).startConnector := by
  constructor
  · intro unset id own
    cases own
    simp [startConnector, initConnector, withConnector, Connector.start, Connector.create, plain unset]
  · intro generation id member
    obtain ⟨unset, below, _⟩ := advancing.queued generation id member
    refine ⟨unset, Nat.lt_succ_of_lt below, fun own => ?_⟩
    exact absurd (Option.some.inj own) below.ne'

end Advances

end TcpClient

end MiniTrantor.Net
