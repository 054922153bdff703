import MiniTrantor.Net.Client.ClientInvariant

/-!
# The functions of a client keep its invariant

One lemma for each function of the source, and one for a stretch of any
connector that the client made.
-/

set_option autoImplicit false

namespace MiniTrantor.Net.TcpClient

variable {client changed : TcpClient}

section Operations

/-- What the parts of the invariant do not mention may change. -/
theorem Coherent.same (coherent : Coherent client) (hook : changed.hook = client.hook)
    (connector : changed.connector = client.connector)
    (attempts : changed.attempts = client.attempts)
    (nextConnector : changed.nextConnector = client.nextConnector)
    (generation : changed.connectGeneration = client.connectGeneration)
    (connect : client.connect = true → changed.connect = true)
    (resolutions : changed.resolutions = client.resolutions)
    (address : changed.fixedAddress = client.fixedAddress)
    (queue : ∀ generation id, .advance generation id ∈ changed.queue →
      .advance generation id ∈ client.queue) : Coherent changed where
  attempting := coherent.attempting.same hook connector attempts nextConnector generation connect
  resolving := coherent.resolving.same resolutions generation connect connector.trans
  advancing := coherent.advancing.same address connector attempts nextConnector queue

/-- A client with a connector waits for no answer. -/
theorem Coherent.answered (coherent : Coherent client) {id : ConnectorId}
    (own : client.connector = some id) : client.connectGeneration ∉ client.resolutions := by
  intro waits
  cases (coherent.resolving.wanted waits).2.symm.trans own

theorem Coherent.connectInLoop (coherent : Coherent client) : Coherent client.connectInLoop := by
  have wanted : Coherent { client with connect := true } :=
    coherent.same rfl rfl rfl rfl rfl (fun _ => rfl) rfl rfl fun _ _ => id
  have below : ∀ generation ∈ client.resolutions, generation < client.connectGeneration + 1 :=
    fun generation member => Nat.lt_succ_of_le (coherent.resolving.current generation member)
  have connectors : Connectors { client with
      connect := true
      connectGeneration := client.connectGeneration + 1
      candidates := []
      nextCandidate := 0 }.stopPrevious := by
    apply Connectors.stopPrevious
    exact coherent.attempting.toConnectors.same rfl rfl rfl rfl
  unfold TcpClient.connectInLoop
  dsimp only
  split
  · split
    · split
      · refine wanted.same rfl rfl rfl rfl rfl id rfl rfl ?_
        simp [queueInLoop]
      · exact wanted
    · exact wanted
  · split
    · exact wanted
    · split
      · constructor
        · apply Connectors.unattached
          · exact connectors.same rfl rfl rfl rfl
          · rfl
        · exact .begin below rfl rfl
        · exact coherent.advancing.detached rfl rfl rfl rfl
      · constructor
        · refine And.left (Connectors.begin ?_ rfl rfl _ _)
          exact connectors.same rfl rfl rfl rfl
        · exact .outdated below
        · apply Advancing.begin
          · exact coherent.advancing.detached rfl rfl rfl rfl
          · intro unset
            rename_i present
            cases present.symm.trans unset

theorem Coherent.stopInLoop (coherent : Coherent client) : Coherent client.stopInLoop := by
  have connectors : Connectors client.stopInLoop :=
    Connectors.stopPrevious (coherent.attempting.toConnectors.same rfl rfl rfl rfl)
  have below : ∀ generation ∈ client.resolutions, generation < client.connectGeneration + 1 :=
    fun generation member => Nat.lt_succ_of_le (coherent.resolving.current generation member)
  constructor
  · exact connectors.unattached rfl
  · exact .outdated below
  · exact coherent.advancing.detached rfl rfl rfl rfl

theorem Coherent.shutdown (coherent : Coherent client) (connection : ConnectionId) :
    Coherent (client.shutdown connection) := by
  unfold TcpClient.shutdown
  split
  · exact coherent.same rfl rfl rfl rfl rfl id rfl rfl fun _ _ => id
  · exact coherent

theorem Coherent.disconnectInLoop (coherent : Coherent client) :
    Coherent client.disconnectInLoop := by
  unfold TcpClient.disconnectInLoop
  dsimp only
  split
  · exact coherent.stopInLoop.shutdown _
  · exact coherent.stopInLoop

theorem Coherent.connectDestroyed (coherent : Coherent client) (connection : ConnectionId) :
    Coherent (client.connectDestroyed connection) := by
  unfold TcpClient.connectDestroyed
  split
  · exact coherent.same rfl rfl rfl rfl rfl id rfl rfl fun _ _ => id
  · exact coherent

theorem newConnection_eq (client : TcpClient) : client.newConnection =
    { client with
      nextConnId := client.nextConnId + 1
      connection := some client.nextConnId
      connectPhase := .connected
      candidates := []
      nextCandidate := 0
      trace := client.newConnection.trace
      connections := client.newConnection.connections
      sessions := client.newConnection.sessions } := by
  unfold newConnection
  dsimp only
  split <;> rfl

theorem Coherent.newConnection (coherent : Coherent client) : Coherent client.newConnection := by
  rw [newConnection_eq]
  exact coherent.same rfl rfl rfl rfl rfl id rfl rfl fun _ _ => id

theorem Coherent.removeConnection (coherent : Coherent client) (connection : ConnectionId) :
    Coherent (client.removeConnection connection) := by
  have removed : Coherent ({ client with
      connection := none
      connectPhase := .idle
      trace := client.trace ++
        [Event.removeConnection connection client.connection] }.queueInLoop
          (.connectDestroyed connection)) :=
    coherent.same rfl rfl rfl rfl rfl id rfl rfl (by simp [queueInLoop])
  unfold TcpClient.removeConnection
  dsimp only
  split
  · exact removed.connectInLoop
  · exact removed

/-- The next candidate replaces the one that failed. -/
theorem Coherent.startNextCandidate (coherent : Coherent client) (wanted : client.connect = true)
    (answered : client.connectGeneration ∉ client.resolutions) :
    Coherent client.startNextCandidate := by
  have connectors : Connectors client.stopPrevious := coherent.attempting.toConnectors.stopPrevious
  have below := coherent.resolving.older answered
  unfold TcpClient.startNextCandidate
  dsimp only
  split
  · constructor
    · apply Connectors.unattached
      · exact connectors.same rfl rfl rfl rfl
      · rfl
    · exact .outdated below
    · exact coherent.advancing.detached rfl rfl rfl rfl
  · split
    · exact ⟨connectors.unattached rfl, .outdated below,
        coherent.advancing.detached rfl rfl rfl rfl⟩
    · constructor
      · refine And.left (Connectors.begin ?_ rfl ?_ _ _)
        · exact connectors.same rfl rfl rfl rfl
        · exact wanted
      · exact .outdated below
      · apply Advancing.begin
        · exact coherent.advancing.detached rfl rfl rfl rfl
        · exact fun _ => rfl

theorem Coherent.resolved (coherent : Coherent client) (generation : Nat)
    (addresses : Option (List SocketAddress)) :
    Coherent ({ client with
      resolutions := client.resolutions.erase generation }.handleResolved generation addresses) := by
  obtain ⟨resolving, answered⟩ := coherent.resolving.answered generation
  have erased : Coherent { client with resolutions := client.resolutions.erase generation } :=
    ⟨coherent.attempting.same rfl rfl rfl rfl rfl id, resolving,
      coherent.advancing.same rfl rfl rfl rfl fun _ _ => id⟩
  unfold TcpClient.handleResolved
  split
  case isTrue => exact erased
  case isFalse now =>
    simp only [ne_eq, decide_not, Bool.or_eq_true, Bool.not_eq_true', decide_eq_false_iff_not,
      not_or, not_not, Bool.not_eq_false] at now
    obtain ⟨same, wanted⟩ := now
    cases addresses with
    | none => exact erased.same rfl rfl rfl rfl rfl id rfl rfl fun _ _ => id
    | some addresses =>
        dsimp only
        apply Coherent.startNextCandidate
        · exact erased.same rfl rfl rfl rfl rfl id rfl rfl fun _ _ => id
        · exact wanted
        · exact answered same

theorem Coherent.execute (coherent : Coherent client) (functor : Functor) :
    Coherent ({ client with queue := client.queue.erase functor }.execute functor) := by
  have erased : Coherent { client with queue := client.queue.erase functor } :=
    coherent.same rfl rfl rfl rfl rfl id rfl rfl fun _ _ queued => List.mem_of_mem_erase queued
  cases functor with
  | reconnect generation =>
      unfold TcpClient.execute
      dsimp only
      split
      · exact erased
      · exact erased.connectInLoop
  | connectDestroyed connection => exact erased.connectDestroyed connection
  | advance generation attempt =>
      unfold TcpClient.execute
      dsimp only
      split
      case isTrue => exact erased
      case isFalse now =>
        simp only [ne_eq, decide_not, Bool.or_eq_true, Bool.not_eq_true', decide_eq_false_iff_not,
          not_or, not_not, Bool.not_eq_false] at now
        split
        case isTrue => exact erased
        case isFalse own =>
          have own : client.connector = some attempt := by simpa using own
          exact erased.startNextCandidate now.2 (coherent.answered own)

end Operations

section Stretches

variable {id : ConnectorId} {turn : Connector.Turn}

theorem hookOf_none (unhooked : client.hook = none) (other : ConnectorId) :
    client.hookOf other = none := by
  rw [hookOf, unhooked]
  rfl

theorem hookOf_some {frame : Connector.Frame} {runs : Bool}
    (hooked : client.hook = some { id, frame, runs }) (other : ConnectorId) :
    client.hookOf other = if other = id then some frame else none := by
  rw [hookOf, hooked]
  simp [eq_comm]

theorem hookOf_alone (alone : ∀ hook, client.hook = some hook → hook.id = id) {other : ConnectorId}
    (differ : other ≠ id) : client.hookOf other = none := by
  rw [hookOf, Option.bind_eq_none_iff]
  intro hook found
  rw [alone hook found]
  exact if_neg differ.symm

/-- A stretch changes its own connector and leaves its own hook. -/
theorem Connectors.take (connectors : Connectors client)
    (stretch : Connector.Stretch (client.attempts id).connector client.sockets (client.hookOf id) turn)
    (alone : ∀ hook, client.hook = some hook → hook.id = id)
    (connector : changed.connector = client.connector)
    (attempts : changed.attempts = client.withConnector id turn.connector)
    (hooks : ∀ other, changed.hookOf other = if other = id then turn.next.frame? else none)
    (known : ∀ hook, changed.hook = some hook → hook.id < changed.nextConnector) :
    Connectors changed := by
  refine ⟨?_, ?_, known⟩
  · intro other
    rw [attempts, hooks]
    by_cases same : other = id
    · rw [same, withConnector_self, if_pos rfl]
      exact stretch.valid (connectors.valid id)
    · rw [withConnector_of_ne _ same, if_neg same, ← hookOf_alone alone same]
      exact connectors.valid other
  · intro other replaced
    rw [connector] at replaced
    rw [attempts, hooks]
    by_cases same : other = id
    · subst same
      obtain ⟨done, halted⟩ := stretch.halted (connectors.halted other replaced)
      rw [withConnector_self, if_pos rfl, done]
      exact halted
    · rw [withConnector_of_ne _ same, if_neg same, ← hookOf_alone alone same]
      exact connectors.halted other replaced

/-- An idle connector that does not retry does nothing. -/
theorem stretch_idle {connector : Connector} {socket : SocketId} {frame : Option Connector.Frame}
    (stretch : Connector.Stretch connector socket frame turn) (idle : connector.phase = .idle)
    (plain : connector.retryEnabled = false) :
    turn.connector.phase = .idle ∧ turn.next = .done := by
  have shift := stretch.shift
  generalize turn.next = next at shift ⊢
  cases shift with
  | nothing phase => exact ⟨phase.trans idle, rfl⟩
  | retry _ _ enabled => cases plain.symm.trans enabled
  | attempt phase | fail _ phase | succeed phase | deliver _ phase | drop _ phase | restart phase =>
      rw [idle] at phase
      cases phase

/-- What was queued for a candidate is still good, and its failure may be queued as well. -/
theorem Advancing.take (advancing : Advancing client)
    (stretch : Connector.Stretch (client.attempts id).connector client.sockets (client.hookOf id) turn)
    (address : changed.fixedAddress = client.fixedAddress)
    (connector : changed.connector = client.connector)
    (attempts : changed.attempts = client.withConnector id turn.connector)
    (next : changed.nextConnector = client.nextConnector)
    (queue : ∀ generation other, .advance generation other ∈ changed.queue →
      .advance generation other ∈ client.queue ∨ (client.fixedAddress = none ∧ other = id ∧
        id < client.nextConnector ∧ turn.connector.phase = .idle)) :
    Advancing changed := by
  constructor
  · intro unset other own
    rw [address] at unset
    rw [connector] at own
    rw [attempts]
    by_cases same : other = id
    · rw [same, withConnector_self]
      exact stretch.settings.1.trans (advancing.plain unset id (same ▸ own))
    · rw [withConnector_of_ne _ same]
      exact advancing.plain unset other own
  · intro generation other member
    rw [address, connector, attempts, next]
    rcases queue generation other member with old | ⟨unset, same, below, idle⟩
    · obtain ⟨unset, below, settled⟩ := advancing.queued generation other old
      refine ⟨unset, below, fun own => ?_⟩
      by_cases same : other = id
      · subst same
        rw [withConnector_self]
        exact (stretch_idle stretch (settled own) (advancing.plain unset other own)).1
      · rw [withConnector_of_ne _ same]
        exact settled own
    · rw [same, withConnector_self]
      exact ⟨unset, below, fun _ => idle⟩

theorem handleConnectorEvent_eq (event : ConnectorEvent) (generation : Nat) (attempt : ConnectorId)
    (client : TcpClient) : client.handleConnectorEvent event generation attempt =
      { client with
        connectPhase := (client.handleConnectorEvent event generation attempt).connectPhase
        queue := (client.handleConnectorEvent event generation attempt).queue } := by
  unfold handleConnectorEvent
  split
  · rfl
  · split
    · rfl
    · split <;> rfl

/-- The phase tells what the connector did. -/
theorem handleConnectorEvent_phase (event : ConnectorEvent) (generation : Nat)
    (attempt : ConnectorId) (client : TcpClient) :
    (event = .connectAttempt ∨ event = .retryScheduled →
        (client.handleConnectorEvent event generation attempt).connectPhase = .connecting) ∧
      ((client.handleConnectorEvent event generation attempt).connectPhase = .idle ∨
        (client.handleConnectorEvent event generation attempt).connectPhase = .connecting ∨
        (client.handleConnectorEvent event generation attempt).connectPhase = client.connectPhase) := by
  constructor
  · intro begun
    rcases begun with rfl | rfl
    · rfl
    · rfl
  · unfold handleConnectorEvent
    split
    · dsimp only [queueInLoop]
      split
      · exact .inl rfl
      · exact .inr (.inr rfl)
    · split
      · exact .inl rfl
      · split
        · exact .inr (.inl rfl)
        · exact .inr (.inr rfl)

theorem handleConnectorEvent_queue {event : ConnectorEvent} {generation round : Nat}
    {attempt other : ConnectorId}
    (member : .advance round other ∈ (client.handleConnectorEvent event generation attempt).queue) :
    .advance round other ∈ client.queue ∨ (client.fixedAddress = none ∧ isFailure event = true ∧
      round = generation ∧ other = attempt) := by
  unfold handleConnectorEvent at member
  split at member
  case isTrue failed =>
    simp only [Bool.and_eq_true, Option.isNone_iff_eq_none] at failed
    rcases List.mem_append.mp member with old | new
    · exact .inl old
    · cases List.mem_singleton.mp new
      exact .inr ⟨failed.2, failed.1, rfl, rfl⟩
  case isFalse =>
    split at member
    · exact .inl member
    · split at member
      · exact .inl member
      · exact .inl member

/-- The event callback changes the phase and the queue and nothing else. -/
theorem emitEvent_eq (client : TcpClient) (id : ConnectorId) (event : ConnectorEvent)
    (frame : Connector.Frame) : ∃ runs phase queue,
      client.emitEvent id event frame =
        { client with
          hook := some { id, frame, runs }
          trace := client.trace ++
            [.emitted (client.attempts id).generation (client.attempts id).address event]
          connectPhase := phase
          queue } ∧
      (client.concerns id = true → event = .connectAttempt ∨ event = .retryScheduled →
        phase = .connecting) ∧
      (phase = .idle ∨ phase = .connecting ∨ phase = client.connectPhase) ∧
      ∀ round other, .advance round other ∈ queue → .advance round other ∈ client.queue ∨
        (client.fixedAddress = none ∧ isFailure event = true ∧ other = id) := by
  unfold emitEvent connectorCallback
  split
  case isTrue =>
    rw [handleConnectorEvent_eq]
    refine ⟨_, _, _, rfl, fun _ => (handleConnectorEvent_phase ..).1,
      (handleConnectorEvent_phase ..).2, fun round other member => ?_⟩
    rcases handleConnectorEvent_queue member with old | ⟨unset, failed, _, same⟩
    · exact .inl old
    · exact .inr ⟨unset, failed, same⟩
  case isFalse apart =>
    exact ⟨_, _, _, rfl, fun concerned => absurd concerned apart, .inr (.inr rfl),
      fun _ _ member => .inl member⟩

theorem withConnector_generation (id other : ConnectorId) (connector : Connector) :
    (client.withConnector id connector other).generation = (client.attempts other).generation := by
  by_cases same : other = id
  · rw [same, withConnector_self]
  · rw [withConnector_of_ne _ same]

theorem Attempting.take (attempting : Attempting client)
    (stretch : Connector.Stretch (client.attempts id).connector client.sockets (client.hookOf id) turn)
    (alone : ∀ hook, client.hook = some hook → hook.id = id)
    (connector : changed.connector = client.connector)
    (attempts : changed.attempts = client.withConnector id turn.connector)
    (next : changed.nextConnector = client.nextConnector)
    (generation : changed.connectGeneration = client.connectGeneration)
    (connect : changed.connect = client.connect)
    (hooks : ∀ other, changed.hookOf other = if other = id then turn.next.frame? else none)
    (known : ∀ hook, changed.hook = some hook → hook.id < changed.nextConnector) :
    Attempting changed := by
  refine ⟨attempting.toConnectors.take stretch alone connector attempts hooks known, ?_⟩
  intro other own
  rw [connector] at own
  obtain ⟨below, current, wanted⟩ := attempting.made other own
  rw [attempts, next, generation, connect]
  exact ⟨below, (withConnector_generation ..).trans current, wanted⟩

/-- A stretch that runs no hook. -/
theorem Coherent.take_done (coherent : Coherent client)
    (stretch : Connector.Stretch (client.attempts id).connector client.sockets (client.hookOf id) turn)
    (alone : ∀ hook, client.hook = some hook → hook.id = id) (done : turn.next = .done) :
    Coherent (client.take id turn) := by
  have ran : client.take id turn = client.ran id turn := by
    rw [TcpClient.take, done]
  rw [ran]
  refine ⟨?_, coherent.resolving.same rfl rfl (fun wanted => wanted) (fun none => none), ?_⟩
  · refine coherent.attempting.take stretch alone rfl rfl rfl rfl rfl ?_ (by simp [TcpClient.ran])
    intro other
    rw [hookOf_none rfl, done]
    exact (ite_self _).symm
  · exact coherent.advancing.take stretch rfl rfl rfl rfl fun _ _ member => .inl member

/-- A stretch of the client's own connector that ends in the hook of an event. -/
theorem Coherent.take_emit (coherent : Coherent client)
    (stretch : Connector.Stretch (client.attempts id).connector client.sockets (client.hookOf id) turn)
    (alone : ∀ hook, client.hook = some hook → hook.id = id) (own : client.connector = some id)
    {event : ConnectorEvent} {frame : Connector.Frame} (emits : turn.next = .emit event frame) :
    Coherent (client.take id turn) := by
  obtain ⟨below, _, _⟩ := coherent.attempting.made id own
  obtain ⟨runs, phase, queue, told, _, _, queued⟩ :=
    emitEvent_eq (client.ran id turn) id event frame
  have shift := stretch.shift
  rw [emits] at shift
  have ran : client.take id turn = (client.ran id turn).emitEvent id event frame := by
    rw [TcpClient.take, emits]
  rw [ran, told]
  refine ⟨?_, coherent.resolving.same rfl rfl (fun wanted => wanted) (fun none => none), ?_⟩
  · refine coherent.attempting.take stretch alone rfl rfl rfl rfl rfl ?_ ?_
    · intro other
      rw [hookOf_some rfl, emits]
      rfl
    · intro hook found
      cases found
      exact below
  · refine coherent.advancing.take stretch rfl rfl rfl rfl ?_
    intro round other member
    rcases queued round other member with old | ⟨unset, failed, same⟩
    · exact .inl old
    · refine .inr ⟨unset, same, below, ?_⟩
      cases shift with
      | fail _ _ after => exact after
      | attempt | succeed | retry => cases failed

/-- The client's own connector delivers its socket. -/
theorem Coherent.take_deliver (coherent : Coherent client)
    (stretch : Connector.Stretch (client.attempts id).connector client.sockets (client.hookOf id) turn)
    (alone : ∀ hook, client.hook = some hook → hook.id = id) (own : client.connector = some id)
    {socket : SocketId} (delivers : turn.next = .deliver socket) :
    Coherent (client.take id turn) := by
  obtain ⟨below, _, _⟩ := coherent.attempting.made id own
  have held : Coherent { client.ran id turn with
      hook := some { id, frame := .delivering, runs := false } } := by
    refine ⟨?_, coherent.resolving.same rfl rfl (fun wanted => wanted) (fun none => none), ?_⟩
    · refine coherent.attempting.take stretch alone rfl rfl rfl rfl rfl ?_ ?_
      · intro other
        rw [hookOf_some rfl, delivers]
        rfl
      · intro hook found
        cases found
        exact below
    · exact coherent.advancing.take stretch rfl rfl rfl rfl fun _ _ member => .inl member
  rw [TcpClient.take, delivers]
  dsimp only
  rw [newConnectionCallback]
  split
  · exact held.newConnection
  · exact held

/-- The loop runs a connector, or a hook of a connector returns. -/
theorem Coherent.take (coherent : Coherent client)
    (stretch : Connector.Stretch (client.attempts id).connector client.sockets (client.hookOf id) turn)
    (alone : ∀ hook, client.hook = some hook → hook.id = id) :
    Coherent (client.take id turn) := by
  by_cases own : client.connector = some id
  · cases next : turn.next with
    | done => exact coherent.take_done stretch alone next
    | emit event frame => exact coherent.take_emit stretch alone own next
    | deliver socket => exact coherent.take_deliver stretch alone own next
  · exact coherent.take_done stretch alone
      (stretch.halted (coherent.attempting.halted id own)).1

end Stretches

end MiniTrantor.Net.TcpClient
