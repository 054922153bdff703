import MiniTrantor.Net.Client.ClientOperations

/-!
# The phase of a client

The functions of a client keep the phase in step with what the client is busy with, if each
connection is established before it is closed.
-/

set_option autoImplicit false

namespace MiniTrantor.Net.TcpClient

variable {client changed : TcpClient}

section Operations

theorem Phased.same (phased : Phased client) (hook : changed.hook = client.hook)
    (connector : changed.connector = client.connector)
    (attempts : changed.attempts = client.attempts)
    (nextConnector : changed.nextConnector = client.nextConnector)
    (generation : changed.connectGeneration = client.connectGeneration)
    (connect : client.connect = true → changed.connect = true)
    (phase : changed.connectPhase = client.connectPhase)
    (resolutions : changed.resolutions = client.resolutions)
    (nextConnId : changed.nextConnId = client.nextConnId)
    (connection : changed.connection = client.connection)
    (connections : changed.connections = client.connections)
    (sessions : changed.sessions = client.sessions) (trace : changed.trace = client.trace)
    (address : changed.fixedAddress = client.fixedAddress)
    (queue : ∀ generation id, .advance generation id ∈ changed.queue →
      .advance generation id ∈ client.queue) : Phased changed where
  coherent :=
    phased.coherent.same hook connector attempts nextConnector generation connect resolutions
      address queue
  flying := phased.flying.same hook connector attempts phase
  asked := by
    rw [generation, resolutions, phase]
    exact phased.asked
  settled := by
    intro round id member own
    rw [phase]
    exact phased.settled round id (queue round id member) (connector.symm.trans own)
  connected := phased.connected.same (by rw [phase]) nextConnId connection connections sessions
    fun _ member _ => trace ▸ member

/-- A client without a connector and without an answer that it waits for. -/
theorem Phased.detached (coherent : Coherent client) (none : client.connector = none)
    (answered : client.connectGeneration ∉ client.resolutions) (connected : Connected client) :
    Phased client := by
  refine ⟨coherent, .unattached none, fun waits => absurd waits answered, ?_, connected⟩
  intro generation id _ own
  cases none.symm.trans own

/-- A round that begins when the client is idle. -/
theorem Phased.nextRound (phased : Phased client) (idle : client.connectPhase = .idle) :
    Phased client.connectInLoop := by
  have coherent := phased.coherent.connectInLoop
  have below : ∀ generation ∈ client.resolutions, generation < client.connectGeneration + 1 :=
    fun generation member =>
      Nat.lt_succ_of_le (phased.coherent.resolving.current generation member)
  have connectors : Connectors { client with
      connect := true
      connectGeneration := client.connectGeneration + 1
      candidates := []
      nextCandidate := 0 }.stopPrevious := by
    apply Connectors.stopPrevious
    exact phased.coherent.attempting.toConnectors.same rfl rfl rfl rfl
  unfold TcpClient.connectInLoop at coherent ⊢
  dsimp only at coherent ⊢
  rw [if_neg (by simp [idle]), if_neg (by simp [idle])] at coherent ⊢
  split at coherent
  case h_1 =>
    refine ⟨coherent, .unattached rfl, fun _ => rfl, fun _ _ _ own => ?_, ?_⟩
    · cases own
    · exact phased.connected.same (by simp [idle, resolveAndConnect]) rfl rfl rfl rfl
        fun _ member _ => member
  case h_2 address _ =>
    refine ⟨coherent, ?_, fun waits => ?_, fun _ _ _ _ => ?_, ?_⟩
    · refine And.right (Connectors.begin ?_ rfl rfl _ _) rfl
      exact connectors.same rfl rfl rfl rfl
    · exact absurd (below _ waits) (Nat.lt_irrefl _)
    · simp [startConnector, initConnector]
    · refine phased.connected.same ?_ rfl rfl rfl rfl fun _ member _ => member
      simp [idle, startConnector, initConnector]

theorem Phased.connectInLoop (phased : Phased client) : Phased client.connectInLoop := by
  by_cases idle : client.connectPhase = .idle
  · exact phased.nextRound idle
  · unfold TcpClient.connectInLoop
    dsimp only
    rw [if_pos (show client.connectPhase ≠ .idle from idle)]
    have wanted : Phased { client with connect := true } :=
      phased.same rfl rfl rfl rfl rfl (fun _ => rfl) rfl rfl rfl rfl rfl rfl rfl rfl fun _ _ => id
    split
    · split
      · split
        · refine wanted.same rfl rfl rfl rfl rfl id rfl rfl rfl rfl rfl rfl rfl rfl ?_
          simp [queueInLoop]
        · exact wanted
      · exact wanted
    · exact wanted

theorem Phased.stopInLoop (phased : Phased client) : Phased client.stopInLoop := by
  refine .detached phased.coherent.stopInLoop rfl (fun waits => ?_) ?_
  · exact absurd (phased.coherent.resolving.current _ waits) (Nat.not_succ_le_self _)
  · refine phased.connected.same ?_ rfl rfl rfl rfl fun _ member _ => member
    have phase : client.stopInLoop.connectPhase =
        if client.connectPhase ≠ .connected then .idle else client.connectPhase := rfl
    rw [phase]
    split
    · simpa
    · rfl

theorem Phased.shutdown (phased : Phased client) (connection : ConnectionId) :
    Phased (client.shutdown connection) := by
  have coherent := phased.coherent.shutdown connection
  unfold TcpClient.shutdown at coherent ⊢
  split
  case isFalse => exact phased
  case isTrue established =>
    rw [if_pos established] at coherent
    have own := phased.connected.own_of_open established (by simp)
    refine ⟨coherent, phased.flying.same rfl rfl rfl rfl, phased.asked, phased.settled, ?_⟩
    exact phased.connected.setState .kDisconnecting own
      (phased.connected.none_pending own established (by simp) (by simp))

theorem Phased.disconnectInLoop (phased : Phased client) : Phased client.disconnectInLoop := by
  unfold TcpClient.disconnectInLoop
  dsimp only
  split
  · exact phased.stopInLoop.shutdown _
  · exact phased.stopInLoop

theorem Phased.handleClose (phased : Phased client) {connection : ConnectionId} {state : StateE}
    (found : client.connections connection = some state) (begun : state ≠ .kConnecting)
    (unclosed : state ≠ .kDisconnected) : Phased (client.handleClose connection) := by
  have own := phased.connected.own_of_open found unclosed
  have quiet := phased.connected.none_pending own found begun unclosed
  have coherent : Coherent (client.handleClose connection) :=
    phased.coherent.same rfl rfl rfl rfl rfl id rfl rfl fun _ _ => id
  refine ⟨coherent, phased.flying.same rfl rfl rfl rfl, phased.asked, phased.settled, ?_⟩
  exact (phased.connected.setState .kDisconnected own quiet).pushPending rfl own
    (Function.update_self ..) quiet

/-- The connection that is removed was closed before. -/
theorem Phased.connectDestroyed (phased : Phased client) (connection : ConnectionId) :
    Phased (client.connectDestroyed connection) := by
  have coherent := phased.coherent.connectDestroyed connection
  unfold TcpClient.connectDestroyed at coherent ⊢
  split
  case isFalse => exact phased
  case isTrue established =>
    rw [if_pos established] at coherent
    have own := phased.connected.own_of_open established (by simp)
    have quiet := phased.connected.none_pending own established (by simp) (by simp)
    refine ⟨coherent, phased.flying.same rfl rfl rfl rfl, phased.asked, phased.settled, ?_⟩
    exact (phased.connected.setState .kDisconnected own quiet).push rfl

theorem Connected.newConnection (connected : Connected client)
    (unset : client.connectPhase ≠ .connected) : Connected client.newConnection := by
  have none : client.connection = none := by
    cases present : client.connection with
    | none => rfl
    | some connection => exact absurd (connected.phase.mpr (by rw [present]; rfl)) unset
  have quiet : ∀ session ∈ client.sessions, session.pending = .none := by
    intro session member
    cases waits : session.pending with
    | none => rfl
    | some pair =>
        obtain ⟨found, _⟩ := connected.pending session member pair.1 pair.2 waits
        cases none.symm.trans found
  have made : Connected ({ client with
      nextConnId := client.nextConnId + 1
      connection := some client.nextConnId
      connectPhase := .connected
      candidates := []
      nextCandidate := 0
      trace := client.trace ++
        [Event.newConnection client.nextConnId client.connection] }.setState client.nextConnId
          .kConnecting) := by
    constructor
    · exact ⟨fun _ => rfl, fun _ => rfl⟩
    · intro other above
      have differ : other ≠ client.nextConnId := (Nat.lt_of_succ_le above).ne'
      exact (Function.update_of_ne differ ..).trans
        (connected.fresh other (Nat.le_of_succ_le above))
    · intro other own
      cases own
      simp [TcpClient.setState]
    · intro other differ
      have differ : other ≠ client.nextConnId := fun same => differ (congrArg some same.symm)
      simp only [TcpClient.setState, Function.update_of_ne differ]
      exact connected.closed other (by simp [none])
    · intro session member other state waits
      cases (quiet session member).symm.trans waits
    · exact connected.once
    · intro other found member
      rcases List.mem_append.mp member with old | new
      · exact connected.entered other found old
      · cases List.mem_singleton.mp new
        exact none
    · intro other found member
      rcases List.mem_append.mp member with old | new
      · exact connected.left other found old
      · cases List.mem_singleton.mp new
  unfold TcpClient.newConnection
  dsimp only
  split
  · exact made.pushPending rfl rfl (Function.update_self ..) quiet
  · exact (made.setState .kConnected rfl quiet).push rfl

/-- The connector has delivered its socket and does nothing more by itself. -/
theorem Phased.newConnection (phased : Phased client) (unset : client.connectPhase ≠ .connected)
    (landed : ∃ id, client.connector = some id ∧
      (client.attempts id).connector.phase = .connected ∧
        ∀ frame, client.hookOf id = some frame → frame.generation? = none)
    (advanced : ∀ generation id, .advance generation id ∈ client.queue →
      client.connector ≠ some id) : Phased client.newConnection := by
  obtain ⟨id, own, phase, quiet⟩ := landed
  have connected := phased.connected.newConnection unset
  refine ⟨phased.coherent.newConnection, ?_, ?_, ?_, connected⟩
  · rw [newConnection_eq]
    refine ⟨fun _ => by simp, ?_, ?_⟩
    · intro other found flies
      cases own.symm.trans found
      rw [phase] at flies
      cases flies
    · intro other frame found waits live
      cases own.symm.trans found
      cases (quiet frame waits).symm.trans live
  · rw [newConnection_eq]
    exact fun waits => absurd waits (phased.coherent.answered own)
  · rw [newConnection_eq]
    exact fun generation other member found => absurd found (advanced generation other member)

/-- The rest of a session whose hook has returned. -/
theorem Phased.pop (phased : Phased client) {session : Session} {rest : List Session}
    (top : client.sessions = session :: rest) : Phased { client with sessions := rest } where
  coherent := phased.coherent.same rfl rfl rfl rfl rfl id rfl rfl fun _ _ => id
  flying := phased.flying.same rfl rfl rfl rfl
  asked := phased.asked
  settled := phased.settled
  connected := (phased.connected.pop top).1

theorem Phased.connectEstablished (phased : Phased client) {connection : ConnectionId}
    {runs : Bool} {rest : List Session}
    (top : client.sessions = .handshakeStarted connection runs :: rest) :
    Phased ({ client with sessions := rest }.connectEstablished connection) := by
  obtain ⟨popped, quiet⟩ := phased.connected.pop top
  obtain ⟨own, _⟩ := phased.connected.pending _ (by rw [top]; exact List.mem_cons_self) _ _ rfl
  refine ⟨phased.coherent.same rfl rfl rfl rfl rfl id rfl rfl fun _ _ => id,
    phased.flying.same rfl rfl rfl rfl, phased.asked, phased.settled, ?_⟩
  exact (popped.setState .kConnected own (quiet rfl)).push rfl

theorem Phased.removeConnection (phased : Phased client) {connection : ConnectionId}
    {rest : List Session} (top : client.sessions = .disconnected connection :: rest) :
    Phased ({ client with sessions := rest }.removeConnection connection) := by
  obtain ⟨popped, quiet⟩ := phased.connected.pop top
  obtain ⟨own, closed⟩ := phased.connected.pending _ (by rw [top]; exact List.mem_cons_self) _ _ rfl
  have phase : client.connectPhase = .connected := phased.connected.phase.mpr (by rw [own]; rfl)
  have removed : Phased ({ client with
      sessions := rest
      connection := none
      connectPhase := .idle
      trace := client.trace ++
        [Event.removeConnection connection client.connection] }.queueInLoop
          (.connectDestroyed connection)) := by
    refine ⟨phased.coherent.same rfl rfl rfl rfl rfl id rfl rfl (by simp [queueInLoop]),
      ⟨fun _ => by simp [queueInLoop], ?_, fun _ _ _ _ _ => by simp [queueInLoop]⟩, ?_,
      fun _ _ _ _ => by simp [queueInLoop], ?_⟩
    · intro id found flies
      cases phase.symm.trans (phased.flying.flying id found flies)
    · intro waits
      cases phase.symm.trans (phased.asked waits)
    · refine ⟨by simp [queueInLoop], popped.fresh, ?_, ?_, ?_, popped.once, ?_, ?_⟩
      · intro other found
        cases found
      · intro other _
        by_cases same : client.connection = some other
        · cases own.symm.trans same
          exact .inr closed
        · exact popped.closed other same
      · intro session member other state waits
        cases (quiet rfl session member).symm.trans waits
      · intro other found member
        rcases List.mem_append.mp member with old | new
        · exact phased.connected.entered other found old
        · cases List.mem_singleton.mp new
      · intro other found member
        rcases List.mem_append.mp member with old | new
        · exact phased.connected.left other found old
        · cases List.mem_singleton.mp new
          exact own
  unfold TcpClient.removeConnection
  dsimp only
  split
  · exact removed.connectInLoop
  · exact removed

/-- The next candidate replaces the one that failed. -/
theorem Phased.startNextCandidate (phased : Phased client)
    (unset : client.connectPhase ≠ .connected) (wanted : client.connect = true)
    (answered : client.connectGeneration ∉ client.resolutions) :
    Phased client.startNextCandidate := by
  have coherent := phased.coherent.startNextCandidate wanted answered
  have connectors : Connectors client.stopPrevious :=
    phased.coherent.attempting.toConnectors.stopPrevious
  unfold TcpClient.startNextCandidate at coherent ⊢
  dsimp only at coherent ⊢
  split
  case isTrue tried =>
    rw [if_pos tried] at coherent
    refine .detached coherent rfl answered ?_
    exact phased.connected.same (by simp [unset]) rfl rfl rfl rfl fun _ member _ => member
  case isFalse more =>
    rw [if_neg more] at coherent
    split at coherent
    case h_1 =>
      refine .detached coherent rfl answered ?_
      exact phased.connected.same Iff.rfl rfl rfl rfl rfl fun _ member _ => member
    case h_2 address _ =>
      refine ⟨coherent, ?_, fun waits => absurd waits answered, fun _ _ _ _ => ?_, ?_⟩
      · refine And.right (Connectors.begin ?_ rfl ?_ _ _) rfl
        · exact connectors.same rfl rfl rfl rfl
        · exact wanted
      · simp [startConnector, initConnector]
      · refine phased.connected.same ?_ rfl rfl rfl rfl ?_
        · simp [startConnector, initConnector, unset]
        · intro event member session
          rcases List.mem_append.mp member with old | new
          · exact old
          · cases List.mem_singleton.mp new
            cases session

theorem Phased.resolved (phased : Phased client) {generation : Nat}
    (waits : generation ∈ client.resolutions) (addresses : Option (List SocketAddress)) :
    Phased ({ client with
      resolutions := client.resolutions.erase generation }.handleResolved generation addresses) := by
  obtain ⟨resolving, answered⟩ := phased.coherent.resolving.answered generation
  have erased : Phased { client with resolutions := client.resolutions.erase generation } := by
    refine ⟨⟨phased.coherent.attempting.same rfl rfl rfl rfl rfl id, resolving,
      phased.coherent.advancing.same rfl rfl rfl rfl fun _ _ => id⟩,
      phased.flying.same rfl rfl rfl rfl, ?_, phased.settled, ?_⟩
    · exact fun waits => phased.asked (List.mem_of_mem_erase waits)
    · exact phased.connected.same Iff.rfl rfl rfl rfl rfl fun _ member _ => member
  have coherent := phased.coherent.resolved generation addresses
  unfold TcpClient.handleResolved at coherent ⊢
  split
  case isTrue => exact erased
  case isFalse now =>
    rw [if_neg now] at coherent
    simp only [ne_eq, decide_not, Bool.or_eq_true, Bool.not_eq_true', decide_eq_false_iff_not,
      not_or, not_not, Bool.not_eq_false] at now
    obtain ⟨rfl, wanted⟩ := now
    have phase := phased.asked waits
    cases addresses with
    | none =>
        refine .detached coherent (phased.coherent.resolving.wanted waits).2 (answered rfl) ?_
        refine phased.connected.same ?_ rfl rfl rfl rfl fun _ member _ => member
        simp [phase]
    | some addresses =>
        dsimp only
        apply Phased.startNextCandidate
        · refine ⟨erased.coherent.same rfl rfl rfl rfl rfl id rfl rfl fun _ _ => id,
            phased.flying.same rfl rfl rfl rfl, erased.asked, phased.settled, ?_⟩
          refine phased.connected.same Iff.rfl rfl rfl rfl rfl ?_
          intro event member session
          rcases List.mem_append.mp member with old | new
          · exact old
          · cases List.mem_singleton.mp new
            cases session
        · simp [phase]
        · exact wanted
        · exact answered rfl

theorem Phased.execute (phased : Phased client) {functor : Functor}
    (member : functor ∈ client.queue) :
    Phased ({ client with queue := client.queue.erase functor }.execute functor) := by
  have erased : Phased { client with queue := client.queue.erase functor } :=
    phased.same rfl rfl rfl rfl rfl id rfl rfl rfl rfl rfl rfl rfl rfl
      fun _ _ queued => List.mem_of_mem_erase queued
  cases functor with
  | reconnect generation =>
      unfold TcpClient.execute
      dsimp only
      split
      · exact erased
      · exact erased.connectInLoop
  | connectDestroyed connection => exact erased.connectDestroyed connection
  | advance generation attempt =>
      unfold TcpClient.execute
      dsimp only
      split
      case isTrue => exact erased
      case isFalse now =>
        simp only [ne_eq, decide_not, Bool.or_eq_true, Bool.not_eq_true', decide_eq_false_iff_not,
          not_or, not_not, Bool.not_eq_false] at now
        split
        case isTrue => exact erased
        case isFalse own =>
          have own : client.connector = some attempt := by simpa using own
          exact erased.startNextCandidate (phased.settled generation attempt member own) now.2
            (phased.coherent.answered own)

end Operations

section Stretches

variable {id : ConnectorId} {turn : Connector.Turn}

/-- A connector that is about to run a hook was at work before. -/
theorem Flying.busy (flying : Flying client) (own : client.connector = some id)
    (stretch : Connector.Stretch (client.attempts id).connector client.sockets (client.hookOf id) turn)
    (hooked : turn.next ≠ .done) :
    client.connectPhase = .connecting ∨ client.connectPhase = .idle := by
  have unresolved := flying.unresolved (by simp [own])
  have either : client.connectPhase ≠ .connected →
      client.connectPhase = .connecting ∨ client.connectPhase = .idle := by
    intro unconnected
    cases phase : client.connectPhase with
    | idle => exact .inr rfl
    | connecting => exact .inl rfl
    | resolving => exact absurd phase unresolved
    | connected => exact absurd phase unconnected
  have shift := stretch.shift
  generalize turn.next = next at shift hooked
  cases shift with
  | nothing | drop | restart => exact absurd rfl hooked
  | attempt phase | fail _ phase | succeed phase =>
      exact .inl (flying.flying id own (by rw [phase]; rfl))
  | deliver held => exact either (flying.waiting id _ own held rfl)
  | retry failed => exact either (flying.waiting id _ own failed rfl)

/-- A stretch that runs no hook. -/
theorem Phased.take_done (phased : Phased client)
    (stretch : Connector.Stretch (client.attempts id).connector client.sockets (client.hookOf id) turn)
    (alone : ∀ hook, client.hook = some hook → hook.id = id) (done : turn.next = .done) :
    Phased (client.take id turn) := by
  have coherent := phased.coherent.take_done stretch alone done
  have ran : client.take id turn = client.ran id turn := by
    rw [TcpClient.take, done]
  rw [ran] at coherent ⊢
  refine ⟨coherent, ⟨phased.flying.unresolved, ?_, ?_⟩, phased.asked, phased.settled,
    phased.connected.same Iff.rfl rfl rfl rfl rfl fun _ member _ => member⟩
  · intro other own flies
    refine phased.flying.flying other own ?_
    change (client.withConnector id turn.connector other).connector.phase.inFlight = true at flies
    by_cases same : other = id
    · subst same
      rw [withConnector_self] at flies
      have shift := stretch.shift
      rw [done] at shift
      cases shift with
      | nothing phase => rwa [phase] at flies
      | drop _ _ phase =>
          rw [phase] at flies
          cases flies
      | restart waiting =>
          rw [waiting]
          rfl
    · rwa [withConnector_of_ne _ same] at flies
  · intro other frame _ waits
    cases (hookOf_none rfl other).symm.trans waits

/-- A stretch of the client's own connector that ends in the hook of an event. -/
theorem Phased.take_emit (phased : Phased client)
    (stretch : Connector.Stretch (client.attempts id).connector client.sockets (client.hookOf id) turn)
    (alone : ∀ hook, client.hook = some hook → hook.id = id) (own : client.connector = some id)
    {event : ConnectorEvent} {frame : Connector.Frame} (emits : turn.next = .emit event frame) :
    Phased (client.take id turn) := by
  obtain ⟨below, current, _⟩ := phased.coherent.attempting.made id own
  have busy := phased.flying.busy own stretch (by simp [emits])
  have concerned : (client.ran id turn).concerns id = true := by
    simp [concerns, TcpClient.ran, own, withConnector_generation, current]
  obtain ⟨runs, phase, queue, told, begun, phases, queued⟩ :=
    emitEvent_eq (client.ran id turn) id event frame
  have begun := begun concerned
  have phases : phase = .idle ∨ phase = .connecting := by
    rcases phases with idle | connecting | same
    · exact .inl idle
    · exact .inr connecting
    · exact same ▸ busy.symm
  have unconnected : phase ≠ .connected := by
    rcases phases with rfl | rfl <;> simp
  have unresolved : phase ≠ .resolving := by
    rcases phases with rfl | rfl <;> simp
  have shift := stretch.shift
  rw [emits] at shift
  have ran : client.take id turn = (client.ran id turn).emitEvent id event frame := by
    rw [TcpClient.take, emits]
  have coherent := phased.coherent.take_emit stretch alone own emits
  rw [ran, told] at coherent ⊢
  refine ⟨coherent, ⟨fun _ => unresolved, ?_, fun _ _ _ _ _ => unconnected⟩,
    fun waits => absurd waits (phased.coherent.answered own), fun _ _ _ _ => unconnected, ?_⟩
  · intro other found flies
    cases own.symm.trans found
    change (client.withConnector id turn.connector id).connector.phase.inFlight = true at flies
    rw [withConnector_self] at flies
    cases shift with
    | attempt => exact begun (.inl rfl)
    | retry => exact begun (.inr rfl)
    | fail _ _ after | succeed _ after =>
        rw [after] at flies
        cases flies
  · refine phased.connected.same (iff_of_false unconnected ?_) rfl rfl rfl rfl ?_
    · rcases busy with before | before <;> simp [before]
    · intro other member session
      rcases List.mem_append.mp member with old | new
      · exact old
      · cases List.mem_singleton.mp new
        cases session

/-- The client's own connector delivers its socket. -/
theorem Phased.take_deliver (phased : Phased client)
    (stretch : Connector.Stretch (client.attempts id).connector client.sockets (client.hookOf id) turn)
    (alone : ∀ hook, client.hook = some hook → hook.id = id) (own : client.connector = some id)
    {socket : SocketId} (delivers : turn.next = .deliver socket) :
    Phased (client.take id turn) := by
  obtain ⟨below, current, wanted⟩ := phased.coherent.attempting.made id own
  have busy := phased.flying.busy own stretch (by simp [delivers])
  obtain ⟨before, connected⟩ : (client.attempts id).connector.phase = .connected ∧
      turn.connector.phase = .connected := by
    have shift := stretch.shift
    rw [delivers] at shift
    cases shift with
    | deliver _ before after => exact ⟨before, after⟩
  have landed : ((client.ran id turn).attempts id).connector.phase = .connected := by
    simp [TcpClient.ran, withConnector_self, connected]
  have unconnected : client.connectPhase ≠ .connected := by
    rcases busy with before | before <;> simp [before]
  have attempting := phased.coherent.attempting
  have held : Phased { client.ran id turn with
      hook := some { id, frame := .delivering, runs := false } } := by
    refine ⟨⟨?_, ?_, ?_⟩, ⟨phased.flying.unresolved, ?_, ?_⟩, phased.asked, phased.settled,
      phased.connected.same Iff.rfl rfl rfl rfl rfl fun _ member _ => member⟩
    · refine attempting.take stretch alone rfl rfl rfl rfl rfl ?_ ?_
      · intro other
        rw [hookOf_some rfl, delivers]
        rfl
      · intro hook found
        cases found
        exact below
    · exact phased.coherent.resolving.same rfl rfl (fun wanted => wanted) (fun none => none)
    · exact phased.coherent.advancing.take stretch rfl rfl rfl rfl fun _ _ member => .inl member
    · intro other found flies
      cases own.symm.trans found
      change ((client.ran id turn).attempts id).connector.phase.inFlight = true at flies
      rw [landed] at flies
      cases flies
    · intro other frame found waits live
      cases own.symm.trans found
      rw [hookOf_some rfl, if_pos rfl] at waits
      cases waits
      cases live
  have taken : client.take id turn = { client.ran id turn with
      hook := some { id, frame := .delivering, runs := false } }.newConnection := by
    rw [TcpClient.take, delivers]
    dsimp only
    rw [newConnectionCallback, if_pos]
    simp [concerns, TcpClient.ran, own, withConnector_generation, current, wanted]
  rw [taken]
  refine held.newConnection unconnected ⟨id, own, landed, fun frame waits => ?_⟩ ?_
  · rw [hookOf_some rfl, if_pos rfl] at waits
    cases waits
    rfl
  · intro generation other member found
    cases own.symm.trans found
    obtain ⟨_, _, idle⟩ := phased.coherent.advancing.queued generation id member
    cases before.symm.trans (idle own)

/-- The loop runs a connector, or a hook of a connector returns. -/
theorem Phased.take (phased : Phased client)
    (stretch : Connector.Stretch (client.attempts id).connector client.sockets (client.hookOf id) turn)
    (alone : ∀ hook, client.hook = some hook → hook.id = id) :
    Phased (client.take id turn) := by
  by_cases own : client.connector = some id
  · cases next : turn.next with
    | done => exact phased.take_done stretch alone next
    | emit event frame => exact phased.take_emit stretch alone own next
    | deliver socket => exact phased.take_deliver stretch alone own next
  · exact phased.take_done stretch alone
      (stretch.halted (phased.coherent.attempting.halted id own)).1

end Stretches

end MiniTrantor.Net.TcpClient
