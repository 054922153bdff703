import MiniTrantor.Net.Client.ClientPhase
import MiniTrantor.Reachability

/-!
# One session at a time

Whatever the order of calls, answers, connector events and closes, and whatever
the hooks call, a client resolves, or tries to connect, or is connected, and
never two of these, as long as no connection is closed in the hook that comes before it is
established. A connection that is closed there is established after that, and nothing is
left that knows of it.
-/

set_option autoImplicit false

namespace MiniTrantor.Net.TcpClient

variable {client next : TcpClient}

/-- Everything that a step can be. -/
inductive Moves (client : TcpClient) : TcpClient → Prop where
  | set (retry tlsContext tlsEventCallback connectorEventCallback : Bool) :
      Moves client { client with retry, tlsContext, tlsEventCallback, connectorEventCallback }
  | connect : Moves client client.connectInLoop
  | stop : Moves client client.stopInLoop
  | disconnect : Moves client client.disconnectInLoop
  | shutdown (connection : ConnectionId) : Moves client (client.shutdown connection)
  | close {connection : ConnectionId} {state : StateE}
      (found : client.connections connection = some state) (begun : state ≠ .kConnecting)
      (unclosed : state ≠ .kDisconnected) : Moves client (client.handleClose connection)
  | stretch {id : ConnectorId} {turn : Connector.Turn} (writable : Option (ConnectorId × Nat))
      (stretch : Connector.Stretch (client.attempts id).connector client.sockets (client.hookOf id)
        turn) (alone : ∀ hook, client.hook = some hook → hook.id = id) :
      Moves client ({ client with writable }.take id turn)
  | resolved {generation : Nat} (waits : generation ∈ client.resolutions)
      (addresses : Option (List SocketAddress)) :
      Moves client ({ client with
        resolutions := client.resolutions.erase generation }.handleResolved generation addresses)
  | execute {functor : Functor} (member : functor ∈ client.queue) :
      Moves client ({ client with queue := client.queue.erase functor }.execute functor)
  | established {connection : ConnectionId} {runs : Bool} {rest : List Session}
      (top : client.sessions = .handshakeStarted connection runs :: rest) :
      Moves client ({ client with sessions := rest }.connectEstablished connection)
  | removed {connection : ConnectionId} {rest : List Session}
      (top : client.sessions = .disconnected connection :: rest) :
      Moves client ({ client with sessions := rest }.removeConnection connection)
  | returned {session : Session} {rest : List Session} (top : client.sessions = session :: rest) :
      Moves client { client with sessions := rest }

/-- A connection is closed before it is established. -/
inductive Aborts (client : TcpClient) : Action → TcpClient → Prop where
  | close {connection : ConnectionId} (early : client.connections connection = some .kConnecting) :
      Aborts client (.close connection) (client.handleClose connection)

/-- A stretch that the loop starts. -/
theorem Moves.loop {id : ConnectorId} {turn : Connector.Turn}
    {writable : Option (ConnectorId × Nat)} (unhooked : client.hook = none)
    (stretch : Connector.Stretch (client.attempts id).connector client.sockets none turn) :
    Moves client ({ client with writable }.take id turn) := by
  rw [← hookOf_none unhooked id] at stretch
  exact .stretch writable stretch (by simp [unhooked])

theorem hook_of_idle (idle : client.idle = true) : client.hook = none := by
  simp only [TcpClient.idle, Bool.and_eq_true, Option.isNone_iff_eq_none] at idle
  exact idle.1.2

theorem resume_moves {opening : Opening} {probe : Probe}
    (taken : client.resume opening probe = some next) : Moves client next := by
  unfold TcpClient.resume at taken
  split at taken
  · cases taken
    exact .established ‹_›
  · cases taken
    exact .removed ‹_›
  · cases taken
    exact .returned ‹_›
  · cases taken
    exact .returned ‹_›
  · split at taken
    case h_1 hook hooked =>
      cases taken
      have own : client.hookOf hook.id = some hook.frame := by
        rw [hookOf, hooked]
        exact if_pos rfl
      have stretch := @Connector.Stretch.resume (client.attempts hook.id).connector client.sockets
        hook.frame opening
      rw [← own] at stretch
      refine .stretch client.writable stretch fun other found => ?_
      cases hooked.symm.trans found
      rfl
    case h_2 id generation unhooked _ =>
      cases taken
      exact .loop unhooked (.handleWrite generation probe)
    case h_3 => cases taken

theorem handleEvent_moves {id : ConnectorId} {error write : Bool} {probe : Probe}
    (idle : client.idle = true) (taken : client.handleEvent id error write probe = some next) :
    Moves client next := by
  have unhooked := hook_of_idle idle
  unfold TcpClient.handleEvent at taken
  split at taken
  case h_2 => cases taken
  case h_1 channel _ =>
    split at taken
    · cases taken
      exact .loop unhooked (.handleError channel.generation)
    · split at taken
      · cases taken
        exact .loop unhooked (.handleWrite channel.generation probe)
      · cases taken
        exact .set ..

theorem step_moves {action : Action} (taken : client.step action = some next) :
    Moves client next ∨ Aborts client action next := by
  cases action with
  | resume opening probe => exact .inl (resume_moves taken)
  | handleEvent id error write probe =>
      simp only [step, Option.ite_none_right_eq_some] at taken
      exact .inl (handleEvent_moves taken.1 taken.2)
  | connect =>
      simp only [step, Option.ite_none_right_eq_some, Option.some.injEq] at taken
      exact taken.2 ▸ .inl .connect
  | stop =>
      simp only [step, Option.ite_none_right_eq_some, Option.some.injEq] at taken
      exact taken.2 ▸ .inl .stop
  | disconnect =>
      simp only [step, Option.ite_none_right_eq_some, Option.some.injEq] at taken
      exact taken.2 ▸ .inl .disconnect
  | setRetry retry =>
      simp only [step, Option.ite_none_right_eq_some, Option.some.injEq] at taken
      exact taken.2 ▸ .inl (.set ..)
  | enableSsl =>
      simp only [step, Option.ite_none_right_eq_some, Option.some.injEq] at taken
      exact taken.2 ▸ .inl (.set ..)
  | setTlsEventCallback set =>
      simp only [step, Option.ite_none_right_eq_some, Option.some.injEq] at taken
      exact taken.2 ▸ .inl (.set ..)
  | setConnectorEventCallback set =>
      simp only [step, Option.ite_none_right_eq_some, Option.some.injEq] at taken
      exact taken.2 ▸ .inl (.set ..)
  | shutdown connection =>
      simp only [step, Option.ite_none_right_eq_some, Option.some.injEq] at taken
      exact taken.2 ▸ .inl (.shutdown connection)
  | close connection =>
      simp only [step, Option.ite_none_right_eq_some, Option.some.injEq, Bool.and_eq_true,
        Option.any_eq_true, bne_iff_ne] at taken
      obtain ⟨⟨_, state, found, unclosed⟩, rfl⟩ := taken
      by_cases early : state = .kConnecting
      · exact .inr (.close (early ▸ found))
      · exact .inl (.close found early unclosed)
  | startInLoop id generation =>
      simp only [step, Option.ite_none_right_eq_some, Option.some.injEq, Bool.and_eq_true] at taken
      exact taken.2 ▸ .inl (.loop (hook_of_idle taken.1.1) (.startInLoop generation))
  | handleTimer id timer =>
      simp only [step, Option.ite_none_right_eq_some, Option.some.injEq, Bool.and_eq_true] at taken
      exact taken.2 ▸ .inl (.loop (hook_of_idle taken.1.1) (.handleTimer timer))
  | resolved generation addresses =>
      simp only [step, Option.ite_none_right_eq_some, Option.some.injEq, Bool.and_eq_true,
        List.contains_iff_mem] at taken
      exact taken.2 ▸ .inl (.resolved taken.1.2 addresses)
  | execute functor =>
      simp only [step, Option.ite_none_right_eq_some, Option.some.injEq, Bool.and_eq_true,
        List.contains_iff_mem] at taken
      exact taken.2 ▸ .inl (.execute taken.1.2)

theorem Coherent.moves (coherent : Coherent client) (moves : Moves client next) :
    Coherent next := by
  cases moves with
  | set | close | established | returned =>
      exact coherent.same rfl rfl rfl rfl rfl id rfl rfl fun _ _ => id
  | connect => exact coherent.connectInLoop
  | stop => exact coherent.stopInLoop
  | disconnect => exact coherent.disconnectInLoop
  | shutdown connection => exact coherent.shutdown connection
  | stretch writable stretch alone =>
      have same : Coherent { client with writable } :=
        coherent.same rfl rfl rfl rfl rfl id rfl rfl fun _ _ => id
      exact same.take stretch alone
  | resolved waits addresses => exact coherent.resolved _ addresses
  | execute member => exact coherent.execute _
  | removed top =>
      have popped : ∀ rest, Coherent { client with sessions := rest } :=
        fun rest => coherent.same rfl rfl rfl rfl rfl id rfl rfl fun _ _ => id
      exact (popped _).removeConnection _

theorem Coherent.step (coherent : Coherent client) {action : Action}
    (taken : client.step action = some next) : Coherent next := by
  rcases step_moves taken with moves | aborts
  · exact coherent.moves moves
  · cases aborts
    exact coherent.same rfl rfl rfl rfl rfl id rfl rfl fun _ _ => id

theorem Phased.moves (phased : Phased client) (moves : Moves client next) : Phased next := by
  cases moves with
  | set =>
      exact phased.same rfl rfl rfl rfl rfl id rfl rfl rfl rfl rfl rfl rfl rfl fun _ _ => id
  | connect => exact phased.connectInLoop
  | stop => exact phased.stopInLoop
  | disconnect => exact phased.disconnectInLoop
  | shutdown connection => exact phased.shutdown connection
  | close found begun unclosed => exact phased.handleClose found begun unclosed
  | stretch writable stretch alone =>
      have same : Phased { client with writable } :=
        phased.same rfl rfl rfl rfl rfl id rfl rfl rfl rfl rfl rfl rfl rfl fun _ _ => id
      exact same.take stretch alone
  | resolved waits addresses => exact phased.resolved waits addresses
  | execute member => exact phased.execute member
  | established top => exact phased.connectEstablished top
  | removed top => exact phased.removeConnection top
  | returned top => exact phased.pop top

/-- A client that has just been made. -/
inductive Made : TcpClient → Prop where
  | atAddress (address : SocketAddress) (retry : Bool) (options : ConnectorOptions) :
      Made (atAddress address retry options)
  | atHostname : Made atHostname

theorem Coherent.initial {start : TcpClient}
    (attempts : ∀ id, (start.attempts id).connector = {}) (detached : start.connector = none)
    (unhooked : start.hook = none) (unresolved : start.resolutions = [])
    (unqueued : start.queue = []) : Coherent start := by
  have fresh : Connector.Valid none {} := .create {}
  refine ⟨Connectors.unattached ⟨?_, ?_, by simp [unhooked]⟩ detached,
    .outdated (by simp [unresolved]), ?_⟩
  · intro id
    rw [attempts, hookOf_none unhooked]
    exact fresh
  · intro id _
    rw [attempts, hookOf_none unhooked]
    exact ⟨rfl, by simp⟩
  · constructor <;> simp [detached, unqueued]

theorem coherent_run {permitted : TcpClient → Action → Prop} {start : TcpClient} (made : Made start)
    (reach : Reach step permitted start client) : Coherent client := by
  have initially : Coherent start := by
    cases made with
    | atAddress address retry options => exact .initial (fun _ => rfl) rfl rfl rfl rfl
    | atHostname => exact .initial (fun _ => rfl) rfl rfl rfl rfl
  exact reach.invariant initially fun _ _ _ coherent _ taken => coherent.step taken

/-- No connection is closed before it is established. -/
def Orderly (client : TcpClient) (action : Action) : Prop :=
  ∀ connection, action = .close connection → client.connections connection ≠ some .kConnecting

theorem phased_run {start : TcpClient} (made : Made start)
    (reach : Reach step Orderly start client) : Phased client := by
  have coherent := @coherent_run _ (fun _ _ => True) _ made .start
  have connected : Connected start := by
    cases made with
    | atAddress | atHostname => constructor <;> simp [atAddress, atHostname]
  have initially : Phased start := by
    cases made with
    | atAddress | atHostname => exact .detached coherent rfl List.not_mem_nil connected
  refine reach.invariant initially fun _ _ _ phased orderly taken => ?_
  rcases step_moves taken with moves | aborts
  · exact phased.moves moves
  · cases aborts with
    | close early => exact absurd early (orderly _ rfl)

/-- Something that keeps a client busy. -/
inductive Activity where
  | resolution (generation : Nat)
  | attempt (id : ConnectorId)
  | session (connection : ConnectionId)
  deriving DecidableEq, Repr

/-- A pending resolution of this round, a connector that has not delivered or given
up, a connection that is the client's or is not closed. -/
def Active (client : TcpClient) : Activity → Prop
  | .resolution generation =>
      generation = client.connectGeneration ∧ generation ∈ client.resolutions
  | .attempt id => (client.attempts id).connector.phase.inFlight = true ∨
      ∃ socket, client.hookOf id =
        some (.succeeding (client.attempts id).connector.generation socket)
  | .session connection => client.connection = some connection ∨
      ∃ state, client.connections connection = some state ∧ state ≠ .kDisconnected

structure SingleSession (client : TcpClient) : Prop where
  phase : client.connectPhase = .connected ↔ client.connection.isSome = true
  single : ∀ first second, client.Active first → client.Active second → first = second
  once : client.resolutions.count client.connectGeneration ≤ 1
  entered : ∀ connection found, .newConnection connection found ∈ client.trace → found = none
  left : ∀ connection found, .removeConnection connection found ∈ client.trace →
    found = some connection

/-- Only the client's own connector is at work. -/
theorem Coherent.connector_of_active (coherent : Coherent client) {id : ConnectorId}
    (active : client.Active (.attempt id)) : client.connector = some id := by
  by_contra replaced
  have halted := coherent.attempting.halted id replaced
  rcases active with flies | ⟨socket, holds⟩
  · rw [halted.idle] at flies
    cases flies
  · exact Nat.lt_irrefl _ (halted.older _ _ holds rfl)

namespace Phased

theorem resolving_of_active (phased : Phased client) {generation : Nat}
    (active : client.Active (.resolution generation)) : client.connectPhase = .resolving :=
  phased.asked (active.1 ▸ active.2)

theorem unconnected_of_active (phased : Phased client) {id : ConnectorId}
    (active : client.Active (.attempt id)) :
    client.connectPhase ≠ .connected ∧ client.connectPhase ≠ .resolving := by
  have own := phased.coherent.connector_of_active active
  refine ⟨?_, phased.flying.unresolved (by simp [own])⟩
  rcases active with flies | ⟨socket, holds⟩
  · simp [phased.flying.flying id own flies]
  · exact phased.flying.waiting id _ own holds rfl

theorem connection_of_active (phased : Phased client) {connection : ConnectionId}
    (active : client.Active (.session connection)) : client.connection = some connection := by
  rcases active with own | ⟨state, found, unclosed⟩
  · exact own
  · exact phased.connected.own_of_open found unclosed

theorem connected_of_active (phased : Phased client) {connection : ConnectionId}
    (active : client.Active (.session connection)) : client.connectPhase = .connected :=
  phased.connected.phase.mpr (by rw [phased.connection_of_active active]; rfl)

end Phased

theorem single_session {start : TcpClient} (made : Made start)
    (reach : Reach step Orderly start client) : SingleSession client := by
  have phased := phased_run made reach
  refine ⟨phased.connected.phase, ?_, phased.coherent.resolving.single, phased.connected.entered,
    phased.connected.left⟩
  intro first second one other
  cases first with
  | resolution generation =>
      have phase := phased.resolving_of_active one
      cases second with
      | resolution later => rw [one.1, other.1]
      | attempt id => exact absurd phase (phased.unconnected_of_active other).2
      | session connection => cases phase.symm.trans (phased.connected_of_active other)
  | attempt id =>
      have own := phased.coherent.connector_of_active one
      cases second with
      | resolution generation =>
          exact absurd (phased.resolving_of_active other) (phased.unconnected_of_active one).2
      | attempt later =>
          cases own.symm.trans (phased.coherent.connector_of_active other)
          rfl
      | session connection =>
          exact absurd (phased.connected_of_active other) (phased.unconnected_of_active one).1
  | session connection =>
      have phase := phased.connected_of_active one
      cases second with
      | resolution generation => cases phase.symm.trans (phased.resolving_of_active other)
      | attempt id => exact absurd phase (phased.unconnected_of_active other).1
      | session later =>
          cases (phased.connection_of_active one).symm.trans (phased.connection_of_active other)
          rfl

/-- A connection is established. -/
def connected : List Action :=
  let opening := Opening.opened none
  let probe : Probe :=
    { localAddress := { family := 2, address := 1, port := 4000 }
      peerAddress := { family := 2, address := 1, port := 80 } }
  [.connect, .startInLoop 0 1, .resume opening probe, .handleEvent 0 false true probe,
    .resume opening probe]

/-- A connection is closed in its own callback; the callback that tells so asks for
another, and the client connects again by itself as well. -/
def closedInCallback : List Action :=
  let opening := Opening.opened none
  let probe : Probe :=
    { localAddress := { family := 2, address := 1, port := 4000 }
      peerAddress := { family := 2, address := 1, port := 80 } }
  [.connect, .resume opening probe, .resume opening probe, .resume opening probe,
    .execute (.reconnect 1), .startInLoop 1 1]

theorem orderly_of_ne {action : Action} (other : ∀ connection, action ≠ .close connection) :
    Orderly client action :=
  fun connection same => absurd same (other connection)

theorem single_session_reentered :
    ∃ opened closed client : TcpClient,
      run step (atAddress { family := 2, address := 1, port := 80 } true {}) connected =
        some opened ∧
      opened.step (.close 1) = some closed ∧ run step closed closedInCallback = some client ∧
      client.trace =
        [.emitted 1 { family := 2, address := 1, port := 80 } .connectAttempt,
          .emitted 1 { family := 2, address := 1, port := 80 } .connectSuccess,
          .newConnection 1 none, .removeConnection 1 (some 1),
          .emitted 2 { family := 2, address := 1, port := 80 } .connectAttempt] ∧
      SingleSession client := by
  have final : ∃ opened closed client : TcpClient,
      run step (atAddress { family := 2, address := 1, port := 80 } true {}) connected =
        some opened ∧ opened.connections 1 = some .kConnected ∧
      opened.step (.close 1) = some closed ∧ run step closed closedInCallback = some client ∧
      client.trace =
        [.emitted 1 { family := 2, address := 1, port := 80 } .connectAttempt,
          .emitted 1 { family := 2, address := 1, port := 80 } .connectSuccess,
          .newConnection 1 none, .removeConnection 1 (some 1),
          .emitted 2 { family := 2, address := 1, port := 80 } .connectAttempt] :=
    ⟨_, _, _, rfl, rfl, rfl, rfl, rfl⟩
  obtain ⟨opened, closed, client, ran, established, taken, later, trace⟩ := final
  have begun : Reach step Orderly _ opened :=
    .run .start (fun action member _ => orderly_of_ne (by revert action; simp [connected])) ran
  have orderly : Orderly opened (.close 1) := by
    intro connection same
    cases same
    simp [established]
  refine ⟨opened, closed, client, ran, taken, later, trace,
    single_session (.atAddress { family := 2, address := 1, port := 80 } true {})
      (.run (.step begun orderly taken) ?_ later)⟩
  exact fun action member _ => orderly_of_ne (by revert action; simp [closedInCallback])

/-- A connection is closed in the hook that comes before it is established, and again after. -/
def closedInHook : List Action :=
  let opening := Opening.opened none
  let probe : Probe :=
    { localAddress := { family := 2, address := 1, port := 4000 }
      peerAddress := { family := 2, address := 1, port := 80 } }
  [.enableSsl, .setTlsEventCallback true] ++ connected ++ [.close 1, .resume opening probe,
    .resume opening probe, .resume opening probe, .resume opening probe, .close 1,
    .resume opening probe]

theorem single_session_closed_in_hook :
    ∃ client : TcpClient,
      run step (atAddress { family := 2, address := 1, port := 80 } false {}) closedInHook =
        some client ∧
      .removeConnection 1 (some 1) ∈ client.trace ∧ .removeConnection 1 none ∈ client.trace ∧
      ¬SingleSession client := by
  have final : ∃ client : TcpClient,
      run step (atAddress { family := 2, address := 1, port := 80 } false {}) closedInHook =
        some client ∧
      client.trace =
        [.emitted 1 { family := 2, address := 1, port := 80 } .connectAttempt,
          .emitted 1 { family := 2, address := 1, port := 80 } .connectSuccess,
          .newConnection 1 none, .removeConnection 1 (some 1), .removeConnection 1 none] :=
    ⟨_, rfl, rfl⟩
  obtain ⟨client, ran, trace⟩ := final
  refine ⟨client, ran, by simp [trace], by simp [trace], fun session => ?_⟩
  cases session.left 1 none (by simp [trace])

end MiniTrantor.Net.TcpClient
