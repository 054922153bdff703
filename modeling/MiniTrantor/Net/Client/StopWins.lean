import MiniTrantor.Net.Client.SingleSession

/-!
# Stop wins

After `stop` or `disconnect` a client has no connector and does not want one, and
every deferred piece of work asks for one or the other before it does anything.
The connectors that were replaced are stopped, so that what the loop still holds
of them comes to nothing.
-/

set_option autoImplicit false

namespace MiniTrantor.Net

/-- A stopped connector opens no socket and queues no start. -/
theorem Connector.Stretch.still {connector : Connector} {socket : SocketId}
    {frame : Option Connector.Frame} {turn : Connector.Turn}
    (stretch : Connector.Stretch connector socket frame turn)
    (halted : Connector.Halted frame connector) :
    turn.created = none ∧ turn.connector.starts.Sublist connector.starts := by
  have idle := halted.idle
  cases stretch with
  | startInLoop generation =>
      rw [Connector.startInLoop, if_pos (.inr (by simp [idle]))]
      exact ⟨rfl, List.erase_sublist⟩
  | handleWrite generation probe =>
      rw [Connector.handleWrite, if_pos (.inr (by simp [idle]))]
      exact ⟨rfl, .refl _⟩
  | handleError generation =>
      rw [Connector.handleError, if_pos (.inr (by simp [idle]))]
      exact ⟨rfl, .refl _⟩
  | handleTimer timer =>
      unfold Connector.handleTimer
      cases timer.kind with
      | connectTimeout =>
          simp only [Connector.handleConnectTimeout]
          rw [if_pos (.inr (by simp [idle]))]
          exact ⟨rfl, .refl _⟩
      | retry =>
          simp only [Connector.handleRetry]
          rw [if_pos (.inr (by simp [idle]))]
          exact ⟨rfl, .refl _⟩
  | resume frame opening =>
      cases frame with
      | attempting generation =>
          simp only [Connector.resume, Connector.attempted]
          rw [if_pos (.inr (by simp [idle]))]
          exact ⟨rfl, .refl _⟩
      | succeeding generation held =>
          rw [Connector.resume, Connector.succeeded, if_pos (.inr (by simp [idle]))]
          exact ⟨rfl, .refl _⟩
      | failing generation retryable =>
          have stale : ¬ connector.generation = generation :=
            (halted.older _ generation rfl rfl).ne'
          rw [Connector.resume, Connector.failed, if_neg fun current => stale current.1]
          exact ⟨rfl, .refl _⟩
      | delivering => exact ⟨rfl, .refl _⟩
      | retrying => exact ⟨rfl, .refl _⟩

namespace TcpClient

variable {before after client next : TcpClient}

/-- Between two states nothing was started: what was traced are connections that
closed, no resolution was asked for, no connector was made, and none was started
or opened a socket. -/
structure NothingStarted (before after : TcpClient) : Prop where
  trace : ∃ rest, after.trace = before.trace ++ rest ∧
    ∀ event ∈ rest, ∃ connection found, event = .removeConnection connection found
  resolutions : after.resolutions.Sublist before.resolutions
  connectors : after.nextConnector = before.nextConnector
  sockets : after.sockets = before.sockets
  starts : ∀ id,
    (after.attempts id).connector.starts.Sublist (before.attempts id).connector.starts

namespace NothingStarted

theorem refl (client : TcpClient) : NothingStarted client client :=
  ⟨⟨[], by simp⟩, .refl _, rfl, rfl, fun _ => .refl _⟩

theorem trans {middle : TcpClient} (first : NothingStarted before middle)
    (second : NothingStarted middle after) : NothingStarted before after := by
  obtain ⟨earlier, joined, closed⟩ := first.trace
  obtain ⟨later, extended, reclosed⟩ := second.trace
  refine ⟨⟨earlier ++ later, ?_, ?_⟩, second.resolutions.trans first.resolutions,
    second.connectors.trans first.connectors, second.sockets.trans first.sockets,
    fun id => (second.starts id).trans (first.starts id)⟩
  · rw [extended, joined, List.append_assoc]
  · intro event member
    rcases List.mem_append.mp member with old | new
    · exact closed event old
    · exact reclosed event new

/-- Nothing but the fields that do not matter here was changed. -/
theorem same (trace : after.trace = before.trace) (resolutions : after.resolutions = before.resolutions)
    (connectors : after.nextConnector = before.nextConnector)
    (sockets : after.sockets = before.sockets) (attempts : after.attempts = before.attempts) :
    NothingStarted before after := by
  refine ⟨⟨[], by simp [trace]⟩, ?_, connectors, sockets, fun id => ?_⟩
  · rw [resolutions]
  · rw [attempts]

end NothingStarted

/-- The client is not to connect, and has no connector. -/
structure Stopped (client : TcpClient) : Prop where
  unwanted : client.connect = false
  detached : client.connector = none

/-- A step of a stopped client that keeps it so. -/
structure Stays (before after : TcpClient) : Prop where
  stopped : Stopped after
  nothing : NothingStarted before after

namespace Stopped

theorem same (stopped : Stopped before) (connect : after.connect = before.connect)
    (connector : after.connector = before.connector) : Stopped after :=
  ⟨connect.trans stopped.unwanted, connector.trans stopped.detached⟩

/-- Fields that a stopped client does not look at. -/
theorem stays (stopped : Stopped before) (connect : after.connect = before.connect)
    (connector : after.connector = before.connector) (trace : after.trace = before.trace)
    (resolutions : after.resolutions = before.resolutions)
    (connectors : after.nextConnector = before.nextConnector)
    (sockets : after.sockets = before.sockets) (attempts : after.attempts = before.attempts) :
    Stays before after :=
  ⟨stopped.same connect connector, .same trace resolutions connectors sockets attempts⟩

theorem stopInLoop (client : TcpClient) : Stopped client.stopInLoop := ⟨rfl, rfl⟩

theorem disconnectInLoop (client : TcpClient) : Stopped client.disconnectInLoop := by
  have stopped := stopInLoop client
  unfold TcpClient.disconnectInLoop
  dsimp only
  split
  · unfold TcpClient.shutdown
    split
    · exact stopped.same rfl rfl
    · exact stopped
  · exact stopped

theorem stopAgain (stopped : Stopped client) : Stays client client.stopInLoop := by
  refine ⟨stopInLoop client, .same rfl rfl rfl rfl ?_⟩
  simp only [TcpClient.stopInLoop, stopPrevious, stopped.detached]

theorem shutdown (stopped : Stopped client) (connection : ConnectionId) :
    Stays client (client.shutdown connection) := by
  unfold TcpClient.shutdown
  split
  · exact stopped.stays rfl rfl rfl rfl rfl rfl rfl
  · exact ⟨stopped, .refl client⟩

theorem disconnectAgain (stopped : Stopped client) : Stays client client.disconnectInLoop := by
  have again := stopped.stopAgain
  unfold TcpClient.disconnectInLoop
  dsimp only
  split
  case h_1 connection _ =>
    have shut := again.stopped.shutdown connection
    exact ⟨shut.stopped, again.nothing.trans shut.nothing⟩
  case h_2 => exact again

/-- The answer of a resolution comes to nothing. -/
theorem resolved (stopped : Stopped client) (generation : Nat)
    (addresses : Option (List SocketAddress)) :
    Stays client ({ client with
      resolutions := client.resolutions.erase generation }.handleResolved generation addresses) := by
  unfold handleResolved
  rw [if_pos (by simp [stopped.unwanted])]
  exact ⟨stopped.same rfl rfl, ⟨⟨[], by simp⟩, List.erase_sublist, rfl, rfl, fun _ => .refl _⟩⟩

/-- Reconnects and advances come to nothing. -/
theorem execute (stopped : Stopped client) (functor : Functor) :
    Stays client ({ client with queue := client.queue.erase functor }.execute functor) := by
  have unqueued : Stays client { client with queue := client.queue.erase functor } :=
    stopped.stays rfl rfl rfl rfl rfl rfl rfl
  cases functor with
  | reconnect generation =>
      rw [TcpClient.execute]
      dsimp only
      rw [if_pos (by simp [stopped.unwanted])]
      exact unqueued
  | advance generation attempt =>
      rw [TcpClient.execute]
      dsimp only
      rw [if_pos (by simp [stopped.unwanted])]
      exact unqueued
  | connectDestroyed connection =>
      simp only [TcpClient.execute, connectDestroyed]
      split
      · exact stopped.stays rfl rfl rfl rfl rfl rfl rfl
      · exact unqueued

/-- A connection that closes is not followed by another, whether or not the client retries. -/
theorem removeConnection (stopped : Stopped client) (connection : ConnectionId) :
    Stays client (client.removeConnection connection) := by
  unfold TcpClient.removeConnection
  dsimp only
  rw [if_neg (by simp [queueInLoop, stopped.unwanted])]
  refine ⟨stopped.same rfl rfl, ⟨⟨_, rfl, ?_⟩, .refl _, rfl, rfl, fun _ => .refl _⟩⟩
  intro event member
  exact ⟨connection, client.connection, List.mem_singleton.mp member⟩

/-- Whatever the loop still does for a connector comes to nothing. -/
theorem take (stopped : Stopped client) (coherent : Coherent client) {id : ConnectorId}
    {turn : Connector.Turn} (writable : Option (ConnectorId × Nat))
    (stretch : Connector.Stretch (client.attempts id).connector client.sockets (client.hookOf id)
      turn) :
    Stays client ({ client with writable }.take id turn) := by
  have halted := coherent.attempting.halted id (by simp [stopped.detached])
  obtain ⟨created, starts⟩ := stretch.still halted
  rw [TcpClient.take, (stretch.halted halted).1]
  refine ⟨stopped.same rfl rfl, ⟨⟨[], by simp [ran]⟩, .refl _, rfl, by simp [ran, created], ?_⟩⟩
  intro other
  change ((client.withConnector id turn.connector other).connector.starts).Sublist _
  by_cases same : other = id
  · rw [same, withConnector_self]
    exact starts
  · rw [withConnector_of_ne _ same]

/-- A stretch that the loop starts. -/
theorem loop (stopped : Stopped client) (coherent : Coherent client) (unhooked : client.hook = none)
    {id : ConnectorId} {turn : Connector.Turn} (writable : Option (ConnectorId × Nat))
    (stretch : Connector.Stretch (client.attempts id).connector client.sockets none turn) :
    Stays client ({ client with writable }.take id turn) := by
  rw [← hookOf_none unhooked id] at stretch
  exact stopped.take coherent writable stretch

theorem resume (stopped : Stopped client) (coherent : Coherent client) {opening : Opening}
    {probe : Probe} (taken : client.resume opening probe = some next) : Stays client next := by
  unfold TcpClient.resume at taken
  split at taken
  · cases taken
    exact stopped.stays rfl rfl rfl rfl rfl rfl rfl
  case h_2 connection rest _ =>
    cases taken
    have popped : Stopped { client with sessions := rest } := stopped.same rfl rfl
    have removed := popped.removeConnection connection
    have nothing : NothingStarted client { client with sessions := rest } :=
      .same rfl rfl rfl rfl rfl
    exact ⟨removed.stopped, nothing.trans removed.nothing⟩
  · cases taken
    exact stopped.stays rfl rfl rfl rfl rfl rfl rfl
  · cases taken
    exact stopped.stays rfl rfl rfl rfl rfl rfl rfl
  · split at taken
    case h_1 hook hooked =>
      cases taken
      have own : client.hookOf hook.id = some hook.frame := by
        rw [hookOf, hooked]
        exact if_pos rfl
      have stretch := @Connector.Stretch.resume (client.attempts hook.id).connector client.sockets
        hook.frame opening
      rw [← own] at stretch
      exact stopped.take coherent client.writable stretch
    case h_2 id generation unhooked _ =>
      cases taken
      exact stopped.loop coherent unhooked none (.handleWrite generation probe)
    case h_3 => cases taken

theorem handleEvent (stopped : Stopped client) (coherent : Coherent client) {id : ConnectorId}
    {error write : Bool} {probe : Probe} (unhooked : client.hook = none)
    (taken : client.handleEvent id error write probe = some next) : Stays client next := by
  unfold TcpClient.handleEvent at taken
  split at taken
  case h_2 => cases taken
  case h_1 channel _ =>
    split at taken
    · cases taken
      exact stopped.loop coherent unhooked _ (.handleError channel.generation)
    · split at taken
      · cases taken
        exact stopped.loop coherent unhooked client.writable
          (.handleWrite channel.generation probe)
      · cases taken
        exact ⟨stopped, .refl client⟩

/-- Every step but a call of `connect`. -/
theorem step (stopped : Stopped client) (coherent : Coherent client) {action : Action}
    (other : action ≠ .connect) (taken : client.step action = some next) : Stays client next := by
  cases action with
  | connect => exact absurd rfl other
  | resume opening probe => exact stopped.resume coherent taken
  | handleEvent id error write probe =>
      simp only [TcpClient.step, Option.ite_none_right_eq_some] at taken
      exact stopped.handleEvent coherent (hook_of_idle taken.1) taken.2
  | stop =>
      simp only [TcpClient.step, Option.ite_none_right_eq_some, Option.some.injEq] at taken
      exact taken.2 ▸ stopped.stopAgain
  | disconnect =>
      simp only [TcpClient.step, Option.ite_none_right_eq_some, Option.some.injEq] at taken
      exact taken.2 ▸ stopped.disconnectAgain
  | setRetry | enableSsl | setTlsEventCallback | setConnectorEventCallback =>
      simp only [TcpClient.step, Option.ite_none_right_eq_some, Option.some.injEq] at taken
      exact taken.2 ▸ stopped.stays rfl rfl rfl rfl rfl rfl rfl
  | shutdown connection =>
      simp only [TcpClient.step, Option.ite_none_right_eq_some, Option.some.injEq] at taken
      exact taken.2 ▸ stopped.shutdown connection
  | close connection =>
      simp only [TcpClient.step, Option.ite_none_right_eq_some, Option.some.injEq] at taken
      exact taken.2 ▸ stopped.stays rfl rfl rfl rfl rfl rfl rfl
  | startInLoop id generation =>
      simp only [TcpClient.step, Option.ite_none_right_eq_some, Option.some.injEq,
        Bool.and_eq_true] at taken
      exact taken.2 ▸ stopped.loop coherent (hook_of_idle taken.1.1) client.writable
        (.startInLoop generation)
  | handleTimer id timer =>
      simp only [TcpClient.step, Option.ite_none_right_eq_some, Option.some.injEq,
        Bool.and_eq_true] at taken
      exact taken.2 ▸ stopped.loop coherent (hook_of_idle taken.1.1) client.writable
        (.handleTimer timer)
  | resolved generation addresses =>
      simp only [TcpClient.step, Option.ite_none_right_eq_some, Option.some.injEq] at taken
      exact taken.2 ▸ stopped.resolved generation addresses
  | execute functor =>
      simp only [TcpClient.step, Option.ite_none_right_eq_some, Option.some.injEq] at taken
      exact taken.2 ▸ stopped.execute functor

end Stopped

/-- A call that stops the client. -/
def Action.stops (action : Action) : Prop := action = .stop ∨ action = .disconnect

theorem stopped_of_stops {action : Action} (stops : action.stops)
    (taken : client.step action = some next) : Stopped next := by
  rcases stops with rfl | rfl
  · simp only [step, Option.ite_none_right_eq_some, Option.some.injEq] at taken
    exact taken.2 ▸ Stopped.stopInLoop client
  · simp only [step, Option.ite_none_right_eq_some, Option.some.injEq] at taken
    exact taken.2 ▸ Stopped.disconnectInLoop client

theorem stop_wins {start stopped : TcpClient} {action : Action} (made : Made start)
    (reach : Reach step (fun _ _ => True) start before) (stops : action.stops)
    (taken : before.step action = some stopped)
    (later : Reach step (fun _ other => other ≠ .connect) stopped client) :
    NothingStarted stopped client := by
  have coherent := coherent_run made (.step reach trivial taken)
  have initially : Coherent stopped ∧ Stays stopped stopped :=
    ⟨coherent, stopped_of_stops stops taken, .refl stopped⟩
  have final : Coherent client ∧ Stays stopped client := by
    refine @Reach.invariant _ _ _ _ _ (fun state => Coherent state ∧ Stays stopped state) initially
      ?_ _ later
    intro state next other held allowed stepped
    have stays := held.2.stopped.step held.1 allowed stepped
    exact ⟨held.1.step stepped, stays.stopped, held.2.nothing.trans stays.nothing⟩
  exact final.2.nothing

/-- A connection closes and its callback asks for another, which is queued. -/
def reconnectQueued : List Action :=
  let opening := Opening.opened none
  let probe : Probe :=
    { localAddress := { family := 2, address := 1, port := 4000 }
      peerAddress := { family := 2, address := 1, port := 80 } }
  [.connect, .startInLoop 0 1, .resume opening probe, .handleEvent 0 false true probe,
    .resume opening probe, .close 1, .connect]

/-- The callbacks return, and what was queued is run. -/
def afterStop : List Action :=
  let opening := Opening.opened none
  let probe : Probe :=
    { localAddress := { family := 2, address := 1, port := 4000 }
      peerAddress := { family := 2, address := 1, port := 80 } }
  [.resume opening probe, .resume opening probe, .resume opening probe, .execute (.reconnect 1),
    .execute (.connectDestroyed 1)]

/-- A client that connects again by itself is stopped when both its own attempt and
the one of the callback are due. -/
theorem stop_wins_reconnecting :
    ∃ before stopped client : TcpClient,
      run step (atAddress { family := 2, address := 1, port := 80 } true {}) reconnectQueued =
        some before ∧
      before.queue = [.reconnect 1] ∧ before.step .stop = some stopped ∧
      run step stopped afterStop = some client ∧ client.queue = [] ∧
      NothingStarted stopped client := by
  have final : ∃ before stopped client : TcpClient,
      run step (atAddress { family := 2, address := 1, port := 80 } true {}) reconnectQueued =
        some before ∧
      before.queue = [.reconnect 1] ∧ before.step .stop = some stopped ∧
      run step stopped afterStop = some client ∧ client.queue = [] :=
    ⟨_, _, _, rfl, rfl, rfl, rfl, rfl⟩
  obtain ⟨before, stopped, client, ran, queued, taken, later, empty⟩ := final
  refine ⟨before, stopped, client, ran, queued, taken, later, empty, ?_⟩
  have quiet : ∀ action ∈ afterStop, ∀ _ : TcpClient, action ≠ .connect := by
    intro action member _
    simp only [afterStop, List.mem_cons, List.not_mem_nil, or_false] at member
    rcases member with rfl | rfl | rfl | rfl | rfl <;> simp
  exact stop_wins (.atAddress { family := 2, address := 1, port := 80 } true {})
    (.run .start (by simp) ran) (.inl rfl) taken (.run .start quiet later)

end TcpClient

end MiniTrantor.Net
