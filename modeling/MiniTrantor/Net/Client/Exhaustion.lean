import MiniTrantor.Net.Client.Candidates

/-!
# Rounds in which every candidate fails

Whatever makes each candidate fail, the loop goes on by itself to the next one,
and when there is none left the client is idle. Clients for a hostname have no
timeout for an attempt, so a candidate fails when its socket cannot be made or
refuses to connect, or by an event of its channel.
-/

set_option autoImplicit false

namespace MiniTrantor.Net.TcpClient

/-- A way in which an attempt fails. -/
inductive Failure where
  | unavailable (error : SocketError)
  | refused (error : SocketError) (fatal : (error.isInProgress || error.isInterrupted) = false)
  | errorEvent
  | writeEvent (probe : Probe) (fails : probe.socketError ≠ 0 ∨ probe.selfConnect = true)

/-- What is asked of a socket that is not asked for anything. -/
def noProbe : Probe :=
  { localAddress := { family := 0, address := 0, port := 0 }
    peerAddress := { family := 0, address := 0, port := 0 } }

/-- What the loop does between the hook of an attempt and that of its failure. -/
def Failure.outcome (id : ConnectorId) : Failure → List Action
  | .unavailable error => [.resume (.unavailable error) noProbe]
  | .refused error _ => [.resume (.opened (some error)) noProbe]
  | .errorEvent => [.resume (.opened none) noProbe, .handleEvent id true false noProbe]
  | .writeEvent probe _ => [.resume (.opened none) noProbe, .handleEvent id false true probe]

/-- The steps of one candidate, from its queued start to the advance to the next. -/
def Failure.actions (generation : Nat) (id : ConnectorId) (failure : Failure) : List Action :=
  .startInLoop id 1 :: failure.outcome id ++
    [.resume (.opened none) noProbe, .execute (.advance generation id)]

/-- The steps of the candidates from the given connector on. -/
def failing (generation : Nat) : ConnectorId → List Failure → List Action
  | _, [] => []
  | id, failure :: rest => failure.actions generation id ++ failing generation (id + 1) rest

/-- A candidate of a round on its way to fail, with the number of those begun so far. -/
structure At (client : TcpClient) (generation : Nat) (addresses : List SocketAddress) (count : Nat)
    (id : ConnectorId) (frame : Option Connector.Frame) (phase : Connector.Phase) : Prop where
  sessions : client.sessions = []
  writable : client.writable = none
  hook : client.hook.map (fun hook => (hook.id, hook.frame)) = frame.map fun frame => (id, frame)
  own : client.connector = some id
  last : client.nextConnector = id + 1
  phase : (client.attempts id).connector.phase = phase
  first : (client.attempts id).connector.generation = 1
  current : client.connectGeneration = generation
  answered : .resolved generation addresses ∈ client.trace
  listed : client.candidates = addresses
  ahead : client.nextCandidate = count

variable {client : TcpClient} {generation count : Nat} {addresses : List SocketAddress}
  {id : ConnectorId} {frame : Option Connector.Frame} {phase : Connector.Phase}
  {turn : Connector.Turn}

namespace At

theorem unhooked (here : At client generation addresses count id none phase) : client.hook = none := by
  have hook := here.hook
  simpa using hook

theorem hooked {frame : Connector.Frame}
    (here : At client generation addresses count id (some frame) phase) :
    ∃ runs, client.hook = some { id, frame, runs } := by
  obtain ⟨hook, found, same⟩ := Option.map_eq_some_iff.mp here.hook
  cases same
  exact ⟨hook.runs, found⟩

theorem idle (here : At client generation addresses count id none phase) : client.idle = true := by
  simp [TcpClient.idle, here.sessions, here.writable, here.unhooked]

theorem done (here : At client generation addresses count id frame phase) {after : Connector.Phase}
    (done : turn.next = .done) (first : turn.connector.generation = 1)
    (now : turn.connector.phase = after) :
    At (client.take id turn) generation addresses count id none after := by
  have ran : client.take id turn = client.ran id turn := by
    rw [TcpClient.take, done]
  have attempt : ((client.ran id turn).attempts id).connector = turn.connector := by
    simp [TcpClient.ran, withConnector_self]
  rw [ran]
  exact ⟨here.sessions, here.writable, rfl, here.own, here.last, by rw [attempt, now],
    by rw [attempt, first], here.current, here.answered, here.listed, here.ahead⟩

theorem emit (here : At client generation addresses count id frame phase) {event : ConnectorEvent}
    {waiting : Connector.Frame} {after : Connector.Phase} (emits : turn.next = .emit event waiting)
    (first : turn.connector.generation = 1) (now : turn.connector.phase = after) :
    At (client.take id turn) generation addresses count id (some waiting) after := by
  have ran : client.take id turn = (client.ran id turn).emitEvent id event waiting := by
    rw [TcpClient.take, emits]
  have attempt := @emitted_attempts client id turn event waiting
  obtain ⟨runs, connectPhase, queue, told, _⟩ := emitEvent_eq (client.ran id turn) id event waiting
  rw [ran]
  refine ⟨?_, ?_, ?_, ?_, ?_, by rw [attempt, now], by rw [attempt, first], ?_, ?_, ?_, ?_⟩
  · rw [told]
    exact here.sessions
  · rw [told]
    exact here.writable
  · rw [told]
    rfl
  · rw [told]
    exact here.own
  · rw [told]
    exact here.last
  · rw [told]
    exact here.current
  · rw [told]
    exact List.mem_append_left _ here.answered
  · rw [told]
    exact here.listed
  · rw [told]
    exact here.ahead

theorem start (here : At client generation addresses count id none .startQueued)
    (queued : 1 ∈ (client.attempts id).connector.starts) :
    ∃ next, client.step (.startInLoop id 1) = some next ∧
      At next generation addresses count id (some (.attempting 1)) .connecting := by
  have turn : { (client.attempts id).connector with
      starts := (client.attempts id).connector.starts.erase 1 }.startInLoop 1 =
        { connector := { (client.attempts id).connector with
            starts := (client.attempts id).connector.starts.erase 1
            phase := .connecting }
          next := .emit .connectAttempt (.attempting 1) } := by
    rw [Connector.startInLoop, if_neg (by simp [here.first, here.phase])]
  have taken : client.step (.startInLoop id 1) = some (client.take id
      ({ (client.attempts id).connector with
        starts := (client.attempts id).connector.starts.erase 1 }.startInLoop 1)) := by
    rw [step, if_pos (by simp [here.idle, queued])]
  refine ⟨_, taken, ?_⟩
  rw [turn]
  exact here.emit rfl here.first rfl

theorem resumes {waiting : Connector.Frame} (here : At client generation addresses count id (some waiting)
    phase) (opening : Opening) (probe : Probe) :
    client.step (.resume opening probe) =
      some (client.take id ((client.attempts id).connector.resume waiting client.sockets opening)) := by
  obtain ⟨runs, hooked⟩ := here.hooked
  rw [step, TcpClient.resume, here.sessions, hooked]

/-- The socket is there and its channel is registered. -/
theorem registered (here : At client generation addresses count id (some (.attempting 1)) .connecting) :
    ∃ next channel, client.step (.resume (.opened none) noProbe) = some next ∧
      At next generation addresses count id none .connecting ∧
      (next.attempts id).connector.channel = some channel ∧ channel.generation = 1 := by
  have turn : (client.attempts id).connector.resume (.attempting 1) client.sockets (.opened none) =
      { connector := (client.attempts id).connector.connecting client.sockets 1
        created := some client.sockets } := by
    rw [Connector.resume, Connector.attempted.eq_def,
      if_neg (by simp [here.first, here.phase])]
  obtain ⟨phase, first⟩ := (client.attempts id).connector.connecting_same client.sockets 1
  refine ⟨_, { fd := client.sockets, generation := 1 }, here.resumes _ _, ?_, ?_, rfl⟩
  · rw [turn]
    exact here.done rfl (first.trans here.first) (phase.trans here.phase)
  · rw [turn]
    simp [TcpClient.take, TcpClient.ran, withConnector_self, Connector.connecting_channel]

/-- Every kind of failure is told by the hook. -/
theorem fails (here : At client generation addresses count id (some (.attempting 1)) .connecting)
    (failure : Failure) : ∃ next retryable, run step client (failure.outcome id) = some next ∧
      At next generation addresses count id (some (.failing 1 retryable)) .idle := by
  have live : ¬((client.attempts id).connector.generation ≠ 1 ∨
      (client.attempts id).connector.phase ≠ .connecting) := by
    simp [here.first, here.phase]
  cases failure with
  | unavailable error =>
      have turn : (client.attempts id).connector.resume (.attempting 1) client.sockets
          (.unavailable error) = (client.attempts id).connector.fail none .connectFailed 1
            error.isConnectRetryable := by
        rw [Connector.resume, Connector.attempted.eq_def, if_neg live]
      have taken := here.resumes (.unavailable error) noProbe
      rw [turn] at taken
      exact ⟨_, error.isConnectRetryable, (run_singleton ..).trans taken,
        here.emit rfl here.first rfl⟩
  | refused error fatal =>
      have turn : (client.attempts id).connector.resume (.attempting 1) client.sockets
          (.opened (some error)) = { (client.attempts id).connector.fail (some client.sockets)
            .connectFailed 1 error.isConnectRetryable with created := some client.sockets } := by
        rw [Connector.resume, Connector.attempted.eq_def, if_neg live]
        dsimp only
        rw [if_neg (by simp [fatal])]
      have taken := here.resumes (.opened (some error)) noProbe
      rw [turn] at taken
      exact ⟨_, error.isConnectRetryable, (run_singleton ..).trans taken,
        here.emit rfl here.first rfl⟩
  | errorEvent =>
      obtain ⟨middle, channel, taken, there, set, same⟩ := here.registered
      have turn : (middle.attempts id).connector.handleError 1 =
          (middle.attempts id).connector.removeAndResetChannel.fail (some channel.fd)
            .connectFailed 1 true := by
        rw [Connector.handleError, if_neg (by simp [there.first, there.phase]), set]
      have event : middle.step (.handleEvent id true false noProbe) =
          some ({ middle with writable := none }.take id
            ((middle.attempts id).connector.handleError 1)) := by
        rw [step, if_pos there.idle, TcpClient.handleEvent, set]
        simp [same]
      have cleared : At { middle with writable := none } generation addresses count id none
          .connecting := ⟨there.sessions, rfl, there.hook, there.own, there.last, there.phase,
            there.first, there.current, there.answered, there.listed, there.ahead⟩
      have ran : run step client (Failure.errorEvent.outcome id) =
          some ({ middle with writable := none }.take id
            ((middle.attempts id).connector.handleError 1)) := by
        rw [Failure.outcome, run, taken, Option.bind_some, run_singleton, event]
      rw [turn] at ran
      exact ⟨_, true, ran, cleared.emit rfl there.first rfl⟩
  | writeEvent probe bad =>
      obtain ⟨middle, channel, taken, there, set, same⟩ := here.registered
      have turn : ∃ event, (middle.attempts id).connector.handleWrite 1 probe =
          (middle.attempts id).connector.cancelTimers.removeAndResetChannel.fail (some channel.fd)
            event 1 true := by
        rw [Connector.handleWrite, if_neg (by simp [there.first, there.phase]), set]
        dsimp only
        rcases bad with error | self
        · exact ⟨_, if_pos error⟩
        · by_cases error : probe.socketError ≠ 0
          · exact ⟨_, if_pos error⟩
          · exact ⟨_, by rw [if_neg error, if_pos self]⟩
      obtain ⟨event, turn⟩ := turn
      have written : middle.step (.handleEvent id false true probe) =
          some (middle.take id ((middle.attempts id).connector.handleWrite 1 probe)) := by
        rw [step, if_pos there.idle, TcpClient.handleEvent, set]
        simp [same]
      have ran : run step client ((Failure.writeEvent probe bad).outcome id) =
          some (middle.take id ((middle.attempts id).connector.handleWrite 1 probe)) := by
        rw [Failure.outcome, run, taken, Option.bind_some, run_singleton, written]
      rw [turn] at ran
      exact ⟨_, true, ran, there.emit rfl there.first rfl⟩

/-- A candidate is not tried again. -/
theorem gives_up {retryable : Bool}
    (here : At client generation addresses count id (some (.failing 1 retryable)) .idle)
    (plain : (client.attempts id).connector.retryEnabled = false) :
    ∃ next, client.step (.resume (.opened none) noProbe) = some next ∧
      At next generation addresses count id none .idle := by
  have turn : (client.attempts id).connector.resume (.failing 1 retryable) client.sockets
      (.opened none) = { connector := (client.attempts id).connector } := by
    rw [Connector.resume, Connector.failed, if_neg (by simp [plain])]
  refine ⟨_, here.resumes _ _, ?_⟩
  rw [turn]
  exact here.done rfl here.first here.phase

end At

/-- The round has come to its end. -/
structure Ended (client : TcpClient) (generation : Nat) (addresses : List SocketAddress) : Prop where
  idle : client.idle = true
  detached : client.connector = none
  current : client.connectGeneration = generation
  answered : .resolved generation addresses ∈ client.trace

/-- A candidate whose connector has its start queued. -/
structure Due (client : TcpClient) (generation : Nat) (addresses : List SocketAddress) (count : Nat)
    (id : ConnectorId) : Prop extends
    At client generation addresses count id none .startQueued where
  starts : 1 ∈ (client.attempts id).connector.starts

/-- The next candidate is started if there is one. -/
theorem startNextCandidate_due (idle : client.idle = true)
    (current : client.connectGeneration = generation)
    (answered : .resolved generation addresses ∈ client.trace)
    (listed : client.candidates = addresses) (ahead : client.nextCandidate = count)
    (fresh : client.nextConnector = id) :
    (count = addresses.length → Ended client.startNextCandidate generation addresses) ∧
      (count < addresses.length →
        Due client.startNextCandidate generation addresses (count + 1) id) := by
  subst ahead fresh
  constructor
  · intro last
    unfold startNextCandidate
    dsimp only
    rw [if_pos (show client.stopPrevious.nextCandidate = client.stopPrevious.candidates.length from
      last.trans (by rw [← listed]; rfl))]
    exact ⟨idle, rfl, current, answered⟩
  · intro more
    have found : client.candidates[client.nextCandidate]? = some addresses[client.nextCandidate] := by
      rw [listed]
      exact List.getElem?_eq_getElem more
    unfold startNextCandidate
    dsimp only
    rw [if_neg (show ¬client.stopPrevious.nextCandidate = client.stopPrevious.candidates.length from
      fun last => more.ne (last.trans (by rw [← listed]; rfl)))]
    rw [show client.stopPrevious.candidates[client.stopPrevious.nextCandidate]? =
      some addresses[client.nextCandidate] from found]
    simp only [TcpClient.idle, Bool.and_eq_true, List.isEmpty_iff, Option.isNone_iff_eq_none] at idle
    obtain ⟨⟨sessions, hook⟩, writable⟩ := idle
    refine ⟨⟨sessions, writable, ?_, rfl, rfl, ?_, ?_, current, ?_, listed, rfl⟩, ?_⟩
    · exact congrArg (Option.map _) hook
    · simp [startConnector, initConnector, withConnector, Connector.start, Connector.create,
        stopPrevious]
    · simp [startConnector, initConnector, withConnector, Connector.start, Connector.create,
        stopPrevious]
    · exact List.mem_append_left _ answered
    · simp [startConnector, initConnector, withConnector, Connector.start, Connector.create,
        stopPrevious]

/-- One candidate fails, and the next one is due or the round has ended. -/
theorem Due.fails (due : Due client generation addresses count id)
    (reach : Reach step (fun _ _ => True) atHostname client) (failure : Failure) : ∃ next, run step client (failure.actions generation id) = some next ∧
      (count = addresses.length → Ended next generation addresses) ∧
      (count < addresses.length → Due next generation addresses (count + 1) (id + 1)) := by
  obtain ⟨first, started, attempting⟩ := due.toAt.start due.starts
  obtain ⟨second, retryable, failed, failing⟩ := attempting.fails failure
  have reached : Reach step (fun _ _ => True) atHostname second :=
    .run (.step reach trivial started) (by simp) failed
  obtain ⟨coherent, iterating⟩ := iterating_run reached
  obtain ⟨third, returned, there⟩ := failing.gives_up
    (coherent.advancing.plain iterating.hostname id failing.own)
  have reached : Reach step (fun _ _ => True) atHostname third := .step reached trivial returned
  obtain ⟨coherent, iterating⟩ := iterating_run reached
  have queued : .advance generation id ∈ third.queue := by
    obtain ⟨_, _, _, _, _, trial, _⟩ := iterating.trial there.own (by simp [there.phase])
    cases trial with
    | queued phase => cases there.phase.symm.trans phase
    | connecting phase => cases there.phase.symm.trans phase
    | failed _ _ queued => exact there.current ▸ queued
  have wanted := (coherent.attempting.made id there.own).2.2
  have executed : third.step (.execute (.advance generation id)) =
      some { third with queue := third.queue.erase (.advance generation id) }.startNextCandidate := by
    rw [step, if_pos (by simp [there.idle, queued]), execute]
    dsimp only
    rw [if_neg (by simp [there.current, wanted]), if_neg (by simp [there.own])]
  have ran : run step client (failure.actions generation id) =
      some { third with queue := third.queue.erase (.advance generation id) }.startNextCandidate := by
    rw [Failure.actions, List.cons_append, run, started, Option.bind_some, run_append, failed,
      Option.bind_some, run, returned, Option.bind_some, run_singleton, executed]
  obtain ⟨ends, goes⟩ := @startNextCandidate_due
    { third with queue := third.queue.erase (.advance generation id) } generation count addresses
    (id + 1) there.idle there.current there.answered there.listed there.ahead there.last
  exact ⟨_, ran, ends, goes⟩

/-- All the candidates that are left fail. -/
theorem Due.all_fail {failures : List Failure} (due : Due client generation addresses count id)
    (reach : Reach step (fun _ _ => True) atHostname client)
    (enough : failures.length + count = addresses.length + 1) :
    ∃ final, run step client (failing generation id failures) = some final ∧
      Ended final generation addresses := by
  induction failures generalizing client count id with
  | nil =>
      obtain ⟨_, iterating⟩ := iterating_run reach
      obtain ⟨others, only, listed, within, _⟩ := iterating.trial due.own (by simp [due.phase])
      rw [← listed, due.listed, due.ahead] at within
      rw [List.length_nil] at enough
      omega
  | cons failure rest ih =>
      rw [List.length_cons] at enough
      obtain ⟨next, ran, ends, goes⟩ := due.fails reach failure
      rw [failing, run_append, ran, Option.bind_some]
      cases rest with
      | nil =>
          rw [List.length_nil] at enough
          exact ⟨next, rfl, ends (by omega)⟩
      | cons other others =>
          rw [List.length_cons] at enough
          refine ih (goes (by omega)) (.run reach (by simp) ran) ?_
          rw [List.length_cons]
          omega

theorem Ended.exhausted (ended : Ended client generation addresses) (iterating : Iterating client) :
    attempted generation client.trace = addresses ∧ client.connectPhase = .idle := by
  obtain ⟨_, detached, rfl, answered⟩ := ended
  cases iterating.current addresses answered with
  | exhausted _ idle _ tried => exact ⟨tried, idle⟩
  | trying own => cases detached.symm.trans own
  | won own => cases detached.symm.trans own

/-- Nothing of the round is under way: no hook, no advance, no connector at work. -/
def Settled (client : TcpClient) : Prop :=
  client.idle = true ∧ (∀ generation id, .advance generation id ∉ client.queue) ∧
    ∀ id, (client.attempts id).connector.phase.inFlight = false

/-- What a client for a hostname does with the answers of its resolver. -/
structure CandidateIteration (client : TcpClient) : Prop where
  /-- A round has one answer, and what it tries is a prefix of it. -/
  listed : ∀ generation addresses, .resolved generation addresses ∈ client.trace →
    attempted generation client.trace <+: addresses
  single : ∀ generation first second, .resolved generation first ∈ client.trace →
    .resolved generation second ∈ client.trace → first = second
  unanswered : ∀ generation, (∀ addresses, .resolved generation addresses ∉ client.trace) →
    attempted generation client.trace = []
  stops : ∀ generation address before after,
    client.trace = before ++ .emitted generation address .connectSuccess :: after →
      attempted generation after = []
  /-- Without a stop or a new round the generation is still the same. -/
  exhausted : ∀ addresses, .resolved client.connectGeneration addresses ∈ client.trace →
    (∀ address, .emitted client.connectGeneration address .connectSuccess ∉ client.trace) →
    Settled client → attempted client.connectGeneration client.trace = addresses ∧
      client.connectPhase = .idle ∧ client.connector = none ∧ ∀ id, ¬client.Active (.attempt id)
  /-- Whatever makes the candidates fail, the loop comes to that end. -/
  exhausts : client.idle = true → client.connectGeneration ∈ client.resolutions →
    ∀ (addresses : List SocketAddress) (failures : List Failure),
      failures.length = addresses.length →
      ∃ final, run step client (.resolved client.connectGeneration (some addresses) ::
          failing client.connectGeneration client.nextConnector failures) = some final ∧
        final.connectGeneration = client.connectGeneration ∧
        attempted client.connectGeneration final.trace = addresses ∧
        final.connectPhase = .idle ∧ final.connector = none ∧
        ∀ id, ¬final.Active (.attempt id)
  staleResult : ∀ generation addresses next, generation ≠ client.connectGeneration →
    client.step (.resolved generation addresses) = some next →
      next = { client with resolutions := client.resolutions.erase generation }
  staleAdvance : ∀ generation id next, generation ≠ client.connectGeneration →
    client.step (.execute (.advance generation id)) = some next →
      next = { client with queue := client.queue.erase (.advance generation id) }

theorem not_active_of_detached (coherent : Coherent client) (detached : client.connector = none)
    (id : ConnectorId) : ¬client.Active (.attempt id) := by
  intro active
  cases detached.symm.trans (coherent.connector_of_active active)

theorem exhausted_of_settled (coherent : Coherent client) (iterating : Iterating client)
    (answered : .resolved client.connectGeneration addresses ∈ client.trace)
    (lost : ∀ address, .emitted client.connectGeneration address .connectSuccess ∉ client.trace)
    (settled : Settled client) : attempted client.connectGeneration client.trace = addresses ∧
      client.connectPhase = .idle ∧ client.connector = none ∧
      ∀ id, ¬client.Active (.attempt id) := by
  obtain ⟨_, unqueued, landed⟩ := settled
  cases iterating.current addresses answered with
  | exhausted detached idle _ tried =>
      exact ⟨tried, idle, detached, not_active_of_detached coherent detached⟩
  | @trying id _ _ _ _ trial =>
      have still := landed id
      cases trial with
      | queued phase =>
          rw [phase] at still
          cases still
      | connecting phase =>
          rw [phase] at still
          cases still
      | failed _ _ queued => exact absurd queued (unqueued _ _)
  | won _ _ told =>
      obtain ⟨event, member, success⟩ := told
      cases event with
      | emitted round address kind =>
          cases kind with
          | connectSuccess =>
              have same : round = client.connectGeneration := by simpa [Event.isSuccess] using success
              exact absurd (same ▸ member) (lost address)
          | _ => cases success
      | _ => cases success

/-- The answer of the round comes, and then all its candidates fail. -/
theorem exhausts_of_waiting (reach : Reach step (fun _ _ => True) atHostname client)
    (idle : client.idle = true) (waits : client.connectGeneration ∈ client.resolutions)
    {failures : List Failure} (enough : failures.length = addresses.length) :
    ∃ final, run step client (.resolved client.connectGeneration (some addresses) ::
        failing client.connectGeneration client.nextConnector failures) = some final ∧
      Ended final client.connectGeneration addresses := by
  obtain ⟨coherent, _⟩ := iterating_run reach
  have wanted := (coherent.resolving.wanted waits).1
  have resolved : client.step (.resolved client.connectGeneration (some addresses)) =
      some { client with
        resolutions := client.resolutions.erase client.connectGeneration
        candidates := addresses
        nextCandidate := 0
        trace := client.trace ++
          [Event.resolved client.connectGeneration addresses] }.startNextCandidate := by
    rw [step, if_pos (by simp [idle, waits]), handleResolved, if_neg (by simp [wanted])]
  obtain ⟨ends, goes⟩ := @startNextCandidate_due { client with
    resolutions := client.resolutions.erase client.connectGeneration
    candidates := addresses
    nextCandidate := 0
    trace := client.trace ++ [.resolved client.connectGeneration addresses] }
    client.connectGeneration 0 addresses client.nextConnector idle rfl
    (List.mem_append_right _ (List.mem_singleton.mpr rfl)) rfl rfl rfl
  rw [run, resolved, Option.bind_some]
  cases failures with
  | nil => exact ⟨_, rfl, ends (by simpa using enough)⟩
  | cons failure rest =>
      rw [List.length_cons] at enough
      have due := goes (by simp [← enough])
      refine due.all_fail (.step reach trivial resolved) ?_
      rw [List.length_cons]
      omega

theorem stops_of_never {trace before after : List Event} (history : History trace)
    {address : SocketAddress}
    (split : trace = before ++ .emitted generation address .connectSuccess :: after) :
    attempted generation after = [] := by
  have never := history.never generation
  rw [Trace.NeverAfter, split, List.pairwise_append, List.pairwise_cons] at never
  rw [attempted, List.filterMap_eq_nil_iff]
  intro event member
  have untried := never.2.1.1 event member (by simp [Event.isSuccess])
  simp only [Event.isTrial, Bool.or_eq_false_iff, Option.isSome_eq_false_iff,
    Option.isNone_iff_eq_none] at untried
  exact untried.2

theorem candidate_iteration (reach : Reach step (fun _ _ => True) atHostname client) :
    CandidateIteration client := by
  obtain ⟨coherent, iterating⟩ := iterating_run reach
  have history := iterating.history
  constructor
  · intro generation addresses answered
    exact (history.tried generation).trans (history.listed generation addresses answered)
  · exact history.single
  · intro generation never
    have tried := history.tried generation
    rw [history.unanswered generation never] at tried
    exact List.prefix_nil.mp tried
  · exact fun generation address before after split => stops_of_never history split
  · exact fun addresses answered lost settled =>
      exhausted_of_settled coherent iterating answered lost settled
  · intro idle waits addresses failures enough
    obtain ⟨final, ran, ended⟩ := exhausts_of_waiting reach idle waits enough
    obtain ⟨coherent, iterating⟩ := iterating_run (.run reach (by simp) ran)
    obtain ⟨tried, rests⟩ := ended.exhausted iterating
    exact ⟨final, ran, ended.current, tried, rests, ended.detached,
      not_active_of_detached coherent ended.detached⟩
  · intro generation addresses next stale taken
    simp only [step, Option.ite_none_right_eq_some, Option.some.injEq] at taken
    rw [← taken.2, handleResolved.eq_def, if_pos (by simp [stale])]
  · intro generation id next stale taken
    simp only [step, Option.ite_none_right_eq_some, Option.some.injEq] at taken
    rw [← taken.2, execute]
    exact if_pos (by simp [stale])

/-- The first address fails, and the hook that tells so asks in vain for another
round; the second one is reached, so that the third is not tried. -/
def secondSucceeds : List Action :=
  let opening := Opening.opened none
  let probe : Probe :=
    { localAddress := { family := 2, address := 9, port := 4000 }
      peerAddress := { family := 2, address := 2, port := 80 } }
  [.setConnectorEventCallback true, .connect,
    .resolved 1 (some [{ family := 2, address := 1, port := 80 },
      { family := 2, address := 2, port := 80 }, { family := 2, address := 3, port := 80 }]),
    .startInLoop 0 1, .resume (.unavailable .other) probe, .connect, .resume opening probe,
    .execute (.advance 1 0), .startInLoop 1 1, .resume opening probe,
    .handleEvent 1 false true probe, .resume opening probe, .resume opening probe]

theorem candidate_iteration_second :
    ∃ client : TcpClient, run step atHostname secondSucceeds = some client ∧
      attempted 1 client.trace = [{ family := 2, address := 1, port := 80 },
        { family := 2, address := 2, port := 80 }] ∧
      client.connectPhase = .connected ∧ CandidateIteration client := by
  have final : ∃ client : TcpClient, run step atHostname secondSucceeds = some client ∧
      attempted 1 client.trace = [{ family := 2, address := 1, port := 80 },
        { family := 2, address := 2, port := 80 }] ∧
      client.connectPhase = .connected := ⟨_, rfl, rfl, rfl⟩
  obtain ⟨client, ran, tried, phase⟩ := final
  exact ⟨client, ran, tried, phase, candidate_iteration (.run .start (by simp) ran)⟩

end MiniTrantor.Net.TcpClient
