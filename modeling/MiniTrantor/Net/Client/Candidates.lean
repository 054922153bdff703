import MiniTrantor.Net.Client.SingleSession
import MiniTrantor.Trace

/-!
# Candidates of a round

A client for a hostname tries the addresses of one answer in their order. A round
is named by the generation of the client; what a trace has of earlier rounds is
settled, and of the current one it is as far as the candidates have been tried.
-/

set_option autoImplicit false

namespace MiniTrantor.Net.TcpClient

section Histories

variable {trace : List Event} {generation : Nat} {address : SocketAddress}

def Event.candidate? (generation : Nat) : Event → Option SocketAddress
  | .candidate round address => if round = generation then some address else none
  | _ => none

def Event.attempt? (generation : Nat) : Event → Option SocketAddress
  | .emitted round address .connectAttempt => if round = generation then some address else none
  | _ => none

/-- The candidates of a round for which a connector was started. -/
def started (generation : Nat) (trace : List Event) : List SocketAddress :=
  trace.filterMap (Event.candidate? generation)

/-- The candidates of a round that a connector tried. -/
def attempted (generation : Nat) (trace : List Event) : List SocketAddress :=
  trace.filterMap (Event.attempt? generation)

def Event.isSuccess (generation : Nat) : Event → Bool
  | .emitted round _ .connectSuccess => round = generation
  | _ => false

def Event.isTrial (generation : Nat) (event : Event) : Bool :=
  (event.candidate? generation).isSome || (event.attempt? generation).isSome

/-- The rounds of a trace, each with its answer. -/
structure History (trace : List Event) : Prop where
  single : ∀ generation first second, .resolved generation first ∈ trace →
    .resolved generation second ∈ trace → first = second
  listed : ∀ generation addresses, .resolved generation addresses ∈ trace →
    started generation trace <+: addresses
  unanswered : ∀ generation, (∀ addresses, .resolved generation addresses ∉ trace) →
    started generation trace = []
  tried : ∀ generation, attempted generation trace <+: started generation trace
  never : ∀ generation,
    Trace.NeverAfter (Event.isSuccess generation) (Event.isTrial generation) trace

theorem started_snoc (generation : Nat) (trace : List Event) (event : Event) :
    started generation (trace ++ [event]) =
      started generation trace ++ (event.candidate? generation).toList := by
  rw [started, List.filterMap_append, started]
  cases found : event.candidate? generation <;> simp [found]

theorem attempted_snoc (generation : Nat) (trace : List Event) (event : Event) :
    attempted generation (trace ++ [event]) =
      attempted generation trace ++ (event.attempt? generation).toList := by
  rw [attempted, List.filterMap_append, attempted]
  cases found : event.attempt? generation <;> simp [found]

theorem mem_snoc {event last : Event} (differ : event ≠ last) :
    event ∈ trace ++ [last] ↔ event ∈ trace := by
  simp [differ]

/-- The last event of a trace comes after no success of its round. -/
theorem History.never_snoc (history : History trace) {event : Event}
    (before : ∀ generation, event.isTrial generation = true →
      ∀ earlier ∈ trace, earlier.isSuccess generation = false) (generation : Nat) :
    Trace.NeverAfter (Event.isSuccess generation) (Event.isTrial generation) (trace ++ [event]) := by
  refine (history.never generation).append (List.pairwise_singleton _ _) ?_
  intro later member trial
  cases List.mem_singleton.mp member
  exact before generation trial

namespace History

/-- An event that neither answers nor tries. -/
theorem other (history : History trace) {event : Event}
    (answers : ∀ generation addresses, event ≠ .resolved generation addresses)
    (starts : ∀ generation, event.candidate? generation = none)
    (tries : ∀ generation, event.attempt? generation = none) : History (trace ++ [event]) := by
  have same : ∀ generation addresses, .resolved generation addresses ∈ trace ++ [event] ↔
      .resolved generation addresses ∈ trace :=
    fun generation addresses => mem_snoc (answers generation addresses).symm
  constructor
  · intro generation first second one two
    exact history.single generation first second ((same ..).mp one) ((same ..).mp two)
  · intro generation addresses answered
    rw [started_snoc, starts]
    simpa using history.listed generation addresses ((same ..).mp answered)
  · intro generation never
    rw [started_snoc, starts]
    simpa using history.unanswered generation fun addresses found =>
      never addresses ((same ..).mpr found)
  · intro generation
    rw [started_snoc, starts, attempted_snoc, tries]
    simpa using history.tried generation
  · refine history.never_snoc fun generation trial => ?_
    simp [Event.isTrial, starts, tries] at trial

theorem resolved (history : History trace) (addresses : List SocketAddress)
    (fresh : ∀ addresses, .resolved generation addresses ∉ trace) :
    History (trace ++ [.resolved generation addresses]) := by
  have starts : ∀ round, started round (trace ++ [.resolved generation addresses]) =
      started round trace := by
    intro round
    rw [started_snoc]
    exact List.append_nil _
  constructor
  · intro round first second one two
    rcases List.mem_append.mp one with one | one <;> rcases List.mem_append.mp two with two | two
    · exact history.single round first second one two
    · cases List.mem_singleton.mp two
      exact absurd one (fresh _)
    · cases List.mem_singleton.mp one
      exact absurd two (fresh _)
    · cases List.mem_singleton.mp one
      cases List.mem_singleton.mp two
      rfl
  · intro round answer member
    rw [starts]
    rcases List.mem_append.mp member with old | new
    · exact history.listed round answer old
    · cases List.mem_singleton.mp new
      rw [history.unanswered generation fresh]
      exact List.nil_prefix
  · intro round never
    rw [starts]
    exact history.unanswered round fun answer found =>
      never answer (List.mem_append_left _ found)
  · intro round
    rw [starts, attempted_snoc]
    simpa [Event.attempt?] using history.tried round
  · exact history.never_snoc (by simp [Event.isTrial, Event.candidate?, Event.attempt?])

theorem candidate (history : History trace) {addresses : List SocketAddress}
    (answered : .resolved generation addresses ∈ trace)
    (next : started generation trace ++ [address] <+: addresses)
    (unsettled : ∀ event ∈ trace, event.isSuccess generation = false) :
    History (trace ++ [.candidate generation address]) := by
  have same : ∀ round answer, .resolved round answer ∈ trace ++ [Event.candidate generation address] ↔
      .resolved round answer ∈ trace := fun round answer => mem_snoc (by simp)
  have starts : ∀ round, started round (trace ++ [.candidate generation address]) =
      started round trace ++ if generation = round then [address] else [] := by
    intro round
    rw [started_snoc, Event.candidate?]
    split <;> rfl
  constructor
  · intro round first second one two
    exact history.single round first second ((same ..).mp one) ((same ..).mp two)
  · intro round answer member
    rw [starts]
    split
    case isTrue current =>
      cases current
      rw [history.single _ _ _ ((same ..).mp member) answered]
      exact next
    case isFalse => simpa using history.listed round answer ((same ..).mp member)
  · intro round never
    have other : generation ≠ round := by
      rintro rfl
      exact never addresses ((same ..).mpr answered)
    rw [starts, if_neg other]
    simpa using history.unanswered round fun answer found => never answer ((same ..).mpr found)
  · intro round
    rw [starts, attempted_snoc]
    refine (?_ : attempted round trace ++ [] <+: _)
    rw [List.append_nil]
    exact (history.tried round).trans (List.prefix_append _ _)
  · refine history.never_snoc fun round trial => ?_
    simp only [Event.isTrial, Event.candidate?, Event.attempt?, Option.isSome_none, Bool.or_false,
      Option.isSome_ite] at trial
    exact trial ▸ unsettled

theorem attempt (history : History trace)
    (next : attempted generation trace ++ [address] <+: started generation trace)
    (unsettled : ∀ event ∈ trace, event.isSuccess generation = false) :
    History (trace ++ [.emitted generation address .connectAttempt]) := by
  have same : ∀ round answer, .resolved round answer ∈
      trace ++ [Event.emitted generation address .connectAttempt] ↔
        .resolved round answer ∈ trace := fun round answer => mem_snoc (by simp)
  have starts : ∀ round, started round (trace ++ [.emitted generation address .connectAttempt]) =
      started round trace := by
    intro round
    rw [started_snoc]
    exact List.append_nil _
  constructor
  · intro round first second one two
    exact history.single round first second ((same ..).mp one) ((same ..).mp two)
  · intro round answer member
    rw [starts]
    exact history.listed round answer ((same ..).mp member)
  · intro round never
    rw [starts]
    exact history.unanswered round fun answer found => never answer ((same ..).mpr found)
  · intro round
    rw [starts, attempted_snoc, Event.attempt?]
    split
    case isTrue current =>
      cases current
      exact next
    case isFalse => simpa using history.tried round
  · refine history.never_snoc fun round trial => ?_
    simp only [Event.isTrial, Event.candidate?, Event.attempt?, Option.isSome_none, Bool.false_or,
      Option.isSome_ite] at trial
    exact trial ▸ unsettled

end History

end Histories

/-- How far the candidate that the client's connector is for has come. -/
inductive Trial (client : TcpClient) (id : ConnectorId) : Prop where
  | queued (phase : (client.attempts id).connector.phase = .startQueued)
      (next : attempted client.connectGeneration client.trace ++ [(client.attempts id).address] =
        started client.connectGeneration client.trace)
  | connecting (phase : (client.attempts id).connector.phase = .connecting)
      (tried : attempted client.connectGeneration client.trace =
        started client.connectGeneration client.trace)
  | failed (phase : (client.attempts id).connector.phase = .idle)
      (tried : attempted client.connectGeneration client.trace =
        started client.connectGeneration client.trace)
      (queued : .advance client.connectGeneration id ∈ client.queue)

/-- How far the round with the given answer has come. -/
inductive Round (client : TcpClient) (addresses : List SocketAddress) : Prop where
  | exhausted (detached : client.connector = none) (idle : client.connectPhase = .idle)
      (all : started client.connectGeneration client.trace = addresses)
      (tried : attempted client.connectGeneration client.trace = addresses)
  | trying {id : ConnectorId} (own : client.connector = some id)
      (listed : client.candidates = addresses) (within : client.nextCandidate ≤ addresses.length)
      (begun : started client.connectGeneration client.trace = addresses.take client.nextCandidate)
      (trial : Trial client id)
  | won {id : ConnectorId} (own : client.connector = some id)
      (phase : (client.attempts id).connector.phase = .connected)
      (told : ∃ event ∈ client.trace, event.isSuccess client.connectGeneration = true)

/-- A client for a hostname in the middle of any run. -/
structure Iterating (client : TcpClient) : Prop where
  hostname : client.fixedAddress = none
  delivers : ∀ id, client.connector = some id →
    (client.attempts id).connector.newConnectionCallback = true
  history : History client.trace
  bounded : ∀ generation, client.connectGeneration < generation →
    (∀ addresses, .resolved generation addresses ∉ client.trace) ∧
      ∀ event ∈ client.trace, event.isSuccess generation = false
  waiting : ∀ generation ∈ client.resolutions, ∀ addresses,
    .resolved generation addresses ∉ client.trace
  unanswered : (∀ addresses, .resolved client.connectGeneration addresses ∉ client.trace) →
    client.connector = none
  current : ∀ addresses, .resolved client.connectGeneration addresses ∈ client.trace →
    Round client addresses
  won : (∃ event ∈ client.trace, event.isSuccess client.connectGeneration = true) →
    ∃ id, client.connector = some id ∧ (client.attempts id).connector.phase = .connected

variable {client changed : TcpClient} {id : ConnectorId}

section Rounds

/-- What the connector has not done yet does not change by what others do. -/
theorem Round.same {addresses : List SocketAddress} (round : Round client addresses)
    (connector : changed.connector = client.connector)
    (generation : changed.connectGeneration = client.connectGeneration)
    (trace : changed.trace = client.trace)
    (listed : changed.candidates = client.candidates)
    (next : changed.nextCandidate = client.nextCandidate)
    (attempts : ∀ id, client.connector = some id →
      (changed.attempts id).connector.phase = (client.attempts id).connector.phase ∧
        (changed.attempts id).address = (client.attempts id).address)
    (queue : ∀ id, client.connector = some id →
      .advance client.connectGeneration id ∈ client.queue →
        .advance client.connectGeneration id ∈ changed.queue)
    (phase : client.connectPhase = .idle → changed.connectPhase = .idle) :
    Round changed addresses := by
  cases round with
  | exhausted detached idle all tried =>
      refine .exhausted (connector.trans detached) (phase idle) ?_ ?_
      · rwa [generation, trace]
      · rwa [generation, trace]
  | @trying id own sorted within begun trial =>
      obtain ⟨phases, address⟩ := attempts id own
      refine .trying (connector.trans own) (listed.trans sorted) (next ▸ within) ?_ ?_
      · rw [generation, trace, next]
        exact begun
      · cases trial with
        | queued waits ahead =>
            refine .queued (phases.trans waits) ?_
            rwa [generation, trace, address]
        | connecting connects tried =>
            refine .connecting (phases.trans connects) ?_
            rwa [generation, trace]
        | failed fails tried queued =>
            refine .failed (phases.trans fails) ?_ ?_
            · rwa [generation, trace]
            · rw [generation]
              exact queue id own queued
  | @won id own connected told =>
      refine .won (connector.trans own) ((attempts id own).1.trans connected) ?_
      rwa [trace, generation]

theorem Iterating.same (iterating : Iterating client)
    (address : changed.fixedAddress = client.fixedAddress)
    (connector : changed.connector = client.connector)
    (generation : changed.connectGeneration = client.connectGeneration)
    (trace : changed.trace = client.trace)
    (listed : changed.candidates = client.candidates)
    (next : changed.nextCandidate = client.nextCandidate)
    (attempts : ∀ id, client.connector = some id →
      (changed.attempts id).connector.phase = (client.attempts id).connector.phase ∧
        (changed.attempts id).address = (client.attempts id).address ∧
        (changed.attempts id).connector.newConnectionCallback =
          (client.attempts id).connector.newConnectionCallback)
    (resolutions : ∀ generation ∈ changed.resolutions, generation ∈ client.resolutions)
    (queue : ∀ id, client.connector = some id →
      .advance client.connectGeneration id ∈ client.queue →
        .advance client.connectGeneration id ∈ changed.queue)
    (phase : client.connectPhase = .idle → changed.connectPhase = .idle) :
    Iterating changed := by
  constructor
  · exact address.trans iterating.hostname
  · intro id own
    rw [connector] at own
    exact (attempts id own).2.2.trans (iterating.delivers id own)
  · rw [trace]
    exact iterating.history
  · rw [trace, generation]
    exact iterating.bounded
  · rw [trace]
    exact fun generation member => iterating.waiting generation (resolutions generation member)
  · rw [trace, generation, connector]
    exact iterating.unanswered
  · rw [trace, generation]
    intro addresses answered
    exact (iterating.current addresses answered).same connector generation trace listed next
      (fun id own => ⟨(attempts id own).1, (attempts id own).2.1⟩) queue phase
  · rw [trace, generation]
    intro told
    obtain ⟨id, own, connected⟩ := iterating.won told
    exact ⟨id, connector.trans own, (attempts id own).1.trans connected⟩

/-- A new generation, of which nothing is known yet. -/
theorem Iterating.renewed (iterating : Iterating client)
    (address : changed.fixedAddress = client.fixedAddress) (detached : changed.connector = none)
    (generation : changed.connectGeneration = client.connectGeneration + 1)
    (trace : changed.trace = client.trace)
    (resolutions : ∀ generation ∈ changed.resolutions,
      generation ∈ client.resolutions ∨ generation = client.connectGeneration + 1) :
    Iterating changed := by
  obtain ⟨unanswered, unsettled⟩ :=
    iterating.bounded (client.connectGeneration + 1) (Nat.lt_succ_self _)
  constructor
  · exact address.trans iterating.hostname
  · intro id own
    cases detached.symm.trans own
  · rw [trace]
    exact iterating.history
  · rw [trace, generation]
    exact fun later above => iterating.bounded later (Nat.lt_of_succ_lt above)
  · rw [trace]
    intro later member
    rcases resolutions later member with old | rfl
    · exact iterating.waiting later old
    · exact unanswered
  · exact fun _ => detached
  · rw [trace, generation]
    exact fun addresses answered => absurd answered (unanswered addresses)
  · rw [trace, generation]
    rintro ⟨event, member, told⟩
    cases (unsettled event member).symm.trans told

theorem Iterating.connectInLoop (iterating : Iterating client) : Iterating client.connectInLoop := by
  have wanted : Iterating { client with connect := true } :=
    iterating.same rfl rfl rfl rfl rfl rfl (fun _ _ => ⟨rfl, rfl, rfl⟩) (fun _ => id)
      (fun _ _ => id) id
  unfold TcpClient.connectInLoop
  dsimp only
  split
  · split
    · split
      · refine wanted.same rfl rfl rfl rfl rfl rfl (fun _ _ => ⟨rfl, rfl, rfl⟩) (fun _ => id) ?_ id
        exact fun _ _ member => List.mem_append_left _ member
      · exact wanted
    · exact wanted
  · split
    · exact wanted
    · split
      · refine iterating.renewed rfl rfl rfl rfl ?_
        intro generation member
        rcases List.mem_append.mp member with old | new
        · exact .inl old
        · exact .inr (List.mem_singleton.mp new)
      · rename_i present
        cases iterating.hostname.symm.trans present

theorem Iterating.stopInLoop (iterating : Iterating client) : Iterating client.stopInLoop :=
  iterating.renewed rfl rfl rfl rfl fun _ member => .inl member

/-- What happens to connections is no concern of the rounds. -/
theorem Iterating.shutdown (iterating : Iterating client) (connection : ConnectionId) :
    Iterating (client.shutdown connection) := by
  unfold TcpClient.shutdown
  split
  · exact iterating.same rfl rfl rfl rfl rfl rfl (fun _ _ => ⟨rfl, rfl, rfl⟩) (fun _ => id)
      (fun _ _ => id) id
  · exact iterating

theorem Iterating.disconnectInLoop (iterating : Iterating client) :
    Iterating client.disconnectInLoop := by
  unfold TcpClient.disconnectInLoop
  dsimp only
  split
  · exact iterating.stopInLoop.shutdown _
  · exact iterating.stopInLoop

/-- An event that is of no round. -/
structure Event.Neutral (event : Event) : Prop where
  answers : ∀ generation addresses, event ≠ .resolved generation addresses
  starts : ∀ generation, event.candidate? generation = none
  tries : ∀ generation, event.attempt? generation = none
  succeeds : ∀ generation, event.isSuccess generation = false

/-- The trace grows by an event that is of no round. -/
theorem Iterating.other (iterating : Iterating client) {event : Event} (neutral : event.Neutral) :
    Iterating { client with trace := client.trace ++ [event] } := by
  obtain ⟨answers, starts, tries, succeeds⟩ := neutral
  have same : ∀ generation addresses, .resolved generation addresses ∈ client.trace ++ [event] ↔
      .resolved generation addresses ∈ client.trace :=
    fun generation addresses => mem_snoc (answers generation addresses).symm
  have begun : started client.connectGeneration (client.trace ++ [event]) =
      started client.connectGeneration client.trace := by
    rw [started_snoc, starts]
    exact List.append_nil _
  have tried : attempted client.connectGeneration (client.trace ++ [event]) =
      attempted client.connectGeneration client.trace := by
    rw [attempted_snoc, tries]
    exact List.append_nil _
  have older : ∀ generation, (∃ other ∈ client.trace ++ [event], other.isSuccess generation = true) →
      ∃ other ∈ client.trace, other.isSuccess generation = true := by
    rintro generation ⟨other, member, told⟩
    rcases List.mem_append.mp member with old | new
    · exact ⟨other, old, told⟩
    · cases List.mem_singleton.mp new
      cases (succeeds generation).symm.trans told
  refine ⟨iterating.hostname, iterating.delivers, iterating.history.other answers starts tries,
    ?_, ?_, ?_, ?_, ?_⟩
  · intro generation above
    obtain ⟨unanswered, unsettled⟩ := iterating.bounded generation above
    refine ⟨fun addresses found => unanswered addresses ((same ..).mp found), ?_⟩
    intro other member
    rcases List.mem_append.mp member with old | new
    · exact unsettled other old
    · cases List.mem_singleton.mp new
      exact succeeds generation
  · exact fun generation waits addresses found =>
      iterating.waiting generation waits addresses ((same ..).mp found)
  · exact fun never => iterating.unanswered fun addresses found =>
      never addresses ((same ..).mpr found)
  · intro addresses answered
    cases iterating.current addresses ((same ..).mp answered) with
    | exhausted detached idle all attempts =>
        exact .exhausted detached idle (begun.trans all) (tried.trans attempts)
    | trying own listed within ahead trial =>
        refine .trying own listed within (begun.trans ahead) ?_
        cases trial with
        | queued phase next =>
            refine .queued phase ?_
            change attempted client.connectGeneration (client.trace ++ [event]) ++ _ =
              started client.connectGeneration (client.trace ++ [event])
            rwa [tried, begun]
        | connecting phase attempts =>
            exact .connecting phase (tried.trans (attempts.trans begun.symm))
        | failed phase attempts queued =>
            exact .failed phase (tried.trans (attempts.trans begun.symm)) queued
    | won own phase told =>
        obtain ⟨other, member, success⟩ := told
        exact .won own phase ⟨other, List.mem_append_left _ member, success⟩
  · exact fun told => iterating.won (older _ told)

theorem Iterating.removeConnection (iterating : Iterating client) (connection : ConnectionId) :
    Iterating (client.removeConnection connection) := by
  have told : Iterating { client with
      trace := client.trace ++ [.removeConnection connection client.connection] } :=
    iterating.other ⟨by simp, fun _ => rfl, fun _ => rfl, fun _ => rfl⟩
  have removed : Iterating ({ client with
      connection := none
      connectPhase := .idle
      trace := client.trace ++ [Event.removeConnection connection client.connection] }.queueInLoop
        (.connectDestroyed connection)) :=
    told.same rfl rfl rfl rfl rfl rfl (fun _ _ => ⟨rfl, rfl, rfl⟩) (fun _ => id)
      (fun _ _ member => List.mem_append_left _ member) fun _ => rfl
  unfold TcpClient.removeConnection
  dsimp only
  split
  · exact removed.connectInLoop
  · exact removed

/-- The connector has won, and what is left of the candidates is dropped. -/
theorem Iterating.newConnection (iterating : Iterating client) (own : client.connector = some id)
    (connected : (client.attempts id).connector.phase = .connected)
    (told : ∃ event ∈ client.trace, event.isSuccess client.connectGeneration = true) :
    Iterating client.newConnection := by
  have extended : Iterating { client with
      trace := client.trace ++ [.newConnection client.nextConnId client.connection] } :=
    iterating.other ⟨by simp, fun _ => rfl, fun _ => rfl, fun _ => rfl⟩
  have trace : client.newConnection.trace =
      client.trace ++ [.newConnection client.nextConnId client.connection] := by
    unfold TcpClient.newConnection
    dsimp only
    split <;> rfl
  rw [newConnection_eq, trace]
  refine ⟨extended.hostname, extended.delivers, extended.history, extended.bounded,
    extended.waiting, extended.unanswered, fun addresses answered => ?_, extended.won⟩
  obtain ⟨event, member, success⟩ := told
  exact .won own connected ⟨event, List.mem_append_left _ member, success⟩

/-- The round with the given answer when the next candidate is due. -/
structure Between (client : TcpClient) (addresses : List SocketAddress) : Prop where
  hostname : client.fixedAddress = none
  history : History client.trace
  bounded : ∀ generation, client.connectGeneration < generation →
    (∀ addresses, .resolved generation addresses ∉ client.trace) ∧
      ∀ event ∈ client.trace, event.isSuccess generation = false
  waiting : ∀ generation ∈ client.resolutions, ∀ addresses,
    .resolved generation addresses ∉ client.trace
  answered : .resolved client.connectGeneration addresses ∈ client.trace
  listed : client.candidates = addresses
  within : client.nextCandidate ≤ addresses.length
  begun : started client.connectGeneration client.trace = addresses.take client.nextCandidate
  tried : attempted client.connectGeneration client.trace =
    started client.connectGeneration client.trace
  unsettled : ∀ event ∈ client.trace, event.isSuccess client.connectGeneration = false

/-- There is no candidate left. -/
theorem Between.exhausted {addresses : List SocketAddress} (between : Between client addresses)
    (last : client.nextCandidate = client.candidates.length) :
    Iterating { client.stopPrevious with
      candidates := []
      nextCandidate := 0
      connectPhase := .idle } := by
  have all : started client.connectGeneration client.trace = addresses := by
    rw [between.begun, last, between.listed, List.take_length]
  refine ⟨between.hostname, ?_, between.history, between.bounded, between.waiting, ?_, ?_, ?_⟩
  · intro id own
    cases own
  · exact fun _ => rfl
  · intro answer answered
    cases between.history.single _ _ _ answered between.answered
    exact .exhausted rfl rfl all (between.tried.trans all)
  · rintro ⟨event, member, told⟩
    cases (between.unsettled event member).symm.trans told

/-- The next candidate gets a connector of its own. -/
theorem Between.advanced {addresses : List SocketAddress} (between : Between client addresses)
    {address : SocketAddress} (options : ConnectorOptions)
    (found : client.candidates[client.nextCandidate]? = some address) :
    Iterating ({ client.stopPrevious with
      connectPhase := .connecting
      nextCandidate := client.nextCandidate + 1
      trace := client.trace ++
        [Event.candidate client.connectGeneration address] }.initConnector address
          options).startConnector := by
  have below : client.nextCandidate < addresses.length := by
    rw [← between.listed]
    exact (List.getElem?_eq_some_iff.mp found).1
  have grown : addresses.take (client.nextCandidate + 1) =
      addresses.take client.nextCandidate ++ [address] := by
    rw [List.take_add_one, ← between.listed, found]
    rfl
  have begun : started client.connectGeneration (client.trace ++
      [.candidate client.connectGeneration address]) =
        addresses.take (client.nextCandidate + 1) := by
    rw [started_snoc, Event.candidate?, if_pos rfl, between.begun, grown]
    rfl
  have tried : attempted client.connectGeneration (client.trace ++
      [.candidate client.connectGeneration address]) = addresses.take client.nextCandidate := by
    rw [attempted_snoc, between.tried, between.begun]
    exact List.append_nil _
  have same : ∀ round answer, .resolved round answer ∈
      client.trace ++ [Event.candidate client.connectGeneration address] ↔
        .resolved round answer ∈ client.trace := fun round answer => mem_snoc (by simp)
  have quiet : ∀ round, (∀ event ∈ client.trace, event.isSuccess round = false) →
      ∀ event ∈ client.trace ++ [Event.candidate client.connectGeneration address],
        event.isSuccess round = false := by
    intro round never event member
    rcases List.mem_append.mp member with old | new
    · exact never event old
    · cases List.mem_singleton.mp new
      rfl
  refine ⟨between.hostname, ?_, ?_, ?_, ?_, ?_, ?_, ?_⟩
  · intro id own
    cases own
    simp [startConnector, initConnector, withConnector, Connector.start, Connector.create,
      stopPrevious]
  · refine between.history.candidate between.answered ?_ between.unsettled
    rw [between.begun, ← grown]
    exact List.take_prefix _ _
  · intro round above
    obtain ⟨unanswered, unsettled⟩ := between.bounded round above
    exact ⟨fun answer found => unanswered answer ((same ..).mp found), quiet round unsettled⟩
  · exact fun round waits answer found => between.waiting round waits answer ((same ..).mp found)
  · exact fun never => absurd ((same ..).mpr between.answered) (never addresses)
  · intro answer answered
    cases between.history.single _ _ _ ((same ..).mp answered) between.answered
    refine .trying rfl between.listed below begun (.queued ?_ ?_)
    · simp [startConnector, initConnector, withConnector, Connector.start, Connector.create,
        stopPrevious]
    · have fresh : (({ client.stopPrevious with
          connectPhase := .connecting
          nextCandidate := client.nextCandidate + 1
          trace := client.trace ++
            [Event.candidate client.connectGeneration address] }.initConnector address
              options).startConnector.attempts client.nextConnector).address = address := by
        simp [startConnector, initConnector, withConnector, stopPrevious]
      exact (congrArg₂ (fun before last => before ++ [last]) tried fresh).trans
        (grown.symm.trans begun.symm)
  · rintro ⟨event, member, told⟩
    cases (quiet _ between.unsettled event member).symm.trans told

theorem Between.startNextCandidate {addresses : List SocketAddress}
    (between : Between client addresses) : Iterating client.startNextCandidate := by
  unfold TcpClient.startNextCandidate
  dsimp only
  split
  case isTrue last => exact between.exhausted last
  case isFalse more =>
    split
    case h_1 missing =>
      have above : client.candidates.length ≤ client.nextCandidate :=
        List.getElem?_eq_none_iff.mp missing
      have within := between.within
      rw [← between.listed] at within
      exact absurd (Nat.le_antisymm within above) more
    case h_2 address found => exact between.advanced _ found

/-- A client without a connector has had no success in this round. -/
theorem Iterating.unsettled (iterating : Iterating client) (detached : client.connector = none) :
    ∀ event ∈ client.trace, event.isSuccess client.connectGeneration = false := by
  intro event member
  by_contra told
  obtain ⟨id, own, _⟩ := iterating.won ⟨event, member, by simpa using told⟩
  cases detached.symm.trans own

/-- The answer of the round has come. -/
theorem Iterating.answered (iterating : Iterating client) (detached : client.connector = none)
    (addresses : List SocketAddress)
    (unanswered : ∀ addresses, .resolved client.connectGeneration addresses ∉ client.trace)
    (others : client.connectGeneration ∉ client.resolutions) :
    Between { client with
      candidates := addresses
      nextCandidate := 0
      trace := client.trace ++ [.resolved client.connectGeneration addresses] } addresses := by
  have none := iterating.history.unanswered _ unanswered
  have untried : attempted client.connectGeneration client.trace = [] := by
    have tried := iterating.history.tried client.connectGeneration
    rw [none] at tried
    exact List.prefix_nil.mp tried
  have begun : started client.connectGeneration
      (client.trace ++ [.resolved client.connectGeneration addresses]) = [] := by
    rw [started_snoc, none]
    rfl
  have tried : attempted client.connectGeneration
      (client.trace ++ [.resolved client.connectGeneration addresses]) = [] := by
    rw [attempted_snoc, untried]
    rfl
  have quiet : ∀ round, (∀ event ∈ client.trace, event.isSuccess round = false) →
      ∀ event ∈ client.trace ++ [Event.resolved client.connectGeneration addresses],
        event.isSuccess round = false := by
    intro round never event member
    rcases List.mem_append.mp member with old | new
    · exact never event old
    · cases List.mem_singleton.mp new
      rfl
  refine ⟨iterating.hostname, iterating.history.resolved addresses unanswered, ?_, ?_, ?_, rfl,
    Nat.zero_le _, begun, tried.trans begun.symm, quiet _ (iterating.unsettled detached)⟩
  · intro round above
    obtain ⟨never, unsettled⟩ := iterating.bounded round above
    refine ⟨fun answer found => ?_, quiet round unsettled⟩
    rcases List.mem_append.mp found with old | new
    · exact never answer old
    · cases List.mem_singleton.mp new
      exact Nat.lt_irrefl _ above
  · intro round waits answer found
    rcases List.mem_append.mp found with old | new
    · exact iterating.waiting round waits answer old
    · cases List.mem_singleton.mp new
      exact others waits
  · exact List.mem_append_right _ (List.mem_singleton.mpr rfl)

theorem Iterating.resolved (iterating : Iterating client) (coherent : Coherent client)
    {generation : Nat} (waits : generation ∈ client.resolutions)
    (addresses : Option (List SocketAddress)) :
    Iterating ({ client with
      resolutions := client.resolutions.erase generation }.handleResolved generation addresses) := by
  have erased : Iterating { client with resolutions := client.resolutions.erase generation } :=
    iterating.same rfl rfl rfl rfl rfl rfl (fun _ _ => ⟨rfl, rfl, rfl⟩)
      (fun _ => List.mem_of_mem_erase) (fun _ _ => id) id
  unfold TcpClient.handleResolved
  split
  case isTrue => exact erased
  case isFalse now =>
    simp only [ne_eq, decide_not, Bool.or_eq_true, Bool.not_eq_true', decide_eq_false_iff_not,
      not_or, not_not, Bool.not_eq_false] at now
    obtain ⟨same, _⟩ := now
    cases addresses with
    | none =>
        exact erased.same rfl rfl rfl rfl rfl rfl (fun _ _ => ⟨rfl, rfl, rfl⟩) (fun _ => id)
          (fun _ _ => id) fun _ => rfl
    | some addresses =>
        have unanswered := iterating.waiting generation waits
        have others := (coherent.resolving.answered generation).2 same
        subst same
        refine (erased.answered ?_ addresses unanswered others).startNextCandidate
        exact iterating.unanswered unanswered

/-- An advance that is not the client's own is dropped. -/
theorem Iterating.outdated (iterating : Iterating client) {functor : Functor}
    (differ : ∀ id, client.connector = some id →
      functor ≠ .advance client.connectGeneration id) :
    Iterating { client with queue := client.queue.erase functor } :=
  iterating.same rfl rfl rfl rfl rfl rfl (fun _ _ => ⟨rfl, rfl, rfl⟩) (fun _ => id)
    (fun id own queued => (List.mem_erase_of_ne (differ id own).symm).mpr queued) id

/-- The candidate that is tried has got an answer to its round. -/
theorem Iterating.round (iterating : Iterating client) (own : client.connector = some id) :
    ∃ addresses, .resolved client.connectGeneration addresses ∈ client.trace ∧
      Round client addresses := by
  have answered : ∃ addresses, .resolved client.connectGeneration addresses ∈ client.trace := by
    by_contra never
    have detached := iterating.unanswered fun addresses found => never ⟨addresses, found⟩
    cases detached.symm.trans own
  obtain ⟨addresses, answered⟩ := answered
  exact ⟨addresses, answered, iterating.current addresses answered⟩

/-- The next candidate is due when the last one has failed. -/
theorem Iterating.between (iterating : Iterating client) (own : client.connector = some id)
    (idle : (client.attempts id).connector.phase = .idle) :
    ∃ addresses, Between client addresses := by
  obtain ⟨addresses, answered, round⟩ := iterating.round own
  have unsettled : ∀ event ∈ client.trace, event.isSuccess client.connectGeneration = false := by
    intro event member
    by_contra told
    obtain ⟨other, present, connected⟩ := iterating.won ⟨event, member, by simpa using told⟩
    cases own.symm.trans present
    cases idle.symm.trans connected
  refine ⟨addresses, ?_⟩
  cases round with
  | exhausted detached => cases detached.symm.trans own
  | won present connected =>
      cases own.symm.trans present
      cases idle.symm.trans connected
  | trying present listed within begun trial =>
      cases own.symm.trans present
      cases trial with
      | queued phase => cases idle.symm.trans phase
      | connecting phase => cases idle.symm.trans phase
      | failed _ tried =>
          exact ⟨iterating.hostname, iterating.history, iterating.bounded, iterating.waiting,
            answered, listed, within, begun, tried, unsettled⟩

theorem Iterating.execute (iterating : Iterating client) (coherent : Coherent client)
    {functor : Functor} (member : functor ∈ client.queue) :
    Iterating ({ client with queue := client.queue.erase functor }.execute functor) := by
  cases functor with
  | reconnect generation =>
      have erased := @Iterating.outdated _ iterating (.reconnect generation) (by simp)
      unfold TcpClient.execute
      dsimp only
      split
      · exact erased
      · exact erased.connectInLoop
  | connectDestroyed connection =>
      have erased := @Iterating.outdated _ iterating (.connectDestroyed connection) (by simp)
      unfold TcpClient.execute TcpClient.connectDestroyed
      dsimp only
      split
      · exact erased.same rfl rfl rfl rfl rfl rfl (fun _ _ => ⟨rfl, rfl, rfl⟩) (fun _ => id)
          (fun _ _ => id) id
      · exact erased
  | advance generation attempt =>
      unfold TcpClient.execute
      dsimp only
      split
      case isTrue stale =>
        refine iterating.outdated fun own present same => ?_
        cases same
        simp [(coherent.attempting.made attempt present).2.2] at stale
      case isFalse now =>
        split
        case isTrue apart =>
          refine iterating.outdated fun id own same => ?_
          cases same
          exact apart own
        case isFalse own =>
          have own : client.connector = some attempt := by simpa using own
          obtain ⟨_, _, settled⟩ := coherent.advancing.queued generation attempt member
          obtain ⟨addresses, between⟩ := iterating.between own (settled own)
          have erased : Between { client with
              queue := client.queue.erase (.advance generation attempt) } addresses :=
            ⟨between.hostname, between.history, between.bounded, between.waiting,
              between.answered, between.listed, between.within, between.begun, between.tried,
              between.unsettled⟩
          exact erased.startNextCandidate

end Rounds

section Stretches

variable {turn : Connector.Turn} {event : ConnectorEvent} {frame : Connector.Frame}

/-- A candidate is tried once, so its connector never waits for a retry. -/
theorem Iterating.not_retrying (iterating : Iterating client) (own : client.connector = some id) :
    (client.attempts id).connector.phase ≠ .retryWaiting := by
  intro waiting
  obtain ⟨addresses, _, round⟩ := iterating.round own
  cases round with
  | exhausted detached => cases detached.symm.trans own
  | won present connected =>
      cases own.symm.trans present
      cases waiting.symm.trans connected
  | trying present _ _ _ trial =>
      cases own.symm.trans present
      cases trial with
      | queued phase => cases waiting.symm.trans phase
      | connecting phase => cases waiting.symm.trans phase
      | failed phase => cases waiting.symm.trans phase

theorem Iterating.take_done (iterating : Iterating client)
    (stretch : Connector.Stretch (client.attempts id).connector client.sockets (client.hookOf id) turn)
    (done : turn.next = .done) : Iterating (client.take id turn) := by
  have ran : client.take id turn = client.ran id turn := by
    rw [TcpClient.take, done]
  rw [ran]
  refine iterating.same rfl rfl rfl rfl rfl rfl ?_ (fun _ member => member)
    (fun _ _ queued => queued) fun idle => idle
  intro other own
  change (client.withConnector id turn.connector other).connector.phase = _ ∧
    (client.withConnector id turn.connector other).address = _ ∧
    (client.withConnector id turn.connector other).connector.newConnectionCallback = _
  by_cases same : other = id
  · subst same
    rw [withConnector_self]
    refine ⟨?_, rfl, stretch.settings.2⟩
    have shift := stretch.shift
    rw [done] at shift
    cases shift with
    | nothing phase => exact phase
    | drop unset => cases unset.symm.trans (iterating.delivers other own)
    | restart waiting => exact absurd waiting (iterating.not_retrying own)
  · rw [withConnector_of_ne _ same]
    exact ⟨rfl, rfl, rfl⟩

theorem emitEvent_frame (client : TcpClient) (id : ConnectorId) (event : ConnectorEvent)
    (frame : Connector.Frame) : client.emitEvent id event frame =
      { client with
        hook := (client.emitEvent id event frame).hook
        trace := client.trace ++
          [.emitted (client.attempts id).generation (client.attempts id).address event]
        connectPhase := (client.emitEvent id event frame).connectPhase
        queue := (client.emitEvent id event frame).queue } := by
  obtain ⟨runs, phase, queue, told, _⟩ := emitEvent_eq client id event frame
  rw [told]

/-- The failure of a candidate queues the advance to the next one. -/
theorem emitEvent_failure (concerned : client.concerns id = true)
    (hostname : client.fixedAddress = none) (failed : isFailure event = true)
    (frame : Connector.Frame) :
    .advance client.connectGeneration id ∈ (client.emitEvent id event frame).queue := by
  have current : (client.attempts id).generation = client.connectGeneration := by
    simp only [concerns, Bool.and_eq_true, decide_eq_true_eq] at concerned
    exact concerned.1
  unfold emitEvent connectorCallback
  rw [if_pos]
  · unfold handleConnectorEvent
    rw [if_pos (by simp [failed, hostname])]
    exact List.mem_append_right _ (by simp [current])
  · simpa [concerns] using concerned

theorem emitEvent_same (client : TcpClient) (id : ConnectorId) (event : ConnectorEvent)
    (frame : Connector.Frame) :
    (client.emitEvent id event frame).connector = client.connector ∧
      (client.emitEvent id event frame).connectGeneration = client.connectGeneration ∧
      (client.emitEvent id event frame).candidates = client.candidates ∧
      (client.emitEvent id event frame).nextCandidate = client.nextCandidate := by
  rw [emitEvent_frame]
  exact ⟨rfl, rfl, rfl, rfl⟩

theorem emitted_trace (current : (client.attempts id).generation = client.connectGeneration) :
    ((client.ran id turn).emitEvent id event frame).trace = client.trace ++
      [.emitted client.connectGeneration (client.attempts id).address event] := by
  rw [emitEvent_frame]
  simp [TcpClient.ran, withConnector_self, current]

theorem emitted_attempts : ((client.ran id turn).emitEvent id event frame).attempts id =
    { client.attempts id with connector := turn.connector } := by
  rw [emitEvent_frame]
  exact withConnector_self id turn.connector

/-- An event of a candidate, with what its round has come to. -/
theorem Iterating.emitted (iterating : Iterating client) (own : client.connector = some id)
    (current : (client.attempts id).generation = client.connectGeneration)
    (callback : turn.connector.newConnectionCallback = true)
    (history : History (client.trace ++
      [.emitted client.connectGeneration (client.attempts id).address event]))
    (round : ∀ addresses, .resolved client.connectGeneration addresses ∈ client.trace →
      Round ((client.ran id turn).emitEvent id event frame) addresses)
    (settled : event ≠ .connectSuccess ∧
        (∀ event ∈ client.trace, event.isSuccess client.connectGeneration = false) ∨
      turn.connector.phase = .connected) :
    Iterating ((client.ran id turn).emitEvent id event frame) := by
  have told := @emitted_trace _ _ turn event frame current
  have same : ∀ generation addresses, .resolved generation addresses ∈ client.trace ++
      [Event.emitted client.connectGeneration (client.attempts id).address event] ↔
        .resolved generation addresses ∈ client.trace := fun _ _ => mem_snoc (by simp)
  have attempts := @emitted_attempts client id turn event frame
  have connector : ((client.ran id turn).emitEvent id event frame).connector = some id :=
    (emitEvent_same ..).1.trans own
  have generation : ((client.ran id turn).emitEvent id event frame).connectGeneration =
      client.connectGeneration := (emitEvent_same ..).2.1
  constructor
  · rw [emitEvent_frame]
    exact iterating.hostname
  · intro other present
    cases connector.symm.trans present
    rw [attempts]
    exact callback
  · rw [told]
    exact history
  · intro later above
    rw [generation] at above
    obtain ⟨unanswered, unsettled⟩ := iterating.bounded later above
    rw [told]
    refine ⟨fun addresses found => unanswered addresses ((same ..).mp found), ?_⟩
    intro other member
    rcases List.mem_append.mp member with old | new
    · exact unsettled other old
    · cases List.mem_singleton.mp new
      cases event with
      | connectSuccess => simpa [Event.isSuccess] using above.ne
      | _ => rfl
  · intro later waits addresses found
    rw [told] at found
    rw [emitEvent_frame] at waits
    exact iterating.waiting later waits addresses ((same ..).mp found)
  · intro never
    obtain ⟨addresses, answered, _⟩ := iterating.round own
    rw [told, generation] at never
    exact absurd ((same ..).mpr answered) (never addresses)
  · intro addresses answered
    rw [told, generation] at answered
    exact round addresses ((same ..).mp answered)
  · intro success
    rw [told, generation] at success
    refine ⟨id, connector, ?_⟩
    rw [attempts]
    rcases settled with ⟨other, unsettled⟩ | connected
    · obtain ⟨earlier, member, found⟩ := success
      rcases List.mem_append.mp member with old | new
      · cases (unsettled earlier old).symm.trans found
      · cases List.mem_singleton.mp new
        cases event with
        | connectSuccess => exact absurd rfl other
        | _ => cases found
    · exact connected

/-- What a candidate that is still being tried has behind it. -/
theorem Iterating.trial (iterating : Iterating client) (own : client.connector = some id)
    (unconnected : (client.attempts id).connector.phase ≠ .connected) :
    ∃ addresses, (∀ other, .resolved client.connectGeneration other ∈ client.trace →
        other = addresses) ∧
      client.candidates = addresses ∧ client.nextCandidate ≤ addresses.length ∧
      started client.connectGeneration client.trace = addresses.take client.nextCandidate ∧
      Trial client id ∧
      ∀ event ∈ client.trace, event.isSuccess client.connectGeneration = false := by
  obtain ⟨addresses, answered, round⟩ := iterating.round own
  refine ⟨addresses, fun other found => iterating.history.single _ _ _ found answered, ?_⟩
  cases round with
  | exhausted detached => cases detached.symm.trans own
  | won present connected =>
      cases own.symm.trans present
      exact absurd connected unconnected
  | trying present listed within begun trial =>
      cases own.symm.trans present
      refine ⟨listed, within, begun, trial, fun event member => ?_⟩
      by_contra told
      obtain ⟨other, present, connected⟩ := iterating.won ⟨event, member, by simpa using told⟩
      cases own.symm.trans present
      exact unconnected connected

theorem Iterating.take_emit (iterating : Iterating client) (coherent : Coherent client)
    (stretch : Connector.Stretch (client.attempts id).connector client.sockets (client.hookOf id) turn)
    (own : client.connector = some id) (emits : turn.next = .emit event frame) :
    Iterating (client.take id turn) := by
  have ran : client.take id turn = (client.ran id turn).emitEvent id event frame := by
    rw [TcpClient.take, emits]
  have current := (coherent.attempting.made id own).2.1
  have callback := stretch.settings.2.trans (iterating.delivers id own)
  have told := @emitted_trace _ _ turn event frame current
  have attempts := @emitted_attempts client id turn event frame
  obtain ⟨connector, generation, candidates, nextCandidate⟩ :=
    emitEvent_same (client.ran id turn) id event frame
  have shift := stretch.shift
  rw [emits] at shift
  rw [ran]
  cases shift with
  | retry _ _ enabled =>
      cases (coherent.advancing.plain iterating.hostname id own).symm.trans enabled
  | attempt queued phase =>
      obtain ⟨addresses, only, listed, within, begun, trial, unsettled⟩ :=
        iterating.trial own (by simp [queued])
      have next : attempted client.connectGeneration client.trace ++ [(client.attempts id).address] =
          started client.connectGeneration client.trace := by
        cases trial with
        | queued _ next => exact next
        | connecting connects => cases queued.symm.trans connects
        | failed fails => cases queued.symm.trans fails
      refine iterating.emitted own current callback
        (iterating.history.attempt (next ▸ List.prefix_refl _) unsettled) ?_
        (.inl ⟨by simp, unsettled⟩)
      intro other answered
      cases only other answered
      refine .trying (connector.trans own) (candidates.trans listed) (nextCandidate ▸ within) ?_
        (.connecting ?_ ?_)
      · rw [generation, told, nextCandidate, started_snoc]
        exact (List.append_nil _).trans begun
      · rw [attempts]
        exact phase
      · rw [generation, told, attempted_snoc, started_snoc, Event.attempt?]
        exact (congrArg _ (by simp [TcpClient.ran])).trans (next.trans (List.append_nil _).symm)
  | fail failure connecting phase =>
      obtain ⟨addresses, only, listed, within, begun, trial, unsettled⟩ :=
        iterating.trial own (by simp [connecting])
      have tried : attempted client.connectGeneration client.trace =
          started client.connectGeneration client.trace := by
        cases trial with
        | queued waits => cases connecting.symm.trans waits
        | connecting _ tried => exact tried
        | failed fails => cases connecting.symm.trans fails
      have untried : ∀ generation,
          (Event.emitted client.connectGeneration (client.attempts id).address event).attempt?
            generation = none := by
        rcases failure with rfl | rfl | rfl <;> exact fun _ => rfl
      have failed : isFailure event = true := by
        rcases failure with rfl | rfl | rfl <;> rfl
      have lost : event ≠ .connectSuccess := by
        rcases failure with rfl | rfl | rfl <;> simp
      refine iterating.emitted own current callback
        (iterating.history.other (by simp) (fun _ => rfl) untried) ?_ (.inl ⟨lost, unsettled⟩)
      intro other answered
      cases only other answered
      refine .trying (connector.trans own) (candidates.trans listed) (nextCandidate ▸ within) ?_
        (.failed ?_ ?_ ?_)
      · rw [generation, told, nextCandidate, started_snoc]
        exact (List.append_nil _).trans begun
      · rw [attempts]
        exact phase
      · rw [generation, told, attempted_snoc, started_snoc, untried]
        exact congrArg (· ++ []) tried
      · rw [generation]
        apply emitEvent_failure
        · simp [concerns, TcpClient.ran, own, withConnector_self, current]
        · exact iterating.hostname
        · exact failed
  | succeed connecting phase =>
      refine iterating.emitted own current callback
        (iterating.history.other (by simp) (fun _ => rfl) fun _ => rfl) ?_ (.inr phase)
      intro other answered
      refine .won (connector.trans own) ?_ ?_
      · rw [attempts]
        exact phase
      · rw [told, generation]
        exact ⟨_, List.mem_append_right _ (List.mem_singleton.mpr rfl),
          by simp [Event.isSuccess, TcpClient.ran]⟩

theorem Iterating.take_deliver (iterating : Iterating client) (coherent : Coherent client)
    (stretch : Connector.Stretch (client.attempts id).connector client.sockets (client.hookOf id) turn)
    (own : client.connector = some id) {socket : SocketId} (delivers : turn.next = .deliver socket) :
    Iterating (client.take id turn) := by
  obtain ⟨_, current, wanted⟩ := coherent.attempting.made id own
  have shift := stretch.shift
  rw [delivers] at shift
  obtain ⟨before, after⟩ : (client.attempts id).connector.phase = .connected ∧
      turn.connector.phase = .connected := by
    cases shift with
    | deliver _ connected phase => exact ⟨connected, phase⟩
  have held : Iterating { client.ran id turn with
      hook := some { id, frame := .delivering, runs := false } } := by
    refine iterating.same rfl rfl rfl rfl rfl rfl ?_ (fun _ member => member)
      (fun _ _ queued => queued) fun idle => idle
    intro other present
    cases own.symm.trans present
    change (client.withConnector id turn.connector id).connector.phase = _ ∧
      (client.withConnector id turn.connector id).address = _ ∧
      (client.withConnector id turn.connector id).connector.newConnectionCallback = _
    rw [withConnector_self]
    exact ⟨after.trans before.symm, rfl, stretch.settings.2⟩
  have taken : client.take id turn = { client.ran id turn with
      hook := some { id, frame := .delivering, runs := false } }.newConnection := by
    rw [TcpClient.take, delivers]
    dsimp only
    rw [newConnectionCallback, if_pos]
    simp [concerns, TcpClient.ran, own, withConnector_generation, current, wanted]
  rw [taken]
  apply held.newConnection
  · exact own
  · change (client.withConnector id turn.connector id).connector.phase = _
    rw [withConnector_self]
    exact after
  · obtain ⟨addresses, _, round⟩ := iterating.round own
    cases round with
    | exhausted detached => cases detached.symm.trans own
    | won _ _ told => exact told
    | trying present _ _ _ trial =>
        cases own.symm.trans present
        cases trial with
        | queued phase => cases before.symm.trans phase
        | connecting phase => cases before.symm.trans phase
        | failed phase => cases before.symm.trans phase

theorem Iterating.take (iterating : Iterating client) (coherent : Coherent client)
    (stretch : Connector.Stretch (client.attempts id).connector client.sockets (client.hookOf id) turn) :
    Iterating (client.take id turn) := by
  by_cases own : client.connector = some id
  · cases next : turn.next with
    | done => exact iterating.take_done stretch next
    | emit event frame => exact iterating.take_emit coherent stretch own next
    | deliver socket => exact iterating.take_deliver coherent stretch own next
  · exact iterating.take_done stretch (stretch.halted (coherent.attempting.halted id own)).1

end Stretches

section Runs

variable {next : TcpClient}

theorem Iterating.step (iterating : Iterating client) (coherent : Coherent client)
    {action : Action} (taken : client.step action = some next) : Iterating next := by
  -- Steps of connections leave all that the invariant speaks of as it is.
  have same : ∀ {changed : TcpClient}, changed.fixedAddress = client.fixedAddress →
      changed.connector = client.connector →
      changed.connectGeneration = client.connectGeneration → changed.trace = client.trace →
      changed.candidates = client.candidates → changed.nextCandidate = client.nextCandidate →
      changed.attempts = client.attempts → changed.resolutions = client.resolutions →
      changed.queue = client.queue → changed.connectPhase = client.connectPhase →
      Iterating changed := by
    intro changed address connector generation trace listed ahead attempts resolutions queue phase
    refine iterating.same address connector generation trace listed ahead ?_ ?_ ?_ ?_
    · rw [attempts]
      exact fun _ _ => ⟨rfl, rfl, rfl⟩
    · rw [resolutions]
      exact fun _ member => member
    · rw [queue]
      exact fun _ _ queued => queued
    · rw [phase]
      exact fun idle => idle
  rcases step_moves taken with moves | aborts
  case inr =>
    cases aborts
    exact same rfl rfl rfl rfl rfl rfl rfl rfl rfl rfl
  cases moves with
  | set | close | established | returned => exact same rfl rfl rfl rfl rfl rfl rfl rfl rfl rfl
  | connect => exact iterating.connectInLoop
  | stop => exact iterating.stopInLoop
  | disconnect => exact iterating.disconnectInLoop
  | shutdown connection => exact iterating.shutdown connection
  | stretch writable stretch alone =>
      have coherent : Coherent { client with writable } :=
        coherent.same rfl rfl rfl rfl rfl id rfl rfl fun _ _ => id
      have iterating : Iterating { client with writable } :=
        same rfl rfl rfl rfl rfl rfl rfl rfl rfl rfl
      exact iterating.take coherent stretch
  | resolved waits addresses => exact iterating.resolved coherent waits addresses
  | execute member => exact iterating.execute coherent member
  | removed top =>
      apply Iterating.removeConnection
      exact same rfl rfl rfl rfl rfl rfl rfl rfl rfl rfl

theorem Iterating.initial : Iterating atHostname := by
  have none : ∀ event, event ∉ atHostname.trace := fun event => List.not_mem_nil
  refine ⟨rfl, ?_, ?_, ?_, ?_, fun _ => rfl, ?_, ?_⟩
  · intro id own
    cases own
  · refine ⟨?_, ?_, fun _ _ => rfl, fun _ => List.prefix_refl _, fun _ => List.Pairwise.nil⟩
    · exact fun _ _ _ one => absurd one (none _)
    · exact fun _ _ one => absurd one (none _)
  · exact fun _ _ => ⟨fun _ => none _, fun event member => absurd member (none event)⟩
  · exact fun _ _ _ => none _
  · exact fun _ answered => absurd answered (none _)
  · rintro ⟨event, member, _⟩
    exact absurd member (none event)

theorem iterating_run (reach : Reach step (fun _ _ => True) atHostname client) :
    Coherent client ∧ Iterating client := by
  have coherent := @coherent_run _ (fun _ _ => True) _ .atHostname .start
  have initially : Coherent atHostname ∧ Iterating atHostname := ⟨coherent, .initial⟩
  refine @Reach.invariant _ _ _ _ _ (fun client => Coherent client ∧ Iterating client) initially
    ?_ _ reach
  intro state next action kept _ taken
  exact ⟨kept.1.step taken, kept.2.step kept.1 taken⟩

end Runs

end MiniTrantor.Net.TcpClient
