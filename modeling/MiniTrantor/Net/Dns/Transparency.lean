import MiniTrantor.Net.Dns.Address
import MiniTrantor.Net.Dns.Callers

/-!
# What the cache serves

The resolver over the addresses of `getaddrinfo`, where a worker is given no other
answers. An entry of the cache is an answer without its ports, and what is made of
it for a request is what a worker would have made of an answer for that request.
-/

set_option autoImplicit false

namespace MiniTrantor.Net.Dns

/-! ## Where results come from -/

section Results

variable {Ip : Type}

/-- The result on its way in a frame. -/
def Frame.outgoing : Frame Ip → Option (Nat × ResolveResult Ip)
  | .posting request result | .queueing request result | .delivering request result
  | .releasing request (some result) | .taken request (some result) => some (request, result)
  | _ => none

def Event.outgoing : Event Ip → Option (Nat × ResolveResult Ip)
  | .posted request result | .queued request result | .settled _ request (some result)
  | .invoked _ request result => some (request, result)
  | _ => none

variable {shared : Shared Ip} {state next : State Ip} {thread : Thread}
  {old rest : List (Frame Ip)} {outcome : Outcome Ip} {operation : Operation} {frame : Frame Ip}
  {choice : Choice Ip} {request : Nat} {result : ResolveResult Ip}

/-- Results are passed on as they were posted. -/
theorem Does.results (does : Does shared thread rest old outcome)
    {good : Nat × ResolveResult Ip → Prop}
    (before : ∀ frame ∈ old, ∀ pair ∈ frame.outgoing, good pair)
    (pending : ∀ loop, ∀ pair ∈ (shared.loops loop).pending, good pair)
    (posted : ∀ request result, .posted request result ∈ outcome.events → good (request, result)) :
    (∀ frame ∈ outcome.frames, ∀ pair ∈ frame.outgoing, good pair) ∧
      ∀ event ∈ outcome.events, ∀ pair ∈ event.outgoing, good pair := by
  cases does with
  | caches | resolve | cancel | popped | closes | registers | installs | discards | enqueues
  | cancels | swaps | drops =>
      simp [Shared.user, Frame.outgoing, Event.outgoing]
  | runs _ _ waiting =>
      have first := pending _ _ (waiting ▸ List.mem_cons_self)
      simpa [Frame.outgoing] using first
  | looks looks =>
      refine ⟨fun frame member pair => ?_, by simp⟩
      cases looks with
      | unwanted registered =>
          split at member <;> cases List.mem_singleton.mp member <;> simp [Frame.outgoing]
      | timely result =>
          cases List.mem_singleton.mp member
          exact before _ List.mem_cons_self pair
      | unlinked | linked | going | missed | refused | fetched =>
          cases List.mem_singleton.mp member
          simp [Frame.outgoing]
      | _ => cases member
  | refuses | invokes | hits | answers | notifies =>
      have first := posted _ _ List.mem_cons_self
      simpa [Shared.post, Frame.outgoing, Event.outgoing] using first
  | queues result =>
      have first := before _ List.mem_cons_self
      simpa [Frame.outgoing, Event.outgoing] using first
  | abandons =>
      simp only [Shared.settle]
      split <;> simp [Frame.outgoing, Event.outgoing]
  | delivers result =>
      have first := before _ List.mem_cons_self
      simp only [Shared.settle]
      split <;> simpa [Frame.outgoing, Event.outgoing] using first
  | releases result =>
      have first := before _ List.mem_cons_self
      cases result with
      | none => simp [Frame.outgoing]
      | some result => simpa [Frame.outgoing] using first
  | calls result =>
      have first := before _ List.mem_cons_self
      simpa [Frame.outgoing, Event.outgoing] using first

/-- What is posted is a cancellation, a hit or an answer. -/
theorem advanceRequest_posted
    (ran : shared.advanceRequest thread operation frame choice = some outcome)
    (posted : .posted request result ∈ outcome.events) :
    frame.request = some request ∧ (result = .error .cancelled ∨
      (∃ addresses, shared.lookup operation = some addresses ∧ result = .ok addresses) ∨
        ∃ answer, choice = .answer answer ∧ frame = .resolving request ∧
          result = Shared.answered operation answer) := by
  unfold Shared.advanceRequest at ran
  split at ran
  case h_1 =>
    split at ran
    · cases ran
      simp at posted
    · split at ran <;> cases ran <;> simp [Shared.post] at posted
      exact ⟨by rw [posted.1]; rfl, .inl posted.2⟩
  case h_2 =>
    obtain ⟨token, _, same⟩ := Option.map_eq_some_iff.mp ran
    subst same
    dsimp only at posted
    split at posted <;> simp [Shared.post] at posted
    exact ⟨by rw [posted.1]; rfl, .inl posted.2⟩
  case h_6 =>
    split at ran
    case h_1 addresses found =>
      cases ran
      simp only [Shared.post, List.mem_singleton, Event.posted.injEq] at posted
      exact ⟨by rw [posted.1]; rfl, .inr (.inl ⟨addresses, found, posted.2⟩)⟩
    case h_2 =>
      cases ran
      simp at posted
  case h_18 answer other =>
    cases ran
    simp only [Shared.post, List.mem_singleton, Event.posted.injEq] at posted
    exact ⟨by rw [posted.1]; rfl, .inr (.inr ⟨answer, rfl, by rw [posted.1], posted.2⟩)⟩
  case h_3 => split at ran <;> cases ran <;> simp at posted
  case h_9 =>
    dsimp only at ran
    split at ran <;> cases ran <;> simp at posted
  case h_10 | h_11 =>
    cases ran
    simp only [Shared.takeCallback, Shared.settle] at posted
    split at posted <;> simp at posted
  case h_19 => cases ran
  all_goals
    cases ran
    simp at posted

/-- Where a result that is posted comes from. -/
inductive PostedBy (state : State Ip) (thread : Thread) (action : Action Ip) (request : Nat) :
    ResolveResult Ip → Prop where
  | cancelled : (∃ operation, state.shared.operations request = some operation) →
      PostedBy state thread action request (.error .cancelled)
  | hit {operation : Operation} {addresses : List (Ip × Nat)} :
      state.shared.operations request = some operation →
      state.shared.lookup operation = some addresses →
      PostedBy state thread action request (.ok addresses)
  | answer {operation : Operation} {rest : List (Frame Ip)} (answer : Option (List Ip)) :
      state.shared.operations request = some operation → action = .advance (.answer answer) →
      state.frames thread = .resolving request :: rest →
      PostedBy state thread action request (Shared.answered operation answer)

theorem advanceCancel_posted (ran : shared.advanceCancel frame choice = some outcome)
    (posted : .posted request result ∈ outcome.events) :
    ∃ token waiting, frame = .notifying token waiting ∧ request ∈ waiting ∧
      result = .error .cancelled := by
  unfold Shared.advanceCancel at ran
  split at ran
  case h_1 =>
    dsimp only at ran
    split at ran <;> cases ran <;> simp at posted
  case h_2 =>
    cases ran
    simp at posted
  case h_3 other token waiting =>
    obtain ⟨waits, same⟩ := Option.ite_none_right_eq_some.mp ran
    cases same
    simp only [Shared.post, List.mem_singleton, Event.posted.injEq] at posted
    exact ⟨token, waiting, rfl, posted.1 ▸ waits, posted.2⟩
  case h_4 =>
    cases ran
    simp at posted
  case h_5 => cases ran

theorem step_posted {action : Action Ip} {events : List (Event Ip)} (sound : Sound state)
    (ran : state.step (thread, action) = some next) (grown : next.trace = state.trace ++ events)
    (posted : .posted request result ∈ events) : PostedBy state thread action request result := by
  have told : ∀ {stack : List (Frame Ip)} {outcome : Outcome Ip},
      state.put thread stack outcome = next → .posted request result ∈ outcome.events := by
    intro stack outcome same
    subst same
    rw [List.append_cancel_left grown]
    exact posted
  have taken : ∀ {action : Action Ip}, (if (state.frames thread).isEmpty then
      (state.shared.takeUp thread action).map fun outcome => state.put thread [] outcome
      else none) = some next → False := by
    intro action ran
    obtain ⟨_, ran⟩ := Option.ite_none_right_eq_some.mp ran
    obtain ⟨outcome, took, same⟩ := Option.map_eq_some_iff.mp ran
    have posted := told same
    cases takeUp_does took <;> simp [Shared.user] at posted
  cases action with
  | user command =>
      obtain ⟨_, same⟩ := Option.ite_none_right_eq_some.mp ran
      have posted := told (Option.some.inj same)
      cases command <;> simp [Shared.user] at posted
  | advance choice =>
      cases stack : state.frames thread with
      | nil => simp [State.step, stack] at ran
      | cons frame rest =>
          simp only [State.step, stack] at ran
          obtain ⟨outcome, went, same⟩ := Option.map_eq_some_iff.mp ran
          have posted := told same
          have known := sound.frames thread frame (by rw [stack]; exact List.mem_cons_self)
          unfold Shared.advance at went
          split at went
          · obtain ⟨token, waiting, rfl, waits, rfl⟩ := advanceCancel_posted went posted
            exact .cancelled (known request waits)
          · rename_i other named
            obtain ⟨operation, found, went⟩ := Option.bind_eq_some_iff.mp went
            obtain ⟨about, why⟩ := advanceRequest_posted went posted
            cases named.symm.trans about
            rcases why with rfl | ⟨addresses, hit, rfl⟩ | ⟨answer, rfl, rfl, rfl⟩
            · exact .cancelled ⟨operation, found⟩
            · exact .hit found hit
            · exact .answer answer found rfl stack
  | tick =>
      cases ran
      rw [List.self_eq_append_right.mp grown] at posted
      cases posted
  | pop | run | close => exact (taken ran).elim

/-! ## The cache -/

theorem unregister_cache (request : Nat) (operation : Operation) (shared : Shared Ip) :
    (shared.unregister request operation).cache = shared.cache := by
  unfold Shared.unregister
  split <;> rfl

theorem advanceRequest_cache
    (ran : shared.advanceRequest thread operation frame choice = some outcome) :
    outcome.shared.cache = shared.cache ∨ ∃ request answer, frame = .resolving request ∧
      choice = .answer answer ∧
        outcome.shared.cache = (shared.remember operation (answer.getD [])).cache := by
  unfold Shared.advanceRequest at ran
  split at ran
  case h_1 =>
    split at ran
    · cases ran
      exact .inl rfl
    · split at ran <;> cases ran <;> exact .inl rfl
  case h_2 =>
    obtain ⟨token, _, same⟩ := Option.map_eq_some_iff.mp ran
    subst same
    dsimp only
    split <;> exact .inl rfl
  case h_3 => split at ran <;> cases ran <;> exact .inl rfl
  case h_4 | h_12 =>
    cases ran
    exact .inl (unregister_cache ..)
  case h_6 => split at ran <;> cases ran <;> exact .inl rfl
  case h_9 =>
    dsimp only at ran
    split at ran <;> cases ran <;> exact .inl rfl
  case h_10 | h_11 =>
    cases ran
    simp only [Shared.takeCallback, Shared.settle]
    split <;> exact .inl rfl
  case h_18 answer other =>
    cases ran
    exact .inr ⟨other, answer, rfl, rfl, rfl⟩
  case h_19 => cases ran
  all_goals
    cases ran
    exact .inl rfl

theorem advanceCancel_cache (ran : shared.advanceCancel frame choice = some outcome) :
    outcome.shared.cache = shared.cache := by
  unfold Shared.advanceCancel at ran
  split at ran
  case h_1 =>
    dsimp only at ran
    split at ran <;> cases ran <;> rfl
  case h_3 =>
    obtain ⟨_, same⟩ := Option.ite_none_right_eq_some.mp ran
    cases same
    rfl
  case h_5 => cases ran
  all_goals
    cases ran
    rfl

/-- The cache is written by a worker with an answer, and cleared. -/
theorem step_cache {action : Action Ip} (ran : state.step (thread, action) = some next) :
    next.shared.cache = state.shared.cache ∨ next.shared.cache = (fun _ => none) ∨
      ∃ request rest operation answer, action = .advance (.answer answer) ∧
        state.frames thread = .resolving request :: rest ∧
        state.shared.operations request = some operation ∧
        next.shared.cache = (state.shared.remember operation (answer.getD [])).cache := by
  have taken : ∀ {action : Action Ip}, (if (state.frames thread).isEmpty then
      (state.shared.takeUp thread action).map fun outcome => state.put thread [] outcome
      else none) = some next → next.shared.cache = state.shared.cache := by
    intro action ran
    obtain ⟨_, ran⟩ := Option.ite_none_right_eq_some.mp ran
    obtain ⟨outcome, took, same⟩ := Option.map_eq_some_iff.mp ran
    subst same
    unfold Shared.takeUp at took
    split at took
    · split at took <;> cases took
      rfl
    · split at took <;> cases took
      rfl
    · obtain ⟨_, same⟩ := Option.ite_none_right_eq_some.mp took
      cases same
      rfl
    · cases took
  cases action with
  | user command =>
      obtain ⟨_, same⟩ := Option.ite_none_right_eq_some.mp ran
      cases same
      cases command with
      | clearCache => exact .inr (.inl rfl)
      | resolve | cancel | enableCache => exact .inl rfl
  | advance choice =>
      cases stack : state.frames thread with
      | nil => simp [State.step, stack] at ran
      | cons frame rest =>
          simp only [State.step, stack] at ran
          obtain ⟨outcome, went, same⟩ := Option.map_eq_some_iff.mp ran
          subst same
          unfold Shared.advance at went
          split at went
          · exact .inl (advanceCancel_cache went)
          · rename_i other named
            obtain ⟨operation, found, went⟩ := Option.bind_eq_some_iff.mp went
            obtain same | ⟨request, answer, rfl, rfl, written⟩ := advanceRequest_cache went
            · exact .inl same
            · cases named
              exact .inr (.inr ⟨other, rest, operation, answer, rfl, rfl, found, written⟩)
  | tick =>
      cases ran
      exact .inl rfl
  | pop | run | close => exact .inl (taken ran)

end Results

/-! ## With the answers of getaddrinfo -/

section Answers

variable {getaddrinfo : String → Nat → List AddrInfo} {state next : State SockaddrStorage}
  {thread : Thread} {old rest : List (Frame SockaddrStorage)} {operation : Operation}
  {shared : Shared SockaddrStorage} {outcome : Outcome SockaddrStorage} {request : Nat}

/-- A worker that gets an answer keeps what the loop over it collects. -/
def Answers (getaddrinfo : String → Nat → List AddrInfo) (state : State SockaddrStorage)
    (move : Thread × Action SockaddrStorage) : Prop :=
  ∀ answer request rest operation, move.2 = .advance (.answer (some answer)) →
    state.frames move.1 = .resolving request :: rest →
    state.shared.operations request = some operation →
    answer = (collect (getaddrinfo operation.hostname operation.port)).2

/-- The addresses that the callback is given. -/
def inetAddresses (addresses : List (SockaddrStorage × Nat)) : List SockaddrStorage :=
  addresses.map fun address => withPort address.2 address.1

def inetResult (result : ResolveResult SockaddrStorage) :
    Except NetError (List SockaddrStorage) :=
  result.map inetAddresses

theorem inetAddresses_port (kept : List SockaddrStorage) (port : Nat) :
    inetAddresses (kept.map fun storage => (storage, port)) = kept.map (withPort port) := by
  rw [inetAddresses, List.map_map]
  rfl

/-- What a worker delivers is what its loop collects. -/
theorem inetResult_answered (resolves : Resolves getaddrinfo) (operation : Operation) :
    inetResult (Shared.answered operation
        (some (collect (getaddrinfo operation.hostname operation.port)).2)) =
      workerResult (some (getaddrinfo operation.hostname operation.port)) := by
  have serves := resolves.serves operation.hostname operation.port operation.port
  have empty := collect_isEmpty (getaddrinfo operation.hostname operation.port)
  rw [workerResult, ← empty]
  cases kept : (collect (getaddrinfo operation.hostname operation.port)).2 with
  | nil => rfl
  | cons first others =>
      rw [← serves, kept]
      exact congrArg Except.ok (inetAddresses_port (first :: others) operation.port)

/-- A request is cancelled, or gets what a worker makes of the answer for it; that there is no
answer is told by a worker only, for a request that was queued. -/
def Genuine (getaddrinfo : String → Nat → List AddrInfo) (state : State SockaddrStorage)
    (pair : Nat × ResolveResult SockaddrStorage) : Prop :=
  ∃ operation, state.shared.operations pair.1 = some operation ∧
    (inetResult pair.2 = .error .cancelled ∨
      (inetResult pair.2 = workerResult none ∧ .enqueued pair.1 ∈ state.trace) ∨
      inetResult pair.2 = workerResult (some (getaddrinfo operation.hostname operation.port)))

/-- The invariant: entries are answers, and results are genuine. -/
structure Faithful (getaddrinfo : String → Nat → List AddrInfo) (state : State SockaddrStorage) :
    Prop where
  resolving : Resolving state
  entries : ∀ hostname entry, state.shared.cache hostname = some entry →
    entry.addresses ≠ [] ∧ ∃ port, entry.addresses = (collect (getaddrinfo hostname port)).2
  frames : ∀ thread, ∀ frame ∈ state.frames thread, ∀ pair ∈ frame.outgoing,
    Genuine getaddrinfo state pair
  pending : ∀ loop, ∀ pair ∈ (state.shared.loops loop).pending,
    Genuine getaddrinfo state pair
  trace : ∀ event ∈ state.trace, ∀ pair ∈ event.outgoing, Genuine getaddrinfo state pair

theorem Faithful.start : Faithful getaddrinfo {} where
  resolving := .start
  entries := by simp
  frames := by simp
  pending := by simp
  trace := by simp

theorem lookup_entry {addresses : List (SockaddrStorage × Nat)}
    (hit : shared.lookup operation = some addresses) :
    ∃ entry, shared.cache operation.hostname = some entry ∧ shared.now < entry.expiry ∧
      addresses = entry.addresses.map fun storage => (storage, operation.port) := by
  obtain ⟨_, hit⟩ := Option.ite_none_right_eq_some.mp hit
  split at hit
  case h_1 entry found =>
    obtain ⟨valid, same⟩ := Option.ite_none_right_eq_some.mp hit
    exact ⟨entry, found, valid, (Option.some.inj same).symm⟩
  case h_2 => cases hit

/-- A hit delivers what a miss would. -/
theorem Faithful.hit (faithful : Faithful getaddrinfo state) (resolves : Resolves getaddrinfo)
    {addresses : List (SockaddrStorage × Nat)}
    (hit : state.shared.lookup operation = some addresses) :
    .ok (inetAddresses addresses) =
      workerResult (some (getaddrinfo operation.hostname operation.port)) := by
  obtain ⟨entry, found, _, rfl⟩ := lookup_entry hit
  obtain ⟨some, port, same⟩ := faithful.entries _ entry found
  have serves := resolves.serves operation.hostname port operation.port
  rw [inetAddresses_port, same, serves, workerResult]
  rw [same] at some
  rw [if_neg]
  intro empty
  rw [← serves, List.isEmpty_iff, List.map_eq_nil_iff] at empty
  exact some empty

/-- A step leaves what a request asks for. -/
theorem Does.asked (does : Does shared thread rest old outcome) (dense : shared.Dense)
    (found : shared.operations request = some operation) :
    ∃ later, outcome.shared.operations request = some later ∧
      later.hostname = operation.hostname ∧ later.port = operation.port := by
  cases does with
  | caches agree => exact ⟨operation, by rw [agree.operations, found], rfl, rfl⟩
  | answers result _ agree => exact ⟨operation, by simpa [Shared.post, agree.operations] using found, rfl, rfl⟩
  | resolve hostname port callbackHandle token =>
      have differs : request ≠ shared.requests := by
        rintro rfl
        rw [(dense _).mp le_rfl] at found
        cases found
      exact ⟨operation, by simpa [Shared.user, differs] using found, rfl, rfl⟩
  | @installs other before _ held | @abandons other before held
  | @delivers other before _ held =>
      by_cases same : request = other
      · subst same
        cases held.symm.trans found
        exact ⟨_, Function.update_self _ _ _, rfl, rfl⟩
      · exact ⟨operation, by simpa [Shared.settle, same] using found, rfl, rfl⟩
  | _ => exact ⟨operation, by simpa [Shared.post] using found, rfl, rfl⟩

theorem Genuine.kept {pair : Nat × ResolveResult SockaddrStorage}
    (genuine : Genuine getaddrinfo state pair) (stepped : Stepped state next thread old outcome rest)
    (dense : state.shared.Dense) : Genuine getaddrinfo next pair := by
  obtain ⟨operation, found, right⟩ := genuine
  obtain ⟨later, held, hostname, port⟩ := stepped.does.asked dense found
  refine ⟨later, by rw [stepped.shared]; exact held, ?_⟩
  rw [hostname, port]
  obtain cancelled | ⟨failed, queued⟩ | answered := right
  · exact .inl cancelled
  · refine .inr (.inl ⟨failed, ?_⟩)
    rw [stepped.trace]
    exact List.mem_append_left _ queued
  · exact .inr (.inr answered)

theorem Faithful.posted (faithful : Faithful getaddrinfo state) (resolves : Resolves getaddrinfo)
    {action : Action SockaddrStorage} (answers : Answers getaddrinfo state (thread, action))
    {result : ResolveResult SockaddrStorage} (posted : PostedBy state thread action request result) :
    Genuine getaddrinfo state (request, result) := by
  cases posted with
  | cancelled known =>
      obtain ⟨operation, found⟩ := known
      exact ⟨operation, found, .inl rfl⟩
  | hit found hit => exact ⟨_, found, .inr (.inr (faithful.hit resolves hit))⟩
  | answer answer found same top =>
      refine ⟨_, found, .inr ?_⟩
      cases answer with
      | none =>
          refine .inl ⟨rfl, faithful.resolving.workers thread (.resolving request) ?_ request rfl⟩
          rw [top]
          exact List.mem_cons_self
      | some kept =>
          rw [answers kept request _ _ same top found]
          exact .inr (inetResult_answered resolves _)

/-- An entry that was not there before is the answer that a worker got. -/
theorem step_written {action : Action SockaddrStorage}
    (ran : state.step (thread, action) = some next) {hostname : String}
    {entry : CacheEntry SockaddrStorage} (found : next.shared.cache hostname = some entry) :
    state.shared.cache hostname = some entry ∨ ∃ request rest operation,
      action = .advance (.answer (some entry.addresses)) ∧
      state.frames thread = .resolving request :: rest ∧
      state.shared.operations request = some operation ∧ operation.hostname = hostname ∧
      entry.addresses ≠ [] := by
  obtain same | cleared | ⟨request, rest, operation, answer, rfl, top, known, written⟩ :=
    step_cache ran
  · rw [same] at found
    exact .inl found
  · rw [cleared] at found
    cases found
  · rw [written] at found
    unfold Shared.remember at found
    split at found
    case isTrue wanted =>
      by_cases mine : hostname = operation.hostname
      · subst mine
        simp only [Function.update_self, Option.some.injEq] at found
        subst found
        cases answer with
        | none => simp at wanted
        | some kept =>
            refine .inr ⟨request, rest, operation, rfl, top, known, rfl, ?_⟩
            simpa using (Bool.and_eq_true_iff.mp wanted).2
      · simp only [Function.update_of_ne mine] at found
        exact .inl found
    case isFalse => exact .inl found

theorem Faithful.kept (faithful : Faithful getaddrinfo state) (resolves : Resolves getaddrinfo)
    {action : Action SockaddrStorage} (answers : Answers getaddrinfo state (thread, action))
    (ran : state.step (thread, action) = some next) : Faithful getaddrinfo next := by
  obtain ⟨old, outcome, rest, stepped⟩ := step_cases ran
  have resolving := faithful.resolving.kept stepped
  have kept : ∀ {pair}, Genuine getaddrinfo state pair → Genuine getaddrinfo next pair :=
    fun genuine => genuine.kept stepped faithful.resolving.sound.dense
  obtain ⟨does, top, rfl⟩ := stepped
  obtain ⟨frames, events⟩ := does.results
    (fun frame member => faithful.frames thread frame
      (by rw [top]; exact List.mem_append_left _ member))
    faithful.pending
    (fun request result posted =>
      faithful.posted resolves answers (step_posted faithful.resolving.sound ran rfl posted))
  refine ⟨resolving, fun hostname entry found => ?_, fun holder frame member pair carried => kept ?_,
    fun loop pair member => kept ?_, fun event member pair carried => kept ?_⟩
  · obtain same | ⟨request, rest, operation, rfl, top, known, rfl, some⟩ := step_written ran found
    · exact faithful.entries hostname entry same
    · exact ⟨some, _, answers _ request rest operation rfl top known⟩
  · by_cases mine : holder = thread
    · subst mine
      simp only [State.put, Function.update_self] at member
      obtain new | stays := List.mem_append.mp member
      · exact frames frame new pair carried
      · refine faithful.frames holder frame ?_ pair carried
        rw [top]
        exact List.mem_append_right _ stays
    · simp only [State.put, Function.update_of_ne mine] at member
      exact faithful.frames holder frame member pair carried
  · obtain same | ⟨queueing, _⟩ := does.pending member
    · exact faithful.pending loop pair same
    · refine faithful.frames thread (.queueing pair.1 pair.2) ?_ pair rfl
      rw [top, queueing]
      exact List.mem_cons_self
  · obtain before | new := List.mem_append.mp member
    · exact faithful.trace event before pair carried
    · exact events event new pair carried

/-- A served request is cancelled, or gets what a miss would have delivered. -/
theorem Served.invoked (served : Served request state) (faithful : Faithful getaddrinfo state)
    {result : ResolveResult SockaddrStorage} (told : .invoked thread request result ∈ state.trace)
    (found : state.shared.operations request = some operation) :
    inetResult result = .error .cancelled ∨
      inetResult result = workerResult (some (getaddrinfo operation.hostname operation.port)) := by
  obtain ⟨mine, held, right⟩ := faithful.trace _ told _ rfl
  cases held.symm.trans found
  obtain cancelled | ⟨_, queued⟩ | answered := right
  · exact .inl cancelled
  · exact absurd queued served.unqueued
  · exact .inr answered

theorem reach_asked {start : State SockaddrStorage} (faithful : Faithful getaddrinfo start)
    (resolves : Resolves getaddrinfo) (served : Served request start)
    (found : start.shared.operations request = some operation)
    (reach : Reach State.step (Answers getaddrinfo) start state) :
    Faithful getaddrinfo state ∧ Served request state ∧
      ∃ later, state.shared.operations request = some later ∧
        later.hostname = operation.hostname ∧ later.port = operation.port := by
  induction reach with
  | start => exact ⟨faithful, served, operation, found, rfl, rfl⟩
  | @step state next move _ answers ran ih =>
      obtain ⟨faithful, served, later, held, hostname, port⟩ := ih
      obtain ⟨old, outcome, rest, stepped⟩ := step_cases ran
      obtain ⟨last, has, name, number⟩ := stepped.does.asked faithful.resolving.sound.dense held
      exact ⟨faithful.kept resolves answers ran, served.kept faithful.resolving stepped, last,
        by rw [stepped.shared]; exact has, name.trans hostname, number.trans port⟩

/-- A hit posts what a miss would deliver, and nothing else but a cancellation is told to
the callback of that request in the rest of any run. -/
theorem Faithful.served (faithful : Faithful getaddrinfo state) (resolves : Resolves getaddrinfo)
    {addresses : List (SockaddrStorage × Nat)}
    (top : state.frames thread = .looking request :: rest)
    (found : state.shared.operations request = some operation)
    (hit : state.shared.lookup operation = some addresses) :
    ∃ next, state.step (thread, .advance .go) = some next ∧
      next.trace = state.trace ++ [.posted request (.ok addresses)] ∧
      ∀ later, Reach State.step (Answers getaddrinfo) next later →
        ∀ holder result, .invoked holder request result ∈ later.trace →
          inetResult result = .error .cancelled ∨
            inetResult result = workerResult (some (getaddrinfo operation.hostname operation.port)) := by
  have went : state.shared.advance thread (.looking request) .go =
      some (state.shared.post request (.ok addresses) []) := by
    simp [Shared.advance, Frame.request, found, Shared.advanceRequest, hit]
  obtain ⟨next, same⟩ : ∃ next,
      next = state.put thread rest (state.shared.post request (.ok addresses) []) := ⟨_, rfl⟩
  have ran : state.step (thread, .advance .go) = some next := by
    simp [State.step, top, went, same]
  have stepped : Stepped state next thread [.looking request]
      (state.shared.post request (.ok addresses) []) rest :=
    ⟨.hits addresses found, top, same, fun none => by cases none⟩
  have answers : Answers getaddrinfo state (thread, .advance .go) := by
    intro answer request rest operation same
    cases same
  refine ⟨next, ran, stepped.trace, fun later reach holder result told => ?_⟩
  have served := faithful.resolving.served stepped found
  have held : next.shared.operations request = some operation := by
    rw [stepped.shared]
    exact found
  obtain ⟨faithful, served, last, has, hostname, port⟩ :=
    reach_asked (faithful.kept resolves answers ran) resolves served held reach
  rw [← hostname, ← port]
  exact served.invoked faithful told has

/-- What a cache hit and every callback get, and what the cache is given. -/
structure Transparent (getaddrinfo : String → Nat → List AddrInfo)
    (state : State SockaddrStorage) : Prop where
  hit : ∀ operation addresses, state.shared.lookup operation = some addresses →
    .ok (inetAddresses addresses) =
      workerResult (some (getaddrinfo operation.hostname operation.port))
  served : ∀ thread request rest operation addresses,
    state.frames thread = .looking request :: rest →
    state.shared.operations request = some operation →
    state.shared.lookup operation = some addresses →
    ∃ next, state.step (thread, .advance .go) = some next ∧
      next.trace = state.trace ++ [.posted request (.ok addresses)] ∧
      ∀ later, Reach State.step (Answers getaddrinfo) next later →
        ∀ holder result, .invoked holder request result ∈ later.trace →
          inetResult result = .error .cancelled ∨
            inetResult result = workerResult (some (getaddrinfo operation.hostname operation.port))
  current : ∀ operation addresses, state.shared.lookup operation = some addresses →
    ∃ entry, state.shared.cache operation.hostname = some entry ∧ state.shared.now < entry.expiry
  delivered : ∀ thread request result, .invoked thread request result ∈ state.trace →
    Genuine getaddrinfo state (request, result)
  written : ∀ thread action next, state.step (thread, action) = some next →
    ∀ hostname entry, next.shared.cache hostname = some entry →
    state.shared.cache hostname = some entry ∨ ∃ request rest operation,
      action = .advance (.answer (some entry.addresses)) ∧
      state.frames thread = .resolving request :: rest ∧
      state.shared.operations request = some operation ∧ operation.hostname = hostname ∧
      entry.addresses ≠ []

theorem cache_transparency (resolves : Resolves getaddrinfo)
    (reach : Reach State.step (Answers getaddrinfo) {} state) : Transparent getaddrinfo state := by
  have faithful : Faithful getaddrinfo state := by
    refine reach.invariant .start ?_
    exact fun _ _ _ faithful answers ran => faithful.kept resolves answers ran
  refine ⟨fun operation addresses hit => faithful.hit resolves hit,
    fun thread request rest operation addresses top found hit =>
      faithful.served resolves top found hit,
    fun operation addresses hit => ?_, fun thread request result told => faithful.trace _ told _ rfl,
    fun thread action next ran hostname entry found => step_written ran found⟩
  obtain ⟨entry, found, valid, _⟩ := lookup_entry hit
  exact ⟨entry, found, valid⟩

end Answers

/-! ## One resolution and a hit for another port -/

/-- The loopback addresses of both families, the second with a scope. -/
def loopback (_ : String) (port : Nat) : List AddrInfo :=
  let port := [(htons port).1, (htons port).2]
  [{ aiFamily := AF_INET
     aiAddr := [2, 0] ++ port ++ [127, 0, 0, 1] ++ List.replicate 8 0 },
   { aiFamily := AF_INET6
     aiAddr := [10, 0] ++ port ++ List.replicate 19 0 ++ [1] ++ [3, 0, 0, 0] }]

theorem loopback_resolves : Resolves loopback where
  family := by
    intro hostname port info member _
    simp only [loopback, List.mem_cons, List.not_mem_nil, or_false] at member
    rcases member with rfl | rfl <;> rfl
  port := by
    intro hostname port info member _
    simp only [loopback, List.mem_cons, List.not_mem_nil, or_false] at member
    rcases member with rfl | rfl <;> rfl
  same := by
    intro hostname first second
    rfl

theorem loopback_kept (hostname : String) (port : Nat) :
    (collect (loopback hostname port)).2 = (collect (loopback "" 0)).2 := by
  rw [← collect_withoutPort, loopback_resolves.same hostname port 0, collect_withoutPort]
  rfl

def resolvedRun : List (Thread × Action SockaddrStorage) :=
  [(.external 0, .user (.enableCache 60)), (.owner 0, .user (.resolve "localhost" 80 0 none)),
    (.owner 0, .advance .go), (.owner 0, .advance .go), (.owner 0, .advance .go),
    (.worker 0, .pop), (.worker 0, .advance .go),
    (.worker 0, .advance (.answer (some (collect (loopback "" 0)).2))),
    (.external 1, .user (.resolve "localhost" 443 0 none)), (.external 1, .advance .go)]

theorem cache_transparency_loopback :
    ∃ state, run State.step {} resolvedRun = some state ∧
      state.frames (.external 1) = [.looking 1] ∧
      (state.shared.lookup (.mk "localhost" 443 0 none false false)).isSome = true ∧
      Transparent loopback state := by
  have final : ∃ state, run State.step {} resolvedRun = some state ∧
      state.frames (.external 1) = [.looking 1] ∧
      (state.shared.lookup (.mk "localhost" 443 0 none false false)).isSome = true :=
    ⟨_, rfl, rfl, rfl⟩
  obtain ⟨state, ran, looks, hit⟩ := final
  refine ⟨state, ran, looks, hit, cache_transparency loopback_resolves (.run .start ?_ ran)⟩
  intro move member state answer request rest operation same _ _
  simp only [resolvedRun, List.mem_cons, List.not_mem_nil, or_false] at member
  rw [loopback_kept]
  rcases member with rfl | rfl | rfl | rfl | rfl | rfl | rfl | rfl | rfl | rfl <;> cases same
  rfl

end MiniTrantor.Net.Dns
