import MiniTrantor.Net.Dns.DnsResolver

/-!
# Moves of the resolver

What a step of a thread can do: the frames that it takes off its stack, and the outcome that
takes their place.
-/

set_option autoImplicit false

namespace MiniTrantor.Net.Dns

variable {Ip : Type}

/-- A frame that only looks, and where it goes. -/
inductive Looks (shared : Shared Ip) : Frame Ip → List (Frame Ip) → Prop where
  | unlinked {request : Nat} {operation : Operation} : shared.operations request = some operation → operation.token = none →
      Looks shared (.starting request) [.looking request]
  | linked {request : Nat} {operation : Operation} {token : Token} : shared.operations request = some operation →
      operation.token = some token → (shared.sources token).cancelled = false →
      Looks shared (.starting request) [.registering request]
  | unwanted {request : Nat} {operation : Operation} (registered : Bool) : shared.operations request = some operation →
      operation.completed = true → Looks shared (.installing request registered)
        (if registered then [.discarding request] else [.checking request])
  | returned {request : Nat} {operation : Operation} : shared.operations request = some operation → operation.completed = true →
      Looks shared (.checking request) []
  | going {request : Nat} {operation : Operation} : shared.operations request = some operation → operation.completed = false →
      Looks shared (.checking request) [.looking request]
  | missed {request : Nat} {operation : Operation} : shared.operations request = some operation →
      Looks shared (.looking request) [.enqueueing request]
  | late {request : Nat} {operation : Operation} (result : ResolveResult Ip) : shared.operations request = some operation →
      operation.completed = true → Looks shared (.posting request result) []
  | timely {request : Nat} {operation : Operation} (result : ResolveResult Ip) : shared.operations request = some operation →
      operation.completed = false →
      Looks shared (.posting request result) [.queueing request result]
  | refused {request : Nat} {operation : Operation} (result : ResolveResult Ip) : shared.operations request = some operation →
      (shared.loops operation.callbackHandle).isOpen = false →
      Looks shared (.queueing request result) [.abandoning request]
  | unneeded {request : Nat} {operation : Operation} :
      shared.operations request = some operation → operation.completed = true →
      Looks shared (.abandoning request) []
  | superseded {request : Nat} {operation : Operation} (result : ResolveResult Ip) :
      shared.operations request = some operation → operation.completed = true →
      Looks shared (.delivering request result) []
  | called {request : Nat} : Looks shared (.calling request) []
  | dropped {request : Nat} : Looks shared (.dropping request) []
  | skipped {request : Nat} {operation : Operation} : shared.operations request = some operation → operation.completed = true →
      Looks shared (.fetched request) []
  | fetched {request : Nat} {operation : Operation} : shared.operations request = some operation → operation.completed = false →
      Looks shared (.fetched request) [.resolving request]
  | again {token : Token} : (shared.sources token).cancelled = true →
      Looks shared (.exchanging token) []
  | notified (token : Token) : Looks shared (.notifying token []) []

/-- The two agree on all but the cache and the time. -/
structure Shared.Caches (shared later : Shared Ip) : Prop where
  operations : later.operations = shared.operations
  requests : later.requests = shared.requests
  sources : later.sources = shared.sources
  loops : later.loops = shared.loops
  requestQueue : later.requestQueue = shared.requestQueue

/-- What is taken up is taken up by a thread that has nothing else to do. -/
inductive Does (shared : Shared Ip) (thread : Thread) (rest : List (Frame Ip)) :
    List (Frame Ip) → Outcome Ip → Prop where
  | caches {later : Shared Ip} : shared.Caches later → Does shared thread rest [] { shared := later }
  | resolve (hostname : String) (port : Nat) (callbackHandle : LoopId) (token : Option Token) :
      Does shared thread rest [] (shared.user (.resolve hostname port callbackHandle token))
  | cancel (token : Token) : Does shared thread rest [] { frames := [.exchanging token], shared }
  | popped {request : Nat} {waiting : List Nat} : rest = [] →
      shared.requestQueue = request :: waiting →
      Does shared thread rest []
        { frames := [.fetched request], shared := { shared with requestQueue := waiting } }
  | runs {request : Nat} {loop : LoopId} {result : ResolveResult Ip} {pending : List (Nat × ResolveResult Ip)} :
      rest = [] → thread = .owner loop → (shared.loops loop).pending = (request, result) :: pending →
      Does shared thread rest []
        { frames := [.delivering request result]
          shared := shared.setLoop loop { shared.loops loop with pending } }
  | closes {loop : LoopId} : rest = [] → thread = .owner loop → (shared.loops loop).isOpen = true →
      (shared.loops loop).pending = [] →
      Does shared thread rest []
        { events := [.closed loop]
          shared := shared.setLoop loop { shared.loops loop with isOpen := false } }
  | looks {frame : Frame Ip} {frames : List (Frame Ip)} : Looks shared frame frames →
      Does shared thread rest [frame] { frames, shared }
  | refuses {request : Nat} {operation : Operation} {token : Token} : shared.operations request = some operation →
      operation.token = some token → (shared.sources token).cancelled = true →
      Does shared thread rest [.starting request] (shared.post request (.error .cancelled) [])
  | invokes {request : Nat} {operation : Operation} {token : Token} : shared.operations request = some operation →
      operation.token = some token → (shared.sources token).cancelled = true →
      Does shared thread rest [.registering request]
        (shared.post request (.error .cancelled) [.installing request false])
  | registers {request : Nat} {operation : Operation} {token : Token} : shared.operations request = some operation →
      operation.token = some token → (shared.sources token).cancelled = false →
      Does shared thread rest [.registering request]
        { frames := [.installing request true]
          shared := shared.setSource token { shared.sources token with
            callbacks := (shared.sources token).callbacks ++ [request] } }
  | installs {request : Nat} {operation : Operation} (registered : Bool) : shared.operations request = some operation →
      operation.completed = false →
      Does shared thread rest [.installing request registered]
        { frames := [.checking request]
          shared := shared.setOperation request { operation with registration := registered } }
  | discards {request : Nat} {operation : Operation} : shared.operations request = some operation →
      Does shared thread rest [.discarding request]
        { frames := [.checking request], shared := shared.unregister request operation }
  | hits {request : Nat} {operation : Operation} (addresses : List (Ip × Nat)) : shared.operations request = some operation →
      Does shared thread rest [.looking request] (shared.post request (.ok addresses) [])
  | enqueues {request : Nat} {operation : Operation} : shared.operations request = some operation →
      Does shared thread rest [.enqueueing request]
        { events := [.enqueued request]
          shared := { shared with requestQueue := shared.requestQueue ++ [request] } }
  | queues {request : Nat} {operation : Operation} (result : ResolveResult Ip) : shared.operations request = some operation →
      (shared.loops operation.callbackHandle).isOpen = true →
      Does shared thread rest [.queueing request result]
        { events := [.queued request result]
          shared := shared.setLoop operation.callbackHandle
            { shared.loops operation.callbackHandle with
              pending := (shared.loops operation.callbackHandle).pending ++ [(request, result)] } }
  | abandons {request : Nat} {operation : Operation} :
      shared.operations request = some operation → operation.completed = false →
      Does shared thread rest [.abandoning request] (shared.settle thread request operation none)
  | delivers {request : Nat} {operation : Operation} (result : ResolveResult Ip) :
      shared.operations request = some operation → operation.completed = false →
      Does shared thread rest [.delivering request result]
        (shared.settle thread request operation (some result))
  | releases {request : Nat} {operation : Operation} (result : Option (ResolveResult Ip)) : shared.operations request = some operation →
      Does shared thread rest [.releasing request result]
        { frames := [.taken request result], shared := shared.unregister request operation }
  | calls {request : Nat} (result : ResolveResult Ip) :
      Does shared thread rest [.taken request (some result)]
        { frames := [.calling request], events := [.invoked thread request result], shared }
  | drops {request : Nat} : Does shared thread rest [.taken request none]
        { frames := [.dropping request], events := [.abandoned thread request], shared }
  | answers {request : Nat} {operation : Operation} {later : Shared Ip} (result : ResolveResult Ip) :
      shared.operations request = some operation → shared.Caches later →
      Does shared thread rest [.resolving request] (later.post request result [])
  | cancels {token : Token} : (shared.sources token).cancelled = false →
      Does shared thread rest [.exchanging token]
        { frames := [.swapping token], events := [.cancelled token]
          shared := shared.setSource token { shared.sources token with cancelled := true } }
  | swaps (token : Token) : Does shared thread rest [.swapping token]
        { frames := [.notifying token (shared.sources token).callbacks]
          shared := shared.setSource token { shared.sources token with callbacks := [] } }
  | notifies {request : Nat} (token : Token) {waiting : List Nat} : request ∈ waiting →
      Does shared thread rest [.notifying token waiting]
        (shared.post request (.error .cancelled) [.notifying token (waiting.erase request)])

variable {state next : State Ip} {shared : Shared Ip} {thread : Thread}
  {old rest : List (Frame Ip)} {outcome : Outcome Ip} {operation : Operation} {request : Nat}

/-- A step replaces the top of the stack of a thread. Calls are made by user code. -/
structure Stepped (state next : State Ip) (thread : Thread) (old : List (Frame Ip))
    (outcome : Outcome Ip) (rest : List (Frame Ip)) : Prop where
  does : Does state.shared thread rest old outcome
  top : state.frames thread = old ++ rest
  next : next = state.put thread rest outcome
  user : old = [] → outcome.frames = [] ∨ ∀ frame ∈ rest.head?, frame.user = true

theorem remember_caches (operation : Operation) (addresses : List Ip) (shared : Shared Ip) :
    shared.Caches (shared.remember operation addresses) := by
  unfold Shared.remember
  split <;> exact ⟨rfl, rfl, rfl, rfl, rfl⟩

theorem user_does (shared : Shared Ip) (thread : Thread) (command : Command) :
    Does shared thread rest [] (shared.user command) := by
  cases command with
  | resolve hostname port callbackLoop token => exact .resolve hostname port callbackLoop token
  | cancel token => exact .cancel token
  | enableCache | clearCache => exact .caches ⟨rfl, rfl, rfl, rfl, rfl⟩

theorem takeUp_does {action : Action Ip} (ran : shared.takeUp thread action = some outcome) :
    Does shared thread [] [] outcome := by
  unfold Shared.takeUp at ran
  split at ran
  · split at ran
    · cases ran
    · rename_i queue
      cases ran
      exact .popped rfl queue
  · split at ran
    · cases ran
    · rename_i pending
      cases ran
      exact .runs rfl rfl pending
  · obtain ⟨⟨isOpen, empty⟩, same⟩ := Option.ite_none_right_eq_some.mp ran
    cases same
    exact .closes rfl rfl isOpen (List.isEmpty_iff.mp empty)
  · cases ran

theorem advanceCancel_does {frame : Frame Ip} {choice : Choice Ip}
    (ran : shared.advanceCancel frame choice = some outcome) :
    Does shared thread rest [frame] outcome := by
  unfold Shared.advanceCancel at ran
  split at ran
  · rename_i token
    simp only at ran
    split at ran
    · rename_i cancelled
      cases ran
      exact .looks (.again cancelled)
    · rename_i cancelled
      cases ran
      exact .cancels (by simpa using cancelled)
  · rename_i token
    cases ran
    exact .swaps token
  · rename_i request token waiting
    obtain ⟨member, same⟩ := Option.ite_none_right_eq_some.mp ran
    cases same
    exact .notifies token member
  · rename_i token
    cases ran
    exact .looks (.notified token)
  · cases ran

theorem advanceRequest_does {frame : Frame Ip} {choice : Choice Ip}
    (named : frame.request = some request) (found : shared.operations request = some operation)
    (ran : shared.advanceRequest thread operation frame choice = some outcome) :
    Does shared thread rest [frame] outcome := by
  unfold Shared.advanceRequest at ran
  split at ran <;> first | cases named | cases ran
  · split at ran
    · rename_i unlinked
      cases ran
      exact .looks (.unlinked found unlinked)
    · rename_i token linked
      split at ran
      · rename_i cancelled
        cases ran
        exact .refuses found linked cancelled
      · rename_i cancelled
        cases ran
        exact .looks (.linked found linked (by simpa using cancelled))
  · obtain ⟨token, linked, same⟩ := Option.map_eq_some_iff.mp ran
    simp only at same
    split at same
    · rename_i cancelled
      cases same
      exact .invokes found linked cancelled
    · rename_i cancelled
      cases same
      exact .registers found linked (by simpa using cancelled)
  · rename_i registered
    split at ran
    · rename_i completed
      cases ran
      exact .looks (.unwanted registered found completed)
    · rename_i completed
      cases ran
      exact .installs registered found (by simpa using completed)
  · cases ran
    exact .discards found
  · cases ran
    cases completed : operation.completed with
    | true => exact .looks (.returned found completed)
    | false => exact .looks (.going found completed)
  · split at ran
    · rename_i addresses hit
      cases ran
      exact .hits addresses found
    · cases ran
      exact .looks (.missed found)
  · cases ran
    exact .enqueues found
  · rename_i result
    cases ran
    cases completed : operation.completed with
    | true => exact .looks (.late result found completed)
    | false => exact .looks (.timely result found completed)
  · rename_i result
    simp only at ran
    split at ran
    · rename_i isOpen
      cases ran
      exact .queues result found isOpen
    · rename_i closed
      cases ran
      exact .looks (.refused result found (by simpa using closed))
  · cases ran
    cases completed : operation.completed with
    | true =>
        rw [Shared.takeCallback, if_pos completed]
        exact .looks (.unneeded found completed)
    | false =>
        rw [Shared.takeCallback, if_neg (by simp [completed])]
        exact .abandons found completed
  · rename_i result
    cases ran
    cases completed : operation.completed with
    | true =>
        rw [Shared.takeCallback, if_pos completed]
        exact .looks (.superseded result found completed)
    | false =>
        rw [Shared.takeCallback, if_neg (by simp [completed])]
        exact .delivers result found completed
  · rename_i result
    cases ran
    exact .releases result found
  · rename_i result
    cases ran
    exact .calls result
  · cases ran
    exact .drops
  · cases ran
    exact .looks .called
  · cases ran
    exact .looks .dropped
  · cases ran
    cases completed : operation.completed with
    | true => exact .looks (.skipped found completed)
    | false => exact .looks (.fetched found completed)
  · rename_i addresses
    cases ran
    exact .answers _ found (remember_caches operation _ shared)

theorem advance_does {frame : Frame Ip} {choice : Choice Ip}
    (ran : shared.advance thread frame choice = some outcome) :
    Does shared thread rest [frame] outcome := by
  unfold Shared.advance at ran
  split at ran
  · exact advanceCancel_does ran
  · rename_i request named
    obtain ⟨operation, found, ran⟩ := Option.bind_eq_some_iff.mp ran
    exact advanceRequest_does named found ran

/-- A thread goes on with the call that it is in. -/
theorem advance_stepped {choice : Choice Ip} {frame : Frame Ip}
    (top : state.frames thread = frame :: rest)
    (ran : state.step (thread, .advance choice) = some next) :
    ∃ outcome, Stepped state next thread [frame] outcome rest := by
  simp only [State.step, top] at ran
  obtain ⟨outcome, went, same⟩ := Option.map_eq_some_iff.mp ran
  exact ⟨outcome, advance_does went, top, same.symm, by simp⟩

/-- Every step is one of these. -/
theorem step_cases {action : Action Ip} (ran : state.step (thread, action) = some next) :
    ∃ old outcome rest, Stepped state next thread old outcome rest := by
  have taken : ∀ {action : Action Ip}, (if (state.frames thread).isEmpty then
      (state.shared.takeUp thread action).map fun outcome => state.put thread [] outcome
      else none) = some next → ∃ old outcome rest, Stepped state next thread old outcome rest := by
    intro action ran
    obtain ⟨empty, ran⟩ := Option.ite_none_right_eq_some.mp ran
    obtain ⟨outcome, took, same⟩ := Option.map_eq_some_iff.mp ran
    exact ⟨[], outcome, [], takeUp_does took, List.isEmpty_iff.mp empty, same.symm, by simp⟩
  cases action with
  | user command =>
      obtain ⟨allowed, same⟩ := Option.ite_none_right_eq_some.mp ran
      cases same
      refine ⟨[], _, state.frames thread, user_does _ thread command, rfl, rfl, fun _ => .inr ?_⟩
      cases stack : state.frames thread with
      | nil => simp
      | cons frame rest => simpa [State.mayCall, stack] using allowed
  | advance choice =>
      cases stack : state.frames thread with
      | nil => simp [State.step, stack] at ran
      | cons frame rest =>
          obtain ⟨outcome, stepped⟩ := advance_stepped stack ran
          exact ⟨[frame], outcome, rest, stepped⟩
  | tick =>
      cases ran
      refine ⟨[], { shared := { state.shared with now := state.shared.now + 1 } },
        state.frames thread, .caches ⟨rfl, rfl, rfl, rfl, rfl⟩, rfl, ?_, fun _ => .inl rfl⟩
      simp [State.put]
  | pop | run | close => exact taken ran

end MiniTrantor.Net.Dns
