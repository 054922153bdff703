import MiniTrantor.Net.Dns.Delivery

/-!
# Who is still in `resolve`

A request is in the hands of one call of `resolve` until that call has queued it for the
workers, posted a result for it or found it completed. The workers know of the requests that
were queued and of no others, so no worker answers a request that was served from the cache.
-/

set_option autoImplicit false

namespace MiniTrantor.Net.Dns

variable {Ip : Type} {thread : Thread} {request : Nat}

/-- The request that a call of `resolve` has not passed on yet. -/
def Frame.resolves : Frame Ip → Option Nat
  | .starting request | .registering request | .installing request _ | .discarding request
  | .checking request | .looking request | .enqueueing request => some request
  | _ => none

/-- The request that a worker has. -/
def Frame.works : Frame Ip → Option Nat
  | .fetched request | .resolving request => some request
  | _ => none

def Frame.callers (thread : Thread) (frame : Frame Ip) : List (Nat × Option Thread) :=
  frame.resolves.toList.map fun request => (request, some thread)

theorem Frame.callers_holder (thread : Thread) (frame : Frame Ip) (request : Nat)
    (caller : Option Thread) (member : (request, caller) ∈ frame.callers thread) :
    id caller = some thread := by
  obtain ⟨_, _, same⟩ := List.mem_map.mp member
  exact (Prod.mk.inj same).2.symm

section Steps

variable {shared : Shared Ip} {state next : State Ip} {old rest : List (Frame Ip)}
  {outcome : Outcome Ip}

/-- What a step does with the request that it is called for. -/
inductive Passes (shared : Shared Ip) (thread : Thread) (old : List (Frame Ip))
    (outcome : Outcome Ip) : Prop where
  | elsewhere : Custody.marked Frame.callers thread old = [] →
      Custody.marked Frame.callers thread outcome.frames = [] →
      (∀ request, .enqueued request ∉ outcome.events) → Passes shared thread old outcome
  | begun (request : Nat) : old = [] → shared.operations request = none →
      Custody.marked Frame.callers thread outcome.frames = [(request, some thread)] →
      (∀ other, .enqueued other ∉ outcome.events) →
      (∃ operation, outcome.shared.operations request = some operation) →
      Passes shared thread old outcome
  | goesOn (request : Nat) : Custody.marked Frame.callers thread old = [(request, some thread)] →
      Custody.marked Frame.callers thread outcome.frames = [(request, some thread)] →
      (∀ other, .enqueued other ∉ outcome.events) → Passes shared thread old outcome
  | passed (request : Nat) : Custody.marked Frame.callers thread old = [(request, some thread)] →
      Custody.marked Frame.callers thread outcome.frames = [] →
      (∀ other, .enqueued other ∈ outcome.events → other = request) →
      Passes shared thread old outcome

theorem Does.passes (does : Does shared thread rest old outcome) (dense : shared.Dense) :
    Passes shared thread old outcome := by
  cases does with
  | resolve hostname port callbackHandle token =>
      exact .begun shared.requests rfl ((dense _).mp le_rfl) rfl (by simp [Shared.user])
        ⟨_, Function.update_self _ _ _⟩
  | looks looks =>
      cases looks with
      | @unlinked request | @linked request | @going request | @missed request =>
          exact .goesOn request rfl rfl (by simp)
      | @unwanted request _ registered =>
          exact .goesOn request rfl (by cases registered <;> rfl) (by simp)
      | @returned request => exact .passed request rfl rfl (by simp)
      | _ => exact .elsewhere rfl rfl (by simp)
  | @refuses request | @hits request => exact .passed request rfl rfl (by simp [Shared.post])
  | @enqueues request => exact .passed request rfl rfl (by simp)
  | @invokes request => exact .goesOn request rfl rfl (by simp [Shared.post])
  | @registers request | @installs request | @discards request =>
      exact .goesOn request rfl rfl (by simp)
  | abandons | delivers =>
      refine .elsewhere rfl ?_ (by simp [Shared.settle])
      unfold Shared.settle
      split <;> rfl
  | answers | notifies => exact .elsewhere rfl rfl (by simp [Shared.post])
  | _ => exact .elsewhere rfl rfl (by simp)

/-- What a worker takes on is in the queue, or the worker has it already. -/
theorem Does.works (does : Does shared thread rest old outcome) {frame : Frame Ip}
    (member : frame ∈ outcome.frames) (works : frame.works = some request) :
    request ∈ shared.requestQueue ∨ ∃ frame ∈ old, frame.works = some request := by
  cases does with
  | popped _ waiting =>
      cases List.mem_singleton.mp member
      cases works
      exact .inl (waiting ▸ List.mem_cons_self)
  | looks looks =>
      cases looks with
      | fetched =>
          cases List.mem_singleton.mp member
          exact .inr ⟨_, List.mem_cons_self, works⟩
      | unwanted registered =>
          split at member <;> cases List.mem_singleton.mp member <;> cases works
      | unlinked | linked | going | missed | timely | refused =>
          cases List.mem_singleton.mp member
          cases works
      | _ => cases member
  | abandons | delivers =>
      unfold Shared.settle at member
      split at member <;> cases List.mem_singleton.mp member <;> cases works
  | invokes | notifies =>
      rcases List.mem_cons.mp member with rfl | member
      · cases works
      · cases List.mem_singleton.mp member
        cases works
  | resolve | cancel | runs | refuses | registers | installs | discards | hits | releases | calls
  | drops | answers | cancels | swaps =>
      cases List.mem_singleton.mp member
      cases works
  | _ => cases member

/-- Each request is with one call of `resolve` at most, which has not queued it yet, and what
is in the queue or with a worker was queued. -/
structure Resolving (state : State Ip) : Prop where
  sound : Sound state
  callers : ∃ callers : Nat → Option Thread,
    Custody.InStep Frame.callers id state.frames callers ∧
      ∀ request, callers request ≠ none →
        (∃ operation, state.shared.operations request = some operation) ∧
          .enqueued request ∉ state.trace
  known : ∀ request, .enqueued request ∈ state.trace →
    ∃ operation, state.shared.operations request = some operation
  queue : ∀ request ∈ state.shared.requestQueue, .enqueued request ∈ state.trace
  workers : ∀ thread, ∀ frame ∈ state.frames thread, ∀ request,
    frame.works = some request → .enqueued request ∈ state.trace

theorem Resolving.start : Resolving ({} : State Ip) where
  sound := .start
  callers := ⟨fun _ => none, .start fun _ => rfl, fun _ calls => absurd rfl calls⟩
  known := by simp
  queue := by simp
  workers := by simp

theorem Does.queued (does : Does shared thread rest [.enqueueing request] outcome) :
    .enqueued request ∈ outcome.events := by
  cases does with
  | looks looks => cases looks
  | enqueues => exact List.mem_singleton_self _

theorem caller_of_top {callers : Nat → Option Thread}
    (inStep : Custody.InStep Frame.callers id state.frames callers)
    (top : state.frames thread = old ++ rest)
    (calls : Custody.marked Frame.callers thread old = [(request, some thread)]) :
    callers request = some thread := by
  refine (inStep.exact thread request (some thread) rfl).mp ?_
  rw [top, Custody.marked, List.flatMap_append]
  refine List.mem_append_left _ ?_
  rw [show old.flatMap (Frame.callers thread) = _ from calls]
  exact List.mem_singleton_self _

theorem Resolving.passed (resolving : Resolving state)
    (stepped : Stepped state next thread old outcome rest) :
    ∃ callers : Nat → Option Thread, Custody.InStep Frame.callers id next.frames callers ∧
      ∀ request, callers request ≠ none →
        (∃ operation, next.shared.operations request = some operation) ∧
          .enqueued request ∉ next.trace := by
  obtain ⟨callers, inStep, calls⟩ := resolving.callers
  have top := stepped.top
  have own := @Frame.callers_holder Ip
  have known : ∀ {request}, (∃ operation, state.shared.operations request = some operation) →
      ∃ later, next.shared.operations request = some later := by
    intro request before
    obtain ⟨operation, found⟩ := before
    obtain ⟨later, held, _⟩ := stepped.does.follows resolving.sound.dense found
    exact ⟨later, by rw [stepped.shared]; exact held⟩
  have unqueued : ∀ {request}, callers request ≠ none → .enqueued request ∉ outcome.events →
      .enqueued request ∉ next.trace := by
    intro request is fresh listed
    rw [stepped.trace] at listed
    exact (List.mem_append.mp listed).elim (calls request is).2 fresh
  rw [stepped.frames]
  cases stepped.does.passes resolving.sound.dense with
  | elsewhere before after fresh =>
      refine ⟨callers, inStep.none own top before after fun _ => .inl rfl, fun request is => ?_⟩
      exact ⟨known (calls request is).1, unqueued is (fresh request)⟩
  | begun request same new after fresh found =>
      subst same
      have free : callers request = none := by
        by_contra is
        obtain ⟨_, held⟩ := (calls request is).1
        cases new.symm.trans held
      refine ⟨Function.update callers request (some thread), inStep.one own top request
        (fun other differs => Function.update_of_ne differs _ _) (fun other caller differs => ?_)
        (.inl free) (fun caller member => ?_) (fun absent => ?_) ?_, fun other is => ?_⟩
      · rw [after]
        simp [Custody.marked, differs]
      · rw [after] at member
        cases List.mem_singleton.mp member
        exact Function.update_self _ _ _
      · rw [after] at absent
        simp at absent
      · rw [after]
        exact List.nodup_singleton _
      · by_cases this : other = request
        · subst this
          refine ⟨by rw [stepped.shared]; exact found, fun listed => ?_⟩
          rw [stepped.trace] at listed
          obtain earlier | now := List.mem_append.mp listed
          · obtain ⟨_, held⟩ := resolving.known other earlier
            cases new.symm.trans held
          · exact fresh other now
        · rw [Function.update_of_ne this] at is
          exact ⟨known (calls other is).1, unqueued is (fresh other)⟩
  | goesOn request before after fresh =>
      have mine := caller_of_top inStep top before
      refine ⟨callers, inStep.single own top before (.inl (by rw [after, mine])) fun _ _ => rfl,
        fun other is => ⟨known (calls other is).1, unqueued is (fresh other)⟩⟩
  | passed request before after fresh =>
      refine ⟨Function.update callers request none, inStep.single own top before
        (.inr ⟨after, Function.update_self _ _ _⟩)
        fun other differs => Function.update_of_ne differs _ _, fun other is => ?_⟩
      by_cases this : other = request
      · subst this
        exact absurd (Function.update_self _ _ _) is
      · rw [Function.update_of_ne this] at is
        exact ⟨known (calls other is).1, unqueued is fun listed => this (fresh other listed)⟩

theorem Resolving.kept (resolving : Resolving state)
    (stepped : Stepped state next thread old outcome rest) : Resolving next := by
  have sound := resolving.sound.kept stepped
  have earlier : ∀ {request}, .enqueued request ∈ state.trace → .enqueued request ∈ next.trace := by
    intro request listed
    rw [stepped.trace]
    exact List.mem_append_left _ listed
  refine ⟨sound, resolving.passed stepped, fun request listed => ?_, fun request member => ?_,
    fun holder frame member request works => ?_⟩
  · have known : ∃ operation, state.shared.operations request = some operation := by
      rw [stepped.trace] at listed
      obtain before | now := List.mem_append.mp listed
      · exact resolving.known request before
      · cases stepped.does.passes resolving.sound.dense with
        | elsewhere _ _ fresh | begun _ _ _ _ fresh | goesOn _ _ _ fresh =>
            exact absurd now (fresh request)
        | passed other before _ only =>
            cases only request now
            obtain ⟨callers, inStep, calls⟩ := resolving.callers
            have mine := caller_of_top inStep stepped.top before
            exact (calls request (by rw [mine]; simp)).1
    obtain ⟨operation, found⟩ := known
    obtain ⟨later, held, _⟩ := stepped.does.follows resolving.sound.dense found
    exact ⟨later, by rw [stepped.shared]; exact held⟩
  · rw [stepped.shared] at member
    obtain before | same := stepped.does.requestQueue member
    · exact earlier (resolving.queue request before)
    · have queues := stepped.does
      rw [same] at queues
      rw [stepped.trace]
      exact List.mem_append_right _ queues.queued
  · have stays : frame ∈ state.frames holder → .enqueued request ∈ next.trace :=
      fun listed => earlier (resolving.workers holder frame listed request works)
    rw [stepped.frames] at member
    by_cases mine : holder = thread
    · subst mine
      rw [Function.update_self] at member
      obtain new | below := List.mem_append.mp member
      · obtain queued | ⟨first, listed, has⟩ := stepped.does.works new works
        · exact earlier (resolving.queue request queued)
        · refine earlier (resolving.workers holder first ?_ request has)
          rw [stepped.top]
          exact List.mem_append_left _ listed
      · refine stays ?_
        rw [stepped.top]
        exact List.mem_append_right _ below
    · rw [Function.update_of_ne mine] at member
      exact stays member

/-- No call of `resolve` has the request any more, and it was not queued for the workers. -/
structure Served (request : Nat) (state : State Ip) : Prop where
  known : ∃ operation, state.shared.operations request = some operation
  unqueued : .enqueued request ∉ state.trace
  returned : ∀ thread, ∀ frame ∈ state.frames thread, frame.resolves ≠ some request

theorem Served.kept (served : Served request state) (resolving : Resolving state)
    (stepped : Stepped state next thread old outcome rest) : Served request next := by
  obtain ⟨operation, found⟩ := served.known
  obtain ⟨later, held, _⟩ := stepped.does.follows resolving.sound.dense found
  have unmarked : ∀ {frames : List (Frame Ip)}, (request, some thread) ∈
      Custody.marked Frame.callers thread frames ↔ ∃ frame ∈ frames, frame.resolves = some request := by
    intro frames
    simp [Custody.marked, Frame.callers]
  -- a call of `resolve` takes up a request that is not known yet
  have calls : (∃ frame ∈ outcome.frames, frame.resolves = some request) →
      ∃ frame ∈ old, frame.resolves = some request := by
    simp only [← unmarked]
    intro now
    cases stepped.does.passes resolving.sound.dense with
    | elsewhere _ after | passed _ _ after => simp [after] at now
    | begun other _ new after =>
        rw [after] at now
        cases List.mem_singleton.mp now
        cases new.symm.trans found
    | goesOn other before after => rwa [before, ← after]
  have mine : ∀ frame ∈ old, frame.resolves ≠ some request := by
    intro frame listed
    refine served.returned thread frame ?_
    rw [stepped.top]
    exact List.mem_append_left _ listed
  refine ⟨⟨later, by rw [stepped.shared]; exact held⟩, fun listed => ?_,
    fun holder frame member has => ?_⟩
  · rw [stepped.trace] at listed
    obtain before | now := List.mem_append.mp listed
    · exact served.unqueued before
    · cases stepped.does.passes resolving.sound.dense with
      | elsewhere _ _ fresh | begun _ _ _ _ fresh | goesOn _ _ _ fresh => exact fresh request now
      | passed other before _ only =>
          cases only request now
          obtain ⟨frame, listed, has⟩ := unmarked.mp (before ▸ List.mem_singleton_self _)
          exact mine frame listed has
  · rw [stepped.frames] at member
    by_cases here : holder = thread
    · subst here
      rw [Function.update_self] at member
      obtain new | below := List.mem_append.mp member
      · obtain ⟨first, listed, also⟩ := calls ⟨frame, new, has⟩
        exact mine first listed also
      · refine served.returned holder frame ?_ has
        rw [stepped.top]
        exact List.mem_append_right _ below
    · rw [Function.update_of_ne here] at member
      exact served.returned holder frame member has

/-- A call that has found the addresses of its request is done with it. -/
theorem Resolving.served (resolving : Resolving state) {operation : Operation}
    {addresses : List (Ip × Nat)}
    (stepped : Stepped state next thread [.looking request]
      (state.shared.post request (.ok addresses) []) rest)
    (found : state.shared.operations request = some operation) : Served request next := by
  obtain ⟨callers, inStep, calls⟩ := resolving.callers
  have top := stepped.top
  have own := @Frame.callers_holder Ip
  have busy : Custody.marked Frame.callers thread [(.looking request : Frame Ip)] =
      [(request, some thread)] := rfl
  have mine := caller_of_top inStep top busy
  have after : Custody.InStep Frame.callers id next.frames (Function.update callers request none) := by
    rw [stepped.frames]
    exact inStep.single own top busy (.inr ⟨rfl, Function.update_self _ _ _⟩)
      fun other differs => Function.update_of_ne differs _ _
  refine ⟨⟨operation, by rw [stepped.shared]; exact found⟩, fun listed => ?_,
    fun holder frame member has => ?_⟩
  · rw [stepped.trace] at listed
    obtain before | now := List.mem_append.mp listed
    · exact (calls request (by rw [mine]; simp)).2 before
    · simp [Shared.post] at now
  · have marked : (request, some holder) ∈
        Custody.marked Frame.callers holder (next.frames holder) := by
      simp only [Custody.marked, Frame.callers, List.mem_flatMap, List.mem_map, Option.mem_toList]
      exact ⟨frame, member, request, has, rfl⟩
    have busy := (after.exact holder request (some holder) rfl).mp marked
    rw [Function.update_self] at busy
    cases busy

end Steps

end MiniTrantor.Net.Dns
