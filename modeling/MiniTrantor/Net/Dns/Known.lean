import MiniTrantor.Net.Dns.Moves

/-!
# Requests that are known

What is fixed in a request, what the frames of a thread know of it, and the loops that are
closed for good.
-/

set_option autoImplicit false

namespace MiniTrantor.Net.Dns

variable {Ip : Type} {state next : State Ip} {shared : Shared Ip} {thread : Thread}
  {old rest : List (Frame Ip)} {outcome : Outcome Ip} {operation : Operation} {request : Nat}

def Event.settles (request : Nat) : Event Ip → Bool
  | .settled _ other _ => other = request
  | _ => false

def Event.closes (loop : LoopId) : Event Ip → Bool
  | .closed other => other = loop
  | _ => false

def Event.cancels (token : Token) : Event Ip → Bool
  | .cancelled other => other = token
  | _ => false

/-- What a step leaves of a request. -/
structure Follows (events : List (Event Ip)) (request : Nat) (operation later : Operation) :
    Prop where
  callbackHandle : later.callbackHandle = operation.callbackHandle
  token : later.token = operation.token
  completed : later.completed = (operation.completed || events.any (Event.settles request))

namespace Shared

@[simp] theorem setOperation_operations (request : Nat) (operation : Operation)
    (shared : Shared Ip) : (shared.setOperation request operation).operations =
      Function.update shared.operations request (some operation) := rfl

@[simp] theorem setOperation_requests (request : Nat) (operation : Operation)
    (shared : Shared Ip) : (shared.setOperation request operation).requests = shared.requests := rfl

@[simp] theorem setOperation_sources (request : Nat) (operation : Operation)
    (shared : Shared Ip) : (shared.setOperation request operation).sources = shared.sources := rfl

@[simp] theorem setOperation_loops (request : Nat) (operation : Operation)
    (shared : Shared Ip) : (shared.setOperation request operation).loops = shared.loops := rfl

@[simp] theorem setOperation_requestQueue (request : Nat) (operation : Operation)
    (shared : Shared Ip) :
    (shared.setOperation request operation).requestQueue = shared.requestQueue := rfl

@[simp] theorem setSource_operations (token : Token) (source : Source) (shared : Shared Ip) :
    (shared.setSource token source).operations = shared.operations := rfl

@[simp] theorem setSource_requests (token : Token) (source : Source) (shared : Shared Ip) :
    (shared.setSource token source).requests = shared.requests := rfl

@[simp] theorem setSource_sources (token : Token) (source : Source) (shared : Shared Ip) :
    (shared.setSource token source).sources = Function.update shared.sources token source := rfl

@[simp] theorem setSource_loops (token : Token) (source : Source) (shared : Shared Ip) :
    (shared.setSource token source).loops = shared.loops := rfl

@[simp] theorem setSource_requestQueue (token : Token) (source : Source) (shared : Shared Ip) :
    (shared.setSource token source).requestQueue = shared.requestQueue := rfl

@[simp] theorem setLoop_operations (loop : LoopId) (value : Loop Ip) (shared : Shared Ip) :
    (shared.setLoop loop value).operations = shared.operations := rfl

@[simp] theorem setLoop_requests (loop : LoopId) (value : Loop Ip) (shared : Shared Ip) :
    (shared.setLoop loop value).requests = shared.requests := rfl

@[simp] theorem setLoop_sources (loop : LoopId) (value : Loop Ip) (shared : Shared Ip) :
    (shared.setLoop loop value).sources = shared.sources := rfl

@[simp] theorem setLoop_loops (loop : LoopId) (value : Loop Ip) (shared : Shared Ip) :
    (shared.setLoop loop value).loops = Function.update shared.loops loop value := rfl

@[simp] theorem setLoop_requestQueue (loop : LoopId) (value : Loop Ip) (shared : Shared Ip) :
    (shared.setLoop loop value).requestQueue = shared.requestQueue := rfl

@[simp] theorem unregister_operations (request : Nat) (operation : Operation)
    (shared : Shared Ip) : (shared.unregister request operation).operations = shared.operations := by
  unfold unregister
  split <;> rfl

@[simp] theorem unregister_requests (request : Nat) (operation : Operation) (shared : Shared Ip) :
    (shared.unregister request operation).requests = shared.requests := by
  unfold unregister
  split <;> rfl

@[simp] theorem unregister_loops (request : Nat) (operation : Operation) (shared : Shared Ip) :
    (shared.unregister request operation).loops = shared.loops := by
  unfold unregister
  split <;> rfl

@[simp] theorem unregister_requestQueue (request : Nat) (operation : Operation)
    (shared : Shared Ip) :
    (shared.unregister request operation).requestQueue = shared.requestQueue := by
  unfold unregister
  split <;> rfl

theorem unregister_callbacks {operation : Operation} (token : Token) (shared : Shared Ip) :
    ((shared.unregister request operation).sources token).callbacks =
      if operation.token = some token then
        (shared.sources token).callbacks.filter (· ≠ request)
      else (shared.sources token).callbacks := by
  unfold unregister
  cases linked : operation.token with
  | none => simp
  | some other =>
      by_cases same : other = token
      · simp [same]
      · simp [same, Function.update_of_ne (Ne.symm same)]

theorem unregister_cancelled (operation : Operation) (token : Token) (shared : Shared Ip) :
    ((shared.unregister request operation).sources token).cancelled =
      (shared.sources token).cancelled := by
  unfold unregister
  cases operation.token with
  | none => rfl
  | some other =>
      by_cases same : other = token
      · simp [same]
      · simp [Function.update_of_ne (Ne.symm same)]

end Shared

/-- The requests are those with a number below the next one. -/
def Shared.Dense (shared : Shared Ip) : Prop :=
  ∀ request, shared.requests ≤ request ↔ shared.operations request = none

namespace Does

variable (does : Does shared thread rest old outcome)
include does

theorem follows (dense : shared.Dense) (found : shared.operations request = some operation) :
    ∃ later, outcome.shared.operations request = some later ∧
      Follows outcome.events request operation later := by
  cases does with
  | caches agree =>
      exact ⟨operation, by simpa [agree.operations] using found, rfl, rfl, by simp⟩
  | answers result _ agree =>
      exact ⟨operation, by simpa [agree.operations, Shared.post] using found, rfl, rfl,
        by simp [Shared.post, Event.settles]⟩
  | resolve hostname port callbackHandle token =>
      have differs : request ≠ shared.requests := by
        rintro rfl
        rw [(dense _).mp le_rfl] at found
        cases found
      exact ⟨operation, by simpa [Shared.user, differs] using found, rfl, rfl,
        by simp [Shared.user, Event.settles]⟩
  | @installs other before registered held _ =>
      by_cases same : request = other
      · subst same
        cases held.symm.trans found
        exact ⟨_, Function.update_self _ _ _, rfl, rfl, by simp⟩
      · exact ⟨operation, by simpa [same] using found, rfl, rfl, by simp⟩
  | @abandons other before held fresh =>
      by_cases same : request = other
      · subst same
        cases held.symm.trans found
        exact ⟨_, Function.update_self _ _ _, rfl, rfl, by simp [Shared.settle, Event.settles]⟩
      · exact ⟨operation, by simpa [Shared.settle, same] using found, rfl, rfl,
          by simp [Shared.settle, Event.settles, Ne.symm same]⟩
  | @delivers other before result held fresh =>
      by_cases same : request = other
      · subst same
        cases held.symm.trans found
        exact ⟨_, Function.update_self _ _ _, rfl, rfl, by simp [Shared.settle, Event.settles]⟩
      · exact ⟨operation, by simpa [Shared.settle, same] using found, rfl, rfl,
          by simp [Shared.settle, Event.settles, Ne.symm same]⟩
  | _ =>
      exact ⟨operation, by simpa [Shared.post] using found, rfl, rfl,
        by simp [Shared.post, Event.settles]⟩

theorem dense (before : shared.Dense) : outcome.shared.Dense := by
  cases does with
  | caches agree =>
      intro other
      simpa [agree.operations, agree.requests] using before other
  | answers result _ agree =>
      intro other
      simpa [agree.operations, agree.requests, Shared.post] using before other
  | resolve =>
      intro other
      by_cases same : other = shared.requests
      · simp [Shared.user, same]
      · simp only [Shared.user, Shared.setOperation_operations, Function.update_of_ne same,
          ← before other]
        omega
  | installs registered held | abandons held | delivers result held =>
      intro other
      rename_i request operation fresh
      by_cases same : other = request
      · subst same
        simpa [Shared.settle, held] using before other
      · simpa [Shared.settle, same] using before other
  | _ =>
      intro other
      simpa [Shared.post] using before other

theorem isOpen (loop : LoopId) : (outcome.shared.loops loop).isOpen =
    ((shared.loops loop).isOpen && !outcome.events.any (Event.closes loop)) := by
  cases does with
  | caches agree => simp [agree.loops]
  | answers result _ agree => simp [agree.loops, Shared.post, Event.closes]
  | @runs _ other =>
      by_cases same : loop = other
      · subst same
        simp
      · simp [same]
  | @closes other =>
      by_cases same : loop = other
      · subst same
        simp [Event.closes]
      · simp [Event.closes, same, Ne.symm same]
  | @queues _ operation =>
      by_cases same : loop = operation.callbackHandle
      · subst same
        simp [Event.closes]
      · simp [Event.closes, same]
  | _ => simp [Shared.user, Shared.settle, Shared.post, Event.closes]

theorem cancelled (token : Token) : (outcome.shared.sources token).cancelled =
    ((shared.sources token).cancelled || outcome.events.any (Event.cancels token)) := by
  cases does with
  | caches agree => simp [agree.sources]
  | answers result _ agree => simp [agree.sources, Shared.post, Event.cancels]
  | @registers _ _ other =>
      by_cases same : token = other
      · subst same
        simp
      · simp [same]
  | swaps other =>
      by_cases same : token = other
      · subst same
        simp
      · simp [same]
  | @cancels other =>
      by_cases same : token = other
      · subst same
        simp [Event.cancels]
      · simp [Event.cancels, same, Ne.symm same]
  | discards | releases => simp [Shared.unregister_cancelled]
  | _ => simp [Shared.user, Shared.settle, Shared.post, Event.cancels]

end Does

namespace Does

variable (does : Does shared thread rest old outcome)
include does

/-- A request that was not there is one that begins. -/
theorem begins (unknown : shared.operations request = none)
    (found : outcome.shared.operations request = some operation) :
    request = shared.requests ∧ old = [] ∧ ∃ hostname port callbackLoop token,
      operation = { hostname, port, callbackHandle := callbackLoop, token } ∧
        outcome = shared.user (.resolve hostname port callbackLoop token) := by
  cases does with
  | caches agree | answers _ _ agree =>
      cases unknown.symm.trans (agree.operations ▸ found)
  | resolve hostname port callbackHandle token =>
      by_cases same : request = shared.requests
      · subst same
        simp only [Shared.user, Shared.setOperation_operations, Function.update_self,
          Option.some.injEq] at found
        exact ⟨rfl, rfl, hostname, port, callbackHandle, token, found.symm, rfl⟩
      · simp [Shared.user, same, unknown] at found
  | @installs other before registered held | @abandons other before held
  | @delivers other before result held =>
      have differs : request ≠ other := by
        rintro rfl
        cases unknown.symm.trans held
      simp [Shared.settle, differs, unknown] at found
  | discards | releases => simp [unknown] at found
  | _ => cases unknown.symm.trans found

/-- Where a request in the queue comes from. -/
theorem requestQueue (member : request ∈ outcome.shared.requestQueue) :
    request ∈ shared.requestQueue ∨ old = [.enqueueing request] := by
  cases does with
  | caches agree | answers _ _ agree => exact .inl (agree.requestQueue ▸ member)
  | popped _ queue => exact .inl (queue ▸ List.mem_cons_of_mem _ member)
  | @enqueues other =>
      obtain before | last := List.mem_append.mp member
      · exact .inl before
      · exact .inr (by rw [List.mem_singleton.mp last])
  | discards | releases => exact .inl (by simpa using member)
  | _ => exact .inl member

/-- Where a callback in the map of a source comes from. -/
theorem callbacks {token : Token} (member : request ∈ (outcome.shared.sources token).callbacks) :
    request ∈ (shared.sources token).callbacks ∨
      old = [.registering request] ∧ outcome.frames = [.installing request true] ∧
        ∃ operation, shared.operations request = some operation ∧ operation.token = some token ∧
          (shared.sources token).cancelled = false := by
  cases does with
  | caches agree | answers _ _ agree => exact .inl (agree.sources ▸ member)
  | @registers other operation place found linked unset =>
      by_cases same : token = place
      · subst same
        simp only [Shared.setSource_sources, Function.update_self] at member
        obtain before | last := List.mem_append.mp member
        · exact .inl before
        · cases List.mem_singleton.mp last
          exact .inr ⟨rfl, rfl, operation, found, linked, unset⟩
      · exact .inl (by simpa [same] using member)
  | @cancels place =>
      by_cases same : token = place
      · subst same
        exact .inl (by simpa using member)
      · exact .inl (by simpa [same] using member)
  | swaps place =>
      by_cases same : token = place
      · subst same
        simp at member
      · exact .inl (by simpa [same] using member)
  | discards | releases =>
      rw [Shared.unregister_callbacks] at member
      split at member
      · exact .inl (List.mem_of_mem_filter member)
      · exact .inl member
  | _ => exact .inl member

/-- Where a delivery that a loop was handed comes from. -/
theorem pending {loop : LoopId} {result : ResolveResult Ip}
    (member : (request, result) ∈ (outcome.shared.loops loop).pending) :
    (request, result) ∈ (shared.loops loop).pending ∨
      old = [.queueing request result] ∧ ∃ operation,
        shared.operations request = some operation ∧ operation.callbackHandle = loop ∧
          (shared.loops loop).isOpen = true := by
  cases does with
  | caches agree | answers _ _ agree => exact .inl (agree.loops ▸ member)
  | @runs _ place _ _ _ _ waiting =>
      by_cases same : loop = place
      · subst same
        simp only [Shared.setLoop_loops, Function.update_self] at member
        exact .inl (waiting ▸ List.mem_cons_of_mem _ member)
      · exact .inl (by simpa [same] using member)
  | @closes place =>
      by_cases same : loop = place
      · subst same
        exact .inl (by simpa using member)
      · exact .inl (by simpa [same] using member)
  | @queues other operation delivery found isOpen =>
      by_cases same : loop = operation.callbackHandle
      · subst same
        simp only [Shared.setLoop_loops, Function.update_self] at member
        obtain before | last := List.mem_append.mp member
        · exact .inl before
        · cases List.mem_singleton.mp last
          exact .inr ⟨rfl, operation, found, rfl, isOpen⟩
      · exact .inl (by simpa [same] using member)
  | discards | releases => exact .inl (by simpa using member)
  | _ => exact .inl member

/-- A delivery that waits keeps its place, moves up by one or is taken up. -/
theorem waits {loop : LoopId} {entry : Nat × ResolveResult Ip}
    {before after : List (Nat × ResolveResult Ip)}
    (place : (shared.loops loop).pending = before ++ entry :: after) :
    (∃ after, (outcome.shared.loops loop).pending = before ++ entry :: after) ∨
      (thread = .owner loop ∧ old = []) ∧
        (before = [] ∧ outcome.frames = [.delivering entry.1 entry.2] ∨
          ∃ first ahead after, before = first :: ahead ∧
            (outcome.shared.loops loop).pending = ahead ++ entry :: after) := by
  cases does with
  | caches agree | answers _ _ agree => exact .inl ⟨after, by simpa [agree.loops, Shared.post]⟩
  | @runs request other result waiting alone owner pending =>
      by_cases same : loop = other
      · subst same
        refine .inr ⟨⟨owner, rfl⟩, ?_⟩
        rw [pending] at place
        cases before with
        | nil =>
            cases (List.cons.inj place).1
            exact .inl ⟨rfl, rfl⟩
        | cons first ahead =>
            refine .inr ⟨first, ahead, after, rfl, ?_⟩
            simpa using (List.cons.inj place).2
      · exact .inl ⟨after, by simpa [same] using place⟩
  | @closes other =>
      by_cases same : loop = other
      · subst same
        exact .inl ⟨after, by simpa using place⟩
      · exact .inl ⟨after, by simpa [same] using place⟩
  | @queues request operation result =>
      by_cases same : loop = operation.callbackHandle
      · subst same
        exact .inl ⟨after ++ [(request, result)], by simp [place]⟩
      · exact .inl ⟨after, by simpa [same] using place⟩
  | discards | releases => exact .inl ⟨after, by simpa using place⟩
  | _ => exact .inl ⟨after, place⟩

theorem closes_empty {loop : LoopId} (closes : outcome.events.any (Event.closes loop) = true) :
    (shared.loops loop).pending = [] ∧ rest = [] ∧ old = [] ∧ thread = .owner loop ∧
      outcome.frames = [] := by
  cases does with
  | closes alone owner _ empty =>
      have same := by simpa [Event.closes] using closes
      subst same
      exact ⟨empty, alone, rfl, owner, rfl⟩
  | _ => simp [Shared.user, Shared.settle, Shared.post, Event.closes] at closes

end Does

/-- What the thread that has a frame knows of its request. -/
def Frame.Sound (shared : Shared Ip) (thread : Thread) : Frame Ip → Prop
  | .registering request =>
      ∃ operation, shared.operations request = some operation ∧ operation.token ≠ none
  | .abandoning request => ∃ operation, shared.operations request = some operation ∧
      (shared.loops operation.callbackHandle).isOpen = false
  | .delivering request _ => ∃ operation, shared.operations request = some operation ∧
      thread = .owner operation.callbackHandle ∧
      (shared.loops operation.callbackHandle).isOpen = true
  | .exchanging _ | .swapping _ => True
  | .notifying _ waiting => ∀ request ∈ waiting, ∃ operation,
      shared.operations request = some operation
  | frame => ∀ request ∈ frame.request, ∃ operation, shared.operations request = some operation

structure Sound (state : State Ip) : Prop where
  dense : state.shared.Dense
  frames : ∀ thread, ∀ frame ∈ state.frames thread, frame.Sound state.shared thread
  requestQueue : ∀ request ∈ state.shared.requestQueue, ∃ operation,
    state.shared.operations request = some operation
  callbacks : ∀ token, ∀ request ∈ (state.shared.sources token).callbacks, ∃ operation,
    state.shared.operations request = some operation
  pending : ∀ loop, ∀ entry ∈ (state.shared.loops loop).pending, ∃ operation,
    state.shared.operations entry.1 = some operation ∧ operation.callbackHandle = loop
  empty : ∀ loop, (state.shared.loops loop).isOpen = false →
    (state.shared.loops loop).pending = []
  closed : ∀ loop, (state.shared.loops loop).isOpen = false ↔ .closed loop ∈ state.trace
  cancelled : ∀ token, (state.shared.sources token).cancelled = true ↔
    .cancelled token ∈ state.trace

theorem Sound.start : Sound ({} : State Ip) where
  dense := by simp [Shared.Dense]
  frames := by simp
  requestQueue := by simp
  callbacks := by simp
  pending := by simp
  empty := by simp
  closed := by simp
  cancelled := by simp

namespace Does

/-- A frame that stays is as sound as before. A thread that closes a loop has no frames. -/
theorem frame_sound (does : Does shared thread rest old outcome) (dense : shared.Dense)
    {holder : Thread} {frame : Frame Ip} (sound : frame.Sound shared holder)
    (stays : holder = thread → frame ∈ rest) : frame.Sound outcome.shared holder := by
  have known : ∀ {request operation}, shared.operations request = some operation →
      ∃ later, outcome.shared.operations request = some later ∧
        Follows outcome.events request operation later := by
    intro request operation found
    exact does.follows dense found
  cases frame with
  | registering request =>
      obtain ⟨operation, found, linked⟩ := sound
      obtain ⟨later, held, follows⟩ := known found
      exact ⟨later, held, by rwa [follows.token]⟩
  | abandoning request =>
      obtain ⟨operation, found, closed⟩ := sound
      obtain ⟨later, held, follows⟩ := known found
      exact ⟨later, held, by rw [follows.callbackHandle, does.isOpen, closed]; rfl⟩
  | delivering request result =>
      obtain ⟨operation, found, mine, isOpen⟩ := sound
      obtain ⟨later, held, follows⟩ := known found
      refine ⟨later, held, by rwa [follows.callbackHandle], ?_⟩
      rw [follows.callbackHandle, does.isOpen, isOpen, Bool.true_and, Bool.not_eq_true',
        List.any_eq_false]
      intro event member closes
      cases event <;> simp only [Event.closes, Bool.false_eq_true, decide_eq_true_eq] at closes
      cases does <;> simp [Shared.user, Shared.settle, Shared.post] at member
      rename_i alone owner _ _
      subst member closes alone owner
      exact List.not_mem_nil (stays mine)
  | exchanging | swapping => trivial
  | notifying token waiting =>
      intro request member
      obtain ⟨operation, found⟩ := sound request member
      obtain ⟨later, held, _⟩ := known found
      exact ⟨later, held⟩
  | _ =>
      intro request member
      obtain ⟨operation, found⟩ := sound request member
      obtain ⟨later, held, _⟩ := known found
      exact ⟨later, held⟩

/-- What a frame was replaced by is sound. -/
theorem looks_sound {frame new : Frame Ip} {frames : List (Frame Ip)}
    (looks : Looks shared frame frames) (member : new ∈ frames) : new.Sound shared thread := by
  cases looks with
  | @linked request operation token found linked =>
      cases List.mem_singleton.mp member
      exact ⟨operation, found, by simp [linked]⟩
  | @refused request operation result found closed =>
      cases List.mem_singleton.mp member
      exact ⟨operation, found, closed⟩
  | @unwanted request operation registered found =>
      have sound : ∀ other ∈ some request, ∃ operation,
          shared.operations other = some operation := by
        rintro other ⟨⟩
        exact ⟨operation, found⟩
      split at member <;> cases List.mem_singleton.mp member <;> exact sound
  | @unlinked request operation found | @going request operation found
  | @missed request operation found | @fetched request operation found
  | @timely request operation result found =>
      cases List.mem_singleton.mp member
      rintro other ⟨⟩
      exact ⟨operation, found⟩
  | _ => cases member

theorem new_sound (does : Does state.shared thread rest old outcome) (sound : Sound state)
    (before : ∀ frame ∈ old, frame.Sound state.shared thread) {frame : Frame Ip}
    (member : frame ∈ outcome.frames) : frame.Sound outcome.shared thread := by
  have known : ∀ {request operation}, state.shared.operations request = some operation →
      ∃ later, outcome.shared.operations request = some later := by
    intro request operation found
    obtain ⟨later, held, _⟩ := does.follows sound.dense found
    exact ⟨later, held⟩
  cases does with
  | caches | closes | enqueues | queues => cases member
  | resolve =>
      cases List.mem_singleton.mp member
      rintro other ⟨⟩
      exact ⟨_, Function.update_self _ _ _⟩
  | cancel | cancels =>
      cases List.mem_singleton.mp member
      trivial
  | @popped request waiting alone queue =>
      cases List.mem_singleton.mp member
      rintro other ⟨⟩
      exact sound.requestQueue request (by rw [queue]; exact List.mem_cons_self)
  | @runs request loop result pending alone owner waiting =>
      cases List.mem_singleton.mp member
      obtain ⟨operation, found, rfl⟩ :=
        sound.pending loop (request, result) (by rw [waiting]; exact List.mem_cons_self)
      refine ⟨operation, found, owner, ?_⟩
      simp only [Shared.setLoop_loops, Function.update_self]
      by_contra closed
      rw [sound.empty _ (by simpa using closed)] at waiting
      cases waiting
  | looks looks => exact looks_sound looks member
  | @refuses request operation token found =>
      cases List.mem_singleton.mp member
      rintro other ⟨⟩
      exact ⟨operation, found⟩
  | @invokes request operation token found =>
      obtain rfl | last := List.mem_cons.mp member
      · rintro other ⟨⟩
        exact ⟨operation, found⟩
      · cases List.mem_singleton.mp last
        rintro other ⟨⟩
        exact ⟨operation, found⟩
  | @registers request operation token found =>
      cases List.mem_singleton.mp member
      rintro other ⟨⟩
      exact ⟨operation, found⟩
  | @installs request operation registered found
  | @discards request operation found | @hits request operation addresses found
  | @releases request operation result found | @answers request operation later result found =>
      cases List.mem_singleton.mp member
      rintro other ⟨⟩
      exact known found
  | @abandons request operation found | @delivers request operation result found =>
      have settled : ∀ other ∈ some request, ∃ later, (state.shared.settle thread request operation
          none).shared.operations other = some later := by
        rintro other ⟨⟩
        exact ⟨_, Function.update_self _ _ _⟩
      simp only [Shared.settle] at member
      split at member <;> cases List.mem_singleton.mp member <;> exact settled
  | @calls request result =>
      cases List.mem_singleton.mp member
      exact before (.taken request (some result)) List.mem_cons_self
  | @drops request =>
      cases List.mem_singleton.mp member
      exact before (.taken request none) List.mem_cons_self
  | swaps token =>
      cases List.mem_singleton.mp member
      exact sound.callbacks token
  | @notifies request token waiting listed =>
      have all := before _ List.mem_cons_self
      obtain rfl | last := List.mem_cons.mp member
      · rintro other ⟨⟩
        exact all request listed
      · cases List.mem_singleton.mp last
        exact fun other later => all other (List.mem_of_mem_erase later)

end Does

theorem Sound.kept (sound : Sound state) (stepped : Stepped state next thread old outcome rest) :
    Sound next := by
  obtain ⟨does, top, rfl⟩ := stepped
  have below : ∀ {holder frame}, frame ∈ state.frames holder →
      (holder = thread → frame ∈ rest) → frame.Sound outcome.shared holder := by
    intro holder frame member stays
    exact does.frame_sound sound.dense (sound.frames holder frame member) stays
  have known : ∀ {request}, (∃ operation, state.shared.operations request = some operation) →
      ∃ later, outcome.shared.operations request = some later := by
    intro request before
    obtain ⟨operation, found⟩ := before
    obtain ⟨later, held, _⟩ := does.follows sound.dense found
    exact ⟨later, held⟩
  refine ⟨does.dense sound.dense, fun holder frame member => ?_, fun request member => known ?_,
    fun token request member => known ?_, fun loop entry member => ?_, fun loop closed => ?_,
    fun loop => ?_, fun token => ?_⟩
  · by_cases mine : holder = thread
    · subst mine
      simp only [State.put, Function.update_self] at member
      obtain new | stays := List.mem_append.mp member
      · refine does.new_sound sound (fun frame member => sound.frames holder frame ?_) new
        rw [top]
        exact List.mem_append_left _ member
      · refine below ?_ fun _ => stays
        rw [top]
        exact List.mem_append_right _ stays
    · simp only [State.put, Function.update_of_ne mine] at member
      exact below member fun same => absurd same mine
  · obtain before | rfl := does.requestQueue member
    · exact sound.requestQueue request before
    · exact sound.frames thread (.enqueueing request)
        (by rw [top]; exact List.mem_cons_self) request rfl
  · obtain before | ⟨_, _, operation, found, _⟩ := does.callbacks member
    · exact sound.callbacks token request before
    · exact ⟨operation, found⟩
  · obtain before | ⟨_, operation, found, mine, _⟩ := does.pending member
    · obtain ⟨operation, found, mine⟩ := sound.pending loop entry before
      obtain ⟨later, held, follows⟩ := does.follows sound.dense found
      exact ⟨later, held, by rw [follows.callbackHandle, mine]⟩
    · obtain ⟨later, held, follows⟩ := does.follows sound.dense found
      exact ⟨later, held, by rw [follows.callbackHandle, mine]⟩
  · refine List.eq_nil_iff_forall_not_mem.mpr fun entry member => ?_
    simp only [State.put, does.isOpen, Bool.and_eq_false_iff, Bool.not_eq_false'] at closed
    obtain before | ⟨queueing, operation, found, _, isOpen⟩ := does.pending member
    · obtain closed | closes := closed
      · rw [sound.empty loop closed] at before
        cases before
      · rw [(does.closes_empty closes).1] at before
        cases before
    · obtain closed | closes := closed
      · rw [isOpen] at closed
        cases closed
      · cases queueing.symm.trans (does.closes_empty closes).2.2.1
  · simp only [State.put, does.isOpen, List.mem_append, ← sound.closed loop, Bool.and_eq_false_iff,
      Bool.not_eq_false', List.any_eq_true]
    refine or_congr Iff.rfl ⟨fun closes => ?_, fun member => ⟨_, member, by simp [Event.closes]⟩⟩
    obtain ⟨event, member, closes⟩ := closes
    cases event <;> simp [Event.closes] at closes
    rwa [← closes]
  · simp only [State.put, does.cancelled, List.mem_append, ← sound.cancelled token,
      Bool.or_eq_true, List.any_eq_true]
    refine or_congr Iff.rfl ⟨fun cancels => ?_, fun member => ⟨_, member, by simp [Event.cancels]⟩⟩
    obtain ⟨event, member, cancels⟩ := cancels
    cases event <;> simp [Event.cancels] at cancels
    rwa [← cancels]

end MiniTrantor.Net.Dns
