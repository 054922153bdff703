import MiniTrantor.Net.Dns.Delivery

/-!
# Requests that are cancelled before they begin

All that is ever posted for a request whose token was cancelled before `resolve` is that it
was cancelled. It does not get into the queue of the workers or into the map of its token.
-/

set_option autoImplicit false

namespace MiniTrantor.Net.Dns

variable {Ip : Type}

namespace Event

def request : Event Ip → Option Nat
  | .resolve request | .posted request _ | .enqueued request | .queued request _
  | .settled _ request _ | .invoked _ request _ | .abandoned _ request => some request
  | .cancelled _ | .closed _ => none

variable {request : Nat}

def OnlyCancelled (request : Nat) : Event Ip → Prop
  | .enqueued other => other ≠ request
  | .posted other result | .queued other result | .settled _ other (some result)
  | .invoked _ other result => other = request → result = .error .cancelled
  | _ => True

theorem onlyCancelled_of_other {event : Event Ip} (other : event.request ≠ some request) :
    event.OnlyCancelled request := by
  cases event with
  | enqueued place => simpa [Event.request, OnlyCancelled] using other
  | posted | queued | invoked =>
      intro same
      exact absurd (congrArg some same) other
  | settled _ _ result =>
      cases result with
      | none => trivial
      | some result =>
          intro same
          exact absurd (congrArg some same) other
  | _ => trivial

end Event

variable {thread : Thread} {request : Nat}

namespace Frame

def OnlyCancelled (request : Nat) : Frame Ip → Prop
  | .registering other | .installing other _ | .discarding other | .checking other
  | .looking other | .enqueueing other | .fetched other | .resolving other => other ≠ request
  | .posting other result | .queueing other result | .delivering other result
  | .releasing other (some result) | .taken other (some result) =>
      other = request → result = .error .cancelled
  | .notifying _ waiting => request ∉ waiting
  | _ => True

/-- A frame that does not know of a request. -/
theorem onlyCancelled_of_unknown {shared : Shared Ip} {frame : Frame Ip}
    (sound : frame.Sound shared thread) (unknown : shared.operations request = none) :
    frame.OnlyCancelled request := by
  have differs : ∀ {other operation}, shared.operations other = some operation →
      other ≠ request := by
    rintro other operation found rfl
    cases unknown.symm.trans found
  cases frame with
  | registering other =>
      obtain ⟨_, found, _⟩ := sound
      exact differs found
  | delivering other result =>
      obtain ⟨_, found, _⟩ := sound
      exact fun same => absurd same (differs found)
  | notifying token waiting =>
      intro member
      obtain ⟨_, found⟩ := sound request member
      exact differs found rfl
  | posting other | queueing other =>
      obtain ⟨_, found⟩ := sound other rfl
      exact fun same => absurd same (differs found)
  | releasing other result | taken other result =>
      obtain ⟨_, found⟩ := sound other rfl
      cases result with
      | none => trivial
      | some result => exact fun same => absurd same (differs found)
  | installing other | discarding other | checking other | looking other | enqueueing other
  | fetched other | resolving other =>
      obtain ⟨_, found⟩ := sound other rfl
      exact differs found
  | _ => trivial

end Frame

structure OnlyCancelled (request : Nat) (state : State Ip) : Prop where
  token : ∃ operation token, state.shared.operations request = some operation ∧
    operation.token = some token ∧ (state.shared.sources token).cancelled = true
  frames : ∀ thread, ∀ frame ∈ state.frames thread, frame.OnlyCancelled request
  requestQueue : request ∉ state.shared.requestQueue
  callbacks : ∀ token, request ∉ (state.shared.sources token).callbacks
  pending : ∀ loop result, (request, result) ∈ (state.shared.loops loop).pending →
    result = .error .cancelled
  trace : ∀ event ∈ state.trace, event.OnlyCancelled request

section Steps

variable {shared : Shared Ip} {state next : State Ip} {old rest : List (Frame Ip)}
  {outcome : Outcome Ip} {operation : Operation} {token : Token}

theorem looks_onlyCancelled {frame new : Frame Ip} {frames : List (Frame Ip)}
    (looks : Looks shared frame frames) (found : shared.operations request = some operation)
    (linked : operation.token = some token) (cancelled : (shared.sources token).cancelled = true)
    (before : frame.OnlyCancelled request) (member : new ∈ frames) : new.OnlyCancelled request := by
  cases looks with
  | @unlinked other first held unlinked =>
      cases List.mem_singleton.mp member
      rintro rfl
      cases held.symm.trans found
      cases unlinked.symm.trans linked
  | @linked other first place held linked' unset =>
      cases List.mem_singleton.mp member
      rintro rfl
      cases held.symm.trans found
      cases linked'.symm.trans linked
      cases unset.symm.trans cancelled
  | unwanted registered =>
      split at member <;> cases List.mem_singleton.mp member <;> exact before
  | going | missed | timely | fetched =>
      cases List.mem_singleton.mp member
      exact before
  | refused =>
      cases List.mem_singleton.mp member
      trivial
  | _ => cases member

namespace Does

variable (does : Does shared thread rest old outcome)
  (found : shared.operations request = some operation) (linked : operation.token = some token)
  (cancelled : (shared.sources token).cancelled = true)
include does

include found linked cancelled in
theorem onlyCancelled (before : ∀ frame ∈ old, frame.OnlyCancelled request)
    (queue : request ∉ shared.requestQueue)
    (callbacks : ∀ token, request ∉ (shared.sources token).callbacks)
    (pending : ∀ loop result, (request, result) ∈ (shared.loops loop).pending →
      result = .error .cancelled) :
    (∀ frame ∈ outcome.frames, frame.OnlyCancelled request) ∧
      ∀ event ∈ outcome.events, event.OnlyCancelled request := by
  cases does with
  | looks looks =>
      exact ⟨fun frame member =>
        looks_onlyCancelled looks found linked cancelled (before _ List.mem_cons_self) member,
        by simp⟩
  | caches | closes => exact ⟨by simp, by simp [Event.OnlyCancelled]⟩
  | resolve | cancel | cancels | drops =>
      exact ⟨by simp [Shared.user, Frame.OnlyCancelled],
        by simp [Shared.user, Event.OnlyCancelled]⟩
  | @popped other waiting alone whole =>
      refine ⟨?_, by simp⟩
      have differs : other ≠ request := by
        rintro rfl
        exact queue (by rw [whole]; exact List.mem_cons_self)
      simpa [Frame.OnlyCancelled] using differs
  | @runs other loop result waiting alone owner whole =>
      refine ⟨?_, by simp⟩
      have only : other = request → result = .error .cancelled := by
        rintro rfl
        exact pending loop result (by rw [whole]; exact List.mem_cons_self)
      simpa [Frame.OnlyCancelled] using only
  | refuses =>
      exact ⟨by simp [Shared.post, Frame.OnlyCancelled], by simp [Shared.post, Event.OnlyCancelled]⟩
  | invokes =>
      have differs := before _ List.mem_cons_self
      exact ⟨by simpa [Shared.post, Frame.OnlyCancelled] using differs,
        by simp [Shared.post, Event.OnlyCancelled]⟩
  | registers | installs | discards =>
      have differs := before _ List.mem_cons_self
      exact ⟨by simpa [Frame.OnlyCancelled] using differs, by simp⟩
  | hits | answers =>
      have differs := before _ List.mem_cons_self
      simp only [Frame.OnlyCancelled] at differs
      exact ⟨by simp [Shared.post, Frame.OnlyCancelled, differs],
        by simp [Shared.post, Event.OnlyCancelled, differs]⟩
  | enqueues =>
      have differs := before _ List.mem_cons_self
      exact ⟨by simp, by simpa [Event.OnlyCancelled, Frame.OnlyCancelled] using differs⟩
  | queues =>
      have only := before _ List.mem_cons_self
      exact ⟨by simp, by simpa [Event.OnlyCancelled, Frame.OnlyCancelled] using only⟩
  | abandons =>
      refine ⟨fun frame member => ?_, by simp [Shared.settle, Event.OnlyCancelled]⟩
      simp only [Shared.settle] at member
      split at member <;> cases List.mem_singleton.mp member <;> trivial
  | delivers =>
      have only := before _ List.mem_cons_self
      refine ⟨fun frame member => ?_, by simpa [Shared.settle, Event.OnlyCancelled, Frame.OnlyCancelled] using only⟩
      simp only [Shared.settle] at member
      split at member <;> cases List.mem_singleton.mp member <;> exact only
  | @releases other _ result =>
      have only := before _ List.mem_cons_self
      refine ⟨fun frame member => ?_, by simp⟩
      cases List.mem_singleton.mp member
      cases result <;> exact only
  | calls =>
      have only := before _ List.mem_cons_self
      exact ⟨by simp [Frame.OnlyCancelled], by simpa [Event.OnlyCancelled, Frame.OnlyCancelled] using only⟩
  | swaps => exact ⟨by simpa [Frame.OnlyCancelled] using callbacks _, by simp⟩
  | notifies =>
      have absent := before _ List.mem_cons_self
      simp only [Frame.OnlyCancelled] at absent
      refine ⟨?_, by simp [Shared.post, Event.OnlyCancelled]⟩
      simpa [Shared.post, Frame.OnlyCancelled] using fun member => absent (List.mem_of_mem_erase member)

omit does in
include found linked cancelled in
theorem onlyCancelled_token (does : Does shared thread rest old outcome) (dense : shared.Dense) :
    ∃ operation token, outcome.shared.operations request = some operation ∧
      operation.token = some token ∧ (outcome.shared.sources token).cancelled = true := by
  obtain ⟨later, held, follows⟩ := does.follows dense found
  exact ⟨later, token, held, follows.token.trans linked, by rw [does.cancelled, cancelled]; rfl⟩

end Does

theorem OnlyCancelled.kept (only : OnlyCancelled request state) (sound : Sound state)
    (stepped : Stepped state next thread old outcome rest) : OnlyCancelled request next := by
  obtain ⟨does, top, rfl⟩ := stepped
  obtain ⟨operation, token, found, linked, cancelled⟩ := only.token
  have before : ∀ frame ∈ old, frame.OnlyCancelled request := by
    intro frame member
    refine only.frames thread frame ?_
    rw [top]
    exact List.mem_append_left _ member
  obtain ⟨frames, events⟩ := does.onlyCancelled found linked cancelled before
    only.requestQueue only.callbacks only.pending
  refine ⟨Does.onlyCancelled_token found linked cancelled does sound.dense,
    fun holder frame member => ?_, fun member => ?_, fun place member => ?_,
    fun loop result member => ?_, fun event member => ?_⟩
  · by_cases mine : holder = thread
    · subst mine
      simp only [State.put, Function.update_self] at member
      obtain new | stays := List.mem_append.mp member
      · exact frames frame new
      · refine only.frames holder frame ?_
        rw [top]
        exact List.mem_append_right _ stays
    · simp only [State.put, Function.update_of_ne mine] at member
      exact only.frames holder frame member
  · obtain same | rfl := does.requestQueue member
    · exact only.requestQueue same
    · exact before _ List.mem_cons_self rfl
  · obtain same | ⟨rfl, _⟩ := does.callbacks member
    · exact only.callbacks place same
    · exact before _ List.mem_cons_self rfl
  · obtain same | ⟨rfl, _⟩ := does.pending member
    · exact only.pending loop result same
    · exact before _ List.mem_cons_self rfl
  · obtain old | new := List.mem_append.mp member
    · exact only.trace event old
    · exact events event new

/-- The events are about requests that are there. -/
def Heard (state : State Ip) : Prop :=
  ∀ event ∈ state.trace, ∀ request, event.request = some request →
    ∃ operation, state.shared.operations request = some operation

theorem Heard.kept (heard : Heard state) (sound : Sound state)
    (stepped : Stepped state next thread old outcome rest) : Heard next := by
  obtain ⟨does, top, rfl⟩ := stepped
  intro event member request named
  have known : ∀ {request}, (∃ operation, state.shared.operations request = some operation) →
      ∃ later, outcome.shared.operations request = some later := by
    intro request before
    obtain ⟨operation, found⟩ := before
    obtain ⟨later, held, _⟩ := does.follows sound.dense found
    exact ⟨later, held⟩
  obtain old | new := List.mem_append.mp member
  · exact known (heard event old request named)
  · have above : ∀ {frame}, old = [frame] → frame.Sound state.shared thread := by
      rintro frame rfl
      exact sound.frames thread frame (by rw [top]; exact List.mem_cons_self)
    cases does with
    | resolve =>
        cases List.mem_singleton.mp new
        cases named
        exact ⟨_, Function.update_self _ _ _⟩
    | refuses found | invokes found | hits _ found | answers _ found | enqueues found
    | queues _ found | abandons found | delivers _ found =>
        cases List.mem_singleton.mp new
        cases named
        exact known ⟨_, found⟩
    | calls | drops =>
        cases List.mem_singleton.mp new
        cases named
        exact known (above rfl _ rfl)
    | @notifies other token waiting listed =>
        cases List.mem_singleton.mp new
        cases named
        exact known (above rfl _ listed)
    | closes | cancels =>
        cases List.mem_singleton.mp new
        cases named
    | _ => cases new

/-- A request that begins after its token was cancelled. -/
theorem OnlyCancelled.begins (sound : Sound state) (heard : Heard state)
    (stepped : Stepped state next thread old outcome rest)
    (unknown : state.shared.operations request = none)
    (found : next.shared.operations request = some operation)
    (linked : operation.token = some token)
    (cancelled : (state.shared.sources token).cancelled = true) : OnlyCancelled request next := by
  obtain ⟨does, top, rfl⟩ := stepped
  obtain ⟨_, rfl, hostname, port, loop, link, rfl, rfl⟩ := does.begins unknown found
  have frames : ∀ holder, ∀ frame ∈ state.frames holder, frame.OnlyCancelled request :=
    fun holder frame member => Frame.onlyCancelled_of_unknown (sound.frames holder frame member) unknown
  refine ⟨⟨_, token, found, linked, cancelled⟩, fun holder frame member => ?_, fun member => ?_,
    fun place member => ?_, fun place result member => ?_, fun event member => ?_⟩
  · by_cases mine : holder = thread
    · subst mine
      simp only [State.put, Function.update_self] at member
      obtain new | stays := List.mem_append.mp member
      · cases List.mem_singleton.mp new
        trivial
      · exact frames holder frame (by rw [top]; exact stays)
    · simp only [State.put, Function.update_of_ne mine] at member
      exact frames holder frame member
  · obtain ⟨_, same⟩ := sound.requestQueue request member
    cases unknown.symm.trans same
  · obtain ⟨_, same⟩ := sound.callbacks place request member
    cases unknown.symm.trans same
  · obtain ⟨_, same, _⟩ := sound.pending place _ member
    cases unknown.symm.trans same
  · obtain old | new := List.mem_append.mp member
    · refine Event.onlyCancelled_of_other fun named => ?_
      obtain ⟨_, same⟩ := heard event old request named
      cases unknown.symm.trans same
    · cases List.mem_singleton.mp new
      trivial

/-- Requests that began after their token was cancelled. -/
def PreCancelled (state : State Ip) : Prop :=
  ∀ before request after operation token, state.trace = before ++ .resolve request :: after →
    state.shared.operations request = some operation → operation.token = some token →
    .cancelled token ∈ before → OnlyCancelled request state

theorem PreCancelled.kept (preCancelled : PreCancelled state) (sound : Sound state)
    (heard : Heard state) (stepped : Stepped state next thread old outcome rest) :
    PreCancelled next := by
  intro before request after operation token split found linked cancelled
  rw [stepped.trace] at split
  rw [stepped.shared] at found
  cases earlier : state.shared.operations request with
  | none =>
      have late : .cancelled token ∈ state.trace := by
        obtain ⟨_, _, _, _, _, _, _, rfl⟩ := stepped.does.begins earlier found
        obtain ⟨rfl, _⟩ | ⟨middle, _, same⟩ := Trace.split_snoc split
        · exact cancelled
        · obtain ⟨_, known⟩ := heard (.resolve request) (by rw [same]; simp) request rfl
          cases earlier.symm.trans known
      exact .begins sound heard stepped earlier (stepped.shared ▸ found) linked
        ((sound.cancelled token).mpr late)
  | some first =>
      have quiet : .resolve request ∉ outcome.events := by
        intro new
        have unknown := (sound.dense state.shared.requests).mp le_rfl
        cases stepped.does <;> simp [Shared.user, Shared.settle, Shared.post] at new
        subst new
        cases earlier.symm.trans unknown
      obtain ⟨middle, _, same⟩ := Trace.split_append split quiet
      obtain ⟨later, held, follows⟩ := stepped.does.follows sound.dense earlier
      cases found.symm.trans held
      exact (preCancelled before request middle first token same earlier
        (follows.token.symm.trans linked) cancelled).kept sound stepped

end Steps

end MiniTrantor.Net.Dns
