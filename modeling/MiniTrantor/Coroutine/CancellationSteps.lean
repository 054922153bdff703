import MiniTrantor.Coroutine.CallbackLife
import MiniTrantor.Custody

/-!
# Steps of cancellation

What a step can do, said once: the frames on top of a thread are replaced, at most one event
is told, and everything else follows from the event.
-/

set_option autoImplicit false

namespace MiniTrantor.Coroutine.Cancellation

variable {Address Failure : Type} [DecidableEq Address] {state next : State Address Failure}
  {thread : Thread}

/-- The frames that a step takes away and puts in their place, and what it tells. -/
inductive Does (state : State Address Failure) (thread : Thread) :
    List (Frame Address Failure) → List (Frame Address Failure) → List (Event Failure) → Prop where
  | quiet : Does state thread [] [] []
  | reset {id : Nat} {address : Address} (rest : After Address) :
      state.registrations address = some (some id) →
      Does state thread [] [.resetting id rest] []
  | called : Does state thread [] [.registering state.calls] [.called thread state.calls]
  | cancelling : Does state thread [] [.exchanging] []
  | refused (call : Nat) : state.cancelled = true →
      Does state thread [.registering call] [.invoking call] [.refused thread call]
  | registered (call : Nat) : state.cancelled = false →
      Does state thread [.registering call] [] [.registered thread call state.nextCallbackId]
  | invoked (call : Nat) :
      Does state thread [.invoking call] [.calling call] [.invoked thread call]
  | extracted (id : Nat) (rest : After Address) :
      Does state thread [.resetting id rest] [.releasing rest] [.extracted thread id]
  | late : state.cancelled = true → Does state thread [.exchanging] [] []
  | cancelled : state.cancelled = false →
      Does state thread [.exchanging] [.swapping] [.cancelled thread]
  | swapped : Does state thread [.swapping] [.notifying (state.callbacks.map Prod.snd) none]
      [.swapped thread]
  | notified {call : Nat} {rest : List Nat} (failure : Option Failure) : call ∈ rest →
      Does state thread [.notifying rest failure] [.notified call (rest.erase call) failure]
        [.invoked thread call]
  | endLoop (failure : Option Failure) :
      Does state thread [.notifying [] failure] [.discarding failure] []
  | returned (call : Nat) : Does state thread [.calling call] [] [.returned thread call]
  | threw (call : Nat) (failure : Failure) :
      Does state thread [.calling call] [] [.threw thread call failure]
  | passed (call : Nat) (rest : List Nat) (failure : Option Failure) :
      Does state thread [.notified call rest failure] [.notifying rest failure]
        [.returned thread call]
  | caught (call : Nat) (rest : List Nat) (first : Option Failure) (failure : Failure) :
      Does state thread [.notified call rest first] [.notifying rest (first.or (some failure))]
        [.threw thread call failure]
  | released (rest : After Address) : Does state thread [.releasing rest] [] []
  | completed (failure : Option Failure) :
      Does state thread [.discarding failure] [] [.completed thread failure]

omit [DecidableEq Address] in
theorem Does.short {old new : List (Frame Address Failure)} {events : List (Event Failure)}
    (does : Does state thread old new events) : events = [] ∨ ∃ event, events = [event] := by
  cases does <;> simp

def callbacksAfter (callbacks : List (Nat × Nat)) : Event Failure → List (Nat × Nat)
  | .registered _ call id => callbacks ++ [(id, call)]
  | .extracted _ id => callbacks.filter fun entry => entry.1 ≠ id
  | .swapped _ => []
  | _ => callbacks

def Event.isCancelled : Event Failure → Bool
  | .cancelled _ => true
  | _ => false

def Event.isRegistered : Event Failure → Bool
  | .registered .. => true
  | _ => false

def Event.isCalled : Event Failure → Bool
  | .called .. => true
  | _ => false

structure Stepped (state next : State Address Failure) (thread : Thread)
    (old new : List (Frame Address Failure)) (events : List (Event Failure)) : Prop where
  does : Does state thread old new events
  frames : ∃ rest, state.frames thread = old ++ rest ∧
    next.frames = Function.update state.frames thread (new ++ rest) ∧
    (old = [] → ∀ frame ∈ rest.head?, frame.user = true)
  trace : next.trace = state.trace ++ events
  callbacks : next.callbacks = events.foldl callbacksAfter state.callbacks
  cancelled : next.cancelled = (state.cancelled || events.any Event.isCancelled)
  calls : next.calls = state.calls + events.countP Event.isCalled
  nextCallbackId : next.nextCallbackId = state.nextCallbackId + events.countP Event.isRegistered
  registrations : ∀ address id, next.registrations address = some (some id) →
    (∃ held, state.registrations held = some (some id)) ∨
      ∃ call, events = [.registered thread call id]

/-- The identifiers of `registrations` are held by objects already. -/
def Known (state : State Address Failure) (registrations : Address → Option (Option Nat)) : Prop :=
  ∀ address id, registrations address = some (some id) →
    ∃ held, state.registrations held = some (some id)

omit [DecidableEq Address] in
theorem known_self (state : State Address Failure) : Known state state.registrations :=
  fun address _ held => ⟨address, held⟩

theorem Known.set {registrations : Address → Option (Option Nat)}
    (known : Known state registrations) (address : Address) {registration : Option (Option Nat)}
    (kept : ∀ id, registration = some (some id) →
      ∃ held, state.registrations held = some (some id)) :
    Known state (Function.update registrations address registration) := by
  intro other id held
  by_cases here : other = address
  · rw [here, Function.update_self] at held
    exact kept id held
  · rw [Function.update_of_ne here] at held
    exact known other id held

theorem after_known {rest : After Address} (ran : state.after rest = some next) :
    ∃ registrations, next = { state with registrations } ∧ Known state registrations := by
  cases rest with
  | nothing =>
      cases ran
      exact ⟨_, rfl, known_self state⟩
  | destroy address =>
      cases ran
      exact ⟨_, rfl, (known_self state).set address (by simp)⟩
  | assign target source =>
      obtain ⟨id, held, rfl⟩ := Option.map_eq_some_iff.mp ran
      refine ⟨_, rfl, ((known_self state).set target fun other same => ?_).set source (by simp)⟩
      rw [same] at held
      exact ⟨source, held⟩

namespace Stepped

variable {new : List (Frame Address Failure)}

omit [DecidableEq Address] in
/-- User code that changes objects only, or begins a call. -/
theorem user (does : Does state thread [] new [])
    (user : ∀ frame ∈ (state.frames thread).head?, frame.user = true)
    {registrations : Address → Option (Option Nat)} (known : Known state registrations) :
    Stepped state ({ state with registrations }.put thread (new ++ state.frames thread)) thread
      [] new [] where
  does
  frames := ⟨_, rfl, rfl, fun _ => user⟩
  trace := by simp [State.put]
  callbacks := rfl
  cancelled := by simp [State.put]
  calls := rfl
  nextCallbackId := rfl
  registrations address id held := .inl (known address id held)

omit [DecidableEq Address] in
theorem put_self (state : State Address Failure) : state.put thread (state.frames thread) = state := by
  simp [State.put]

theorem reset {address : Address} {rest : After Address}
    (user : ∀ frame ∈ (state.frames thread).head?, frame.user = true)
    (ran : state.reset thread address rest = some next) :
    ∃ new, Stepped state next thread [] new [] := by
  unfold State.reset at ran
  split at ran
  · rename_i id held
    cases ran
    exact ⟨_, Stepped.user (.reset rest held) user ((known_self state).set address (by simp))⟩
  · obtain ⟨registrations, rfl, known⟩ := after_known ran
    have stepped := Stepped.user .quiet user known
    rw [List.nil_append] at stepped
    exact ⟨[], (put_self { state with registrations } : _ = _) ▸ stepped⟩
  · cases ran

theorem command {command : Command Address}
    (user : ∀ frame ∈ (state.frames thread).head?, frame.user = true)
    (ran : state.user thread command = some next) :
    ∃ new events, Stepped state next thread [] new events := by
  have quiet : ∀ {registrations}, Known state registrations →
      ∃ new events, Stepped state { state with registrations } thread [] new events := by
    intro registrations known
    have stepped := Stepped.user .quiet user known
    rw [List.nil_append] at stepped
    exact ⟨[], [], (put_self { state with registrations } : _ = _) ▸ stepped⟩
  cases command with
  | create address =>
      obtain ⟨_, same⟩ := Option.ite_none_right_eq_some.mp ran
      cases same
      exact quiet ((known_self state).set address (by simp))
  | move source target =>
      obtain ⟨_, ran⟩ := Option.ite_none_right_eq_some.mp ran
      obtain ⟨registrations, rfl, known⟩ := after_known ran
      exact quiet known
  | assign target source =>
      simp only [State.user] at ran
      split at ran
      · cases ran
        exact quiet (known_self state)
      · obtain ⟨new, stepped⟩ := Stepped.reset user ran
        exact ⟨new, [], stepped⟩
  | reset address =>
      obtain ⟨new, stepped⟩ := Stepped.reset user ran
      exact ⟨new, [], stepped⟩
  | destroy address =>
      obtain ⟨new, stepped⟩ := Stepped.reset user ran
      exact ⟨new, [], stepped⟩
  | register =>
      cases ran
      exact ⟨_, _, .called, ⟨_, rfl, rfl, fun _ => user⟩, rfl, rfl, by simp [State.put, State.emit,
        Event.isCancelled], rfl, rfl, fun address id held => .inl ⟨address, held⟩⟩
  | cancel =>
      cases ran
      exact ⟨_, _, Stepped.user .cancelling user (known_self state)⟩

variable {old : List (Frame Address Failure)} {event : Event Failure}

omit [DecidableEq Address] in
/-- A step that replaces its frame and tells nothing. -/
theorem silent {top : Frame Address Failure} {stack : List (Frame Address Failure)}
    (does : Does state thread [top] new []) (frames : state.frames thread = top :: stack)
    {registrations : Address → Option (Option Nat)} (known : Known state registrations) :
    Stepped state ({ state with registrations }.put thread (new ++ stack)) thread [top] new [] where
  does
  frames := ⟨stack, frames, rfl, by simp⟩
  trace := by simp [State.put]
  callbacks := rfl
  cancelled := by simp [State.put]
  calls := rfl
  nextCallbackId := rfl
  registrations address id held := .inl (known address id held)

omit [DecidableEq Address] in
/-- A step that replaces its frame and tells an event. -/
theorem told {top : Frame Address Failure} {stack : List (Frame Address Failure)}
    (does : Does state thread [top] new [event]) (frames : state.frames thread = top :: stack)
    (nextFrames : next.frames = Function.update state.frames thread (new ++ stack))
    (trace : next.trace = state.trace ++ [event])
    (callbacks : next.callbacks = callbacksAfter state.callbacks event)
    (cancelled : next.cancelled = (state.cancelled || event.isCancelled))
    (calls : next.calls = state.calls) (call : event.isCalled = false)
    (ids : next.nextCallbackId = state.nextCallbackId + if event.isRegistered then 1 else 0)
    (registrations : ∀ address id, next.registrations address = some (some id) →
      (∃ held, state.registrations held = some (some id)) ∨
        ∃ call, event = .registered thread call id) :
    Stepped state next thread [top] new [event] where
  does
  frames := ⟨stack, frames, nextFrames, by simp⟩
  trace
  callbacks
  cancelled := by simpa using cancelled
  calls := by simpa [call] using calls
  nextCallbackId := by simpa [List.countP_singleton] using ids
  registrations address id held := by simpa using registrations address id held

end Stepped

/-- Every step is one of these. -/
theorem step_cases {action : Action Address Failure}
    (ran : state.step (thread, action) = some next) :
    ∃ old new events, Stepped state next thread old new events := by
  unfold State.step at ran
  simp only at ran
  split at ran
  · rename_i command empty
    obtain ⟨new, events, stepped⟩ := Stepped.command (by simp [empty]) ran
    exact ⟨[], new, events, stepped⟩
  · rename_i command frame stack top
    obtain ⟨user, ran⟩ := Option.ite_none_right_eq_some.mp ran
    obtain ⟨new, events, stepped⟩ := Stepped.command (by simpa [top] using user) ran
    exact ⟨[], new, events, stepped⟩
  · rename_i address call stack top
    split at ran
    · rename_i cancelled
      cases ran
      exact ⟨_, _, _, Stepped.told (.refused call cancelled) top rfl rfl rfl
        (by simp [State.put, State.emit, Event.isCancelled]) rfl rfl rfl
        fun address id held => .inl ⟨address, held⟩⟩
    · rename_i cancelled
      obtain ⟨_, ran⟩ := Option.ite_none_right_eq_some.mp ran
      cases ran
      refine ⟨_, _, _, Stepped.told (.registered call (by simpa using cancelled)) top rfl rfl rfl
        (by simp [State.put, State.emit, State.set, Event.isCancelled]) rfl rfl rfl
        fun other id held => ?_⟩
      by_cases here : other = address
      · simp only [State.emit, State.put, State.set, here, Function.update_self,
          Option.some.injEq] at held
        exact .inr ⟨call, by rw [held]⟩
      · simp only [State.emit, State.put, State.set, Function.update_of_ne here] at held
        exact .inl ⟨other, held⟩
  · rename_i call stack top
    cases ran
    exact ⟨_, _, _, Stepped.told (.invoked call) top rfl rfl rfl
      (by simp [State.put, State.emit, Event.isCancelled]) rfl rfl rfl
      fun address id held => .inl ⟨address, held⟩⟩
  · rename_i id rest stack top
    cases ran
    exact ⟨_, _, _, Stepped.told (.extracted id rest) top rfl rfl rfl
      (by simp [State.put, State.emit, Event.isCancelled]) rfl rfl rfl
      fun address id held => .inl ⟨address, held⟩⟩
  · rename_i stack top
    split at ran
    · rename_i cancelled
      cases ran
      exact ⟨_, _, _, Stepped.silent (.late cancelled) top (known_self state)⟩
    · rename_i cancelled
      cases ran
      exact ⟨_, _, _, Stepped.told (.cancelled (by simpa using cancelled)) top rfl rfl rfl
        (by simp [State.put, State.emit, Event.isCancelled]) rfl rfl rfl
        fun address id held => .inl ⟨address, held⟩⟩
  · rename_i stack top
    cases ran
    exact ⟨_, _, _, Stepped.told .swapped top rfl rfl rfl
      (by simp [State.put, State.emit, Event.isCancelled]) rfl rfl rfl
      fun address id held => .inl ⟨address, held⟩⟩
  · rename_i call rest failure stack top
    obtain ⟨member, ran⟩ := Option.ite_none_right_eq_some.mp ran
    cases ran
    exact ⟨_, _, _, Stepped.told (.notified failure member) top rfl rfl rfl
      (by simp [State.put, State.emit, Event.isCancelled]) rfl rfl rfl
      fun address id held => .inl ⟨address, held⟩⟩
  · rename_i failure stack top
    cases ran
    exact ⟨_, _, _, Stepped.silent (.endLoop failure) top (known_self state)⟩
  · rename_i address call stack top
    obtain ⟨_, ran⟩ := Option.ite_none_right_eq_some.mp ran
    cases ran
    exact ⟨_, _, _, Stepped.told (.returned call) top rfl rfl rfl
      (by simp [State.put, State.emit, State.set, Event.isCancelled]) rfl rfl rfl
      fun other id held => .inl ((known_self state).set address (by simp) other id held)⟩
  · rename_i address call rest failure stack top
    cases ran
    exact ⟨_, _, _, Stepped.told (.passed call rest failure) top rfl rfl rfl
      (by simp [State.put, State.emit, Event.isCancelled]) rfl rfl rfl
      fun address id held => .inl ⟨address, held⟩⟩
  · rename_i address rest stack top
    obtain ⟨registrations, rfl, known⟩ := after_known ran
    exact ⟨_, _, _, Stepped.silent (.released rest) top known⟩
  · rename_i address failure stack top
    cases ran
    exact ⟨_, _, _, Stepped.told (.completed failure) top rfl rfl rfl
      (by simp [State.put, State.emit, Event.isCancelled]) rfl rfl rfl
      fun address id held => .inl ⟨address, held⟩⟩
  · rename_i failure call stack top
    cases ran
    exact ⟨_, _, _, Stepped.told (.threw call failure) top rfl rfl rfl
      (by simp [State.put, State.emit, Event.isCancelled]) rfl rfl rfl
      fun address id held => .inl ⟨address, held⟩⟩
  · rename_i failure call rest first stack top
    cases ran
    exact ⟨_, _, _, Stepped.told (.caught call rest first failure) top rfl rfl rfl
      (by simp [State.put, State.emit, Event.isCancelled]) rfl rfl rfl
      fun address id held => .inl ⟨address, held⟩⟩
  · cases ran

end MiniTrantor.Coroutine.Cancellation
