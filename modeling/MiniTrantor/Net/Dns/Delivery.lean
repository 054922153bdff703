import MiniTrantor.Custody
import MiniTrantor.Net.Dns.Known

/-!
# Deliveries

The results that were queued for a request and not delivered yet are with its loop, in order.
What a trace says about a request: its callback is taken once, by the delivery that was queued
first or since the loop is closed, and the thread that took it invokes it or drops it.
-/

set_option autoImplicit false

namespace MiniTrantor.Net.Dns

variable {Ip : Type} {thread : Thread} {request : Nat}

section Phases

variable {trace : List (Event Ip)} {event : Event Ip}

inductive Phase (Ip : Type) where
  | waiting
  /-- The callback is with the thread that took it, for a result or to be dropped. -/
  | taken (thread : Thread) (result : Option (ResolveResult Ip))
  | ended (thread : Thread) (result : Option (ResolveResult Ip))
  /-- An event came out of turn. -/
  | broken

namespace Phase

/-- The thread that has the callback. -/
def holder : Phase Ip → Option Thread
  | .taken thread _ => some thread
  | _ => none

def next (request : Nat) (phase : Phase Ip) : Event Ip → Phase Ip
  | .settled thread other result =>
      if other = request then
        match phase with
        | .waiting => .taken thread result
        | _ => .broken
      else phase
  | .invoked thread other result =>
      if other = request then
        match phase with
        | .taken holder (some _) => if holder = thread then .ended thread (some result) else .broken
        | _ => .broken
      else phase
  | .abandoned thread other =>
      if other = request then
        match phase with
        | .taken holder none => if holder = thread then .ended thread none else .broken
        | _ => .broken
      else phase
  | _ => phase

/-- How many times the callback was invoked or dropped. -/
def outcomes : Phase Ip → Nat
  | .ended .. => 1
  | _ => 0

end Phase

def phase (request : Nat) (trace : List (Event Ip)) : Phase Ip :=
  trace.foldl (Phase.next request) .waiting

theorem phase_snoc (request : Nat) (trace : List (Event Ip)) (event : Event Ip) :
    phase request (trace ++ [event]) = (phase request trace).next request event := by
  rw [phase, List.foldl_append]
  rfl

/-- The callback is invoked or dropped. -/
def Event.decides (request : Nat) : Event Ip → Bool
  | .invoked _ other _ | .abandoned _ other => other = request
  | _ => false

def outcomes (request : Nat) (trace : List (Event Ip)) : Nat :=
  trace.countP (Event.decides request)

/-- The events that a request can meet in a phase. -/
inductive Turn (request : Nat) : Phase Ip → Event Ip → Phase Ip → Prop where
  | settled (thread : Thread) (result : Option (ResolveResult Ip)) :
      Turn request .waiting (.settled thread request result) (.taken thread result)
  | invoked (thread : Thread) (first result : ResolveResult Ip) :
      Turn request (.taken thread (some first)) (.invoked thread request result)
        (.ended thread (some result))
  | abandoned (thread : Thread) :
      Turn request (.taken thread none) (.abandoned thread request) (.ended thread none)
  | other {phase : Phase Ip} {event : Event Ip} : event.decides request = false →
      event.settles request = false → Turn request phase event phase

theorem Phase.turn {before : Phase Ip} (legal : before.next request event ≠ .broken) :
    Turn request before event (before.next request event) := by
  cases event with
  | settled thread other result =>
      by_cases same : other = request
      · subst same
        cases before with
        | waiting => simpa [next] using Turn.settled thread result
        | _ => simp [next] at legal
      · simpa [next, same] using
          Turn.other rfl (by simpa [Event.settles] using same)
  | invoked thread other result =>
      by_cases same : other = request
      · subst same
        cases before with
        | taken holder taken =>
            cases taken with
            | none => simp [next] at legal
            | some first =>
                by_cases mine : holder = thread
                · subst mine
                  simpa [next] using Turn.invoked holder first result
                · simp [next, mine] at legal
        | _ => simp [next] at legal
      · simpa [next, same] using
          Turn.other (by simpa [Event.decides] using same) rfl
  | abandoned thread other =>
      by_cases same : other = request
      · subst same
        cases before with
        | taken holder taken =>
            cases taken with
            | some first => simp [next] at legal
            | none =>
                by_cases mine : holder = thread
                · subst mine
                  simpa [next] using Turn.abandoned holder
                · simp [next, mine] at legal
        | _ => simp [next] at legal
      · simpa [next, same] using
          Turn.other (by simpa [Event.decides] using same) rfl
  | _ => exact Turn.other rfl rfl

theorem phase_init (legal : phase request (trace ++ [event]) ≠ .broken) :
    phase request trace ≠ .broken ∧
      Turn request (phase request trace) event (phase request (trace ++ [event])) := by
  rw [phase_snoc] at legal ⊢
  refine ⟨fun broken => legal ?_, Phase.turn legal⟩
  rw [broken]
  cases event <;> simp [Phase.next]

/-- The callback is invoked or dropped no more often than its phase says. -/
theorem outcomes_eq (legal : phase request trace ≠ .broken) :
    outcomes request trace = (phase request trace).outcomes := by
  induction trace using List.reverseRecOn with
  | nil => rfl
  | append_singleton trace event ih =>
      obtain ⟨legal, turn⟩ := phase_init legal
      have counted : outcomes request (trace ++ [event]) =
          outcomes request trace + if event.decides request then 1 else 0 := by
        rw [outcomes, List.countP_append, List.countP_singleton]
        rfl
      rw [counted, ih legal]
      generalize phase request trace = first at turn ⊢
      generalize phase request (trace ++ [event]) = second at turn ⊢
      cases turn with
      | other quiet => simp [quiet]
      | _ => simp [Event.decides, Phase.outcomes]

/-- What became of a callback does not change. -/
theorem invoked_phase {result : ResolveResult Ip} (legal : phase request trace ≠ .broken)
    (invoked : .invoked thread request result ∈ trace) :
    phase request trace = .ended thread (some result) := by
  induction trace using List.reverseRecOn with
  | nil => cases invoked
  | append_singleton trace event ih =>
      obtain ⟨legal, turn⟩ := phase_init legal
      obtain earlier | last := List.mem_append.mp invoked
      · rw [ih legal earlier] at turn
        generalize phase request (trace ++ [event]) = second at turn ⊢
        cases turn with
        | other => rfl
      · rw [← List.mem_singleton.mp last] at turn ⊢
        generalize phase request trace = first at turn ⊢
        generalize phase request (trace ++ [.invoked thread request result]) = second at turn ⊢
        cases turn with
        | invoked => rfl
        | other quiet => simp [Event.decides] at quiet

theorem abandoned_phase (legal : phase request trace ≠ .broken)
    (abandoned : .abandoned thread request ∈ trace) :
    phase request trace = .ended thread none := by
  induction trace using List.reverseRecOn with
  | nil => cases abandoned
  | append_singleton trace event ih =>
      obtain ⟨legal, turn⟩ := phase_init legal
      obtain earlier | last := List.mem_append.mp abandoned
      · rw [ih legal earlier] at turn
        generalize phase request (trace ++ [event]) = second at turn ⊢
        cases turn with
        | other => rfl
      · rw [← List.mem_singleton.mp last] at turn ⊢
        generalize phase request trace = first at turn ⊢
        generalize phase request (trace ++ [.abandoned thread request]) = second at turn ⊢
        cases turn with
        | abandoned => rfl
        | other quiet => simp [Event.decides] at quiet

end Phases

/-! ## What is queued -/

def Event.queuedFor (request : Nat) : Event Ip → Option (ResolveResult Ip)
  | .queued other result => if other = request then some result else none
  | _ => none

def Frame.delivery (request : Nat) : Frame Ip → Option (ResolveResult Ip)
  | .delivering other result => if other = request then some result else none
  | _ => none

/-- The results that were queued for a request. -/
def queuedResults (request : Nat) (trace : List (Event Ip)) : List (ResolveResult Ip) :=
  trace.filterMap (Event.queuedFor request)

/-- The delivery that is on the stack of the loop, and those that wait. -/
def undelivered (request : Nat) (frames : List (Frame Ip))
    (pending : List (Nat × ResolveResult Ip)) : List (ResolveResult Ip) :=
  frames.filterMap (Frame.delivery request) ++
    pending.filterMap fun entry => if entry.1 = request then some entry.2 else none

structure Phase.Right (loop : LoopId) (isOpen : Bool) (queued : List (ResolveResult Ip))
    (phase : Phase Ip) : Prop where
  legal : phase ≠ .broken
  delivered : ∀ thread result, phase = .taken thread (some result) ∨
    phase = .ended thread (some result) → thread = .owner loop ∧ queued.head? = some result
  dropped : ∀ thread, phase = .taken thread none ∨ phase = .ended thread none →
    isOpen = false ∧ queued = []

/-- The frames that have a callback. -/
def Frame.marks (thread : Thread) : Frame Ip → List (Nat × Phase Ip)
  | .releasing request result | .taken request result => [(request, .taken thread result)]
  | _ => []

theorem Frame.marks_holder (thread : Thread) (frame : Frame Ip) (request : Nat) (phase : Phase Ip)
    (member : (request, phase) ∈ frame.marks thread) : phase.holder = some thread := by
  cases frame with
  | releasing | taken =>
      cases List.mem_singleton.mp member
      rfl
  | _ => cases member

structure Delivered (state : State Ip) : Prop where
  sound : Sound state
  inStep : Custody.InStep Frame.marks Phase.holder state.frames fun request =>
    phase request state.trace
  unknown : ∀ request, state.shared.operations request = none →
    phase request state.trace = .waiting ∧ queuedResults request state.trace = []
  completed : ∀ request operation, state.shared.operations request = some operation →
    (operation.completed = true ↔ phase request state.trace ≠ .waiting)
  order : ∀ request operation, state.shared.operations request = some operation →
    operation.completed = false → queuedResults request state.trace =
      undelivered request (state.frames (.owner operation.callbackHandle))
        (state.shared.loops operation.callbackHandle).pending
  right : ∀ request operation, state.shared.operations request = some operation →
    (phase request state.trace).Right operation.callbackHandle
      (state.shared.loops operation.callbackHandle).isOpen (queuedResults request state.trace)

theorem Delivered.start : Delivered ({} : State Ip) where
  sound := .start
  inStep := .start fun _ => rfl
  unknown _ _ := ⟨rfl, rfl⟩
  completed := by simp
  order := by simp
  right := by simp

@[simp] theorem marked_nil (thread : Thread) :
    Custody.marked Frame.marks thread ([] : List (Frame Ip)) = [] := rfl

@[simp] theorem marked_cons (thread : Thread) (frame : Frame Ip) (frames : List (Frame Ip)) :
    Custody.marked Frame.marks thread (frame :: frames) =
      frame.marks thread ++ Custody.marked Frame.marks thread frames := rfl

variable {state next : State Ip} {old rest : List (Frame Ip)} {outcome : Outcome Ip}
  {operation : Operation}

/-- The callback that the top frame has. -/
theorem Delivered.top (delivered : Delivered state) {frame : Frame Ip}
    (top : state.frames thread = frame :: rest) {before : Phase Ip}
    (member : (request, before) ∈ frame.marks thread) : phase request state.trace = before := by
  refine (delivered.inStep.exact thread request before
    (Frame.marks_holder thread frame request before member)).mp ?_
  rw [top, marked_cons]
  exact List.mem_append_left _ member

theorem Delivered.waiting (delivered : Delivered state)
    (found : state.shared.operations request = some operation)
    (fresh : operation.completed = false) : phase request state.trace = .waiting := by
  by_contra settled
  rw [(delivered.completed request operation found).mpr settled] at fresh
  cases fresh

theorem Looks.unmarked {shared : Shared Ip} {frame : Frame Ip} {frames : List (Frame Ip)}
    (looks : Looks shared frame frames) : Custody.marked Frame.marks thread [frame] = [] ∧
      Custody.marked Frame.marks thread frames = [] := by
  cases looks with
  | unwanted registered => cases registered <;> exact ⟨rfl, rfl⟩
  | _ => exact ⟨rfl, rfl⟩

namespace Stepped

variable (stepped : Stepped state next thread old outcome rest)
include stepped

theorem trace : next.trace = state.trace ++ outcome.events := by
  rw [stepped.next]
  rfl

theorem frames : next.frames = Function.update state.frames thread (outcome.frames ++ rest) := by
  rw [stepped.next]
  rfl

theorem shared : next.shared = outcome.shared := by
  rw [stepped.next]
  rfl

theorem phase (request : Nat) : Dns.phase request next.trace =
    outcome.events.foldl (Phase.next request) (Dns.phase request state.trace) := by
  rw [stepped.trace, Dns.phase, Dns.phase, List.foldl_append]

theorem inStep (delivered : Delivered state) :
    Custody.InStep Frame.marks Phase.holder next.frames fun request =>
      Dns.phase request next.trace := by
  have phases : (fun request => Dns.phase request next.trace) = fun request =>
      outcome.events.foldl (Phase.next request) (Dns.phase request state.trace) :=
    funext stepped.phase
  have top := stepped.top
  rw [phases, stepped.frames]
  have own := @Frame.marks_holder Ip
  have taken : ∀ {request operation result frame}, old = [frame] →
      frame.marks thread = [] → state.shared.operations request = some operation →
      operation.completed = false →
      Custody.InStep Frame.marks Phase.holder (Function.update state.frames thread
        ((state.shared.settle thread request operation result).frames ++ rest)) fun other =>
          [Event.settled thread request result].foldl (Phase.next other)
            (Dns.phase other state.trace) := by
    intro request operation result frame same unmarked found fresh
    subst same
    have waiting := delivered.waiting found fresh
    have marked : Custody.marked Frame.marks thread
        (state.shared.settle thread request operation result).frames =
          [(request, .taken thread result)] := by
      unfold Shared.settle
      split <;> rfl
    refine delivered.inStep.one own top request (fun other differs => ?_)
      (fun other phase differs => ?_) (.inl ?_) (fun phase member => ?_) (fun absent => ?_) ?_
    · simp [Phase.next, Ne.symm differs]
    · simp [marked, unmarked, differs]
    · rw [waiting]
      rfl
    · rw [marked] at member
      cases List.mem_singleton.mp member
      simp [Phase.next, waiting]
    · rw [marked] at absent
      simp at absent
    · rw [marked]
      simp
  cases stepped.does with
  | looks looks =>
      obtain ⟨before, after⟩ := @Looks.unmarked _ thread _ _ _ looks
      exact delivered.inStep.none own top before after fun _ => .inl rfl
  | abandons found fresh => exact taken rfl rfl found fresh
  | delivers result found fresh => exact taken rfl rfl found fresh
  | @releases request operation result found =>
      have was := delivered.top top (List.mem_singleton_self (request, Phase.taken thread result))
      exact delivered.inStep.single own top rfl (.inl (by simp [Frame.marks, was]))
        fun other differs => rfl
  | @calls request result =>
      have was := delivered.top top
        (List.mem_singleton_self (request, Phase.taken thread (some result)))
      exact delivered.inStep.single own top rfl
        (.inr ⟨rfl, by simp [Phase.next, was, Phase.holder]⟩)
        fun other differs => by simp [Phase.next, Ne.symm differs]
  | @drops request =>
      have was := delivered.top top (List.mem_singleton_self (request, Phase.taken thread none))
      exact delivered.inStep.single own top rfl
        (.inr ⟨rfl, by simp [Phase.next, was, Phase.holder]⟩)
        fun other differs => by simp [Phase.next, Ne.symm differs]
  | _ => exact delivered.inStep.none own top rfl rfl fun _ => .inl rfl

/-- What can become of a callback in a step. -/
theorem turn (delivered : Delivered state) (request : Nat) :
    (Dns.phase request next.trace = Dns.phase request state.trace ∧
        outcome.events.any (Event.settles request) = false) ∨
      (∃ operation result, state.shared.operations request = some operation ∧
        operation.completed = false ∧ outcome.events.any (Event.settles request) = true ∧
        Dns.phase request next.trace = .taken thread result ∧
        old = [result.elim (.abandoning request) (.delivering request)]) ∨
      ∃ result, Dns.phase request state.trace = .taken thread result ∧
        Dns.phase request next.trace = .ended thread result ∧
        outcome.events.any (Event.settles request) = false := by
  have top := stepped.top
  rw [stepped.phase]
  cases stepped.does with
  | @abandons other operation found fresh =>
      by_cases same : other = request
      · subst same
        have waiting := delivered.waiting found fresh
        exact .inr (.inl ⟨operation, none, found, fresh, by simp [Shared.settle, Event.settles],
          by simp [Shared.settle, Phase.next, waiting], rfl⟩)
      · exact .inl (by simp [Shared.settle, Phase.next, Event.settles, same])
  | @delivers other operation result found fresh =>
      by_cases same : other = request
      · subst same
        have waiting := delivered.waiting found fresh
        exact .inr (.inl ⟨operation, some result, found, fresh,
          by simp [Shared.settle, Event.settles], by simp [Shared.settle, Phase.next, waiting], rfl⟩)
      · exact .inl (by simp [Shared.settle, Phase.next, Event.settles, same])
  | @calls other result =>
      have was := delivered.top top
        (List.mem_singleton_self (other, Phase.taken thread (some result)))
      by_cases same : other = request
      · subst same
        exact .inr (.inr ⟨_, was, by simp [Phase.next, was], rfl⟩)
      · exact .inl (by simp [Phase.next, Event.settles, same])
  | @drops other =>
      have was := delivered.top top (List.mem_singleton_self (other, Phase.taken thread none))
      by_cases same : other = request
      · subst same
        exact .inr (.inr ⟨_, was, by simp [Phase.next, was], rfl⟩)
      · exact .inl (by simp [Phase.next, Event.settles, same])
  | _ => exact .inl ⟨rfl, rfl⟩

theorem completed (delivered : Delivered state)
    (found : next.shared.operations request = some operation) :
    operation.completed = true ↔ Dns.phase request next.trace ≠ .waiting := by
  rw [stepped.shared] at found
  cases before : state.shared.operations request with
  | none =>
      obtain ⟨_, _, _, _, _, _, rfl, rfl⟩ := stepped.does.begins before found
      simp [stepped.phase, Shared.user, Phase.next, (delivered.unknown request before).1]
  | some first =>
      have settled := delivered.completed request first before
      obtain ⟨later, held, follows⟩ := stepped.does.follows delivered.sound.dense before
      cases held.symm.trans found
      rw [follows.completed]
      obtain ⟨same, quiet⟩ | ⟨_, _, _, _, settles, taken, _⟩ | ⟨_, was, ended, quiet⟩ :=
        stepped.turn delivered request
      · rw [same, quiet, Bool.or_false, settled]
      · simp [settles, taken]
      · simp [ended, settled.mpr (by simp [was])]

theorem unknown (delivered : Delivered state)
    (absent : next.shared.operations request = none) :
    Dns.phase request next.trace = .waiting ∧ queuedResults request next.trace = [] := by
  rw [stepped.shared] at absent
  have before : state.shared.operations request = none := by
    by_contra found
    obtain ⟨first, found⟩ := Option.ne_none_iff_exists'.mp found
    obtain ⟨later, held, _⟩ := stepped.does.follows delivered.sound.dense found
    cases absent.symm.trans held
  obtain ⟨waiting, none⟩ := delivered.unknown request before
  constructor
  · obtain ⟨same, _⟩ | ⟨_, _, found, _⟩ | ⟨_, was, _⟩ := stepped.turn delivered request
    · rw [same, waiting]
    · cases before.symm.trans found
    · rw [waiting] at was
      cases was
  · rw [stepped.trace, queuedResults, List.filterMap_append]
    have silent : outcome.events.filterMap (Event.queuedFor request) = [] := by
      cases stepped.does with
      | @queues other operation result found =>
          have differs : other ≠ request := by
            rintro rfl
            cases before.symm.trans found
          simp [Event.queuedFor, differs]
      | _ => simp [Shared.user, Shared.settle, Shared.post, Event.queuedFor]
    rw [silent, List.append_nil]
    exact none

omit stepped in
/-- Nothing is delivered for a request that is not there. -/
theorem undelivered_unknown (sound : Sound state)
    (absent : state.shared.operations request = none) (loop : LoopId) :
    undelivered request (state.frames (.owner loop)) (state.shared.loops loop).pending = [] := by
  refine List.append_eq_nil_iff.mpr ⟨List.filterMap_eq_nil_iff.mpr fun frame member => ?_,
    List.filterMap_eq_nil_iff.mpr fun entry member => if_neg ?_⟩
  · cases frame with
    | delivering other result =>
        obtain ⟨operation, found, _⟩ := sound.frames _ _ member
        refine if_neg ?_
        rintro rfl
        cases absent.symm.trans found
    | _ => rfl
  · rintro rfl
    obtain ⟨operation, found, _⟩ := sound.pending loop entry member
    cases absent.symm.trans found

omit stepped in
/-- Deliveries of a request that is not completed are not lost by looking. -/
theorem looks_delivery {shared : Shared Ip} {frame : Frame Ip} {frames : List (Frame Ip)}
    (looks : Looks shared frame frames) (found : shared.operations request = some operation)
    (fresh : operation.completed = false) :
    frames.filterMap (Frame.delivery request) = [frame].filterMap (Frame.delivery request) := by
  cases looks with
  | @superseded other settled result held completed =>
      have differs : other ≠ request := by
        rintro rfl
        cases held.symm.trans found
        rw [completed] at fresh
        cases fresh
      simp [Frame.delivery, differs]
  | unwanted registered => cases registered <;> rfl
  | _ => rfl

theorem delivering (same : outcome.frames.filterMap (Frame.delivery request) =
      old.filterMap (Frame.delivery request)) (holder : Thread) :
    (next.frames holder).filterMap (Frame.delivery request) =
      (state.frames holder).filterMap (Frame.delivery request) := by
  rw [stepped.frames]
  by_cases mine : holder = thread
  · subst mine
    rw [Function.update_self, stepped.top, List.filterMap_append, List.filterMap_append, same]
  · rw [Function.update_of_ne mine]

theorem order (delivered : Delivered state)
    (found : next.shared.operations request = some operation)
    (fresh : operation.completed = false) : queuedResults request next.trace =
      undelivered request (next.frames (.owner operation.callbackHandle))
        (next.shared.loops operation.callbackHandle).pending := by
  have does := stepped.does
  have top := stepped.top
  have delivering := @delivering _ _ request _ _ _ _ _ stepped
  rw [stepped.shared] at found ⊢
  rw [stepped.trace, queuedResults, List.filterMap_append, undelivered]
  cases before : state.shared.operations request with
  | none =>
      have silent := undelivered_unknown delivered.sound before operation.callbackHandle
      obtain ⟨_, rfl, _, _, _, _, _, rfl⟩ := does.begins before found
      rw [delivering rfl]
      rw [← queuedResults, (delivered.unknown request before).2]
      exact silent.symm
  | some first =>
      obtain ⟨later, held, follows⟩ := does.follows delivered.sound.dense before
      cases held.symm.trans found
      rw [follows.completed, Bool.or_eq_false_iff] at fresh
      obtain ⟨fresh, quiet⟩ := fresh
      have kept := delivered.order request first before fresh
      rw [queuedResults, undelivered] at kept
      rw [follows.callbackHandle]
      generalize linked : first.callbackHandle = loop at *
      cases does with
      | looks looks =>
          rw [delivering (looks_delivery looks before fresh)]
          simpa using kept
      | caches agree | answers _ _ agree =>
          rw [delivering rfl]
          simpa [agree.loops, Shared.post, Event.queuedFor, List.filterMap_cons] using kept
      | @runs other place result waiting alone owner pending =>
          by_cases here : loop = place
          · subst here alone owner
            rw [top, List.nil_append] at kept
            simp only [List.filterMap_nil, List.append_nil, kept, pending, List.filterMap_cons,
              stepped.frames, Function.update_self, List.nil_append, Shared.setLoop_loops,
              Frame.delivery]
            split <;> simp
          · have apart : Thread.owner loop ≠ thread := by
              rw [owner]
              simpa using here
            rw [stepped.frames, Function.update_of_ne apart]
            simpa [here] using kept
      | @closes place =>
          rw [delivering rfl]
          by_cases here : loop = place
          · subst here
            simpa [Event.queuedFor, List.filterMap_cons] using kept
          · simpa [Event.queuedFor, List.filterMap_cons, here] using kept
      | @queues other operation result owned isOpen =>
          rw [delivering rfl, kept]
          by_cases same : other = request
          · subst same
            cases owned.symm.trans before
            subst linked
            simp [Event.queuedFor]
          · by_cases here : loop = operation.callbackHandle
            · subst here
              simp [Event.queuedFor, same]
            · simp [Event.queuedFor, same, here]
      | discards | releases =>
          rw [delivering rfl]
          simpa using kept
      | abandons =>
          rw [delivering (by simp only [Shared.settle]; split <;> rfl)]
          simpa [Shared.settle, Event.queuedFor, List.filterMap_cons] using kept
      | @delivers other settled result =>
          have differs : other ≠ request := by
            simpa [Shared.settle, Event.settles] using quiet
          rw [delivering]
          · simpa [Shared.settle, Event.queuedFor, List.filterMap_cons] using kept
          · simp only [Shared.settle]
            split <;> simp [Frame.delivery, differs]
      | _ =>
          rw [delivering rfl]
          simpa [Shared.user, Shared.post, Event.queuedFor, List.filterMap_cons] using kept

/-- Results that are queued come after those that were queued, and only while the loop is
open. -/
theorem queued (request : Nat) : ∃ later, queuedResults request next.trace =
      queuedResults request state.trace ++ later ∧
    (later ≠ [] → ∃ operation, state.shared.operations request = some operation ∧
      (state.shared.loops operation.callbackHandle).isOpen = true) := by
  refine ⟨_, by rw [stepped.trace, queuedResults, List.filterMap_append]; rfl, fun some => ?_⟩
  cases stepped.does with
  | @queues other operation result found isOpen =>
      by_cases same : other = request
      · subst same
        exact ⟨operation, found, isOpen⟩
      · simp [Event.queuedFor, same] at some
  | _ => simp [Shared.user, Shared.settle, Shared.post, Event.queuedFor] at some

theorem right (delivered : Delivered state)
    (found : next.shared.operations request = some operation) :
    (Dns.phase request next.trace).Right operation.callbackHandle
      (next.shared.loops operation.callbackHandle).isOpen (queuedResults request next.trace) := by
  have does := stepped.does
  rw [stepped.shared] at found ⊢
  cases before : state.shared.operations request with
  | none =>
      obtain ⟨_, rfl, _, _, _, _, _, rfl⟩ := does.begins before found
      have waiting : Dns.phase request next.trace = .waiting := by
        simp [stepped.phase, Shared.user, Phase.next, (delivered.unknown request before).1]
      rw [waiting]
      exact ⟨by simp, by simp, by simp⟩
  | some first =>
      obtain ⟨later, held, follows⟩ := does.follows delivered.sound.dense before
      cases held.symm.trans found
      have was := delivered.right request first before
      obtain ⟨more, queued, openOf⟩ := stepped.queued request
      rw [follows.callbackHandle, queued, does.isOpen]
      -- what was right of a callback stays so
      have still : ∀ {phase : Phase Ip}, phase.Right first.callbackHandle
          (state.shared.loops first.callbackHandle).isOpen (queuedResults request state.trace) →
          phase.Right first.callbackHandle ((state.shared.loops first.callbackHandle).isOpen &&
            !outcome.events.any (Event.closes first.callbackHandle))
            (queuedResults request state.trace ++ more) := by
        intro phase was
        refine ⟨was.legal, fun holder result delivered => ?_, fun holder dropped => ?_⟩
        · obtain ⟨mine, head⟩ := was.delivered holder result delivered
          exact ⟨mine, by rw [List.head?_append, head]; rfl⟩
        · obtain ⟨closed, none⟩ := was.dropped holder dropped
          have silent : more = [] := by
            by_contra some
            obtain ⟨operation, found, isOpen⟩ := openOf some
            cases before.symm.trans found
            cases closed.symm.trans isOpen
          exact ⟨by rw [closed]; rfl, by rw [none, silent]; rfl⟩
      obtain ⟨same, _⟩ | ⟨operation, result, found, fresh, _, taken, top⟩ | ⟨result, taken, ended, _⟩ :=
        stepped.turn delivered request
      · rw [same]
        exact still was
      · cases before.symm.trans found
        have order := delivered.order request first before fresh
        have sound := delivered.sound.frames thread _ (by rw [stepped.top, top]; exact List.mem_cons_self)
        rw [taken]
        refine still ⟨by simp, fun holder other delivers => ?_, fun holder dropped => ?_⟩
        · cases result with
          | none => simp at delivers
          | some result =>
              obtain ⟨_, same, mine, _⟩ := sound
              cases before.symm.trans same
              simp only [Phase.taken.injEq, Option.some.injEq, reduceCtorEq, or_false] at delivers
              obtain ⟨rfl, rfl⟩ := delivers
              refine ⟨mine, ?_⟩
              rw [order, undelivered, ← mine, stepped.top, top]
              simp [Frame.delivery]
        · cases result with
          | some result => simp at dropped
          | none =>
              obtain ⟨_, same, closed⟩ := sound
              cases before.symm.trans same
              refine ⟨closed, ?_⟩
              rw [order, undelivered, delivered.sound.empty _ closed, List.filterMap_nil,
                List.append_nil]
              refine List.filterMap_eq_nil_iff.mpr fun frame member => ?_
              cases frame with
              | delivering other result =>
                  refine if_neg ?_
                  rintro rfl
                  obtain ⟨_, same, _, isOpen⟩ := delivered.sound.frames _ _ member
                  cases before.symm.trans same
                  cases closed.symm.trans isOpen
              | _ => rfl
      · rw [ended]
        refine still ⟨by simp, fun holder other delivers => ?_, fun holder dropped => ?_⟩
        · refine was.delivered holder other (.inl ?_)
          simpa [taken] using delivers
        · refine was.dropped holder (.inl ?_)
          simpa [taken] using dropped

end Stepped

theorem Delivered.kept (delivered : Delivered state)
    (stepped : Stepped state next thread old outcome rest) : Delivered next where
  sound := delivered.sound.kept stepped
  inStep := stepped.inStep delivered
  unknown _ absent := stepped.unknown delivered absent
  completed _ _ found := stepped.completed delivered found
  order _ _ found fresh := stepped.order delivered found fresh
  right _ _ found := stepped.right delivered found

end MiniTrantor.Net.Dns
