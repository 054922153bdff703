import MiniTrantor.Net.Dns.Delivery

/-!
# Registrations

Where the registration of a request is: with the call of `resolve` that made it, in the
request until it is completed, or with the thread that resets it.
-/

set_option autoImplicit false

namespace MiniTrantor.Net.Dns

variable {Ip : Type} {thread : Thread} {request : Nat}

/-- How far `resolve` is with the registration. -/
inductive Stage where
  | absent
  | before (thread : Thread)
  | within (thread : Thread) (registered : Bool)
  | past
  deriving DecidableEq

def Stage.holder : Stage → Option Thread
  | .before thread | .within thread _ => some thread
  | _ => none

namespace Frame

def stages (thread : Thread) : Frame Ip → List (Nat × Stage)
  | .starting request | .registering request => [(request, .before thread)]
  | .installing request registered => [(request, .within thread registered)]
  | _ => []

/-- A frame that is to take the callback of the request out of the map of its token. -/
def unregisters (request : Nat) : Frame Ip → Bool
  | .discarding other | .releasing other _ => other = request
  | _ => false

theorem stages_holder (thread : Thread) (frame : Frame Ip) (request : Nat) (stage : Stage)
    (member : (request, stage) ∈ frame.stages thread) : stage.holder = some thread := by
  cases frame with
  | starting | registering | installing =>
      cases List.mem_singleton.mp member
      rfl
  | _ => cases member

end Frame

/-- Some thread is to take the callback of the request out of the map. -/
def Unregisters (frames : Thread → List (Frame Ip)) (request : Nat) : Prop :=
  ∃ thread, ∃ frame ∈ frames thread, frame.unregisters request = true

structure Registered (state : State Ip) (stages : Nat → Stage) : Prop where
  inStep : Custody.InStep Frame.stages Stage.holder state.frames stages
  unknown : ∀ request, state.shared.operations request = none → stages request = .absent
  early : ∀ request operation, state.shared.operations request = some operation →
    stages request ≠ .past → operation.registration = false
  completed : ∀ request operation, state.shared.operations request = some operation →
    operation.completed = true → operation.registration = false
  listed : ∀ token, ∀ request ∈ (state.shared.sources token).callbacks, ∃ operation,
    state.shared.operations request = some operation ∧ operation.token = some token ∧
      ((∃ holder, stages request = .within holder true) ∨ stages request = .past ∧
        (operation.registration = true ∨ Unregisters state.frames request))

theorem Registered.start : Registered ({} : State Ip) fun _ => .absent where
  inStep := .start fun _ => rfl
  unknown _ _ := rfl
  early := by simp
  completed := by simp
  listed := by simp

section Steps

variable {shared : Shared Ip} {state next : State Ip} {old rest : List (Frame Ip)}
  {outcome : Outcome Ip} {operation later : Operation}

/-- What becomes of the registration that is in a request. -/
theorem Does.registration (does : Does shared thread rest old outcome)
    (dense : shared.Dense) (found : shared.operations request = some operation)
    (held : outcome.shared.operations request = some later) :
    (later.registration = operation.registration ∧
        outcome.events.any (Event.settles request) = false) ∨
      (∃ result, outcome.events = [.settled thread request result] ∧ later.registration = false ∧
        (operation.registration = true → outcome.frames = [.releasing request result])) ∨
      ∃ registered, old = [.installing request registered] ∧ operation.completed = false ∧
        later.registration = registered ∧ outcome.events = [] := by
  have settles : ∀ {other before result}, shared.operations other = some before →
      (shared.settle thread other before result).shared.operations request = some later →
      (later.registration = operation.registration ∧
          (shared.settle thread other before result).events.any (Event.settles request) = false) ∨
        (∃ given, (shared.settle thread other before result).events =
          [.settled thread request given] ∧ later.registration = false ∧
          (operation.registration = true →
            (shared.settle thread other before result).frames = [.releasing request given])) := by
    intro other before result known held
    by_cases same : request = other
    · subst same
      cases known.symm.trans found
      simp only [Shared.settle, Shared.setOperation_operations, Function.update_self,
        Option.some.injEq] at held
      subst held
      exact .inr ⟨result, rfl, rfl, fun registered => if_pos registered⟩
    · simp only [Shared.settle, Shared.setOperation_operations, Function.update_of_ne same,
        found, Option.some.injEq] at held
      exact .inl ⟨by rw [held], by simp [Shared.settle, Event.settles, Ne.symm same]⟩
  cases does with
  | caches agree | answers _ _ agree =>
      cases found.symm.trans (agree.operations ▸ held)
      exact .inl ⟨rfl, rfl⟩
  | resolve =>
      have differs : request ≠ shared.requests := by
        rintro rfl
        cases found.symm.trans ((dense _).mp le_rfl)
      simp only [Shared.user, Shared.setOperation_operations, Function.update_of_ne differs,
        found, Option.some.injEq] at held
      exact .inl ⟨by rw [held], rfl⟩
  | @installs other before registered known fresh =>
      by_cases same : request = other
      · subst same
        cases known.symm.trans found
        simp only [Shared.setOperation_operations, Function.update_self,
          Option.some.injEq] at held
        subst held
        exact .inr (.inr ⟨registered, rfl, fresh, rfl, rfl⟩)
      · simp only [Shared.setOperation_operations, Function.update_of_ne same,
          found, Option.some.injEq] at held
        exact .inl ⟨by rw [held], rfl⟩
  | abandons known => exact (settles known held).imp id .inl
  | delivers result known => exact (settles known held).imp id .inl
  | discards | releases =>
      cases found.symm.trans (by simpa using held)
      exact .inl ⟨rfl, rfl⟩
  | _ =>
      cases found.symm.trans held
      exact .inl ⟨rfl, rfl⟩

/-- A callback that a thread was to take out of the map is taken out when that frame goes. -/
theorem Stepped.unregisters (stepped : Stepped state next thread old outcome rest)
    (unregisters : Unregisters state.frames request) : Unregisters next.frames request ∨
      ∀ operation, state.shared.operations request = some operation →
        ∀ token, operation.token = some token →
          request ∉ (next.shared.sources token).callbacks := by
  obtain ⟨holder, frame, member, busy⟩ := unregisters
  have stays : (holder = thread → frame ∈ rest) → Unregisters next.frames request := by
    intro stays
    refine ⟨holder, frame, ?_, busy⟩
    rw [stepped.frames]
    by_cases mine : holder = thread
    · subst mine
      rw [Function.update_self]
      exact List.mem_append_right _ (stays rfl)
    · rwa [Function.update_of_ne mine]
  by_cases mine : holder = thread
  · subst mine
    rw [stepped.top] at member
    obtain top | below := List.mem_append.mp member
    · refine .inr fun operation found token linked => ?_
      rw [stepped.shared]
      cases stepped.does with
      | discards held | releases _ held =>
          cases List.mem_singleton.mp top
          have same := by simpa [Frame.unregisters] using busy
          subst same
          cases held.symm.trans found
          rw [Shared.unregister_callbacks, if_pos linked]
          simp
      | looks looks => 
          cases List.mem_singleton.mp top
          cases looks <;> cases busy
      | _ =>
          first
          | cases List.mem_singleton.mp top; cases busy
          | cases top
    · exact .inl (stays fun _ => below)
  · exact .inl (stays fun same => absurd same mine)

/-- What a step does to the stage of a request. -/
structure Advances (thread : Thread) (old : List (Frame Ip)) (outcome : Outcome Ip) (request : Nat)
    (stage later : Stage) : Prop where
  past : stage = .past → later = .past
  within : ∀ holder registered, stage = .within holder registered → later = stage ∨
    later = .past ∧ (registered = true → (∃ frame ∈ outcome.frames,
      frame.unregisters request = true) ∨ ∀ operation,
        outcome.shared.operations request = some operation → operation.registration = true)
  installed : ∀ registered, old = [.installing request registered] → later = .past
  registered : old = [.registering request] → outcome.frames = [.installing request true] →
    later = .within thread true
  known : later = stage ∨ ∃ operation, outcome.shared.operations request = some operation

theorem Advances.same (installing : ∀ registered, old ≠ [.installing request registered])
    (registering : old = [.registering request] → outcome.frames ≠ [.installing request true])
    (stage : Stage) : Advances thread old outcome request stage stage where
  past := id
  within _ _ _ := .inl rfl
  installed registered same := absurd same (installing registered)
  registered same new := absurd new (registering same)
  known := .inl rfl

@[simp] theorem staged_nil (thread : Thread) :
    Custody.marked Frame.stages thread ([] : List (Frame Ip)) = [] := rfl

@[simp] theorem staged_cons (thread : Thread) (frame : Frame Ip) (frames : List (Frame Ip)) :
    Custody.marked Frame.stages thread (frame :: frames) =
      frame.stages thread ++ Custody.marked Frame.stages thread frames := rfl

variable {stages : Nat → Stage}

/-- The stage of the request that the top frame is busy with. -/
theorem Registered.top (registered : Registered state stages) {frame : Frame Ip}
    (top : state.frames thread = frame :: rest) {stage : Stage}
    (member : (request, stage) ∈ frame.stages thread) : stages request = stage := by
  refine (registered.inStep.exact thread request stage
    (Frame.stages_holder thread frame request stage member)).mp ?_
  rw [top, staged_cons]
  exact List.mem_append_left _ member

/-- A step of a call of `resolve` that goes on with the registration. -/
theorem Registered.advance (registered : Registered state stages)
    (stepped : Stepped state next thread old outcome rest) {frame : Frame Ip} {stage : Stage}
    (single : old = [frame]) (busy : frame.stages thread = [(request, stage)]) (later : Stage)
    (left : Custody.marked Frame.stages thread outcome.frames = [(request, later)] ∨
      Custody.marked Frame.stages thread outcome.frames = [] ∧ later.holder = none)
    (advances : stages request = stage → Advances thread old outcome request stage later)
    (named : ∀ other, other ≠ request → (∀ registered, frame ≠ .installing other registered) ∧
      frame ≠ .registering other) :
    ∃ later, Custody.InStep Frame.stages Stage.holder next.frames later ∧
      ∀ request, Advances thread old outcome request (stages request) (later request) := by
  subst single
  have was := registered.top stepped.top (busy ▸ List.mem_singleton_self (request, stage))
  refine ⟨Function.update stages request later, ?_, fun other => ?_⟩
  · rw [stepped.frames]
    refine registered.inStep.single Frame.stages_holder stepped.top
      (show Custody.marked Frame.stages thread [frame] = [(request, stage)] by simp [busy]) ?_
      fun other differs => Function.update_of_ne differs _ _
    simpa using left
  · by_cases same : other = request
    · subst same
      rw [Function.update_self, was]
      exact advances was
    · rw [Function.update_of_ne same]
      refine Advances.same (fun registered here => ?_) (fun here => ?_) _
      · exact (named other same).1 registered (List.cons.inj here).1
      · exact absurd (List.cons.inj here).1 (named other same).2

/-- A call of `resolve` that is past the registration, or does not begin it. -/
theorem Advances.leaves {frame : Frame Ip} (holder : Thread)
    (installing : ∀ registered, frame ≠ .installing request registered)
    (registering : frame = .registering request → outcome.frames ≠ [.installing request true])
    (known : ∃ operation, outcome.shared.operations request = some operation) (later : Stage) :
    Advances thread [frame] outcome request (.before holder) later where
  past := by simp
  within := by simp
  installed registered same := absurd (List.cons.inj same).1 (installing registered)
  registered same new := absurd new (registering (List.cons.inj same).1)
  known := .inr known

theorem Registered.stage (registered : Registered state stages) (dense : state.shared.Dense)
    (stepped : Stepped state next thread old outcome rest) :
    ∃ later, Custody.InStep Frame.stages Stage.holder next.frames later ∧
      ∀ request, Advances thread old outcome request (stages request) (later request) := by
  have same : Custody.marked Frame.stages thread old = [] →
      Custody.marked Frame.stages thread outcome.frames = [] →
      ∃ later, Custody.InStep Frame.stages Stage.holder next.frames later ∧
        ∀ request, Advances thread old outcome request (stages request) (later request) := by
    intro before after
    refine ⟨stages, ?_, fun request => Advances.same (fun registered here => ?_) (fun here => ?_) _⟩
    · rw [stepped.frames]
      exact registered.inStep.none Frame.stages_holder stepped.top before after fun _ => .inl rfl
    · rw [here] at before
      cases before
    · rw [here] at before
      cases before
  cases stepped.does with
  | resolve hostname port callbackHandle token =>
      have unknown := registered.unknown state.shared.requests ((dense _).mp le_rfl)
      refine ⟨Function.update stages state.shared.requests (.before thread), ?_,
        fun request => ?_⟩
      · rw [stepped.frames]
        refine registered.inStep.one Frame.stages_holder stepped.top state.shared.requests
          (fun other differs => Function.update_of_ne differs _ _)
          (fun other stage differs => ?_) (.inl (by rw [unknown]; rfl)) (fun stage member => ?_)
          (fun absent => ?_) ?_
        · simp [Shared.user, Frame.stages, differs]
        · have same : stage = .before thread := by
            simpa [Shared.user, Frame.stages] using member
          rw [same, Function.update_self]
        · simp [Shared.user, Frame.stages] at absent
        · simp [Shared.user, Frame.stages]
      · by_cases here : request = state.shared.requests
        · subst here
          rw [Function.update_self, unknown]
          exact ⟨by simp, by simp, by simp, by simp, .inr ⟨_, Function.update_self _ _ _⟩⟩
        · rw [Function.update_of_ne here]
          exact Advances.same (by simp) (by simp) _
  | looks looks =>
      cases looks with
      | @unlinked request operation found =>
          exact registered.advance stepped rfl rfl .past (.inr ⟨rfl, rfl⟩)
            (fun _ => .leaves thread (by simp) (by simp) ⟨operation, found⟩ _) (by simp)
      | @linked request operation token found =>
          exact registered.advance stepped rfl rfl (.before thread) (.inl rfl)
            (fun _ => .leaves thread (by simp) (by simp) ⟨operation, found⟩ _) (by simp)
      | @unwanted request operation given found completed =>
          refine registered.advance stepped rfl rfl .past ?_
            (fun _ => ⟨by simp, fun holder other same => .inr ⟨rfl, fun yes => .inl ?_⟩,
              fun _ _ => rfl, by simp, .inr ⟨operation, found⟩⟩) (fun other differs => ?_)
          · cases given <;> exact .inr ⟨rfl, rfl⟩
          · cases same
            subst yes
            exact ⟨_, List.mem_cons_self, by simp [Frame.unregisters]⟩
          · simp [Ne.symm differs]
      | _ => exact same rfl rfl
  | @refuses request operation token found =>
      exact registered.advance stepped rfl rfl .past (.inr ⟨rfl, rfl⟩)
        (fun _ => .leaves thread (by simp) (by simp) ⟨operation, found⟩ _) (by simp)
  | @invokes request operation token found =>
      refine registered.advance stepped rfl rfl (.within thread false) (.inl rfl)
        (fun _ => .leaves thread (by simp) (by simp [Shared.post]) ⟨operation, found⟩ _) ?_
      intro other differs
      simpa using Ne.symm differs
  | @registers request operation token found =>
      refine registered.advance stepped rfl rfl (.within thread true) (.inl rfl)
        (fun _ => ⟨by simp, by simp, by simp, fun _ _ => rfl, .inr ⟨operation, found⟩⟩) ?_
      intro other differs
      simpa using Ne.symm differs
  | @installs request operation given found fresh =>
      refine registered.advance stepped rfl rfl .past (.inr ⟨rfl, rfl⟩)
        (fun _ => ⟨by simp, fun holder other same => .inr ⟨rfl, fun yes => .inr ?_⟩,
          fun _ _ => rfl, by simp, .inr ⟨_, Function.update_self _ _ _⟩⟩) (fun other differs => ?_)
      · cases same
        subst yes
        intro later held
        simp only [Shared.setOperation_operations, Function.update_self, Option.some.injEq] at held
        rw [← held]
      · simp [Ne.symm differs]
  | abandons | delivers =>
      refine same rfl ?_
      simp only [Shared.settle]
      split <;> rfl
  | _ => exact same rfl rfl

theorem Registered.kept (registered : Registered state stages) (delivered : Delivered state)
    (stepped : Stepped state next thread old outcome rest) :
    ∃ later, Registered next later := by
  have dense := delivered.sound.dense
  have does := stepped.does
  obtain ⟨later, inStep, advances⟩ := registered.stage dense stepped
  refine ⟨later, inStep, fun request absent => ?_, fun request operation found early => ?_,
    fun request operation found completed => ?_, fun token request member => ?_⟩
  · rw [stepped.shared] at absent
    have before : state.shared.operations request = none := by
      by_contra found
      obtain ⟨first, found⟩ := Option.ne_none_iff_exists'.mp found
      obtain ⟨after, held, _⟩ := does.follows dense found
      cases absent.symm.trans held
    obtain same | ⟨operation, found⟩ := (advances request).known
    · rw [same, registered.unknown request before]
    · cases absent.symm.trans found
  · rw [stepped.shared] at found
    cases before : state.shared.operations request with
    | none =>
        obtain ⟨_, _, _, _, _, _, rfl, _⟩ := does.begins before found
        rfl
    | some first =>
        obtain ⟨same, _⟩ | ⟨_, _, unset, _⟩ | ⟨given, installing, _⟩ :=
          does.registration dense before found
        · rw [same]
          exact registered.early request first before fun past => early ((advances request).past past)
        · exact unset
        · exact absurd ((advances request).installed given installing) early
  · rw [stepped.shared] at found
    cases before : state.shared.operations request with
    | none =>
        obtain ⟨_, _, _, _, _, _, rfl, _⟩ := does.begins before found
        rfl
    | some first =>
        obtain ⟨after, held, follows⟩ := does.follows dense before
        cases held.symm.trans found
        obtain ⟨same, quiet⟩ | ⟨_, _, unset, _⟩ | ⟨given, _, fresh, _, silent⟩ :=
          does.registration dense before found
        · rw [follows.completed, quiet, Bool.or_false] at completed
          rw [same]
          exact registered.completed request first before completed
        · exact unset
        · rw [follows.completed, fresh, silent] at completed
          cases completed
  · rw [stepped.shared] at member ⊢
    obtain before | ⟨registering, installing, first, found, linked, _⟩ := does.callbacks member
    · obtain ⟨first, found, linked, place⟩ := registered.listed token request before
      obtain ⟨after, held, follows⟩ := does.follows dense found
      refine ⟨after, held, follows.token.trans linked, ?_⟩
      have kept : Unregisters state.frames request → Unregisters next.frames request := by
        intro unregisters
        obtain kept | gone := stepped.unregisters unregisters
        · exact kept
        · exact absurd (stepped.shared ▸ member) (gone first found token linked)
      have fresh : ∀ {frame}, frame ∈ outcome.frames → frame.unregisters request = true →
          Unregisters next.frames request := by
        intro frame new unregisters
        refine ⟨thread, frame, ?_, unregisters⟩
        rw [stepped.frames, Function.update_self]
        exact List.mem_append_left _ new
      obtain ⟨holder, within⟩ | ⟨past, kept'⟩ := place
      · obtain same | ⟨past, left⟩ := (advances request).within holder true within
        · exact .inl ⟨holder, same.trans within⟩
        · refine .inr ⟨past, ?_⟩
          obtain ⟨frame, new, unregisters⟩ | set := left rfl
          · exact .inr (fresh new unregisters)
          · exact .inl (set after held)
      · refine .inr ⟨(advances request).past past, ?_⟩
        obtain set | unregisters := kept'
        · obtain ⟨same, _⟩ | ⟨result, _, _, releasing⟩ | ⟨given, installing, _⟩ :=
            does.registration dense found held
          · exact .inl (same.trans set)
          · have frames := releasing set
            exact .inr (@fresh (.releasing request result) (frames ▸ List.mem_cons_self)
              (by simp [Frame.unregisters]))
          · have busy := registered.top (installing ▸ stepped.top)
              (List.mem_singleton_self (request, Stage.within thread given))
            cases past.symm.trans busy
        · exact .inr (kept unregisters)
    · obtain ⟨after, held, follows⟩ := does.follows dense found
      exact ⟨after, held, follows.token.trans linked,
        .inl ⟨thread, (advances request).registered registering installing⟩⟩

end Steps

end MiniTrantor.Net.Dns
