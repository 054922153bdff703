import MiniTrantor.LeadsTo
import MiniTrantor.Net.Dns.PreCancelled
import MiniTrantor.Net.Dns.Registration

/-!
# Requests are settled once

A result that was posted is on its way until the request is completed. In a run in which
threads go on with their calls and loops with their functors it arrives.
-/

set_option autoImplicit false

namespace MiniTrantor.Net.Dns

variable {Ip : Type} {thread : Thread} {request : Nat}

namespace Frame

/-- A frame that has a result of the request, or finds that it is of no use. -/
def carries (request : Nat) : Frame Ip → Bool
  | .posting other _ | .queueing other _ | .abandoning other | .delivering other _ =>
      other = request
  | _ => false

/-- A frame that settles a request does not call user code. -/
def due : Frame Ip → Bool
  | .posting .. | .queueing .. | .abandoning _ | .delivering .. | .releasing .. | .taken .. => true
  | _ => false

/-- How far the result is from being with the loop. -/
def distance : Frame Ip → Nat
  | .posting .. => 2
  | .queueing .. => 1
  | _ => 0

theorem due_of_carries {frame : Frame Ip} (carries : frame.carries request = true) :
    frame.due = true := by
  cases frame <;> first | rfl | cases carries

theorem not_due_of_user {frame : Frame Ip} (user : frame.user = true) : frame.due = false := by
  cases frame <;> first | rfl | cases user

end Frame

def Completed (request : Nat) (shared : Shared Ip) : Prop :=
  ∃ operation, shared.operations request = some operation ∧ operation.completed = true

/-- Where a result of a request is. -/
def Carried (request : Nat) (state : State Ip) : Prop :=
  Completed request state.shared ∨
    (∃ thread, ∃ frame ∈ state.frames thread, frame.carries request = true) ∨
    ∃ loop result, (request, result) ∈ (state.shared.loops loop).pending

/-- Frames that settle a request are on top. -/
def Tops (frames : Thread → List (Frame Ip)) : Prop :=
  ∀ thread, ∀ frame ∈ (frames thread).tail, frame.due = false

section Steps

variable {state next : State Ip} {old rest : List (Frame Ip)} {outcome : Outcome Ip}

theorem Completed.kept (completed : Completed request state.shared) (dense : state.shared.Dense)
    (stepped : Stepped state next thread old outcome rest) : Completed request next.shared := by
  obtain ⟨operation, found, completed⟩ := completed
  obtain ⟨later, held, follows⟩ := stepped.does.follows dense found
  exact ⟨later, by rw [stepped.shared, held], by rw [follows.completed, completed]; rfl⟩

theorem Stepped.stays (stepped : Stepped state next thread old outcome rest) {frame : Frame Ip}
    {holder : Thread} (member : frame ∈ state.frames holder) :
    frame ∈ next.frames holder ∨ holder = thread ∧ frame ∈ old := by
  rw [stepped.frames]
  by_cases mine : holder = thread
  · subst mine
    rw [Function.update_self]
    rw [stepped.top] at member
    obtain top | below := List.mem_append.mp member
    · exact .inr ⟨rfl, top⟩
    · exact .inl (List.mem_append_right _ below)
  · rw [Function.update_of_ne mine]
    exact .inl member

theorem Stepped.new (stepped : Stepped state next thread old outcome rest) {frame : Frame Ip}
    (member : frame ∈ outcome.frames) : frame ∈ next.frames thread := by
  rw [stepped.frames, Function.update_self]
  exact List.mem_append_left _ member

/-- A frame that carries a result hands it on. -/
theorem Stepped.hands {frame : Frame Ip}
    (stepped : Stepped state next thread [frame] outcome rest)
    (carries : frame.carries request = true) : Completed request next.shared ∨
      (∃ loop result, (request, result) ∈ (next.shared.loops loop).pending) ∨
      ∃ later, outcome.frames = [later] ∧ later.carries request = true ∧
        later.distance < frame.distance := by
  rw [stepped.shared]
  cases stepped.does with
  | looks looks =>
      cases looks with
      | late result found done | unneeded found done | superseded result found done =>
          have same := by simpa [Frame.carries] using carries
          subst same
          exact .inl ⟨_, found, done⟩
      | timely | refused => exact .inr (.inr ⟨_, rfl, carries, by simp [Frame.distance]⟩)
      | _ => cases carries
  | @queues other operation result found isOpen =>
      have same := by simpa [Frame.carries] using carries
      subst same
      exact .inr (.inl ⟨operation.callbackHandle, result, by simp⟩)
  | abandons | delivers =>
      have same := by simpa [Frame.carries] using carries
      subst same
      exact .inl ⟨_, Function.update_self _ _ _, rfl⟩
  | _ => cases carries

/-- After a delivery the request is completed. -/
theorem Stepped.delivers {result : ResolveResult Ip}
    (stepped : Stepped state next thread [.delivering request result] outcome rest) :
    Completed request next.shared := by
  rw [stepped.shared]
  cases stepped.does with
  | looks looks =>
      cases looks with
      | superseded result found done => exact ⟨_, found, done⟩
  | delivers => exact ⟨_, Function.update_self _ _ _, rfl⟩

/-- A frame that goes is the one that its thread was at. -/
theorem Stepped.single (stepped : Stepped state next thread old outcome rest) {frame : Frame Ip}
    (member : frame ∈ old) : old = [frame] := by
  have short : old.length ≤ 1 := by
    cases stepped.does <;> simp
  cases old with
  | nil => cases member
  | cons head above =>
      have none : above = [] := List.eq_nil_of_length_eq_zero (by simpa using short)
      subst none
      rw [List.mem_singleton.mp member]

theorem Carried.kept (carried : Carried request state) (dense : state.shared.Dense)
    (stepped : Stepped state next thread old outcome rest) : Carried request next := by
  obtain completed | ⟨holder, frame, member, carries⟩ | ⟨loop, result, member⟩ := carried
  · exact .inl (completed.kept dense stepped)
  · obtain stays | ⟨_, top⟩ := stepped.stays member
    · exact .inr (.inl ⟨holder, frame, stays, carries⟩)
    · obtain rfl := stepped.single top
      obtain completed | pending | ⟨later, frames, carries, _⟩ := stepped.hands carries
      · exact .inl completed
      · exact .inr (.inr pending)
      · exact .inr (.inl ⟨thread, later, stepped.new (frames ▸ List.mem_cons_self), carries⟩)
  · obtain stays | ⟨_, frames⟩ : (request, result) ∈ (next.shared.loops loop).pending ∨
        thread = .owner loop ∧ outcome.frames = [.delivering request result] := by
      obtain ⟨before, after, place⟩ := List.append_of_mem member
      rw [stepped.shared]
      obtain ⟨_, kept⟩ | ⟨⟨mine, _⟩, ⟨_, taken⟩ | ⟨_, _, _, _, kept⟩⟩ := stepped.does.waits place
      · exact .inl (by rw [kept]; simp)
      · exact .inr ⟨mine, taken⟩
      · exact .inl (by rw [kept]; simp)
    · exact .inr (.inr ⟨loop, result, stays⟩)
    · exact .inr (.inl ⟨thread, .delivering request result,
        stepped.new (frames ▸ List.mem_cons_self), by simp [Frame.carries]⟩)

theorem Stepped.posted (stepped : Stepped state next thread old outcome rest)
    {result : ResolveResult Ip} (posted : .posted request result ∈ outcome.events) :
    Carried request next := by
  refine .inr (.inl ⟨thread, .posting request result, stepped.new ?_, by simp [Frame.carries]⟩)
  cases stepped.does <;> simp [Shared.user, Shared.settle, Shared.post] at posted ⊢ <;>
    simp [posted]

theorem Does.below (does : Does state.shared thread rest old outcome) :
    ∀ frame ∈ outcome.frames.tail, frame.due = false := by
  cases does with
  | looks looks =>
      cases looks with
      | unwanted registered => cases registered <;> simp
      | _ => simp
  | abandons | delivers =>
      simp only [Shared.settle]
      split <;> simp
  | _ => simp [Shared.user, Shared.post, Frame.due]

theorem Stepped.tops (stepped : Stepped state next thread old outcome rest)
    (tops : Tops state.frames) : Tops next.frames := by
  rw [stepped.frames]
  refine Custody.below_tops tops stepped.top stepped.does.below fun none => ?_
  obtain empty | user := stepped.user none
  · exact .inl empty
  · exact .inr fun frame first => Frame.not_due_of_user (user frame first)

end Steps

structure History (state : State Ip) : Prop where
  delivered : Delivered state
  registered : ∃ stages, Registered state stages
  heard : Heard state
  preCancelled : PreCancelled state
  tops : Tops state.frames
  carried : ∀ request result, .posted request result ∈ state.trace → Carried request state

theorem History.start : History ({} : State Ip) where
  delivered := .start
  registered := ⟨_, .start⟩
  heard := by simp [Heard]
  preCancelled := by simp [PreCancelled]
  tops := by simp [Tops]
  carried := by simp

theorem History.kept {state next : State Ip} {old rest : List (Frame Ip)} {outcome : Outcome Ip}
    (history : History state) (stepped : Stepped state next thread old outcome rest) :
    History next where
  delivered := history.delivered.kept stepped
  registered := by
    obtain ⟨stages, registered⟩ := history.registered
    exact registered.kept history.delivered stepped
  heard := history.heard.kept history.delivered.sound stepped
  preCancelled := history.preCancelled.kept history.delivered.sound history.heard stepped
  tops := stepped.tops history.tops
  carried request result posted := by
    rw [stepped.trace] at posted
    obtain old | new := List.mem_append.mp posted
    · exact (history.carried request result old).kept history.delivered.sound.dense stepped
    · exact stepped.posted new

theorem History.reach {state : State Ip} (reachable : Reach State.step (fun _ _ => True) {} state) :
    History state := by
  refine reachable.invariant .start fun state next move history _ ran => ?_
  obtain ⟨thread, action⟩ := move
  obtain ⟨old, outcome, rest, stepped⟩ := step_cases ran
  exact history.kept stepped

/-! ## Results arrive -/

/-- Threads go on with the calls that they are in, and loops run what they were handed. -/
structure Fair {start : State Ip} (run : EndlessRun State.step start) : Prop where
  advances : ∀ n thread, (run.states n).frames thread ≠ [] →
    ∃ m, n ≤ m ∧ ∃ choice, run.actions m = (thread, .advance choice)
  runs : ∀ n loop, ((run.states n).shared.loops loop).pending ≠ [] →
    ∃ m, n ≤ m ∧ run.actions m = (.owner loop, .run)

/-- Nothing is under way. -/
structure AtRest (state : State Ip) : Prop where
  frames : ∀ thread, state.frames thread = []
  pending : ∀ loop, (state.shared.loops loop).pending = []

/-- Time goes on. -/
def idle (state : State Ip) : EndlessRun State.step state where
  states n := { state with shared := { state.shared with now := state.shared.now + n } }
  actions _ := (.external 0, .tick)
  starts := rfl
  steps _ := rfl

theorem AtRest.fair {state : State Ip} (rest : AtRest state) : Fair (idle state) where
  advances _ thread busy := absurd (rest.frames thread) busy
  runs _ loop waits := absurd (rest.pending loop) waits

/-- A thread gets out of its calls by going on only. -/
theorem stays_busy {state next : State Ip} {action : Thread × Action Ip}
    (ran : state.step action = some next) (busy : state.frames thread ≠ [])
    (others : ¬ ∃ choice, action = (thread, .advance choice)) : next.frames thread ≠ [] := by
  obtain ⟨mover, action⟩ := action
  by_cases mine : mover = thread
  · subst mine
    cases action with
    | advance choice => exact absurd ⟨choice, rfl⟩ others
    | user command =>
        obtain ⟨_, same⟩ := Option.ite_none_right_eq_some.mp ran
        cases same
        simp [State.put, busy]
    | tick =>
        cases ran
        exact busy
    | pop | run | close => simp [State.step, busy] at ran
  · obtain ⟨old, outcome, rest, stepped⟩ := step_cases ran
    rw [stepped.frames, Function.update_of_ne (Ne.symm mine)]
    exact busy

/-- A loop is rid of what it was handed when it runs it. -/
theorem stays_pending {state next : State Ip} {action : Thread × Action Ip} {loop : LoopId}
    (ran : state.step action = some next) (waits : (state.shared.loops loop).pending ≠ [])
    (others : action ≠ (.owner loop, .run)) : (next.shared.loops loop).pending ≠ [] := by
  obtain ⟨mover, action⟩ := action
  obtain ⟨entry, after, place⟩ := List.exists_cons_of_ne_nil waits
  cases action with
  | advance choice =>
      cases stack : state.frames mover with
      | nil => simp [State.step, stack] at ran
      | cons frame rest =>
          obtain ⟨outcome, stepped⟩ := advance_stepped stack ran
          rw [stepped.shared]
          obtain ⟨_, kept⟩ | ⟨⟨_, none⟩, _⟩ :=
            @Does.waits _ _ _ _ _ _ stepped.does loop entry [] after place
          · simp [kept]
          · cases none
  | user command =>
      obtain ⟨_, same⟩ := Option.ite_none_right_eq_some.mp ran
      cases same
      cases command <;> exact waits
  | tick =>
      cases ran
      exact waits
  | pop =>
      obtain ⟨_, ran⟩ := Option.ite_none_right_eq_some.mp ran
      obtain ⟨outcome, took, same⟩ := Option.map_eq_some_iff.mp ran
      subst same
      cases mover with
      | worker index =>
          simp only [Shared.takeUp] at took
          split at took
          · cases took
          · cases took
            exact waits
      | _ => cases took
  | run =>
      obtain ⟨_, ran⟩ := Option.ite_none_right_eq_some.mp ran
      obtain ⟨outcome, took, same⟩ := Option.map_eq_some_iff.mp ran
      subst same
      cases mover with
      | owner other =>
          have apart : loop ≠ other := fun same => others (by rw [same])
          simp only [Shared.takeUp] at took
          split at took
          · cases took
          · cases took
            simpa [State.put, apart] using waits
      | _ => cases took
  | close =>
      obtain ⟨_, ran⟩ := Option.ite_none_right_eq_some.mp ran
      obtain ⟨outcome, took, same⟩ := Option.map_eq_some_iff.mp ran
      subst same
      cases mover with
      | owner other =>
          obtain ⟨_, same⟩ := Option.ite_none_right_eq_some.mp took
          cases same
          by_cases same : loop = other
          · subst same
            simpa [State.put] using waits
          · simpa [State.put, same] using waits
      | _ => cases took

theorem Fair.after {state next : State Ip} {action : Thread × Action Ip}
    (ran : state.step action = some next) {run : EndlessRun State.step next} (fair : Fair run) :
    Fair (run.after action ran) := by
  have late : ∀ {n : Nat} (taken : Thread × Action Ip → Prop),
      (∃ m, n ≤ m ∧ taken (run.actions m)) →
        ∃ m, n + 1 ≤ m ∧ taken ((run.after action ran).actions m) := by
    intro n taken bound
    obtain ⟨m, later, taken⟩ := bound
    exact ⟨m + 1, by omega, taken⟩
  have soon : ∀ taken : Thread × Action Ip → Prop, (∃ m, 0 ≤ m ∧ taken (run.actions m)) →
      ∃ m, 0 ≤ m ∧ taken ((run.after action ran).actions m) := by
    intro taken bound
    obtain ⟨m, _, taken⟩ := bound
    exact ⟨m + 1, by omega, taken⟩
  constructor
  · intro n thread busy
    cases n with
    | succ n => exact late (∃ choice, · = (thread, .advance choice)) (fair.advances n thread busy)
    | zero =>
        by_cases goes : ∃ choice, action = (thread, .advance choice)
        · exact ⟨0, le_rfl, goes⟩
        · refine soon (∃ choice, · = (thread, .advance choice)) (fair.advances 0 thread ?_)
          rw [run.starts]
          exact stays_busy ran busy goes
  · intro n loop waits
    cases n with
    | succ n => exact late (· = (.owner loop, .run)) (fair.runs n loop waits)
    | zero =>
        by_cases runs : action = (.owner loop, .run)
        · exact ⟨0, le_rfl, runs⟩
        · refine soon (· = (.owner loop, .run)) (fair.runs 0 loop ?_)
          rw [run.starts]
          exact stays_pending ran waits runs

/-- A run that comes to rest goes on as a fair one. -/
theorem exists_fair {state final : State Ip} {actions : List (Thread × Action Ip)}
    (ran : MiniTrantor.run State.step state actions = some final) (rest : AtRest final) :
    ∃ run : EndlessRun State.step state, Fair run := by
  induction actions generalizing state with
  | nil =>
      cases ran
      exact ⟨_, rest.fair⟩
  | cons action others ih =>
      obtain ⟨next, first, ran⟩ := Option.bind_eq_some_iff.mp ran
      obtain ⟨run, fair⟩ := ih ran
      exact ⟨_, fair.after first⟩

/-- A delivery of the request is among the first that the loop has. -/
def Near (request : Nat) (loop : LoopId) (bound : Nat) (state : State Ip) : Prop :=
  ∃ before result after, (state.shared.loops loop).pending = before ++ (request, result) :: after ∧
    before.length ≤ bound

/-- A delivery of the request is on the stack of a loop, or was. -/
def Handed (request : Nat) (state : State Ip) : Prop :=
  Completed request state.shared ∨
    ∃ thread result, .delivering request result ∈ state.frames thread

section Progress

variable {start : State Ip} {run : EndlessRun State.step start}

/-- A call that is not in user code stays where it is until its thread goes on. -/
theorem stays_on_top {state next : State Ip} {action : Thread × Action Ip} {frame : Frame Ip}
    (ran : state.step action = some next) (due : frame.due = true)
    (top : (state.frames thread).head? = some frame)
    (others : ¬ ∃ choice, action = (thread, .advance choice)) :
    (next.frames thread).head? = some frame := by
  obtain ⟨mover, action⟩ := action
  by_cases mine : mover = thread
  · subst mine
    cases stack : state.frames mover with
    | nil =>
        rw [stack] at top
        cases top
    | cons head below =>
        rw [stack] at top
        cases top
        cases action with
        | advance choice => exact absurd ⟨choice, rfl⟩ others
        | user command =>
            have calls : frame.user = true := by
              by_contra idle
              simp [State.step, State.mayCall, stack, idle] at ran
            rw [Frame.not_due_of_user calls] at due
            cases due
        | tick =>
            cases ran
            simp [stack]
        | pop | run | close => simp [State.step, stack] at ran
  · obtain ⟨old, outcome, rest, stepped⟩ := step_cases ran
    rw [stepped.frames, Function.update_of_ne (Ne.symm mine)]
    exact top

theorem goes_on (fair : Fair run) {n : Nat} {frame : Frame Ip} (due : frame.due = true)
    (top : ((run.states n).frames thread).head? = some frame) :
    ∃ m, n ≤ m ∧ ∃ outcome rest,
      Stepped (run.states m) (run.states (m + 1)) thread [frame] outcome rest := by
  have busy : (run.states n).frames thread ≠ [] := by
    intro none
    rw [none] at top
    cases top
  have until_taken := @EndlessRun.lasts_until _ _ _ _ run
    (fun state => (state.frames thread).head? = some frame)
    fun action => ∃ choice, action = (thread, .advance choice)
  obtain ⟨m, later, ⟨choice, action⟩, top⟩ := until_taken (fair.advances n thread busy) top
    fun state action next ran top others => stays_on_top ran due top others
  have ran := run.steps m
  rw [action] at ran
  cases stack : (run.states m).frames thread with
  | nil =>
      rw [stack] at top
      cases top
  | cons head rest =>
      rw [stack] at top
      cases top
      obtain ⟨outcome, stepped⟩ := advance_stepped stack ran
      exact ⟨m, later, outcome, rest, stepped⟩

variable (history : ∀ n, History (run.states n)) (fair : Fair run)

/-- The callback was invoked or dropped. -/
def Decided (request : Nat) (state : State Ip) : Prop :=
  ∃ thread result, phase request state.trace = .ended thread result

include history

theorem due_on_top {n : Nat} {frame : Frame Ip} (member : frame ∈ (run.states n).frames thread)
    (due : frame.due = true) : ((run.states n).frames thread).head? = some frame := by
  have tops := (history n).tops thread frame
  cases stack : (run.states n).frames thread with
  | nil =>
      rw [stack] at member
      cases member
  | cons head rest =>
      rw [stack] at member tops
      obtain rfl | below := List.mem_cons.mp member
      · rfl
      · rw [tops below] at due
        cases due

include fair

theorem taken_leads : run.LeadsTo
    (fun state => ∃ thread result, (state.frames thread).head? = some (.taken request result))
    (Decided request) := by
  intro n holds
  obtain ⟨thread, result, top⟩ := holds
  obtain ⟨m, later, outcome, rest, stepped⟩ := goes_on fair rfl top
  refine ⟨m + 1, by omega, thread, result, ?_⟩
  have was := (history m).delivered.top stepped.top
    (List.mem_singleton_self (request, Phase.taken thread result))
  rw [stepped.phase]
  cases stepped.does with
  | calls | drops => simp [Phase.next, was]
  | looks looks => cases looks

theorem completed_leads :
    run.LeadsTo (fun state => Completed request state.shared) (Decided request) := by
  have settled : run.LeadsTo (fun state => ∃ thread result,
      phase request state.trace = .taken thread result) (Decided request) := by
    intro n holds
    obtain ⟨thread, result, taken⟩ := holds
    have member := ((history n).delivered.inStep.exact thread request (.taken thread result)
      rfl).mpr taken
    obtain ⟨frame, listed, busy⟩ := List.mem_flatMap.mp member
    cases frame with
    | taken other given =>
        cases List.mem_singleton.mp busy
        exact taken_leads history fair n ⟨thread, result, due_on_top history listed rfl⟩
    | releasing other given =>
        cases List.mem_singleton.mp busy
        obtain ⟨m, later, outcome, rest, stepped⟩ :=
          goes_on fair rfl (due_on_top history listed rfl)
        have top : ((run.states (m + 1)).frames thread).head? = some (.taken request result) := by
          rw [stepped.frames, Function.update_self]
          cases stepped.does with
          | releases => rfl
          | looks looks => cases looks
        obtain ⟨l, latest, decided⟩ := taken_leads history fair (m + 1) ⟨thread, result, top⟩
        exact ⟨l, by omega, decided⟩
    | _ => cases busy
  intro n holds
  obtain ⟨operation, found, completed⟩ := holds
  have begun := ((history n).delivered.completed request operation found).mp completed
  have legal := ((history n).delivered.right request operation found).legal
  cases now : phase request (run.states n).trace with
  | waiting => exact absurd now begun
  | broken => exact absurd now legal
  | taken thread result => exact settled n ⟨thread, result, now⟩
  | ended thread result => exact ⟨n, le_rfl, thread, result, now⟩

/-- A delivery that is on the stack of the loop completes the request. -/
theorem delivering_leads : run.LeadsTo
    (fun state => ∃ thread result, .delivering request result ∈ state.frames thread)
    (fun state => Completed request state.shared) := by
  intro n holds
  obtain ⟨thread, result, member⟩ := holds
  obtain ⟨m, later, outcome, rest, stepped⟩ := goes_on fair rfl (due_on_top history member rfl)
  exact ⟨m + 1, by omega, stepped.delivers⟩

omit history fair in
/-- A loop takes up what it was handed first. -/
theorem runs_first {state next : State Ip} {loop : LoopId} {result : ResolveResult Ip}
    {others : List (Nat × ResolveResult Ip)}
    (pending : (state.shared.loops loop).pending = (request, result) :: others)
    (ran : state.step (.owner loop, .run) = some next) :
    (next.shared.loops loop).pending = others ∧
      .delivering request result ∈ next.frames (.owner loop) := by
  obtain ⟨_, ran⟩ := Option.ite_none_right_eq_some.mp ran
  simp only [Shared.takeUp, pending, Option.map_some, Option.some.injEq] at ran
  subst ran
  simp [State.put]

omit history fair in
/-- A delivery that is among the first of a loop stays so, or is taken up. -/
theorem Stepped.nearer {state next : State Ip} {old rest : List (Frame Ip)} {outcome : Outcome Ip}
    (stepped : Stepped state next thread old outcome rest) {loop : LoopId} {bound : Nat}
    (near : Near request loop bound state) : Near request loop bound next ∨ Handed request next := by
  obtain ⟨before, result, after, place, short⟩ := near
  obtain ⟨after, kept⟩ | ⟨_, ⟨_, taken⟩ | ⟨first, ahead, after, rfl, kept⟩⟩ :=
    stepped.does.waits place
  · exact .inl ⟨before, result, after, by rw [stepped.shared, kept], short⟩
  · exact .inr (.inr ⟨thread, result, stepped.new (taken ▸ List.mem_cons_self)⟩)
  · refine .inl ⟨ahead, result, after, by rw [stepped.shared, kept], ?_⟩
    rw [List.length_cons] at short
    omega

omit history fair in
theorem Handed.kept {state next : State Ip} {old rest : List (Frame Ip)} {outcome : Outcome Ip}
    (handed : Handed request state) (dense : state.shared.Dense)
    (stepped : Stepped state next thread old outcome rest) : Handed request next := by
  obtain completed | ⟨holder, result, member⟩ := handed
  · exact .inl (completed.kept dense stepped)
  · obtain stays | ⟨_, top⟩ := stepped.stays member
    · exact .inr ⟨holder, result, stays⟩
    · obtain rfl := stepped.single top
      exact .inl stepped.delivers

theorem handed_leads :
    run.LeadsTo (Handed request) (fun state => Completed request state.shared) :=
  .either (.of_imp fun _ completed => completed) (delivering_leads history fair)

/-- The loop runs the delivery or one before it. -/
theorem comes_nearer {loop : LoopId} {bound n : Nat}
    (near : Near request loop bound (run.states n)) : ∃ m, n ≤ m ∧
      (Handed request (run.states m) ∨
        ∃ less, less < bound ∧ Near request loop less (run.states m)) := by
  have waits : ((run.states n).shared.loops loop).pending ≠ [] := by
    obtain ⟨before, result, after, place, _⟩ := near
    simp [place]
  have until_taken := @EndlessRun.lasts_until _ _ _ _ run
    (fun state => History state ∧ (Near request loop bound state ∨ Handed request state))
    fun action => action = (.owner loop, .run)
  obtain ⟨m, later, action, _, still⟩ := until_taken (fair.runs n loop waits)
    ⟨history n, .inl near⟩ fun state action next ran holds _ => by
      obtain ⟨history, holds⟩ := holds
      obtain ⟨mover, action⟩ := action
      obtain ⟨old, outcome, rest, stepped⟩ := step_cases ran
      refine ⟨history.kept stepped, holds.elim stepped.nearer fun handed => ?_⟩
      exact .inr (handed.kept history.delivered.sound.dense stepped)
  obtain ⟨before, result, after, place, short⟩ | handed := still
  · have ran := run.steps m
    rw [action] at ran
    refine ⟨m + 1, by omega, ?_⟩
    cases before with
    | nil => exact .inl (.inr ⟨_, result, (runs_first place ran).2⟩)
    | cons first ahead =>
        rw [List.length_cons] at short
        exact .inr ⟨ahead.length, by omega, ahead, result, after, (runs_first place ran).1, le_rfl⟩
  · exact ⟨m, later, .inl handed⟩

theorem near_leads (loop : LoopId) (bound : Nat) :
    run.LeadsTo (Near request loop bound) (fun state => Completed request state.shared) := by
  induction bound using Nat.strong_induction_on with
  | _ bound ih =>
      intro n near
      obtain ⟨m, later, handed | ⟨less, smaller, near⟩⟩ := comes_nearer history fair near
      · obtain ⟨l, latest, completed⟩ := handed_leads history fair m handed
        exact ⟨l, later.trans latest, completed⟩
      · obtain ⟨l, latest, completed⟩ := ih less smaller m near
        exact ⟨l, later.trans latest, completed⟩

theorem pending_leads : run.LeadsTo
    (fun state => ∃ loop result, (request, result) ∈ (state.shared.loops loop).pending)
    (fun state => Completed request state.shared) := by
  intro n holds
  obtain ⟨loop, result, member⟩ := holds
  obtain ⟨before, after, place⟩ := List.append_of_mem member
  exact near_leads history fair loop before.length n ⟨before, result, after, place, le_rfl⟩

/-- A result that a thread has gets to the loop, or is of no use. -/
theorem carrying_leads (far : Nat) : run.LeadsTo
    (fun state => ∃ thread, ∃ frame ∈ state.frames thread, frame.carries request = true ∧
      frame.distance = far) (fun state => Completed request state.shared) := by
  induction far using Nat.strong_induction_on with
  | _ far ih =>
      intro n holds
      obtain ⟨thread, frame, member, carries, rfl⟩ := holds
      have due := Frame.due_of_carries carries
      obtain ⟨m, later, outcome, rest, stepped⟩ :=
        goes_on fair due (due_on_top history member due)
      obtain completed | pending | ⟨after, frames, carries, nearer⟩ := stepped.hands carries
      · exact ⟨m + 1, by omega, completed⟩
      · obtain ⟨l, latest, completed⟩ := pending_leads history fair (m + 1) pending
        exact ⟨l, by omega, completed⟩
      · obtain ⟨l, latest, completed⟩ := ih after.distance nearer (m + 1)
          ⟨thread, after, stepped.new (frames ▸ List.mem_cons_self), carries, rfl⟩
        exact ⟨l, by omega, completed⟩

theorem carried_leads :
    run.LeadsTo (Carried request) (fun state => Completed request state.shared) := by
  refine .either (.of_imp fun _ completed => completed) (.either (fun n holds => ?_)
    (pending_leads history fair))
  obtain ⟨thread, frame, member, carries⟩ := holds
  exact carrying_leads history fair frame.distance n ⟨thread, frame, member, carries, rfl⟩

end Progress

/-- What holds of the requests in a state, and of those for which a result was posted in every
run that goes on from it. -/
structure SettledOnce (state : State Ip) : Prop where
  atMostOnce : ∀ request, outcomes request state.trace ≤ 1
  invoked : ∀ thread request result, .invoked thread request result ∈ state.trace →
    ∃ operation, state.shared.operations request = some operation ∧
      thread = .owner operation.callbackHandle ∧
      (queuedResults request state.trace).head? = some result
  abandoned : ∀ thread request, .abandoned thread request ∈ state.trace →
    ∃ operation, state.shared.operations request = some operation ∧
      .closed operation.callbackHandle ∈ state.trace ∧ queuedResults request state.trace = []
  eventually : ∀ request result, .posted request result ∈ state.trace →
    ∀ run : EndlessRun State.step state, Fair run → ∃ n, ∀ m, n ≤ m →
      outcomes request (run.states m).trace = 1
  preCancelled : ∀ before request after operation token,
    state.trace = before ++ .resolve request :: after →
    state.shared.operations request = some operation → operation.token = some token →
    .cancelled token ∈ before → request ∉ state.shared.requestQueue ∧
      ∀ event ∈ state.trace, event.OnlyCancelled request
  unregistered : ∀ request operation, state.shared.operations request = some operation →
    operation.completed = true → operation.registration = false ∧
      ∀ token, request ∈ (state.shared.sources token).callbacks → ∃ thread, ∃ frame ∈
        state.frames thread, frame = .installing request true ∨ frame.unregisters request = true

/-- A callback that was invoked or dropped stays so. -/
theorem decided_outcomes {state : State Ip} (decided : Decided request state) : outcomes request state.trace = 1 := by
  obtain ⟨thread, result, ended⟩ := decided
  rw [outcomes_eq (by rw [ended]; simp), ended]
  rfl

theorem Decided.kept {state next : State Ip} {old rest : List (Frame Ip)} {outcome : Outcome Ip}
    (decided : Decided request state) (delivered : Delivered state)
    (stepped : Stepped state next thread old outcome rest) : Decided request next := by
  obtain ⟨holder, result, ended⟩ := decided
  obtain ⟨same, _⟩ | ⟨operation, _, found, fresh, _⟩ | ⟨_, was, _⟩ := stepped.turn delivered request
  · exact ⟨holder, result, same.trans ended⟩
  · cases (delivered.waiting found fresh).symm.trans ended
  · cases was.symm.trans ended

theorem settled_once {state : State Ip}
    (reachable : Reach State.step (fun _ _ => True) {} state) : SettledOnce state := by
  have history := History.reach reachable
  have delivered := history.delivered
  have legal : ∀ request, phase request state.trace ≠ .broken := by
    intro request
    cases found : state.shared.operations request with
    | none =>
        rw [(delivered.unknown request found).1]
        simp
    | some operation => exact (delivered.right request operation found).legal
  refine ⟨fun request => ?_, fun thread request result invoked => ?_,
    fun thread request abandoned => ?_, fun request result posted run fair => ?_,
    fun before request after operation token split found linked cancelled => ?_,
    fun request operation found completed => ⟨?_, fun token member => ?_⟩⟩
  · rw [outcomes_eq (legal request)]
    cases phase request state.trace <;> simp [Phase.outcomes]
  · obtain ⟨operation, found⟩ := history.heard _ invoked request rfl
    have ended := invoked_phase (legal request) invoked
    exact ⟨operation, found, (delivered.right request operation found).delivered thread result
      (.inr ended)⟩
  · obtain ⟨operation, found⟩ := history.heard _ abandoned request rfl
    have ended := abandoned_phase (legal request) abandoned
    obtain ⟨closed, none⟩ := (delivered.right request operation found).dropped thread (.inr ended)
    exact ⟨operation, found, (delivered.sound.closed _).mp closed, none⟩
  · have always : ∀ n, History (run.states n) := fun n =>
      History.reach (EndlessRun.reach reachable (fun _ => trivial) n)
    have carried : Carried request (run.states 0) := by
      rw [run.starts]
      exact history.carried request result posted
    obtain ⟨n, _, completed⟩ := carried_leads always fair 0 carried
    obtain ⟨m, _, decided⟩ := completed_leads always fair n completed
    refine ⟨m, fun l later => decided_outcomes ?_⟩
    induction l, later using Nat.le_induction with
    | base => exact decided
    | succ l _ ih =>
        obtain ⟨old, outcome, rest, stepped⟩ := step_cases (run.steps l)
        exact ih.kept (always l).delivered stepped
  · have only := history.preCancelled before request after operation token split found linked
      cancelled
    exact ⟨only.requestQueue, only.trace⟩
  · obtain ⟨stages, registered⟩ := history.registered
    exact registered.completed request operation found completed
  · obtain ⟨stages, registered⟩ := history.registered
    obtain ⟨other, held, _, ⟨holder, within⟩ | ⟨_, set | ⟨holder, frame, listed, busy⟩⟩⟩ :=
      registered.listed token request member
    · have listed := (registered.inStep.exact holder request (.within holder true) rfl).mpr within
      obtain ⟨frame, listed, busy⟩ := List.mem_flatMap.mp listed
      refine ⟨holder, frame, listed, .inl ?_⟩
      cases frame with
      | installing =>
          cases List.mem_singleton.mp busy
          rfl
      | starting | registering => cases List.mem_singleton.mp busy
      | _ => cases busy
    · cases found.symm.trans held
      rw [registered.completed request operation found completed] at set
      cases set
    · exact ⟨holder, frame, listed, .inr busy⟩

/-- A thread that does nothing stays where it is. -/
theorem frames_of_others {state final : State Ip} {actions : List (Thread × Action Ip)}
    (ran : MiniTrantor.run State.step state actions = some final)
    (others : ∀ action ∈ actions, action.1 ≠ thread) :
    final.frames thread = state.frames thread := by
  induction actions generalizing state with
  | nil =>
      cases ran
      rfl
  | cons action rest ih =>
      obtain ⟨next, first, ran⟩ := Option.bind_eq_some_iff.mp ran
      rw [ih ran fun other member => others other (List.mem_cons_of_mem _ member)]
      obtain ⟨mover, action⟩ := action
      obtain ⟨old, outcome, rest, stepped⟩ := step_cases first
      rw [stepped.frames, Function.update_of_ne (Ne.symm (others _ List.mem_cons_self))]

/-- A request is cancelled while a worker resolves it, and both results are queued. The loop is
closed, and another request begins with the token. -/
def race : List (Thread × Action Nat) :=
  [(.external 1, .user (.resolve "host" 80 0 (some 3))), (.external 1, .advance .go),
    (.external 1, .advance .go), (.external 2, .user (.cancel 3)), (.external 2, .advance .go),
    (.external 2, .advance .go), (.external 1, .advance .go), (.external 1, .advance .go),
    (.external 1, .advance .go), (.external 1, .advance .go), (.worker 0, .pop),
    (.worker 0, .advance .go), (.external 2, .advance (.notify 0)), (.external 2, .advance .go),
    (.worker 0, .advance (.answer (some [7]))), (.worker 0, .advance .go),
    (.external 2, .advance .go), (.worker 0, .advance .go), (.owner 0, .run),
    (.owner 0, .advance .go), (.owner 0, .advance .go), (.owner 0, .advance .go),
    (.owner 0, .advance .go), (.owner 0, .run), (.owner 0, .advance .go), (.owner 0, .close),
    (.external 1, .user (.resolve "host" 80 0 (some 3))), (.external 1, .advance .go),
    (.external 1, .advance .go), (.external 1, .advance .go)]

/-- The callback of the first request was invoked and that of the second is still to be dropped. -/
theorem settled_once_raced : ∃ state : State Nat, run State.step {} race = some state ∧
    SettledOnce state ∧ outcomes 0 state.trace = 1 ∧ outcomes 1 state.trace = 0 ∧
    ∃ run : EndlessRun State.step state, Fair run := by
  have evaluated : ((run State.step ({} : State Nat) race).bind fun state =>
      (run State.step state [(.external 1, .advance .go), (.external 1, .advance .go),
        (.external 1, .advance .go), (.external 2, .advance .go)]).map fun final =>
          ((outcomes 0 state.trace, outcomes 1 state.trace),
            [(final.frames (.external 1)).length, (final.frames (.external 2)).length,
              (final.frames (.owner 0)).length, (final.frames (.worker 0)).length,
              (final.shared.loops 0).pending.length],
            final.shared.requests, (final.shared.operations 0).map Operation.callbackHandle,
            (final.shared.operations 1).map Operation.callbackHandle)) =
      some ((1, 0), [0, 0, 0, 0, 0], 2, some 0, some 0) := by
    decide +kernel
  obtain ⟨state, ran, evaluated⟩ := Option.bind_eq_some_iff.mp evaluated
  obtain ⟨final, finish, evaluated⟩ := Option.map_eq_some_iff.mp evaluated
  simp only [Prod.mk.injEq, List.cons.injEq, List.length_eq_zero_iff, and_true] at evaluated
  obtain ⟨⟨first, second⟩, ⟨one, two, owner, worker, empty⟩, requests, own, other⟩ := evaluated
  have reachable : Reach State.step (fun _ _ => True) ({} : State Nat) state :=
    Reach.run .start (fun _ _ _ => trivial) ran
  have sound := (History.reach (reachable.run (fun _ _ _ => trivial) finish)).delivered.sound
  refine ⟨state, ran, settled_once reachable, first, second, exists_fair finish
    ⟨fun thread => ?_, fun loop => List.eq_nil_iff_forall_not_mem.mpr fun entry member => ?_⟩⟩
  · by_cases mine : thread = .external 1 ∨ thread = .external 2 ∨ thread = .owner 0 ∨
        thread = .worker 0
    · obtain rfl | rfl | rfl | rfl := mine <;> assumption
    · simp only [not_or] at mine
      rw [frames_of_others finish, frames_of_others ran]
      · simp [race, Ne.symm mine.1, Ne.symm mine.2.1, Ne.symm mine.2.2.1, Ne.symm mine.2.2.2]
      · simp [Ne.symm mine.1, Ne.symm mine.2.1]
  · obtain ⟨operation, found, same⟩ := sound.pending loop entry member
    have known : entry.1 < 2 := by
      by_contra above
      rw [(sound.dense entry.1).mp (by omega)] at found
      cases found
    have zero : loop = 0 := by
      obtain first | second : entry.1 = 0 ∨ entry.1 = 1 := by omega
      · rw [first] at found
        simpa [found, same] using own
      · rw [second] at found
        simpa [found, same] using other
    subst zero
    rw [empty] at member
    cases member

end MiniTrantor.Net.Dns
