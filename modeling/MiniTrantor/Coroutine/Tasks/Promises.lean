import MiniTrantor.Acyclic
import MiniTrantor.Coroutine.Tasks.Runs

/-!
# What becomes of tasks

What `Task` is for, over all runs: who has a frame, where it runs, what is returned to whom, and
what is left when no thread does anything any more.
-/

set_option autoImplicit false

namespace MiniTrantor.Coroutine.Tasks

open Relation (ReflTransGen TransGen EqvGen)

namespace Coroutines

variable {Value Failure : Type} {coroutines next : Coroutines Value Failure} {thread : Thread}
  {frame other : FrameId}

theorem Sound.start : Sound ({} : Coroutines Value Failure) none where
  threaded := .start
  owned := by
    apply SoleOwnership.start
    · intro holder
      cases holder <;> rfl
    · exact fun frame owes => absurd owes.1 (Nat.not_lt_zero _)
  linked := by
    refine ⟨.start, fun _ known => absurd known (Nat.not_lt_zero _), ?_, ?_, ?_, ?_, ?_⟩
    · exact fun _ _ listed => absurd listed List.not_mem_nil
    all_goals
      intro parent child awaits
      cases awaits
  waiting := by
    constructor
    · exact fun _ _ awaits => by cases awaits
    · exact fun _ _ _ awaits => by cases awaits
    · exact fun _ _ awaits => by cases awaits
    · exact fun _ waits => by cases waits
    · exact fun _ awaits => absurd rfl awaits
    · exact fun _ _ _ _ listed => absurd listed List.not_mem_nil
    · exact fun _ _ _ listed => absurd listed List.not_mem_nil
    · exact fun _ _ _ listed => absurd listed List.not_mem_nil
  assigned := by
    constructor
    · exact fun _ _ _ listed => absurd listed List.not_mem_nil
    · exact fun _ => List.nodup_nil
    · exact fun _ _ _ _ listed => absurd listed List.not_mem_nil
  housed := by
    constructor
    · exact fun _ held => absurd rfl held
    · exact fun _ _ home => by cases home
    · exact fun _ _ home => by cases home
  fresh _ _ := rfl

theorem valid_of_reach (reach : Reach Coroutines.step Permitted {} coroutines) :
    coroutines.Valid ∧
      (coroutines.terminated = false → ∀ frame, coroutines.Faithful frame) := by
  apply reach.invariant
  · exact ⟨.of_sound .start (fun _ => .start) rfl, fun _ => Faithful.start_⟩
  · rintro coroutines next action ⟨valid, faithful⟩ permitted taken
    have later := valid.step permitted taken
    refine ⟨later, fun live => ?_⟩
    have running := (step_cases taken).1
    exact Faithful.step (faithful running) valid running later.defined live permitted taken

def WaitsFor (coroutines : Coroutines Value Failure) (parent child : FrameId) : Prop :=
  coroutines.awaiter parent = some child

namespace Sound

variable (sound : coroutines.Sound none)
include sound

theorem gates_below (path : ReflTransGen coroutines.WaitsFor frame other) :
    coroutines.gate other = coroutines.gate frame := by
  induction path with
  | refl => rfl
  | tail _ step ih => exact (sound.linked.together _ _ step).trans ih

/-- The coroutines above one that runs wait for it. -/
theorem waits_above {root : FrameId} (path : ReflTransGen coroutines.controls.Edge root frame)
    (runs : coroutines.status frame = .running thread) :
    ReflTransGen coroutines.WaitsFor root frame := by
  induction path using ReflTransGen.head_induction_on with
  | refl => exact .refl
  | @head root child edge _ path =>
      refine .head ?_ path
      obtain dead | awaits | none := sound.linked.children root child edge.2.2
      · -- what a frame awaits that is being destroyed does not run
        obtain rfl | ⟨next, waits, rest⟩ := path.cases_head
        · rw [runs] at dead
          cases dead
        · obtain ⟨_, _, _, quiet⟩ := sound.waiting.destroyed child next waits dead
          rw [← sound.gates_below rest] at quiet
          exact absurd quiet (sound.threaded.busy runs).2
      · exact awaits
      · cases none

/-- A coroutine that waits for another one does not run together with it. -/
theorem runs_alone {first second : FrameId} {holder : Thread}
    (path : ReflTransGen coroutines.WaitsFor first second)
    (runs : coroutines.status first = .running thread)
    (also : coroutines.status second = .running holder) : first = second := by
  obtain same | ⟨child, awaits, rest⟩ := path.cases_head
  · exact same
  · have done := sound.waiting.returns first child thread awaits runs
    obtain rfl | ⟨next, again, _⟩ := rest.cases_head
    · rw [done] at also
      cases also
    · have waits : coroutines.awaiter child ≠ none := by
        rw [show coroutines.awaiter child = some next from again]
        simp
      obtain at_ | ⟨_, at_⟩ | at_ := sound.waiting.others child waits <;>
        · rw [done] at at_
          cases at_

end Sound

/-- Nothing is assigned where one thread is in a coroutine. -/
theorem unassigned {activity : Activity} {task : TaskId} (none : activity.target = none)
    (activities : coroutines.activities = (fun _ => ([] : List Activity)) ∨
      coroutines.activities = Function.update (fun _ => []) thread [activity]) :
    ¬coroutines.Assigning task := by
  rintro ⟨holder, source, target, listed, _⟩
  obtain same | same := activities
  · rw [same] at listed
    cases listed
  · rw [same] at listed
    by_cases this : holder = thread
    · subst this
      rw [Function.update_self] at listed
      rw [← List.mem_singleton.mp listed] at none
      cases none
    · rw [Function.update_of_ne this] at listed
      cases listed

/-- A coroutine awaits another one, which returns. -/
theorem awaited_run : ∃ coroutines : Coroutines Nat Nat,
    Reach step Permitted {} coroutines ∧ coroutines.terminated = false ∧
      coroutines.controls.created = 2 ∧ coroutines.status 0 = .running 0 ∧
      coroutines.status 1 = .destroyed ∧ coroutines.detached 0 = false ∧
      coroutines.trace = [.started 0, .started 1, .finished 1 (.ok 7), .continued 0 1,
        .received 0 1 (some (.ok 7)), .destroyed 1] := by
  have final : ∃ final : Coroutines Nat Nat, run step {} [.create 0 none, .create 0 none,
      .start 0 0, .await 0 1, .finish 0 (.ok 7), .goOn 0, .goOn 0] = some final ∧
        final.terminated = false ∧ final.controls.created = 2 ∧ final.status 0 = .running 0 ∧
        final.status 1 = .destroyed ∧ final.detached 0 = false ∧
        final.trace = [.started 0, .started 1, .finished 1 (.ok 7), .continued 0 1,
          .received 0 1 (some (.ok 7)), .destroyed 1] := ⟨_, rfl, rfl, rfl, rfl, rfl, rfl, rfl⟩
  obtain ⟨final, ran, rest⟩ := final
  refine ⟨final, Reach.permits .start ?_ ran, rest⟩
  refine ⟨trivial, fun _ taken => ?_⟩
  cases taken
  refine ⟨trivial, fun _ taken => ?_⟩
  cases taken
  refine ⟨@unassigned _ _ _ 0 (.destroying 0 0) _ rfl (.inl rfl), fun _ taken => ?_⟩
  cases taken
  refine ⟨⟨@unassigned _ _ _ 0 (.execution 0 (.body 0)) _ rfl (.inr rfl), fun _ held => ?_⟩,
    fun _ taken => ?_⟩
  · cases held
    exact .inr rfl
  cases taken
  refine ⟨trivial, fun _ taken => ?_⟩
  cases taken
  refine ⟨trivial, fun _ taken => ?_⟩
  cases taken
  refine ⟨trivial, fun _ taken => ?_⟩
  cases taken
  trivial

/-- No frame is resumed where it does not wait, destroyed while it runs, destroyed twice or
used after that, and each frame that is neither destroyed nor detached has one owner. -/
theorem frames_owned_once (reach : Reach step Permitted {} coroutines) :
    coroutines.undefined = false ∧
    (coroutines.terminated = false → ∀ frame, frame < coroutines.controls.created →
      (coroutines.status frame ≠ .destroyed ∧ coroutines.detached frame = false →
        ∃! holder, coroutines.holding holder = some frame) ∧
      (coroutines.status frame = .destroyed ∨ coroutines.detached frame = true →
        ∀ holder, coroutines.holding holder ≠ some frame)) := by
  obtain ⟨valid, _⟩ := valid_of_reach reach
  refine ⟨valid.defined, fun live frame known => ?_⟩
  have owned := (valid.sound live).owned
  constructor
  · rintro ⟨alive, attached⟩
    obtain none | ⟨holder, has⟩ := owned.owned ⟨known, alive, attached⟩
    · cases none
    · exact ⟨holder, has, fun second also => owned.sole also has⟩
  · intro gone holder has
    obtain ⟨_, alive, attached⟩ := owned.owes has
    obtain dead | detached := gone
    · exact alive dead
    · rw [attached] at detached
      cases detached

theorem frames_owned_once_awaited : ∃ coroutines : Coroutines Nat Nat,
    coroutines.undefined = false ∧ (∃! holder, coroutines.holding holder = some 0) ∧
      ∀ holder, coroutines.holding holder ≠ some 1 := by
  obtain ⟨coroutines, reach, live, created, runs, dead, attached, _⟩ := awaited_run
  obtain ⟨defined, owned⟩ := frames_owned_once reach
  refine ⟨coroutines, defined, (owned live 0 ?_).1 ⟨?_, attached⟩, (owned live 1 ?_).2 (.inl dead)⟩
  · rw [created]
    decide
  · rw [runs]
    simp
  · rw [created]
    decide

/-- One coroutine of a tree runs at a time, on the thread that has locked their gate. -/
theorem trees_run_once (reach : Reach step Permitted {} coroutines)
    (live : coroutines.terminated = false) {first second : FrameId}
    {holder : Thread} (together : EqvGen coroutines.controls.Edge first second)
    (runs : coroutines.status first = .running thread)
    (also : coroutines.status second = .running holder) :
    first = second ∧ coroutines.mutex (coroutines.gate first) = some thread := by
  have sound := (valid_of_reach reach).1.sound live
  refine ⟨?_, (sound.threaded.busy runs).1⟩
  obtain ⟨root, left, right⟩ := ancestor_of_connected sound.linked.shared.parents together
  have unique : Relator.RightUnique coroutines.WaitsFor := fun parent _ _ one two =>
    Option.some.inj (one.symm.trans two)
  obtain above | above := ReflTransGen.total_of_right_unique unique
    (sound.waits_above left runs) (sound.waits_above right also)
  · exact sound.runs_alone above runs also
  · exact (sound.runs_alone above also runs).symm

theorem trees_run_once_awaited : ∃ coroutines : Coroutines Nat Nat,
    coroutines.status 0 = .running 0 ∧ coroutines.mutex (coroutines.gate 0) = some 0 := by
  obtain ⟨coroutines, reach, live, _, runs, _⟩ := awaited_run
  exact ⟨coroutines, runs, (trees_run_once reach live (.refl 0) runs runs).2⟩

/-- The events of each coroutine are its life, and its frame is where that leads. -/
theorem coroutines_live_once (reach : Reach step Permitted {} coroutines)
    (live : coroutines.terminated = false) (frame : FrameId) :
    Leads frame .created coroutines.trace (coroutines.frames frame).life :=
  ((valid_of_reach reach).2 live frame).lives

theorem coroutines_live_once_awaited : ∃ coroutines : Coroutines Nat Nat,
    Leads 1 .created coroutines.trace .destroyed := by
  obtain ⟨coroutines, reach, live, _, _, dead, _⟩ := awaited_run
  have lives := coroutines_live_once reach live 1
  rw [Frame.life_destroyed dead] at lives
  exact ⟨coroutines, lives⟩

/-- Whoever awaits or reads a coroutine gets what its body has returned; the parent goes on
and receives it once, and after that the coroutine is only destroyed. -/
theorem results_received_once (reach : Reach step Permitted {} coroutines)
    (live : coroutines.terminated = false)
    {before after : List (Event Value Failure)} {child : FrameId} :
    (∀ parent result, coroutines.trace = before ++ .received parent child result :: after →
      (∃ value, result = some value ∧ .finished child value ∈ before) ∧
        (∀ other again, .received other child again ∉ before ++ after) ∧
        ∀ event ∈ after, event.subject = some child → event = .destroyed child) ∧
    (∀ reader result, coroutines.trace = before ++ .read reader child result :: after →
      ∃ value, result = some value ∧ .finished child value ∈ before) := by
  have lives := ((valid_of_reach reach).2 live child).lives
  constructor
  · intro parent result same
    rw [same] at lives
    obtain ⟨life, next, earlier, step, rest⟩ := lives.around rfl
    obtain ⟨rfl, value, rfl, given⟩ : next = .received ∧ ∃ value, result = some value ∧
        (life = .ended value ∨ ∃ parent, life = .continued parent value) := by
      cases step with
      | receive => exact ⟨rfl, _, rfl, .inl rfl⟩
      | resume => exact ⟨rfl, _, rfl, .inr ⟨_, rfl⟩⟩
    have only := (rest.only_destroyed (.inl rfl)).2
    refine ⟨⟨value, rfl, earlier.returned given⟩, ?_, fun event listed subject =>
      (only event listed subject).2⟩
    intro other again listed
    obtain listed | listed := List.mem_append.mp listed
    · obtain ⟨first, second, rfl⟩ := List.append_of_mem listed
      obtain ⟨_, middle, _, step, between⟩ := earlier.around rfl
      have received : middle = .received := by cases step <;> rfl
      obtain ⟨ended, _⟩ := between.only_destroyed (.inl received)
      subst received
      obtain rfl | rfl := ended <;> obtain same | ⟨_, same⟩ := given <;> cases same
    · cases (only _ listed rfl).2
  · intro reader result same
    rw [same] at lives
    obtain ⟨life, next, earlier, step, _⟩ := lives.around rfl
    cases step
    exact ⟨_, rfl, earlier.returned (.inl rfl)⟩

theorem results_received_once_awaited : ∃ before after : List (Event Nat Nat),
    (∃ value, (some (.ok 7) : Option (Except Nat Nat)) = some value ∧ .finished 1 value ∈ before) ∧
      (∀ other again, .received other 1 again ∉ before ++ after) ∧
      ∀ event ∈ after, event.subject = some 1 → event = .destroyed 1 := by
  obtain ⟨coroutines, reach, live, _, _, _, _, trace⟩ := awaited_run
  exact ⟨[.started 0, .started 1, .finished 1 (.ok 7), .continued 0 1], [.destroyed 1],
    (results_received_once reach live).1 0 (some (.ok 7)) trace⟩

def AtRest (coroutines : Coroutines Value Failure) : Prop :=
  ∀ thread, coroutines.activities thread = []

namespace Sound

variable (sound : coroutines.Sound none) (rest : coroutines.AtRest)
include sound rest

theorem asleep_at_rest : coroutines.status frame ≠ .running thread := by
  intro runs
  obtain ⟨doing, listed, _⟩ := sound.threaded.runs runs
  rw [rest thread] at listed
  cases listed

/-- A coroutine that waits for another one is suspended there. -/
theorem waits_at_rest (waits : coroutines.WaitsFor frame other) :
    coroutines.status frame = .suspended .task := by
  have awaits : coroutines.awaiter frame = some other := waits
  obtain at_ | ⟨thread, runs⟩ | dead := sound.waiting.others frame (by rw [awaits]; simp)
  · exact at_
  · exact absurd runs (sound.asleep_at_rest rest)
  · obtain ⟨thread, below, top, _⟩ := sound.waiting.destroyed frame other awaits dead
    rw [rest thread] at top
    cases top

theorem edge_at_rest (waits : coroutines.WaitsFor frame other) :
    coroutines.controls.Edge frame other := by
  have awaits : coroutines.awaiter frame = some other := waits
  have alive : coroutines.status frame ≠ .destroyed := by
    rw [sound.waits_at_rest rest waits]
    simp
  have known : frame < coroutines.controls.created := by
    by_contra new
    have blank := congrArg Frame.awaiter (sound.fresh frame (Nat.le_of_not_lt new))
    rw [show (coroutines.frames frame).awaiter = some other from awaits] at blank
    cases blank
  have owes := sound.owned.owes (show coroutines.holding (.awaiter frame) = some other from awaits)
  exact ⟨sound.linked.alive frame known alive, sound.linked.alive other owes.1 owes.2.1,
    sound.linked.listed frame other awaits⟩

theorem acyclic_at_rest : Acyclic coroutines.WaitsFor :=
  sound.linked.shared.acyclic.narrow fun _ _ waits => sound.edge_at_rest rest waits

/-- Every gate is open to every thread. -/
theorem open_at_rest (gate : Gate) : coroutines.gateOpen thread gate = true := by
  apply (gateOpen_iff coroutines thread gate).mpr
  cases held : coroutines.mutex gate with
  | none => exact .inl rfl
  | some holder =>
      obtain ⟨activity, listed, _⟩ := (sound.threaded.locked holder gate).mp held
      rw [rest holder] at listed
      cases listed

theorem path_ends (frame : FrameId) :
    ∃ last, ReflTransGen coroutines.WaitsFor frame last ∧ ∀ next, ¬coroutines.WaitsFor last next :=
  (sound.acyclic_at_rest rest).ends (fun source _ waits =>
    sound.linked.shared.created source (sound.edge_at_rest rest waits).1) frame

/-- A coroutine that others wait for was started and goes on. -/
theorem awaited_at_rest (records : ∀ frame, (coroutines.frames frame).Sound)
    (waits : coroutines.WaitsFor frame other) :
    (coroutines.frames other).startState_ = .started ∧ coroutines.status other ≠ .done ∧
      coroutines.status other ≠ .destroyed := by
  have awaits : coroutines.holding (.awaiter frame) = some other := waits
  refine ⟨(records other).continued ?_, ?_, (sound.owned.owes awaits).2.1⟩
  · have continues := sound.linked.continued frame other waits
    rw [show (coroutines.frames other).continuation_ = some frame from continues]
    simp
  · exact sound.waiting.suspended frame other waits (.inl (sound.waits_at_rest rest waits))

end Sound

/-- A coroutine that waits elsewhere is resumed. -/
theorem resume_steps (live : coroutines.terminated = false) (defined : coroutines.undefined = false)
    (user : coroutines.atUser thread = true)
    (free : coroutines.gateOpen thread (coroutines.gate frame) = true)
    (handle : (coroutines.frames frame).handle = true) {suspension : Nat}
    (known : suspension < (coroutines.frames frame).suspensions)
    (waits : coroutines.status frame = .suspended .awaitable) :
    ∃ next, coroutines.step (.resume thread frame suspension) = some next ∧
      next.status frame = .running thread := by
  obtain ⟨used, same⟩ : ∃ used, used = coroutines.change frame fun old =>
    { old with resumed := Function.update old.resumed suspension true } := ⟨_, rfl⟩
  have frames : used.frames = Function.update coroutines.frames frame
      { coroutines.frames frame with
        resumed := Function.update (coroutines.frames frame).resumed suspension true } := by
    rw [same]
    rfl
  have at_ : used.status frame = .suspended .awaitable := by
    rw [status_same frames rfl]
    exact waits
  have running : (used.execute thread frame).status frame = .running thread := by
    unfold execute enter
    have still : { used with
        executions := Function.update used.executions (used.gate frame)
          (used.executions (used.gate frame) + 1) }.status frame = .suspended .awaitable := at_
    simp only [still]
    change (Function.update used.frames frame _ frame).status = _
    rw [Function.update_self]
  refine ⟨used.execute thread frame, ?_, running⟩
  have pending : (coroutines.status frame != .done) = true := by
    rw [waits]
    rfl
  simp only [step, live, defined, user, act, known, locking, free, handle, pending, ← same,
    Bool.or_self, Bool.false_eq_true, if_true, if_false, Bool.and_self]

/-- A coroutine awaits another one, which waits elsewhere. -/
theorem suspended_run : ∃ coroutines : Coroutines Nat Nat,
    Reach step Permitted {} coroutines ∧ coroutines.terminated = false ∧ coroutines.AtRest ∧
      (coroutines.frames 0).startState_ = .started ∧
      coroutines.status 0 = .suspended .task := by
  have final : ∃ final : Coroutines Nat Nat, run step {} [.create 0 none, .create 0 none,
      .start 0 0, .await 0 1, .suspend 0, .goOn 0, .goOn 0] = some final ∧
        final.terminated = false ∧ final.AtRest ∧ (final.frames 0).startState_ = .started ∧
        final.status 0 = .suspended .task := by
    refine ⟨_, rfl, rfl, fun thread => ?_, rfl, rfl⟩
    cases thread <;> rfl
  obtain ⟨final, ran, rest⟩ := final
  refine ⟨final, Reach.permits .start ?_ ran, rest⟩
  refine ⟨trivial, fun _ taken => ?_⟩
  cases taken
  refine ⟨trivial, fun _ taken => ?_⟩
  cases taken
  refine ⟨@unassigned _ _ _ 0 (.destroying 0 0) _ rfl (.inl rfl), fun _ taken => ?_⟩
  cases taken
  refine ⟨⟨@unassigned _ _ _ 0 (.execution 0 (.body 0)) _ rfl (.inr rfl), fun _ held => ?_⟩,
    fun _ taken => ?_⟩
  · cases held
    exact .inr rfl
  cases taken
  refine ⟨trivial, fun _ taken => ?_⟩
  cases taken
  refine ⟨trivial, fun _ taken => ?_⟩
  cases taken
  refine ⟨trivial, fun _ taken => ?_⟩
  cases taken
  trivial

/-- When no thread does anything, a coroutine that has begun and is not over waits in the end
for one whose last `ResumeHandle` was not used, and any thread can resume that one. -/
theorem waits_for_a_handle (reach : Reach step Permitted {} coroutines)
    (live : coroutines.terminated = false) (rest : coroutines.AtRest)
    (begun : (coroutines.frames frame).startState_ = .started)
    (pending : coroutines.status frame ≠ .done) (alive : coroutines.status frame ≠ .destroyed) :
    ∃ last suspension, ReflTransGen coroutines.WaitsFor frame last ∧
      coroutines.status last = .suspended .awaitable ∧
      (coroutines.frames last).suspensions = suspension + 1 ∧
      (coroutines.frames last).resumed suspension = false ∧
      ∀ thread, ∃ next, coroutines.step (.resume thread last suspension) = some next ∧
        next.status last = .running thread := by
  have valid := (valid_of_reach reach).1
  have sound := valid.sound live
  have records := valid.records live
  obtain ⟨last, path, none⟩ := sound.path_ends rest frame
  obtain ⟨began, goes, living⟩ : (coroutines.frames last).startState_ = .started ∧
      coroutines.status last ≠ .done ∧ coroutines.status last ≠ .destroyed := by
    obtain rfl | ⟨parent, _, waits⟩ := path.cases_tail
    · exact ⟨begun, pending, alive⟩
    · exact sound.awaited_at_rest rest records waits
  have waits : coroutines.status last = .suspended .awaitable := by
    cases at_ : coroutines.status last with
    | running thread => exact absurd at_ (sound.asleep_at_rest rest)
    | done => exact absurd at_ goes
    | destroyed => exact absurd at_ living
    | suspended point =>
        cases point with
        | initial => exact absurd at_ ((records last).started began)
        | awaitable => rfl
        | task =>
            obtain ⟨child, awaits⟩ := Option.ne_none_iff_exists'.mp (sound.waiting.awaiting last at_)
            exact absurd awaits (none child)
  obtain ⟨suspension, count, unused⟩ := (records last).waits waits
  refine ⟨last, suspension, path, waits, count, unused, fun thread => ?_⟩
  apply resume_steps live valid.defined _ (sound.open_at_rest rest _)
    ((records last).handle.mpr living) (by rw [count]; exact Nat.lt_succ_self _) waits
  rw [atUser, rest thread]
  rfl

theorem waits_for_a_handle_suspended : ∃ (coroutines : Coroutines Nat Nat) (last : FrameId),
    ReflTransGen coroutines.WaitsFor 0 last ∧ coroutines.status last = .suspended .awaitable := by
  obtain ⟨coroutines, reach, live, rest, begun, waits⟩ := suspended_run
  have pending : coroutines.status 0 ≠ .done := by
    rw [waits]
    simp
  have alive : coroutines.status 0 ≠ .destroyed := by
    rw [waits]
    simp
  obtain ⟨last, _, path, at_, _⟩ := waits_for_a_handle reach live rest begun pending alive
  exact ⟨coroutines, last, path, at_⟩

/-- When no thread does anything and no `Task` is left, a frame that is not destroyed is kept by
a detached coroutine that is not over. -/
theorem nothing_leaks (reach : Reach step Permitted {} coroutines)
    (live : coroutines.terminated = false) (rest : coroutines.AtRest)
    (gone : ∀ task, coroutines.tasks task = none)
    (known : frame < coroutines.controls.created) (alive : coroutines.status frame ≠ .destroyed) :
    ∃ root, ReflTransGen coroutines.WaitsFor root frame ∧ coroutines.detached root = true ∧
      ∃ point, coroutines.status root = .suspended point := by
  have valid := (valid_of_reach reach).1
  have sound := valid.sound live
  have records := valid.records live
  have living : ∀ {parent child}, coroutines.WaitsFor parent child →
      parent < coroutines.controls.created := fun waits =>
    sound.linked.shared.created _ (sound.edge_at_rest rest waits).1
  obtain ⟨root, path, none⟩ := (sound.acyclic_at_rest rest).reverse.ends
    (fun child _ waits => (sound.owned.owes
      (show coroutines.holding (.awaiter _) = some child from waits)).1) frame
  have path : ReflTransGen coroutines.WaitsFor root frame := path.swap
  obtain ⟨exists_, lives⟩ : root < coroutines.controls.created ∧
      coroutines.status root ≠ .destroyed := by
    obtain rfl | ⟨child, waits, _⟩ := path.cases_head
    · exact ⟨known, alive⟩
    · refine ⟨living waits, ?_⟩
      rw [sound.waits_at_rest rest waits]
      simp
  have detached : coroutines.detached root = true := by
    by_contra attached
    obtain none_ | ⟨holder, has⟩ := sound.owned.owned
      ⟨exists_, lives, Bool.eq_false_iff.mpr attached⟩
    · cases none_
    · cases holder with
      | task task => simp [holding, held, gone] at has
      | awaiter parent => exact none parent has
  refine ⟨root, path, detached, ?_⟩
  cases at_ : coroutines.status root with
  | suspended point => exact ⟨point, rfl⟩
  | running thread => exact absurd at_ (sound.asleep_at_rest rest)
  | done => exact absurd at_ ((records root).detached detached).2
  | destroyed => exact absurd at_ lives

/-- A detached coroutine waits elsewhere. -/
theorem detached_run : ∃ coroutines : Coroutines Nat Nat,
    Reach step Permitted {} coroutines ∧ coroutines.terminated = false ∧ coroutines.AtRest ∧
      (∀ task, coroutines.tasks task = none) ∧ coroutines.controls.created = 1 ∧
      coroutines.status 0 = .suspended .awaitable := by
  have final : ∃ final : Coroutines Nat Nat, run step {} [.create 0 none, .detach 0 0, .drop 0 0,
      .suspend 0, .goOn 0, .goOn 0] = some final ∧ final.terminated = false ∧ final.AtRest ∧
        (∀ task, final.tasks task = none) ∧ final.controls.created = 1 ∧
        final.status 0 = .suspended .awaitable := by
    refine ⟨_, rfl, rfl, fun thread => ?_, fun task => ?_, rfl, rfl⟩
    · cases thread <;> rfl
    · cases task <;> rfl
  obtain ⟨final, ran, rest⟩ := final
  refine ⟨final, Reach.permits .start ?_ ran, rest⟩
  refine ⟨trivial, fun _ taken => ?_⟩
  cases taken
  refine ⟨@unassigned _ _ _ 0 (.destroying 0 0) _ rfl (.inl rfl), fun _ taken => ?_⟩
  cases taken
  refine ⟨@unassigned _ _ _ 0 (.execution 0 (.body 0)) _ rfl (.inr rfl), fun _ taken => ?_⟩
  cases taken
  refine ⟨trivial, fun _ taken => ?_⟩
  cases taken
  refine ⟨trivial, fun _ taken => ?_⟩
  cases taken
  refine ⟨trivial, fun _ taken => ?_⟩
  cases taken
  trivial

theorem nothing_leaks_detached : ∃ (coroutines : Coroutines Nat Nat) (root : FrameId),
    ReflTransGen coroutines.WaitsFor root 0 ∧ coroutines.detached root = true := by
  obtain ⟨coroutines, reach, live, rest, gone, created, waits⟩ := detached_run
  have known : 0 < coroutines.controls.created := by
    rw [created]
    decide
  have alive : coroutines.status 0 ≠ .destroyed := by
    rw [waits]
    simp
  obtain ⟨root, path, detached, _⟩ := nothing_leaks reach live rest gone known alive
  exact ⟨coroutines, root, path, detached⟩

end Coroutines

end MiniTrantor.Coroutine.Tasks
