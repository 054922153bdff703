import MiniTrantor.Coroutine.Tasks.Handovers

/-!
# Frames that are awaited

`await_suspend` links the frame of a `Task` to the one that awaits it and takes it over, with
everything below it, under its gate. Nothing is executed there meanwhile.
-/

set_option autoImplicit false

namespace MiniTrantor.Coroutine.Tasks

open Custody (InStep marked)
open Relation (ReflTransGen TransGen EqvGen)

namespace Coroutines

variable {Value Failure : Type} {coroutines next : Coroutines Value Failure} {thread : Thread}
  {gate : Gate} {parent child frame : FrameId} {rest : List Activity} {now : Doing}

/-- The parent waits for the child, which is started if it was not. -/
structure Adopts (coroutines next : Coroutines Value Failure) (thread : Thread) (gate : Gate)
    (parent child : FrameId) (rest : List Activity) (now : Doing) : Prop where
  unlinked : coroutines.Unlinked child
  quiet : coroutines.executions (coroutines.gate child) = 0
  free : coroutines.gateOpen thread (coroutines.gate child) = true
  pending : coroutines.status child ≠ .done
  shift : Shift coroutines next thread [.execution gate (.body parent)] [.execution gate now] rest
  controls : next.controls = coroutines.controls.linked parent child
  waits : next.status parent = .suspended .task
  goes : now = .over ∧ next.status child = coroutines.status child ∨
    now = .body child ∧ coroutines.status child = .suspended .initial ∧
      next.status child = .running thread
  others : ∀ other, other ≠ parent → other ≠ child →
    next.status other = coroutines.status other
  awaiters : next.awaiter = Function.update coroutines.awaiter parent (some child)
  continuations : next.continuation = Function.update coroutines.continuation child (some parent)
  detacheds : next.detached = coroutines.detached
  frames : ∀ other, other ≠ parent → other ≠ child → next.frames other = coroutines.frames other
  executions : next.executions = coroutines.executions

/-- The frames below one that was created share its gate. -/
theorem Linked.below {loose : Option FrameId} (linked : coroutines.Linked loose)
    (below : frame ∈ coroutines.controls.below child) :
    coroutines.gate frame = coroutines.gate child := by
  have together : EqvGen coroutines.controls.Edge child frame := by
    have path : ReflTransGen coroutines.controls.Edge child frame := below
    induction path with
    | refl => exact .refl _
    | tail _ edge ih => exact .trans _ _ _ (ih ‹_›) (.rel _ _ edge)
  exact (linked.shared.tree together).symm

namespace Adopts

section

variable (adopts : Adopts coroutines next thread gate parent child rest now)
  (sound : coroutines.Sound (some child))
include adopts sound

theorem body : coroutines.status parent = .running thread ∧ coroutines.gate parent = gate ∧
    coroutines.mutex gate = some thread ∧ coroutines.executions gate ≠ 0 ∧
      coroutines.awaiter parent = none := by
  have listed : .execution gate (.body parent) ∈ coroutines.activities thread := by
    rw [adopts.shift.top]
    exact List.mem_cons_self
  have counts := sound.threaded.counts listed
  exact ⟨sound.threaded.running_of listed rfl,
    sound.threaded.under thread gate _ parent listed rfl, counts.1, counts.2,
    sound.waiting.bodies thread gate _ parent listed (.inl rfl)⟩

/-- Nothing that runs is below the child. -/
theorem outside {holder : Thread} (runs : coroutines.status frame = .running holder) :
    frame ∉ coroutines.controls.below child := by
  intro below
  have busy := (sound.threaded.busy runs).2
  rw [sound.linked.below below] at busy
  exact busy adopts.quiet

theorem sleeps : ∃ point, coroutines.status child = .suspended point := by
  have owes := sound.owned.loosened rfl
  obtain suspended | ended := sound.threaded.still (.inl adopts.quiet) owes.2.1
  · exact suspended
  · exact absurd ended adopts.pending

omit adopts in
theorem unheld {holder : Holder} : coroutines.holding holder ≠ some child :=
  fun held => sound.owned.apart held rfl

theorem linkable : coroutines.controls.Linkable (.linkChild parent child) := by
  have owes := sound.owned.loosened rfl
  have running := (adopts.body sound).1
  refine ⟨?_, ?_, ?_, ?_⟩
  · exact sound.linked.alive parent (sound.known running) (by rw [running]; simp)
  · exact sound.linked.alive child owes.1 owes.2.1
  · exact fun other edge => absurd edge.2.2 (adopts.unlinked.1 other)
  · exact adopts.outside sound running

omit sound in
theorem inside (below : frame ∈ coroutines.controls.below child) :
    next.gate frame = coroutines.gate parent := by
  unfold Coroutines.gate
  rw [adopts.controls]
  exact FrameControls.adopt_gate_mem below

omit sound in
theorem stays (above : frame ∉ coroutines.controls.below child) :
    next.gate frame = coroutines.gate frame := by
  unfold Coroutines.gate
  rw [adopts.controls]
  exact FrameControls.adopt_gate_not_mem above

/-- A frame whose parent is being destroyed is not below the child. -/
theorem unwinding {other : FrameId} (awaits : coroutines.awaiter other = some frame)
    (dead : coroutines.status other = .destroyed) :
    frame ∉ coroutines.controls.below child ∧ other ∉ coroutines.controls.below child := by
  obtain ⟨_, _, _, _, _, closed⟩ :=
    sound.elsewhere (clear_of_execution adopts.shift.top) awaits dead
  have gates := sound.linked.together other frame awaits
  constructor
  · intro below
    rw [sound.linked.below below, adopts.free] at closed
    cases closed
  · intro below
    rw [gates, sound.linked.below below, adopts.free] at closed
    cases closed

/-- A frame is below the child if the one that awaits it is. -/
theorem together {other : FrameId} (awaits : coroutines.awaiter other = some frame) :
    next.gate frame = next.gate other := by
  have gates := sound.linked.together other frame awaits
  by_cases dead : coroutines.status other = .destroyed
  · obtain ⟨first, second⟩ := adopts.unwinding sound awaits dead
    rw [adopts.stays first, adopts.stays second]
    exact gates
  · have holds : coroutines.holding (.awaiter other) = some frame := awaits
    have owes := sound.owned.owes holds
    have created : other < coroutines.controls.created := by
      by_contra new
      have none := congrArg Frame.awaiter (sound.fresh other (Nat.le_of_not_lt new))
      rw [show (coroutines.frames other).awaiter = some frame from awaits] at none
      cases none
    have edge : coroutines.controls.Edge other frame :=
      ⟨sound.linked.alive other created dead, sound.linked.alive frame owes.1 owes.2.1,
        sound.linked.listed other frame awaits⟩
    by_cases below : other ∈ coroutines.controls.below child
    · rw [adopts.inside below, adopts.inside (ReflTransGen.tail below edge)]
    · have above : frame ∉ coroutines.controls.below child := by
        intro under
        obtain same | ⟨middle, path, last⟩ := ReflTransGen.cases_tail under
        · subst same
          exact unheld sound holds
        · rw [sound.linked.shared.parents middle other frame last edge] at path
          exact below path
      rw [adopts.stays above, adopts.stays below]
      exact gates

theorem alive (other : FrameId) :
    next.status other = .destroyed ↔ coroutines.status other = .destroyed := by
  by_cases first : other = parent
  · subst first
    rw [adopts.waits, (adopts.body sound).1]
    simp
  · by_cases second : other = child
    · subst second
      obtain ⟨_, same⟩ | ⟨_, at_, runs⟩ := adopts.goes
      · rw [same]
      · rw [at_, runs]
        simp
    · rw [adopts.others other first second]

omit sound in
theorem waiter {other : FrameId} (differs : other ≠ parent) :
    next.awaiter other = coroutines.awaiter other := by
  rw [adopts.awaiters, Function.update_of_ne differs]

omit sound in
theorem waiter_parent : next.awaiter parent = some child := by
  rw [adopts.awaiters, Function.update_self]

/-- Who is awaited is not the child, unless by the parent. -/
theorem awaited {other : FrameId} (awaits : next.awaiter other = some frame) :
    other = parent ∧ frame = child ∨
      other ≠ parent ∧ frame ≠ child ∧ coroutines.awaiter other = some frame := by
  by_cases same : other = parent
  · subst same
    rw [adopts.waiter_parent] at awaits
    exact .inl ⟨rfl, (Option.some.inj awaits).symm⟩
  · rw [adopts.waiter same] at awaits
    refine .inr ⟨same, ?_, awaits⟩
    rintro rfl
    have holds : coroutines.holding (.awaiter other) = some frame := awaits
    exact unheld sound holds

theorem threaded : next.Threaded := by
  obtain ⟨running, under, held, _, _⟩ := adopts.body sound
  obtain ⟨point, sleeps⟩ := adopts.sleeps sound
  have above := adopts.outside sound running
  apply sound.threaded.replace adopts.shift.top adopts.shift.activities adopts.shift.mutex
  · intro activity listed other locks
    cases List.mem_singleton.mp listed
    cases locks
    exact (coroutines.gateOpen_iff thread gate).mpr (.inr held)
  · intro other
    rw [adopts.executions]
    simp [Activity.executes]
  · rw [adopts.shift.activities]
    obtain ⟨rfl, same⟩ | ⟨rfl, _, runs⟩ := adopts.goes
    · apply sound.threaded.running.single Threaded.own adopts.shift.top (marked_execution rfl)
      · right
        refine ⟨rfl, ?_⟩
        rw [adopts.waits]
        rfl
      · intro other differs
        by_cases second : other = child
        · rw [second, same]
        · exact adopts.others other differs second
    · apply sound.threaded.running.handOver Threaded.own adopts.shift.top (marked_execution rfl)
      · rw [runs]
        exact marked_execution rfl
      · rw [sleeps]
        rfl
      · rw [adopts.waits]
        rfl
      · exact fun other differs second => adopts.others other differs second
  · intro other doing item listed runs
    cases List.mem_singleton.mp listed
    obtain ⟨same, _⟩ | ⟨same, _⟩ := adopts.goes
    · rw [same] at runs
      cases runs
    · rw [same] at runs
      cases runs
      rw [adopts.inside .refl]
      exact under
  · intro holder item runs
    exact adopts.stays (adopts.outside sound runs)

theorem owned : SoleOwnership next.holding none next.Owed := by
  have free : coroutines.holding (.awaiter parent) = none := (adopts.body sound).2.2.2.2
  have holdings : ∀ holder, holder ≠ .awaiter parent →
      next.holding holder = coroutines.holding holder := by
    intro holder differs
    cases holder with
    | task task => simp only [holding, adopts.shift.held]
    | awaiter other => exact adopts.waiter fun same => differs (congrArg Holder.awaiter same)
  have taken := sound.owned.take free adopts.waiter_parent holdings
  apply taken.congr fun _ => rfl
  intro other
  unfold Owed
  rw [adopts.shift.created, adopts.detacheds, ne_eq, ne_eq, adopts.alive sound]

omit sound in
theorem children {other : FrameId} (listed : frame ∈ next.controls.children other) :
    other = parent ∧ frame = child ∨ frame ∈ coroutines.controls.children other := by
  rw [adopts.controls] at listed
  by_cases same : other = parent
  · subst same
    simp only [FrameControls.linked, FrameControls.emplaceBack, FrameControls.adopt,
      FrameControls.eraseExpired, Function.update_self, List.mem_append, List.mem_filter,
      List.mem_singleton] at listed
    obtain ⟨old, _⟩ | new := listed
    · exact .inr old
    · exact .inl ⟨rfl, new⟩
  · simp only [FrameControls.linked, FrameControls.emplaceBack, FrameControls.adopt,
      FrameControls.eraseExpired, Function.update_of_ne same] at listed
    exact .inr listed

omit sound in
theorem lists : child ∈ next.controls.children parent := by
  rw [adopts.controls]
  simp [FrameControls.linked, FrameControls.emplaceBack]

omit sound in
theorem lists_other {other : FrameId} (differs : other ≠ parent) :
    next.controls.children other = coroutines.controls.children other := by
  rw [adopts.controls]
  simp only [FrameControls.linked, FrameControls.emplaceBack, FrameControls.adopt,
    FrameControls.eraseExpired, Function.update_of_ne differs]

theorem linked : next.Linked none := by
  have unawaiting := (adopts.body sound).2.2.2.2
  constructor
  · rw [adopts.controls]
    exact sound.linked.shared.linked (adopts.linkable sound)
  · intro other created living
    rw [adopts.shift.created] at created
    rw [adopts.controls]
    exact sound.linked.alive other created fun dead => living ((adopts.alive sound other).mpr dead)
  · intro other item listed
    obtain ⟨rfl, rfl⟩ | old := adopts.children listed
    · exact .inr (.inl adopts.waiter_parent)
    · obtain dead | awaits | away := sound.linked.children other item old
      · exact .inl ((adopts.alive sound item).mpr dead)
      · refine .inr (.inl ?_)
        rw [adopts.waiter]
        · exact awaits
        · rintro rfl
          rw [unawaiting] at awaits
          cases awaits
      · cases away
        exact absurd old (adopts.unlinked.1 other)
  · intro other item awaits
    obtain ⟨rfl, rfl⟩ | ⟨differs, _, awaits⟩ := adopts.awaited sound awaits
    · exact adopts.lists
    · rw [adopts.lists_other differs]
      exact sound.linked.listed other item awaits
  · intro other item awaits
    rw [adopts.continuations]
    obtain ⟨rfl, rfl⟩ | ⟨_, differs, awaits⟩ := adopts.awaited sound awaits
    · exact Function.update_self ..
    · rw [Function.update_of_ne differs]
      exact sound.linked.continued other item awaits
  · intro other item awaits living
    rw [adopts.continuations] at awaits
    left
    by_cases same : item = child
    · subst same
      rw [Function.update_self] at awaits
      cases awaits
      exact adopts.waiter_parent
    · rw [Function.update_of_ne same] at awaits
      have was := fun dead => living ((adopts.alive sound item).mpr dead)
      obtain waits | away := sound.linked.awaited other item awaits was
      · rw [adopts.waiter]
        · exact waits
        · rintro rfl
          rw [unawaiting] at waits
          cases waits
      · exact absurd (Option.some.inj away).symm same
  · intro other item awaits
    obtain ⟨rfl, rfl⟩ | ⟨_, _, awaits⟩ := adopts.awaited sound awaits
    · rw [adopts.inside .refl, adopts.stays (adopts.outside sound (adopts.body sound).1)]
    · exact adopts.together sound awaits

/-- A child that has been started waits for whom it waited for. -/
theorem status_kept {other item : FrameId} (differs : other ≠ parent)
    (awaits : coroutines.awaiter other = some item) :
    next.status other = coroutines.status other := by
  by_cases second : other = child
  · subst second
    obtain ⟨_, same⟩ | ⟨_, at_, _⟩ := adopts.goes
    · exact same
    · rw [sound.waiting.unawaiting at_ (by simp)] at awaits
      cases awaits
  · exact adopts.others other differs second

omit sound in
theorem child_pending : next.status child ≠ .done := by
  obtain ⟨_, same⟩ | ⟨_, _, runs⟩ := adopts.goes
  · rw [same]
    exact adopts.pending
  · rw [runs]
    simp

omit sound in
/-- The parent waits now, so it is no coroutine that runs. -/
theorem runs_apart {holder : Thread} (runs : next.status frame = .running holder) :
    frame ≠ parent := by
  rintro rfl
  rw [adopts.waits] at runs
  cases runs

theorem waiting : next.Waiting := by
  have running := (adopts.body sound).1
  have threaded := adopts.threaded sound
  have clear := clear_of_execution adopts.shift.top
  constructor
  · intro other item awaits waits
    obtain ⟨rfl, rfl⟩ | ⟨differs, second, awaits⟩ := adopts.awaited sound awaits
    · exact adopts.child_pending
    · rw [adopts.status_kept sound differs awaits] at waits
      by_cases first : item = parent
      · rw [first, adopts.waits]
        simp
      · rw [adopts.others item first second]
        exact sound.waiting.suspended other item awaits waits
  · intro other item holder awaits runs
    obtain ⟨rfl, rfl⟩ | ⟨differs, second, awaits⟩ := adopts.awaited sound awaits
    · rw [adopts.waits] at runs
      cases runs
    · rw [adopts.status_kept sound differs awaits] at runs
      have ended := sound.waiting.returns other item holder awaits runs
      have first : item ≠ parent := by
        rintro rfl
        rw [running] at ended
        cases ended
      rw [adopts.others item first second]
      exact ended
  · intro other item awaits dead
    obtain ⟨rfl, rfl⟩ | ⟨differs, second, awaits⟩ := adopts.awaited sound awaits
    · rw [adopts.waits] at dead
      cases dead
    · have was := (adopts.alive sound other).mp dead
      obtain ⟨holder, rest, apart, top, quiet, _⟩ := sound.elsewhere clear awaits was
      rw [adopts.stays (adopts.unwinding sound awaits was).1, adopts.executions]
      exact ⟨holder, rest, by rwa [adopts.shift.elsewhere apart], quiet⟩
  · intro other waits
    by_cases first : other = parent
    · rw [first, adopts.waiter_parent]
      simp
    · rw [adopts.waiter first]
      apply sound.waiting.awaiting
      by_cases second : other = child
      · subst second
        obtain ⟨_, same⟩ | ⟨_, _, runs⟩ := adopts.goes
        · rwa [same] at waits
        · rw [runs] at waits
          cases waits
      · rwa [adopts.others other first second] at waits
  · intro other awaits
    by_cases first : other = parent
    · subst first
      exact .inl adopts.waits
    · rw [adopts.waiter first] at awaits
      obtain ⟨item, has⟩ := Option.ne_none_iff_exists'.mp awaits
      rw [adopts.status_kept sound first has]
      exact sound.waiting.others other awaits
  · intro holder other doing item listed body
    have runs : next.status item = .running holder := by
      apply threaded.running_of listed
      obtain same | same := body <;> rw [same] <;> rfl
    rw [adopts.waiter (adopts.runs_apart runs)]
    obtain ⟨_, new⟩ | old := adopts.shift.listed listed
    · cases List.mem_singleton.mp new
      obtain ⟨same, _⟩ | ⟨same, at_, _⟩ := adopts.goes
      · rw [same] at body
        obtain body | body := body <;> cases body
      · rw [same] at body
        obtain body | body := body <;> cases body
        exact sound.waiting.unawaiting at_ (by simp)
    · exact sound.waiting.bodies holder other doing item old body
  · intro holder other item listed
    have runs : next.status item = .running holder := threaded.running_of listed rfl
    rw [adopts.waiter (adopts.runs_apart runs)]
    obtain ⟨_, new⟩ | old := adopts.shift.listed listed
    · cases List.mem_singleton.mp new
      obtain ⟨same, _⟩ | ⟨same, _⟩ := adopts.goes <;> cases same
    · exact sound.waiting.returning holder other item old
  · intro holder other item listed
    obtain ⟨_, new⟩ | old := adopts.shift.listed listed
    · cases List.mem_singleton.mp new
    · exact (adopts.alive sound item).mpr (sound.waiting.unwinding holder other item old)

end

theorem sound (adopts : Adopts coroutines next thread gate parent child rest now)
    (sound : coroutines.Sound (some child)) : next.Sound none where
  threaded := adopts.threaded sound
  owned := adopts.owned sound
  linked := adopts.linked sound
  waiting := adopts.waiting sound
  assigned := by
    apply adopts.shift.assigned sound.assigned
    intro activity listed
    obtain first | second := List.mem_append.mp listed
    · cases List.mem_singleton.mp first
      rfl
    · cases List.mem_singleton.mp second
      rfl
  housed := by
    apply adopts.shift.housed sound.housed
    · exact fun other dead => .inl ((adopts.alive sound other).mp dead)
    · intro other item listed
      cases List.mem_singleton.mp listed
  fresh other new := by
    rw [adopts.shift.created] at new
    rw [adopts.frames other]
    · exact sound.fresh other new
    · rintro rfl
      exact absurd (sound.known (adopts.body sound).1) (Nat.not_lt.mpr new)
    · rintro rfl
      exact absurd (sound.owned.loosened rfl).1 (Nat.not_lt.mpr new)

end Adopts

end Coroutines

end MiniTrantor.Coroutine.Tasks
