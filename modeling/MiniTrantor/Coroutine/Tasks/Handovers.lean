import MiniTrantor.Coroutine.Tasks.Executions

/-!
# Executions that are handed over

`final_suspend` of a frame that is awaited goes on with its parent, in the execution that the
frame was in.
-/

set_option autoImplicit false

namespace MiniTrantor.Coroutine.Tasks

open Custody (InStep marked)

namespace Coroutines

variable {Value Failure : Type} {coroutines next : Coroutines Value Failure} {thread : Thread}
  {gate : Gate} {parent child frame : FrameId} {rest : List Activity} {loose : Option FrameId}

theorem marked_execution {doing : Doing} (runs : doing.runs = some frame) :
    marked Activity.marks thread [.execution gate doing] = [(frame, .running thread)] := by
  simp [marked, Activity.marks, runs]

/-- Whoever runs was created. -/
theorem Sound.known (sound : coroutines.Sound loose) {holder : Thread}
    (runs : coroutines.status frame = .running holder) : frame < coroutines.controls.created := by
  by_contra new
  simp [Coroutines.status, sound.fresh frame (Nat.le_of_not_lt new)] at runs

section

variable (sound : coroutines.Sound none)
include sound

theorem Sound.finishing (top : coroutines.activities thread = .execution gate (.finishing frame) :: rest) :
    coroutines.status frame = .running thread ∧ coroutines.gate frame = gate ∧
      coroutines.mutex gate = some thread ∧ coroutines.executions gate ≠ 0 := by
  have listed : .execution gate (.finishing frame) ∈ coroutines.activities thread := by
    rw [top]
    exact List.mem_cons_self
  have counts := sound.threaded.counts listed
  exact ⟨sound.threaded.running_of listed rfl,
    sound.threaded.under thread gate _ frame listed rfl, counts.1, counts.2⟩

/-- The parent of a frame that finishes waits for it. -/
theorem Sound.expects (top : coroutines.activities thread = .execution gate (.finishing frame) :: rest)
    (continuation : coroutines.continuation frame = some parent) :
    coroutines.awaiter parent = some frame ∧ coroutines.status parent = .suspended .task ∧
      coroutines.gate parent = gate := by
  obtain ⟨runs, under, _, busy⟩ := sound.finishing top
  have awaits : coroutines.awaiter parent = some frame := by
    obtain awaits | none := sound.linked.awaited parent frame continuation (by rw [runs]; simp)
    · exact awaits
    · cases none
  have together := sound.linked.together parent frame awaits
  refine ⟨awaits, ?_, together.symm.trans under⟩
  obtain waits | ⟨holder, running⟩ | dead := sound.waiting.others parent (by rw [awaits]; simp)
  · exact waits
  · rw [sound.waiting.returns parent frame holder awaits running] at runs
    cases runs
  · -- nothing is executed under the gate of a parent that is being destroyed
    obtain ⟨_, _, _, quiet⟩ := sound.waiting.destroyed parent frame awaits dead
    rw [under] at quiet
    exact absurd quiet busy

end

/-- The frame is done, and its parent goes on in the same execution. -/
structure Continues (coroutines next : Coroutines Value Failure) (thread : Thread) (gate : Gate)
    (parent frame : FrameId) (rest : List Activity) : Prop where
  continuation : coroutines.continuation frame = some parent
  turn : Turn coroutines next thread [.execution gate (.finishing frame)]
    [.execution gate (.returning parent)] rest
  status : next.status =
    Function.update (Function.update coroutines.status frame .done) parent (.running thread)
  awaiters : next.awaiter = coroutines.awaiter
  continuations : next.continuation = coroutines.continuation
  detacheds : next.detached = coroutines.detached
  frames : ∀ other, other ≠ frame → other ≠ parent → next.frames other = coroutines.frames other
  executions : next.executions = coroutines.executions

namespace Continues

variable (continues : Continues coroutines next thread gate parent frame rest)
include continues

section

variable (sound : coroutines.Sound none)
include sound

theorem before : coroutines.status frame = .running thread ∧ coroutines.gate frame = gate ∧
    coroutines.mutex gate = some thread ∧ coroutines.executions gate ≠ 0 :=
  sound.finishing continues.turn.top

theorem waits : coroutines.awaiter parent = some frame ∧
    coroutines.status parent = .suspended .task ∧ coroutines.gate parent = gate :=
  sound.expects continues.turn.top continues.continuation

theorem apart : frame ≠ parent := by
  rintro rfl
  have runs := (continues.before sound).1
  rw [(continues.waits sound).2.1] at runs
  cases runs

theorem ended : next.status frame = .done := by
  rw [continues.status, Function.update_of_ne (continues.apart sound), Function.update_self]

end

theorem runs : next.status parent = .running thread := by
  rw [continues.status, Function.update_self]

theorem others {other : FrameId} (differs : other ≠ frame) (apart : other ≠ parent) :
    next.status other = coroutines.status other := by
  rw [continues.status, Function.update_of_ne apart, Function.update_of_ne differs]

section

variable (sound : coroutines.Sound none)
include sound

theorem alive (other : FrameId) :
    next.status other = .destroyed ↔ coroutines.status other = .destroyed := by
  by_cases mine : other = frame
  · subst mine
    rw [continues.ended sound, (continues.before sound).1]
    simp
  · by_cases theirs : other = parent
    · subst theirs
      rw [continues.runs, (continues.waits sound).2.1]
      simp
    · rw [continues.others mine theirs]

/-- The frame has no other parent. -/
theorem alone {other : FrameId} (awaits : coroutines.awaiter other = some frame) :
    other = parent := by
  have first : coroutines.holding (.awaiter other) = some frame := awaits
  have second : coroutines.holding (.awaiter parent) = some frame := (continues.waits sound).1
  cases sound.owned.sole first second
  rfl

theorem threaded : next.Threaded := by
  obtain ⟨runs, under, held, _⟩ := continues.before sound
  obtain ⟨_, waits, together⟩ := continues.waits sound
  apply sound.threaded.replace continues.turn.top continues.turn.activities continues.turn.mutex
  · intro activity listed other locks
    cases List.mem_singleton.mp listed
    cases locks
    exact (coroutines.gateOpen_iff thread gate).mpr (.inr held)
  · intro other
    rw [continues.executions]
    simp [Activity.executes]
  · rw [continues.turn.activities]
    apply sound.threaded.running.handOver Threaded.own continues.turn.top (marked_execution rfl)
    · rw [continues.runs]
      exact marked_execution rfl
    · rw [waits]
      rfl
    · rw [continues.ended sound]
      rfl
    · exact fun other differs apart => continues.others differs apart
  · intro other doing item listed runs
    cases List.mem_singleton.mp listed
    cases runs
    rw [continues.turn.gates]
    exact together
  · intro holder item _
    rw [continues.turn.gates]

theorem waiting : next.Waiting := by
  obtain ⟨running, under, _, busy⟩ := continues.before sound
  obtain ⟨awaits, waits, _⟩ := continues.waits sound
  have clear := clear_of_execution continues.turn.top
  have unawaiting : coroutines.awaiter frame = none := by
    apply sound.waiting.bodies thread gate _ frame _ (.inr rfl)
    rw [continues.turn.top]
    exact List.mem_cons_self
  constructor
  · intro other child waiting at_
    rw [continues.awaiters] at waiting
    have first : other ≠ frame := by
      rintro rfl
      rw [unawaiting] at waiting
      cases waiting
    have second : other ≠ parent := by
      rintro rfl
      rw [continues.runs] at at_
      simp at at_
    rw [continues.others first second] at at_
    have kept := sound.waiting.suspended other child waiting at_
    by_cases mine : child = frame
    · subst mine
      exact absurd (continues.alone sound waiting) second
    · by_cases theirs : child = parent
      · subst theirs
        rw [continues.runs]
        simp
      · rwa [continues.others mine theirs]
  · intro other child holder waiting at_
    rw [continues.awaiters] at waiting
    by_cases second : other = parent
    · subst second
      cases awaits.symm.trans waiting
      exact continues.ended sound
    · have first : other ≠ frame := by
        rintro rfl
        rw [unawaiting] at waiting
        cases waiting
      rw [continues.others first second] at at_
      have ended := sound.waiting.returns other child holder waiting at_
      have mine : child ≠ frame := by
        rintro rfl
        exact second (continues.alone sound waiting)
      have theirs : child ≠ parent := by
        rintro rfl
        rw [waits] at ended
        cases ended
      rw [continues.others mine theirs]
      exact ended
  · intro other child waiting dead
    rw [continues.awaiters] at waiting
    obtain ⟨holder, rest, apart, top, quiet, _⟩ :=
      sound.elsewhere clear waiting ((continues.alive sound other).mp dead)
    rw [continues.turn.gates, continues.executions]
    exact ⟨holder, rest, by rwa [continues.turn.elsewhere apart], quiet⟩
  · intro other at_
    rw [continues.awaiters]
    have first : other ≠ frame := by
      rintro rfl
      rw [continues.ended sound] at at_
      cases at_
    have second : other ≠ parent := by
      rintro rfl
      rw [continues.runs] at at_
      cases at_
    rw [continues.others first second] at at_
    exact sound.waiting.awaiting other at_
  · intro other waiting
    rw [continues.awaiters] at waiting
    have first : other ≠ frame := by
      rintro rfl
      exact waiting unawaiting
    by_cases second : other = parent
    · subst second
      exact .inr (.inl ⟨thread, continues.runs⟩)
    · rw [continues.others first second]
      exact sound.waiting.others other waiting
  · intro holder other doing item listed body
    rw [continues.awaiters]
    obtain ⟨_, new⟩ | old := continues.turn.listed listed
    · cases List.mem_singleton.mp new
      obtain same | same := body <;> cases same
    · exact sound.waiting.bodies holder other doing item old body
  · intro holder other item listed
    rw [continues.awaiters]
    obtain ⟨_, new⟩ | old := continues.turn.listed listed
    · cases List.mem_singleton.mp new
      rw [awaits]
      simp
    · exact sound.waiting.returning holder other item old
  · intro holder other item listed
    obtain ⟨_, new⟩ | old := continues.turn.listed listed
    · cases List.mem_singleton.mp new
    · exact (continues.alive sound item).mpr (sound.waiting.unwinding holder other item old)

theorem created : parent < coroutines.controls.created := by
  by_contra new
  have waits := (continues.waits sound).2.1
  simp [Coroutines.status, sound.fresh parent (Nat.le_of_not_lt new)] at waits

end

theorem sound (sound : coroutines.Sound none) : next.Sound none where
  threaded := continues.threaded sound
  owned := continues.turn.owned sound.owned continues.awaiters continues.detacheds
    (continues.alive sound)
  linked := continues.turn.linked sound.linked continues.awaiters continues.continuations
    (continues.alive sound)
  waiting := continues.waiting sound
  assigned := by
    apply continues.turn.assigned sound.assigned
    intro activity listed
    obtain first | second := List.mem_append.mp listed
    · cases List.mem_singleton.mp first
      rfl
    · cases List.mem_singleton.mp second
      rfl
  housed := by
    apply continues.turn.housed sound.housed
    · exact fun other dead => .inl ((continues.alive sound other).mp dead)
    · intro other item listed
      cases List.mem_singleton.mp listed
  fresh other new := by
    rw [continues.turn.created] at new
    rw [continues.frames other]
    · exact sound.fresh other new
    · rintro rfl
      exact absurd (sound.known (continues.before sound).1) (Nat.not_lt.mpr new)
    · rintro rfl
      exact absurd (continues.created sound) (Nat.not_lt.mpr new)

end Continues

end Coroutines

end MiniTrantor.Coroutine.Tasks
