import MiniTrantor.Coroutine.Tasks.Turns

/-!
# Frames that run

A frame is resumed in an execution, and is suspended or done at the end of its turn. A frame
that was awaited hands its execution over to its parent.
-/

set_option autoImplicit false

namespace MiniTrantor.Coroutine.Tasks

open Custody (InStep marked)

namespace Coroutines

variable {Value Failure : Type} {coroutines next : Coroutines Value Failure} {thread : Thread}
  {gate : Gate} {parent frame : FrameId} {rest : List Activity} {loose : Option FrameId}
  {record : Frame Value Failure} {doing now : Doing}

/-- A frame that does not wait for another one runs or is suspended elsewhere. -/
theorem Waiting.unawaiting (waiting : coroutines.Waiting) {point : Point}
    (at_ : coroutines.status frame = .suspended point) (elsewhere : point ≠ .task) :
    coroutines.awaiter frame = none := by
  by_contra awaits
  obtain waits | ⟨holder, runs⟩ | dead := waiting.others frame awaits
  · rw [at_] at waits
    cases waits
    exact elsewhere rfl
  · rw [at_] at runs
    cases runs
  · rw [at_] at dead
    cases dead

/-- A suspended frame is resumed in a new execution. -/
structure Resumes (coroutines next : Coroutines Value Failure) (thread : Thread) (frame : FrameId)
    (record : Frame Value Failure) : Prop where
  known : frame < coroutines.controls.created
  clear : coroutines.Clear thread
  free : coroutines.gateOpen thread (coroutines.gate frame) = true
  suspended : ∃ point, coroutines.status frame = .suspended point ∧ point ≠ .task
  status : record.status = .running thread
  awaiter : record.awaiter = coroutines.awaiter frame
  continuation : record.continuation_ = coroutines.continuation frame
  detached : record.detached_ = coroutines.detached frame
  turn : Turn coroutines next thread [] [.execution (coroutines.gate frame) (.body frame)]
    (coroutines.activities thread)
  frames : next.frames = Function.update coroutines.frames frame record
  executions : next.executions = Function.update coroutines.executions (coroutines.gate frame)
    (coroutines.executions (coroutines.gate frame) + 1)

namespace Resumes

variable (resumes : Resumes coroutines next thread frame record)
include resumes

theorem runs : next.status frame = .running thread := by
  rw [status_update resumes.frames, Function.update_self, resumes.status]

theorem others {other : FrameId} (differs : other ≠ frame) :
    next.status other = coroutines.status other := by
  rw [status_update resumes.frames, Function.update_of_ne differs]

theorem awaiters : next.awaiter = coroutines.awaiter :=
  awaiter_same resumes.frames resumes.awaiter

theorem alive (other : FrameId) :
    next.status other = .destroyed ↔ coroutines.status other = .destroyed := by
  by_cases same : other = frame
  · subst same
    obtain ⟨point, at_, _⟩ := resumes.suspended
    rw [resumes.runs, at_]
    simp
  · rw [resumes.others same]

/-- A frame that is somewhere else than before is running. -/
theorem old {other : FrameId} {status : Status} (at_ : next.status other = status)
    (asleep : status.thread = none) : other ≠ frame ∧ coroutines.status other = status := by
  have differs : other ≠ frame := by
    rintro rfl
    rw [resumes.runs] at at_
    cases at_
    cases asleep
  exact ⟨differs, (resumes.others differs).symm.trans at_⟩

theorem unawaiting (sound : coroutines.Sound loose) : coroutines.awaiter frame = none := by
  obtain ⟨point, at_, elsewhere⟩ := resumes.suspended
  exact sound.waiting.unawaiting at_ elsewhere

theorem threaded (threaded : coroutines.Threaded) : next.Threaded := by
  obtain ⟨point, at_, _⟩ := resumes.suspended
  have mark : marked Activity.marks thread
      [.execution (coroutines.gate frame) (.body frame)] = [(frame, .running thread)] := rfl
  apply threaded.replace resumes.turn.top resumes.turn.activities resumes.turn.mutex
  · intro activity listed other locks
    cases List.mem_singleton.mp listed
    cases locks
    exact resumes.free
  · intro other
    rw [resumes.executions]
    by_cases same : other = coroutines.gate frame
    · subst same
      simp [Activity.executes]
    · rw [Function.update_of_ne same]
      simp [Activity.executes, Ne.symm same]
  · rw [resumes.turn.activities]
    apply threaded.running.one Threaded.own resumes.turn.top frame
    · exact fun other differs => resumes.others differs
    · intro other status differs
      rw [mark]
      simp [differs, marked]
    · rw [at_]
      exact .inl rfl
    · intro status member
      rw [mark] at member
      cases List.mem_singleton.mp member
      exact resumes.runs
    · intro absent
      rw [mark] at absent
      simp at absent
    · rw [mark]
      simp
  · intro other doing item listed runs
    cases List.mem_singleton.mp listed
    cases runs
    rw [resumes.turn.gates]
  · intro holder item _
    rw [resumes.turn.gates]

theorem waiting (sound : coroutines.Sound loose) : next.Waiting := by
  obtain ⟨point, at_, _⟩ := resumes.suspended
  constructor
  · intro parent child awaits waits
    rw [resumes.awaiters] at awaits
    intro ended
    have waited : coroutines.status parent = .suspended .task ∨
        coroutines.status parent = .destroyed := by
      obtain waits | dead := waits
      · exact .inl (resumes.old waits rfl).2
      · exact .inr (resumes.old dead rfl).2
    have kept := sound.waiting.suspended parent child awaits waited
    exact kept (resumes.old ended rfl).2
  · intro parent child holder awaits runs
    rw [resumes.awaiters] at awaits
    have differs : parent ≠ frame := by
      rintro rfl
      rw [resumes.unawaiting sound] at awaits
      cases awaits
    rw [resumes.others differs] at runs
    have ended := sound.waiting.returns parent child holder awaits runs
    have apart : child ≠ frame := by
      rintro rfl
      rw [at_] at ended
      cases ended
    rw [resumes.others apart]
    exact ended
  · intro parent child awaits dead
    rw [resumes.awaiters] at awaits
    obtain ⟨other, rest, apart, top, quiet, closed⟩ :=
      sound.elsewhere resumes.clear awaits ((resumes.alive parent).mp dead)
    rw [resumes.turn.gates, resumes.executions]
    refine ⟨other, rest, by rwa [resumes.turn.elsewhere apart], ?_⟩
    rw [Function.update_of_ne]
    · exact quiet
    · intro same
      rw [same, resumes.free] at closed
      cases closed
  · intro other waits
    rw [resumes.awaiters]
    exact sound.waiting.awaiting other (resumes.old waits rfl).2
  · intro other awaits
    rw [resumes.awaiters] at awaits
    have differs : other ≠ frame := by
      rintro rfl
      exact awaits (resumes.unawaiting sound)
    rw [resumes.others differs]
    exact sound.waiting.others other awaits
  · intro holder other doing item listed body
    rw [resumes.awaiters]
    obtain ⟨_, new⟩ | old := resumes.turn.listed listed
    · cases List.mem_singleton.mp new
      obtain same | same := body <;> cases same
      exact resumes.unawaiting sound
    · exact sound.waiting.bodies holder other doing item old body
  · intro holder other item listed
    rw [resumes.awaiters]
    obtain ⟨_, new⟩ | old := resumes.turn.listed listed
    · cases List.mem_singleton.mp new
    · exact sound.waiting.returning holder other item old
  · intro holder other item listed
    obtain ⟨_, new⟩ | old := resumes.turn.listed listed
    · cases List.mem_singleton.mp new
    · exact (resumes.alive item).mpr (sound.waiting.unwinding holder other item old)

theorem sound (sound : coroutines.Sound loose) : next.Sound loose where
  threaded := resumes.threaded sound.threaded
  owned := resumes.turn.owned sound.owned resumes.awaiters
    (detached_same resumes.frames resumes.detached) resumes.alive
  linked := resumes.turn.linked sound.linked resumes.awaiters
    (continuation_same resumes.frames resumes.continuation) resumes.alive
  waiting := resumes.waiting sound
  assigned := by
    apply resumes.turn.assigned sound.assigned
    intro activity listed
    cases List.mem_singleton.mp listed
    rfl
  housed := by
    apply resumes.turn.housed sound.housed
    · exact fun other dead => .inl ((resumes.alive other).mp dead)
    · exact fun _ _ => List.not_mem_nil
  fresh := resumes.turn.fresh sound.fresh resumes.known resumes.frames

end Resumes

/-- The execution of a frame goes on, and the frame is suspended or done, or runs on. -/
structure GoesOn (coroutines next : Coroutines Value Failure) (thread : Thread) (gate : Gate)
    (frame : FrameId) (doing now : Doing) (rest : List Activity)
    (record : Frame Value Failure) : Prop where
  runs : doing = .body frame ∨ doing = .finishing frame
  status : now.runs = some frame ∧ record.status = .running thread ∨
    now.runs = none ∧ (record.status = .suspended .awaitable ∨
      record.status = .done ∧ coroutines.continuation frame = none)
  plain : ∀ other, now ≠ .returning other
  awaiter : record.awaiter = coroutines.awaiter frame
  continuation : record.continuation_ = coroutines.continuation frame
  detached : record.detached_ = coroutines.detached frame
  turn : Turn coroutines next thread [.execution gate doing] [.execution gate now] rest
  frames : next.frames = Function.update coroutines.frames frame record
  executions : next.executions = coroutines.executions

namespace GoesOn

variable (goesOn : GoesOn coroutines next thread gate frame doing now rest record)
include goesOn

theorem listed : .execution gate doing ∈ coroutines.activities thread := by
  rw [goesOn.turn.top]
  exact List.mem_cons_self

theorem doing_runs : doing.runs = some frame := by
  obtain same | same := goesOn.runs <;> rw [same] <;> rfl

theorem others {other : FrameId} (differs : other ≠ frame) :
    next.status other = coroutines.status other := by
  rw [status_update goesOn.frames, Function.update_of_ne differs]

theorem at_ : next.status frame = record.status := by
  rw [status_update goesOn.frames, Function.update_self]

theorem ran (sound : coroutines.Sound loose) : coroutines.status frame = .running thread :=
  sound.threaded.running_of goesOn.listed goesOn.doing_runs

theorem unawaiting (sound : coroutines.Sound loose) : coroutines.awaiter frame = none :=
  sound.waiting.bodies thread gate doing frame goesOn.listed goesOn.runs

theorem awaiters : next.awaiter = coroutines.awaiter := awaiter_same goesOn.frames goesOn.awaiter

theorem alive (sound : coroutines.Sound loose) (other : FrameId) :
    next.status other = .destroyed ↔ coroutines.status other = .destroyed := by
  by_cases same : other = frame
  · subst same
    rw [goesOn.at_, goesOn.ran sound]
    obtain ⟨_, at_⟩ | ⟨_, at_ | ⟨at_, _⟩⟩ := goesOn.status <;> rw [at_] <;> simp
  · rw [goesOn.others same]

theorem threaded (sound : coroutines.Sound loose) : next.Threaded := by
  have ran := goesOn.ran sound
  have before : marked Activity.marks thread [.execution gate doing] =
      [(frame, .running thread)] := by
    simp [marked, Activity.marks, goesOn.doing_runs]
  have held := (sound.threaded.counts goesOn.listed).1
  have under := sound.threaded.under thread gate doing frame goesOn.listed goesOn.doing_runs
  apply sound.threaded.replace goesOn.turn.top goesOn.turn.activities goesOn.turn.mutex
  · intro activity listed other locks
    cases List.mem_singleton.mp listed
    cases locks
    exact (coroutines.gateOpen_iff thread gate).mpr (.inr held)
  · intro other
    rw [goesOn.executions]
    simp [Activity.executes]
  · rw [goesOn.turn.activities]
    apply sound.threaded.running.single Threaded.own goesOn.turn.top before
    · obtain ⟨runs, at_⟩ | ⟨runs, at_⟩ := goesOn.status
      · left
        simp [marked, Activity.marks, runs, goesOn.at_, at_]
      · right
        refine ⟨by simp [marked, Activity.marks, runs], ?_⟩
        rw [goesOn.at_]
        obtain at_ | ⟨at_, _⟩ := at_ <;> rw [at_] <;> rfl
    · exact fun other differs => goesOn.others differs
  · intro other doing item listed runs
    cases List.mem_singleton.mp listed
    obtain ⟨same, _⟩ | ⟨same, _⟩ := goesOn.status
    · cases same.symm.trans runs
      rw [goesOn.turn.gates]
      exact under
    · rw [same] at runs
      cases runs
  · intro holder item _
    rw [goesOn.turn.gates]

theorem waiting (sound : coroutines.Sound loose) : next.Waiting := by
  have ran := goesOn.ran sound
  have unawaiting := goesOn.unawaiting sound
  have clear := clear_of_execution goesOn.turn.top
  have parents : ∀ {parent child}, coroutines.awaiter parent = some child →
      next.status parent = coroutines.status parent := by
    intro parent child awaits
    apply goesOn.others
    rintro rfl
    rw [unawaiting] at awaits
    cases awaits
  constructor
  · intro parent child awaits waits
    rw [goesOn.awaiters] at awaits
    rw [parents awaits] at waits
    have kept := sound.waiting.suspended parent child awaits waits
    intro ended
    by_cases same : child = frame
    · subst same
      rw [goesOn.at_] at ended
      obtain ⟨_, at_⟩ | ⟨_, at_ | ⟨_, free⟩⟩ := goesOn.status
      · rw [at_] at ended
        cases ended
      · rw [at_] at ended
        cases ended
      · rw [sound.linked.continued parent child awaits] at free
        cases free
    · rw [goesOn.others same] at ended
      exact kept ended
  · intro parent child holder awaits runs
    rw [goesOn.awaiters] at awaits
    rw [parents awaits] at runs
    have ended := sound.waiting.returns parent child holder awaits runs
    have apart : child ≠ frame := by
      rintro rfl
      rw [ran] at ended
      cases ended
    rw [goesOn.others apart]
    exact ended
  · intro parent child awaits dead
    rw [goesOn.awaiters] at awaits
    obtain ⟨other, rest, apart, top, quiet, _⟩ :=
      sound.elsewhere clear awaits ((goesOn.alive sound parent).mp dead)
    rw [goesOn.turn.gates, goesOn.executions]
    exact ⟨other, rest, by rwa [goesOn.turn.elsewhere apart], quiet⟩
  · intro other waits
    rw [goesOn.awaiters]
    have differs : other ≠ frame := by
      rintro rfl
      rw [goesOn.at_] at waits
      obtain ⟨_, at_⟩ | ⟨_, at_ | ⟨at_, _⟩⟩ := goesOn.status <;> rw [at_] at waits <;> cases waits
    rw [goesOn.others differs] at waits
    exact sound.waiting.awaiting other waits
  · intro other awaits
    rw [goesOn.awaiters] at awaits
    have differs : other ≠ frame := by
      rintro rfl
      exact awaits unawaiting
    rw [goesOn.others differs]
    exact sound.waiting.others other awaits
  · intro holder other doing item listed body
    rw [goesOn.awaiters]
    obtain ⟨_, new⟩ | old := goesOn.turn.listed listed
    · cases List.mem_singleton.mp new
      have runs : now.runs = some item := by obtain same | same := body <;> rw [same] <;> rfl
      obtain ⟨same, _⟩ | ⟨none, _⟩ := goesOn.status
      · cases same.symm.trans runs
        exact unawaiting
      · rw [none] at runs
        cases runs
    · exact sound.waiting.bodies holder other doing item old body
  · intro holder other item listed
    rw [goesOn.awaiters]
    obtain ⟨_, new⟩ | old := goesOn.turn.listed listed
    · cases List.mem_singleton.mp new
      exact absurd rfl (goesOn.plain item)
    · exact sound.waiting.returning holder other item old
  · intro holder other item listed
    obtain ⟨_, new⟩ | old := goesOn.turn.listed listed
    · cases List.mem_singleton.mp new
    · exact (goesOn.alive sound item).mpr (sound.waiting.unwinding holder other item old)

theorem known (sound : coroutines.Sound loose) : frame < coroutines.controls.created := by
  by_contra new
  have ran := goesOn.ran sound
  simp [Coroutines.status, sound.fresh frame (Nat.le_of_not_lt new)] at ran

theorem sound (sound : coroutines.Sound loose) : next.Sound loose where
  threaded := goesOn.threaded sound
  owned := goesOn.turn.owned sound.owned goesOn.awaiters
    (detached_same goesOn.frames goesOn.detached) (goesOn.alive sound)
  linked := goesOn.turn.linked sound.linked goesOn.awaiters
    (continuation_same goesOn.frames goesOn.continuation) (goesOn.alive sound)
  waiting := goesOn.waiting sound
  assigned := by
    apply goesOn.turn.assigned sound.assigned
    intro activity listed
    obtain first | second := List.mem_append.mp listed
    · cases List.mem_singleton.mp first
      rfl
    · cases List.mem_singleton.mp second
      rfl
  housed := by
    apply goesOn.turn.housed sound.housed
    · exact fun other dead => .inl ((goesOn.alive sound other).mp dead)
    · intro other item listed
      cases List.mem_singleton.mp listed
  fresh := goesOn.turn.fresh sound.fresh (goesOn.known sound) goesOn.frames

end GoesOn

end Coroutines

end MiniTrantor.Coroutine.Tasks
