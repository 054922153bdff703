import MiniTrantor.Coroutine.Tasks.Histories

/-!
# Steps and the trace

Every step adds to the life of the coroutines that it is about.
-/

set_option autoImplicit false

namespace MiniTrantor.Coroutine.Tasks

namespace Coroutines

variable {Value Failure : Type} {coroutines next : Coroutines Value Failure} {thread : Thread}
  {gate : Gate} {task : TaskId} {parent child frame : FrameId} {rest base : List Activity}

/-- A frame that is suspended is resumed. -/
theorem Faithful.execute (others : ∀ other, other ≠ frame → coroutines.Faithful other)
    (lives : Leads frame .created coroutines.trace .started)
    (started : (coroutines.frames frame).startState_ = .started)
    (none : (coroutines.frames frame).result = none)
    (unfinished : ∀ holder, ¬coroutines.Finishing holder frame) {point : Point}
    (at_ : coroutines.status frame = .suspended point) (elsewhere : point ≠ .task)
    (other : FrameId) : (coroutines.execute thread frame).Faithful other := by
  obtain ⟨busier, same⟩ : ∃ busier, busier = { coroutines with
    executions := Function.update coroutines.executions (coroutines.gate frame)
      (coroutines.executions (coroutines.gate frame) + 1) } := ⟨_, rfl⟩
  have result : coroutines.execute thread frame =
      (busier.setStatus frame (.running thread)).put thread
        (.execution (coroutines.gate frame) (.body frame) :: coroutines.activities thread) := by
    have still : busier.status frame = .suspended point := by
      rw [same]
      exact at_
    unfold Coroutines.execute
    simp only
    rw [← same, enter_eq still, if_neg elsewhere]
  have frames : (coroutines.execute thread frame).frames = Function.update coroutines.frames frame
      { coroutines.frames frame with status := .running thread } := by
    rw [result, same]
    rfl
  have trace : (coroutines.execute thread frame).trace = coroutines.trace := by
    rw [result, same]
    rfl
  have finishing : ∀ {holder item}, (coroutines.execute thread frame).Finishing holder item ↔
      coroutines.Finishing holder item := by
    intro holder item
    have activities : (coroutines.execute thread frame).activities =
        Function.update coroutines.activities thread
          ([Activity.execution (coroutines.gate frame) (.body frame)] ++
            coroutines.activities thread) := by
      rw [result, same]
      rfl
    exact finishing_iff rfl activities (fun _ => List.not_mem_nil) fun _ => plain_one (by simp)
  by_cases this : other = frame
  · subst this
    have here : (coroutines.execute thread other).frames other =
        { coroutines.frames other with status := .running thread } := by
      rw [frames, Function.update_self]
    have runs : (coroutines.execute thread other).status other = .running thread := by
      rw [status_update frames, Function.update_self]
    apply Faithful.ongoing
    · rwa [trace]
    · rw [here]
      exact started
    · rw [here]
      exact none
    · rw [runs]
      simp
    · rw [runs]
      simp
    · exact fun holder => finishing.not.mpr (unfinished holder)
  · apply (others other this).keep _ (trace.trans (List.append_nil _).symm)
    · exact fun _ none => by cases none
    · exact fun _ => finishing
    · rw [frames, Function.update_of_ne this]

/-- The life of the coroutine that a `Task` has. -/
theorem Sound.destructible (sound : coroutines.Sound none)
    (held : coroutines.held task = some (some frame)) :
    (coroutines.frames frame).life.Destructible :=
  Frame.destructible (sound.owes held).2.1 fun _ => (sound.unlinked held).2

/-- The life of a coroutine that is done. -/
theorem Faithful.ended (faithful : coroutines.Faithful frame) (record : (coroutines.frames frame).Sound)
    (done : coroutines.status frame = .done) :
    (coroutines.frames frame).startState_ = .started ∧
      ∃ result, (coroutines.frames frame).result = some result := by
  constructor
  · cases state : (coroutines.frames frame).startState_ with
    | started => rfl
    | lazy =>
        have at_ : (coroutines.frames frame).status = .done := done
        obtain at_' | at_' := record.lazy state <;>
          · rw [at_] at at_'
            cases at_'
  · exact Option.ne_none_iff_exists'.mp (faithful.done done)

section

variable (faithful : ∀ frame, coroutines.Faithful frame)
include faithful

/-- A thread goes from one thing to another. -/
theorem Faithful.turn {old new : List Activity} {other : FrameId} (frames : next.frames = coroutines.frames)
    (trace : next.trace = coroutines.trace) (top : coroutines.activities thread = old ++ rest)
    (activities : next.activities = Function.update coroutines.activities thread (new ++ rest))
    (before : ∀ other gate, .execution gate (.finishing other) ∉ old)
    (after : ∀ other gate, .execution gate (.finishing other) ∉ new) : next.Faithful other := by
  apply (faithful other).keep _ (trace.trans (List.append_nil _).symm)
  · exact fun _ none => by cases none
  · exact fun _ => finishing_iff top activities (before other) (after other)
  · rw [frames]

/-- What is done to objects and controls does not matter. -/
theorem Faithful.same {other : FrameId} (frames : next.frames = coroutines.frames)
    (trace : next.trace = coroutines.trace)
    (activities : next.activities = coroutines.activities) : next.Faithful other := by
  apply (faithful other).keep _ (trace.trans (List.append_nil _).symm)
  · exact fun _ none => by cases none
  · intro holder
    unfold Finishing
    rw [activities]
  · rw [frames]

/-- A call that is refused leaves everything as it is. -/
theorem Faithful.emit (event : Event Value Failure) (none : event.subject = none)
    (other : FrameId) : (coroutines.emit event).Faithful other := by
  have record : (coroutines.emit event).frames other = coroutines.frames other := rfl
  have trace : (coroutines.emit event).trace = coroutines.trace ++ [event] := rfl
  apply (faithful other).keep record trace
  · intro one listed
    rw [List.mem_singleton.mp listed, none]
    simp
  · exact fun _ => .rfl

/-- A body is started. -/
theorem Faithful.executeFirst (threaded : coroutines.Threaded)
    (at_ : coroutines.status frame = .suspended .initial)
    (lazy : (coroutines.frames frame).startState_ = .lazy) (other : FrameId) :
    ((coroutines.markStarted frame).execute thread frame).Faithful other := by
  have frames : (coroutines.markStarted frame).frames = Function.update coroutines.frames frame
      { coroutines.frames frame with startState_ := .started } := rfl
  have here : (coroutines.markStarted frame).frames frame =
      { coroutines.frames frame with startState_ := .started } := by
    rw [frames, Function.update_self]
  have alive : coroutines.status frame ≠ .destroyed := by
    rw [at_]
    simp
  have before := (faithful frame).lives
  rw [Frame.life_created alive lazy] at before
  apply Faithful.execute _ (before.here .start)
  · rw [here]
  · rw [here]
    exact (faithful frame).suspended .initial at_
  · intro holder
    apply Faithful.unfinished threaded
    rw [at_]
    rfl
  · rw [status_same frames rfl]
    exact at_
  · simp
  · intro item differs
    have trace : (coroutines.markStarted frame).trace =
      coroutines.trace ++ [Event.started frame] := rfl
    apply (faithful item).keep _ trace
    · exact unrelated rfl differs
    · exact fun _ => .rfl
    · rw [frames, Function.update_of_ne differs]

variable (valid : coroutines.Valid) (running : coroutines.terminated = false)
include valid running

theorem Faithful.start (held : coroutines.held task = some (some frame)) (other : FrameId) :
    (coroutines.start thread frame).Faithful other := by
  have sound := valid.sound running
  have alive := (sound.owes held).2.1
  unfold Coroutines.start
  split
  case h_1 => exact faithful other
  case h_2 dead => exact absurd dead alive
  case h_3 =>
    split
    case h_1 => exact Faithful.emit faithful _ rfl other
    case h_2 lazy =>
      have at_ := ((valid.records running frame).lazy lazy).resolve_right alive
      exact Faithful.executeFirst faithful sound.threaded at_ lazy other

theorem Faithful.result (held : coroutines.held task = some (some frame)) (other : FrameId) :
    (coroutines.result thread frame).Faithful other := by
  have sound := valid.sound running
  have alive := (sound.owes held).2.1
  unfold Coroutines.result
  split
  case h_1 done =>
    obtain ⟨started, result, some_⟩ := (faithful frame).ended (valid.records running frame) done
    obtain ⟨read, same⟩ : ∃ read, read =
      Event.read thread frame (coroutines.frames frame).result := ⟨_, rfl⟩
    have trace : (coroutines.emit read).trace = coroutines.trace ++ [read] := rfl
    have record : (coroutines.emit read).frames other = coroutines.frames other := rfl
    rw [← same]
    by_cases this : other = frame
    · subst this
      have old := faithful other
      have life : (coroutines.frames other).life = .ended result :=
        Frame.life_ended alive started some_ fun _ => (sound.unlinked held).2
      refine ⟨?_, old.suspended, old.running, old.done⟩
      have before := old.lives
      rw [record, trace, same, some_, life]
      rw [life] at before
      exact before.here .read
    · apply (faithful other).keep record trace
      · exact unrelated (by rw [same]; rfl) this
      · exact fun _ => .rfl
  case h_2 dead => exact absurd dead alive
  case h_3 => exact Faithful.emit faithful _ rfl other

theorem Faithful.detach (held : coroutines.held task = some (some frame))
    (taken : (coroutines.setCoroutine task none).detach thread frame = some next)
    (defined : next.undefined = false) (lives : next.terminated = false) (other : FrameId) :
    next.Faithful other := by
  have sound := valid.sound running
  have alive := (sound.owes held).2.1
  have given : ∀ other, (coroutines.setCoroutine task none).Faithful other :=
    fun _ => Faithful.same faithful rfl rfl rfl
  unfold Coroutines.detach at taken
  split at taken
  case h_1 =>
    exact Faithful.destroyHere (fun other _ => given other) (given frame).lives
      (sound.destructible held) taken defined lives other
  case h_2 dead => exact absurd dead alive
  case h_3 ongoing _ =>
    obtain ⟨detached, same⟩ : ∃ detached, detached =
        (coroutines.setCoroutine task none).change frame fun old => { old with detached_ := true } :=
      ⟨_, rfl⟩
    have frames : detached.frames = Function.update coroutines.frames frame
        { coroutines.frames frame with detached_ := true } := by
      rw [same]
      rfl
    have here : detached.frames frame = { coroutines.frames frame with detached_ := true } := by
      rw [frames, Function.update_self]
    have trace : detached.trace = coroutines.trace := by
      rw [same]
      rfl
    have activities : detached.activities = coroutines.activities := by
      rw [same]
      rfl
    have later : ∀ other, detached.Faithful other :=
      Faithful.revise faithful frames rfl rfl rfl trace activities
    have still : detached.Threaded := by
      have threaded := sound.threaded
      have statuses : detached.status = coroutines.status := status_same frames rfl
      rw [same] at statuses ⊢
      refine ⟨threaded.locked, threaded.counted, threaded.idle, ?_, threaded.under⟩
      rw [statuses]
      exact threaded.running
    rw [← same] at taken
    split at taken
    case h_1 =>
      cases taken
      exact later other
    case h_2 lazy =>
      cases taken
      have at_ := ((valid.records running frame).lazy lazy).resolve_right alive
      apply Faithful.executeFirst later still
      · rw [status_same frames rfl]
        exact at_
      · rw [here]
        exact lazy

end

end Coroutines

end MiniTrantor.Coroutine.Tasks
