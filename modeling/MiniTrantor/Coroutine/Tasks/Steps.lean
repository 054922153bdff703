import MiniTrantor.Coroutine.Tasks.Endings

/-!
# Steps of coroutines

Every step keeps the invariant, unless it terminates the program, and no step does what is
not defined.
-/

set_option autoImplicit false

namespace MiniTrantor.Coroutine.Tasks

variable {Value Failure : Type}

namespace Frame.Sound

variable {frame : Frame Value Failure}

theorem start : Sound ({} : Frame Value Failure) := by
  constructor <;> simp

theorem destroy (sound : frame.Sound) :
    Sound { frame with status := .destroyed, handle := false } where
  handle := by simp
  lazy _ := .inr rfl
  started _ := by simp
  resumable suspension known unused := ⟨(sound.resumable suspension known unused).1, .inr rfl⟩
  unused := sound.unused
  waits at_ := by cases at_
  continued := sound.continued
  detached gone := ⟨(sound.detached gone).1, by simp⟩

/-- A frame that is resumed where it was suspended, or handed over to. -/
theorem run (sound : frame.Sound) (thread : Thread) (alive : frame.status ≠ .destroyed)
    (started : frame.startState_ = .started)
    (used : ∀ suspension, suspension < frame.suspensions → frame.resumed suspension = true) :
    Sound { frame with status := .running thread } where
  handle := by simp [sound.handle.mpr alive]
  lazy unstarted := by simp [started] at unstarted
  started _ := by simp
  resumable suspension known unused := by
    simp only [used suspension known] at unused
    cases unused
  unused := sound.unused
  waits at_ := by cases at_
  continued := sound.continued
  detached gone := ⟨(sound.detached gone).1, by simp⟩

/-- Every handle of a frame that is not suspended elsewhere was used. -/
theorem used (sound : frame.Sound) (alive : frame.status ≠ .destroyed)
    (elsewhere : frame.status ≠ .suspended .awaitable) (suspension : Nat)
    (known : suspension < frame.suspensions) : frame.resumed suspension = true := by
  cases unused : frame.resumed suspension with
  | true => rfl
  | false =>
      obtain waits | dead := (sound.resumable suspension known unused).2
      · exact absurd waits elsewhere
      · exact absurd dead alive

/-- A body is started. -/
theorem first (sound : frame.Sound) (thread : Thread)
    (at_ : frame.status = .suspended .initial) :
    Sound { frame with startState_ := .started, status := .running thread } where
  handle := by simp [sound.handle.mpr (by rw [at_]; simp)]
  lazy unstarted := by cases unstarted
  started _ := by simp
  resumable suspension known unused := by
    have used := sound.used (by rw [at_]; simp) (by rw [at_]; simp) suspension known
    simp only [used] at unused
    cases unused
  unused := sound.unused
  waits at_ := by cases at_
  continued _ := rfl
  detached gone := ⟨(sound.detached gone).1, by simp⟩

theorem continue_ (sound : frame.Sound) (owed : frame.detached_ = false)
    (started : frame.startState_ = .started) (parent : FrameId) :
    Sound { frame with continuation_ := some parent } :=
  ⟨sound.handle, sound.lazy, sound.started, sound.resumable, sound.unused, sound.waits,
    fun _ => started, fun gone => by simp [owed] at gone⟩

end Frame.Sound

namespace Coroutines

variable {coroutines next : Coroutines Value Failure} {thread : Thread} {gate : Gate}
  {task : TaskId} {parent child frame : FrameId} {rest base : List Activity}
  {loose : Option FrameId} {record : Frame Value Failure}

/-- No step was undefined, and the invariant holds as long as the program runs. -/
structure Valid (coroutines : Coroutines Value Failure) : Prop where
  defined : coroutines.undefined = false
  sound : coroutines.terminated = false → coroutines.Sound none
  records : coroutines.terminated = false → ∀ frame, (coroutines.frames frame).Sound

section

variable (records : ∀ frame, (coroutines.frames frame).Sound)
include records

theorem records_update (frames : next.frames = Function.update coroutines.frames frame record)
    (sound : record.Sound) (other : FrameId) : (next.frames other).Sound := by
  rw [frames]
  by_cases same : other = frame
  · subst same
    rwa [Function.update_self]
  · rw [Function.update_of_ne same]
    exact records other

/-- A loose frame is destroyed above what a thread is in the middle of. -/
theorem Valid.destroyFrame (sound : (coroutines.put thread base).Sound (some frame))
    (defined : coroutines.undefined = false)
    (kept : (coroutines.put thread base).mutex = coroutines.mutex)
    (clear : (coroutines.put thread base).Clear thread)
    (taken : coroutines.destroyFrame thread frame base = some next) : next.Valid := by
  obtain ⟨same, terminated | ⟨sound, frames⟩⟩ := sound.destroyFrame kept clear taken
  · refine ⟨same.trans defined, ?_, ?_⟩ <;>
      exact fun live => by rw [terminated] at live; cases live
  · refine ⟨same.trans defined, fun _ => sound, fun _ => ?_⟩
    exact records_update records frames (records frame).destroy

theorem Valid.destroyHere (sound : coroutines.Sound (some frame))
    (defined : coroutines.undefined = false) (clear : coroutines.Clear thread)
    (taken : coroutines.destroyFrame thread frame (coroutines.activities thread) = some next) :
    next.Valid := by
  have same : coroutines.put thread (coroutines.activities thread) = coroutines :=
    sound.threaded.put_self
  apply Valid.destroyFrame records _ defined _ _ taken
  · rwa [same]
  · rw [same]
  · rwa [same]

end

theorem enter_eq {point : Point} (at_ : coroutines.status frame = .suspended point) :
    coroutines.enter thread gate frame rest =
      (coroutines.setStatus frame (.running thread)).put thread
        (.execution gate (if point = .task then .returning frame else .body frame) :: rest) := by
  unfold enter
  rw [at_]

/-- A frame that is suspended at its beginning or elsewhere is resumed. -/
theorem Valid.execute (sound : coroutines.Sound none)
    (records : ∀ other, other ≠ frame → (coroutines.frames other).Sound)
    (defined : coroutines.undefined = false)
    (known : frame < coroutines.controls.created) (clear : coroutines.Clear thread)
    (free : coroutines.gateOpen thread (coroutines.gate frame) = true) {point : Point}
    (at_ : coroutines.status frame = .suspended point) (elsewhere : point ≠ .task)
    (record : Frame.Sound { coroutines.frames frame with status := .running thread }) :
    (coroutines.execute thread frame).Valid := by
  have result : coroutines.execute thread frame =
      ({ coroutines with
        executions := Function.update coroutines.executions (coroutines.gate frame)
          (coroutines.executions (coroutines.gate frame) + 1) }.setStatus frame
            (.running thread)).put thread
              (.execution (coroutines.gate frame) (.body frame) :: coroutines.activities thread) := by
    unfold Coroutines.execute
    have same : { coroutines with
        executions := Function.update coroutines.executions (coroutines.gate frame)
          (coroutines.executions (coroutines.gate frame) + 1) }.status frame =
      .suspended point := at_
    rw [enter_eq same, if_neg elsewhere]
  have resumes : Resumes coroutines (coroutines.execute thread frame) thread frame
      { coroutines.frames frame with status := .running thread } := by
    rw [result]
    exact ⟨known, clear, free, ⟨point, at_, elsewhere⟩, rfl, rfl, rfl, rfl,
      ⟨⟨rfl, rfl, rfl, rfl, rfl, rfl⟩, rfl⟩, rfl, rfl⟩
  refine ⟨?_, fun _ => resumes.sound sound, fun _ => ?_⟩
  · rw [result]
    exact defined
  · intro other
    rw [resumes.frames]
    by_cases same : other = frame
    · subst same
      rwa [Function.update_self]
    · rw [Function.update_of_ne same]
      exact records other same

theorem Sound.clear_markStarted (clear : coroutines.Clear thread) :
    (coroutines.markStarted frame).Clear thread := by
  have frames : (coroutines.markStarted frame).frames = Function.update coroutines.frames frame
      { coroutines.frames frame with startState_ := .started } := rfl
  intro gate parent rest top
  rw [awaiter_same frames rfl]
  exact clear gate parent rest top

/-- The body of a frame that was not started is started. -/
theorem Valid.executeFirst (sound : coroutines.Sound none)
    (records : ∀ other, other ≠ frame → (coroutines.frames other).Sound)
    (mine : (coroutines.frames frame).Sound) (defined : coroutines.undefined = false)
    (known : frame < coroutines.controls.created) (clear : coroutines.Clear thread)
    (free : coroutines.gateOpen thread (coroutines.gate frame) = true)
    (lazy : (coroutines.frames frame).startState_ = .lazy)
    (alive : coroutines.status frame ≠ .destroyed) :
    ((coroutines.markStarted frame).execute thread frame).Valid := by
  have at_ : coroutines.status frame = .suspended .initial := (mine.lazy lazy).resolve_right alive
  have frames : (coroutines.markStarted frame).frames = Function.update coroutines.frames frame
      { coroutines.frames frame with startState_ := .started } := rfl
  have here : (coroutines.markStarted frame).frames frame =
      { coroutines.frames frame with startState_ := .started } := by
    rw [frames, Function.update_self]
  apply Valid.execute (sound.rewrite frames rfl known rfl rfl rfl rfl) _ defined known
    (Sound.clear_markStarted clear) free
  · rw [status_same frames rfl]
    exact at_
  · simp
  · rw [here]
    exact mine.first thread at_
  · intro other differs
    rw [frames, Function.update_of_ne differs]
    exact records other differs

theorem Valid.of_sound (sound : coroutines.Sound none)
    (records : ∀ frame, (coroutines.frames frame).Sound) (defined : coroutines.undefined = false) :
    coroutines.Valid :=
  ⟨defined, fun _ => sound, fun _ => records⟩

theorem Valid.emit (valid : coroutines.Valid) (event : Event Value Failure) :
    (coroutines.emit event).Valid :=
  ⟨valid.defined, fun live => (valid.sound live).emit event, valid.records⟩

section Calls

variable (valid : coroutines.Valid) (sound : coroutines.Sound none)
  (records : ∀ frame, (coroutines.frames frame).Sound)

include valid sound records

theorem Valid.start (clear : coroutines.Clear thread)
    (held : coroutines.held task = some (some frame))
    (free : coroutines.gateOpen thread (coroutines.gate frame) = true) :
    (coroutines.start thread frame).Valid := by
  have owes := sound.owes held
  unfold Coroutines.start
  split
  case h_1 => exact valid
  case h_2 dead => exact absurd dead owes.2.1
  case h_3 =>
    split
    case h_1 => exact valid.emit _
    case h_2 lazy =>
      exact Valid.executeFirst sound (fun other _ => records other) (records frame) valid.defined
        owes.1 clear free lazy owes.2.1

omit records in
theorem Valid.result (held : coroutines.held task = some (some frame)) :
    (coroutines.result thread frame).Valid := by
  have owes := sound.owes held
  unfold Coroutines.result
  split
  case h_1 => exact valid.emit _
  case h_2 dead => exact absurd dead owes.2.1
  case h_3 => exact valid.emit _

/-- The frame of a `Task` is on its own. -/
theorem Valid.detach (clear : coroutines.Clear thread)
    (held : coroutines.held task = some (some frame))
    (free : coroutines.gateOpen thread (coroutines.gate frame) = true)
    (taken : (coroutines.setCoroutine task none).detach thread frame = some next) : next.Valid := by
  have owes := sound.owes held
  have given := sound.give held
  have unlinked := sound.unlinked held
  unfold Coroutines.detach at taken
  split at taken
  case h_1 =>
    refine Valid.destroyHere ?_ given valid.defined clear taken
    exact records
  case h_2 dead => exact absurd dead owes.2.1
  case h_3 ongoing alive =>
    obtain ⟨detached, same⟩ : ∃ detached, detached =
        (coroutines.setCoroutine task none).change frame fun old => { old with detached_ := true } :=
      ⟨_, rfl⟩
    have frames : detached.frames = Function.update coroutines.frames frame
        { coroutines.frames frame with detached_ := true } := by
      rw [same]
      rfl
    have record : Frame.Sound { coroutines.frames frame with detached_ := true } := by
      have old := records frame
      exact ⟨old.handle, old.lazy, old.started, old.resumable, old.unused, old.waits,
        old.continued, fun _ => ⟨unlinked.2, ongoing⟩⟩
    have records := records_update records frames record
    have rest : detached =
        { coroutines.setCoroutine task none with
          frames := detached.frames
          trace := detached.trace } := by
      rw [same]
      rfl
    have changed : detached.frames =
        Function.update (coroutines.setCoroutine task none).frames frame
          { coroutines.frames frame with detached_ := true } := frames
    have sound : detached.Sound none := given.detach changed rest unlinked rfl rfl rfl rfl
    have defined : detached.undefined = false := by
      rw [same]
      exact valid.defined
    rw [← same] at taken
    split at taken
    case h_1 =>
      cases taken
      exact .of_sound sound records defined
    case h_2 lazy =>
      cases taken
      have lazy : (detached.frames frame).startState_ = .lazy := by
        rw [frames, Function.update_self]
        exact lazy
      have alive : detached.status frame ≠ .destroyed := by
        rw [status_same frames rfl]
        exact owes.2.1
      apply Valid.executeFirst sound (fun other _ => records other) (records frame) defined _ _ _ lazy
        alive
      · rw [rest]
        exact owes.1
      · intro gate parent below top
        rw [awaiter_same frames rfl]
        rw [rest] at top
        exact clear gate parent below top
      · rw [rest]
        exact free

end Calls

end Coroutines

end MiniTrantor.Coroutine.Tasks
