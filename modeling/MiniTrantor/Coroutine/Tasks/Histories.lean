import MiniTrantor.Coroutine.Tasks.Calls
import MiniTrantor.Coroutine.Tasks.Life

/-!
# The trace of coroutines

The record of each frame says what has become of the coroutine, and the events of the trace
are the life that leads there.
-/

set_option autoImplicit false

namespace MiniTrantor.Coroutine.Tasks

variable {Value Failure : Type}

def Frame.life (frame : Frame Value Failure) : Life Value Failure :=
  if frame.status = .destroyed then .destroyed
  else
    match frame.startState_, frame.result with
    | .lazy, _ => .created
    | .started, none => .started
    | .started, some result =>
        match frame.status, frame.continuation_ with
        | .done, some parent => .continued parent result
        | _, _ => .ended result

namespace Frame

variable {frame : Frame Value Failure}

theorem life_destroyed (gone : frame.status = .destroyed) : frame.life = .destroyed := by
  rw [life, if_pos gone]

theorem life_created (alive : frame.status ≠ .destroyed) (lazy : frame.startState_ = .lazy) :
    frame.life = .created := by
  rw [life, if_neg alive, lazy]

theorem life_started (alive : frame.status ≠ .destroyed) (started : frame.startState_ = .started)
    (none : frame.result = none) : frame.life = .started := by
  rw [life, if_neg alive, started, none]

theorem life_ended (alive : frame.status ≠ .destroyed) (started : frame.startState_ = .started)
    {result : Except Failure Value} (some_ : frame.result = some result)
    (alone : frame.status = .done → frame.continuation_ = none) : frame.life = .ended result := by
  rw [life, if_neg alive, started, some_]
  cases at_ : frame.status with
  | done => rw [alone at_]
  | suspended | running | destroyed => rfl

theorem life_continued (done : frame.status = .done) (started : frame.startState_ = .started)
    {result : Except Failure Value} (some_ : frame.result = some result) {parent : FrameId}
    (waits : frame.continuation_ = some parent) : frame.life = .continued parent result := by
  rw [life, if_neg (by rw [done]; simp), started, some_, done, waits]

/-- It does not matter who waits before the end. -/
theorem life_adopted (pending : frame.status ≠ .done) (parent : FrameId) :
    life { frame with continuation_ := some parent } = frame.life := by
  unfold life
  cases at_ : frame.status with
  | done => exact absurd at_ pending
  | suspended | running | destroyed => rfl

/-- A coroutine that nobody goes on with. -/
theorem destructible (alive : frame.status ≠ .destroyed)
    (alone : frame.status = .done → frame.continuation_ = none) : frame.life.Destructible := by
  cases state : frame.startState_ with
  | lazy =>
      rw [life_created alive state]
      trivial
  | started =>
      cases result : frame.result with
      | none =>
          rw [life_started alive state result]
          trivial
      | some result =>
          rw [life_ended alive state result alone]
          trivial

end Frame

namespace Coroutines

/-- The body of the frame is over, and its locals are being destroyed. -/
def Finishing (coroutines : Coroutines Value Failure) (thread : Thread) (frame : FrameId) : Prop :=
  ∃ gate, .execution gate (.finishing frame) ∈ coroutines.activities thread

/-- The trace and the record of a frame agree. -/
structure Faithful (coroutines : Coroutines Value Failure) (frame : FrameId) : Prop where
  lives : Leads frame .created coroutines.trace (coroutines.frames frame).life
  suspended : ∀ point, coroutines.status frame = .suspended point →
    (coroutines.frames frame).result = none
  running : ∀ thread, coroutines.status frame = .running thread →
    ((coroutines.frames frame).result ≠ none ↔ coroutines.Finishing thread frame)
  done : coroutines.status frame = .done → (coroutines.frames frame).result ≠ none

variable {coroutines next : Coroutines Value Failure} {thread holder : Thread} {gate : Gate}
  {task : TaskId} {parent child frame other : FrameId} {old new rest base : List Activity}
  {record : Frame Value Failure} {events : List (Event Value Failure)}

theorem finishing_iff (top : coroutines.activities thread = old ++ rest)
    (activities : next.activities = Function.update coroutines.activities thread (new ++ rest))
    (before : ∀ gate, .execution gate (.finishing frame) ∉ old)
    (after : ∀ gate, .execution gate (.finishing frame) ∉ new) :
    next.Finishing holder frame ↔ coroutines.Finishing holder frame := by
  unfold Finishing
  rw [activities]
  constructor
  · rintro ⟨gate, listed⟩
    obtain ⟨_, fresh⟩ | listed := mem_update top listed
    · exact absurd fresh (after gate)
    · exact ⟨gate, listed⟩
  · rintro ⟨gate, listed⟩
    exact ⟨gate, mem_update_of top listed (before gate)⟩

/-- An event belongs to one coroutine. -/
theorem unrelated {event : Event Value Failure} (subject : event.subject = some frame)
    (differs : other ≠ frame) : ∀ one ∈ [event], one.subject ≠ some other := by
  intro one listed same
  rw [List.mem_singleton.mp listed, subject] at same
  exact differs (Option.some.inj same).symm

namespace Faithful

/-- The frames that a step is not about. -/
theorem keep (faithful : coroutines.Faithful other)
    (record : next.frames other = coroutines.frames other)
    (trace : next.trace = coroutines.trace ++ events)
    (unrelated : ∀ event ∈ events, event.subject ≠ some other)
    (finishing : ∀ thread, next.Finishing thread other ↔ coroutines.Finishing thread other) :
    next.Faithful other := by
  have at_ : next.status other = coroutines.status other := congrArg Frame.status record
  constructor
  · rw [record, trace]
    exact faithful.lives.others unrelated
  · rw [record, at_]
    exact faithful.suspended
  · intro thread runs
    rw [at_] at runs
    rw [record, finishing]
    exact faithful.running thread runs
  · rw [record, at_]
    exact faithful.done

/-- A record is changed where it does not matter to the life of the coroutine. -/
theorem revise (faithful : ∀ frame, coroutines.Faithful frame)
    (frames : next.frames = Function.update coroutines.frames frame record)
    (life : record.life = (coroutines.frames frame).life)
    (result : record.result = (coroutines.frames frame).result)
    (status : record.status = coroutines.status frame) (trace : next.trace = coroutines.trace)
    (activities : next.activities = coroutines.activities) (other : FrameId) :
    next.Faithful other := by
  have finishing : ∀ {holder item}, next.Finishing holder item ↔ coroutines.Finishing holder item := by
    intro holder item
    unfold Finishing
    rw [activities]
  by_cases same : other = frame
  · subst same
    have old := faithful other
    have at_ : next.status other = coroutines.status other := congrFun (status_same frames status) _
    have here := congrFun frames other
    rw [Function.update_self] at here
    constructor
    · rw [here, life, trace]
      exact old.lives
    · rw [here, result, at_]
      exact old.suspended
    · intro thread runs
      rw [here, result, finishing]
      exact old.running thread (at_.symm.trans runs)
    · rw [here, result, at_]
      exact old.done
  · apply (faithful other).keep _ (trace.trans (List.append_nil _).symm)
    · exact fun _ none => by cases none
    · exact fun _ => finishing
    · rw [frames, Function.update_of_ne same]

/-- A frame that is destroyed. -/
theorem gone (lives : Leads frame .created next.trace .destroyed)
    (gone : next.status frame = .destroyed) : next.Faithful frame := by
  refine ⟨?_, ?_, ?_, ?_⟩
  · rwa [Frame.life_destroyed gone]
  · intro point at_
    rw [gone] at at_
    cases at_
  · intro thread at_
    rw [gone] at at_
    cases at_
  · intro at_
    rw [gone] at at_
    cases at_

/-- A coroutine that was started and has not ended. -/
theorem ongoing (lives : Leads frame .created next.trace .started)
    (started : (next.frames frame).startState_ = .started)
    (none : (next.frames frame).result = none) (alive : next.status frame ≠ .destroyed)
    (pending : next.status frame ≠ .done) (unfinished : ∀ thread, ¬next.Finishing thread frame) :
    next.Faithful frame := by
  refine ⟨?_, fun _ _ => none, ?_, fun done => absurd done pending⟩
  · rwa [Frame.life_started alive started none]
  · intro thread _
    exact ⟨fun some_ => absurd none some_, fun finishing => absurd finishing (unfinished thread)⟩

/-- Only the body of a frame that runs can be over. -/
theorem unfinished (threaded : coroutines.Threaded) (asleep : (coroutines.status frame).thread = none)
    (thread : Thread) : ¬coroutines.Finishing thread frame := by
  rintro ⟨gate, listed⟩
  rw [threaded.running_of listed rfl] at asleep
  cases asleep

/-- A body that a thread is in is not over. -/
theorem unreturned (faithful : coroutines.Faithful frame) (threaded : coroutines.Threaded)
    {doing : Doing} (top : coroutines.activities thread = .execution gate doing :: rest)
    (runs : doing.runs = some frame) (other : doing ≠ .finishing frame) :
    (coroutines.frames frame).result = none ∧ ∀ holder, ¬coroutines.Finishing holder frame := by
  have unfinished : ∀ holder, ¬coroutines.Finishing holder frame := by
    rintro holder ⟨gate, listed⟩
    exact other (threaded.alone top runs rfl listed).symm
  have listed : .execution gate doing ∈ coroutines.activities thread := by
    rw [top]
    exact List.mem_cons_self
  have running := threaded.running_of listed runs
  refine ⟨?_, unfinished⟩
  by_contra some_
  exact unfinished thread ((faithful.running thread running).mp some_)

end Faithful

theorem destroyFrame_effect (taken : coroutines.destroyFrame thread frame base = some next)
    (defined : next.undefined = false) (running : next.terminated = false) :
    next.frames = Function.update coroutines.frames frame
        { coroutines.frames frame with status := .destroyed, handle := false } ∧
      next.trace = coroutines.trace ++ [Event.destroyed frame] ∧
      next.activities = Function.update coroutines.activities thread
        (.destroying (coroutines.gate frame) frame :: base) := by
  obtain ⟨_, ⟨_, rfl⟩ | ⟨_, rfl⟩ | ⟨_, _, rfl⟩⟩ := destroyFrame_cases taken
  · cases defined
  · cases running
  · have still : (∃ point, coroutines.status frame = .suspended point) ∨
        coroutines.status frame = .done := by
      cases at_ : coroutines.status frame with
      | suspended point => exact .inl ⟨point, rfl⟩
      | done => exact .inr rfl
      | running holder =>
          simp only [destroy, at_] at defined
          cases defined
      | destroyed =>
          simp only [destroy, at_] at defined
          cases defined
    rw [destroy_eq still]
    exact ⟨rfl, rfl, rfl⟩

theorem plain_one {other : FrameId} {gate under : Gate} {doing : Doing}
    (differs : doing ≠ .finishing other) :
    Activity.execution gate (.finishing other) ∉ [Activity.execution under doing] := by
  intro listed
  cases List.mem_singleton.mp listed
  exact differs rfl

/-- A frame is destroyed. -/
theorem Faithful.destroyFrame {life : Life Value Failure}
    (others : ∀ other, other ≠ frame → coroutines.Faithful other)
    (mine : Leads frame .created coroutines.trace life) (destructible : life.Destructible)
    (top : coroutines.activities thread = old ++ rest)
    (before : ∀ other gate, .execution gate (.finishing other) ∉ old)
    (after : ∀ other gate, .execution gate (.finishing other) ∉ new)
    (taken : coroutines.destroyFrame thread frame (new ++ rest) = some next)
    (defined : next.undefined = false) (running : next.terminated = false) (other : FrameId) :
    next.Faithful other := by
  obtain ⟨frames, trace, activities⟩ := destroyFrame_effect taken defined running
  by_cases same : other = frame
  · subst same
    apply Faithful.gone
    · rw [trace]
      exact mine.here (.destroy destructible)
    · rw [status_update frames, Function.update_self]
  · apply (others other same).keep _ trace
    · exact unrelated rfl same
    · intro holder
      apply finishing_iff top (activities.trans (congrArg _ (List.cons_append ..).symm)) (before other)
      intro gate listed
      obtain new | listed := List.mem_cons.mp listed
      · cases new
      · exact after other gate listed
    · rw [frames, Function.update_of_ne same]

theorem Faithful.destroyHere {life : Life Value Failure}
    (others : ∀ other, other ≠ frame → coroutines.Faithful other)
    (mine : Leads frame .created coroutines.trace life) (destructible : life.Destructible)
    (taken : coroutines.destroyFrame thread frame (coroutines.activities thread) = some next)
    (defined : next.undefined = false) (running : next.terminated = false) (other : FrameId) :
    next.Faithful other := by
  have top : coroutines.activities thread = [] ++ coroutines.activities thread := rfl
  exact Faithful.destroyFrame others mine destructible top (fun _ _ => List.not_mem_nil)
    (fun _ _ => List.not_mem_nil) taken defined running other

end Coroutines

end MiniTrantor.Coroutine.Tasks
