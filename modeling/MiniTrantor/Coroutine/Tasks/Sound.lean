import MiniTrantor.Coroutine.SharedGates
import MiniTrantor.Coroutine.Tasks.Task
import MiniTrantor.Custody
import MiniTrantor.SoleOwnership

/-!
# What holds of frames and threads

The invariant of the coroutines, by subject: the threads and the gates that they hold, the
owner of each frame, the links between frames that wait for one another, the activities that
refer to frames, the assignments under way, and the places of the `Task` objects.
-/

set_option autoImplicit false

namespace MiniTrantor.Coroutine.Tasks

variable {Value Failure : Type}

/-- Who has a frame. -/
inductive Holder where
  | task (task : TaskId)
  | awaiter (parent : FrameId)
  deriving DecidableEq, Repr

def Status.thread : Status → Option Thread
  | .running thread => some thread
  | _ => none

namespace Activity

def marks (thread : Thread) : Activity → List (FrameId × Status)
  | .execution _ doing => (doing.runs.map fun frame => (frame, .running thread)).toList
  | _ => []

def executes (gate : Gate) : Activity → Bool
  | .execution other _ => other == gate
  | _ => false

/-- The object that is being assigned. -/
def target : Activity → Option TaskId
  | .assigning _ target => some target
  | _ => none

end Activity

namespace Coroutines

variable (coroutines : Coroutines Value Failure)

def awaiter (frame : FrameId) : Option FrameId :=
  (coroutines.frames frame).awaiter

def continuation (frame : FrameId) : Option FrameId :=
  (coroutines.frames frame).continuation_

def detached (frame : FrameId) : Bool :=
  (coroutines.frames frame).detached_

def home (task : TaskId) : Option FrameId :=
  (coroutines.tasks task).bind Task.home

def holding : Holder → Option FrameId
  | .task task => (coroutines.held task).join
  | .awaiter parent => coroutines.awaiter parent

/-- A frame has an owner until it is destroyed or detached. -/
def Owed (frame : FrameId) : Prop :=
  frame < coroutines.controls.created ∧ coroutines.status frame ≠ .destroyed ∧
    coroutines.detached frame = false

structure Threaded : Prop where
  locked : ∀ thread gate, coroutines.mutex gate = some thread ↔
    ∃ activity ∈ coroutines.activities thread, activity.locks = some gate
  counted : ∀ thread gate, coroutines.mutex gate = some thread →
    coroutines.executions gate = (coroutines.activities thread).countP (Activity.executes gate)
  idle : ∀ gate, coroutines.mutex gate = none → coroutines.executions gate = 0
  running : Custody.InStep Activity.marks Status.thread coroutines.activities coroutines.status
  under : ∀ thread gate doing frame, .execution gate doing ∈ coroutines.activities thread →
    doing.runs = some frame → coroutines.gate frame = gate

/-- The links between a frame and the one that it awaits. -/
structure Linked (loose : Option FrameId) : Prop where
  shared : FrameControls.Shared coroutines.controls
  alive : ∀ frame, frame < coroutines.controls.created → coroutines.status frame ≠ .destroyed →
    coroutines.controls.alive frame = true
  children : ∀ parent child, child ∈ coroutines.controls.children parent →
    coroutines.status child = .destroyed ∨ coroutines.awaiter parent = some child ∨
      loose = some child
  listed : ∀ parent child, coroutines.awaiter parent = some child →
    child ∈ coroutines.controls.children parent
  continued : ∀ parent child, coroutines.awaiter parent = some child →
    coroutines.continuation child = some parent
  awaited : ∀ parent child, coroutines.continuation child = some parent →
    coroutines.status child ≠ .destroyed → coroutines.awaiter parent = some child ∨
      loose = some child
  together : ∀ parent child, coroutines.awaiter parent = some child →
    coroutines.gate child = coroutines.gate parent

/-- What is known of the frames that activities are about, and of the frames that wait. -/
structure Waiting : Prop where
  suspended : ∀ parent child, coroutines.awaiter parent = some child →
    coroutines.status parent = .suspended .task ∨ coroutines.status parent = .destroyed →
      coroutines.status child ≠ .done
  returns : ∀ parent child thread, coroutines.awaiter parent = some child →
    coroutines.status parent = .running thread → coroutines.status child = .done
  destroyed : ∀ parent child, coroutines.awaiter parent = some child →
    coroutines.status parent = .destroyed → ∃ thread rest, coroutines.activities thread =
      .destroying (coroutines.gate child) parent :: rest ∧
        coroutines.executions (coroutines.gate child) = 0
  awaiting : ∀ frame, coroutines.status frame = .suspended .task → coroutines.awaiter frame ≠ none
  others : ∀ frame, coroutines.awaiter frame ≠ none → coroutines.status frame = .suspended .task ∨
    (∃ thread, coroutines.status frame = .running thread) ∨ coroutines.status frame = .destroyed
  bodies : ∀ thread gate doing frame, .execution gate doing ∈ coroutines.activities thread →
    doing = .body frame ∨ doing = .finishing frame → coroutines.awaiter frame = none
  returning : ∀ thread gate frame, .execution gate (.returning frame) ∈ coroutines.activities thread →
    coroutines.awaiter frame ≠ none
  unwinding : ∀ thread gate frame, .destroying gate frame ∈ coroutines.activities thread →
    coroutines.status frame = .destroyed

structure Assigned : Prop where
  emptied : ∀ thread source target, .assigning source target ∈ coroutines.activities thread →
    coroutines.held source ≠ none ∧ coroutines.held target = some none
  once : ∀ thread, ((coroutines.activities thread).filterMap Activity.target).Nodup
  apart : ∀ first second, first ≠ second →
    ∀ task ∈ (coroutines.activities first).filterMap Activity.target,
      task ∉ (coroutines.activities second).filterMap Activity.target

structure Housed : Prop where
  bounded : ∀ task, coroutines.held task ≠ none → task < coroutines.constructed
  homes : ∀ task frame, coroutines.home task = some frame → coroutines.status frame = .destroyed →
    ∃ thread gate, .destroying gate frame ∈ coroutines.activities thread
  hosts : ∀ task frame, coroutines.home task = some frame → frame < coroutines.controls.created

structure Sound (loose : Option FrameId) : Prop where
  threaded : coroutines.Threaded
  owned : SoleOwnership coroutines.holding loose coroutines.Owed
  linked : coroutines.Linked loose
  waiting : coroutines.Waiting
  assigned : coroutines.Assigned
  housed : coroutines.Housed
  fresh : ∀ frame, coroutines.controls.created ≤ frame → coroutines.frames frame = {}

end Coroutines

/-- What the fields of one frame say of one another. -/
structure Frame.Sound (frame : Frame Value Failure) : Prop where
  handle : frame.handle = true ↔ frame.status ≠ .destroyed
  lazy : frame.startState_ = .lazy → frame.status = .suspended .initial ∨ frame.status = .destroyed
  started : frame.startState_ = .started → frame.status ≠ .suspended .initial
  resumable : ∀ suspension, suspension < frame.suspensions → frame.resumed suspension = false →
    suspension + 1 = frame.suspensions ∧
      (frame.status = .suspended .awaitable ∨ frame.status = .destroyed)
  unused : ∀ suspension, frame.suspensions ≤ suspension → frame.resumed suspension = false
  waits : frame.status = .suspended .awaitable →
    ∃ last, frame.suspensions = last + 1 ∧ frame.resumed last = false
  continued : frame.continuation_ ≠ none → frame.startState_ = .started
  detached : frame.detached_ = true → frame.continuation_ = none ∧ frame.status ≠ .done

end MiniTrantor.Coroutine.Tasks
