import MiniTrantor.Coroutine.FrameControl
import MiniTrantor.Reachability

/-!
# Tasks

Coroutines with the `Task` objects and the awaiters that own their frames, on any number of
threads. A step is a call up to the point at which other code runs: a body, a destructor, or
an `await_suspend` that is not that of a `Task`. A thread has a stack of what it is in the
middle of; it holds the mutex of a gate as long as one of them is under it.

User code runs outside of the library, in bodies, in the `await_suspend` of other awaitables
and in the destructors of the locals of a frame. It has one `ResumeHandle` for each
suspension there.
-/

set_option autoImplicit false

namespace MiniTrantor.Coroutine.Tasks

abbrev Thread := Nat
abbrev TaskId := Nat

/-- A frame has the number of its control. -/
abbrev FrameId := Control

/-- Where a coroutine is suspended before its end. -/
inductive Point where
  | initial
  | task
  | awaitable
  deriving DecidableEq, Repr

inductive Status where
  | suspended (point : Point)
  | running (thread : Thread)
  | done
  | destroyed
  deriving DecidableEq, Repr

inductive StartState where
  | lazy
  | started
  deriving DecidableEq, Repr

/-- A frame with its promise and the handle in its control. -/
structure Frame (Value Failure : Type) where
  status : Status := .suspended .initial
  handle : Bool := true
  startState_ : StartState := .lazy
  /-- `value_` and `exception_` -/
  result : Option (Except Failure Value) := none
  continuation_ : Option FrameId := none
  detached_ : Bool := false
  /-- The frame that belongs to the `Awaiter` in this one. -/
  awaiter : Option FrameId := none
  suspensions : Nat := 0
  /-- The suspensions whose `ResumeHandle` was used. -/
  resumed : Nat → Bool := fun _ => false

/-- An object, and the frame that has it for a local. -/
structure Task where
  coroutine_ : Option FrameId := none
  home : Option FrameId := none
  deriving DecidableEq, Repr

/-- What runs in a `FrameExecution`. -/
inductive Doing where
  | body (frame : FrameId)
  /-- `await_resume` and the end of the `Awaiter`. -/
  | returning (frame : FrameId)
  /-- The body is over and the locals of the frame are destroyed. -/
  | finishing (frame : FrameId)
  /-- The `await_suspend` of an awaitable other than a `Task`. -/
  | suspending (frame : FrameId)
  | over
  deriving DecidableEq, Repr

inductive Activity where
  | execution (gate : Gate) (doing : Doing)
  /-- `destroyFrame`, while the locals of the frame are destroyed. -/
  | destroying (gate : Gate) (frame : FrameId)
  /-- `operator=` after `destroyFrame`. -/
  | assigning (source target : TaskId)
  deriving DecidableEq, Repr

inductive Event (Value Failure : Type) where
  | started (frame : FrameId)
  | finished (frame : FrameId) (result : Except Failure Value)
  /-- `final_suspend` goes on with the continuation. -/
  | continued (parent child : FrameId)
  | received (parent child : FrameId) (result : Option (Except Failure Value))
  | read (thread : Thread) (frame : FrameId) (result : Option (Except Failure Value))
  | destroyed (frame : FrameId)
  /-- `std::logic_error` -/
  | refused (thread : Thread)

structure Coroutines (Value Failure : Type) where
  controls : FrameControls := {}
  frames : FrameId → Frame Value Failure := fun _ => {}
  tasks : TaskId → Option Task := fun _ => none
  constructed : Nat := 0
  mutex : Gate → Option Thread := fun _ => none
  executions : Gate → Nat := fun _ => 0
  activities : Thread → List Activity := fun _ => []
  /-- `std::terminate` -/
  terminated : Bool := false
  /-- A frame was resumed that was not suspended, destroyed when it was not, or used after
  its end. -/
  undefined : Bool := false
  trace : List (Event Value Failure) := []

inductive Action (Value Failure : Type) where
  | create (thread : Thread) (home : Option FrameId)
  | move (thread : Thread) (source : TaskId) (home : Option FrameId)
  | assign (thread : Thread) (source target : TaskId)
  | drop (thread : Thread) (task : TaskId)
  | start (thread : Thread) (task : TaskId)
  | detach (thread : Thread) (task : TaskId)
  | result (thread : Thread) (task : TaskId)
  | await (thread : Thread) (task : TaskId)
  | suspend (thread : Thread)
  | resume (thread : Thread) (frame : FrameId) (suspension : Nat)
  | finish (thread : Thread) (result : Except Failure Value)
  | goOn (thread : Thread)
  /-- Nobody has the control of a destroyed frame any more. -/
  | expire (control : Control)

/-- The gate whose mutex is locked. -/
def Activity.locks : Activity → Option Gate
  | .execution gate _ | .destroying gate _ => some gate
  | .assigning .. => none

/-- The frame that runs. -/
def Doing.runs : Doing → Option FrameId
  | .body frame | .returning frame | .finishing frame => some frame
  | .suspending _ | .over => none

variable {Value Failure : Type}

namespace Coroutines

variable (coroutines : Coroutines Value Failure)

def emit (event : Event Value Failure) : Coroutines Value Failure :=
  { coroutines with trace := coroutines.trace ++ [event] }

def fault : Coroutines Value Failure :=
  { coroutines with undefined := true }

def gate (frame : FrameId) : Gate :=
  coroutines.controls.gate frame

def status (frame : FrameId) : Status :=
  (coroutines.frames frame).status

def change (frame : FrameId) (update : Frame Value Failure → Frame Value Failure) :
    Coroutines Value Failure :=
  { coroutines with
    frames := Function.update coroutines.frames frame (update (coroutines.frames frame)) }

def setStatus (frame : FrameId) (status : Status) : Coroutines Value Failure :=
  coroutines.change frame fun old => { old with status }

/-- The `coroutine_` of an object, if the object exists. -/
def held (task : TaskId) : Option (Option FrameId) :=
  (coroutines.tasks task).map Task.coroutine_

def setCoroutine (task : TaskId) (coroutine_ : Option FrameId) : Coroutines Value Failure :=
  { coroutines with
    tasks :=
      Function.update coroutines.tasks task
        ((coroutines.tasks task).map fun object => { object with coroutine_ }) }

/-- An object ends. -/
def discard (task : TaskId) : Coroutines Value Failure :=
  { coroutines with tasks := Function.update coroutines.tasks task none }

def construct (object : Task) : Coroutines Value Failure :=
  { coroutines with
    tasks := Function.update coroutines.tasks coroutines.constructed (some object)
    constructed := coroutines.constructed + 1 }

/-- What a thread is in the middle of is replaced. -/
def put (thread : Thread) (stack : List Activity) : Coroutines Value Failure :=
  { coroutines with
    activities := Function.update coroutines.activities thread stack
    mutex := fun gate =>
      if stack.any (·.locks == some gate) then some thread
      else if coroutines.mutex gate = some thread then none else coroutines.mutex gate }

/-- A thread may lock the mutex, again if it holds it. -/
def gateOpen (thread : Thread) (gate : Gate) : Bool :=
  (coroutines.mutex gate).all (· == thread)

def atUser (thread : Thread) : Bool :=
  match (coroutines.activities thread).head? with
  | none => true
  | some (.execution _ (.body _)) | some (.execution _ (.finishing _))
  | some (.execution _ (.suspending _)) => true
  -- the awaiter is the last of the locals
  | some (.destroying _ frame) => (coroutines.frames frame).awaiter.isNone
  | _ => false

/-- A `Task` is among the locals of the frame. -/
def hasLocals (frame : FrameId) : Bool :=
  (List.range coroutines.constructed).any fun task =>
    (coroutines.tasks task).any (·.home == some frame)

/-- A coroutine goes on in a `FrameExecution` that its thread is in. -/
def enter (thread : Thread) (gate : Gate) (frame : FrameId) (rest : List Activity) :
    Coroutines Value Failure :=
  match coroutines.status frame with
  | .suspended point =>
      (coroutines.setStatus frame (.running thread)).put thread
        (.execution gate (if point = .task then .returning frame else .body frame) :: rest)
  | _ => coroutines.fault

/-- A coroutine is resumed in a new `FrameExecution`. -/
def execute (thread : Thread) (frame : FrameId) : Coroutines Value Failure :=
  let gate := coroutines.gate frame
  { coroutines with
    executions := Function.update coroutines.executions gate (coroutines.executions gate + 1) }.enter
    thread gate frame (coroutines.activities thread)

/-- The body is started for the first time. -/
def markStarted (frame : FrameId) : Coroutines Value Failure :=
  (coroutines.change frame fun old => { old with startState_ := .started }).emit (.started frame)

/-- `handle.destroy()` after the control has lost its handle. -/
def destroy (thread : Thread) (gate : Gate) (frame : FrameId) (rest : List Activity) :
    Coroutines Value Failure :=
  match coroutines.status frame with
  | .suspended _ | .done =>
      ((coroutines.change frame fun old => { old with status := .destroyed, handle := false }).emit
        (.destroyed frame)).put thread (.destroying gate frame :: rest)
  | _ => coroutines.fault

def destroyFrame (thread : Thread) (frame : FrameId) (rest : List Activity) :
    Option (Coroutines Value Failure) :=
  let gate := coroutines.gate frame
  if coroutines.gateOpen thread gate then
    some (if coroutines.status frame = .destroyed then coroutines.fault
      else if coroutines.executions gate ≠ 0 ∧ coroutines.status frame ≠ .done then
        { coroutines with terminated := true }
      else coroutines.destroy thread gate frame rest)
  else none

/-- `FinalAwaiter::await_suspend` -/
def finalSuspend (thread : Thread) (gate : Gate) (frame : FrameId) (rest : List Activity) :
    Coroutines Value Failure :=
  let promise := coroutines.frames frame
  let coroutines := coroutines.setStatus frame .done
  match promise.continuation_ with
  | some parent => (coroutines.emit (.continued parent frame)).enter thread gate parent rest
  | none =>
      if promise.detached_ then coroutines.destroy thread gate frame (.execution gate .over :: rest)
      else coroutines.put thread (.execution gate .over :: rest)

def start (thread : Thread) (frame : FrameId) : Coroutines Value Failure :=
  match coroutines.status frame with
  | .done => coroutines
  | .destroyed => coroutines.fault
  | _ =>
      match (coroutines.frames frame).startState_ with
      | .started => coroutines.emit (.refused thread)
      | .lazy => (coroutines.markStarted frame).execute thread frame

/-- `detach`, when the `Task` has given the frame away. -/
def detach (thread : Thread) (frame : FrameId) : Option (Coroutines Value Failure) :=
  match coroutines.status frame with
  | .done => coroutines.destroyFrame thread frame (coroutines.activities thread)
  | .destroyed => some coroutines.fault
  | _ =>
      let detached := coroutines.change frame fun old => { old with detached_ := true }
      match (coroutines.frames frame).startState_ with
      | .started => some detached
      | .lazy => some ((detached.markStarted frame).execute thread frame)

/-- `result() &`, which leaves the value where it is. -/
def result (thread : Thread) (frame : FrameId) : Coroutines Value Failure :=
  match coroutines.status frame with
  | .done => coroutines.emit (.read thread frame (coroutines.frames frame).result)
  | .destroyed => coroutines.fault
  | _ => coroutines.emit (.refused thread)

/-- What `await_suspend` returns goes on: the child, if it was not started. -/
def transfer (thread : Thread) (gate : Gate) (child : FrameId) (rest : List Activity) :
    Coroutines Value Failure :=
  match (coroutines.frames child).startState_ with
  | .lazy => (coroutines.markStarted child).enter thread gate child rest
  | .started => coroutines.put thread (.execution gate .over :: rest)

/-- `Awaiter::await_suspend`, in the body of the parent. -/
def awaitSuspend (thread : Thread) (gate : Gate) (parent child : FrameId) (rest : List Activity) :
    Coroutines Value Failure :=
  match coroutines.controls.linkChild parent child with
  | none => coroutines.fault
  | some controls =>
      let coroutines :=
        ({ coroutines with controls }.change parent fun old =>
          { old with status := .suspended .task, awaiter := some child }).change child fun old =>
            { old with continuation_ := some parent }
      coroutines.transfer thread gate child rest

/-- `co_await` on a `Task` that has given the frame away, in the body of the parent. -/
def await (thread : Thread) (gate : Gate) (parent child : FrameId) (rest : List Activity) :
    Option (Coroutines Value Failure) :=
  match coroutines.status child with
  | .done =>
      (coroutines.emit (.received parent child (coroutines.frames child).result)).destroyFrame
        thread child (.execution gate (.body parent) :: rest)
  | .destroyed => some coroutines.fault
  | _ => some (coroutines.awaitSuspend thread gate parent child rest)

/-- `await_resume` in the parent and the destructor of the `Awaiter`. -/
def awaitResume (thread : Thread) (gate : Gate) (parent : FrameId) (rest : List Activity) :
    Option (Coroutines Value Failure) :=
  match (coroutines.frames parent).awaiter with
  | none => some coroutines.fault
  | some child =>
      ((coroutines.change parent fun old => { old with awaiter := none }).emit
        (.received parent child (coroutines.frames child).result)).destroyFrame thread child
          (.execution gate (.body parent) :: rest)

/-- The thread goes on in the library. -/
def goOn (thread : Thread) : Option (Coroutines Value Failure) :=
  match coroutines.activities thread with
  | .execution gate (.returning frame) :: rest => coroutines.awaitResume thread gate frame rest
  | .execution gate (.finishing frame) :: rest =>
      if coroutines.hasLocals frame then none
      else some (coroutines.finalSuspend thread gate frame rest)
  | .execution gate (.suspending _) :: rest =>
      some (coroutines.put thread (.execution gate .over :: rest))
  | .execution gate .over :: rest =>
      some ({ coroutines with
        executions :=
          Function.update coroutines.executions gate (coroutines.executions gate - 1) }.put
        thread rest)
  | .destroying gate frame :: rest =>
      match (coroutines.frames frame).awaiter with
      | some child =>
          (coroutines.change frame fun old => { old with awaiter := none }).destroyFrame thread child
            (.destroying gate frame :: rest)
      | none => if coroutines.hasLocals frame then none else some (coroutines.put thread rest)
  | .assigning source target :: rest =>
      match coroutines.held source with
      | some coroutine_ =>
          some (((coroutines.setCoroutine source none).setCoroutine target coroutine_).put thread rest)
      | none => some coroutines.fault
  | _ => none

/-- An object can be constructed there. -/
def hosts (home : Option FrameId) : Bool :=
  home.all fun frame =>
    frame < coroutines.controls.created && coroutines.status frame != .destroyed

/-- What is done under the gate of a frame. -/
def locking (thread : Thread) (frame : FrameId) (done : Option (Coroutines Value Failure)) :
    Option (Coroutines Value Failure) :=
  if coroutines.gateOpen thread (coroutines.gate frame) then done else none

/-- What user code does. -/
def act (thread : Thread) : Action Value Failure → Option (Coroutines Value Failure)
  | .create _ home =>
      if coroutines.hosts home then
        some ({ coroutines with
          controls := coroutines.controls.create
          frames := Function.update coroutines.frames coroutines.controls.created {} }.construct
            { coroutine_ := some coroutines.controls.created, home })
      else none
  | .move _ source home =>
      match coroutines.held source with
      | none => none
      | some coroutine_ =>
          if coroutines.hosts home then
            some ((coroutines.setCoroutine source none).construct { coroutine_, home })
          else none
  | .assign _ source target =>
      match coroutines.held source, coroutines.held target with
      | some _, some old =>
          if source = target then some coroutines
          else
            let assigning := .assigning source target :: coroutines.activities thread
            match old with
            | none => some (coroutines.put thread assigning)
            | some frame => (coroutines.setCoroutine target none).destroyFrame thread frame assigning
      | _, _ => none
  | .drop _ task =>
      match coroutines.held task with
      | none => none
      | some old =>
          match old with
          | none => some (coroutines.discard task)
          | some frame =>
              (coroutines.discard task).destroyFrame thread frame (coroutines.activities thread)
  | .start _ task =>
      match coroutines.held task with
      | none => none
      | some none => some coroutines
      | some (some frame) => coroutines.locking thread frame (some (coroutines.start thread frame))
  | .detach _ task =>
      match coroutines.held task with
      | none => none
      | some none => some coroutines
      | some (some frame) =>
          coroutines.locking thread frame ((coroutines.setCoroutine task none).detach thread frame)
  | .result _ task =>
      match coroutines.held task with
      | none => none
      | some none => some (coroutines.emit (.refused thread))
      | some (some frame) => coroutines.locking thread frame (some (coroutines.result thread frame))
  | .await _ task =>
      match coroutines.activities thread, coroutines.held task with
      | .execution _ (.body _) :: _, some none => some (coroutines.emit (.refused thread))
      | .execution gate (.body parent) :: rest, some (some child) =>
          coroutines.locking thread child
            ((coroutines.setCoroutine task none).await thread gate parent child rest)
      | _, _ => none
  | .suspend _ =>
      match coroutines.activities thread with
      | .execution gate (.body frame) :: rest =>
          some ((coroutines.change frame fun old =>
            { old with
              status := .suspended .awaitable
              suspensions := old.suspensions + 1 }).put thread
                (.execution gate (.suspending frame) :: rest))
      | _ => none
  | .resume _ frame suspension =>
      if suspension < (coroutines.frames frame).suspensions then
        coroutines.locking thread frame
          (let used := coroutines.change frame fun old =>
            { old with resumed := Function.update old.resumed suspension true }
          some (if (coroutines.frames frame).handle && coroutines.status frame != .done then
            used.execute thread frame
          else used))
      else none
  | .finish _ result =>
      match coroutines.activities thread with
      | .execution gate (.body frame) :: rest =>
          some (((coroutines.change frame fun old => { old with result := some result }).emit
            (.finished frame result)).put thread (.execution gate (.finishing frame) :: rest))
      | _ => none
  | _ => none

def step (coroutines : Coroutines Value Failure) (action : Action Value Failure) :
    Option (Coroutines Value Failure) :=
  if coroutines.terminated || coroutines.undefined then none
  else
    match action with
    | .goOn thread => coroutines.goOn thread
    | .expire control =>
        if control < coroutines.controls.created && coroutines.status control == .destroyed then
          some { coroutines with controls := coroutines.controls.release control }
        else none
    | .create thread _ | .move thread .. | .assign thread .. | .drop thread _ | .start thread _
    | .detach thread _ | .result thread _ | .await thread _ | .suspend thread | .resume thread ..
    | .finish thread _ => if coroutines.atUser thread then coroutines.act thread action else none

/-- An object is being assigned, or is assigned from. -/
def Assigning (task : TaskId) : Prop :=
  ∃ thread source target, .assigning source target ∈ coroutines.activities thread ∧
    (task = source ∨ task = target)

/-- An object is left alone as long as it is being assigned, a tree of coroutines is adopted
only when none of them is executing, and a `ResumeHandle` is used once. -/
def Permitted (coroutines : Coroutines Value Failure) : Action Value Failure → Prop
  | .move _ task _ | .drop _ task | .start _ task | .detach _ task | .result _ task =>
      ¬coroutines.Assigning task
  | .assign _ source target => ¬coroutines.Assigning source ∧ ¬coroutines.Assigning target
  | .await _ task =>
      ¬coroutines.Assigning task ∧
        ∀ frame, coroutines.held task = some (some frame) →
          coroutines.status frame = .done ∨ coroutines.executions (coroutines.gate frame) = 0
  | .resume _ frame suspension => (coroutines.frames frame).resumed suspension = false
  | _ => True

end Coroutines

end MiniTrantor.Coroutine.Tasks
