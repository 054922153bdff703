import MiniTrantor.Reachability

/-!
# Loop threads

`EventLoopThread` with the threads that call it and the threads that it has started. A step
is one section under a mutex, a join, or what a worker does between two of them. Of an
`EventLoop` there is the flag `quit_` and whether it is alive; a worker has one.

User code runs in the initializer, in functors, and where captures are destroyed with the
loop. It calls `startLoop` and `stop`, like the threads outside, and `quit()` of the loop.
-/

set_option autoImplicit false

namespace MiniTrantor.Net.Worker

/-- A worker has the number of its start, and so has its `EventLoop`. -/
inductive Thread where
  | outside (id : Nat)
  | worker (id : Nat)
  deriving DecidableEq, Repr

inductive State where
  | idle
  | starting
  | running
  | exited
  | stopping
  | stopped
  | failed
  deriving DecidableEq, Repr

inductive Failure where
  | spawning
  | construction
  | initializer
  /-- `EventLoopThread initializer requested quit` -/
  | requestedQuit
  deriving DecidableEq, Repr

/-- How `startLoop` throws. -/
inductive Refusal where
  /-- `startLoop cannot re-enter during startup or stop` -/
  | reentered
  | failed (failure : Failure)
  /-- `EventLoopThread stopped before startup completed` -/
  | stopped
  deriving DecidableEq, Repr

/-- What a call is about to do. -/
inductive Call where
  /-- `startLoop` asks whether it is on the managed thread. -/
  | startLoop
  | reenter
  | lockStart
  /-- With `controlMutex_` held. -/
  | reuse
  | release
  | join
  | reset
  | spawn
  | spawnFailed
  | await
  | joinFailed (failure : Option Failure)
  /-- The result is there and `controlMutex_` is still held. -/
  | leave (loop : Option Nat)
  /-- `stop`, by the destructor or not. -/
  | stop (destroys : Bool)
  | requestStop
  | lockStop (destroys : Bool)
  | requestJoin (destroys : Bool)
  | joinStopped (destroys : Bool)
  deriving DecidableEq, Repr

/-- Where a worker is in `threadFunc`. -/
inductive Phase where
  | constructing
  | publishing
  | initializing
  | checking
  | announcing
  | looping
  | exiting
  | retained
  | unpublishing (failure : Option Failure)
  | destroying (failure : Option Failure)
  | destructing (failure : Option Failure)
  | finishing (failure : Option Failure)
  deriving DecidableEq, Repr

/-- User code runs. -/
def Phase.user : Phase → Bool
  | .initializing | .looping | .destructing _ => true
  | _ => false

inductive Event where
  | started (worker : Nat)
  | joined (worker : Nat)
  | returned (thread : Thread) (loop : Option Nat)
  | threw (thread : Thread) (refusal : Refusal)
  /-- `stop` on the managed thread -/
  | selfStopped (worker : Thread)
  | destroyed (loop : Nat)
  deriving DecidableEq, Repr

structure EventLoopThread where
  loop_ : Option Nat := none
  thread_ : Option Nat := none
  controlMutex_ : Option Thread := none
  state_ : State := .idle
  workerId_ : Option Thread := none
  failure_ : Option Failure := none
  spawned : Nat := 0
  workers : Nat → Option Phase := fun _ => none
  calls : Thread → Option Call := fun _ => none
  alive : Nat → Bool := fun _ => false
  quit_ : Nat → Bool := fun _ => false
  destroyed : Bool := false
  trace : List Event := []

inductive Action where
  | startLoop (thread : Thread)
  | stop (thread : Thread)
  | destroy (id : Nat)
  /-- `requestStop` by the pool. -/
  | requestStop
  | quit (loop : Nat)
  | goOn (thread : Thread)
  | spawnFails (thread : Thread)
  | work (worker : Nat)
  | throws (worker : Nat)
  deriving DecidableEq, Repr

namespace EventLoopThread

variable (owner : EventLoopThread)

def emit (event : Event) : EventLoopThread :=
  { owner with trace := owner.trace ++ [event] }

/-- A call goes on, or is over. -/
def put (thread : Thread) (call : Option Call) : EventLoopThread :=
  { owner with calls := Function.update owner.calls thread call }

/-- A worker goes on in `threadFunc`, or its thread ends. -/
def enter (worker : Nat) (phase : Option Phase) : EventLoopThread :=
  { owner with workers := Function.update owner.workers worker phase }

def isManagedThread (thread : Thread) : Bool :=
  owner.workerId_ == some thread

def requestStopLocked : EventLoopThread :=
  { owner with
    state_ :=
      if owner.state_ = .starting ∨ owner.state_ = .running ∨ owner.state_ = .exited then .stopping
      else owner.state_
    quit_ :=
      match owner.loop_ with
      | some loop => Function.update owner.quit_ loop true
      | none => owner.quit_ }

/-- `thread_.join()` if it is joinable, once the thread has ended. -/
def joinThread : Option EventLoopThread :=
  match owner.thread_ with
  | none => some owner
  | some worker =>
      if (owner.workers worker).isNone then
        some ({ owner with thread_ := none }.emit (.joined worker))
      else none

/-- `controlMutex_` is released and the call is over. -/
def unlock (thread : Thread) : EventLoopThread :=
  { owner with controlMutex_ := none }.put thread none

/-- User code of the thread may make a call. -/
def free : Thread → Bool
  | .outside id => (owner.calls (.outside id)).isNone && !owner.destroyed
  | .worker id => (owner.calls (.worker id)).isNone && (owner.workers id).any Phase.user

def lockControl (thread : Thread) (call : Call) : Option EventLoopThread :=
  if owner.controlMutex_.isNone then
    some ({ owner with controlMutex_ := some thread }.put thread (some call))
  else none

def startThread (thread : Thread) : EventLoopThread :=
  (({ owner with thread_ := some owner.spawned, spawned := owner.spawned + 1 }.enter owner.spawned
    (some .constructing)).emit (.started owner.spawned)).put thread (some .await)

/-- A call goes on to its next step. -/
def goOn (thread : Thread) : Option EventLoopThread :=
  match owner.calls thread with
  | none => none
  | some .startLoop =>
      some (owner.put thread (some (if owner.isManagedThread thread then .reenter else .lockStart)))
  | some .reenter =>
      some (if owner.state_ = .running then
          (owner.emit (.returned thread owner.loop_)).put thread none
        else (owner.emit (.threw thread .reentered)).put thread none)
  | some .lockStart => owner.lockControl thread .reuse
  | some .reuse =>
      some (if owner.state_ = .running then
          (owner.emit (.returned thread owner.loop_)).put thread (some (.leave owner.loop_))
        else owner.put thread (some .release))
  | some .release => some (owner.requestStopLocked.put thread (some .join))
  | some .join => owner.joinThread.map fun owner => owner.put thread (some .reset)
  | some .reset =>
      some ({ owner with state_ := .starting, failure_ := none }.put thread (some .spawn))
  | some .spawn => some (owner.startThread thread)
  | some .spawnFailed =>
      some (({ owner with state_ := .failed, failure_ := some .spawning }.emit
        (.threw thread (.failed .spawning))).unlock thread)
  | some .await =>
      match owner.state_ with
      | .running | .exited =>
          some ((owner.emit (.returned thread owner.loop_)).put thread (some (.leave owner.loop_)))
      | .stopped | .failed => some (owner.put thread (some (.joinFailed owner.failure_)))
      | _ => none
  | some (.joinFailed failure) =>
      owner.joinThread.map fun owner =>
        (owner.emit (.threw thread (failure.elim .stopped .failed))).unlock thread
  | some (.leave _) => some (owner.unlock thread)
  | some (.stop destroys) =>
      if owner.isManagedThread thread then
        -- the destructor is fatal here
        if destroys then none else some (owner.put thread (some .requestStop))
      else some (owner.put thread (some (.lockStop destroys)))
  | some .requestStop =>
      some ((owner.requestStopLocked.emit (.selfStopped thread)).put thread none)
  | some (.lockStop destroys) => owner.lockControl thread (.requestJoin destroys)
  | some (.requestJoin destroys) =>
      some (owner.requestStopLocked.put thread (some (.joinStopped destroys)))
  | some (.joinStopped destroys) =>
      owner.joinThread.map fun owner =>
        { owner with destroyed := owner.destroyed || destroys }.unlock thread

/-- `threadFunc` goes on, after a call of user code if there is one. -/
def work (worker : Nat) : Option EventLoopThread :=
  match owner.workers worker with
  | none => none
  | some .constructing =>
      some ({ owner with alive := Function.update owner.alive worker true }.enter worker
        (some .publishing))
  | some .publishing =>
      some ({ owner with workerId_ := some (.worker worker), loop_ := some worker }.enter worker
        (some .initializing))
  | some .initializing =>
      if (owner.calls (.worker worker)).isNone then some (owner.enter worker (some .checking))
      else none
  | some .checking =>
      some (owner.enter worker (some (if owner.quit_ worker then .unpublishing (some .requestedQuit)
        else .announcing)))
  | some .announcing => some ({ owner with state_ := .running }.enter worker (some .looping))
  | some .looping =>
      if (owner.calls (.worker worker)).isNone && owner.quit_ worker then
        some (owner.enter worker (some .exiting))
      else none
  | some .exiting =>
      some (if owner.state_ = .stopping then owner.enter worker (some (.unpublishing none))
        else { owner with state_ := .exited }.enter worker (some .retained))
  | some .retained =>
      if owner.state_ = .stopping then some (owner.enter worker (some (.unpublishing none)))
      else none
  | some (.unpublishing failure) =>
      some ({ owner with loop_ := none }.enter worker (some (.destroying failure)))
  | some (.destroying failure) =>
      some (({ owner with alive := Function.update owner.alive worker false }.emit
        (.destroyed worker)).enter worker (some (.destructing failure)))
  | some (.destructing failure) =>
      if (owner.calls (.worker worker)).isNone then
        some (owner.enter worker (some (.finishing failure)))
      else none
  | some (.finishing failure) =>
      some ({ owner with
        loop_ := none
        workerId_ := none
        failure_ := failure
        state_ := if failure.isSome then .failed else .stopped }.enter worker none)

def step : Action → Option EventLoopThread
  | .startLoop thread =>
      if owner.free thread then some (owner.put thread (some .startLoop)) else none
  | .stop thread =>
      if owner.free thread then some (owner.put thread (some (.stop false))) else none
  | .destroy id =>
      if owner.free (.outside id) then some (owner.put (.outside id) (some (.stop true))) else none
  | .requestStop => if owner.destroyed then none else some owner.requestStopLocked
  | .quit loop =>
      if owner.alive loop then some { owner with quit_ := Function.update owner.quit_ loop true }
      else none
  | .goOn thread => owner.goOn thread
  | .spawnFails thread =>
      match owner.calls thread with
      | some .spawn => some (owner.put thread (some .spawnFailed))
      | _ => none
  | .work worker => owner.work worker
  | .throws worker =>
      match owner.workers worker with
      | some .constructing => some (owner.enter worker (some (.finishing (some .construction))))
      | some .initializing =>
          if (owner.calls (.worker worker)).isNone then
            some (owner.enter worker (some (.unpublishing (some .initializer))))
          else none
      | _ => none

end EventLoopThread

/-- The call is one of `startLoop` that holds `controlMutex_`. -/
def Call.launches : Call → Bool
  | .reuse | .release | .join | .reset | .spawn | .spawnFailed | .await | .joinFailed _
  | .leave _ => true
  | _ => false

/-- The pool requests the stop of threads whose `startLoop` has returned, and calls none of
them meanwhile. -/
def Permitted (owner : EventLoopThread) : Action → Prop
  | .requestStop => ∀ thread ∈ owner.controlMutex_, (owner.calls thread).any Call.launches = false
  | _ => True

end MiniTrantor.Net.Worker
