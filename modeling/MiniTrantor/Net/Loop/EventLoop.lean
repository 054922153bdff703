import MiniTrantor.Reachability
import MiniTrantor.Net.Timer.TimerQueue

/-!
# Event loop

One `EventLoop` with its posting handle and its timer queue, and any number of
threads that call into it. A step is one atomic access to shared data of one
thread, or one stretch of the owner's `loop()` in which no user code runs. User
code on the owner is a sequence of calls at the places where the loop runs it.
-/

set_option autoImplicit false

namespace MiniTrantor.Net.Reactor

abbrev Thread := Nat

/-- `threadId_`. -/
def owner : Thread := 0

/-- The body of a functor: user code, or what a call of the timer queue from
another thread leaves to the owner. -/
inductive Task where
  | user
  | addTimerInLoop (timer : TimerPtr)
  | cancelInLoop (id : Nat)
  deriving DecidableEq, Repr

structure Functor where
  id : Nat
  task : Task
  deriving DecidableEq, Repr

/-- A functor on its way through `queuePrepared`, under the posting lock if it
comes from `LoopHandle::queue`. -/
structure Post where
  functor : Functor
  handle : Bool
  deriving DecidableEq, Repr

/-- How far a thread is in a call. -/
inductive Call where
  | idle
  | acquiring (functor : Functor)
  | pushing (post : Post)
  | testing (post : Post)
  | waking (post : Post)
  | finishing (post : Post)
  | returning (functor : Functor)
  | quitting
  deriving DecidableEq, Repr

/-- Where the owner is in `loop()`. -/
inductive Pc where
  | outside
  | testQuit
  | polling
  | dispatching (wakeupActive : Bool)
  | callbacks (inside : Bool) (rest expired : List TimerPtr)
  | expired
  | draining (final : Bool)
  | running (final : Bool) (rest : List Functor)
  | destroying (final : Bool)
  | finalCheck
  | leaving
  deriving DecidableEq, Repr

/-- The places where the owner runs user code. After `running` the functors are
destroyed with what they captured, after `callbacks` the timers that are gone. -/
def Pc.userCode : Pc → Bool
  | .outside | .dispatching _ | .expired | .running .. | .destroying _ => true
  | .callbacks inside _ _ => inside
  | .testQuit | .polling | .draining _ | .finalCheck | .leaving => false

/-- After `doPendingFunctors`, in the main loop or in the final drain. -/
def Pc.drained (final : Bool) : Pc := if final then .finalCheck else .testQuit

inductive Event where
  | called (id : Nat) (handle : Bool)
  | pushed (id : Nat) (handle : Bool)
  | executed (id : Nat)
  | returned (id : Nat) (accepted : Bool)
  | closed
  | loopReturned
  | timerReturned (id : Nat)
  | cancelled (id : Nat)
  | started (id : Nat)
  deriving DecidableEq, Repr

structure Loop where
  looping : Bool := false
  quit : Bool := false
  callingPendingFunctors : Bool := false
  posting : Bool := true
  postingLock : Option Thread := none
  pendingFunctors : List Functor := []
  wakeupReadable : Bool := false
  timerQueue : TimerQueue := {}
  calls : Thread → Call := fun _ => .idle
  pc : Pc := .outside
  nextFunctor : Nat := 0
  trace : List Event := []

inductive Request where
  | queue
  | queueInLoop
  | quit
  | addTimer (expiration interval : Int)
  | cancel (id : Nat)
  deriving DecidableEq, Repr

inductive Action where
  | call (thread : Thread) (request : Request)
  | proceed (thread : Thread)
  | loop
  | poll (wakeupActive : Bool)
  | handleRead
  | handleExpired (now : Int)
  | expire
  | reset (now : Int)
  | next
  deriving DecidableEq, Repr

namespace Loop

def emit (event : Event) (loop : Loop) : Loop := { loop with trace := loop.trace ++ [event] }

def setCall (thread : Thread) (call : Call) (loop : Loop) : Loop :=
  { loop with calls := Function.update loop.calls thread call }

theorem setCall_self (loop : Loop) (thread : Thread) (call : Call) :
    (loop.setCall thread call).calls thread = call := Function.update_self ..

theorem setCall_other (loop : Loop) {thread other : Thread} (different : other ≠ thread)
    (call : Call) : (loop.setCall thread call).calls other = loop.calls other :=
  Function.update_of_ne different ..

/-- A thread makes one call at a time, and the owner only where user code runs.
Ids of timers have no other source than `addTimer`. -/
def mayCall (loop : Loop) (thread : Thread) (request : Request) : Bool :=
  loop.calls thread = .idle && (thread ≠ owner || loop.pc.userCode) &&
    match request with
    | .cancel id => id = 0 || .timerReturned id ∈ loop.trace
    | _ => true

/-- The start of `LoopHandle::queue`. -/
def queue (thread : Thread) (loop : Loop) : Loop :=
  ({ loop with nextFunctor := loop.nextFunctor + 1 }.setCall thread
    (.acquiring { id := loop.nextFunctor, task := .user })).emit (.called loop.nextFunctor true)

/-- The start of `queueInLoop`. -/
def queueInLoop (thread : Thread) (task : Task) (loop : Loop) : Loop :=
  ({ loop with nextFunctor := loop.nextFunctor + 1 }.setCall thread
    (.pushing { functor := { id := loop.nextFunctor, task }, handle := false })).emit
      (.called loop.nextFunctor false)

def requestQuit (thread : Thread) (loop : Loop) : Loop :=
  let loop := { loop with quit := true }
  if thread = owner then loop else loop.setCall thread .quitting

def addTimer (thread : Thread) (expiration interval : Int) (loop : Loop) : Loop :=
  let id := loop.timerQueue.nextSequence
  let loop := { loop with timerQueue := loop.timerQueue.allocate expiration interval }
  if thread = owner then
    { loop with timerQueue := loop.timerQueue.insert id }.emit (.timerReturned id)
  else loop.queueInLoop thread (.addTimerInLoop id)

def cancelInLoop (id : Nat) (loop : Loop) : Loop :=
  { loop with timerQueue := loop.timerQueue.cancelInLoop id }.emit (.cancelled id)

def cancel (thread : Thread) (id : Nat) (loop : Loop) : Loop :=
  if id = 0 then loop
  else if thread = owner then loop.cancelInLoop id
  else loop.queueInLoop thread (.cancelInLoop id)

def call (thread : Thread) (loop : Loop) : Request → Loop
  | .queue => loop.queue thread
  | .queueInLoop => loop.queueInLoop thread .user
  | .quit => loop.requestQuit thread
  | .addTimer expiration interval => loop.addTimer thread expiration interval
  | .cancel id => loop.cancel thread id

/-- What a thread sees when its functor has been queued. -/
def finish (thread : Thread) (post : Post) (loop : Loop) : Loop :=
  if post.handle then
    { loop with postingLock := none }.setCall thread (.returning post.functor)
  else
    match post.functor.task with
    | .addTimerInLoop timer =>
        (loop.setCall thread .idle).emit (.timerReturned (loop.timerQueue.objects timer).sequence)
    | .user | .cancelInLoop _ => loop.setCall thread .idle

/-- The next step of a call in progress. The queue's own lock is held for the
push alone, the posting lock until the functor has been queued and announced. -/
def proceed (thread : Thread) (loop : Loop) : Option Loop :=
  match loop.calls thread with
  | .idle => none
  | .acquiring functor =>
      if loop.postingLock ≠ none then none
      else if loop.posting then
        some ({ loop with postingLock := some thread }.setCall thread
          (.pushing { functor, handle := true }))
      else some ((loop.setCall thread .idle).emit (.returned functor.id false))
  | .pushing post =>
      some (({ loop with pendingFunctors := loop.pendingFunctors ++ [post.functor] }.setCall thread
        (.testing post)).emit (.pushed post.functor.id post.handle))
  | .testing post =>
      if thread ≠ owner || loop.callingPendingFunctors || !loop.looping then
        some (loop.setCall thread (.waking post))
      else some (loop.setCall thread (.finishing post))
  | .waking post => some ({ loop with wakeupReadable := true }.setCall thread (.finishing post))
  | .finishing post => some (loop.finish thread post)
  | .returning functor => some ((loop.setCall thread .idle).emit (.returned functor.id true))
  | .quitting => some ({ loop with wakeupReadable := true }.setCall thread .idle)

def execute (functor : Functor) (loop : Loop) : Loop :=
  let loop := loop.emit (.executed functor.id)
  match functor.task with
  | .user => loop
  | .addTimerInLoop timer => { loop with timerQueue := loop.timerQueue.insert timer }
  | .cancelInLoop id => loop.cancelInLoop id

/-- A stretch of `loop()` that depends on nothing outside. Only the owner reads
`callingPendingFunctors_`, so it is left alone when there is nothing to call. -/
def next (loop : Loop) : Option Loop :=
  match loop.pc with
  | .testQuit => some { loop with pc := if loop.quit then .finalCheck else .polling }
  | .expired => some { loop with pc := .draining false }
  | .draining final =>
      if loop.pendingFunctors = [] then some { loop with pc := Pc.drained final }
      else
        some { loop with
          callingPendingFunctors := true
          pendingFunctors := []
          pc := .running final loop.pendingFunctors }
  | .running final (functor :: rest) => some ({ loop with pc := .running final rest }.execute functor)
  | .running final [] =>
      some { loop with callingPendingFunctors := false, pc := .destroying final }
  | .destroying final => some { loop with pc := Pc.drained final }
  | .finalCheck =>
      if loop.postingLock ≠ none then none
      else if loop.pendingFunctors = [] then
        some ({ loop with posting := false, pc := .leaving }.emit .closed)
      else some { loop with pc := .draining true }
  | .leaving => some ({ loop with looping := false, pc := .outside }.emit .loopReturned)
  | .outside | .polling | .dispatching _ | .callbacks .. => none

/-- One timer of the batch that `handleExpired` goes through. -/
def expire (timer : TimerPtr) (rest expired : List TimerPtr) (loop : Loop) : Loop :=
  if (loop.timerQueue.objects timer).canceled then
    { loop with pc := .callbacks false rest expired }
  else
    { loop with pc := .callbacks true rest expired }.emit
      (.started (loop.timerQueue.objects timer).sequence)

def handleExpired (now : Int) (loop : Loop) : Loop :=
  if loop.timerQueue.nothingDue now then { loop with pc := .draining false }
  else
    let split := loop.timerQueue.getExpired now
    { loop with timerQueue := split.2, pc := .callbacks false split.1 split.1 }

/-- A step of the owner, who is in no call. -/
def advance (loop : Loop) : Action → Option Loop
  | .loop =>
      if loop.pc = .outside then some { loop with looping := true, pc := .testQuit } else none
  | .poll active =>
      if loop.pc = .polling ∧ (active = true → loop.wakeupReadable = true) then
        some { loop with pc := .dispatching active }
      else none
  | .handleRead =>
      if loop.pc = .dispatching true then
        some { loop with wakeupReadable := false, pc := .dispatching false }
      else none
  | .handleExpired now =>
      if loop.pc = .dispatching false then some (loop.handleExpired now) else none
  | .expire =>
      match loop.pc with
      | .callbacks _ (timer :: rest) expired => some (loop.expire timer rest expired)
      | _ => none
  | .reset now =>
      match loop.pc with
      | .callbacks _ [] expired =>
          some { loop with timerQueue := loop.timerQueue.reset expired now, pc := .expired }
      | _ => none
  | .next => loop.next
  | .call .. | .proceed _ => none

def step (loop : Loop) : Action → Option Loop
  | .call thread request =>
      if loop.mayCall thread request then some (loop.call thread request) else none
  | .proceed thread => loop.proceed thread
  | action => if loop.calls owner = .idle then loop.advance action else none

end Loop

end MiniTrantor.Net.Reactor
