import MiniTrantor.OrderedMap

/-!
# Timer queue

The two indexes of a `TimerQueue` over shared `Timer` objects, and the
functions that the owner loop runs on them. Objects are named by addresses, and
a sequence number is never given out twice.
-/

set_option autoImplicit false

namespace MiniTrantor.Net

/-- Sum of a time point and a duration, as 64-bit counts. -/
def addTicks (time duration : Int) : Int := Int.bmod (time + duration) (2 ^ 64)

abbrev TimerPtr := Nat

/-- Expiration first, sequence number second. -/
abbrev TimerKey := Int ×ₗ Nat

structure Timer where
  expiration : Int := 0
  interval : Int := 0
  sequence : Nat := 0
  canceled : Bool := false
  inQueue : Bool := true
  deriving DecidableEq, Repr

namespace Timer

/-- `Timer::repeat`. -/
def repeats (timer : Timer) : Bool := 0 < timer.interval

def key (timer : Timer) : TimerKey := toLex (timer.expiration, timer.sequence)

/-- The flags that `insert` sets. -/
def enqueue (timer : Timer) : Timer := { timer with inQueue := true, canceled := false }

end Timer

structure TimerQueue where
  nextSequence : Nat := 1
  objects : TimerPtr → Timer := fun _ => {}
  timers : OrderedMap TimerKey TimerPtr := {}
  timersById : Nat → Option TimerPtr := fun _ => none

namespace TimerQueue

def modify (ptr : TimerPtr) (change : Timer → Timer) (queue : TimerQueue) : TimerQueue :=
  { queue with objects := Function.update queue.objects ptr (change (queue.objects ptr)) }

/-- The object that `addTimer` creates, at the address of its sequence number. -/
def allocate (expiration interval : Int) (queue : TimerQueue) : TimerQueue :=
  { queue with
    nextSequence := queue.nextSequence + 1
    objects := Function.update queue.objects queue.nextSequence
      { expiration, interval, sequence := queue.nextSequence } }

/-- No caller reads whether the earliest expiration changed. -/
def insert (ptr : TimerPtr) (queue : TimerQueue) : TimerQueue :=
  let queue := queue.modify ptr Timer.enqueue
  let timer := queue.objects ptr
  { queue with
    timersById := Function.update queue.timersById timer.sequence (some ptr)
    timers := queue.timers.emplace timer.key ptr }

/-- `addTimer` on the owner thread; it returns the sequence number as the id. -/
def addTimer (expiration interval : Int) (queue : TimerQueue) : TimerQueue :=
  (queue.allocate expiration interval).insert queue.nextSequence

def cancelInLoop (id : Nat) (queue : TimerQueue) : TimerQueue :=
  match queue.timersById id with
  | none => queue
  | some ptr =>
      let timer := queue.objects ptr
      let queue := queue.modify ptr fun timer => { timer with canceled := true }
      if timer.inQueue then
        let queue := { queue with timers := queue.timers.erase timer.key }
        let queue := queue.modify ptr fun timer => { timer with inQueue := false }
        { queue with timersById := Function.update queue.timersById id none }
      else { queue with timersById := Function.update queue.timersById id none }

/-- The sentry carries the largest sequence number, so only expirations count. -/
def getExpired (now : Int) (queue : TimerQueue) : List TimerPtr × TimerQueue :=
  let split := queue.timers.splitUpTo fun key => (ofLex key).1 ≤ now
  let expired := split.1.map Prod.snd
  (expired,
    { queue with
      timers := split.2
      objects := fun ptr =>
        if ptr ∈ expired then { queue.objects ptr with inQueue := false } else queue.objects ptr })

/-- One timer of `reset`. -/
def resetTimer (now : Int) (ptr : TimerPtr) (queue : TimerQueue) : TimerQueue :=
  let timer := queue.objects ptr
  if timer.repeats && !timer.canceled && (queue.timersById timer.sequence).isSome then
    (queue.modify ptr fun timer =>
      { timer with expiration := addTicks now timer.interval }).insert ptr
  else { queue with timersById := Function.update queue.timersById timer.sequence none }

def reset (expired : List TimerPtr) (now : Int) (queue : TimerQueue) : TimerQueue :=
  expired.foldl (fun queue ptr => queue.resetTimer now ptr) queue

/-- The test at the start of `handleExpired`. -/
def nothingDue (now : Int) (queue : TimerQueue) : Bool :=
  match queue.timers.entries with
  | [] => true
  | entry :: _ => (queue.objects entry.2).expiration > now

end TimerQueue

end MiniTrantor.Net
