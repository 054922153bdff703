import MiniTrantor.Reachability
import MiniTrantor.Trace

/-!
# Cancellation

One `CancellationState` with the threads that register, reset and cancel. The exchange of
`cancelled` and each block under the mutex is a step. A thread has a stack of the calls that
it is in the middle of; callbacks, and the destructors of what they captured, may call
again. Every call of `registerCallback` has a number, which also names its callback.
-/

set_option autoImplicit false

namespace MiniTrantor.Coroutine.Cancellation

abbrev Thread := Nat

/-- What is left of a call after the `reset()` in it. -/
inductive After (Address : Type) where
  | nothing
  | destroy (address : Address)
  | assign (target source : Address)
  deriving DecidableEq, Repr

/-- How far a call is: of `registerCallback` before its lock, after it, and in the callback; of
`reset` before its lock, and while the node is destroyed; of `cancel` before the exchange,
before its lock, between two callbacks, in one, and while they are destroyed. -/
inductive Frame (Address Failure : Type) where
  | registering (call : Nat)
  | invoking (call : Nat)
  | calling (call : Nat)
  | resetting (id : Nat) (after : After Address)
  | releasing (after : After Address)
  | exchanging
  | swapping
  | notifying (rest : List Nat) (failure : Option Failure)
  | notified (call : Nat) (rest : List Nat) (failure : Option Failure)
  | discarding (failure : Option Failure)
  deriving DecidableEq, Repr

inductive Event (Failure : Type) where
  | called (thread : Thread) (call : Nat)
  | registered (thread : Thread) (call id : Nat)
  | refused (thread : Thread) (call : Nat)
  | extracted (thread : Thread) (id : Nat)
  | cancelled (thread : Thread)
  | swapped (thread : Thread)
  | invoked (thread : Thread) (call : Nat)
  | returned (thread : Thread) (call : Nat)
  | threw (thread : Thread) (call : Nat) (failure : Failure)
  | completed (thread : Thread) (failure : Option Failure)
  deriving DecidableEq, Repr

inductive Command (Address : Type) where
  | create (address : Address)
  | move (source target : Address)
  | assign (target source : Address)
  | reset (address : Address)
  | destroy (address : Address)
  | register
  | cancel
  deriving DecidableEq, Repr

/-- What a thread does next. The result of `registerCallback` is constructed at `address`. -/
inductive Action (Address Failure : Type) where
  | user (command : Command Address)
  | lock (address : Address)
  | invoke
  | extract
  | exchange
  | swap
  -- the order in which the loop goes through the callbacks is that of a hash table
  | notify (call : Nat)
  | endLoop
  | returned (address : Address)
  | threw (failure : Failure)
  deriving DecidableEq, Repr

structure State (Address Failure : Type) where
  cancelled : Bool := false
  nextCallbackId : Nat := 1
  -- the identifiers, with the calls that registered the callbacks
  callbacks : List (Nat × Nat) := []
  -- the objects, and the `callbackId_` of those that have a state
  registrations : Address → Option (Option Nat) := fun _ => none
  frames : Thread → List (Frame Address Failure) := fun _ => []
  calls : Nat := 0
  trace : List (Event Failure) := []

def Frame.user {Address Failure : Type} : Frame Address Failure → Bool
  | .calling _ | .releasing _ | .notified .. | .discarding _ => true
  | _ => false

namespace State

variable {Address Failure : Type} [DecidableEq Address]

def put (thread : Thread) (stack : List (Frame Address Failure))
    (state : State Address Failure) : State Address Failure :=
  { state with frames := Function.update state.frames thread stack }

def emit (event : Event Failure) (state : State Address Failure) : State Address Failure :=
  { state with trace := state.trace ++ [event] }

def set (address : Address) (registration : Option (Option Nat)) (state : State Address Failure) :
    State Address Failure :=
  { state with registrations := Function.update state.registrations address registration }

/-- The rest of a call once the registration is reset. -/
def after (state : State Address Failure) : After Address → Option (State Address Failure)
  | .nothing => some state
  | .destroy address => some (state.set address none)
  | .assign target source =>
      (state.registrations source).map fun id => (state.set target (some id)).set source (some none)

/-- `CancellationRegistration::reset`, up to its lock, and what is to be done after it. -/
def reset (thread : Thread) (address : Address) (rest : After Address)
    (state : State Address Failure) : Option (State Address Failure) :=
  match state.registrations address with
  | some (some id) =>
      some ((state.set address (some none)).put thread
        (.resetting id rest :: state.frames thread))
  | some none => state.after rest
  | none => none

def user (thread : Thread) (state : State Address Failure) :
    Command Address → Option (State Address Failure)
  | .create address =>
      if state.registrations address = none then some (state.set address (some none)) else none
  | .move source target =>
      if state.registrations target = none then state.after (.assign target source) else none
  | .assign target source => if target = source then some state else
      state.reset thread target (.assign target source)
  | .reset address => state.reset thread address .nothing
  | .destroy address => state.reset thread address (.destroy address)
  | .register =>
      some (({ state with calls := state.calls + 1 }.put thread
        (.registering state.calls :: state.frames thread)).emit (.called thread state.calls))
  | .cancel => some (state.put thread (.exchanging :: state.frames thread))

/-- A step of a thread. No call is in progress where user code cannot run. -/
def step (state : State Address Failure) (move : Thread × Action Address Failure) :
    Option (State Address Failure) :=
  let thread := move.1
  match move.2, state.frames thread with
  | .user command, [] => state.user thread command
  | .user command, frame :: _ => if frame.user then state.user thread command else none
  | .lock address, .registering call :: stack =>
      if state.cancelled then
        some ((state.put thread (.invoking call :: stack)).emit (.refused thread call))
      else if state.registrations address = none then
        let id := state.nextCallbackId
        let state := { state with nextCallbackId := id + 1, callbacks := state.callbacks ++ [(id, call)] }
        some (((state.set address (some (some id))).put thread stack).emit
          (.registered thread call id))
      else none
  | .invoke, .invoking call :: stack =>
      some ((state.put thread (.calling call :: stack)).emit (.invoked thread call))
  | .extract, .resetting id rest :: stack =>
      let callbacks := state.callbacks.filter fun entry => entry.1 ≠ id
      some (({ state with callbacks }.put thread (.releasing rest :: stack)).emit
        (.extracted thread id))
  | .exchange, .exchanging :: stack =>
      if state.cancelled then some (state.put thread stack)
      else some (({ state with cancelled := true }.put thread (.swapping :: stack)).emit
        (.cancelled thread))
  | .swap, .swapping :: stack =>
      some (({ state with callbacks := [] }.put thread
        (.notifying (state.callbacks.map Prod.snd) none :: stack)).emit (.swapped thread))
  | .notify call, .notifying rest failure :: stack =>
      if call ∈ rest then
        some ((state.put thread (.notified call (rest.erase call) failure :: stack)).emit
          (.invoked thread call))
      else none
  | .endLoop, .notifying [] failure :: stack => some (state.put thread (.discarding failure :: stack))
  | .returned address, .calling call :: stack =>
      if state.registrations address = none then
        some (((state.set address (some none)).put thread stack).emit (.returned thread call))
      else none
  | .returned _, .notified call rest failure :: stack =>
      some ((state.put thread (.notifying rest failure :: stack)).emit (.returned thread call))
  | .returned _, .releasing rest :: stack => (state.put thread stack).after rest
  | .returned _, .discarding failure :: stack =>
      some ((state.put thread stack).emit (.completed thread failure))
  | .threw failure, .calling call :: stack =>
      some ((state.put thread stack).emit (.threw thread call failure))
  | .threw failure, .notified call rest first :: stack =>
      some ((state.put thread (.notifying rest (first.or (some failure)) :: stack)).emit
        (.threw thread call failure))
  | _, _ => none

end State

end MiniTrantor.Coroutine.Cancellation
