import MiniTrantor.Reachability
import MiniTrantor.Trace

/-!
# DnsResolver

A resolver with its workers, the loops that requests are delivered to and the tokens that
they may be cancelled with. A step is one atomic access to shared data of one thread, or one
block under a mutex. A thread has a stack of the calls that it is in the middle of, since
what it calls, and what is destroyed, may be user code that calls again. Requests are
numbered; the callback of a request is its own. A request that is not completed is held by
its caller, the queue of the workers or a delivery, so the weak pointer in the callback of a
cancellation is good as long as it matters.
-/

set_option autoImplicit false

namespace MiniTrantor.Net.Dns

abbrev LoopId := Nat

abbrev Token := Nat

/-- `owner` is the thread of a loop. -/
inductive Thread where
  | owner (loop : LoopId)
  | worker (index : Nat)
  | external (index : Nat)
  deriving DecidableEq, Repr

inductive NetError where
  | resolveFailed
  | cancelled
  deriving DecidableEq, Repr

/-- The addresses have the port of the request. -/
abbrev ResolveResult (Ip : Type) := Except NetError (List (Ip × Nat))

/-- `ResolveOperationState` with what else the request holds. The callback is there until the
operation is completed. -/
structure Operation where
  hostname : String
  port : Nat
  callbackHandle : LoopId
  token : Option Token
  completed : Bool := false
  /-- `registration` is there and registered. -/
  registration : Bool := false
  deriving DecidableEq, Repr

/-- The state of a `CancellationSource`, with the requests whose callbacks are in its map. -/
structure Source where
  cancelled : Bool := false
  callbacks : List Nat := []
  deriving DecidableEq, Repr

/-- A loop with the deliveries that it was handed and did not run yet. -/
structure Loop (Ip : Type) where
  isOpen : Bool := true
  pending : List (Nat × ResolveResult Ip) := []

structure CacheEntry (Ip : Type) where
  addresses : List Ip
  expiry : Nat

/-- What threads share. -/
structure Shared (Ip : Type) where
  operations : Nat → Option Operation := fun _ => none
  requests : Nat := 0
  sources : Token → Source := fun _ => {}
  loops : LoopId → Loop Ip := fun _ => {}
  requestQueue : List Nat := []
  cacheEnabled : Bool := false
  cacheTtl : Nat := 60
  cache : String → Option (CacheEntry Ip) := fun _ => none
  now : Nat := 0

/-- How far a call is. -/
inductive Frame (Ip : Type) where
  /-- `resolve` before `isCancellationRequested`, before the lock of `registerCallback`, before
  that of `installRegistration`, before that of the reset of a value that was not installed,
  before it looks at `completed`, at the cache and at the queue. -/
  | starting (request : Nat)
  | registering (request : Nat)
  | installing (request : Nat) (registered : Bool)
  | discarding (request : Nat)
  | checking (request : Nat)
  | looking (request : Nat)
  | enqueueing (request : Nat)
  /-- `post` before it looks at `completed`, before `queue`, and after it was refused. -/
  | posting (request : Nat) (result : ResolveResult Ip)
  | queueing (request : Nat) (result : ResolveResult Ip)
  | abandoning (request : Nat)
  /-- `deliver` before `takeCallback`. -/
  | delivering (request : Nat) (result : ResolveResult Ip)
  /-- `takeCallback` after its lock, for `deliver` with a result, and its caller after it. -/
  | releasing (request : Nat) (result : Option (ResolveResult Ip))
  | taken (request : Nat) (result : Option (ResolveResult Ip))
  | calling (request : Nat)
  | dropping (request : Nat)
  /-- `CancellationSource::cancel` -/
  | exchanging (token : Token)
  | swapping (token : Token)
  | notifying (token : Token) (rest : List Nat)
  /-- `workerThread` with a request, and in `getaddrinfo`. -/
  | fetched (request : Nat)
  | resolving (request : Nat)

inductive Event (Ip : Type) where
  | resolve (request : Nat)
  | cancelled (token : Token)
  | posted (request : Nat) (result : ResolveResult Ip)
  | enqueued (request : Nat)
  | queued (request : Nat) (result : ResolveResult Ip)
  /-- `completed` was set, by `deliver` with a result. -/
  | settled (thread : Thread) (request : Nat) (result : Option (ResolveResult Ip))
  | invoked (thread : Thread) (request : Nat) (result : ResolveResult Ip)
  | abandoned (thread : Thread) (request : Nat)
  | closed (loop : LoopId)

/-- What user code does, and what a thread with nothing to do takes up. -/
inductive Command where
  | resolve (hostname : String) (port : Nat) (callbackLoop : LoopId) (token : Option Token)
  | cancel (token : Token)
  | enableCache (ttl : Nat)
  | clearCache
  deriving DecidableEq, Repr

/-- What comes from outside in a step of a call. -/
inductive Choice (Ip : Type) where
  | go
  | notify (request : Nat)
  /-- The answer of `getaddrinfo` for the two families, if it is one. -/
  | answer (addresses : Option (List Ip))

inductive Action (Ip : Type) where
  | user (command : Command)
  /-- A worker pops a request. -/
  | pop
  /-- A loop runs a functor, or finds none in its last check. -/
  | run
  | close
  | advance (choice : Choice Ip)
  | tick

/-- What a step puts on the stack, tells and leaves. -/
structure Outcome (Ip : Type) where
  frames : List (Frame Ip) := []
  events : List (Event Ip) := []
  shared : Shared Ip

namespace Shared

variable {Ip : Type}

def setOperation (request : Nat) (operation : Operation) (shared : Shared Ip) : Shared Ip :=
  { shared with operations := Function.update shared.operations request (some operation) }

def setSource (token : Token) (source : Source) (shared : Shared Ip) : Shared Ip :=
  { shared with sources := Function.update shared.sources token source }

def setLoop (loop : LoopId) (state : Loop Ip) (shared : Shared Ip) : Shared Ip :=
  { shared with loops := Function.update shared.loops loop state }

/-- `CancellationRegistration::reset` under the lock of its state. -/
def unregister (request : Nat) (operation : Operation) (shared : Shared Ip) : Shared Ip :=
  match operation.token with
  | none => shared
  | some token =>
      let source := shared.sources token
      shared.setSource token { source with callbacks := source.callbacks.filter (· ≠ request) }

/-- `post` is called. -/
def post (request : Nat) (result : ResolveResult Ip) (rest : List (Frame Ip)) (shared : Shared Ip) :
    Outcome Ip :=
  { frames := .posting request result :: rest, events := [.posted request result], shared }

/-- The callback is taken. -/
def settle (thread : Thread) (request : Nat) (operation : Operation)
    (result : Option (ResolveResult Ip)) (shared : Shared Ip) : Outcome Ip where
  frames :=
    if operation.registration then [.releasing request result] else [.taken request result]
  events := [.settled thread request result]
  shared := shared.setOperation request { operation with completed := true, registration := false }

/-- `takeCallback` under its lock, and what follows for the callback that it took. -/
def takeCallback (thread : Thread) (request : Nat) (operation : Operation)
    (result : Option (ResolveResult Ip)) (shared : Shared Ip) : Outcome Ip :=
  if operation.completed then { shared } else shared.settle thread request operation result

/-- A cache hit gets the port of the request. -/
def lookup (operation : Operation) (shared : Shared Ip) : Option (List (Ip × Nat)) :=
  if shared.cacheEnabled then
    match shared.cache operation.hostname with
    | some entry =>
        if shared.now < entry.expiry then
          some (entry.addresses.map fun address => (address, operation.port))
        else none
    | none => none
  else none

/-- A worker keeps an answer that is not empty. -/
def remember (operation : Operation) (addresses : List Ip) (shared : Shared Ip) : Shared Ip :=
  if shared.cacheEnabled && !addresses.isEmpty then
    { shared with
      cache := Function.update shared.cache operation.hostname
        (some { addresses, expiry := shared.now + shared.cacheTtl }) }
  else shared

def answered (operation : Operation) : Option (List Ip) → ResolveResult Ip
  | some (first :: rest) => .ok ((first :: rest).map fun address => (address, operation.port))
  | _ => .error .resolveFailed

/-- The next step of a call of `request`. -/
def advanceRequest (thread : Thread) (operation : Operation) (frame : Frame Ip)
    (choice : Choice Ip) (shared : Shared Ip) : Option (Outcome Ip) :=
  match choice, frame with
  | .go, .starting request =>
      match operation.token with
      | none => some { frames := [.looking request], shared }
      | some token =>
          if (shared.sources token).cancelled then
            some (shared.post request (.error .cancelled) [])
          else some { frames := [.registering request], shared }
  | .go, .registering request =>
      operation.token.map fun token =>
        let source := shared.sources token
        if source.cancelled then
          shared.post request (.error .cancelled) [.installing request false]
        else
          { frames := [.installing request true]
            shared := shared.setSource token
              { source with callbacks := source.callbacks ++ [request] } }
  | .go, .installing request registered =>
      if operation.completed then
        some { frames := if registered then [.discarding request] else [.checking request], shared }
      else
        some
          { frames := [.checking request]
            shared := shared.setOperation request { operation with registration := registered } }
  | .go, .discarding request =>
      some { frames := [.checking request], shared := shared.unregister request operation }
  | .go, .checking request =>
      some { frames := if operation.completed then [] else [.looking request], shared }
  | .go, .looking request =>
      match shared.lookup operation with
      | some addresses => some (shared.post request (.ok addresses) [])
      | none => some { frames := [.enqueueing request], shared }
  | .go, .enqueueing request =>
      some
        { events := [.enqueued request]
          shared := { shared with requestQueue := shared.requestQueue ++ [request] } }
  | .go, .posting request result =>
      some { frames := if operation.completed then [] else [.queueing request result], shared }
  | .go, .queueing request result =>
      let loop := shared.loops operation.callbackHandle
      if loop.isOpen then
        some
          { events := [.queued request result]
            shared := shared.setLoop operation.callbackHandle
              { loop with pending := loop.pending ++ [(request, result)] } }
      else some { frames := [.abandoning request], shared }
  | .go, .abandoning request => some (shared.takeCallback thread request operation none)
  | .go, .delivering request result =>
      some (shared.takeCallback thread request operation (some result))
  | .go, .releasing request result =>
      some { frames := [.taken request result], shared := shared.unregister request operation }
  | .go, .taken request (some result) =>
      some { frames := [.calling request], events := [.invoked thread request result], shared }
  | .go, .taken request none =>
      some { frames := [.dropping request], events := [.abandoned thread request], shared }
  | .go, .calling _ | .go, .dropping _ => some { shared }
  | .go, .fetched request =>
      some { frames := if operation.completed then [] else [.resolving request], shared }
  | .answer addresses, .resolving request =>
      some ((shared.remember operation (addresses.getD [])).post request
        (answered operation addresses) [])
  | _, _ => none

end Shared

/-- The request that a frame is about. -/
def Frame.request {Ip : Type} : Frame Ip → Option Nat
  | .starting request | .registering request | .installing request _ | .discarding request
  | .checking request | .looking request | .enqueueing request | .posting request _
  | .queueing request _ | .abandoning request | .delivering request _ | .releasing request _
  | .taken request _ | .calling request | .dropping request | .fetched request
  | .resolving request => some request
  | .exchanging _ | .swapping _ | .notifying .. => none

/-- Where user code runs. -/
def Frame.user {Ip : Type} : Frame Ip → Bool
  | .calling _ | .dropping _ | .notifying .. => true
  | _ => false

namespace Shared

variable {Ip : Type}

/-- The next step of `CancellationSource::cancel`. -/
def advanceCancel (frame : Frame Ip) (choice : Choice Ip) (shared : Shared Ip) :
    Option (Outcome Ip) :=
  match choice, frame with
  | .go, .exchanging token =>
      let source := shared.sources token
      if source.cancelled then some { shared }
      else
        some
          { frames := [.swapping token], events := [.cancelled token]
            shared := shared.setSource token { source with cancelled := true } }
  | .go, .swapping token =>
      let source := shared.sources token
      some
        { frames := [.notifying token source.callbacks]
          shared := shared.setSource token { source with callbacks := [] } }
  | .notify request, .notifying token rest =>
      if request ∈ rest then
        some (shared.post request (.error .cancelled) [.notifying token (rest.erase request)])
      else none
  | .go, .notifying _ [] => some { shared }
  | _, _ => none

def advance (thread : Thread) (frame : Frame Ip) (choice : Choice Ip) (shared : Shared Ip) :
    Option (Outcome Ip) :=
  match frame.request with
  | none => shared.advanceCancel frame choice
  | some request =>
      (shared.operations request).bind fun operation =>
        shared.advanceRequest thread operation frame choice

def user (shared : Shared Ip) : Command → Outcome Ip
  | .resolve hostname port callbackHandle token =>
      { frames := [.starting shared.requests]
        events := [.resolve shared.requests]
        shared := { shared.setOperation shared.requests { hostname, port, callbackHandle, token } with
          requests := shared.requests + 1 } }
  | .cancel token => { frames := [.exchanging token], shared }
  | .enableCache ttl => { shared := { shared with cacheTtl := ttl, cacheEnabled := true } }
  | .clearCache => { shared := { shared with cache := fun _ => none } }

/-- What a thread takes up when it has nothing to do. -/
def takeUp (thread : Thread) (action : Action Ip) (shared : Shared Ip) : Option (Outcome Ip) :=
  match action, thread with
  | .pop, .worker _ =>
      match shared.requestQueue with
      | [] => none
      | request :: rest =>
          some { frames := [.fetched request], shared := { shared with requestQueue := rest } }
  | .run, .owner loop =>
      match (shared.loops loop).pending with
      | [] => none
      | (request, result) :: pending =>
          some
            { frames := [.delivering request result]
              shared := shared.setLoop loop { shared.loops loop with pending } }
  | .close, .owner loop =>
      if (shared.loops loop).isOpen ∧ (shared.loops loop).pending.isEmpty then
        some
          { events := [.closed loop]
            shared := shared.setLoop loop { shared.loops loop with isOpen := false } }
      else none
  | _, _ => none

end Shared

structure State (Ip : Type) where
  shared : Shared Ip := {}
  frames : Thread → List (Frame Ip) := fun _ => []
  trace : List (Event Ip) := []

namespace State

variable {Ip : Type}

/-- A thread goes on with other frames in the place of those that it was at. -/
def put (thread : Thread) (stack : List (Frame Ip)) (outcome : Outcome Ip) (state : State Ip) :
    State Ip where
  shared := outcome.shared
  frames := Function.update state.frames thread (outcome.frames ++ stack)
  trace := state.trace ++ outcome.events

/-- User code runs in a callback, in a destructor, and outside of everything else except on
the threads of the resolver. -/
def mayCall (thread : Thread) : List (Frame Ip) → Bool
  | [] => match thread with
      | .worker _ => false
      | _ => true
  | frame :: _ => frame.user

def step (state : State Ip) (move : Thread × Action Ip) : Option (State Ip) :=
  let thread := move.1
  let stack := state.frames thread
  match move.2 with
  | .user command =>
      if mayCall thread stack then some (state.put thread stack (state.shared.user command))
      else none
  | .advance choice =>
      match stack with
      | [] => none
      | frame :: rest =>
          (state.shared.advance thread frame choice).map fun outcome => state.put thread rest outcome
  | .tick => some { state with shared := { state.shared with now := state.shared.now + 1 } }
  | action =>
      if stack.isEmpty then
        (state.shared.takeUp thread action).map fun outcome => state.put thread [] outcome
      else none

end State

end MiniTrantor.Net.Dns
