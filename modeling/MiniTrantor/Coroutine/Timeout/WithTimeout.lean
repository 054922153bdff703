import MiniTrantor.Reachability
import MiniTrantor.Net.Timer.TimerQueue

/-!
# Timeouts

`withTimeout` with the two tasks that `whenAny` races, the sleep of one of them on its loop
and the tokens that link them. A thread has a stack of what it is in the middle of. A step
is one access to a token under its mutex, one exchange of a flag, or a stretch of code in
which nothing is shared. The coroutines of one tree run under one gate, which a thread
holds as long as one of its frames is under it; the operation is resumed under the gate too.

The operation is any coroutine: it runs, suspends and completes as it likes. User code runs
wherever a thread is not inside of the library, and cancels what it likes.
-/

set_option autoImplicit false

namespace MiniTrantor.Coroutine.Timeout

open Net (addTicks)

abbrev Thread := Nat

inductive NetError where
  | peerClosed
  | connectionReset
  | notConnected
  | cancelled
  | timedOut
  | resolveFailed
  deriving DecidableEq, Repr

inductive Outcome (Value Failure : Type) where
  | returned (result : Except NetError Value)
  | threw (failure : Failure)

inductive Branch where
  | operation
  | timeout
  deriving DecidableEq, Repr

def Branch.other : Branch → Branch
  | .operation => .timeout
  | .timeout => .operation

/-- The cancellation states: the user's, `cancellationSources` and `linkedCancellations` of
the race, and that of the `LinkedCancellation` in `prepareTimedOperation`, whose token the
operation has. -/
inductive Source where
  | user (id : Nat)
  | loser (branch : Branch)
  | linked (branch : Branch)
  | prepared
  deriving DecidableEq, Repr

/-- The callbacks of `LinkedCancellation::link` and of `SleepAwaitable`, and the user's. -/
inductive Callback where
  | cancel (source : Source)
  | sleep
  | observer
  deriving DecidableEq, Repr

inductive Instruction where
  | link (target token : Source)
  | awaitOperation
  | sleep
  deriving DecidableEq, Repr

inductive Completion (Value Failure : Type) where
  | operation (outcome : Outcome Value Failure)
  | timeout (error : NetError)

def Completion.branch {Value Failure : Type} : Completion Value Failure → Branch
  | .operation _ => .operation
  | .timeout _ => .timeout

inductive Phase where
  | unarmed
  | pending
  | expired
  | cancelled
  deriving DecidableEq, Repr

/-- What the sleep has queued in the loop: its arming, or `complete` after a cancellation. -/
inductive Functor where
  | arm
  | complete
  deriving DecidableEq, Repr

inductive Frame (Value Failure : Type) where
  -- the coroutine that launches the race, and the user's that run under the gate
  | launching
  | operation
  | parent
  -- the wrapper of a task that has completed, which resets the registrations of the
  -- `LinkedCancellation` before it contends
  | settling (completion : Completion Value Failure) (tokens : List Source)
  | cancelLosers
  | resumeParent
  -- `cancel()` before the exchange, before its lock and in its loop
  | exchanging (source : Source)
  | swapping (source : Source)
  | notifying (source : Source) (rest : List Callback) (failure : Option Failure)
  | observer (source : Source)
  -- the arming of the sleep, before and after it has looked at its token
  | arming
  | registering
  -- `complete`, before the registration is reset and before the coroutine is resumed
  | resetting
  | resuming

inductive Event (Value Failure : Type) where
  | slept (time : Int)
  | woke (outcome : Phase) (time : Int)
  | completed (completion : Completion Value Failure)
  -- a callback of the user that was registered with a token, and a move of the value
  | threw (source : Source) (failure : Failure)
  | moveThrew (failure : Failure)

/-- What does not change: the token that the operation has when it is given to `withTimeout`,
the token that `withTimeout` has, the loop and the timeout. -/
structure Setting where
  own : Option Nat := none
  inherited : Option Nat := none
  loop : Thread := 0
  timeout : Int := 0

inductive Status where
  | waiting
  | running
  | suspended
  | done
  deriving DecidableEq, Repr

structure Race (Value Failure : Type) where
  now : Int := 0
  cancelled : Source → Bool := fun _ => false
  callbacks : Source → List Callback := fun _ => []
  frames : Thread → List (Frame Value Failure) := fun _ => []
  gate : Option Thread := none
  launch : List Instruction := []
  operation : Status := .waiting
  phase : Phase := .unarmed
  deadline : Int := 0
  timer : Bool := false
  queue : List Functor := []
  winner : Option Branch := none
  winnerValue : Option (Except NetError Value) := none
  winnerException : Option Failure := none
  alive : Bool := true
  result : Option (Outcome Value Failure) := none
  trace : List (Event Value Failure) := []

namespace Setting

variable (setting : Setting)

def whenAnyAwaitable : List Instruction :=
  [.link (.linked .operation) (.loser .operation)] ++
    setting.inherited.toList.map (fun id => .link (.linked .timeout) (.user id)) ++
    [.link (.linked .timeout) (.loser .timeout)]

/-- What `prepareTimedOperation` links: the token of the operation, the inherited token and
the token that the race has given to its wrapper. -/
def tokens : List Source :=
  setting.own.toList.map .user ++ setting.inherited.toList.map .user ++ [.linked .operation]

def prepareTimedOperation : List Instruction :=
  setting.tokens.map (.link .prepared) ++ [.awaitOperation]

def withTimeout : List Instruction :=
  setting.whenAnyAwaitable ++ setting.prepareTimedOperation ++ [.sleep]

end Setting

variable {Value Failure : Type}

namespace Frame

def gated : Frame Value Failure → Bool
  | .launching | .operation | .parent | .settling .. | .cancelLosers | .resumeParent => true
  | _ => false

def user : Frame Value Failure → Bool
  | .operation | .parent | .observer _ => true
  | _ => false

end Frame

inductive Action (Value Failure : Type) where
  | cancel (thread : Thread) (id : Nat)
  | observe (thread : Thread) (source : Source)
  | forget (thread : Thread) (source : Source)
  | resume (thread : Thread)
  | suspend (thread : Thread)
  | finish (thread : Thread) (outcome : Outcome Value Failure)
  | returned (thread : Thread)
  | threw (thread : Thread) (failure : Failure)
  | abandon
  | tick (time : Nat)
  | goOn (thread : Thread) (thrown : Option Failure := none)
  | notify (thread : Thread) (callback : Callback)
  | functor
  | expire

namespace Race

/-- The frames of a thread are replaced. It keeps the gate as long as one is under it. -/
def put (thread : Thread) (stack : List (Frame Value Failure)) (race : Race Value Failure) :
    Race Value Failure :=
  { race with
    frames := Function.update race.frames thread stack
    gate :=
      if stack.any Frame.gated then some thread
      else if race.gate = some thread then none else race.gate }

def emit (event : Event Value Failure) (race : Race Value Failure) : Race Value Failure :=
  { race with trace := race.trace ++ [event] }

/-- A thread may lock the gate, again if it holds it. -/
def gateOpen (race : Race Value Failure) (thread : Thread) : Bool :=
  race.gate.all (· == thread)

def atUser (race : Race Value Failure) (thread : Thread) : Bool :=
  (race.frames thread).head?.all Frame.user

/-- `registerCallback` of a token that is not cancelled. -/
def register (token : Source) (callback : Callback) (race : Race Value Failure) :
    Race Value Failure :=
  { race with
    callbacks := Function.update race.callbacks token (race.callbacks token ++ [callback]) }

def reset (token : Source) (callback : Callback) (race : Race Value Failure) : Race Value Failure :=
  { race with
    callbacks := Function.update race.callbacks token ((race.callbacks token).erase callback) }

/-- A call of `cancel()` or a callback is over, with an exception or without. User code
below does what it likes with an exception; a launch gets none, since nobody else knows
the token that it links. -/
def receive (thread : Thread) (failure : Option Failure) (race : Race Value Failure) :
    List (Frame Value Failure) → Race Value Failure
  | .notifying source callbacks first :: rest =>
      race.put thread (.notifying source callbacks (first.or failure) :: rest)
  | .cancelLosers :: rest =>
      { race with winnerException := race.winnerException.or failure }.put thread
        (.resumeParent :: rest)
  | rest => race.put thread rest

/-- `tryWin` and what the wrapper stores when it has won. A value is moved up to here and
into its place; if that throws, then the wrapper stores the exception. -/
def win (thrown : Option Failure) (race : Race Value Failure) :
    Completion Value Failure → Race Value Failure
  | .operation (.returned (.ok value)) =>
      match thrown with
      | none => { race with winner := some .operation, winnerValue := some (.ok value) }
      | some failure =>
          { race with winner := some .operation, winnerException := some failure }.emit
            (.moveThrew failure)
  | .operation (.returned (.error error)) =>
      { race with winner := some .operation, winnerValue := some (.error error) }
  | .operation (.threw failure) =>
      { race with winner := some .operation, winnerException := some failure }
  | .timeout error => { race with winner := some .timeout, winnerValue := some (.error error) }

/-- What is stored for `WhenAnyAwaitable::await_resume`. -/
def awaitResume (race : Race Value Failure) : Option (Outcome Value Failure) :=
  (race.winnerException.map .threw).or (race.winnerValue.map .returned)

/-- `withTimeout` returns what is stored. A value is moved again. -/
def coReturn (thrown : Option Failure) (race : Race Value Failure) : Race Value Failure :=
  match race.awaitResume, thrown with
  | some (.returned (.ok _)), some failure =>
      { race with result := some (.threw failure) }.emit (.moveThrew failure)
  | stored, _ => { race with result := stored }

/-- `SleepAwaitable::complete` up to the reset of its registration. -/
def complete (setting : Setting) (outcome : Phase) (race : Race Value Failure) :
    Race Value Failure :=
  if race.phase = .pending then
    ({ race with phase := outcome }.emit (.woke outcome race.now)).put setting.loop [.resetting]
  else race

def timeoutResult (race : Race Value Failure) : NetError :=
  if race.phase = .cancelled then .cancelled else .timedOut

def launchNext (setting : Setting) (thread : Thread) (stack : List (Frame Value Failure))
    (race : Race Value Failure) : Race Value Failure :=
  match race.launch with
  | [] => race.put thread stack
  | .link target token :: launch =>
      if race.cancelled token then
        { race with launch }.put thread (.exchanging target :: .launching :: stack)
      else { race with launch }.register token (.cancel target)
  | .awaitOperation :: launch =>
      { race with launch, operation := .running }.put thread (.operation :: .launching :: stack)
  | .sleep :: launch =>
      let race :=
        { race with
          launch
          phase := .pending
          deadline := addTicks race.now setting.timeout }.emit (.slept race.now)
      if thread = setting.loop then race.put thread (.arming :: .launching :: stack)
      else { race with queue := race.queue ++ [Functor.arm] }

/-- The thread goes on in the library. If it moves a value, then this may throw. -/
def goOn (setting : Setting) (thread : Thread) (thrown : Option Failure)
    (race : Race Value Failure) : Option (Race Value Failure) :=
  match race.frames thread with
  | .launching :: rest => some (race.launchNext setting thread rest)
  | .settling completion (token :: tokens) :: rest =>
      some ((race.reset token (.cancel .prepared)).put thread (.settling completion tokens :: rest))
  | .settling completion [] :: rest =>
      match race.winner with
      | some _ => some (race.put thread rest)
      | none =>
          some ((race.win thrown completion).put thread
            (.exchanging (.loser completion.branch.other) :: .cancelLosers :: rest))
  | .resumeParent :: rest =>
      if race.alive && race.result.isNone then
        some ((race.coReturn thrown).put thread (.parent :: rest))
      else some (race.put thread rest)
  | .exchanging source :: rest =>
      if race.cancelled source then some (race.receive thread none rest)
      else some ({ race with cancelled := Function.update race.cancelled source true }.put thread
        (.swapping source :: rest))
  | .swapping source :: rest =>
      some ({ race with callbacks := Function.update race.callbacks source [] }.put thread
        (.notifying source (race.callbacks source) none :: rest))
  | .notifying _ [] failure :: rest => some (race.receive thread failure rest)
  | .arming :: rest =>
      if race.phase ≠ .pending then some (race.put thread rest)
      else if race.cancelled (.linked .timeout) then
        some ({ race with queue := race.queue ++ [Functor.complete] }.put thread rest)
      else some (race.put thread (.registering :: rest))
  | .registering :: rest =>
      if race.cancelled (.linked .timeout) then
        some ({ race with queue := race.queue ++ [Functor.complete], timer := true }.put thread rest)
      else some (({ race with timer := true }.register (.linked .timeout) .sleep).put thread rest)
  | .resetting :: rest =>
      some (({ race with timer := false }.reset (.linked .timeout) .sleep).put thread
        (.resuming :: rest))
  | .resuming :: rest =>
      if race.gateOpen thread then
        let completion : Completion Value Failure := .timeout race.timeoutResult
        some ((race.emit (.completed completion)).put thread (.settling completion [] :: rest))
      else none
  | _ => none

def notify (thread : Thread) (callback : Callback) (race : Race Value Failure) :
    Option (Race Value Failure) :=
  match race.frames thread with
  | .notifying source callbacks failure :: rest =>
      if callback ∈ callbacks then
        let notifying := .notifying source (callbacks.erase callback) failure :: rest
        match callback with
        | .cancel target => some (race.put thread (.exchanging target :: notifying))
        | .sleep => some ({ race with queue := race.queue ++ [Functor.complete] }.put thread notifying)
        | .observer => some (race.put thread (.observer source :: notifying))
      else none
  | _ => none

/-- User code has the token of the operation once the operation has been awaited. -/
def visible (race : Race Value Failure) : Source → Bool
  | .user _ => true
  | .prepared => race.operation != .waiting
  | _ => false

def step (setting : Setting) (race : Race Value Failure) :
    Action Value Failure → Option (Race Value Failure)
  | .cancel thread id =>
      if race.atUser thread then
        some (race.put thread (.exchanging (.user id) :: race.frames thread))
      else none
  | .observe thread source =>
      if race.atUser thread && race.visible source then
        some (if race.cancelled source then
          race.put thread (.observer source :: race.frames thread)
        else race.register source .observer)
      else none
  | .forget thread source =>
      if race.atUser thread && race.visible source then some (race.reset source .observer) else none
  | .resume thread =>
      if race.atUser thread && race.gateOpen thread && race.operation == .suspended then
        some ({ race with operation := .running }.put thread (.operation :: race.frames thread))
      else none
  | .suspend thread =>
      match race.frames thread with
      | .operation :: rest => some ({ race with operation := .suspended }.put thread rest)
      | _ => none
  | .finish thread outcome =>
      match race.frames thread with
      | .operation :: rest =>
          let completion : Completion Value Failure := .operation outcome
          some (({ race with operation := .done }.emit (.completed completion)).put thread
            (.settling completion setting.tokens :: rest))
      | _ => none
  | .returned thread =>
      match race.frames thread with
      | .observer _ :: rest => some (race.receive thread none rest)
      | .parent :: rest => some (race.put thread rest)
      | _ => none
  | .threw thread failure =>
      match race.frames thread with
      | .observer source :: rest =>
          some ((race.emit (.threw source failure)).receive thread (some failure) rest)
      | _ => none
  | .abandon => if race.gate.isNone then some { race with alive := false } else none
  | .tick time => some { race with now := race.now + time }
  | .goOn thread thrown => race.goOn setting thread thrown
  | .notify thread callback => race.notify thread callback
  | .functor =>
      match race.frames setting.loop, race.queue with
      | [], .arm :: queue => some ({ race with queue }.put setting.loop [.arming])
      | [], .complete :: queue => some ({ race with queue }.complete setting .cancelled)
      | _, _ => none
  | .expire =>
      if (race.frames setting.loop).isEmpty && race.timer && race.deadline ≤ race.now then
        some ({ race with timer := false }.complete setting .expired)
      else none

/-- The coroutine of `withTimeout` begins to run on a thread, after some tokens of the user
have been cancelled. -/
def start (setting : Setting) (thread : Thread) (cancelled : Nat → Bool) (now : Int) :
    Race Value Failure :=
  { ({} : Race Value Failure) with
    now
    cancelled := fun source =>
      match source with
      | .user id => cancelled id
      | _ => false
    launch := setting.withTimeout }.put thread [.launching]

end Race

end MiniTrantor.Coroutine.Timeout
