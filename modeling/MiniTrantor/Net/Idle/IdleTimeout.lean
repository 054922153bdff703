import MiniTrantor.Net.Connection.Lifecycle
import MiniTrantor.Net.Timer.Expiry

/-!
# Idle timeout

A connection of a server that has an idle timeout, on its loop. The callbacks of the
connection are those that `newConnection` has set, each of which sees to the idle
timer before it calls the user's. They leave the connection alone, so they are run
over what it recorded: the system is behind with some events and deals with them one
by one, each at its time, before anything else happens.
-/

set_option autoImplicit false

namespace MiniTrantor.Net

namespace Idle

/-- `IdleTimeoutState`. The connection event hook is user code. -/
structure IdleTimeoutState where
  timeout : Int
  timerId : Option Nat := none
  generation : Nat := 0
  deriving DecidableEq, Repr

/-- The state with the timer queue of its loop, and the generation that the callback
of each of its timers has captured, by the ids of the timers. -/
structure IdleTimers where
  idleState : IdleTimeoutState
  timerQueue : TimerQueue := {}
  captured : List (Nat × Nat) := []

def cancelIdleTimer (timers : IdleTimers) : IdleTimers :=
  if timers.idleState.timeout ≤ 0 then timers
  else
    let idleState := { timers.idleState with generation := timers.idleState.generation + 1 }
    match idleState.timerId with
    | some id =>
        { timers with
          idleState := { idleState with timerId := none }
          timerQueue := timers.timerQueue.cancelInLoop id }
    | none => { timers with idleState }

/-- `runAfter` with the callback of the idle timer. -/
def runAfter (now : Int) (timers : IdleTimers) : IdleTimers :=
  let id := timers.timerQueue.nextSequence
  { idleState := { timers.idleState with timerId := some id }
    timerQueue := timers.timerQueue.addTimer (addTicks now timers.idleState.timeout) 0
    captured := (id, timers.idleState.generation) :: timers.captured }

def refreshIdleTimer (now : Int) (timers : IdleTimers) : IdleTimers :=
  if timers.idleState.timeout ≤ 0 then timers else runAfter now (cancelIdleTimer timers)

/-- The wrapper of a callback, up to the user's, while the connection is in the given state. -/
def wrapper (state : StateE) (now : Int) : Event → IdleTimers → IdleTimers
  | .callback .connected | .callback .disconnected =>
      if state = .kConnected then refreshIdleTimer now else cancelIdleTimer
  | .callback .message | .callback .writeComplete => refreshIdleTimer now
  | .callback .close => cancelIdleTimer
  | _ => id

/-- Timers that have expired: all of them, and those whose callbacks were not yet looked at. -/
structure Expiry where
  now : Int
  expired : List TimerPtr
  rest : List TimerPtr
  deriving DecidableEq, Repr

/-- The callbacks are left in place, but for the close callback. -/
def keepsWrappers : Op → Bool
  | .setCallbacks callbacks => callbacks.connection && callbacks.message && callbacks.writeComplete
  | _ => true

/-- The users of a server set their callbacks at the server, and leave those of its
connections alone. -/
structure Application where
  world : World
  keeps : ∀ callback conn, ∀ op ∈ world.user callback conn, keepsWrappers op = true

theorem keepsWrappers_nothing : ∀ (_ : Callback) (_ : Conn), ∀ op ∈ ([] : List Op),
    keepsWrappers op = true :=
  fun _ _ _ member => absurd member List.not_mem_nil

/-- The callbacks that `newConnection` sets whatever the user has set. -/
def served (setup : Setup) : Setup :=
  { setup with
    callbacks := { setup.callbacks with
      connection := true, message := true, writeComplete := true, close := true } }

/-- The state after the events so far. -/
def stateAfter (trace : List Net.Event) : StateE := (statesOf trace).getLast?.getD .kConnecting

end Idle

open Idle in
structure ServerConnection where
  conn : Conn
  timers : Idle.IdleTimers
  /-- How many events the wrappers have seen. -/
  handled : Nat := 0
  expiry : Option Idle.Expiry := none

namespace ServerConnection

open Idle

inductive Action where
  /-- The wrappers see the next event. -/
  | wrapper
  | step (step : Step)
  /-- Other timers of the loop. -/
  | addTimer (expiration interval : Int)
  | cancel (id : Nat)
  | getExpired (now : Int)
  /-- The callback of the next timer that expired, with what the connection event hook
  does and whether there is a connection for it. -/
  | expire (connection : Bool) (hook : List Op)
  | reset (now : Int)

/-- The wrappers have seen everything. -/
def settled (server : ServerConnection) : Bool := server.handled = server.conn.trace.length

/-- The generation captured by a timer that is an idle timer of this connection. -/
def generation (id : Nat) (server : ServerConnection) : Option Nat :=
  server.timers.captured.lookup id

/-- User code that another callback of the loop runs. -/
def calls : Step → Bool
  | .call _ => true
  | _ => false

def allowed : Step → Bool
  | .call op => keepsWrappers op
  | _ => true

/-- The callback of an idle timer, up to the test of the connection. -/
def disarm (server : ServerConnection) : ServerConnection :=
  { server with timers :=
      { server.timers with idleState := { server.timers.idleState with timerId := none } } }

/-- The rest of the callback: the hook and `forceClose`. -/
def hookAndClose (world : World) (depth : Nat) (hook : List Op) (conn : Conn) : Conn :=
  Step.take world depth (.call .forceClose)
    (hook.foldl (fun conn op => Step.take world depth (.call op) conn) conn)

/-- The callback of an idle timer. -/
def timerCallback (world : World) (depth : Nat) (generation : Nat) (connection : Bool)
    (hook : List Op) (server : ServerConnection) : ServerConnection :=
  if server.timers.idleState.generation ≠ generation then server
  else
    let server := server.disarm
    let conn := sync world server.conn
    if !connection || conn.state ≠ .kConnected then { server with conn }
    else { server with conn := hookAndClose world depth hook conn }

def step (application : Application) (depth : Nat) (clock : Nat → Int)
    (server : ServerConnection) : Action → Option ServerConnection
  | .wrapper =>
      match server.conn.trace[server.handled]? with
      | none => none
      | some event =>
          some { server with
            handled := server.handled + 1
            timers := Idle.wrapper (stateAfter (server.conn.trace.take server.handled))
              (clock server.handled) event server.timers }
  | .step step =>
      if server.settled && allowed step && (server.expiry.isNone || calls step) then
        some { server with conn := step.take application.world depth server.conn }
      else none
  | .addTimer expiration interval =>
      some { server with timers := { server.timers with
        timerQueue := server.timers.timerQueue.addTimer expiration interval } }
  | .cancel id =>
      if (server.generation id).isSome then none
      else
        some { server with timers := { server.timers with
          timerQueue := server.timers.timerQueue.cancelInLoop id } }
  | .getExpired now =>
      if server.settled && server.expiry.isNone && now ≤ clock server.handled then
        let split := server.timers.timerQueue.getExpired now
        some { server with
          timers := { server.timers with timerQueue := split.2 }
          expiry := some { now, expired := split.1, rest := split.1 } }
      else none
  | .expire connection hook =>
      match server.expiry with
      | some { now, expired, rest := id :: rest } =>
          if server.settled && hook.all keepsWrappers then
            let next := { server with expiry := some { now, expired, rest } }
            if (server.timers.timerQueue.objects id).canceled then some next
            else
              match server.generation id with
              | none => some next
              | some generation =>
                  some (next.timerCallback application.world depth generation connection hook)
          else none
      | _ => none
  | .reset now =>
      match server.expiry with
      | some { expired, rest := [], .. } =>
          if server.settled then
            some { server with
              timers := { server.timers with
                timerQueue := server.timers.timerQueue.reset expired now }
              expiry := none }
          else none
      | _ => none

/-- A connection that `newConnection` has set up and that is established on its loop. -/
def create (setup : Setup) (application : Application) (depth : Nat) (timeout : Int) :
    ServerConnection where
  conn := (served setup).established application.world depth
  timers := { idleState := { timeout }, timerQueue := .empty }

end ServerConnection

end MiniTrantor.Net
