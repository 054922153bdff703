import MiniTrantor.Net.Client.ConnectorInvariant
import MiniTrantor.Reachability
import MiniTrantor.Trace

/-!
# Runs of a connector

The loop gives the connector its queued starts, channel events and timers one at
a time. User code runs between them and in every hook that is set, and there it
calls whatever it likes. The trace has the sockets, the hooks and the calls.
-/

set_option autoImplicit false

namespace MiniTrantor.Net.Connector

inductive Call where
  | start
  | stop
  | restart
  | setNewConnectionCallback (set : Bool)
  | setConnectorEventCallback (set : Bool)
  | setRetryDelay (initial max : Int)
  | release
  deriving DecidableEq, Repr

inductive Event where
  | created (socket : SocketId)
  | closed (socket : SocketId)
  | delivered (socket : SocketId)
  | emitted (event : ConnectorEvent)
  | started
  | stopped
  | destroyed
  deriving DecidableEq, Repr

inductive Action where
  | call (call : Call)
  | startInLoop (generation : Nat)
  | handleEvent (error write : Bool) (probe : Probe)
  | handleTimer (timer : ConnectTimer)
  | resume (opening : Opening)
  | writeCallback (probe : Probe)
  | destroy
  deriving DecidableEq, Repr

/-- A function that waits for its hook, and whether the hook is set. -/
structure Hook where
  frame : Frame
  runs : Bool
  deriving DecidableEq, Repr

structure System where
  connector : Connector
  hook : Option Hook := none
  writable : Option Nat := none
  owned : Bool := true
  destroyed : Bool := false
  sockets : Nat := 0
  trace : List Event := []
  deriving DecidableEq, Repr

def Next.events (next : Next) (callback : Bool) : List Event :=
  match next with
  | .done => []
  | .emit event _ => if callback then [.emitted event] else []
  | .deliver socket => [.delivered socket]

def Next.hook (next : Next) (callback : Bool) : Option Hook :=
  match next with
  | .done => none
  | .emit _ frame => some { frame, runs := callback }
  | .deliver _ => some { frame := .delivering, runs := true }

/-- What is seen of a stretch; the hook is the last thing that it does. -/
def Turn.events (turn : Turn) : List Event :=
  turn.created.toList.map .created ++ turn.closed.toList.map .closed ++
    turn.next.events turn.connector.connectorEventCallback

namespace System

/-- A stretch that the loop runs or that goes on after a hook. -/
def take (turn : Turn) (system : System) : System :=
  { system with
    connector := turn.connector
    hook := turn.next.hook turn.connector.connectorEventCallback
    sockets := system.sockets + turn.created.toList.length
    trace := system.trace ++ turn.events }

/-- A call of the user, which never runs a hook. -/
def called (turn : Turn) (events : List Event) (system : System) : System :=
  { system with connector := turn.connector, trace := system.trace ++ turn.events ++ events }

def call (system : System) : Call → System
  | .start => system.called { connector := system.connector.start } [.started]
  | .stop => system.called system.connector.stop [.stopped]
  | .restart => system.called system.connector.restart [.started]
  | .setNewConnectionCallback set =>
      { system with connector := { system.connector with newConnectionCallback := set } }
  | .setConnectorEventCallback set =>
      { system with connector := { system.connector with connectorEventCallback := set } }
  | .setRetryDelay initial max =>
      { system with connector := system.connector.setRetryDelay initial max }
  | .release => { system with owned := false }

/-- Nothing of the connector is on the stack. -/
def idle (system : System) : Bool := system.hook.isNone && system.writable.isNone

/-- User code runs. -/
def callable (system : System) : Bool :=
  match system.hook with
  | some hook => hook.runs
  | none => system.writable.isNone

/-- The callback for writing has the generation of the channel, which may be gone by then. -/
def handleEvent (channel : ConnectChannel) (error write : Bool) (probe : Probe) (system : System) :
    System :=
  if error then
    { system.take (system.connector.handleError channel.generation) with
      writable := if write then some channel.generation else none }
  else if write then system.take (system.connector.handleWrite channel.generation probe)
  else system

def step (system : System) : Action → Option System
  | .call call => if system.owned && system.callable then some (system.call call) else none
  | .startInLoop generation =>
      if system.owned && system.idle && system.connector.starts.contains generation then
        let connector :=
          { system.connector with starts := system.connector.starts.erase generation }
        some (system.take (connector.startInLoop generation))
      else none
  | .handleEvent error write probe =>
      match system.connector.channel with
      | some channel =>
          if system.owned && system.idle then some (system.handleEvent channel error write probe)
          else none
      | none => none
  | .handleTimer timer =>
      if system.owned && system.idle && system.connector.timers.contains timer then
        some (system.take (system.connector.handleTimer timer))
      else none
  | .resume opening =>
      match system.hook with
      | some hook => some (system.take (system.connector.resume hook.frame system.sockets opening))
      | none => none
  | .writeCallback probe =>
      match system.hook, system.writable with
      | none, some generation =>
          some { system.take (system.connector.handleWrite generation probe) with writable := none }
      | _, _ => none
  | .destroy =>
      if !system.owned && system.idle && !system.destroyed then
        some { system.called system.connector.destroy [.destroyed] with destroyed := true }
      else none

/-- A connector that has just been made. -/
def initial (options : ConnectorOptions) : System := { connector := create options }

end System

end MiniTrantor.Net.Connector
