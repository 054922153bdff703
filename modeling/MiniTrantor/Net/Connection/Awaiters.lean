import MiniTrantor.Net.Connection.Loop

/-!
# ConnectionAwaiterRegistry and cancellation registrations
-/

set_option autoImplicit false

namespace MiniTrantor.Net

variable (world : World)

namespace CancellationToken

def isCancellationRequested (token : Option TokenId) (conn : Conn) : Bool :=
  match token with
  | none => false
  | some token => (conn.tokens token).cancelled

/-- `CancellationRegistration::reset` of the waiter's registration. -/
@[simps] def resetRegistration (waiter : WaiterId) (conn : Conn) : Conn :=
  { conn with
    waiters := Function.update conn.waiters waiter { conn.waiters waiter with registration := none }
    tokens :=
      match (conn.waiters waiter).registration with
      | none => conn.tokens
      | some token => Function.update conn.tokens token
          { conn.tokens token with callbacks := (conn.tokens token).callbacks.erase waiter } }

/-- `registerCallback` with the callback that posts the waiter's cancellation. A
token that is already cancelled runs the callback at once. -/
def registerCallback (waiter : WaiterId) (token : Option TokenId) (conn : Conn) : Conn :=
  match token with
  | none => conn
  | some token =>
      let conn := sync world conn
      if (conn.tokens token).cancelled then
        EventLoop.queueInLoop world (.cancelWaiter waiter) conn
      else
        { conn.setWaiter waiter { conn.waiters waiter with registration := some token } with
          tokens := Function.update conn.tokens token
            { conn.tokens token with callbacks := (conn.tokens token).callbacks ++ [waiter] } }

end CancellationToken

namespace CancellationSource

def cancel (token : TokenId) (conn : Conn) : Conn :=
  let conn := sync world conn
  if (conn.tokens token).cancelled then conn
  else
    let callbacks := (conn.tokens token).callbacks
    callbacks.foldl (fun conn waiter => EventLoop.queueInLoop world (.cancelWaiter waiter) conn)
      { conn with tokens := Function.update conn.tokens token { cancelled := true, callbacks := [] } }

end CancellationSource

namespace ConnectionAwaiterRegistry

def queueResume (waiter : WaiterId) (conn : Conn) : Conn :=
  let state := conn.waiters waiter
  if state.phase = .pending then
    EventLoop.queueInLoop world (.resumeWaiter waiter)
      ((conn.setWaiter waiter { state with phase := .queued }).emit
        (.resumeQueued waiter state.outcome))
  else conn

def queueResumeSlot (slot : Option WaiterId) (conn : Conn) : Conn :=
  match slot with
  | none => conn
  | some waiter => queueResume world waiter conn

@[simps] def occupyRead (waiter : WaiterId) (minBytes : Nat) (conn : Conn) : Conn :=
  { conn with registry :=
      { conn.registry with readWaiter := some waiter, minReadBytes := minBytes } }

@[simps] def occupyWrite (waiter : WaiterId) (conn : Conn) : Conn :=
  { conn with registry := { conn.registry with writeWaiter := some waiter } }

@[simps] def occupyClose (waiter : WaiterId) (conn : Conn) : Conn :=
  { conn with registry := { conn.registry with closeWaiter := some waiter } }

def armReadWaiter (waiter : WaiterId) (minBytes : Nat) (readyNow : Bool) (conn : Conn) :
    Except String Conn :=
  if conn.registry.readWaiter.isSome then
    .error "only one read waiter is allowed per TcpConnection"
  else
    let conn := occupyRead waiter minBytes conn
    .ok (if readyNow then queueResume world waiter conn else conn)

def armWriteWaiter (waiter : WaiterId) (readyNow : Bool) (conn : Conn) : Except String Conn :=
  if conn.registry.writeWaiter.isSome then
    .error "only one write waiter is allowed per TcpConnection"
  else
    let conn := occupyWrite waiter conn
    .ok (if readyNow then queueResume world waiter conn else conn)

def armCloseWaiter (waiter : WaiterId) (readyNow : Bool) (conn : Conn) : Except String Conn :=
  if conn.registry.closeWaiter.isSome then
    .error "only one close waiter is allowed per TcpConnection"
  else
    let conn := occupyClose waiter conn
    .ok (if readyNow then queueResume world waiter conn else conn)

def resumeReadWaiterIfSatisfied (readableBytes : Nat) (conn : Conn) : Conn :=
  if readableBytes ≥ conn.registry.minReadBytes then
    queueResumeSlot world conn.registry.readWaiter conn
  else conn

def resumeWriteWaiterIfNeeded (conn : Conn) : Conn :=
  queueResumeSlot world conn.registry.writeWaiter conn

def resumeAllOnClose (conn : Conn) : Conn :=
  let conn := queueResumeSlot world conn.registry.readWaiter conn
  let conn := queueResumeSlot world conn.registry.writeWaiter conn
  queueResumeSlot world conn.registry.closeWaiter conn

def cancelWaiter (waiter : WaiterId) (conn : Conn) : Conn :=
  if (conn.waiters waiter).phase = .pending then
    queueResume world waiter
      (conn.setWaiter waiter { conn.waiters waiter with outcome := .cancelled })
  else conn

def failWaiter (waiter : WaiterId) (failure : String) (conn : Conn) : Conn :=
  queueResume world waiter
    (conn.setWaiter waiter
      { conn.waiters waiter with failure := some failure, outcome := .failed })

/-- The three slot tests at the start of `unregisterWaiter`. -/
def Registry.clear (waiter : WaiterId) (registry : Registry) : Registry :=
  { registry with
    readWaiter := if registry.readWaiter = some waiter then none else registry.readWaiter
    writeWaiter := if registry.writeWaiter = some waiter then none else registry.writeWaiter
    closeWaiter := if registry.closeWaiter = some waiter then none else registry.closeWaiter }

/-- A waiter that has not been resumed is abandoned. -/
def AwaiterState.abandon (state : AwaiterState) : AwaiterState :=
  if state.phase = .pending ∨ state.phase = .queued then
    { state with phase := .abandoned, handle := none }
  else state

def unregisterWaiter (waiter : WaiterId) (conn : Conn) : Conn :=
  let conn := { conn with registry := Registry.clear waiter conn.registry }
  let conn := conn.setWaiter waiter (AwaiterState.abandon (conn.waiters waiter))
  CancellationToken.resetRegistration waiter conn

end ConnectionAwaiterRegistry

end MiniTrantor.Net
