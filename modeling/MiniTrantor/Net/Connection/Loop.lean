import MiniTrantor.Net.Connection.State

/-!
# The owner loop's queue and the other threads

Another thread takes part through the connection's `state`, the functor queue
and the cancellation tokens. Its steps are run, in any number and order, just
before the owner reads or pushes shared data. The unsynchronised test and
assignment of `state` in `shutdown` count as one step.
-/

set_option autoImplicit false

namespace MiniTrantor.Net

namespace ConnectionBackpressureController

def validateThresholds (highWaterMark lowWaterMark : Nat) : Except String Unit :=
  if highWaterMark = 0 then
    if lowWaterMark ≠ 0 then
      .error "backpressure low water mark requires a non-zero high water mark"
    else .ok ()
  else if lowWaterMark ≥ highWaterMark then
    .error "backpressure low water mark must be smaller than high water mark"
  else .ok ()

end ConnectionBackpressureController

namespace Remote

@[simps] def begin (thread : ThreadId) (functor : Functor) (conn : Conn) : Conn :=
  { conn with inflight := conn.inflight ++ [(thread, functor)] }

/-- The part of a call from another thread that runs before its push. A thread
that is still inside a call makes no other. `shutdown` tests and stores the state in one
step: no close comes between. -/
def enter (thread : ThreadId) (conn : Conn) : RemoteCall → Conn
  | .send data =>
      if conn.state = .kConnected then
        begin thread (.sendInLoop data) (conn.emit (.accepted data))
      else conn
  | .shutdown =>
      if conn.state = .kConnected then
        begin thread .shutdownInLoop (conn.setState .kDisconnecting)
      else conn
  | .forceClose => begin thread .forceCloseInLoop conn
  | .setBackpressurePolicy high low =>
      match ConnectionBackpressureController.validateThresholds high low with
      | .ok () => begin thread (.setBackpressurePolicyInLoop high low) conn
      | .error _ => conn
  | .await waiter awaitable =>
      if (conn.waiters waiter).phase = .unarmed then
        begin thread (.armWaiter waiter awaitable)
          (conn.setWaiter waiter
            { conn.waiters waiter with handle := some awaitable, phase := .pending })
      else conn.emit (.awaitThrew waiter "a TCP awaitable can only be awaited once")
  | .connectDestroyed => begin thread .connectDestroyed conn
  | .queueInLoop label => begin thread (.user label) conn

def busy (thread : ThreadId) (conn : Conn) : Bool :=
  conn.inflight.any fun entry => entry.1 == thread

def act (conn : Conn) : Remote → Conn
  | .call thread request => if busy thread conn then conn else enter thread conn request
  | .push thread =>
      match conn.inflight.find? fun entry => entry.1 == thread with
      | none => conn
      | some entry =>
          { conn with
            inflight := conn.inflight.erase entry
            queue := conn.queue ++ [entry.2] }
  | .requestCancel token =>
      { conn with
        tokens := Function.update conn.tokens token { conn.tokens token with cancelled := true } }
  | .claimCallbacks token =>
      if (conn.tokens token).cancelled then
        { conn with
          tokens := Function.update conn.tokens token { conn.tokens token with callbacks := [] }
          claimed := conn.claimed ++ (conn.tokens token).callbacks }
      else conn
  | .postCancel =>
      match conn.claimed with
      | [] => conn
      | waiter :: rest => { conn with claimed := rest, queue := conn.queue ++ [.cancelWaiter waiter] }

end Remote

variable (world : World)

/-- Let the other threads run up to the owner's next access to shared data. -/
def sync (conn : Conn) : Conn :=
  (world.others conn).foldl Remote.act conn

namespace EventLoop

def queueInLoop (functor : Functor) (conn : Conn) : Conn :=
  let conn := sync world conn
  { conn with queue := conn.queue ++ [functor] }

end EventLoop

/-- What a step of another thread may record. -/
def Event.isRemote : Event → Bool
  | .accepted _ | .setState _ | .awaitThrew .. => true
  | _ => false

/-- What other threads leave alone: the owner's data, every waiter that is
already awaited, and the state, which they only move to `kDisconnecting`. -/
structure Conn.SharedOnly (before after : Conn) : Prop where
  closeReason : after.closeReason = before.closeReason
  channel : after.channel = before.channel
  inputBuffer : after.inputBuffer = before.inputBuffer
  outputBuffer : after.outputBuffer = before.outputBuffer
  callbacks : after.callbacks = before.callbacks
  backpressure : after.backpressure = before.backpressure
  registry : after.registry = before.registry
  transport : after.transport = before.transport
  state : after.state = before.state ∨
    before.state = .kConnected ∧ after.state = .kDisconnecting
  waiters : ∀ waiter, (before.waiters waiter).phase ≠ .unarmed →
    after.waiters waiter = before.waiters waiter
  trace : ∃ events, after.trace = before.trace ++ events ∧ ∀ event ∈ events, event.isRemote = true

namespace Conn.SharedOnly

/-- Steps that touch neither the state nor a waiter, and record nothing. -/
theorem quiet {before after : Conn} (closeReason : after.closeReason = before.closeReason)
    (channel : after.channel = before.channel) (inputBuffer : after.inputBuffer = before.inputBuffer)
    (outputBuffer : after.outputBuffer = before.outputBuffer)
    (callbacks : after.callbacks = before.callbacks)
    (backpressure : after.backpressure = before.backpressure)
    (registry : after.registry = before.registry) (transport : after.transport = before.transport)
    (state : after.state = before.state) (waiters : after.waiters = before.waiters)
    (trace : after.trace = before.trace) : SharedOnly before after :=
  ⟨closeReason, channel, inputBuffer, outputBuffer, callbacks, backpressure, registry, transport,
    .inl state, fun _ _ => by rw [waiters], [], by rw [trace, List.append_nil], (by simp)⟩

theorem refl (conn : Conn) : SharedOnly conn conn :=
  .quiet rfl rfl rfl rfl rfl rfl rfl rfl rfl rfl rfl

theorem trans {first second third : Conn} (before : SharedOnly first second)
    (after : SharedOnly second third) : SharedOnly first third where
  closeReason := after.closeReason.trans before.closeReason
  channel := after.channel.trans before.channel
  inputBuffer := after.inputBuffer.trans before.inputBuffer
  outputBuffer := after.outputBuffer.trans before.outputBuffer
  callbacks := after.callbacks.trans before.callbacks
  backpressure := after.backpressure.trans before.backpressure
  registry := after.registry.trans before.registry
  transport := after.transport.trans before.transport
  state := by
    rcases after.state with same | ⟨connected, disconnecting⟩
    · rw [same]; exact before.state
    · rcases before.state with same | ⟨_, already⟩
      · exact .inr ⟨same ▸ connected, disconnecting⟩
      · rw [already] at connected; cases connected
  waiters := by
    intro waiter armed
    have same := before.waiters waiter armed
    rw [after.waiters waiter (by rw [same]; exact armed), same]
  trace := by
    obtain ⟨early, trace, remote⟩ := before.trace
    obtain ⟨late, further, others⟩ := after.trace
    refine ⟨early ++ late, by rw [further, trace, List.append_assoc], fun event member => ?_⟩
    rcases List.mem_append.mp member with old | new
    · exact remote event old
    · exact others event new

end Conn.SharedOnly

namespace Remote

theorem begin_sharedOnly (thread : ThreadId) (functor : Functor) (conn : Conn) :
    conn.SharedOnly (begin thread functor conn) :=
  .quiet rfl rfl rfl rfl rfl rfl rfl rfl rfl rfl rfl

theorem enter_sharedOnly (thread : ThreadId) (conn : Conn) (request : RemoteCall) :
    conn.SharedOnly (enter thread conn request) := by
  cases request with
  | send data =>
      simp only [enter]
      split
      · exact ⟨rfl, rfl, rfl, rfl, rfl, rfl, rfl, rfl, .inl rfl, fun _ _ => rfl, [.accepted data], rfl,
          by simp [Event.isRemote]⟩
      · exact .refl conn
  | shutdown =>
      simp only [enter]
      split
      case isTrue connected =>
        exact ⟨rfl, rfl, rfl, rfl, rfl, rfl, rfl, rfl, .inr ⟨connected, rfl⟩, fun _ _ => rfl,
          [.setState .kDisconnecting], rfl, by simp [Event.isRemote]⟩
      case isFalse => exact .refl conn
  | forceClose => exact begin_sharedOnly thread _ conn
  | setBackpressurePolicy high low =>
      simp only [enter]
      split
      · exact begin_sharedOnly thread _ conn
      · exact .refl conn
  | await waiter awaitable =>
      simp only [enter]
      split
      case isTrue unarmed =>
        refine ⟨rfl, rfl, rfl, rfl, rfl, rfl, rfl, rfl, .inl rfl, ?_, [], (List.append_nil _).symm, (by simp)⟩
        intro other armed
        have different : other ≠ waiter := by
          intro same
          exact armed (same ▸ unarmed)
        simp [different]
      case isFalse =>
        exact ⟨rfl, rfl, rfl, rfl, rfl, rfl, rfl, rfl, .inl rfl, fun _ _ => rfl, [.awaitThrew waiter _], rfl,
          by simp [Event.isRemote]⟩
  | connectDestroyed => exact begin_sharedOnly thread _ conn
  | queueInLoop label => exact begin_sharedOnly thread _ conn

theorem act_sharedOnly (conn : Conn) (remote : Remote) : conn.SharedOnly (remote.act conn) := by
  cases remote with
  | call thread request =>
      simp only [act]
      split
      · exact .refl conn
      · exact enter_sharedOnly thread conn request
  | push thread =>
      simp only [act]
      split
      · exact .refl conn
      · exact .quiet rfl rfl rfl rfl rfl rfl rfl rfl rfl rfl rfl
  | requestCancel token =>
      exact .quiet rfl rfl rfl rfl rfl rfl rfl rfl rfl rfl rfl
  | claimCallbacks token =>
      simp only [act]
      split
      · exact .quiet rfl rfl rfl rfl rfl rfl rfl rfl rfl rfl rfl
      · exact .refl conn
  | postCancel =>
      simp only [act]
      split
      · exact .refl conn
      · exact .quiet rfl rfl rfl rfl rfl rfl rfl rfl rfl rfl rfl

end Remote

theorem sync_sharedOnly (conn : Conn) : conn.SharedOnly (sync world conn) := by
  unfold sync
  generalize world.others conn = remotes
  induction remotes generalizing conn with
  | nil => exact .refl conn
  | cons remote remotes ih => exact (Remote.act_sharedOnly conn remote).trans (ih _)

@[simp] theorem sync_closeReason (conn : Conn) :
    (sync world conn).closeReason = conn.closeReason := (sync_sharedOnly world conn).closeReason

@[simp] theorem sync_channel (conn : Conn) :
    (sync world conn).channel = conn.channel := (sync_sharedOnly world conn).channel

@[simp] theorem sync_inputBuffer (conn : Conn) :
    (sync world conn).inputBuffer = conn.inputBuffer := (sync_sharedOnly world conn).inputBuffer

@[simp] theorem sync_outputBuffer (conn : Conn) :
    (sync world conn).outputBuffer = conn.outputBuffer := (sync_sharedOnly world conn).outputBuffer

@[simp] theorem sync_callbacks (conn : Conn) :
    (sync world conn).callbacks = conn.callbacks := (sync_sharedOnly world conn).callbacks

@[simp] theorem sync_backpressure (conn : Conn) :
    (sync world conn).backpressure = conn.backpressure := (sync_sharedOnly world conn).backpressure

@[simp] theorem sync_registry (conn : Conn) :
    (sync world conn).registry = conn.registry := (sync_sharedOnly world conn).registry

@[simp] theorem sync_transport (conn : Conn) :
    (sync world conn).transport = conn.transport := (sync_sharedOnly world conn).transport

end MiniTrantor.Net
