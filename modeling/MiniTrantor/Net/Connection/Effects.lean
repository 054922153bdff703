import MiniTrantor.Net.Connection.Moves

/-!
# Effects of the longer moves

Submission of a payload, resumption of a coroutine, removal of the channel and
the start of the close sequence, each with everything it changes.
-/

set_option autoImplicit false

namespace MiniTrantor.Net

open ConnectionAwaiterRegistry ConnectionBackpressureController TcpConnection

/-! ## What the trace says about bytes -/

/-- Bytes that the transport accepted. -/
def Event.wroteBytes : Event → Bytes
  | .wrote data => data
  | _ => []

/-- Bytes given to `sendInLoop`. -/
def Event.submittedBytes : Event → Bytes
  | .submitted _ data => data
  | _ => []

def Event.isUpdate : Event → Bool
  | .update _ => true
  | _ => false

def Event.isTransfer : Event → Bool
  | .wrote _ => true
  | event => event.isUpdate

/-! ## Submission -/

theorem writeRaw_cases {world : World} {data : Bytes} {conn : Conn}
    (accepted : (ConnectionTransport.writeRaw world data conn).1.status ≠ .kError) :
    (∃ count, ConnectionTransport.writeRaw world data conn =
        ({ status := .kOk, bytes := count }, conn.emit (.wrote (data.take count)))) ∨
      ConnectionTransport.writeRaw world data conn = ({}, conn) ∨
      conn.transport.ssl = true ∧ ConnectionTransport.writeRaw world data conn =
        ({}, conn.updateChannel Channel.enableReading) := by
  unfold ConnectionTransport.writeRaw ConnectionTransport.sslWriteRaw at accepted ⊢
  split at accepted
  case isTrue ssl =>
    split at accepted
    case h_1 count _ => exact .inl ⟨count, by simp only [↓reduceIte, *]⟩
    case h_2 => exact .inr (.inl (by simp only [↓reduceIte, *]))
    case h_3 => exact .inr (.inr ⟨ssl, by simp only [↓reduceIte, *]⟩)
    case h_4 => exact absurd rfl accepted
    case h_5 => exact absurd rfl accepted
  case isFalse plain =>
    simp only [plain, Bool.false_eq_true, ↓reduceIte] at accepted ⊢
    split at accepted
    case h_1 count _ => exact .inl ⟨count, by simp only [*]⟩
    case h_2 errno returned =>
      split at accepted
      case isTrue blocked => exact .inr (.inl (by simp only [blocked, ↓reduceIte]))
      case isFalse => exact absurd rfl accepted

/-- A submitted payload is split into what the transport took at once, possible
only with nothing buffered before it, and what is buffered behind. -/
structure SubmitEffect (origin : Origin) (data : Bytes) (before after : Conn) : Prop where
  intro ::
  split : ∃ sent rest events, data = sent ++ rest ∧
    after.outputBuffer = before.outputBuffer ++ rest ∧
    after.trace = before.trace ++ .submitted origin data :: events ∧
    events.flatMap Event.wroteBytes = sent ∧ (∀ event ∈ events, event.isTransfer = true) ∧
    (events.flatMap Event.wroteBytes ≠ [] → before.outputBuffer = []) ∧
    (rest ≠ [] → after.channel.isWriting = true) ∧
    (rest = [] → after.channel.isWriting = before.channel.isWriting)
  frame : after = { before with
    channel := after.channel, outputBuffer := after.outputBuffer, trace := after.trace }

theorem appendOutput_cases (data : Bytes) (conn : Conn) :
    conn.channel.isWriting = true ∧
        appendOutput data conn = { conn with outputBuffer := conn.outputBuffer ++ data } ∨
      conn.channel.isWriting = false ∧
        appendOutput data conn =
          { conn with outputBuffer := conn.outputBuffer ++ data }.updateChannel
            Channel.enableWriting := by
  simp only [appendOutput]
  split
  case isTrue writing => exact .inl ⟨writing, rfl⟩
  case isFalse idle => exact .inr ⟨by simpa using idle, rfl⟩

/-- Appending the rest of a payload after the events of the direct write. -/
private theorem SubmitEffect.append {origin : Origin} {sent rest : Bytes} {before conn : Conn}
    {events : List Event}
    (trace : conn.trace = before.trace ++ .submitted origin (sent ++ rest) :: events)
    (buffer : conn.outputBuffer = before.outputBuffer)
    (writing : conn.channel.isWriting = before.channel.isWriting)
    (wrote : events.flatMap Event.wroteBytes = sent)
    (transfers : ∀ event ∈ events, event.isTransfer = true)
    (direct : sent ≠ [] → before.outputBuffer = [])
    (frame : conn = { before with channel := conn.channel, trace := conn.trace }) :
    SubmitEffect origin (sent ++ rest) before (appendRest rest conn) := by
  cases rest with
  | nil =>
      refine ⟨⟨sent, [], events, rfl, by simpa [appendRest] using buffer, trace, wrote, transfers,
        wrote ▸ direct, (by simp), fun _ => writing⟩, ?_⟩
      simp only [appendRest, List.isEmpty_nil, ↓reduceIte, buffer]
      exact frame
  | cons byte rest =>
      simp only [appendRest, List.isEmpty_cons, Bool.false_eq_true, ↓reduceIte]
      rcases appendOutput_cases (byte :: rest) conn with ⟨already, appended⟩ | ⟨idle, appended⟩
      · rw [appended]
        refine ⟨⟨sent, byte :: rest, events, rfl, ?_, trace, wrote, transfers, wrote ▸ direct,
          fun _ => already, (by simp)⟩, ?_⟩
        · rw [buffer]
        · rw [frame]
      · rw [appended]
        refine ⟨⟨sent, byte :: rest, events ++ [.update conn.channel.enableWriting.events], rfl, ?_, ?_,
          ?_, ?_, ?_, fun _ => rfl, (by simp)⟩, ?_⟩
        · rw [Conn.updateChannel_outputBuffer, buffer]
        · simp only [Conn.updateChannel_trace, trace, List.append_assoc, List.cons_append]
        · simpa [Event.wroteBytes] using wrote
        · intro event member
          rcases List.mem_append.mp member with old | new
          · exact transfers event old
          · rw [List.mem_singleton.mp new]; rfl
        · intro written
          exact direct (by simpa [Event.wroteBytes, wrote] using written)
        · rw [frame]; rfl

theorem Submits.effect {world : World} {origin : Origin} {data : Bytes} {before after : Conn}
    (submits : Submits world origin data before after) : SubmitEffect origin data before after := by
  cases submits with
  | @direct result written idle empty returned accepted =>
      have ok : (ConnectionTransport.writeRaw world data
          (before.emit (.submitted origin data))).1.status ≠ .kError := by
        rw [returned]; exact accepted
      rcases writeRaw_cases ok with ⟨count, wrote⟩ | blocked | ⟨_, blocked⟩
      · rw [returned] at wrote
        cases wrote
        have effect := @SubmitEffect.append origin (data.take count) (data.drop count) before
          ((before.emit (.submitted origin data)).emit (.wrote (data.take count)))
          [.wrote (data.take count)] (by simp) rfl rfl (by simp [Event.wroteBytes])
          (by simp [Event.isTransfer]) (fun _ => empty) rfl
        rwa [List.take_append_drop] at effect
      · rw [returned] at blocked
        cases blocked
        exact @SubmitEffect.append origin [] data before (before.emit (.submitted origin data)) []
          (by simp) rfl rfl rfl (by simp) (by simp) rfl
      · rw [returned] at blocked
        cases blocked
        exact @SubmitEffect.append origin [] data before
          ((before.emit (.submitted origin data)).updateChannel Channel.enableReading)
          [.update before.channel.enableReading.events] (by simp) rfl rfl rfl
          (by simp [Event.isTransfer, Event.isUpdate]) (by simp) rfl
  | buffered _ =>
      exact @SubmitEffect.append origin [] data before (before.emit (.submitted origin data)) []
        (by simp) rfl rfl rfl (by simp) (by simp) rfl

/-! ## Waiters -/

/-- A waiter after its resumption. -/
def AwaiterState.finished (state : AwaiterState) : AwaiterState :=
  { state with phase := .completed, handle := none, registration := none }

theorem completeWaiter_waiters (waiter : WaiterId) (conn : Conn) :
    (completeWaiter waiter conn).waiters =
      Function.update conn.waiters waiter (conn.waiters waiter).finished := by
  funext other
  by_cases same : other = waiter
  · subst same; simp [completeWaiter, AwaiterState.finished]
  · simp [completeWaiter, same]

theorem unregisterWaiter_waiters (waiter : WaiterId) (conn : Conn) :
    (unregisterWaiter waiter conn).waiters =
      Function.update conn.waiters waiter
        { AwaiterState.abandon (conn.waiters waiter) with registration := none } := by
  funext other
  by_cases same : other = waiter
  · subst same; simp [unregisterWaiter]
  · simp [unregisterWaiter, same]

/-- What an awaitable of the given waiter gives back, and the input it leaves. -/
inductive Returns (conn : Conn) (waiter : WaiterId) (awaitable : Awaitable) :
    AwaitResult → Bytes → Prop where
  | threw {message} : (conn.waiters waiter).failure = some message →
      Returns conn waiter awaitable (.threw message) conn.inputBuffer
  | cancelled : (conn.waiters waiter).failure = none →
      (conn.waiters waiter).outcome = .cancelled →
      Returns conn waiter awaitable (.error .cancelled) conn.inputBuffer
  | closed : awaitable.kind = .read ∨ awaitable.kind = .write → conn.state = .kDisconnected →
      (awaitable.kind = .read → conn.inputBuffer = []) →
      Returns conn waiter awaitable (.error (closeError conn)) conn.inputBuffer
  | nothing : awaitable.kind = .read → (conn.waiters waiter).failure = none →
      (conn.waiters waiter).outcome ≠ .cancelled → conn.state ≠ .kDisconnected →
      conn.inputBuffer.length < awaitable.minBytes ∨ conn.inputBuffer = [] →
      Returns conn waiter awaitable (.value []) conn.inputBuffer
  | consumed : awaitable.kind = .read → (conn.waiters waiter).failure = none →
      (conn.waiters waiter).outcome ≠ .cancelled → conn.inputBuffer ≠ [] →
      awaitable.minBytes ≤ conn.inputBuffer.length ∨ conn.state ≠ .kConnected →
      Returns conn waiter awaitable (.value conn.inputBuffer) []
  | written : awaitable.kind = .write → (conn.waiters waiter).failure = none →
      (conn.waiters waiter).outcome ≠ .cancelled → conn.state ≠ .kDisconnected →
      Returns conn waiter awaitable .done conn.inputBuffer
  | closeSeen : awaitable.kind = .close → Returns conn waiter awaitable .done conn.inputBuffer

/-- The result depends on the waiter only through its failure and its outcome. -/
theorem Returns.of_registry {conn : Conn} {waiter : WaiterId} {awaitable : Awaitable}
    {waiters : WaiterId → AwaiterState} {registry : Registry} {tokens : TokenId → TokenState}
    (failure : (waiters waiter).failure = (conn.waiters waiter).failure)
    (outcome : (waiters waiter).outcome = (conn.waiters waiter).outcome)
    {result : AwaitResult} {input : Bytes}
    (returns : Returns { conn with waiters, registry, tokens } waiter awaitable result input) :
    Returns conn waiter awaitable result input := by
  cases returns with
  | threw failed => exact .threw (failure ▸ failed)
  | cancelled unfailed cancelled => exact .cancelled (failure ▸ unfailed) (outcome ▸ cancelled)
  | closed kind closed empty => exact .closed kind closed empty
  | nothing kind unfailed uncancelled opened short =>
      exact .nothing kind (failure ▸ unfailed) (outcome ▸ uncancelled) opened short
  | consumed kind unfailed uncancelled present enough =>
      exact .consumed kind (failure ▸ unfailed) (outcome ▸ uncancelled) present enough
  | written kind unfailed uncancelled opened =>
      exact .written kind (failure ▸ unfailed) (outcome ▸ uncancelled) opened
  | closeSeen kind => exact .closeSeen kind

theorem resumeReadAwait_returns {conn : Conn} {waiter : WaiterId} {awaitable : Awaitable}
    (kind : awaitable.kind = .read) (unfailed : (conn.waiters waiter).failure = none)
    (uncancelled : (conn.waiters waiter).outcome ≠ .cancelled) :
    ∃ result input, Returns conn waiter awaitable result input ∧
      resumeReadAwait awaitable.minBytes conn = (result, { conn with inputBuffer := input }) := by
  unfold resumeReadAwait
  split
  case isTrue gone =>
    exact ⟨_, _, .closed (.inl kind) gone.1 fun _ => by simpa using gone.2, rfl⟩
  case isFalse present =>
    unfold consumeReadableBytes
    by_cases empty : conn.inputBuffer = []
    · have isEmpty : conn.inputBuffer.isEmpty = true := by simpa using empty
      have opened : conn.state ≠ .kDisconnected := fun closed => present ⟨closed, isEmpty⟩
      refine ⟨_, _, .nothing kind unfailed uncancelled opened (.inr empty), ?_⟩
      simp only [isEmpty, ↓reduceIte]
    · have nonempty : conn.inputBuffer.isEmpty = false := by simpa using empty
      by_cases short : conn.inputBuffer.length < awaitable.minBytes ∧ conn.state = .kConnected
      · have opened : conn.state ≠ .kDisconnected := by rw [short.2]; decide
        refine ⟨_, _, .nothing kind unfailed uncancelled opened (.inl short.1), ?_⟩
        simp only [nonempty, Bool.false_eq_true, if_pos short, ↓reduceIte]
      · have enough : awaitable.minBytes ≤ conn.inputBuffer.length ∨ conn.state ≠ .kConnected := by
          by_cases connected : conn.state = .kConnected
          · exact .inl (Nat.le_of_not_lt fun less => short ⟨less, connected⟩)
          · exact .inr connected
        refine ⟨_, _, .consumed kind unfailed uncancelled empty enough, ?_⟩
        simp only [nonempty, Bool.false_eq_true, if_neg short, ↓reduceIte]

theorem awaitResume_returns {conn : Conn} {waiter : WaiterId} (awaitable : Awaitable)
    (completed : (conn.waiters waiter).phase = .completed) :
    ∃ result input, Returns conn waiter awaitable result input ∧
      awaitResume waiter awaitable conn =
        (result, { unregisterWaiter waiter conn with inputBuffer := input }) := by
  have same : AwaiterState.abandon (conn.waiters waiter) = conn.waiters waiter := by
    simp [AwaiterState.abandon, completed]
  have state : (unregisterWaiter waiter conn).waiters waiter =
      { conn.waiters waiter with registration := none } := by
    rw [unregisterWaiter_waiters, Function.update_self, same]
  have carry := @Returns.of_registry conn waiter awaitable (unregisterWaiter waiter conn).waiters
    (unregisterWaiter waiter conn).registry (unregisterWaiter waiter conn).tokens
    (by rw [state]) (by rw [state])
  unfold awaitResume
  dsimp only
  split
  case h_1 message failed => exact ⟨_, _, carry (.threw failed), rfl⟩
  case h_2 unfailed =>
    split
    case isTrue cancelled => exact ⟨_, _, carry (.cancelled unfailed cancelled), rfl⟩
    case isFalse uncancelled =>
      cases kind : awaitable.kind with
      | read =>
          obtain ⟨result, input, returns, resumed⟩ :=
            resumeReadAwait_returns kind unfailed uncancelled
          exact ⟨result, input, carry returns, resumed⟩
      | write =>
          simp only [resumeWriteAwait]
          split
          case isTrue closed =>
            exact ⟨_, _, carry (.closed (.inr kind) closed fun read => by rw [kind] at read; cases read), rfl⟩
          case isFalse opened =>
            exact ⟨_, _, carry (.written kind unfailed uncancelled opened), rfl⟩
      | close => exact ⟨_, _, carry (.closeSeen kind), rfl⟩

/-- Resumption of a coroutine, with everything it changes. -/
theorem finishAwait_eq (waiter : WaiterId) (awaitable : Awaitable) (conn : Conn) :
    ∃ result input tokens, Returns conn waiter awaitable result input ∧
      finishAwait waiter awaitable conn =
        { conn with
          inputBuffer := input
          registry := Registry.clear waiter conn.registry
          waiters := Function.update conn.waiters waiter (conn.waiters waiter).finished
          tokens
          trace := conn.trace ++ [.awaitFinished waiter awaitable conn.state result,
            .callback (.resumed waiter result)] } := by
  have state : (completeWaiter waiter conn).waiters waiter = (conn.waiters waiter).finished := by
    rw [completeWaiter_waiters, Function.update_self]
  obtain ⟨result, input, returns, resumed⟩ :=
    @awaitResume_returns (completeWaiter waiter conn) waiter awaitable (by rw [state]; rfl)
  have waiters : (unregisterWaiter waiter (completeWaiter waiter conn)).waiters =
      Function.update conn.waiters waiter (conn.waiters waiter).finished := by
    rw [unregisterWaiter_waiters, state, completeWaiter_waiters, Function.update_idem]
    rfl
  refine ⟨result, input, (unregisterWaiter waiter (completeWaiter waiter conn)).tokens, ?_, ?_⟩
  · exact @Returns.of_registry conn waiter awaitable (completeWaiter waiter conn).waiters
      conn.registry (completeWaiter waiter conn).tokens (by rw [state]; rfl) (by rw [state]; rfl)
      _ _ returns
  · simp only [finishAwait, resumed]
    simp only [Conn.emit, List.append_assoc, waiters]
    rfl

/-! ## The channel -/

/-- The end of a drain does nothing, or records it and stops writing. -/
theorem settle_eq (conn : Conn) : settle conn = conn ∨ settle conn =
    { conn with
      channel := conn.channel.disableWriting
      trace := conn.trace ++
        [.checkpoint .drained conn.state, .update conn.channel.disableWriting.events] } := by
  unfold settle
  split
  · exact .inr (by simp [Conn.updateChannel, Conn.emit])
  · exact .inl rfl

/-- Removal disables what is still enabled, and always succeeds. -/
theorem unregisterChannel_eq (conn : Conn) :
    ∃ updates, (∀ event ∈ updates, event.isUpdate = true) ∧
      (conn.channel.events = .none → updates = []) ∧
      unregisterChannel conn =
        { conn with channel := {}, trace := conn.trace ++ updates ++ [.removed] } := by
  by_cases disabled : conn.channel.events = .none
  · refine ⟨[], (by simp), fun _ => rfl, ?_⟩
    simp only [unregisterChannel, disabled, ne_eq, not_true_eq_false, ↓reduceIte, Channel.remove,
      Channel.isNoneEvent, beq_self_eq_true, Conn.emit, List.append_nil]
  · refine ⟨[.update .none], by simp [Event.isUpdate], fun none => absurd none disabled, ?_⟩
    simp only [unregisterChannel, disabled, ne_eq, not_false_eq_true, ↓reduceIte, Channel.remove,
      Channel.isNoneEvent, Conn.updateChannel, Channel.events_disableAll, Conn.emit,
      beq_self_eq_true]

theorem unregisterChannel_state (conn : Conn) : (unregisterChannel conn).state = conn.state := by
  obtain ⟨_, _, _, removed⟩ := unregisterChannel_eq conn
  rw [removed]

@[simp] theorem sslShutdown_ssl (transport : Transport) :
    (ConnectionTransport.sslShutdown transport).ssl = transport.ssl := by
  simp only [ConnectionTransport.sslShutdown]
  split <;> rfl

theorem setReading_isWriting (enabled : Bool) (conn : Conn) :
    (setReading enabled conn).channel.isWriting = conn.channel.isWriting := by
  cases enabled <;> rfl

end MiniTrantor.Net
