import MiniTrantor.Net.Session.FailClosed

/-!
# Repeating SSL_write

OpenSSL wants a call of `SSL_write` that did not get through to be repeated from
the same memory. The first attempt of a payload is made from the memory of its
sender and the next one from the output buffer, so a first attempt that does not
get through is not repeated as it should be. An attempt from the buffer is, unless
an append moves what is in the buffer or makes it too long for an `int`.
-/

set_option autoImplicit false

namespace MiniTrantor.Net.Session

variable {before after session next : Session}

/-- One call of `SSL_write`. -/
structure WriteCall where
  address : Address
  data : Bytes
  length : Int
  result : Except SslError Nat

def Event.writeCall : Event → Option WriteCall
  | .sslWrite address data length result => some { address, data, length, result }
  | _ => none

/-- The calls of `SSL_write`, in order. -/
def writeCalls (session : Session) : List WriteCall := session.trace.filterMap Event.writeCall

/-- A call that did not get through is repeated by the next. -/
def Repeats (first second : WriteCall) : Prop :=
  wants first.result = true → second.address = first.address ∧ first.length ≤ second.length ∧
    first.data <+: second.data

/-- The last call is still to be repeated. -/
def retryPending (session : Session) : Bool :=
  match session.writeCalls.getLast? with
  | some call => wants call.result
  | none => false

/-- The payload that an action gives to `sendInLoop` while the connection is open. -/
def payload (session : Session) : Action → Option (Bytes × Calls)
  | .send _ data calls => if session.state = .kConnected then some (data, calls) else none
  | .asyncWrite _ data calls =>
      if session.state = .kDisconnected then none else some (data, calls)
  | .functor calls =>
      match session.queue with
      | .sendInLoop _ data :: _ =>
          if session.state = .kDisconnected then none else some (data, calls)
      | _ => none
  | _ => none

/-- A payload that is written at once gets through or fails, and one that is appended
while a call is to be repeated leaves the buffer in its place and its length, taken as an
`int`, no smaller. -/
structure Placed (session : Session) (data : Bytes) (calls : Calls) : Prop where
  direct : session.channel.isWriting = false → session.outputBuffer.readable = [] →
    wants (calls.sslWrite data (ConnectionTransport.toInt data.length)) = false
  appended : session.retryPending = true → data ≠ [] →
    session.outputBuffer.stays data.length = true ∧
      ConnectionTransport.toInt session.outputBuffer.readable.length ≤
        ConnectionTransport.toInt (session.outputBuffer.readable.length + data.length)

def InPlace (session : Session) (action : Action) : Prop :=
  ∀ sent ∈ session.payload action, Placed session sent.1 sent.2

theorem writeCalls_emit (address : Address) (data : Bytes) (length : Int)
    (result : Except SslError Nat) (session : Session) :
    (session.emit (.sslWrite address data length result)).writeCalls =
      session.writeCalls ++ [.mk address data length result] := by
  simp [writeCalls, Session.emit, List.filterMap_append, Event.writeCall]

theorem getLast_emit {address : Address} {data : Bytes} {length : Int}
    {result : Except SslError Nat} {call : WriteCall}
    (last : call ∈ (session.emit (.sslWrite address data length result)).writeCalls.getLast?) :
    .mk address data length result = call := by
  rw [writeCalls_emit] at last
  simpa using last

/-- The invariant: a call that is to be repeated was made from the front of the buffer. -/
structure Repeating (session : Session) : Prop where
  ssl : session.ssl = true
  chain : session.writeCalls.IsChain Repeats
  pending : ∀ call ∈ session.writeCalls.getLast?, wants call.result = true →
    call.address = session.outputBuffer.peek ∧ call.data <+: session.outputBuffer.readable ∧
      call.length ≤ ConnectionTransport.toInt session.outputBuffer.readable.length ∧
        session.outputBuffer.readable ≠ []

namespace Repeating

theorem same (repeating : Repeating before) (ssl : after.ssl = before.ssl)
    (calls : after.writeCalls = before.writeCalls)
    (outputBuffer : after.outputBuffer = before.outputBuffer) : Repeating after := by
  refine ⟨ssl.trans repeating.ssl, calls ▸ repeating.chain, ?_⟩
  rw [calls, outputBuffer]
  exact repeating.pending

theorem emit (repeating : Repeating session) {event : Event} (other : event.writeCall = none) :
    Repeating (session.emit event) := by
  refine repeating.same rfl ?_ rfl
  simp [writeCalls, Session.emit, List.filterMap_append, other]

theorem quiet (repeating : Repeating before) (quiet : Quiet before after) : Repeating after :=
  repeating.same quiet.ssl (by rw [writeCalls, quiet.trace]; rfl) quiet.outputBuffer

theorem closing (repeating : Repeating before) (closing : Closing before after) :
    Repeating after :=
  repeating.same closing.ssl (by rw [writeCalls, closing.trace]; rfl) closing.outputBuffer

theorem ending (repeating : Repeating before) (ending : Ending before after) : Repeating after := by
  refine repeating.same ending.ssl ?_ ending.outputBuffer
  rw [writeCalls, ending.trace]
  simp [writeCalls, List.filterMap_append, Event.writeCall]

theorem handleClose (repeating : Repeating session) : Repeating session.handleClose := by
  rcases session.handleClose_shape with same | closing
  · rw [same]
    exact repeating
  · exact repeating.closing closing

/-- A new call: it repeats the last one if that is to be repeated, and if it is to be
repeated itself it was made from the front of the buffer. -/
theorem call (repeating : Repeating session) {address : Address} {data : Bytes} {length : Int}
    {result : Except SslError Nat}
    (repeats : ∀ call ∈ session.writeCalls.getLast?,
      Repeats call (.mk address data length result))
    (front : wants result = true → address = session.outputBuffer.peek ∧
      data = session.outputBuffer.readable ∧ length = ConnectionTransport.toInt data.length ∧
        data ≠ []) :
    Repeating (session.emit (.sslWrite address data length result)) := by
  refine ⟨repeating.ssl, ?_, ?_⟩
  · rw [writeCalls_emit, List.isChain_append]
    refine ⟨repeating.chain, .singleton _, fun call last other first => ?_⟩
    cases first
    exact repeats call last
  · intro call last wanted
    cases getLast_emit last
    obtain ⟨rfl, rfl, rfl, some⟩ := front wanted
    exact ⟨rfl, List.prefix_refl _, Int.le_refl _, some⟩

/-- Nothing is to be repeated while the buffer is empty. -/
theorem settled (repeating : Repeating session) (empty : session.outputBuffer.readable = [])
    {call : WriteCall} (last : call ∈ session.writeCalls.getLast?) : wants call.result = false := by
  by_contra wanted
  obtain ⟨_, _, _, left⟩ := repeating.pending call last (by simpa using wanted)
  exact left empty

/-- The payload is appended while nothing is to be repeated, or it moves nothing. -/
theorem bufferOutput (repeating : Repeating session) {data : Bytes}
    (stays : ∀ call ∈ session.writeCalls.getLast?, wants call.result = true →
      session.outputBuffer.stays data.length = true ∧
      ConnectionTransport.toInt session.outputBuffer.readable.length ≤
        ConnectionTransport.toInt (session.outputBuffer.readable.length + data.length)) :
    Repeating (session.bufferOutput data) := by
  have held : Repeating (session.buffered data) := by
    refine ⟨repeating.ssl, repeating.chain, fun call last wanted => ?_⟩
    obtain ⟨address, start, length, some⟩ := repeating.pending call last wanted
    obtain ⟨stays, longer⟩ := stays call last wanted
    have contents : (session.buffered data).outputBuffer.readable =
        session.outputBuffer.readable ++ data := Buffer.append_readable data session.outputBuffer
    rw [contents, List.length_append]
    refine ⟨?_, start.trans (List.prefix_append ..), length.trans longer, ?_⟩
    · exact address.trans ((Buffer.append_peek_iff data session.outputBuffer).mpr stays).symm
    · simp [some]
  exact held.quiet (bufferOutput_quiet data session)

/-- What the call returns is what was asked of it, or a failure. -/
theorem wants_sslWrite (calls : Calls) (address : Address) (data : Bytes) (session : Session) :
    wants (session.sslWrite calls address data).1 =
      wants (calls.sslWrite data (ConnectionTransport.toInt data.length)) := by
  simp only [sslWrite]
  split
  case h_1 equation =>
    rw [equation]
    split <;> rfl
  case h_2 equation => rw [equation]

theorem sendInLoop (repeating : Repeating session) {calls : Calls} (pointer : Nat) {data : Bytes}
    (placed : session.state ≠ .kDisconnected → Placed session data calls) :
    Repeating (session.sendInLoop calls pointer data) := by
  by_cases closed : session.state = .kDisconnected
  · rw [Session.sendInLoop, if_pos closed]
    exact repeating
  have placed := placed closed
  have written : ∀ {left : Option Bytes} {written : Session},
      session.channel.isWriting = false → session.outputBuffer.readable = [] →
      session.writeRaw calls pointer data = (left, written) → Repeating written ∧
        ∀ call ∈ written.writeCalls.getLast?, wants call.result = false := by
    intro left written idle empty raw
    obtain ⟨result, _, returned, quiet⟩ := writeRaw_ssl repeating.ssl raw
    have through : wants result = false := by
      rw [returned, wants_sslWrite]
      exact placed.direct idle empty
    have recorded : Repeating (session.emit (.sslWrite (.caller pointer) data
        (ConnectionTransport.toInt data.length) result)) := by
      refine repeating.call (fun call last wanted => ?_) fun wanted => ?_
      · cases (repeating.settled empty last).symm.trans wanted
      · cases through.symm.trans wanted
    refine ⟨recorded.quiet quiet, fun call last => ?_⟩
    rw [writeCalls, quiet.trace] at last
    cases getLast_emit last
    exact through
  have sends := sendInLoop_sends calls pointer data session
  generalize session.sendInLoop calls pointer data = sent at sends ⊢
  cases sends with
  | nothing => exact repeating
  | behind busy some =>
      refine repeating.bufferOutput fun call last wanted => placed.appended ?_ some
      simp only [retryPending]
      rw [Option.mem_def.mp last]
      exact wanted
  | failed idle empty raw => exact (written idle empty raw).1.handleClose
  | finished idle empty raw => exact (written idle empty raw).1.quiet (.finishPendingWrite _)
  | rest idle empty raw left =>
      obtain ⟨repeating, through⟩ := written idle empty raw
      refine repeating.bufferOutput fun call last wanted => ?_
      cases (through call last).symm.trans wanted

/-- The loop writes from the front of the buffer, so it repeats what is to be repeated. -/
theorem sslWriteLoop (calls : Calls) (fuel totalWritten : Nat) (repeating : Repeating session) :
    Repeating (Session.sslWriteLoop calls fuel totalWritten session).2 := by
  induction fuel generalizing totalWritten session with
  | zero => exact repeating
  | succ fuel ih =>
      rw [Session.sslWriteLoop]
      split
      · exact repeating
      case isFalse left =>
        have some : session.outputBuffer.readable ≠ [] := by
          intro empty
          exact left (by simp [Buffer.readableBytes, empty])
        have recorded : ∀ result, Repeating (session.emit (.sslWrite session.outputBuffer.peek
            session.outputBuffer.readable
            (ConnectionTransport.toInt session.outputBuffer.readable.length) result)) := by
          intro result
          refine repeating.call (fun call last wanted => ?_) fun _ => ⟨rfl, rfl, rfl, some⟩
          obtain ⟨address, start, length, _⟩ := repeating.pending call last wanted
          exact ⟨address.symm, length, start⟩
        split
        all_goals
          rename_i returned
          have emitted := sslWrite_recorded returned
          subst emitted
        · refine ih _ ⟨repeating.ssl, (recorded _).chain, fun call last wanted => ?_⟩
          -- the call that took something is not repeated
          cases getLast_emit last
          cases wanted
        · exact recorded _
        · exact (recorded _).same rfl rfl rfl
        · exact recorded _

theorem advanceTransportHandshake (repeating : Repeating session) (calls : Calls) :
    Repeating (session.advanceTransportHandshake calls) := by
  have recorded := @emit _ repeating (.sslDoHandshake calls.sslDoHandshake) rfl
  unfold Session.advanceTransportHandshake
  dsimp only
  split
  · exact recorded.same rfl rfl rfl
  · split
    · exact recorded
    · exact recorded.same rfl rfl rfl
  · exact recorded.same rfl rfl rfl
  · exact recorded.same rfl rfl rfl
  · exact recorded.same rfl rfl rfl

theorem handleRead (repeating : Repeating session) (calls : Calls) :
    Repeating (session.handleRead calls) := by
  have recorded := @emit _ repeating (.sslRead calls.sslRead.2) rfl
  unfold Session.handleRead sslReadIntoBuffer
  rw [if_pos repeating.ssl]
  split
  · exact repeating.advanceTransportHandshake calls
  · dsimp only
    split
    · split
      · exact recorded
      · exact recorded.same rfl rfl rfl
    · split
      · exact recorded.same rfl rfl rfl
      · exact recorded.same rfl rfl rfl
    · split
      · exact recorded.handleClose
      · exact recorded.same rfl rfl rfl
    · split
      · exact recorded.handleClose
      · exact recorded.same rfl rfl rfl

theorem handleWrite (repeating : Repeating session) (calls : Calls) :
    Repeating (session.handleWrite calls) := by
  unfold Session.handleWrite
  split
  · exact repeating.advanceTransportHandshake calls
  · split
    · exact repeating
    · have drained : Repeating (session.writeFromBuffer calls).2 := by
        rw [writeFromBuffer, if_pos repeating.ssl]
        exact repeating.sslWriteLoop ..
      split
      all_goals
        rename_i equation
        rw [equation] at drained
      · exact drained.handleClose
      · exact drained.quiet (.apply (by simp) _)
      · exact drained

theorem emitIf (repeating : Repeating session) (wanted : Bool) {event : Event}
    (other : event.writeCall = none) :
    Repeating (if wanted then session.emit event else session) := by
  cases wanted with
  | false => exact repeating
  | true => exact repeating.emit other

theorem resume (repeating : Repeating session) (calls : Calls) (frame : Frame) :
    Repeating (frame.resume calls session) := by
  cases frame with
  | applied function event =>
      cases function with
      | last => exact repeating
      | handleWrite =>
          simp only [Frame.resume, wrote]
          split
          · have disabled : Repeating (session.updateChannel Channel.disableWriting) :=
              repeating.same rfl rfl rfl
            exact disabled.quiet (.finishPendingWrite _)
          · exact repeating
      | connectEstablished =>
          simp only [Frame.resume]
          split
          · exact repeating.advanceTransportHandshake calls
          · exact (@emit _ repeating .notifyConnected rfl).same rfl rfl rfl
  | handshakeFailed errno runs => exact repeating.handleClose
  | handshakeCompleted runs => exact (@emit _ repeating .notifyConnected rfl).same rfl rfl rfl
  | notify notice => exact (repeating.emitIf session.hooks.connectionEvent rfl).same rfl rfl rfl
  | connectionEvent notice runs =>
      exact (repeating.emitIf session.hooks.connection rfl).same rfl rfl rfl
  | connectionCallback notice runs =>
      cases notice with
      | connected => exact repeating
      | disconnected destroying =>
          cases destroying with
          | true => exact repeating.ending (unregisterChannel_ending session)
          | false => exact repeating.same rfl rfl rfl
  | close runs => exact repeating
  | message runs => exact repeating

theorem connectDestroyed (repeating : Repeating session) : Repeating session.connectDestroyed := by
  rcases session.connectDestroyed_shape with ending | closing
  · exact repeating.ending ending
  · exact repeating.closing closing

theorem forceCloseInLoop (repeating : Repeating session) : Repeating session.forceCloseInLoop := by
  rcases session.forceCloseInLoop_shape with same | closing
  · rw [same]
    exact repeating
  · exact repeating.closing closing

theorem moves (repeating : Repeating session) {action : Action} (inPlace : InPlace session action)
    (moves : Moves session action next) : Repeating next := by
  cases moves with
  | skip => exact repeating
  | @send pointer data calls _ connected =>
      refine repeating.sendInLoop pointer fun _ => inPlace (data, calls) ?_
      simp [payload, connected]
  | @asyncWrite pointer data calls _ opened =>
      refine repeating.sendInLoop pointer fun _ => inPlace (data, calls) ?_
      simp [payload, opened]
  | shutdown => exact repeating.quiet (.shutdown session)
  | forceClose => exact repeating.forceCloseInLoop
  | policy => exact repeating.quiet (.policy _ _ session)
  | connectDestroyed => exact repeating.connectDestroyed
  | request request => exact repeating.quiet (.request session request)
  | @functor calls functor rest _ queued =>
      have popped : Repeating { session with queue := rest } := repeating.same rfl rfl rfl
      cases functor with
      | sendInLoop pointer data =>
          refine popped.sendInLoop pointer fun opened => ?_
          have opened : session.state ≠ .kDisconnected := opened
          obtain ⟨direct, appended⟩ := inPlace (data, calls) (by simp [payload, queued, opened])
          exact ⟨direct, appended⟩
      | shutdownInLoop => exact popped.quiet (.shutdownInLoop _)
      | forceCloseInLoop => exact popped.forceCloseInLoop
      | setBackpressurePolicyInLoop high low => exact popped.quiet (.policy high low _)
      | connectDestroyed => exact popped.connectDestroyed
  | dispatch => exact repeating.same rfl rfl rfl
  | @handle calls handler rest =>
      have popped : Repeating { session with handlers := rest } := repeating.same rfl rfl rfl
      cases handler with
      | handleClose => exact popped.handleClose
      | handleError => exact popped.handleClose
      | handleRead => exact popped.handleRead calls
      | handleWrite => exact popped.handleWrite calls
  | @resume calls frame rest top =>
      have popped : Repeating { session with stack := rest } := repeating.same rfl rfl rfl
      exact popped.resume calls frame

end Repeating

theorem startedTls_repeating (hooks : Hooks) (high low : Nat) {fd : Nat} (within : fd ≤ maxInt) :
    Repeating (startedTls hooks high low fd true) := by
  have enabled : (create hooks high low).startTls fd true =
      { create hooks high low with ssl := true, tlsState := .kTlsHandshaking } := by
    simp [startTls, Nat.not_lt.mpr within]
  rw [startedTls_eq, enabled]
  exact ⟨rfl, by simp [writeCalls, create], by simp [writeCalls, create]⟩

theorem write_retry {hooks : Hooks} {high low fd : Nat} (within : fd ≤ maxInt)
    (reach : Reach step InPlace (startedTls hooks high low fd true) session) :
    session.writeCalls.IsChain Repeats := by
  have repeating : Repeating session := by
    refine reach.invariant (startedTls_repeating hooks high low within) ?_
    exact fun _ _ _ repeating inPlace taken => repeating.moves inPlace (step_moves taken)
  exact repeating.chain

instance (session : Session) (data : Bytes) (calls : Calls) :
    Decidable (Placed session data calls) :=
  decidable_of_iff ((_ → _ → _) ∧ (_ → _ → _))
    ⟨fun placed => ⟨placed.1, placed.2⟩, fun placed => ⟨placed.direct, placed.appended⟩⟩

instance (session : Session) (action : Action) : Decidable (InPlace session action) :=
  inferInstanceAs (Decidable (∀ sent ∈ session.payload action, Placed session sent.1 sent.2))

/-- Two of three bytes stay in the buffer, their write has to be repeated, and another byte
comes behind them before it is. -/
def inPlaceRun : List Action :=
  [.resume {}, .resume {}, .resume {}, .resume {}, .resume {},
    .send 0 [1, 2, 3] { sslWrite := fun _ _ => .ok 1 }, .resume {},
    .dispatch { write := true }, .handle { sslWrite := fun _ _ => .error .wantWrite },
    .send 1 [4] {}, .resume {}, .dispatch { write := true }, .handle {}]

theorem write_retry_in_place :
    ∃ session, run (checked step InPlace) (startedTls {} 0 0 3 true) inPlaceRun = some session ∧
      session.writeCalls.map WriteCall.data = [[1, 2, 3], [2, 3], [2, 3, 4]] ∧
      session.writeCalls.IsChain Repeats := by
  have final : ∃ session, run (checked step InPlace) (startedTls {} 0 0 3 true) inPlaceRun =
      some session ∧
      session.writeCalls.map WriteCall.data = [[1, 2, 3], [2, 3], [2, 3, 4]] := ⟨_, rfl, rfl⟩
  obtain ⟨session, ran, written⟩ := final
  exact ⟨session, ran, written, write_retry (by decide) (.checked .start ran)⟩

/-- The write of a payload has to be repeated, and is made from the buffer the next time. -/
def movedRun : List Action :=
  [.resume {}, .resume {}, .resume {}, .resume {}, .resume {},
    .send 0 [1] { sslWrite := fun _ _ => .error .wantWrite }, .resume {},
    .dispatch { write := true }, .handle {}]

theorem write_retry_moved :
    ∃ session, run step (startedTls {} 0 0 3 true) movedRun = some session ∧
      session.writeCalls.map WriteCall.address = [.caller 0, .storage 0 8] ∧
      ¬ session.writeCalls.IsChain Repeats := by
  refine ⟨_, rfl, rfl, fun chain => ?_⟩
  have repeats := List.isChain_pair.mp chain
  obtain ⟨moved, _⟩ := repeats rfl
  cases moved

end MiniTrantor.Net.Session
