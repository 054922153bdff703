import MiniTrantor.Net.Session.Shapes
import MiniTrantor.Reachability
import MiniTrantor.Trace

/-!
# What TLS protects

Whether a connection uses TLS is told by `ssl_` alone. Once `enableTls` has set it,
no byte goes to the plain socket and the connection is announced only after its
handshake; when it could not be set, the connection goes on in the clear.
-/

set_option autoImplicit false

namespace MiniTrantor.Net.Session

open Trace (Follows)

variable {before after session next : Session}

/-- A handshake that succeeded. -/
def Event.isHandshake : Event → Bool
  | .sslDoHandshake none => true
  | _ => false

/-- What must not happen before it: the notification, and bytes for the plain socket. -/
def Event.isExposed : Event → Bool
  | .write _ | .notifyConnected => true
  | _ => false

/-- The handshake has succeeded. -/
def Shaken (session : Session) : Prop := ∃ event ∈ session.trace, event.isHandshake = true

/-- A connection with TLS. -/
structure Secured (session : Session) : Prop where
  ssl : session.ssl = true
  shaking : session.tlsState = .kTlsHandshaking ∨ Shaken session
  completed : ∀ runs, .handshakeCompleted runs ∈ session.stack → Shaken session
  ordered : Follows Event.isHandshake Event.isExposed session.trace

theorem Shaken.grow {events : List Event} (trace : after.trace = before.trace ++ events)
    (shaken : Shaken before) : Shaken after := by
  obtain ⟨event, member, success⟩ := shaken
  exact ⟨event, by rw [trace]; exact List.mem_append_left _ member, success⟩

namespace Secured

/-- A change of a secured connection that announces nothing. -/
theorem change (secured : Secured before) {events : List Event} (ssl : after.ssl = before.ssl)
    (tlsState : before.tlsState = .kTlsHandshaking → after.tlsState = .kTlsHandshaking ∨ Shaken after)
    (stack : ∀ runs, .handshakeCompleted runs ∈ after.stack →
      .handshakeCompleted runs ∈ before.stack ∨ Shaken after)
    (trace : after.trace = before.trace ++ events)
    (hidden : ∀ event ∈ events, event.isExposed = true → Shaken before) : Secured after := by
  refine ⟨ssl.trans secured.ssl, ?_, ?_, ?_⟩
  · rcases secured.shaking with waits | shaken
    · exact tlsState waits
    · exact .inr (shaken.grow trace)
  · intro runs member
    rcases stack runs member with old | shaken
    · exact (secured.completed runs old).grow trace
    · exact shaken
  · rw [trace]
    exact secured.ordered.append hidden

theorem emit (secured : Secured session) {event : Event} (hidden : event.isExposed = false) :
    Secured (session.emit event) := by
  refine secured.change rfl .inl (fun _ => .inl) rfl ?_
  intro other member exposed
  rw [List.mem_singleton.mp member, hidden] at exposed
  cases exposed

theorem same (secured : Secured before) (ssl : after.ssl = before.ssl)
    (tlsState : after.tlsState = before.tlsState)
    (stack : ∀ runs, .handshakeCompleted runs ∈ after.stack → .handshakeCompleted runs ∈ before.stack)
    (trace : after.trace = before.trace) : Secured after :=
  secured.change ssl (fun waits => .inl (tlsState.trans waits)) (fun runs member =>
    .inl (stack runs member)) (trace.trans (List.append_nil _).symm) (by simp)

theorem quiet (secured : Secured before) (quiet : Quiet before after) : Secured after := by
  refine secured.change quiet.ssl ?_ ?_ (quiet.trace.trans (List.append_nil _).symm) (by simp)
  · intro waits
    rcases quiet.tlsState with same | ⟨established, _⟩
    · exact .inl (same.trans waits)
    · cases waits.symm.trans established
  · intro runs member
    obtain ⟨frames, grown, routine⟩ := quiet.stack
    rw [grown] at member
    rcases List.mem_append.mp member with pushed | old
    · cases routine _ pushed
    · exact .inl old

theorem closing (secured : Secured before) (closing : Closing before after) : Secured after := by
  refine secured.same closing.ssl closing.tlsState ?_ closing.trace
  intro runs member
  obtain ⟨destroying, grown⟩ := closing.stack
  rw [grown] at member
  exact (List.mem_cons.mp member).resolve_left (by simp)

theorem ending (secured : Secured before) (ending : Ending before after) : Secured after := by
  refine secured.change ending.ssl (fun waits => .inl (ending.tlsState.trans waits))
    (fun runs member => .inl (ending.stack ▸ member)) ending.trace ?_
  intro event member exposed
  rw [List.mem_singleton.mp member] at exposed
  cases exposed

theorem handleClose (secured : Secured session) : Secured session.handleClose := by
  rcases session.handleClose_shape with same | closing
  · rw [same]
    exact secured
  · exact secured.closing closing

theorem bufferOutput (secured : Secured session) (data : Bytes) :
    Secured (session.bufferOutput data) := by
  have held : Secured (session.buffered data) := secured.same rfl rfl (fun _ member => member) rfl
  exact held.quiet (bufferOutput_quiet data session)

theorem sendInLoop (secured : Secured session) (calls : Calls) (pointer : Nat) (data : Bytes) :
    Secured (session.sendInLoop calls pointer data) := by
  have written : ∀ {left : Option Bytes} {written : Session},
      session.writeRaw calls pointer data = (left, written) → Secured written := by
    intro left written raw
    obtain ⟨result, _, _, quiet⟩ := writeRaw_ssl secured.ssl raw
    exact (secured.emit rfl).quiet quiet
  have sends := sendInLoop_sends calls pointer data session
  generalize session.sendInLoop calls pointer data = sent at sends ⊢
  cases sends with
  | nothing => exact secured
  | behind => exact secured.bufferOutput data
  | failed _ _ raw => exact (written raw).handleClose
  | finished _ _ raw => exact (written raw).quiet (.finishPendingWrite _)
  | rest _ _ raw _ => exact (written raw).bufferOutput _

theorem sslWriteLoop (calls : Calls) (fuel totalWritten : Nat) (secured : Secured session) :
    Secured (Session.sslWriteLoop calls fuel totalWritten session).2 := by
  induction fuel generalizing totalWritten session with
  | zero => exact secured
  | succ fuel ih =>
      rw [Session.sslWriteLoop]
      split
      · exact secured
      · have recorded : Secured (session.sslWrite calls session.outputBuffer.peek
            session.outputBuffer.readable).2 := secured.emit rfl
        split
        all_goals
          rename_i equation
          rw [equation] at recorded
        · exact ih _ (recorded.same rfl rfl (fun _ member => member) rfl)
        · exact recorded
        · exact recorded.same rfl rfl (fun _ member => member) rfl
        · exact recorded

theorem advanceTransportHandshake (secured : Secured session) (calls : Calls) :
    Secured (session.advanceTransportHandshake calls) := by
  have recorded : Secured (session.emit (.sslDoHandshake calls.sslDoHandshake)) := secured.emit rfl
  unfold Session.advanceTransportHandshake
  dsimp only
  split
  case h_1 success =>
    have shaken : Shaken (session.emit (.sslDoHandshake calls.sslDoHandshake)) := by
      refine ⟨_, List.mem_append_right _ (List.mem_singleton.mpr rfl), ?_⟩
      rw [success]
      rfl
    exact recorded.change rfl (fun _ => .inr shaken) (fun _ _ => .inr shaken)
      (List.append_nil _).symm (by simp)
  · split
    · exact recorded
    · exact recorded.same rfl rfl (fun _ member => member) rfl
  · exact recorded.same rfl rfl (fun _ member => member) rfl
  · exact recorded.same rfl rfl (fun _ member => (List.mem_cons.mp member).resolve_left (by simp)) rfl
  · exact recorded.same rfl rfl (fun _ member => (List.mem_cons.mp member).resolve_left (by simp)) rfl

theorem pushed (secured : Secured session) {frame : Frame}
    (other : ∀ runs, frame ≠ .handshakeCompleted runs) : Secured (session.push frame) :=
  secured.same rfl rfl (fun runs member => (List.mem_cons.mp member).resolve_left
    fun same => other runs same.symm) rfl

theorem sslReadIntoBuffer (secured : Secured session) (calls : Calls) :
    Secured (session.sslReadIntoBuffer calls) := by
  have recorded : Secured (session.emit (.sslRead calls.sslRead.2)) := secured.emit rfl
  have received := @pushed _ recorded (.message session.hooks.message) (by simp)
  unfold Session.sslReadIntoBuffer
  dsimp only
  split
  · split
    · exact recorded
    · exact received
  · split
    · exact recorded.same rfl rfl (fun _ member => member) rfl
    · exact received.same rfl rfl (fun _ member => member) rfl
  · split
    · exact recorded.handleClose
    · exact received
  · split
    · exact recorded.handleClose
    · exact received

theorem handleRead (secured : Secured session) (calls : Calls) :
    Secured (session.handleRead calls) := by
  unfold Session.handleRead
  rw [if_pos secured.ssl]
  split
  · exact secured.advanceTransportHandshake calls
  · exact secured.sslReadIntoBuffer calls

theorem handleWrite (secured : Secured session) (calls : Calls) :
    Secured (session.handleWrite calls) := by
  unfold Session.handleWrite
  split
  · exact secured.advanceTransportHandshake calls
  · split
    · exact secured
    · have drained : Secured (session.writeFromBuffer calls).2 := by
        rw [writeFromBuffer, if_pos secured.ssl]
        exact secured.sslWriteLoop ..
      split
      all_goals
        rename_i equation
        rw [equation] at drained
      · exact drained.handleClose
      · exact drained.quiet (.apply (by simp) _)
      · exact drained

theorem notifyConnected (secured : Secured session) (shaken : Shaken session) :
    Secured session.notifyConnected := by
  refine secured.change rfl .inl ?_ rfl (fun _ _ _ => shaken)
  exact fun _ member => .inl ((List.mem_cons.mp member).resolve_left (by simp))

theorem emitIf (secured : Secured session) (wanted : Bool) {event : Event}
    (hidden : event.isExposed = false) : Secured (if wanted then session.emit event else session) := by
  cases wanted with
  | false => exact secured
  | true => exact secured.emit hidden

/-- The frame was on the top of the stack. -/
theorem resume (secured : Secured session) {frame : Frame}
    (completed : ∀ runs, frame = .handshakeCompleted runs → Shaken session) (calls : Calls) :
    Secured (frame.resume calls session) := by
  cases frame with
  | applied function event =>
      cases function with
      | last => exact secured
      | handleWrite =>
          simp only [Frame.resume, wrote]
          split
          · have disabled : Secured (session.updateChannel Channel.disableWriting) :=
              secured.same rfl rfl (fun _ member => member) rfl
            exact disabled.quiet (.finishPendingWrite _)
          · exact secured
      | connectEstablished =>
          simp only [Frame.resume]
          split
          case isTrue => exact secured.advanceTransportHandshake calls
          case isFalse settled =>
            refine secured.notifyConnected (secured.shaking.resolve_left fun waits => settled ?_)
            simp [handshakePending, secured.ssl, waits]
  | handshakeFailed errno runs => exact secured.handleClose
  | handshakeCompleted runs => exact secured.notifyConnected (completed runs rfl)
  | notify notice => exact (secured.emitIf _ rfl).pushed (by simp)
  | connectionEvent notice runs => exact (secured.emitIf _ rfl).pushed (by simp)
  | connectionCallback notice runs =>
      cases notice with
      | connected => exact secured
      | disconnected destroying =>
          cases destroying with
          | true => exact secured.ending (unregisterChannel_ending session)
          | false => exact secured.pushed (by simp)
  | close runs => exact secured
  | message runs => exact secured

theorem connectDestroyed (secured : Secured session) : Secured session.connectDestroyed := by
  rcases session.connectDestroyed_shape with ending | closing
  · exact secured.ending ending
  · exact secured.closing closing

theorem forceCloseInLoop (secured : Secured session) : Secured session.forceCloseInLoop := by
  rcases session.forceCloseInLoop_shape with same | closing
  · rw [same]
    exact secured
  · exact secured.closing closing

theorem moves (secured : Secured session) {action : Action} (moves : Moves session action next) :
    Secured next := by
  cases moves with
  | skip => exact secured
  | send | asyncWrite => exact secured.sendInLoop ..
  | shutdown => exact secured.quiet (.shutdown session)
  | forceClose => exact secured.forceCloseInLoop
  | policy => exact secured.quiet (.policy _ _ session)
  | connectDestroyed => exact secured.connectDestroyed
  | request request => exact secured.quiet (.request session request)
  | @functor _ functor rest _ queued =>
      have popped : Secured { session with queue := rest } :=
        secured.same rfl rfl (fun _ member => member) rfl
      cases functor with
      | sendInLoop pointer data => exact popped.sendInLoop ..
      | shutdownInLoop => exact popped.quiet (.shutdownInLoop _)
      | forceCloseInLoop => exact popped.forceCloseInLoop
      | setBackpressurePolicyInLoop high low => exact popped.quiet (.policy high low _)
      | connectDestroyed => exact popped.connectDestroyed
  | dispatch => exact secured.same rfl rfl (fun _ member => member) rfl
  | @handle calls handler rest =>
      have popped : Secured { session with handlers := rest } :=
        secured.same rfl rfl (fun _ member => member) rfl
      cases handler with
      | handleClose => exact popped.handleClose
      | handleError => exact popped.handleClose
      | handleRead => exact popped.handleRead calls
      | handleWrite => exact popped.handleWrite calls
  | @resume calls frame rest top =>
      have popped : Secured { session with stack := rest } :=
        secured.same rfl rfl (fun _ member => top ▸ List.mem_cons_of_mem _ member) rfl
      refine popped.resume (fun runs same => ?_) calls
      exact secured.completed runs (by rw [top, same]; exact List.mem_cons_self)

end Secured

/-- `startTls` and then `connectEstablished`, as the server and the client call them. -/
def startedTls (hooks : Hooks) (highWaterMark lowWaterMark fd : Nat) (sslNew : Bool) : Session :=
  ((create hooks highWaterMark lowWaterMark).startTls fd sslNew).connectEstablished

theorem startedTls_eq (hooks : Hooks) (high low fd : Nat) (sslNew : Bool) :
    startedTls hooks high low fd sslNew =
      { (create hooks high low).startTls fd sslNew with
        state := .kConnected
        channel := Channel.enableReading {}
        backpressure :=
          { highWaterMark := high, lowWaterMark := low, active := true, readingEnabled := true }
        stack := [.applied .connectEstablished none] } := by
  unfold startedTls startTls
  split
  · exact connectEstablished_eq rfl
  · split <;> exact connectEstablished_eq rfl

/-- What can happen before `startTls`, in the `HandshakeStarted` hook that server and client
run first: the loop waits for it. -/
def InHook (session : Session) : Action → Prop
  | .remote _ => True
  | .functor _ | .dispatch _ => False
  | _ => session.hooks.tlsEvent = true

/-- Nothing is written. -/
def Unwritten : Action → Prop
  | .asyncWrite _ data _ => data = []
  | _ => True

/-- The hook has come so far, and it has written nothing. -/
def Hooked (hooks : Hooks) (highWaterMark lowWaterMark : Nat) : Session → Prop :=
  Reach step (fun session action => InHook session action ∧ Unwritten action)
    (create hooks highWaterMark lowWaterMark)

/-- A connection that is not established yet and has written nothing. -/
structure Unused (session : Session) : Prop where
  state : session.state = .kConnecting
  ssl : session.ssl = false
  output : session.outputBuffer.readable = []
  idle : session.channel.isWriting = false
  handlers : session.handlers = []
  stack : ∀ frame ∈ session.stack, frame.isRoutine = true
  exposed : ∀ event ∈ session.trace, event.isExposed = false
  handshake : ∀ event ∈ session.trace, event.isHandshake = false

theorem policy_handlers (high low : Nat) (session : Session) :
    (session.setBackpressurePolicyInLoop high low).handlers = session.handlers := by
  unfold setBackpressurePolicyInLoop Session.apply
  dsimp only
  split
  · rfl
  · split
    · split <;> rfl
    · split
      · rfl
      · split <;> rfl

theorem request_handlers (session : Session) (request : Request) :
    (session.request request).handlers = session.handlers := by
  cases request with
  | send | shutdown =>
      simp only [Session.request]
      split <;> rfl
  | setBackpressurePolicy =>
      simp only [Session.request]
      split <;> rfl
  | forceClose | connectDestroyed => rfl

namespace Unused

theorem quiet (unused : Unused before) (quiet : Quiet before after)
    (handlers : after.handlers = before.handlers) : Unused after := by
  obtain ⟨frames, grown, routine⟩ := quiet.stack
  refine ⟨?_, quiet.ssl.trans unused.ssl, quiet.outputBuffer ▸ unused.output,
    quiet.writing.trans unused.idle, handlers.trans unused.handlers, ?_,
    quiet.trace ▸ unused.exposed, quiet.trace ▸ unused.handshake⟩
  · rcases quiet.state with same | ⟨connected, _⟩
    · exact same.trans unused.state
    · cases unused.state.symm.trans connected
  · intro frame member
    rw [grown] at member
    exact (List.mem_append.mp member).elim (routine frame) (unused.stack frame)

theorem connectDestroyed (unused : Unused session) : Unused session.connectDestroyed := by
  rw [Session.connectDestroyed, if_neg (by simp [unused.state])]
  refine ⟨unused.state, unused.ssl, unused.output, rfl, unused.handlers, unused.stack, ?_, ?_⟩
  · intro event member
    rcases List.mem_append.mp member with old | new
    · exact unused.exposed event old
    · rw [List.mem_singleton.mp new]
      rfl
  · intro event member
    rcases List.mem_append.mp member with old | new
    · exact unused.handshake event old
    · rw [List.mem_singleton.mp new]
      rfl

theorem wrote (unused : Unused session) : Unused session.wrote := by
  unfold Session.wrote
  split
  · have disabled : Unused (session.updateChannel Channel.disableWriting) :=
      ⟨unused.state, unused.ssl, unused.output, rfl, unused.handlers, unused.stack, unused.exposed,
        unused.handshake⟩
    rw [finishPendingWrite, if_neg (by simp [disabled.state])]
    exact disabled
  · exact unused

theorem resume (unused : Unused session) {frame : Frame} {rest : List Frame}
    (top : session.stack = frame :: rest) (calls : Calls) :
    Unused (frame.resume calls { session with stack := rest }) := by
  have popped : Unused { session with stack := rest } :=
    ⟨unused.state, unused.ssl, unused.output, unused.idle, unused.handlers,
      fun frame member => unused.stack frame (top ▸ List.mem_cons_of_mem _ member),
      unused.exposed, unused.handshake⟩
  have routine := unused.stack frame (by simp [top])
  cases frame with
  | applied function event =>
      cases function with
      | connectEstablished => cases routine
      | handleWrite => exact popped.wrote
      | last => exact popped
  | _ => cases routine

theorem step (unused : Unused session) {action : Action} (hook : InHook session action)
    (unwritten : Unwritten action) (taken : session.step action = some next) : Unused next := by
  have moves := step_moves taken
  cases action with
  | asyncWrite pointer data calls =>
      obtain rfl : data = [] := unwritten
      simp only [Session.step, Option.ite_none_right_eq_some, Option.some.injEq] at taken
      obtain ⟨_, rfl⟩ := taken
      exact unused
  | send pointer data calls =>
      cases moves with
      | skip => exact unused
      | send _ connected => cases unused.state.symm.trans connected
  | shutdown =>
      cases moves with
      | skip => exact unused
      | shutdown =>
          rw [Session.shutdown, if_neg (by simp [unused.state])]
          exact unused
  | forceClose =>
      cases moves with
      | skip => exact unused
      | forceClose =>
          rw [forceCloseInLoop, if_neg (by simp [unused.state])]
          exact unused
  | setBackpressurePolicy high low =>
      cases moves with
      | skip => exact unused
      | policy => exact unused.quiet (.policy high low session) (policy_handlers high low session)
  | connectDestroyed =>
      cases moves with
      | skip => exact unused
      | connectDestroyed => exact unused.connectDestroyed
  | remote request =>
      cases moves with
      | skip => exact unused
      | request => exact unused.quiet (.request session request) (request_handlers session request)
  | functor calls => exact hook.elim
  | dispatch revents => exact hook.elim
  | handle calls =>
      cases moves with
      | skip => exact unused
      | handle _ waits => cases unused.handlers.symm.trans waits
  | resume calls =>
      cases moves with
      | skip => exact unused
      | resume top => exact unused.resume top calls

theorem of_hooked {hooks : Hooks} {high low : Nat} (hooked : Hooked hooks high low session) :
    Unused session := by
  refine hooked.invariant ?_ fun _ _ _ unused allowed taken => unused.step allowed.1 allowed.2 taken
  exact ⟨rfl, rfl, rfl, rfl, rfl, by simp [create], by simp [create], by simp [create]⟩

theorem established_eq (unused : Unused session) (fd : Nat) (sslNew : Bool) :
    (session.startTls fd sslNew).connectEstablished =
      { session.startTls fd sslNew with
        state := .kConnected
        channel := session.channel.enableReading
        backpressure := { session.backpressure with active := true, readingEnabled := true }
        stack := .applied .connectEstablished none :: session.stack } := by
  unfold startTls
  split
  · exact connectEstablished_eq unused.output
  · split <;> exact connectEstablished_eq unused.output

theorem secured (unused : Unused session) {fd : Nat} (within : fd ≤ maxInt) :
    Secured (session.startTls fd true).connectEstablished := by
  have enabled : session.startTls fd true =
      { session with ssl := true, tlsState := .kTlsHandshaking } := by
    simp [startTls, Nat.not_lt.mpr within]
  rw [unused.established_eq, enabled]
  refine ⟨rfl, .inl rfl, fun runs member => ?_, .of_none unused.exposed⟩
  rcases List.mem_cons.mp member with same | old
  · cases same
  · cases unused.stack _ old

/-- What is written goes to the socket as it is. -/
theorem written (unused : Unused session) {pointer : Nat} {data : Bytes} {calls : Calls}
    (given : data ≠ []) (taken : session.step (.asyncWrite pointer data calls) = some next) :
    next.trace = session.trace ++ [.write data] := by
  simp only [Session.step, Option.ite_none_right_eq_some, Option.some.injEq] at taken
  obtain ⟨_, rfl⟩ := taken
  rw [if_neg (by simp [unused.state, given]), sendInLoop, if_neg (by simp [unused.state]),
    if_pos (by simp [unused.idle, Buffer.readableBytes, unused.output])]
  split
  case h_1 raw =>
    rw [handleError]
    rcases handleClose_shape _ with same | closing
    · rw [same, writeRaw_plain unused.ssl raw]
      rfl
    · rw [closing.trace, writeRaw_plain unused.ssl raw]
      rfl
  case h_2 raw =>
    rw [(Quiet.finishPendingWrite _).trace, writeRaw_plain unused.ssl raw]
    rfl
  case h_3 raw =>
    rw [(bufferOutput_quiet _ _).trace]
    exact congrArg trace (writeRaw_plain unused.ssl raw)

end Unused

/-- Without TLS the connection is announced at once. -/
theorem startedTls_exposed (hooks : Hooks) (high low fd : Nat) (sslNew : Bool)
    (failed : ¬ (sslNew = true ∧ fd ≤ maxInt)) :
    ∃ session, (startedTls hooks high low fd sslNew).step (.resume {}) = some session ∧
      session.trace = [.notifyConnected] := by
  have disabled : (create hooks high low).startTls fd sslNew = create hooks high low := by
    unfold startTls
    split
    · rfl
    case isFalse made =>
      have created : sslNew = true := by simpa using made
      have beyond : fd > maxInt := Nat.not_le.mp fun within => failed ⟨created, within⟩
      rw [if_pos beyond]
      rfl
  rw [startedTls_eq, disabled]
  exact ⟨_, rfl, rfl⟩

theorem tls_fails_closed (hooks : Hooks) (high low fd : Nat) (sslNew : Bool) :
    ((∀ hooked, Hooked hooks high low hooked → hooked.stack = [] → ∀ session,
        Reach step (fun _ _ => True) (hooked.startTls fd sslNew).connectEstablished session →
        Follows Event.isHandshake Event.isExposed session.trace) ↔ sslNew = true ∧ fd ≤ maxInt) ∧
      ∀ hooked action next, Hooked hooks high low hooked → InHook hooked action →
        hooked.step action = some next →
        (Follows Event.isHandshake Event.isExposed next.trace ↔ Unwritten action) := by
  refine ⟨⟨fun shielded => ?_, ?_⟩, fun hooked action next reach hook taken => ?_⟩
  · by_contra failed
    obtain ⟨session, taken, trace⟩ := startedTls_exposed hooks high low fd sslNew failed
    obtain ⟨earlier, none, _⟩ := shielded _ .start rfl session (.step .start trivial taken) []
      .notifyConnected [] trace rfl
    cases none
  · rintro ⟨rfl, within⟩ hooked reach _ session further
    have secured : Secured session := by
      refine further.invariant ((Unused.of_hooked reach).secured within) ?_
      exact fun _ _ _ secured _ taken => secured.moves (step_moves taken)
    exact secured.ordered
  · have unused := Unused.of_hooked reach
    by_cases unwritten : Unwritten action
    · have after := unused.step hook unwritten taken
      exact iff_of_true (.of_none after.exposed) unwritten
    · refine iff_of_false (fun ordered => ?_) unwritten
      cases action with
      | asyncWrite pointer data calls =>
          obtain ⟨earlier, member, success⟩ :=
            ordered hooked.trace _ [] (unused.written unwritten taken) rfl
          rw [unused.handshake earlier member] at success
          cases success
      | _ => exact unwritten trivial

/-- No `SSL` object could be made: the connection is announced, and what its callback
sends goes to the socket as it is. -/
theorem tls_fails_open :
    ∃ session, run step (startedTls { connection := true } 0 0 3 false)
        [.resume {}, .resume {}, .resume {}, .send 0 [115] {}] = some session ∧
      session.trace = [.notifyConnected, .connectionCallback true, .write [115]] ∧
      ¬ Follows Event.isHandshake Event.isExposed session.trace := by
  refine ⟨_, rfl, rfl, fun ordered => ?_⟩
  obtain ⟨earlier, none, _⟩ := ordered [] .notifyConnected _ rfl rfl
  cases none

end MiniTrantor.Net.Session
