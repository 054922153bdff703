import MiniTrantor.Net.Session.FailClosed

/-!
# Write interest of a connection with TLS

One bit of the channel serves the output buffer, the handshake and `SSL_read`. A
handshake that completes turns it off over a buffer that is not empty, and what
`SSL_read` turned on is turned off only by a write from the buffer. Apart from
these two, the bit is on exactly as long as something has to be written.
-/

set_option autoImplicit false

namespace MiniTrantor.Net.Session

variable {before after session next : Session}

/-- Whether the last `SSL_read` asked to be repeated when the socket is writable. -/
def Event.readWaits : Event → Option Bool
  | .sslRead result => some (result == .wantWrite)
  | _ => none

/-- Whether the last `SSL_write` did. -/
def Event.writeWaits : Event → Option Bool
  | .sslWrite _ _ _ (.error error) => some (error == .wantWrite)
  | .sslWrite _ _ _ (.ok _) => some false
  | _ => none

/-- An operation waits for the socket to be writable. -/
def waits (trace : List Event) : Bool :=
  (trace.filterMap Event.readWaits).getLast? == some true ||
    (trace.filterMap Event.writeWaits).getLast? == some true

/-- Data that is buffered will be written, and nothing else keeps write interest on. -/
structure WriteInterest (session : Session) : Prop where
  pending : session.outputBuffer.readable ≠ [] → session.channel.isWriting = true
  idle : session.outputBuffer.readable = [] → waits session.trace = false →
    session.channel.isWriting = false

def Event.isDestroyed : Event → Bool
  | .destroyed => true
  | _ => false

/-- The connection was closed, or its owner has run `connectDestroyed`. -/
def Ended (session : Session) : Prop :=
  session.state = .kDisconnected ∨ session.trace.any Event.isDestroyed = true

/-- The action calls `SSL_do_handshake`, which succeeds. -/
def handshakes (session : Session) : Action → Bool
  | .handle calls =>
      match session.stack, session.handlers with
      | [], .handleRead :: _ | [], .handleWrite :: _ =>
          session.handshakePending && calls.sslDoHandshake.isNone
      | _, _ => false
  | .resume calls =>
      match session.stack with
      | .applied .connectEstablished _ :: _ =>
          session.handshakePending && calls.sslDoHandshake.isNone
      | _ => false
  | _ => false

/-- The action calls `SSL_read`, which does not ask for the socket to be writable. -/
def reads (session : Session) : Action → Bool
  | .handle calls =>
      match session.stack, session.handlers with
      | [], .handleRead :: _ => !session.handshakePending && calls.sslRead.2 != .wantWrite
      | _, _ => false
  | _ => false

/-- No handshake completes over buffered data, and no `SSL_read` settles while write
interest is on for nothing that is buffered. -/
def Clean (session : Session) (action : Action) : Prop :=
  (handshakes session action = true → session.outputBuffer.readable = []) ∧
    (reads session action = true → session.outputBuffer.readable = [] →
      session.channel.isWriting = false)

/-- The invariant: in the middle of `handleWrite` the buffer may already be empty. -/
structure Interested (session : Session) : Prop where
  ssl : session.ssl = true
  pending : session.outputBuffer.readable ≠ [] → session.channel.isWriting = true
  leftover : session.tlsState ≠ .kTlsHandshaking → session.outputBuffer.readable = [] →
    session.channel.isWriting = true →
      waits session.trace = true ∨ ∃ event, .applied .handleWrite event ∈ session.stack

theorem waits_append {trace : List Event} {event : Event} (read : event.readWaits = none)
    (write : event.writeWaits = none) : waits (trace ++ [event]) = waits trace := by
  simp [waits, List.filterMap_append, read, write]

namespace Interested

/-- What matters is the write interest, the buffer and the calls of OpenSSL. -/
theorem change (interested : Interested before) (ssl : after.ssl = before.ssl)
    (outputBuffer : after.outputBuffer.readable = before.outputBuffer.readable)
    (writing : after.channel.isWriting = before.channel.isWriting)
    (tlsState : after.tlsState ≠ .kTlsHandshaking → before.tlsState ≠ .kTlsHandshaking)
    (trace : waits after.trace = waits before.trace)
    (stack : ∀ event, .applied .handleWrite event ∈ before.stack →
      .applied .handleWrite event ∈ after.stack) : Interested after := by
  refine ⟨ssl.trans interested.ssl, ?_, ?_⟩
  · rw [outputBuffer, writing]
    exact interested.pending
  · intro settled empty on
    rw [trace]
    refine (interested.leftover (tlsState settled) (outputBuffer ▸ empty) (writing ▸ on)).imp_right ?_
    rintro ⟨runs, member⟩
    exact ⟨runs, stack runs member⟩

theorem quiet (interested : Interested before) (quiet : Quiet before after) : Interested after := by
  refine interested.change quiet.ssl (by rw [quiet.outputBuffer]) quiet.writing ?_
    (by rw [quiet.trace]) ?_
  · intro settled waits
    rcases quiet.tlsState with same | ⟨established, _⟩
    · exact settled (same.trans waits)
    · cases waits.symm.trans established
  · intro runs member
    obtain ⟨frames, grown, _⟩ := quiet.stack
    rw [grown]
    exact List.mem_append_right _ member

/-- A step that records something else than a call that reads or writes. -/
theorem emit (interested : Interested session) {event : Event} (read : event.readWaits = none)
    (write : event.writeWaits = none) : Interested (session.emit event) :=
  interested.change rfl rfl rfl (fun settled => settled) (waits_append read write)
    (fun _ member => member)

theorem push (interested : Interested session) (frame : Frame) : Interested (session.push frame) :=
  interested.change rfl rfl rfl (fun settled => settled) rfl
    (fun _ member => List.mem_cons_of_mem _ member)

theorem bufferOutput {data : Bytes} (ssl : session.ssl = true) (some : data ≠ []) :
    Interested (session.bufferOutput data) := by
  have held : Interested (session.buffered data) := by
    refine ⟨ssl, fun _ => buffered_writing data session, fun _ empty => ?_⟩
    have contents : (session.buffered data).outputBuffer.readable =
        session.outputBuffer.readable ++ data := Buffer.append_readable data session.outputBuffer
    rw [contents] at empty
    exact absurd (List.append_eq_nil_iff.mp empty).2 some
  exact held.quiet (bufferOutput_quiet data session)

end Interested

/-- A connection that is open has the write interest that it needs. -/
def Watched (session : Session) : Prop := Ended session ∨ Interested session

namespace Watched

theorem handleClose (session : Session) : Watched session.handleClose := by
  unfold Session.handleClose
  split
  case isTrue closed => exact .inl (.inl closed)
  case isFalse => exact .inl (.inl rfl)

theorem closing (closing : Closing before after) : Watched after := .inl (.inl closing.closed)

theorem ending (ending : Ending before after) : Watched after := by
  refine .inl (.inr ?_)
  simp [ending.trace, Event.isDestroyed]

theorem sendInLoop (interested : Interested session) (calls : Calls) (pointer : Nat) (data : Bytes) :
    Watched (session.sendInLoop calls pointer data) := by
  have written : ∀ {left : Option Bytes} {written : Session},
      session.channel.isWriting = false → session.outputBuffer.readable = [] →
      session.writeRaw calls pointer data = (left, written) → Interested written := by
    intro left written idle empty raw
    obtain ⟨result, _, _, quiet⟩ := writeRaw_ssl interested.ssl raw
    have recorded : Interested (session.emit (.sslWrite (.caller pointer) data
        (ConnectionTransport.toInt data.length) result)) := by
      refine ⟨interested.ssl, fun left => absurd empty left, fun _ _ on => ?_⟩
      cases idle.symm.trans on
    exact recorded.quiet quiet
  have sends := sendInLoop_sends calls pointer data session
  generalize session.sendInLoop calls pointer data = sent at sends ⊢
  cases sends with
  | nothing => exact .inr interested
  | behind busy some => exact .inr (.bufferOutput interested.ssl some)
  | failed => exact handleClose _
  | finished idle empty raw => exact .inr ((written idle empty raw).quiet (.finishPendingWrite _))
  | rest idle empty raw left => exact .inr (.bufferOutput (written idle empty raw).ssl left)

theorem advanceTransportHandshake (interested : Interested session) (calls : Calls)
    (shaking : session.handshakePending = true)
    (clean : calls.sslDoHandshake = none → session.outputBuffer.readable = []) :
    Interested (session.advanceTransportHandshake calls) := by
  have recorded := @Interested.emit _ interested (.sslDoHandshake calls.sslDoHandshake) rfl rfl
  have waiting : session.tlsState = .kTlsHandshaking := by
    simp only [handshakePending, Bool.and_eq_true, beq_iff_eq] at shaking
    exact shaking.2
  unfold Session.advanceTransportHandshake
  dsimp only
  split
  case h_1 success =>
    refine ⟨interested.ssl, fun left => absurd (clean success) left, fun _ _ on => ?_⟩
    cases on
  · split
    · exact recorded
    · exact recorded.change rfl rfl rfl (fun settled => settled) rfl (fun _ member => member)
  · refine ⟨interested.ssl, fun _ => rfl, fun settled => absurd waiting settled⟩
  · exact recorded.push _
  · exact recorded.push _

theorem readWaits_append {trace : List Event} {result : SslError} (waits : result = .wantWrite) :
    Session.waits (trace ++ [.sslRead result]) = true := by
  simp [Session.waits, List.filterMap_append, Event.readWaits, waits]

theorem sslReadIntoBuffer (interested : Interested session) (calls : Calls)
    (clean : calls.sslRead.2 ≠ .wantWrite → session.outputBuffer.readable = [] →
      session.channel.isWriting = false) : Watched (session.sslReadIntoBuffer calls) := by
  have recorded : calls.sslRead.2 ≠ .wantWrite →
      Interested (session.emit (.sslRead calls.sslRead.2)) := by
    intro settled
    refine ⟨interested.ssl, interested.pending, fun _ empty on => ?_⟩
    cases (clean settled empty).symm.trans on
  have waiting : ∀ stack, calls.sslRead.2 = .wantWrite → Interested { session with
      channel := session.channel.enableWriting
      stack
      trace := session.trace ++ [.sslRead calls.sslRead.2] } := by
    intro stack wants
    exact ⟨interested.ssl, fun _ => rfl, fun _ _ _ => .inl (readWaits_append wants)⟩
  unfold Session.sslReadIntoBuffer
  dsimp only
  split
  case h_1 result =>
    split
    · exact .inr (recorded (by simp [result]))
    · exact .inr ((recorded (by simp [result])).push _)
  case h_2 result =>
    split
    · exact .inr (waiting _ result)
    · exact .inr (waiting _ result)
  case h_3 result =>
    split
    · exact handleClose _
    · exact .inr ((recorded (by simp [result])).push _)
  case h_4 result =>
    split
    · exact handleClose _
    · exact .inr ((recorded (by simp [result])).push _)

theorem handleWrite (interested : Interested session) (calls : Calls)
    (clean : session.handshakePending = true → calls.sslDoHandshake = none →
      session.outputBuffer.readable = []) : Watched (session.handleWrite calls) := by
  unfold Session.handleWrite
  split
  case isTrue shaking =>
    exact .inr (advanceTransportHandshake interested calls shaking (clean shaking))
  · split
    case isTrue => exact .inr interested
    case isFalse busy =>
      have writing : session.channel.isWriting = true := by simpa using busy
      cases drain : session.writeFromBuffer calls with
      | mk ended drained =>
        have loop := drain
        rw [writeFromBuffer, if_pos interested.ssl] at loop
        have drains := sslWriteLoop_drains calls session.outputBuffer.readableBytes 0 session
        rw [loop] at drains
        have on : drained.channel.isWriting = true := drains.writing.trans writing
        cases ended with
        | failed => exact handleClose drained
        | progress =>
            obtain ⟨runs, pushed⟩ := apply_pushed .handleWrite drained
            have quiet := @Quiet.apply .handleWrite (by simp) drained
            exact .inr ⟨quiet.ssl.trans (drains.ssl.trans interested.ssl),
              fun _ => quiet.writing.trans on, fun _ _ _ => .inr ⟨runs, pushed⟩⟩
        | blocked =>
            obtain ⟨_, buffer, trace⟩ := sslWriteLoop_blocked _ _ _ loop
            refine .inr ⟨drains.ssl.trans interested.ssl, fun _ => on, fun settled empty on => ?_⟩
            have drained : session.outputBuffer.readable = [] := buffer ▸ empty
            rw [trace drained, drains.stack]
            exact interested.leftover (drains.tlsState ▸ settled) drained writing

theorem handleRead (interested : Interested session) (calls : Calls)
    (shakes : session.handshakePending = true → calls.sslDoHandshake = none →
      session.outputBuffer.readable = [])
    (reads : session.handshakePending = false → calls.sslRead.2 ≠ .wantWrite →
      session.outputBuffer.readable = [] → session.channel.isWriting = false) :
    Watched (session.handleRead calls) := by
  unfold Session.handleRead
  rw [if_pos interested.ssl]
  split
  case isTrue shaking =>
    exact .inr (advanceTransportHandshake interested calls shaking (shakes shaking))
  case isFalse settled =>
    exact sslReadIntoBuffer interested calls (reads (by simpa using settled))

theorem emitIf (interested : Interested session) (wanted : Bool) {event : Event}
    (read : event.readWaits = none) (write : event.writeWaits = none) :
    Interested (if wanted then session.emit event else session) := by
  cases wanted with
  | false => exact interested
  | true => exact interested.emit read write

/-- A frame other than that of `handleWrite` is of no account. -/
theorem pop {frame : Frame} {rest : List Frame} (interested : Interested session)
    (top : session.stack = frame :: rest) (other : ∀ event, frame ≠ .applied .handleWrite event) :
    Interested { session with stack := rest } := by
  refine interested.change rfl rfl rfl (fun settled => settled) rfl fun runs member => ?_
  rw [top] at member
  exact (List.mem_cons.mp member).resolve_left fun same => other runs same.symm

/-- The rest of `handleWrite` settles the write interest. -/
theorem wrote (interested : Interested session) (rest : List Frame) :
    Interested (Session.wrote { session with stack := rest }) := by
  unfold Session.wrote
  split
  case isTrue empty =>
    have none : session.outputBuffer.readable = [] := List.length_eq_zero_iff.mp empty
    have disabled : Interested ({ session with stack := rest }.updateChannel
        Channel.disableWriting) := by
      refine ⟨interested.ssl, fun left => absurd none left, fun _ _ on => ?_⟩
      cases on
    exact disabled.quiet (.finishPendingWrite _)
  case isFalse some =>
    refine ⟨interested.ssl, interested.pending, fun _ empty => ?_⟩
    exact absurd (by simpa [Buffer.readableBytes] using empty) some

theorem resume (interested : Interested session) {calls : Calls} {frame : Frame}
    {rest : List Frame} (top : session.stack = frame :: rest)
    (clean : Clean session (.resume calls)) :
    Watched (frame.resume calls { session with stack := rest }) := by
  cases frame with
  | applied function event =>
      cases function with
      | last => exact .inr (pop interested top (by simp))
      | handleWrite => exact .inr (wrote interested rest)
      | connectEstablished =>
          have popped := pop interested top (by simp)
          simp only [Frame.resume]
          split
          case isTrue shaking =>
            refine .inr (advanceTransportHandshake popped calls shaking fun success => clean.1 ?_)
            have pending : session.handshakePending = true := shaking
            simp [handshakes, top, pending, success]
          case isFalse => exact .inr ((popped.emit rfl rfl).push _)
  | handshakeFailed errno runs => exact handleClose _
  | handshakeCompleted runs =>
      exact .inr (((pop interested top (by simp)).emit rfl rfl).push _)
  | notify notice => exact .inr ((emitIf (pop interested top (by simp)) _ rfl rfl).push _)
  | connectionEvent notice runs =>
      exact .inr ((emitIf (pop interested top (by simp)) _ rfl rfl).push _)
  | connectionCallback notice runs =>
      have popped := pop interested top (by simp)
      cases notice with
      | connected => exact .inr popped
      | disconnected destroying =>
          cases destroying with
          | true => exact ending (unregisterChannel_ending _)
          | false => exact .inr (popped.push _)
  | close runs => exact .inr (pop interested top (by simp))
  | message runs => exact .inr (pop interested top (by simp))

theorem forceCloseInLoop (interested : Interested session) : Watched session.forceCloseInLoop := by
  rcases session.forceCloseInLoop_shape with same | shut
  · rw [same]
    exact .inr interested
  · exact closing shut

theorem connectDestroyed (session : Session) : Watched session.connectDestroyed := by
  rcases session.connectDestroyed_shape with ended | shut
  · exact ending ended
  · exact closing shut

theorem moves (interested : Interested session) {action : Action} (clean : Clean session action)
    (moves : Moves session action next) : Watched next := by
  cases moves with
  | skip => exact .inr interested
  | send | asyncWrite => exact sendInLoop interested ..
  | shutdown => exact .inr (interested.quiet (.shutdown session))
  | forceClose => exact forceCloseInLoop interested
  | policy => exact .inr (interested.quiet (.policy _ _ session))
  | connectDestroyed => exact connectDestroyed session
  | request request => exact .inr (interested.quiet (.request session request))
  | @functor calls functor rest _ queued =>
      have popped : Interested { session with queue := rest } :=
        interested.change rfl rfl rfl (fun settled => settled) rfl (fun _ member => member)
      cases functor with
      | sendInLoop pointer data => exact sendInLoop popped ..
      | shutdownInLoop => exact .inr (popped.quiet (.shutdownInLoop _))
      | forceCloseInLoop => exact forceCloseInLoop popped
      | setBackpressurePolicyInLoop high low => exact .inr (popped.quiet (.policy high low _))
      | connectDestroyed => exact connectDestroyed _
  | dispatch =>
      exact .inr (interested.change rfl rfl rfl (fun settled => settled) rfl
        (fun _ member => member))
  | @handle calls handler rest bare waits =>
      have popped : Interested { session with handlers := rest } :=
        interested.change rfl rfl rfl (fun settled => settled) rfl (fun _ member => member)
      cases handler with
      | handleClose => exact handleClose _
      | handleError => exact handleClose _
      | handleRead =>
          refine handleRead popped calls (fun shaking success => clean.1 ?_)
            (fun settled result => clean.2 ?_)
          · have pending : session.handshakePending = true := shaking
            simp [handshakes, bare, waits, pending, success]
          · have done : session.handshakePending = false := settled
            simp [Session.reads, bare, waits, done, result]
      | handleWrite =>
          refine handleWrite popped calls fun shaking success => clean.1 ?_
          have pending : session.handshakePending = true := shaking
          simp [handshakes, bare, waits, pending, success]
  | resume top => exact resume interested top clean

end Watched

theorem Ended.grows (ended : Ended before) (grows : Grows before after) : Ended after := by
  rcases ended with closed | destroyed
  · exact .inl (grows.closed closed)
  · obtain ⟨event, member, given⟩ := List.any_eq_true.mp destroyed
    exact .inr (List.any_eq_true.mpr ⟨event, grows.trace.subset member, given⟩)

theorem startedTls_interested (hooks : Hooks) (high low : Nat) {fd : Nat} (within : fd ≤ maxInt) :
    Interested (startedTls hooks high low fd true) := by
  have enabled : (create hooks high low).startTls fd true =
      { create hooks high low with ssl := true, tlsState := .kTlsHandshaking } := by
    simp [startTls, Nat.not_lt.mpr within]
  rw [startedTls_eq, enabled]
  exact ⟨rfl, fun left => absurd rfl left, fun settled => absurd rfl settled⟩

theorem write_interest {hooks : Hooks} {high low fd : Nat} (within : fd ≤ maxInt)
    (reach : Reach step Clean (startedTls hooks high low fd true) session)
    (between : session.idle = true) (shaken : session.tlsState ≠ .kTlsHandshaking)
    (opened : ¬ Ended session) : WriteInterest session := by
  have watched : Watched session := by
    refine reach.invariant (.inr (startedTls_interested hooks high low within)) ?_
    intro before after action watched clean taken
    rcases watched with ended | interested
    · exact .inl (ended.grows (.moves (step_moves taken)))
    · exact Watched.moves interested clean (step_moves taken)
  rcases watched with ended | interested
  · exact absurd ended opened
  · refine ⟨interested.pending, fun empty settled => ?_⟩
    by_contra on
    rcases interested.leftover shaken empty (by simpa using on) with waiting | ⟨runs, member⟩
    · cases settled.symm.trans waiting
    · simp only [Session.idle, Bool.and_eq_true, List.isEmpty_iff] at between
      rw [between.1] at member
      cases member

instance (session : Session) (action : Action) : Decidable (Clean session action) :=
  inferInstanceAs (Decidable ((_ → _) ∧ (_ → _ → _)))

/-- The handshake takes two rounds, and what is sent after it goes out in two pieces. -/
def cleanRun : List Action :=
  let pieces : Calls := { sslWrite := fun data _ =>
    if data.length = 3 then .ok 1 else .error .wantWrite }
  [.resume { sslDoHandshake := some .wantRead }, .dispatch { read := true }, .handle {},
    .resume {}, .resume {}, .resume {}, .resume {}, .send 0 [1, 2, 3] pieces, .resume {},
    .dispatch { read := true, write := true }, .handle { sslRead := ([[7]], .wantRead) },
    .resume {}, .handle pieces]

theorem write_interest_clean :
    ∃ session, run (checked step Clean) (startedTls {} 0 0 3 true) cleanRun = some session ∧
      session.outputBuffer.readable = [2, 3] ∧ WriteInterest session := by
  have final : ∃ session, run (checked step Clean) (startedTls {} 0 0 3 true) cleanRun =
      some session ∧ session.outputBuffer.readable = [2, 3] ∧ session.idle = true ∧
      session.tlsState = .kTlsEstablished ∧ session.state = .kConnected ∧
      session.trace.any Event.isDestroyed = false := ⟨_, rfl, rfl, rfl, rfl, rfl, rfl⟩
  obtain ⟨session, ran, left, between, established, connected, kept⟩ := final
  refine ⟨session, ran, left, write_interest (by decide) (.checked .start ran) between ?_ ?_⟩
  · simp [established]
  · rintro (closed | destroyed)
    · cases connected.symm.trans closed
    · cases kept.symm.trans destroyed

/-- A payload is sent before the handshake is over, and the handshake then completes. -/
def sendWhileShaking : List Action :=
  [.resume { sslDoHandshake := some .wantRead },
    .send 0 [1] { sslWrite := fun _ _ => .error .wantRead }, .resume {},
    .dispatch { read := true }, .handle {}, .resume {}, .resume {}, .resume {}, .resume {}]

/-- `SSL_read` asks for the socket to be writable, and is content the next time. -/
def readWhileIdle : List Action :=
  [.resume {}, .resume {}, .resume {}, .resume {}, .resume {}, .dispatch { read := true },
    .handle { sslRead := ([], .wantWrite) }, .dispatch { read := true },
    .handle { sslRead := ([], .wantRead) }]

/-- The payload is never written; the write interest is never turned off. -/
theorem write_interest_lost :
    ∃ stranded leftover : Session,
      (run step (startedTls {} 0 0 3 true) sendWhileShaking = some stranded ∧
        stranded.idle = true ∧ stranded.tlsState = .kTlsEstablished ∧
        stranded.state = .kConnected ∧ stranded.trace.any Event.isDestroyed = false ∧
        ¬ WriteInterest stranded) ∧
      run step (startedTls {} 0 0 3 true) readWhileIdle = some leftover ∧
        leftover.idle = true ∧ leftover.tlsState = .kTlsEstablished ∧
        leftover.state = .kConnected ∧ leftover.trace.any Event.isDestroyed = false ∧
        ¬ WriteInterest leftover := by
  refine ⟨_, _, ⟨rfl, rfl, rfl, rfl, rfl, fun interest => ?_⟩, rfl, rfl, rfl, rfl, rfl,
    fun interest => ?_⟩
  · have on := interest.pending (by decide)
    cases on
  · have off := interest.idle rfl rfl
    cases off

end MiniTrantor.Net.Session
