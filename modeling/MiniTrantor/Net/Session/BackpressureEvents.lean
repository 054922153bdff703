import MiniTrantor.Net.Session.WriteInterest

/-!
# The hook of backpressure events

The controller calls the hook when it turns reading off and when a drain turns it on
again. A policy without a high water mark turns reading on too, and says nothing.
-/

set_option autoImplicit false

namespace MiniTrantor.Net.Session

/-- The event with which the backpressure hook runs. -/
def Frame.told : Frame → Option BackpressureEvent
  | .applied _ event => event
  | _ => none

/-- The call of the hook with which a step ends. -/
def told (before after : Session) : Option BackpressureEvent :=
  match after.stack with
  | frame :: _ => if before.stack.length < after.stack.length then frame.told else none
  | [] => none

/-- A connection and what its hook was told. -/
structure Monitored where
  session : Session
  events : List BackpressureEvent := []

def Monitored.step (monitored : Monitored) (action : Action) : Option Monitored :=
  (monitored.session.step action).map fun next =>
    { session := next, events := monitored.events ++ (told monitored.session next).toList }

/-- OpenSSL has asked for the socket to be readable, outside `SSL_read`. -/
def Event.asksToRead : Event → Bool
  | .sslDoHandshake result => result == some .wantRead
  | .sslWrite _ _ _ (.error error) => error == .wantRead
  | _ => false

/-- First a pause, and never the same event twice in a row. -/
structure Alternates (events : List BackpressureEvent) : Prop where
  first : ∀ event ∈ events.head?, event = .readPaused
  differ : events.IsChain (· ≠ ·)

namespace Alternates

variable {events : List BackpressureEvent}

theorem nil : Alternates [] := ⟨by simp, .nil⟩

theorem paused (alternates : Alternates events) (last : events.getLast? ≠ some .readPaused) :
    Alternates (events ++ [.readPaused]) := by
  refine ⟨fun event head => ?_, List.isChain_append.mpr ⟨alternates.differ, .singleton _, ?_⟩⟩
  · cases events with
    | nil => simpa using head.symm
    | cons first rest => exact alternates.first event head
  · intro earlier final later start same
    simp only [List.head?_cons, Option.mem_def, Option.some.injEq] at start
    exact last (start ▸ same ▸ final)

theorem resumed (alternates : Alternates events) (last : events.getLast? = some .readPaused) :
    Alternates (events ++ [.readResumed]) := by
  refine ⟨fun event head => ?_, List.isChain_append.mpr ⟨alternates.differ, .singleton _, ?_⟩⟩
  · cases events with
    | nil => cases last
    | cons first rest => exact alternates.first event head
  · intro earlier final later start same
    simp only [List.head?_cons, Option.mem_def, Option.some.injEq] at start
    rw [last, same, ← start] at final
    cases final

end Alternates

variable {before after session next : Session} {events : List BackpressureEvent}
  {base : List Frame}

/-- OpenSSL has not asked to read: a connection without TLS never does so. -/
def Undisturbing (session : Session) : Prop :=
  session.ssl = true → ∀ event ∈ session.trace, event.asksToRead = false

/-- The flag of the controller is what the hook was told last. -/
structure Truthful (events : List BackpressureEvent) (session : Session) : Prop where
  hook : session.hooks.backpressureEvent = true
  active : session.backpressure.active = true ↔ session.state ≠ .kDisconnected
  alternates : Alternates events
  flag : session.backpressure.active = true →
    (session.backpressure.readingEnabled = false ↔ events.getLast? = some .readPaused)
  marked : session.backpressure.active = true → session.backpressure.readingEnabled = false →
    session.backpressure.highWaterMark ≠ 0
  reading : Undisturbing session → ¬Ended session →
    session.channel.isReading = session.backpressure.readingEnabled

/-- What code leaves alone that does not concern the controller. -/
structure Aside (before after : Session) : Prop where
  hooks : after.hooks = before.hooks
  ssl : after.ssl = before.ssl
  backpressure : after.backpressure = before.backpressure
  closed : after.state = .kDisconnected ↔ before.state = .kDisconnected
  trace : before.trace <+: after.trace
  reading : after.channel.isReading = before.channel.isReading ∨
    after.ssl = true ∧ ∃ event ∈ after.trace, event.asksToRead = true
  stack : after.stack = before.stack

namespace Aside

/-- Other fields change. -/
theorem same (hooks : after.hooks = before.hooks) (ssl : after.ssl = before.ssl)
    (backpressure : after.backpressure = before.backpressure) (state : after.state = before.state)
    (trace : after.trace = before.trace)
    (reading : after.channel.isReading = before.channel.isReading)
    (stack : after.stack = before.stack) : Aside before after :=
  ⟨hooks, ssl, backpressure, by rw [state], by rw [trace], .inl reading, stack⟩

theorem refl (session : Session) : Aside session session := .same rfl rfl rfl rfl rfl rfl rfl

theorem trans {middle : Session} (first : Aside before middle) (second : Aside middle after) :
    Aside before after := by
  refine ⟨second.hooks.trans first.hooks, second.ssl.trans first.ssl,
    second.backpressure.trans first.backpressure, second.closed.trans first.closed,
    first.trace.trans second.trace, ?_, second.stack.trans first.stack⟩
  rcases second.reading with same | asked
  · rcases first.reading with older | ⟨ssl, event, member, asked⟩
    · exact .inl (same.trans older)
    · exact .inr ⟨second.ssl.trans ssl, event, second.trace.subset member, asked⟩
  · exact .inr asked

theorem emit (event : Event) (session : Session) : Aside session (session.emit event) :=
  ⟨rfl, rfl, rfl, .rfl, List.prefix_append .., .inl rfl, rfl⟩

/-- Reading is turned on because OpenSSL has asked for it. -/
theorem asked {event : Event} (ssl : session.ssl = true) (asks : event.asksToRead = true) :
    Aside session ((session.emit event).updateChannel Channel.enableReading) :=
  ⟨rfl, rfl, rfl, .rfl, List.prefix_append .., .inr ⟨ssl, event, by simp [updateChannel,
    Session.emit], asks⟩, rfl⟩

theorem enableWriting (session : Session) :
    Aside session (session.updateChannel Channel.enableWriting) :=
  .same rfl rfl rfl rfl rfl rfl rfl

theorem disableWriting (session : Session) :
    Aside session (session.updateChannel Channel.disableWriting) :=
  .same rfl rfl rfl rfl rfl rfl rfl

theorem shutdownInLoop (session : Session) : Aside session session.shutdownInLoop := by
  unfold Session.shutdownInLoop
  split
  · exact .refl session
  · split
    · exact .same rfl rfl rfl rfl rfl rfl rfl
    · exact .refl session

theorem finishPendingWrite (session : Session) : Aside session session.finishPendingWrite := by
  unfold Session.finishPendingWrite
  split
  · exact .shutdownInLoop session
  · exact .refl session

theorem wrote (session : Session) : Aside session session.wrote := by
  unfold Session.wrote
  split
  · exact (disableWriting session).trans (.finishPendingWrite _)
  · exact .refl session

theorem disconnecting (connected : session.state = .kConnected) :
    Aside session { session with state := .kDisconnecting } :=
  ⟨rfl, rfl, rfl, by simp [connected], List.prefix_refl _, .inl rfl, rfl⟩

theorem shutdown (session : Session) : Aside session session.shutdown := by
  unfold Session.shutdown
  split
  case isTrue connected => exact (disconnecting connected).trans (.shutdownInLoop _)
  case isFalse => exact .refl session

theorem queueInLoop (functor : Functor) (session : Session) :
    Aside session (session.queueInLoop functor) :=
  .same rfl rfl rfl rfl rfl rfl rfl

theorem request (session : Session) (request : Request) : Aside session (session.request request) := by
  cases request with
  | send pointer data =>
      simp only [Session.request]
      split
      · exact queueInLoop _ session
      · exact .refl session
  | shutdown =>
      simp only [Session.request]
      split
      case isTrue connected => exact (disconnecting connected).trans (queueInLoop _ _)
      case isFalse => exact .refl session
  | forceClose => exact queueInLoop _ session
  | setBackpressurePolicy high low =>
      simp only [Session.request]
      split
      · exact queueInLoop _ session
      · exact .refl session
  | connectDestroyed => exact queueInLoop _ session

theorem writeRaw {calls : Calls} {pointer : Nat} {data : Bytes} {left : Option Bytes}
    {written : Session} (raw : session.writeRaw calls pointer data = (left, written)) :
    Aside session written := by
  cases ssl : session.ssl with
  | false =>
      rw [writeRaw_plain ssl raw]
      exact emit _ session
  | true =>
      rw [Session.writeRaw, if_pos ssl, sslWriteRaw] at raw
      split at raw
      all_goals
        rename_i returned
        have recorded := sslWrite_recorded returned
        subst recorded
        obtain ⟨_, rfl⟩ := Prod.mk.inj raw
      · exact emit _ session
      · exact emit _ session
      · exact asked ssl rfl
      · exact emit _ session

theorem sslWriteLoop (calls : Calls) (fuel totalWritten : Nat) (ssl : session.ssl = true) :
    Aside session (Session.sslWriteLoop calls fuel totalWritten session).2 := by
  induction fuel generalizing totalWritten session with
  | zero => exact .refl session
  | succ fuel ih =>
      rw [Session.sslWriteLoop]
      split
      · exact .refl session
      · split
        all_goals
          rename_i returned
          have recorded := sslWrite_recorded returned
          subst recorded
        case h_1 count =>
          have taken : Aside session { session.emit (.sslWrite session.outputBuffer.peek
              session.outputBuffer.readable
              (ConnectionTransport.toInt session.outputBuffer.readable.length) (.ok count)) with
                outputBuffer := session.outputBuffer.retrieve count } :=
            (emit _ session).trans (.same rfl rfl rfl rfl rfl rfl rfl)
          exact taken.trans (ih _ ssl)
        · exact emit _ session
        · exact asked ssl rfl
        · exact emit _ session

theorem writeFromBuffer (calls : Calls) (session : Session) :
    Aside session (session.writeFromBuffer calls).2 := by
  rw [Session.writeFromBuffer]
  split
  case isTrue ssl => exact sslWriteLoop calls _ 0 ssl
  case isFalse =>
    have recorded := emit (.write session.outputBuffer.readable) session
    dsimp only
    split
    · exact recorded
    · exact recorded.trans (.same rfl rfl rfl rfl rfl rfl rfl)
    · exact recorded

end Aside

namespace Truthful

theorem aside (truthful : Truthful events before) (aside : Aside before after) :
    Truthful events after := by
  refine ⟨aside.hooks ▸ truthful.hook, ?_, truthful.alternates, ?_, ?_, ?_⟩
  · rw [aside.backpressure, truthful.active]
    exact (not_congr aside.closed).symm
  · rw [aside.backpressure]
    exact truthful.flag
  · rw [aside.backpressure]
    exact truthful.marked
  · intro undisturbing opened
    rw [aside.backpressure]
    rcases aside.reading with same | ⟨ssl, event, member, asked⟩
    · rw [same]
      refine truthful.reading (fun ssl event member => ?_) fun ended => opened ?_
      · exact undisturbing (aside.ssl.trans ssl) event (aside.trace.subset member)
      · exact ended.grows ⟨aside.closed.mpr, aside.trace⟩
    · rw [undisturbing ssl event member] at asked
      cases asked

/-- The frames on the stack do not matter. -/
theorem restack (truthful : Truthful events session) (stack : List Frame) :
    Truthful events { session with stack } :=
  ⟨truthful.hook, truthful.active, truthful.alternates, truthful.flag, truthful.marked,
    truthful.reading⟩

theorem runCloseSequence (truthful : Truthful events session) (destroying : Bool) :
    Truthful events (session.runCloseSequence destroying) := by
  refine ⟨truthful.hook, ?_, truthful.alternates, ?_, ?_, ?_⟩
  · simp [Session.runCloseSequence, Session.push]
  · intro active
    cases active
  · intro active
    cases active
  · exact fun _ opened => absurd (.inl rfl) opened

theorem unregisterChannel (truthful : Truthful events session) :
    Truthful events session.unregisterChannel := by
  refine ⟨truthful.hook, truthful.active, truthful.alternates, truthful.flag, truthful.marked, ?_⟩
  refine fun _ opened => absurd (.inr ?_) opened
  simp [Session.unregisterChannel, Session.emit, Event.isDestroyed]

end Truthful

/-- How a step without a call of the hook ends over the frames that it leaves: in the
loop or the code below, or in another callback. -/
inductive Calm (events : List BackpressureEvent) (base : List Frame) (after : Session) : Prop where
  | bare : Truthful events after → after.stack = base → Calm events base after
  | elsewhere {frame : Frame} : Truthful events after → after.stack = frame :: base →
      frame.told = none → Calm events base after

/-- A step may also end in a call of the hook. -/
inductive Ends (events : List BackpressureEvent) (base : List Frame) (after : Session) : Prop where
  | calm : Calm events base after → Ends events base after
  | hook {frame : Frame} {event : BackpressureEvent} : Truthful (events ++ [event]) after →
      after.stack = frame :: base → frame.told = some event → Ends events base after

namespace Calm

theorem aside (truthful : Truthful events before) (aside : Aside before after) :
    Calm events before.stack after :=
  .bare (truthful.aside aside) aside.stack

theorem push (truthful : Truthful events session) {frame : Frame} (other : frame.told = none) :
    Calm events session.stack (session.push frame) :=
  .elsewhere (truthful.restack _) rfl other

/-- What a function does after code that leaves the controller alone. -/
theorem since (aside : Aside before after) (calm : Calm events after.stack next) :
    Calm events before.stack next := aside.stack ▸ calm

theorem handleClose (truthful : Truthful events session) :
    Calm events session.stack session.handleClose := by
  unfold Session.handleClose
  split
  · exact .bare truthful rfl
  · exact .elsewhere (truthful.runCloseSequence false) rfl rfl

theorem forceCloseInLoop (truthful : Truthful events session) :
    Calm events session.stack session.forceCloseInLoop := by
  unfold Session.forceCloseInLoop
  split
  · exact handleClose truthful
  · exact .bare truthful rfl

theorem connectDestroyed (truthful : Truthful events session) :
    Calm events session.stack session.connectDestroyed := by
  unfold Session.connectDestroyed
  split
  · exact .elsewhere (truthful.runCloseSequence true) rfl rfl
  · exact .bare truthful.unregisterChannel rfl

theorem advanceTransportHandshake (truthful : Truthful events session) (calls : Calls)
    (pending : session.handshakePending = true) :
    Calm events session.stack (session.advanceTransportHandshake calls) := by
  have recorded := Aside.emit (.sslDoHandshake calls.sslDoHandshake) session
  unfold Session.advanceTransportHandshake
  dsimp only
  split
  · have settled : Aside session ({ session.emit (.sslDoHandshake calls.sslDoHandshake) with
        tlsState := .kTlsEstablished }.updateChannel Channel.disableWriting) :=
      recorded.trans (.same rfl rfl rfl rfl rfl rfl rfl)
    exact since settled (push (truthful.aside settled) rfl)
  case h_2 wants =>
    split
    · exact aside truthful recorded
    · have ssl : session.ssl = true := by
        simp only [handshakePending, Bool.and_eq_true] at pending
        exact pending.1
      refine aside truthful (.asked ssl ?_)
      simp [wants, Event.asksToRead]
  · exact aside truthful (recorded.trans (.enableWriting _))
  · exact since recorded (push (truthful.aside recorded) rfl)
  · exact since recorded (push (truthful.aside recorded) rfl)

theorem sslReadIntoBuffer (truthful : Truthful events session) (calls : Calls) :
    Calm events session.stack (session.sslReadIntoBuffer calls) := by
  have recorded := Aside.emit (.sslRead calls.sslRead.2) session
  have kept := truthful.aside recorded
  have received : Calm events session.stack ((session.emit (.sslRead calls.sslRead.2)).push
      (.message session.hooks.message)) := push kept rfl
  unfold Session.sslReadIntoBuffer
  dsimp only
  split
  · split
    · exact .bare kept rfl
    · exact received
  · split
    · exact aside truthful (recorded.trans (.enableWriting _))
    · exact .elsewhere ((kept.aside (.enableWriting _)).restack _) rfl rfl
  · split
    · exact handleClose kept
    · exact received
  · split
    · exact handleClose kept
    · exact received

theorem handleRead (truthful : Truthful events session) (calls : Calls) :
    Calm events session.stack (session.handleRead calls) := by
  unfold Session.handleRead
  split
  case isTrue pending => exact advanceTransportHandshake truthful calls pending
  · split
    · exact sslReadIntoBuffer truthful calls
    · split
      · exact handleClose truthful
      · exact push truthful rfl
      · split
        · exact .bare truthful rfl
        · exact handleClose truthful

end Calm

namespace Ends

theorem since (aside : Aside before after) (ends : Ends events after.stack next) :
    Ends events before.stack next := aside.stack ▸ ends

/-- The controller turns reading off and tells the hook, or on, or does nothing. -/
theorem apply (truthful : Truthful events session) (function : Applying) :
    Ends events session.stack (session.apply function) := by
  unfold Session.apply
  dsimp only
  split
  · exact .calm (.push truthful rfl)
  case isFalse acting =>
    have active : session.backpressure.active = true := by simpa using acting
    have flag := truthful.flag active
    split
    case isTrue unmarked =>
      have enabled : session.backpressure.readingEnabled = true := by
        by_contra paused
        exact truthful.marked active (by simpa using paused) unmarked
      rw [if_neg (by simp [enabled])]
      exact .calm (.push truthful rfl)
    case isFalse marked =>
      split
      case isTrue full =>
        simp only [Bool.and_eq_true] at full
        have last : events.getLast? ≠ some .readPaused := by
          intro paused
          rw [flag.mpr paused] at full
          cases full.1
        refine .hook ⟨truthful.hook, truthful.active, truthful.alternates.paused last, fun _ => ?_,
          fun _ _ => marked, fun _ _ => rfl⟩ rfl (if_pos truthful.hook)
        simp [fire, setReading, updateChannel, Session.push]
      · split
        case isTrue drained =>
          simp only [Bool.and_eq_true, Bool.not_eq_true'] at drained
          refine .hook ⟨truthful.hook, truthful.active,
            truthful.alternates.resumed (flag.mp drained.1), fun _ => ?_, fun _ paused => ?_,
            fun _ _ => rfl⟩ rfl (if_pos truthful.hook)
          · simp [fire, setReading, updateChannel, Session.push]
          · cases paused
        · exact .calm (.push truthful rfl)

theorem bufferOutput (truthful : Truthful events session) (remaining : Bytes) :
    Ends events session.stack (session.bufferOutput remaining) := by
  have appended : Aside session
      { session with outputBuffer := session.outputBuffer.append remaining } :=
    .same rfl rfl rfl rfl rfl rfl rfl
  unfold Session.bufferOutput
  dsimp only
  split
  · exact since appended (apply (truthful.aside appended) .last)
  · have enabled := appended.trans (Aside.enableWriting _)
    exact since enabled (apply (truthful.aside enabled) .last)

theorem sendInLoop (truthful : Truthful events session) (calls : Calls) (pointer : Nat)
    (data : Bytes) : Ends events session.stack (session.sendInLoop calls pointer data) := by
  have sends := sendInLoop_sends calls pointer data session
  generalize session.sendInLoop calls pointer data = sent at sends ⊢
  cases sends with
  | nothing => exact .calm (.bare truthful rfl)
  | behind => exact bufferOutput truthful data
  | failed _ _ raw =>
      have written := Aside.writeRaw raw
      exact since written (.calm (.handleClose (truthful.aside written)))
  | finished _ _ raw =>
      exact .calm (.aside truthful ((Aside.writeRaw raw).trans (.finishPendingWrite _)))
  | rest _ _ raw _ =>
      have written := Aside.writeRaw raw
      exact since written (bufferOutput (truthful.aside written) _)

theorem handleWrite (truthful : Truthful events session) (calls : Calls) :
    Ends events session.stack (session.handleWrite calls) := by
  unfold Session.handleWrite
  split
  case isTrue pending => exact .calm (.advanceTransportHandshake truthful calls pending)
  · split
    · exact .calm (.bare truthful rfl)
    · have drained := Aside.writeFromBuffer calls session
      have kept := truthful.aside drained
      split
      all_goals
        rename_i equation
        rw [equation] at drained kept
      · exact since drained (.calm (.handleClose kept))
      · exact since drained (apply kept .handleWrite)
      · exact .calm (.bare kept drained.stack)

/-- A policy that is applied. -/
theorem policy (truthful : Truthful events session) {high low : Nat}
    (steadfast : high = 0 → session.backpressure.active = true →
      session.backpressure.readingEnabled = true) :
    Ends events session.stack (session.setBackpressurePolicyInLoop high low) := by
  have set : Truthful events { session with backpressure :=
      { session.backpressure with highWaterMark := high, lowWaterMark := low } } := by
    refine ⟨truthful.hook, truthful.active, truthful.alternates, truthful.flag, ?_, truthful.reading⟩
    intro active paused unmarked
    cases (steadfast unmarked active).symm.trans paused
  exact apply set .last

end Ends

/-- The policy that an action applies: one that has passed its check, at once or when it
was queued. -/
def applied (session : Session) : Action → Option (Nat × Nat)
  | .setBackpressurePolicy high low =>
      match ConnectionBackpressureController.validateThresholds high low with
      | .ok () => some (high, low)
      | .error _ => none
  | .functor _ =>
      match session.queue with
      | .setBackpressurePolicyInLoop high low :: _ => some (high, low)
      | _ => none
  | _ => none

/-- No policy without a high water mark is applied while reading is paused. -/
def Steadfast (session : Session) (action : Action) : Prop :=
  ∀ policy ∈ session.applied action, policy.1 = 0 → session.state ≠ .kDisconnected →
    session.backpressure.readingEnabled = true

namespace Calm

/-- The rest of a function after its callback calls no hook. -/
theorem resume (truthful : Truthful events session) {frame : Frame} {rest : List Frame}
    (calls : Calls) : Calm events rest (frame.resume calls { session with stack := rest }) := by
  have popped := truthful.restack rest
  cases frame with
  | applied function event =>
      cases function with
      | connectEstablished =>
          simp only [Frame.resume]
          split
          case isTrue pending => exact advanceTransportHandshake popped calls pending
          case isFalse =>
            have noted := Aside.emit .notifyConnected { session with stack := rest }
            exact since noted (push (popped.aside noted) rfl)
      | handleWrite => exact aside popped (.wrote _)
      | last => exact .bare popped rfl
  | handshakeFailed errno runs => exact handleClose popped
  | handshakeCompleted runs =>
      have noted := Aside.emit .notifyConnected { session with stack := rest }
      exact since noted (push (popped.aside noted) rfl)
  | notify notice =>
      simp only [Frame.resume, wrapper]
      split
      · have noted := Aside.emit (.connectionEvent (session.state = .kConnected))
          { session with stack := rest }
        exact since noted (push (popped.aside noted) rfl)
      · exact push popped rfl
  | connectionEvent notice runs =>
      simp only [Frame.resume, callUser]
      split
      · have noted := Aside.emit (.connectionCallback (session.state = .kConnected))
          { session with stack := rest }
        exact since noted (push (popped.aside noted) rfl)
      · exact push popped rfl
  | connectionCallback notice runs =>
      cases notice with
      | connected => exact .bare popped rfl
      | disconnected destroying =>
          cases destroying with
          | true => exact .bare popped.unregisterChannel rfl
          | false => exact push popped rfl
  | close runs => exact .bare popped rfl
  | message runs => exact .bare popped rfl

/-- The hook is not called. -/
theorem told (calm : Calm events base after) (within : base.length ≤ before.stack.length) :
    told before after = none := by
  unfold Session.told
  cases calm with
  | bare _ stack =>
      split
      case h_1 frame rest top =>
        rw [if_neg]
        rw [stack]
        simp [Nat.not_lt.mpr within]
      case h_2 => rfl
  | elsewhere _ stack other => simp [stack, other]

theorem truthful (calm : Calm events base after) : Truthful events after := by
  cases calm with
  | bare truthful => exact truthful
  | elsewhere truthful => exact truthful

/-- What the hook was told remains true. -/
theorem holds (calm : Calm events base after) (within : base.length ≤ before.stack.length) :
    Truthful (events ++ (Session.told before after).toList) after := by
  rw [calm.told within]
  simpa using calm.truthful

end Calm

/-- What the hook is told is true. -/
theorem Ends.holds (ends : Ends events before.stack after) :
    Truthful (events ++ (told before after).toList) after := by
  cases ends with
  | calm calm => exact calm.holds le_rfl
  | @hook frame event truthful stack calls =>
      have said : told before after = some event := by simp [told, stack, calls]
      rw [said]
      exact truthful

namespace Truthful

theorem functor (truthful : Truthful events session) {functor : Functor} {rest : List Functor}
    (calls : Calls) (queued : session.queue = functor :: rest)
    (steadfast : Steadfast session (.functor calls)) :
    Ends events session.stack (functor.run calls { session with queue := rest }) := by
  have popped : Truthful events { session with queue := rest } :=
    truthful.aside (.same rfl rfl rfl rfl rfl rfl rfl)
  cases functor with
  | sendInLoop pointer data => exact .sendInLoop popped calls pointer data
  | shutdownInLoop =>
      have calm := Calm.aside popped (.shutdownInLoop _)
      exact .calm calm
  | forceCloseInLoop => exact .calm (.forceCloseInLoop popped)
  | setBackpressurePolicyInLoop high low =>
      refine .policy popped fun unmarked active => ?_
      refine steadfast (high, low) ?_ unmarked (truthful.active.mp active)
      simp [applied, queued]
  | connectDestroyed => exact .calm (.connectDestroyed popped)

theorem handle (truthful : Truthful events session) (handler : Handler) {rest : List Handler}
    (calls : Calls) :
    Ends events session.stack (handler.run calls { session with handlers := rest }) := by
  have popped : Truthful events { session with handlers := rest } :=
    truthful.aside (.same rfl rfl rfl rfl rfl rfl rfl)
  cases handler with
  | handleClose => exact .calm (.handleClose popped)
  | handleError => exact .calm (.handleClose popped)
  | handleRead => exact .calm (.handleRead popped calls)
  | handleWrite => exact .handleWrite popped calls

/-- A policy that user code sets is applied, or refused. -/
theorem setBackpressurePolicy (truthful : Truthful events before) {high low : Nat}
    (taken : before.step (.setBackpressurePolicy high low) = some after)
    (steadfast : Steadfast before (.setBackpressurePolicy high low)) :
    Ends events before.stack after := by
  simp only [Session.step, Option.ite_none_right_eq_some] at taken
  obtain ⟨_, taken⟩ := taken
  split at taken
  case h_1 valid =>
    cases taken
    refine .policy truthful fun unmarked active => ?_
    refine steadfast (high, low) ?_ unmarked (truthful.active.mp active)
    simp [applied, valid]
  case h_2 =>
    cases taken
    exact .calm (.bare truthful rfl)

theorem step {action : Action} (truthful : Truthful events before)
    (steadfast : Steadfast before action) (taken : before.step action = some after) :
    Truthful (events ++ (told before after).toList) after := by
  cases step_moves taken with
  | skip => exact (Calm.bare truthful rfl).holds le_rfl
  | send | asyncWrite => exact (Ends.sendInLoop truthful _ _ _).holds
  | shutdown => exact (Calm.aside truthful (.shutdown _)).holds le_rfl
  | forceClose => exact (Calm.forceCloseInLoop truthful).holds le_rfl
  | policy => exact (truthful.setBackpressurePolicy taken steadfast).holds
  | connectDestroyed => exact (Calm.connectDestroyed truthful).holds le_rfl
  | request request => exact (Calm.aside truthful (.request _ request)).holds le_rfl
  | functor idle queued => exact (truthful.functor _ queued steadfast).holds
  | dispatch =>
      refine (Calm.bare (truthful.aside ?_) rfl).holds le_rfl
      exact .same rfl rfl rfl rfl rfl rfl rfl
  | handle => exact (truthful.handle _ _).holds
  | resume top =>
      refine (Calm.resume truthful _).holds ?_
      simp [top]

end Truthful

/-- A connection as the server and the client establish it, with TLS or without. -/
inductive Establishes (hooks : Hooks) (high low : Nat) : Session → Prop where
  | plain : Establishes hooks high low (create hooks high low).connectEstablished
  | tls (fd : Nat) (sslNew : Bool) : Establishes hooks high low (startedTls hooks high low fd sslNew)

theorem Establishes.truthful {hooks : Hooks} {high low : Nat}
    (establishes : Establishes hooks high low session) (hook : hooks.backpressureEvent = true) :
    Truthful [] session := by
  cases establishes with
  | plain =>
      rw [connectEstablished_eq rfl]
      exact ⟨hook, by simp, .nil, by simp, by simp, fun _ _ => rfl⟩
  | tls fd sslNew =>
      rw [startedTls_eq]
      refine ⟨?_, by simp, .nil, by simp, by simp, fun _ _ => rfl⟩
      unfold startTls
      split
      · exact hook
      · split <;> exact hook

/-- What the hook has been told of the run so far. -/
structure Announced (monitored : Monitored) : Prop where
  alternates : Alternates monitored.events
  flag : monitored.session.state ≠ .kDisconnected →
    (monitored.session.backpressure.readingEnabled = false ↔
      monitored.events.getLast? = some .readPaused)

theorem Truthful.announced {monitored : Monitored}
    (truthful : Truthful monitored.events monitored.session) : Announced monitored :=
  ⟨truthful.alternates, fun opened => truthful.flag (truthful.active.mpr opened)⟩

/-- Reading is turned on, and the hook is not told. -/
theorem policy_unmarked (low : Nat) (active : session.backpressure.active = true)
    (paused : session.backpressure.readingEnabled = false) :
    session.setBackpressurePolicyInLoop 0 low =
      ({ session with backpressure :=
        { session.backpressure with highWaterMark := 0, lowWaterMark := low } }.setReading true).push
          (.applied .last none) := by
  simp [setBackpressurePolicyInLoop, Session.apply, active, paused]

/-- A policy that is not steadfast leaves the hook with a pause that is over. -/
theorem Truthful.unannounced {monitored final : Monitored} {action : Action}
    (truthful : Truthful monitored.events monitored.session)
    (taken : monitored.step action = some final)
    (abandoned : ¬Steadfast monitored.session action) : ¬Announced final := by
  simp only [Steadfast, not_forall] at abandoned
  obtain ⟨⟨high, low⟩, set, unmarked, opened, paused⟩ := abandoned
  obtain rfl : high = 0 := unmarked
  have active := truthful.active.mpr opened
  have off : monitored.session.backpressure.readingEnabled = false := by simpa using paused
  have last := (truthful.flag active).mp off
  obtain ⟨next, stepped, rfl⟩ := Option.map_eq_some_iff.mp taken
  have lifted : next.state = monitored.session.state ∧
      next.backpressure.readingEnabled = true ∧ told monitored.session next = none := by
    cases action with
    | setBackpressurePolicy high' low' =>
        simp only [applied] at set
        split at set
        case h_1 valid =>
          cases set
          simp only [Session.step, valid, Option.ite_none_right_eq_some, Option.some.injEq] at stepped
          obtain ⟨_, rfl⟩ := stepped
          rw [policy_unmarked low active off]
          exact ⟨rfl, rfl, ite_self none⟩
        case h_2 => cases set
    | functor calls =>
        simp only [applied] at set
        split at set
        case h_1 rest queued =>
          cases set
          simp only [Session.step, queued, Option.ite_none_right_eq_some, Option.some.injEq] at stepped
          obtain ⟨_, rfl⟩ := stepped
          simp only [Functor.run]
          rw [@policy_unmarked { monitored.session with queue := rest } low active off]
          exact ⟨rfl, rfl, ite_self none⟩
        case h_2 => cases set
    | _ => cases set
  obtain ⟨state, enabled, silent⟩ := lifted
  intro announced
  have shown := (announced.flag (by rwa [state])).mpr (by simpa [silent] using last)
  cases enabled.symm.trans shown

theorem backpressure_events {hooks : Hooks} {high low : Nat} {monitored : Monitored}
    (establishes : Establishes hooks high low session) (hook : hooks.backpressureEvent = true)
    (reach : Reach Monitored.step (fun monitored => Steadfast monitored.session) { session }
      monitored) :
    Announced monitored ∧
      (∀ action final, monitored.step action = some final →
        (Announced final ↔ Steadfast monitored.session action)) ∧
      (Undisturbing monitored.session → ¬Ended monitored.session →
        monitored.session.channel.isReading = monitored.session.backpressure.readingEnabled) := by
  have kept : ∀ (earlier later : Monitored) action, Truthful earlier.events earlier.session →
      Steadfast earlier.session action → earlier.step action = some later →
      Truthful later.events later.session := by
    intro earlier later action truthful steadfast taken
    obtain ⟨next, stepped, rfl⟩ := Option.map_eq_some_iff.mp taken
    exact truthful.step steadfast stepped
  have truthful : Truthful monitored.events monitored.session :=
    @Reach.invariant _ _ _ _ _ (fun monitored => Truthful monitored.events monitored.session)
      (establishes.truthful hook) kept _ reach
  refine ⟨truthful.announced, fun action final taken => ⟨fun announced => ?_, fun steadfast => ?_⟩,
    truthful.reading⟩
  · by_contra abandoned
    exact truthful.unannounced taken abandoned announced
  · exact (kept _ _ _ truthful steadfast taken).announced

instance (session : Session) (action : Action) : Decidable (Steadfast session action) :=
  inferInstanceAs (Decidable (∀ policy ∈ session.applied action, _ → _))

/-- A plain connection with a hook, whose reading pauses at two bytes and resumes at one. -/
def watched : Session := (create { backpressureEvent := true } 2 1).connectEstablished

/-- Two of three bytes cannot be written, and fill the buffer up to its mark. -/
def pausingRun : List Action :=
  [.resume {}, .resume {}, .resume {}, .resume {}, .send 0 [1, 2, 3] { write := fun _ => .wrote 1 },
    .resume {}]

/-- The marks are moved, the buffer is drained, and the hook takes the policy away. -/
def drainingRun : List Action :=
  pausingRun ++ [.setBackpressurePolicy 4 1, .resume {}, .dispatch { write := true }, .handle {},
    .setBackpressurePolicy 0 0, .resume {}, .resume {}]

theorem backpressure_events_drained :
    ∃ monitored : Monitored,
      run (checked Monitored.step fun monitored => Steadfast monitored.session)
        { session := watched } drainingRun = some monitored ∧
      monitored.events = [.readPaused, .readResumed] ∧ Announced monitored := by
  have final : ∃ monitored : Monitored,
      run (checked Monitored.step fun monitored => Steadfast monitored.session)
        { session := watched } drainingRun = some monitored ∧
      monitored.events = [.readPaused, .readResumed] := ⟨_, rfl, rfl⟩
  obtain ⟨monitored, ran, events⟩ := final
  have establishes : Establishes { backpressureEvent := true } 2 1 watched := .plain
  exact ⟨monitored, ran, events, (backpressure_events establishes rfl (.checked .start ran)).1⟩

/-- The policy is taken away while reading is paused. -/
def liftingRun : List Action := pausingRun ++ [.setBackpressurePolicy 0 0, .resume {}]

/-- Reading is on after a pause that the hook was told of, and the next event is a second pause. -/
theorem backpressure_events_lost :
    ∃ lifted again : Monitored,
      run Monitored.step { session := watched } liftingRun = some lifted ∧
        lifted.session.idle = true ∧ lifted.session.state = .kConnected ∧
        lifted.session.backpressure.readingEnabled = true ∧ lifted.events = [.readPaused] ∧
      run Monitored.step { session := watched }
          (liftingRun ++ [.setBackpressurePolicy 2 1, .resume {}]) = some again ∧
        again.session.idle = true ∧ again.session.state = .kConnected ∧
        again.events = [.readPaused, .readPaused] ∧ ¬Alternates again.events ∧
        ¬Announced lifted := by
  refine ⟨_, _, rfl, rfl, rfl, rfl, rfl, rfl, rfl, rfl, rfl, fun alternates => ?_,
    fun announced => ?_⟩
  · have apart := List.isChain_pair.mp alternates.differ
    exact apart rfl
  · have shown := (announced.flag (by decide)).mpr rfl
    cases shown

end MiniTrantor.Net.Session
