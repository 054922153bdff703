import MiniTrantor.Net.Connection.Dispatch

/-!
# The output stream of a plain connection

The bytes the transport accepted, followed by the output buffer, are the bytes
given to `sendInLoop`, and write interest is set exactly while bytes are buffered.
A write awaitable that resumes with success had all its bytes accepted.
-/

set_option autoImplicit false

namespace MiniTrantor.Net

open ConnectionAwaiterRegistry ConnectionBackpressureController TcpConnection

variable {world : World}

/-- Bytes that the transport accepted, in order. -/
def wroteBytes (trace : List Event) : Bytes := trace.flatMap Event.wroteBytes

/-- Bytes given to `sendInLoop`, in order. -/
def submittedBytes (trace : List Event) : Bytes := trace.flatMap Event.submittedBytes

@[simp] theorem wroteBytes_append (front back : List Event) :
    wroteBytes (front ++ back) = wroteBytes front ++ wroteBytes back := List.flatMap_append

@[simp] theorem submittedBytes_append (front back : List Event) :
    submittedBytes (front ++ back) = submittedBytes front ++ submittedBytes back :=
  List.flatMap_append

/-! ## Integrity and write interest -/

/-- What ties the output buffer to the trace. `removed` is there because
`connectDestroyed` on a half-closed connection drops the write interest. -/
structure OutputFacts (ssl : Bool) (state : StateE) (writing active : Bool) (buffer : Bytes)
    (trace : List Event) : Prop where
  plain : ssl = false
  idle : state = .kDisconnected → writing = false ∧ active = false
  integrity : state ≠ .kDisconnected → submittedBytes trace = wroteBytes trace ++ buffer
  interest : state ≠ .kDisconnected → .removed ∉ trace → buffer ≠ [] → writing = true

def OutputStream (conn : Conn) : Prop :=
  OutputFacts conn.transport.ssl conn.state conn.channel.isWriting conn.backpressure.active
    conn.outputBuffer conn.trace

/-- Events that move no output. -/
def Event.isOther : Event → Bool
  | .wrote _ | .submitted .. | .removed => false
  | _ => true

section Facts

variable {ssl : Bool} {state : StateE} {writing active : Bool} {buffer : Bytes} {trace : List Event}

theorem OutputFacts.notes {events : List Event}
    (kept : OutputFacts ssl state writing active buffer trace)
    (others : ∀ event ∈ events, event.isOther = true) :
    OutputFacts ssl state writing active buffer (trace ++ events) where
  plain := kept.plain
  idle := kept.idle
  integrity := by
    intro opened
    have silent : ∀ event ∈ events, event.wroteBytes = [] ∧ event.submittedBytes = [] := by
      intro event member
      have other := others event member
      cases event <;> first | exact ⟨rfl, rfl⟩ | cases other
    have wrote : wroteBytes events = [] :=
      List.flatMap_eq_nil_iff.mpr fun event member => (silent event member).1
    have submitted : submittedBytes events = [] :=
      List.flatMap_eq_nil_iff.mpr fun event member => (silent event member).2
    simpa [wrote, submitted] using kept.integrity opened
  interest := by
    intro opened unremoved
    exact kept.interest opened fun removed => unremoved (List.mem_append_left _ removed)

theorem OutputFacts.note {event : Event} (kept : OutputFacts ssl state writing active buffer trace)
    (other : event.isOther = true) :
    OutputFacts ssl state writing active buffer (trace ++ [event]) :=
  kept.notes (by simpa using other)

theorem OutputFacts.state_change {next : StateE} (kept : OutputFacts ssl state writing active buffer trace)
    (before : state ≠ .kDisconnected) (opened : next ≠ .kDisconnected) :
    OutputFacts ssl next writing active buffer trace :=
  ⟨kept.plain, fun closed => absurd closed opened, fun _ => kept.integrity before,
    fun _ => kept.interest before⟩

/-- The start of a close sequence leaves nothing to keep but the idle channel. -/
theorem OutputFacts.closed (plain : ssl = false) :
    OutputFacts ssl .kDisconnected false false buffer trace :=
  ⟨plain, fun _ => ⟨rfl, rfl⟩, fun opened => absurd rfl opened, fun opened => absurd rfl opened⟩

end Facts

theorem OutputStream.submitted {origin : Origin} {data : Bytes} {before after : Conn}
    (kept : OutputStream before) (opened : before.state ≠ .kDisconnected)
    (effect : SubmitEffect origin data before after) : OutputStream after := by
  obtain ⟨⟨sent, rest, events, payload, buffer, trace, wrote, transfers, direct, busy, quiet⟩, frame⟩ :=
    effect
  have state : after.state = before.state := by rw [frame]
  have open' : after.state ≠ .kDisconnected := by rw [state]; exact opened
  have silent : submittedBytes events = [] := by
    simp only [submittedBytes, List.flatMap_eq_nil_iff]
    intro event member
    have transfer := transfers event member
    cases event <;> first | rfl | cases transfer
  refine ⟨?_, fun closed => absurd closed open', fun _ => ?_, fun _ unremoved nonempty => ?_⟩
  · rw [frame]; exact kept.plain
  · have before' := kept.integrity opened
    have sentBytes : wroteBytes events = sent := wrote
    have wroteHead : wroteBytes [.submitted origin data] = [] := rfl
    have submittedHead : submittedBytes [.submitted origin data] = data := List.append_nil data
    rw [trace, buffer, List.append_cons]
    simp only [submittedBytes_append, wroteBytes_append, wroteHead, submittedHead, silent, sentBytes,
      before', List.append_nil, List.append_assoc, List.append_cancel_left_eq]
    rw [payload]
    by_cases nothing : sent = []
    · simp [nothing]
    · simp [direct (by rw [wrote]; exact nothing)]
  · by_cases left : rest = []
    · rw [quiet left]
      refine kept.interest opened ?_ (by simpa [buffer, left] using nonempty)
      intro removed
      exact unremoved (by rw [trace]; exact List.mem_append_left _ removed)
    · exact busy left

theorem OutputStream.arrived {origin : Origin} {data : Bytes} {before after : Conn}
    (kept : OutputStream before) (arrives : Arrives origin data before after) :
    OutputStream after := by
  cases arrives with
  | ownerSend _ => exact OutputFacts.note kept rfl
  | queuedSend _ | waiter _ _ _ _ _ _ => exact kept

theorem OutputStream.shutdownWrite {conn : Conn} (kept : OutputStream conn) :
    OutputStream (ConnectionTransport.shutdownWrite conn) := by
  have noted := OutputFacts.note kept (by rfl : (Event.shutdownWrite conn.pendingPayloads.length).isOther = true)
  exact ⟨(sslShutdown_ssl _).trans kept.plain, noted.idle, noted.integrity, noted.interest⟩

/-- The channel changes, and with it at most the write interest of a closed or
drained connection. -/
theorem OutputStream.updated {conn : Conn} {change : Channel → Channel} (kept : OutputStream conn)
    (idle : conn.state = .kDisconnected → (change conn.channel).isWriting = false)
    (interest : conn.outputBuffer ≠ [] → conn.channel.isWriting = true →
      (change conn.channel).isWriting = true) :
    OutputStream (conn.updateChannel change) := by
  have noted := OutputFacts.note kept
    (by rfl : (Event.update (change conn.channel).events).isOther = true)
  exact ⟨kept.plain, fun closed => ⟨idle closed, (kept.idle closed).2⟩, noted.integrity,
    fun opened unremoved nonempty => interest nonempty (noted.interest opened unremoved nonempty)⟩

theorem OutputStream.reading {conn : Conn} {enabled : Bool} (kept : OutputStream conn)
    (active : conn.backpressure.active = true) : OutputStream (setReading enabled conn) := by
  have opened : conn.state ≠ .kDisconnected := by
    intro closed
    have inactive := (kept.idle closed).2
    rw [active] at inactive
    cases inactive
  have same := setReading_isWriting enabled conn
  exact @OutputStream.updated
    { conn with backpressure := { conn.backpressure with readingEnabled := enabled } } _ kept
    (fun closed => absurd closed opened) (fun _ writing => same.trans writing)

theorem OutputStream.unregisterChannel {conn : Conn} (kept : OutputStream conn) :
    OutputStream (TcpConnection.unregisterChannel conn) := by
  obtain ⟨updates, all, _, removed⟩ := unregisterChannel_eq conn
  rw [removed]
  have others : ∀ event ∈ updates, event.isOther = true := by
    intro event member
    have update := all event member
    cases event <;> first | rfl | cases update
  have noted := OutputFacts.notes kept others
  refine ⟨kept.plain, fun closed => ⟨rfl, (kept.idle closed).2⟩, fun opened => ?_,
    fun _ unremoved => absurd (by simp) unremoved⟩
  have before := noted.integrity opened
  have silent : wroteBytes [.removed] = [] ∧ submittedBytes [.removed] = [] := ⟨rfl, rfl⟩
  simpa only [wroteBytes_append, submittedBytes_append, silent, List.append_nil] using before

theorem isNote_isOther {event : Event} (note : event.isNote = true) : event.isOther = true := by
  cases event <;> first | rfl | cases note

theorem outputStream : Invariant world true OutputStream := by
  constructor
  case move =>
    intro before after move kept
    cases move with
    | enqueue | dequeue | request | push | claims | callbacks | policy | requestAwait | register =>
        exact kept
    | dequeueShutdown _ _ | shutdownWrite _ _ =>
        exact OutputStream.shutdownWrite kept
    | accept _ => exact OutputFacts.note kept rfl
    | note note => exact OutputFacts.note kept (isNote_isOther note)
    | reading active => exact kept.reading active
    | modifyInput | error _ => exact OutputFacts.note kept rfl
    | beginShutdown connected | requestShutdown connected =>
        have opened : before.state ≠ .kDisconnected := by rw [connected]; decide
        exact OutputFacts.note (OutputFacts.state_change kept opened (by simp)) rfl
    | submit arrives opened submits =>
        exact (kept.arrived arrives).submitted (by rw [arrives.state_eq]; exact opened) submits.effect
    | cancelled _ | failed _ | queued _ _ | armWriteReady _ _ _ _ _ | unregister _
    | destroyed _ =>
        exact OutputFacts.note kept rfl
    | @armRead _ _ _ ready _ _ _ _ _ _ | @armClose _ _ _ ready _ _ _ _ _ =>
        cases ready
        · exact kept
        · exact OutputFacts.note kept rfl
    | unregisterChannel _ => exact kept.unregisterChannel
  case take =>
    intro waiter awaitable before after takes kept
    cases takes <;> exact kept
  case finish =>
    intro waiter before after finishes kept
    cases finishes with
    | complete _ _ => exact kept
    | finish _ _ =>
        obtain ⟨_, _, _, _, finished⟩ := finishAwait_eq _ _ _
        rw [finished]
        exact OutputFacts.notes kept (by simp [Event.isOther])
  case dispatch =>
    intro _ before after move kept
    cases move with
    | receive | dispatch | draining => exact OutputFacts.note kept rfl
    | established => exact kept
    | interest ssl _ _ => rw [kept.plain] at ssl; cases ssl
  case retrieve =>
    intro _ conn count writing kept
    have opened : conn.state ≠ .kDisconnected := by
      intro closed
      have idle := (kept.idle closed).1
      rw [writing] at idle
      cases idle
    refine ⟨kept.plain, fun closed => absurd closed opened, fun _ => ?_, fun _ _ _ => writing⟩
    have before := kept.integrity opened
    simp [ConnectionTransport.retrieveWritten, wroteBytes, submittedBytes, Event.wroteBytes,
      Event.submittedBytes] at before ⊢
    exact before
  case settle =>
    intro _ conn kept
    simp only [settle]
    split
    case isTrue drained =>
      have noted : OutputStream (conn.emit (.checkpoint .drained conn.state)) := kept.note rfl
      exact noted.updated (fun _ => rfl) fun nonempty => absurd (by simpa using drained) nonempty
    case isFalse => exact kept
  case close =>
    intro conn failed _ fails kept
    obtain ⟨_, frame⟩ := fails.frame
    exact OutputFacts.closed (frame.ssl.trans kept.plain)
  case disconnected => exact fun _ kept => OutputFacts.note kept rfl
  case closeCallback => exact fun kept => OutputFacts.note kept rfl

/-! ## No drain of an empty buffer -/

/-- Only channel dispatch records a drain. -/
theorem undrained (count : Nat) : Invariant world false fun conn => .draining count ∉ conn.trace := by
  have silent : ∀ {before after : Conn} {events : List Event}, Frame before after events →
      .draining count ∉ before.trace → .draining count ∉ after.trace := by
    intro before after events frame kept
    rw [frame.trace, List.mem_append]
    rintro (old | new)
    · exact kept old
    · cases frame.quiet _ new
  constructor
  case move =>
    intro before after move
    obtain ⟨_, frame⟩ := move.frame
    exact silent frame
  case take =>
    intro waiter awaitable before after takes kept
    cases takes <;> exact kept
  case finish =>
    intro waiter before after finishes kept
    cases finishes with
    | complete _ _ => exact kept
    | finish _ _ =>
        obtain ⟨_, _, _, _, finished⟩ := finishAwait_eq _ _ _
        rw [finished]
        simpa using kept
  case dispatch => simp
  case retrieve => simp
  case settle => simp
  case close =>
    intro conn failed _ fails kept
    obtain ⟨_, frame⟩ := fails.frame
    have opened := silent frame kept
    simpa [shutChannel_trace] using opened
  case disconnected =>
    intro conn _ kept
    simpa [noteDisconnected] using kept
  case closeCallback =>
    intro conn kept
    simpa using kept

/-- Write interest is only set while bytes are buffered, and no drain finds the
buffer empty. -/
structure Precise (conn : Conn) : Prop where
  plain : conn.transport.ssl = false
  exact : conn.channel.isWriting = true → conn.outputBuffer ≠ []
  drains : .draining 0 ∉ conn.trace

theorem Move.exact {before after : Conn} (move : Move world before after)
    (kept : before.channel.isWriting = true → before.outputBuffer ≠ []) :
    after.channel.isWriting = true → after.outputBuffer ≠ [] := by
  cases move with
  | enqueue | dequeue | dequeueShutdown | request | accept | push | claims | note | callbacks
  | policy | modifyInput | error | beginShutdown | requestShutdown | shutdownWrite | requestAwait
  | register | cancelled | failed | queued | armWriteReady | unregister | destroyed => exact kept
  | reading _ =>
      intro writing
      rw [setReading_isWriting] at writing
      exact kept writing
  | @submit _ _ _ arrived _ arrives _ submits =>
      have same : arrived.channel = before.channel ∧ arrived.outputBuffer = before.outputBuffer := by
        cases arrives <;> exact ⟨rfl, rfl⟩
      obtain ⟨⟨sent, rest, events, _, buffer, _, _, _, _, _, quiet⟩, _⟩ := submits.effect
      intro writing
      rw [buffer, same.2]
      by_cases left : rest = []
      · rw [quiet left, same.1] at writing
        simpa [left] using kept writing
      · simp [left]
  | @armRead _ _ _ ready _ _ _ _ _ _ | @armClose _ _ _ ready _ _ _ _ _ => cases ready <;> exact kept
  | unregisterChannel _ =>
      obtain ⟨_, _, _, removed⟩ := unregisterChannel_eq before
      rw [removed]
      intro writing
      cases writing

theorem Finishes.output {waiter : WaiterId} {before after : Conn}
    (finishes : Finishes waiter before after) :
    after.transport = before.transport ∧ after.channel = before.channel ∧
      after.outputBuffer = before.outputBuffer := by
  cases finishes with
  | complete _ _ => exact ⟨rfl, rfl, rfl⟩
  | finish _ _ =>
      obtain ⟨_, _, _, _, finished⟩ := finishAwait_eq _ _ _
      rw [finished]
      exact ⟨rfl, rfl, rfl⟩

theorem Drains.undrained {count : Nat} {before after : Conn} (drains : Drains before after)
    (kept : .draining count ∉ before.trace) : .draining count ∉ after.trace := by
  induction drains with
  | first _ => simpa [ConnectionTransport.retrieveWritten] using kept
  | more _ ih => simpa [ConnectionTransport.retrieveWritten] using ih
  | wantRead _ _ ih => simpa using ih

/-- However the buffer was drained, the end of `handleWrite` restores exactness. -/
theorem Precise.settle {conn : Conn} (plain : conn.transport.ssl = false)
    (drains : .draining 0 ∉ conn.trace) : Precise (settle conn) := by
  unfold Net.settle
  split
  case isTrue => exact ⟨plain, (by simp), by simpa using drains⟩
  case isFalse left => exact ⟨plain, fun _ empty => left (by simp [empty]), drains⟩

theorem Ran.precise {scope : Scope} {first second : Conn} (ran : Ran world scope first second)
    (kept : Precise first) : Precise second := by
  induction ran with
  | refl => exact kept
  | step _ move ih =>
      have before := ih kept
      obtain ⟨_, frame⟩ := move.frame
      exact ⟨frame.ssl.trans before.plain, move.exact before.exact,
        (undrained 0).move move before.drains⟩
  | arm _ takes _ _ ih inner =>
      have before := ih kept
      apply inner
      cases takes <;> exact ⟨before.plain, before.exact, before.drains⟩
  | resumed _ finishes ih =>
      have before := ih kept
      obtain ⟨transport, channel, buffer⟩ := finishes.output
      refine ⟨?_, ?_, (@undrained world 0).finish finishes before.drains⟩
      · rw [transport]; exact before.plain
      · rw [channel, buffer]; exact before.exact
  | @dispatched _ second _ _ move ih =>
      have before := ih kept
      cases move with
      | receive | dispatch => exact ⟨before.plain, before.exact, by
          simpa [ConnectionTransport.appendInput] using before.drains⟩
      | established => exact ⟨before.plain, before.exact, before.drains⟩
      | interest ssl _ _ => rw [before.plain] at ssl; cases ssl
      | draining writing =>
          refine ⟨before.plain, before.exact, ?_⟩
          have busy : second.outputBuffer.length ≠ 0 := by simpa using before.exact writing
          simpa [busy.symm] using before.drains
  | drain _ drains inner ih _ =>
      have before := ih kept
      exact Precise.settle ((inner.ssl_eq.trans drains.ssl_eq).trans before.plain)
        ((undrained 0).ran inner (by simp) (drains.undrained before.drains))
  | closing notified _ opened fails _ _ ih resumes inner =>
      have before := ih kept
      obtain ⟨_, frame⟩ := fails.frame
      have begun := resumes ⟨frame.ssl.trans before.plain, (by rintro ⟨⟩),
        (undrained 0).close opened fails before.drains⟩
      have notice := inner ⟨begun.plain, begun.exact, by simpa [noteDisconnected] using begun.drains⟩
      cases notified with
      | false => exact notice
      | true => exact ⟨notice.plain, notice.exact, by simpa [noteClosed] using notice.drains⟩

/-! ## Results -/

theorem Setup.opened_output (setup : Setup) :
    OutputStream setup.opened ∧ Precise setup.opened := by
  refine ⟨⟨rfl, (by rintro ⟨⟩), fun _ => rfl, fun _ _ nonempty => absurd rfl nonempty⟩, rfl, (by rintro ⟨⟩), ?_⟩
  simp [Setup.opened]

/-- In every run of a plain connection no drain finds the buffer empty, and while
it is open the submitted bytes are those the transport accepted followed by the
output buffer, with write interest exactly while bytes are buffered. -/
theorem output_stream_integrity (setup : Setup) (plain : setup.tls = false) (world : World)
    (depth : Nat) (steps : List Step) :
    let conn := setup.run world depth steps
    .draining 0 ∉ conn.trace ∧
      (conn.state ≠ .kDisconnected →
        submittedBytes conn.trace = wroteBytes conn.trace ++ conn.outputBuffer ∧
        (.removed ∉ conn.trace → (conn.channel.isWriting = true ↔ conn.outputBuffer ≠ []))) := by
  have stream := (@outputStream world).run_opened plain setup.opened_output.1 depth steps
  have precise := @Setup.run_opened setup world depth Precise plain setup.opened_output.2
    (fun ran => ran.precise) steps
  refine ⟨precise.drains, fun opened => ⟨stream.integrity opened, fun unremoved => ?_⟩⟩
  exact ⟨precise.exact, stream.interest opened unremoved⟩

/-- A socket that takes one byte at a time. -/
def oneByteSocket : World where
  write := fun _ data => .wrote (min 1 data.length)
  write_le := wroteOne_le

theorem output_stream_integrity_one_byte :
    let conn := Setup.run {} oneByteSocket 1 [.call (.send [1, 2, 3])]
    conn.outputBuffer = [2, 3] ∧
      submittedBytes conn.trace = wroteBytes conn.trace ++ conn.outputBuffer :=
  ⟨by decide,
    ((output_stream_integrity {} rfl oneByteSocket 1 [.call (.send [1, 2, 3])]).2 (by decide)).1⟩

/-! ## Write awaitables -/

/-- The waiter's resumption was queued, its payload submitted before, and all that
was submitted before accepted by the transport. -/
def HandedOver (waiter : WaiterId) (data : Bytes) (trace : List Event) : Prop :=
  ∃ before after, trace = before ++ .resumeQueued waiter .ready :: after ∧
    .submitted (.waiter waiter) data ∈ before ∧ submittedBytes before = wroteBytes before

theorem HandedOver.append {waiter : WaiterId} {data : Bytes} {trace : List Event}
    (handed : HandedOver waiter data trace) (events : List Event) :
    HandedOver waiter data (trace ++ events) := by
  obtain ⟨before, after, split, submitted, accepted⟩ := handed
  exact ⟨before, after ++ events, by simp [split], submitted, accepted⟩

/-- A resumption of a write that reports success. -/
def Event.isWriteDone : Event → Bool
  | .awaitFinished _ awaitable _ .done => awaitable.kind == .write && !awaitable.data.isEmpty
  | _ => false

/-- What is known of the write waiter while it waits, while its resumption is
queued, and once it has resumed. -/
structure WriteFacts (state : StateE) (slot : Option WaiterId) (waiters : WaiterId → AwaiterState)
    (trace : List Event) : Prop where
  waiting : ∀ waiter awaitable, slot = some waiter → (waiters waiter).phase = .pending →
    (waiters waiter).handle = some awaitable →
    .submitted (.waiter waiter) awaitable.data ∈ trace
  queued : ∀ waiter awaitable, (waiters waiter).phase = .queued → (waiters waiter).outcome = .ready →
    (waiters waiter).handle = some awaitable → awaitable.kind = .write → awaitable.data ≠ [] →
    state = .kDisconnected ∨ HandedOver waiter awaitable.data trace
  finished : ∀ waiter awaitable state, .awaitFinished waiter awaitable state .done ∈ trace →
    awaitable.kind = .write → awaitable.data ≠ [] → HandedOver waiter awaitable.data trace

def WriteWaiter (conn : Conn) : Prop :=
  WriteFacts conn.state conn.registry.writeWaiter conn.waiters conn.trace

section WriteFacts

variable {state next : StateE} {slot newSlot : Option WaiterId} {waiters : WaiterId → AwaiterState}
  {trace events : List Event}

theorem WriteFacts.extend (facts : WriteFacts state slot waiters trace)
    (closed : state = .kDisconnected → next = .kDisconnected)
    (finished : ∀ waiter awaitable state, .awaitFinished waiter awaitable state .done ∈ events →
      awaitable.kind = .write → awaitable.data ≠ [] → HandedOver waiter awaitable.data trace) :
    WriteFacts next slot waiters (trace ++ events) where
  waiting := fun waiter awaitable occupied pending suspended =>
    List.mem_append_left _ (facts.waiting waiter awaitable occupied pending suspended)
  queued := fun waiter awaitable queued ready suspended kind nonempty =>
    (facts.queued waiter awaitable queued ready suspended kind nonempty).imp closed (·.append events)
  finished := by
    intro waiter awaitable state member kind nonempty
    apply HandedOver.append
    rcases List.mem_append.mp member with old | new
    · exact facts.finished waiter awaitable state old kind nonempty
    · exact finished waiter awaitable state new kind nonempty

theorem WriteFacts.grow (facts : WriteFacts state slot waiters trace)
    (closed : state = .kDisconnected → next = .kDisconnected)
    (unfinished : ∀ event ∈ events, event.isWriteDone = false) :
    WriteFacts next slot waiters (trace ++ events) := by
  refine facts.extend closed fun waiter awaitable state member kind nonempty => ?_
  have done := unfinished _ member
  simp [Event.isWriteDone, kind, nonempty] at done

/-- One waiter changes, or the slot is given to it. -/
theorem WriteFacts.update (facts : WriteFacts state slot waiters trace) {changed : WaiterId}
    {new : AwaiterState} (slots : ∀ waiter, waiter ≠ changed → newSlot = some waiter → slot = some waiter)
    (waiting : ∀ awaitable, newSlot = some changed → new.phase = .pending →
      new.handle = some awaitable → .submitted (.waiter changed) awaitable.data ∈ trace)
    (queued : ∀ awaitable, new.phase = .queued → new.outcome = .ready → new.handle = some awaitable →
      awaitable.kind = .write → awaitable.data ≠ [] →
      state = .kDisconnected ∨ HandedOver changed awaitable.data trace) :
    WriteFacts state newSlot (Function.update waiters changed new) trace where
  waiting := by
    intro waiter awaitable occupied
    by_cases same : waiter = changed
    · subst same
      simpa using waiting awaitable occupied
    · simpa [same] using facts.waiting waiter awaitable (slots waiter same occupied)
  queued := by
    intro waiter awaitable
    by_cases same : waiter = changed
    · subst same
      simpa using queued awaitable
    · simpa [same] using facts.queued waiter awaitable
  finished := facts.finished

/-- The slot is given to a waiter whose payload is submitted. -/
theorem WriteFacts.occupy (facts : WriteFacts state slot waiters trace) {waiter : WaiterId}
    (submitted : ∀ awaitable, (waiters waiter).handle = some awaitable →
      .submitted (.waiter waiter) awaitable.data ∈ trace) :
    WriteFacts state (some waiter) waiters trace where
  waiting := by
    rintro other awaitable ⟨⟩ _ suspended
    exact submitted awaitable suspended
  queued := facts.queued
  finished := facts.finished

/-- A waiter is queued: not as a ready write, or with the connection closed, or
with all submitted bytes accepted. -/
theorem WriteFacts.markQueued (facts : WriteFacts state slot waiters trace) {waiter : WaiterId}
    (slots : ∀ other, other ≠ waiter → newSlot = some other → slot = some other)
    (reason : ∀ awaitable, (waiters waiter).outcome = .ready → (waiters waiter).handle = some awaitable →
      awaitable.kind = .write → awaitable.data ≠ [] → state = .kDisconnected ∨
        .submitted (.waiter waiter) awaitable.data ∈ trace ∧ submittedBytes trace = wroteBytes trace) :
    WriteFacts state newSlot
      (Function.update waiters waiter { waiters waiter with phase := .queued })
      (trace ++ [.resumeQueued waiter (waiters waiter).outcome]) := by
  refine (facts.grow id (by simp [Event.isWriteDone])).update slots (by simp) ?_
  intro awaitable _ ready suspended kind nonempty
  refine (reason awaitable ready suspended kind nonempty).imp_right ?_
  rintro ⟨submitted, accepted⟩
  have outcome : (waiters waiter).outcome = .ready := ready
  exact ⟨trace, [], by rw [outcome], submitted, accepted⟩

end WriteFacts

theorem isWriteDone_quiet {event : Event} (quiet : event.isLoud = false) :
    event.isWriteDone = false := by
  cases event <;> first | rfl | cases quiet

theorem WriteWaiter.framed {before after : Conn} {events : List Event} (kept : WriteWaiter before)
    (frame : Frame before after events) (waiters : after.waiters = before.waiters)
    (slot : after.registry.writeWaiter = before.registry.writeWaiter) : WriteWaiter after := by
  unfold WriteWaiter
  rw [waiters, slot, frame.trace]
  exact WriteFacts.grow kept frame.closed fun event member =>
    isWriteDone_quiet (frame.quiet event member)

/-- A payload was submitted, by the write waiter or by `send`. -/
theorem WriteWaiter.arrived {origin : Origin} {data : Bytes} {before arrived after : Conn}
    (kept : WriteWaiter before) (arrives : Arrives origin data before arrived)
    {events : List Event} (frame : Frame before after events)
    (waiters : after.waiters = arrived.waiters) (registry : after.registry = arrived.registry)
    (submitted : .submitted origin data ∈ after.trace) : WriteWaiter after := by
  cases arrives with
  | ownerSend _ => exact kept.framed frame waiters (by rw [registry]; rfl)
  | queuedSend _ => exact kept.framed frame waiters (by rw [registry])
  | @waiter waiter awaitable _ _ handle _ _ _ _ =>
      have grown : WriteFacts after.state before.registry.writeWaiter before.waiters after.trace := by
        rw [frame.trace]
        exact WriteFacts.grow kept frame.closed fun event member =>
          isWriteDone_quiet (frame.quiet event member)
      unfold WriteWaiter
      rw [waiters, registry]
      refine grown.occupy ?_
      intro other suspended
      rw [handle] at suspended
      cases suspended
      exact submitted

/-- Everything that is known of a plain connection's write awaitables. -/
structure AsyncWrite (conn : Conn) : Prop where
  output : OutputStream conn
  sound : ∀ waiter, (conn.waiters waiter).Sound
  slots : Slots conn.waiters conn.registry
  writes : WriteWaiter conn

/-- A slot never holds a waiter that is not armed. -/
theorem AsyncWrite.unheld {conn : Conn} (kept : AsyncWrite conn) {waiter : WaiterId}
    (unarmed : (conn.waiters waiter).phase = .unarmed) :
    conn.registry.writeWaiter ≠ some waiter :=
  fun occupied => (kept.slots.write waiter occupied).1 unarmed

/-- The reasons to queue the write waiter. -/
theorem AsyncWrite.wakes {conn : Conn} (kept : AsyncWrite conn) {waiter : WaiterId}
    (pending : (conn.waiters waiter).phase = .pending) (wakes : Wakes conn waiter)
    {awaitable : Awaitable} (suspended : (conn.waiters waiter).handle = some awaitable)
    (kind : awaitable.kind = .write) :
    conn.state = .kDisconnected ∨ .submitted (.waiter waiter) awaitable.data ∈ conn.trace ∧
      submittedBytes conn.trace = wroteBytes conn.trace := by
  by_cases closed : conn.state = .kDisconnected
  · exact .inl closed
  · cases wakes with
    | closed now => exact absurd now closed
    | readable occupied _ =>
        have read := ((kept.slots.read waiter occupied).2 awaitable suspended).1
        rw [kind] at read
        cases read
    | written occupied drained =>
        have integrity := kept.output.integrity closed
        rw [drained, List.append_nil] at integrity
        exact .inr ⟨kept.writes.waiting waiter awaitable occupied pending suspended, integrity⟩

theorem AsyncWrite.move {before after : Conn} (move : Move world before after)
    (kept : AsyncWrite before) : WriteWaiter after := by
  obtain ⟨events, frame⟩ := move.frame
  cases move with
  | enqueue | dequeue | dequeueShutdown | request | accept | push | claims | note | callbacks
  | policy | reading | modifyInput | error | beginShutdown | requestShutdown | shutdownWrite
  | destroyed =>
      exact kept.writes.framed frame rfl rfl
  | submit arrives _ submits =>
      obtain ⟨⟨_, _, _, _, _, trace, _⟩, same⟩ := submits.effect
      exact kept.writes.arrived arrives frame (by rw [same]) (by rw [same]) (by simp [trace])
  | requestAwait unarmed =>
      exact WriteFacts.update kept.writes (fun _ _ => id)
        (fun _ occupied => absurd occupied (kept.unheld unarmed)) (by simp)
  | @register _ waiter _ _ =>
      exact WriteFacts.update kept.writes (fun _ _ => id)
        (fun awaitable => kept.writes.waiting waiter awaitable)
        (fun awaitable => kept.writes.queued waiter awaitable)
  | cancelled _ | failed _ =>
      have grown := WriteFacts.grow kept.writes frame.closed fun event member =>
        isWriteDone_quiet (frame.quiet event member)
      rw [← frame.trace] at grown
      unfold WriteWaiter
      rw [markQueued_setWaiter]
      exact grown.update (fun _ _ => id) (by simp) (by simp)
  | queued pending wakes =>
      exact WriteFacts.markQueued kept.writes (fun _ _ => id)
        fun _ _ suspended kind _ => kept.wakes pending wakes suspended kind
  | @armRead _ _ _ ready _ handle kind _ _ _ | @armClose _ _ _ ready _ handle kind _ _ =>
      cases ready
      · exact kept.writes
      · refine WriteFacts.markQueued kept.writes (fun _ _ => id) fun awaitable _ suspended write => ?_
        rw [handle] at suspended
        cases suspended
        rw [kind] at write
        cases write
  | armWriteReady _ handle _ free ready =>
      refine WriteFacts.markQueued kept.writes ?_ fun awaitable _ suspended _ nonempty => ?_
      · rintro other different ⟨⟩
        exact absurd rfl different
      · rw [handle] at suspended
        cases suspended
        exact .inl (ready.resolve_left nonempty)
  | @unregister _ waiter _ =>
      have waiters : ((unregisterWaiter waiter before).emit (.abandoned waiter)).waiters = _ :=
        unregisterWaiter_waiters waiter before
      have grown := WriteFacts.grow kept.writes frame.closed fun event member =>
        isWriteDone_quiet (frame.quiet event member)
      rw [← frame.trace] at grown
      unfold WriteWaiter
      rw [waiters]
      exact grown.update (fun _ _ => clear_slot)
        (fun _ _ pending => absurd pending (abandon_over _).1)
        (fun _ queued => absurd queued (abandon_over _).2)
  | unregisterChannel _ =>
      obtain ⟨_, _, _, removed⟩ := unregisterChannel_eq before
      exact kept.writes.framed frame (by rw [removed]) (by rw [removed])

/-- A write that returns success was queued with all its bytes handed over. -/
theorem AsyncWrite.returned {waiter : WaiterId} {awaitable : Awaitable} {conn : Conn} {input : Bytes}
    (kept : AsyncWrite conn) (queued : (conn.waiters waiter).phase = .queued)
    (handle : (conn.waiters waiter).handle = some awaitable)
    (returns : Returns conn waiter awaitable .done input) (kind : awaitable.kind = .write)
    (nonempty : awaitable.data ≠ []) : HandedOver waiter awaitable.data conn.trace := by
  cases returns with
  | written _ unfailed uncancelled opened =>
      have ready : (conn.waiters waiter).outcome = .ready := by
        cases outcome : (conn.waiters waiter).outcome with
        | ready => rfl
        | cancelled => exact absurd outcome uncancelled
        | failed => exact absurd unfailed ((kept.sound waiter).2.mp outcome)
      exact (kept.writes.queued waiter awaitable queued ready handle kind nonempty).resolve_left opened
  | closeSeen close => rw [kind] at close; cases close

theorem AsyncWrite.finish {waiter : WaiterId} {before after : Conn}
    (finishes : Finishes waiter before after) (kept : AsyncWrite before) : WriteWaiter after := by
  cases finishes with
  | complete _ _ =>
      unfold WriteWaiter
      rw [completeWaiter_waiters]
      exact WriteFacts.update kept.writes (fun _ _ => id) (by intros; contradiction) (by intros; contradiction)
  | @finish awaitable queued handle =>
      obtain ⟨result, _, _, returns, finished⟩ := finishAwait_eq waiter awaitable before
      rw [finished]
      have resumed : WriteFacts before.state before.registry.writeWaiter before.waiters
          (before.trace ++ [.awaitFinished waiter awaitable before.state result,
            .callback (.resumed waiter result)]) := by
        refine WriteFacts.extend kept.writes id fun other argument state member kind nonempty => ?_
        simp only [List.mem_cons, Event.awaitFinished.injEq, reduceCtorEq, List.not_mem_nil,
          or_self, or_false] at member
        obtain ⟨rfl, rfl, rfl, done⟩ := member
        exact kept.returned queued handle (done ▸ returns) kind nonempty
      exact resumed.update (fun _ _ => clear_slot) (by intros; contradiction) (by intros; contradiction)

theorem asyncWrite : Invariant world true AsyncWrite := by
  constructor
  case move =>
    intro before after move kept
    exact ⟨outputStream.move move kept.output, sound.move move kept.sound,
      slots.move move kept.slots, kept.move move⟩
  case take =>
    intro waiter awaitable before after takes kept
    refine ⟨(@outputStream world).take takes kept.output, (@sound world).take takes kept.sound,
      (@slots world).take takes kept.slots, ?_⟩
    cases takes with
    | await unarmed =>
        exact WriteFacts.update kept.writes (fun _ _ => id)
          (fun _ occupied => absurd occupied (kept.unheld unarmed)) (by simp)
    | dequeue _ => exact kept.writes
  case finish =>
    intro waiter before after finishes kept
    exact ⟨(@outputStream world).finish finishes kept.output, (@sound world).finish finishes kept.sound,
      (@slots world).finish finishes kept.slots, kept.finish finishes⟩
  case dispatch =>
    intro on before after move kept
    refine ⟨(@outputStream world).dispatch on move kept.output, (@sound world).dispatch on move kept.sound,
      (@slots world).dispatch on move kept.slots, ?_⟩
    cases move with
    | established => exact kept.writes
    | receive | dispatch | interest | draining =>
        exact WriteFacts.grow kept.writes id (by simp [Event.isWriteDone])
  case retrieve =>
    intro on conn count writing kept
    exact ⟨(@outputStream world).retrieve on writing kept.output, kept.sound, kept.slots,
      WriteFacts.grow kept.writes id (by simp [Event.isWriteDone])⟩
  case settle =>
    intro on conn kept
    refine ⟨(@outputStream world).settle on kept.output, (@sound world).settle on kept.sound,
      (@slots world).settle on kept.slots, ?_⟩
    rcases settle_eq conn with same | settled
    · rw [same]
      exact kept.writes
    · rw [settled]
      exact WriteFacts.grow kept.writes id (by simp [Event.isWriteDone])
  case close =>
    intro conn failed opened fails kept
    refine ⟨outputStream.close opened fails kept.output, sound.close opened fails kept.sound,
      slots.close opened fails kept.slots, ?_⟩
    have noted : WriteWaiter failed := by
      obtain ⟨_, frame⟩ := fails.frame
      cases fails with
      | close | error => exact kept.writes.framed frame rfl rfl
      | send arrives => exact kept.writes.arrived arrives frame rfl rfl (by simp [markPeerClosed, markError])
    unfold WriteWaiter
    rw [shutChannel_trace]
    exact WriteFacts.grow noted (fun _ => rfl) (by simp [Event.isWriteDone])
  case disconnected =>
    intro conn closed kept
    exact ⟨(@outputStream world).disconnected closed kept.output, kept.sound, kept.slots,
      WriteFacts.grow kept.writes id (by simp [Event.isWriteDone])⟩
  case closeCallback =>
    intro conn kept
    exact ⟨(@outputStream world).closeCallback kept.output, kept.sound, kept.slots,
      WriteFacts.grow kept.writes id (by simp [Event.isWriteDone])⟩

/-- In every run of a plain connection, a write awaitable with a payload that
resumes with success had its resumption queued after the transport accepted
every byte submitted until then, its own payload included. -/
theorem async_write_handed_over (setup : Setup) (plain : setup.tls = false) (world : World)
    (depth : Nat) (steps : List Step) (waiter : WaiterId) (awaitable : Awaitable) (state : StateE)
    (write : awaitable.kind = .write) (payload : awaitable.data ≠ [])
    (success : .awaitFinished waiter awaitable state .done ∈ (setup.run world depth steps).trace) :
    ∃ before after, (setup.run world depth steps).trace =
        before ++ .resumeQueued waiter .ready :: after ∧
      .submitted (.waiter waiter) awaitable.data ∈ before ∧
      submittedBytes before = wroteBytes before := by
  have opened : AsyncWrite setup.opened := by
    refine ⟨setup.opened_output.1, ?_, ?_, ?_⟩
    · exact fun waiter => ⟨fun _ => rfl, by simp [Setup.opened, Setup.initial]⟩
    · exact ⟨by rintro _ ⟨⟩, by rintro _ ⟨⟩, by rintro _ ⟨⟩⟩
    · exact ⟨(by intros; contradiction), (by intros; contradiction), by simp [Setup.opened]⟩
  have kept := (@asyncWrite world).run_opened plain opened depth steps
  exact kept.writes.finished waiter awaitable state success write payload

theorem async_write_handed_over_direct :
    ∃ before after,
      (Setup.run {} {} 1 [.call (.await 0 { kind := .write, data := [7] }), .functor]).trace =
        before ++ .resumeQueued 0 .ready :: after ∧
      .submitted (.waiter 0) [7] ∈ before ∧ submittedBytes before = wroteBytes before :=
  async_write_handed_over {} rfl {} 1 [.call (.await 0 { kind := .write, data := [7] }), .functor]
    0 { kind := .write, data := [7] } .kConnected rfl (by simp) (by decide)

end MiniTrantor.Net
