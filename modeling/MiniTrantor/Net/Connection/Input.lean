import MiniTrantor.Net.Connection.Dispatch
import MiniTrantor.Trace

/-!
# The input stream

Bytes read from the transport are delivered to reads or stay in the input buffer,
in order; and a read that succeeds delivers something.
-/

set_option autoImplicit false

namespace MiniTrantor.Net

open ConnectionAwaiterRegistry ConnectionBackpressureController TcpConnection

variable {world : World}

/-! ## Conservation -/

def Event.receivedBytes : Event → Bytes
  | .received data => data
  | _ => []

def Event.deliveredBytes : Event → Bytes
  | .awaitFinished _ _ _ (.value data) => data
  | _ => []

/-- Bytes read from the transport, in order. -/
def receivedBytes (trace : List Event) : Bytes := trace.flatMap Event.receivedBytes

/-- Bytes that successful reads returned, in the order of their resumption. -/
def deliveredBytes (trace : List Event) : Bytes := trace.flatMap Event.deliveredBytes

@[simp] theorem receivedBytes_append (front back : List Event) :
    receivedBytes (front ++ back) = receivedBytes front ++ receivedBytes back := List.flatMap_append

@[simp] theorem deliveredBytes_append (front back : List Event) :
    deliveredBytes (front ++ back) = deliveredBytes front ++ deliveredBytes back := List.flatMap_append

/-- Events that move input. -/
def Event.isInput : Event → Bool
  | .received _ | .awaitFinished .. => true
  | _ => false

theorem input_silent {events : List Event} (none : ∀ event ∈ events, event.isInput = false) :
    receivedBytes events = [] ∧ deliveredBytes events = [] := by
  constructor <;>
    refine List.flatMap_eq_nil_iff.mpr fun event member => ?_ <;>
    have other := none event member <;>
    cases event <;> first | rfl | cases other

/-- User code leaves the input buffer alone. -/
def Unmodified (trace : List Event) : Prop :=
  ∀ awaited, .inputModified awaited ∉ trace

theorem Unmodified.of_append {trace events : List Event} (unmodified : Unmodified (trace ++ events)) :
    Unmodified trace :=
  fun awaited member => unmodified awaited (List.mem_append_left _ member)

/-- A read that reports the end of the stream has seen everything received. -/
def ClosedDrained (trace : List Event) : Prop :=
  ∀ before waiter awaitable state error after,
    trace = before ++ .awaitFinished waiter awaitable state (.error error) :: after →
    awaitable.kind = .read → error ≠ .cancelled → receivedBytes before = deliveredBytes before

structure InputFacts (buffer : Bytes) (trace : List Event) : Prop where
  integrity : Unmodified trace → receivedBytes trace = deliveredBytes trace ++ buffer
  drained : Unmodified trace → ClosedDrained trace

def InputStream (conn : Conn) : Prop := InputFacts conn.inputBuffer conn.trace

namespace InputFacts

variable {buffer : Bytes} {trace events : List Event}

theorem grow (kept : InputFacts buffer trace) {after : Bytes}
    (moved : buffer ++ receivedBytes events = deliveredBytes events ++ after)
    (open_ : ∀ waiter awaitable state error,
      .awaitFinished waiter awaitable state (.error error) ∉ events) :
    InputFacts after (trace ++ events) where
  integrity := by
    intro unmodified
    rw [receivedBytes_append, deliveredBytes_append, kept.integrity unmodified.of_append,
      List.append_assoc, List.append_assoc, moved]
  drained := by
    intro unmodified before waiter awaitable state error later split
    obtain ⟨middle, _, trace⟩ := Trace.split_append split (open_ waiter awaitable state error)
    exact kept.drained unmodified.of_append before waiter awaitable state error middle trace

theorem quiet (kept : InputFacts buffer trace) (none : ∀ event ∈ events, event.isInput = false) :
    InputFacts buffer (trace ++ events) := by
  obtain ⟨received, delivered⟩ := input_silent none
  refine kept.grow ?_ fun _ _ _ _ member => by cases none _ member
  rw [received, delivered, List.append_nil, List.nil_append]

theorem note {event : Event} (kept : InputFacts buffer trace) (other : event.isInput = false) :
    InputFacts buffer (trace ++ [event]) :=
  kept.quiet (by simpa using other)

theorem modified {after : Bytes} {awaited : Bool} :
    InputFacts after (trace ++ [.inputModified awaited]) where
  integrity := fun unmodified => absurd (by simp) (unmodified awaited)
  drained := fun unmodified => absurd (by simp) (unmodified awaited)

/-- A resumption with a result that takes nothing from the buffer. -/
theorem unread (kept : InputFacts buffer trace) {waiter : WaiterId} {awaitable : Awaitable}
    {state : StateE} {result : AwaitResult} {callback : Callback}
    (nothing : (Event.awaitFinished waiter awaitable state result).deliveredBytes = [])
    (closed : ∀ error, result = .error error → awaitable.kind = .read → error ≠ .cancelled → buffer = []) :
    InputFacts buffer (trace ++ [.awaitFinished waiter awaitable state result, .callback callback]) where
  integrity := by
    intro unmodified
    have moved := kept.integrity unmodified.of_append
    have silent : (Event.callback callback).deliveredBytes = [] := rfl
    simpa [receivedBytes, deliveredBytes, nothing, silent, Event.receivedBytes] using moved
  drained := by
    intro unmodified before other finished ended error later split kind uncancelled
    rw [← List.singleton_append, ← List.append_assoc] at split unmodified
    obtain ⟨middle, _, split⟩ := Trace.split_append split (by simp)
    rcases Trace.split_snoc split with ⟨rfl, same, _⟩ | ⟨middle, _, trace⟩
    · cases same
      have moved := kept.integrity unmodified.of_append.of_append
      rwa [closed error rfl kind uncancelled, List.append_nil] at moved
    · exact kept.drained unmodified.of_append.of_append before other finished ended error middle trace
        kind uncancelled

end InputFacts

theorem quiet_isInput {event : Event} (quiet : event.isLoud = false) : event.isInput = false := by
  cases event <;> first | rfl | cases quiet

/-- Moves leave the input buffer alone, except for user code that changes it. -/
theorem Move.input {before after : Conn} (move : Move world before after) :
    after.inputBuffer = before.inputBuffer ∨
      ∃ awaited, after.trace = before.trace ++ [.inputModified awaited] := by
  cases move with
  | modifyInput => exact .inr ⟨_, rfl⟩
  | submit arrives _ submits =>
      rw [submits.effect.frame]
      cases arrives <;> exact .inl rfl
  | @armRead _ _ _ ready _ _ _ _ _ _ | @armClose _ _ _ ready _ _ _ _ _ => cases ready <;> exact .inl rfl
  | unregisterChannel _ =>
      obtain ⟨_, _, _, removed⟩ := unregisterChannel_eq before
      rw [removed]
      exact .inl rfl
  | _ => exact .inl rfl

theorem InputStream.finished {waiter : WaiterId} {before after : Conn} (kept : InputStream before)
    (finishes : Finishes waiter before after) : InputStream after := by
  cases finishes with
  | complete _ _ => exact kept
  | finish _ _ =>
      obtain ⟨_, _, _, returns, finished⟩ := finishAwait_eq _ _ _
      rw [finished]
      cases returns with
      | threw _ => exact InputFacts.unread kept rfl (by simp)
      | cancelled _ _ =>
          refine InputFacts.unread kept rfl fun error same _ uncancelled => ?_
          cases same
          exact absurd rfl uncancelled
      | closed _ _ empty => exact InputFacts.unread kept rfl fun _ _ read _ => empty read
      | nothing _ _ _ _ _ => exact InputFacts.unread kept rfl (by simp)
      | consumed _ _ _ _ _ =>
          refine InputFacts.grow kept ?_ (by simp)
          simp [receivedBytes, deliveredBytes, Event.receivedBytes, Event.deliveredBytes]
      | written _ _ _ _ => exact InputFacts.unread kept rfl (by simp)
      | closeSeen _ => exact InputFacts.unread kept rfl (by simp)

theorem inputStream : Invariant world true InputStream := by
  constructor
  case move =>
    intro before after move kept
    obtain ⟨_, frame⟩ := move.frame
    unfold InputStream
    rcases move.input with same | ⟨awaited, modified⟩
    · rw [frame.trace, same]
      exact InputFacts.quiet kept fun event member => quiet_isInput (frame.quiet event member)
    · rw [modified]
      exact InputFacts.modified
  case take =>
    intro waiter awaitable before after takes kept
    cases takes <;> exact kept
  case finish => exact fun finishes kept => kept.finished finishes
  case dispatch =>
    intro _ before after move kept
    cases move with
    | established => exact kept
    | receive =>
        refine InputFacts.grow kept ?_ (by simp)
        simp [receivedBytes, deliveredBytes, Event.receivedBytes, Event.deliveredBytes,
          ConnectionTransport.appendInput]
    | dispatch | interest | draining => exact InputFacts.note kept rfl
  case retrieve => exact fun _ _ _ _ kept => InputFacts.note kept rfl
  case settle =>
    intro _ conn kept
    rcases settle_eq conn with same | settled
    · rw [same]
      exact kept
    · rw [settled]
      exact InputFacts.quiet kept (by simp [Event.isInput])
  case close =>
    intro conn failed _ fails kept
    obtain ⟨_, frame⟩ := fails.frame
    have same : failed.inputBuffer = conn.inputBuffer := by
      cases fails with
      | close | error => rfl
      | send arrives => cases arrives <;> rfl
    have noted : InputStream failed := by
      unfold InputStream
      rw [frame.trace, same]
      exact InputFacts.quiet kept fun event member => quiet_isInput (frame.quiet event member)
    unfold InputStream
    rw [shutChannel_trace]
    exact InputFacts.quiet noted (by simp [Event.isInput])
  case disconnected => exact fun _ kept => InputFacts.note kept rfl
  case closeCallback => exact fun kept => InputFacts.note kept rfl

/-- In every run in which user code leaves the input buffer alone, the bytes read
from the transport are those that reads returned followed by those in the buffer;
and a read reports a closed connection only once everything has been delivered. -/
theorem input_stream_integrity (setup : Setup) (world : World) (depth : Nat) (steps : List Step)
    (unmodified : Unmodified (setup.run world depth steps).trace) :
    let conn := setup.run world depth steps
    receivedBytes conn.trace = deliveredBytes conn.trace ++ conn.inputBuffer ∧
      ClosedDrained conn.trace := by
  have initial : InputStream setup.initial := ⟨fun _ => rfl, fun _ => by simp [ClosedDrained, Setup.initial]⟩
  have begins : ∀ conn transport, conn.transport.ssl = false → InputStream conn →
      InputStream (establish { conn with transport }) := by
    intro conn transport _ kept
    unfold InputStream
    rw [establish_trace]
    exact InputFacts.quiet kept (by simp [Event.isInput])
  have stream := (@inputStream world).run initial begins depth steps
  exact ⟨stream.integrity unmodified, stream.drained unmodified⟩

/-- A transport that always has the same two bytes to read. -/
def twoByteInput : World where
  read := fun _ => .bytes [7, 8]

theorem input_stream_integrity_two_reads :
    let conn := Setup.run {} twoByteInput 1
      [.call (.await 1 { kind := .read }), .event { read := true }, .functor, .event { read := true }]
    deliveredBytes conn.trace = [7, 8] ∧ receivedBytes conn.trace = [7, 8] ++ conn.inputBuffer := by
  have stream := input_stream_integrity {} twoByteInput 1
    [.call (.await 1 { kind := .read }), .event { read := true }, .functor, .event { read := true }]
    (fun awaited => by cases awaited <;> decide)
  have delivered : deliveredBytes (Setup.run {} twoByteInput 1
      [.call (.await 1 { kind := .read }), .event { read := true }, .functor,
        .event { read := true }]).trace = [7, 8] := by decide
  exact ⟨delivered, by rw [stream.1, delivered]⟩

/-! ## Successful reads -/

/-- A read is armed on a half-closed connection with fewer bytes buffered than it
asks for. -/
def Event.isStarvedRead : Event → Bool
  | .arming _ awaitable state readableBytes =>
      awaitable.kind == .read && state != .kConnected && state != .kDisconnected &&
        readableBytes < awaitable.minBytes
  | _ => false

/-- No read is starved when it is armed, user code leaves the input buffer to a read
that is armed, and no connection is established that the hook before has closed. -/
structure ReadsReady (trace : List Event) : Prop where
  fresh : Fresh trace
  armed : ∀ event ∈ trace, event.isStarvedRead = false
  untouched : .inputModified true ∉ trace

theorem ReadsReady.of_append {trace events : List Event} (ready : ReadsReady (trace ++ events)) :
    ReadsReady trace where
  fresh := ready.fresh.of_append
  armed := fun event member => ready.armed event (List.mem_append_left _ member)
  untouched := fun member => ready.untouched (List.mem_append_left _ member)

/-- A read returns bytes, fewer than it asked for only from a closed connection, or
an error. -/
def ReadResult (awaitable : Awaitable) (state : StateE) : AwaitResult → Prop
  | .value data => data ≠ [] ∧ (data.length < awaitable.minBytes → state = .kDisconnected)
  | .done => False
  | .error _ | .threw _ => True

/-- Every read so far that asked for at least one byte. -/
def ReadsSucceed (trace : List Event) : Prop :=
  ∀ waiter awaitable state result, .awaitFinished waiter awaitable state result ∈ trace →
    awaitable.kind = .read → 1 ≤ awaitable.minBytes → ReadResult awaitable state result

def Event.isFinished : Event → Bool
  | .awaitFinished .. => true
  | _ => false

/-- A read that is queued as ready finds enough bytes, or a closed connection. -/
structure ReadFacts (state : StateE) (input : Bytes) (slot : Option WaiterId)
    (waiters : WaiterId → AwaiterState) (trace : List Event) : Prop where
  enough : ReadsReady trace → ∀ waiter awaitable, (waiters waiter).phase = .queued →
    (waiters waiter).outcome = .ready → (waiters waiter).handle = some awaitable →
    awaitable.kind = .read →
    state = .kDisconnected ∨ slot = some waiter ∧ awaitable.minBytes ≤ input.length
  succeeded : ReadsReady trace → ReadsSucceed trace

def Reads (conn : Conn) : Prop :=
  ReadFacts conn.state conn.inputBuffer conn.registry.readWaiter conn.waiters conn.trace

namespace ReadFacts

variable {state next : StateE} {input : Bytes} {slot : Option WaiterId}
  {waiters : WaiterId → AwaiterState} {trace events : List Event}

theorem quiet (kept : ReadFacts state input slot waiters trace)
    (closed : state = .kDisconnected → next = .kDisconnected)
    (unfinished : ∀ event ∈ events, event.isFinished = false) :
    ReadFacts next input slot waiters (trace ++ events) where
  enough := fun ready waiter awaitable queued outcome handle kind =>
    (kept.enough ready.of_append waiter awaitable queued outcome handle kind).imp_left closed
  succeeded := by
    intro ready waiter awaitable ended result member
    refine kept.succeeded ready.of_append waiter awaitable ended result ?_
    exact (List.mem_append.mp member).resolve_right fun new => by cases unfinished _ new

theorem note {event : Event} (kept : ReadFacts state input slot waiters trace)
    (unfinished : event.isFinished = false) : ReadFacts state input slot waiters (trace ++ [event]) :=
  kept.quiet id (by simpa using unfinished)

/-- While the slot is free nothing is queued as ready, unless the connection is closed. -/
theorem fill (kept : ReadFacts state input slot waiters trace) (free : slot = none)
    (after : Option WaiterId) (contents : Bytes) : ReadFacts state contents after waiters trace where
  enough := by
    intro ready waiter awaitable queued outcome handle kind
    rcases kept.enough ready waiter awaitable queued outcome handle kind with closed | ⟨occupied, _⟩
    · exact .inl closed
    · rw [free] at occupied
      cases occupied
  succeeded := kept.succeeded

theorem receive (kept : ReadFacts state input slot waiters trace) (data : Bytes) :
    ReadFacts state (input ++ data) slot waiters trace where
  enough := by
    intro ready waiter awaitable queued outcome handle kind
    rcases kept.enough ready waiter awaitable queued outcome handle kind with
      closed | ⟨occupied, enough⟩
    · exact .inl closed
    · refine .inr ⟨occupied, ?_⟩
      rw [List.length_append]
      omega
  succeeded := kept.succeeded

/-- One waiter changes; the others keep their slot. -/
theorem update (kept : ReadFacts state input slot waiters trace) {changed : WaiterId}
    {new : AwaiterState} {after : Option WaiterId}
    (slots : ∀ waiter, waiter ≠ changed → slot = some waiter → after = some waiter)
    (own : ReadsReady trace → ∀ awaitable, new.phase = .queued → new.outcome = .ready →
      new.handle = some awaitable → awaitable.kind = .read →
      state = .kDisconnected ∨ after = some changed ∧ awaitable.minBytes ≤ input.length) :
    ReadFacts state input after (Function.update waiters changed new) trace where
  enough := by
    intro ready waiter awaitable queued outcome handle kind
    by_cases same : waiter = changed
    · subst same
      rw [Function.update_self] at queued outcome handle
      exact own ready awaitable queued outcome handle kind
    · rw [Function.update_of_ne same] at queued outcome handle
      rcases kept.enough ready waiter awaitable queued outcome handle kind with closed | ⟨occupied, enough⟩
      · exact .inl closed
      · exact .inr ⟨slots waiter same occupied, enough⟩
  succeeded := kept.succeeded

/-- A waiter is queued: as a read, with enough to read or the connection closed. -/
theorem markQueued (kept : ReadFacts state input slot waiters trace) {waiter : WaiterId}
    (own : ReadsReady trace → ∀ awaitable, (waiters waiter).handle = some awaitable →
      awaitable.kind = .read →
      state = .kDisconnected ∨ slot = some waiter ∧ awaitable.minBytes ≤ input.length) :
    ReadFacts state input slot (Function.update waiters waiter { waiters waiter with phase := .queued })
      (trace ++ [.resumeQueued waiter (waiters waiter).outcome]) :=
  (kept.note rfl).update (fun _ _ => id) fun ready awaitable _ _ handle kind =>
    own ready.of_append awaitable handle kind

end ReadFacts

theorem quiet_isFinished {event : Event} (quiet : event.isLoud = false) : event.isFinished = false := by
  cases event <;> first | rfl | cases quiet

/-- Everything that is known of the read awaitables. -/
structure AsyncRead (conn : Conn) : Prop where
  sound : ∀ waiter, (conn.waiters waiter).Sound
  slots : Slots conn.waiters conn.registry
  reads : Reads conn

namespace AsyncRead

variable {before after : Conn}

/-- The reasons to queue a read waiter. -/
theorem wakes {conn : Conn} (kept : AsyncRead conn) {waiter : WaiterId} (wakes : Wakes conn waiter)
    {awaitable : Awaitable} (handle : (conn.waiters waiter).handle = some awaitable)
    (kind : awaitable.kind = .read) :
    conn.state = .kDisconnected ∨
      conn.registry.readWaiter = some waiter ∧ awaitable.minBytes ≤ conn.inputBuffer.length := by
  cases wakes with
  | closed closed => exact .inl closed
  | readable occupied enough =>
      obtain ⟨_, threshold⟩ := (kept.slots.read waiter occupied).2 awaitable handle
      exact .inr ⟨occupied, threshold ▸ enough⟩
  | written occupied _ =>
      have write : awaitable.kind = .write := (kept.slots.write waiter occupied).2 awaitable handle
      rw [kind] at write
      cases write

theorem armed {conn : Conn} {waiter : WaiterId} {awaitable : Awaitable}
    (noted : .arming waiter awaitable conn.state conn.inputBuffer.length ∈ conn.trace)
    (kind : awaitable.kind = .read) (ready : ReadsReady conn.trace)
    (immediate : canReadImmediately awaitable.minBytes conn = true) :
    conn.state = .kDisconnected ∨ awaitable.minBytes ≤ conn.inputBuffer.length := by
  have fed := ready.armed _ noted
  simp only [Event.isStarvedRead, canReadImmediately, kind] at fed immediate
  cases state : conn.state <;> simp [state] at fed immediate ⊢ <;> omega

theorem move (kept : AsyncRead before) (move : Move world before after) : Reads after := by
  obtain ⟨events, frame⟩ := move.frame
  have grown : ReadFacts after.state before.inputBuffer before.registry.readWaiter before.waiters
      after.trace := by
    rw [frame.trace]
    exact ReadFacts.quiet kept.reads frame.closed fun event member =>
      quiet_isFinished (frame.quiet event member)
  cases move with
  | enqueue | dequeue | dequeueShutdown | request | accept | push | claims | note | callbacks
  | policy | reading | error | beginShutdown | requestShutdown | shutdownWrite | destroyed =>
      exact grown
  | @modifyInput _ contents =>
      cases slot : before.registry.readWaiter with
      | none => exact (ReadFacts.fill kept.reads slot _ contents).note rfl
      | some waiter =>
          have touched : ¬ReadsReady (before.trace ++ [.inputModified true]) :=
            fun ready => ready.untouched (by simp)
          unfold Reads
          simp only [Conn.emit, slot, Option.isSome_some]
          exact ⟨fun ready => absurd ready touched, fun ready => absurd ready touched⟩
  | submit arrives _ submits =>
      rw [submits.effect.frame] at grown ⊢
      cases arrives <;> exact grown
  | requestAwait _ => exact ReadFacts.update kept.reads (fun _ _ => id) (by simp)
  | @register _ waiter _ _ =>
      exact ReadFacts.update kept.reads (fun _ _ => id) fun ready => kept.reads.enough ready waiter
  | cancelled _ | failed _ =>
      unfold Reads
      rw [markQueued_setWaiter]
      exact grown.update (fun _ _ => id) (by simp)
  | queued _ wakes =>
      exact ReadFacts.markQueued kept.reads fun _ _ handle kind => kept.wakes wakes handle kind
  | @armRead _ waiter awaitable ready _ handle kind free noted immediate =>
      have filled := ReadFacts.fill kept.reads free (some waiter) before.inputBuffer
      cases ready with
      | false => exact filled
      | true =>
          refine filled.markQueued fun ready other suspended _ => ?_
          rw [handle] at suspended
          cases suspended
          exact (armed noted kind ready immediate.symm).imp_right fun enough => ⟨rfl, enough⟩
  | armWriteReady _ handle kind _ _ =>
      refine ReadFacts.markQueued kept.reads fun _ _ suspended read => ?_
      rw [handle] at suspended
      cases suspended
      rw [kind] at read
      cases read
  | @armClose _ _ _ ready _ handle kind _ _ =>
      cases ready with
      | false => exact kept.reads
      | true =>
          refine ReadFacts.markQueued kept.reads fun _ _ suspended read => ?_
          rw [handle] at suspended
          cases suspended
          rw [kind] at read
          cases read
  | @unregister _ waiter _ =>
      have waiters : ((unregisterWaiter waiter before).emit (.abandoned waiter)).waiters = _ :=
        unregisterWaiter_waiters waiter before
      unfold Reads
      rw [waiters]
      refine grown.update (fun other different occupied => ?_) fun _ _ queued => ?_
      · exact (if_neg (by simpa [occupied] using different)).trans occupied
      · exact absurd queued (abandon_over _).2
  | unregisterChannel _ =>
      obtain ⟨_, _, _, removed⟩ := unregisterChannel_eq before
      rw [removed] at grown ⊢
      exact grown

/-- A waiter that was neither cancelled nor failed resumes as ready. -/
theorem ready {conn : Conn} (kept : AsyncRead conn) {waiter : WaiterId}
    (unfailed : (conn.waiters waiter).failure = none)
    (uncancelled : (conn.waiters waiter).outcome ≠ .cancelled) :
    (conn.waiters waiter).outcome = .ready := by
  have failed := (kept.sound waiter).2
  cases outcome : (conn.waiters waiter).outcome with
  | ready => rfl
  | cancelled => exact absurd outcome uncancelled
  | failed => exact absurd unfailed (failed.mp outcome)

/-- The result of a read, from what held when it was queued. -/
theorem returned {conn : Conn} (kept : AsyncRead conn) {waiter : WaiterId} {awaitable : Awaitable}
    {result : AwaitResult} {input : Bytes} (returns : Returns conn waiter awaitable result input)
    (queued : (conn.waiters waiter).phase = .queued)
    (handle : (conn.waiters waiter).handle = some awaitable) (ready : ReadsReady conn.trace)
    (read : awaitable.kind = .read) (positive : 1 ≤ awaitable.minBytes) :
    ReadResult awaitable conn.state result := by
  have enough := fun outcome => kept.reads.enough ready waiter awaitable queued outcome handle read
  cases returns with
  | threw | cancelled | closed => trivial
  | nothing _ unfailed uncancelled opened short =>
      rcases enough (kept.ready unfailed uncancelled) with closed | ⟨_, enough⟩
      · exact absurd closed opened
      · rcases short with short | empty
        · omega
        · rw [empty, List.length_nil] at enough
          omega
  | consumed _ unfailed uncancelled present _ =>
      refine ⟨present, fun short => ?_⟩
      rcases enough (kept.ready unfailed uncancelled) with closed | ⟨_, enough⟩
      · exact closed
      · omega
  | written write _ _ _ => rw [read] at write; cases write
  | closeSeen close => rw [read] at close; cases close

/-- Two reads are not queued as ready at once while the connection is open. -/
theorem finish {waiter : WaiterId} {awaitable : Awaitable} {conn : Conn} (kept : AsyncRead conn)
    (queued : (conn.waiters waiter).phase = .queued)
    (handle : (conn.waiters waiter).handle = some awaitable) :
    Reads (finishAwait waiter awaitable conn) := by
  obtain ⟨result, input, tokens, returns, finished⟩ := finishAwait_eq waiter awaitable conn
  rw [finished]
  refine ⟨fun ready other suspended waits outcome held kind => ?_, fun ready => ?_⟩
  · have different : other ≠ waiter := by
      rintro rfl
      simp [AwaiterState.finished] at waits
    simp only [Function.update_of_ne different] at waits outcome held
    rcases kept.reads.enough ready.of_append other suspended waits outcome held kind with
      closed | ⟨occupied, enough⟩
    · exact .inl closed
    · have slot : (Registry.clear waiter conn.registry).readWaiter = some other := by
        simp [Registry.clear, occupied, different]
      cases returns with
      | consumed read unfailed uncancelled _ _ =>
          rcases kept.reads.enough ready.of_append waiter awaitable queued
            (kept.ready unfailed uncancelled) handle read with closed | ⟨taken, _⟩
          · exact .inl closed
          · rw [occupied] at taken
            exact absurd (Option.some.inj taken) different
      | threw | cancelled | closed | nothing | written | closeSeen => exact .inr ⟨slot, enough⟩
  · intro other ended state outcome member kind positive
    rcases List.mem_append.mp member with old | new
    · exact kept.reads.succeeded ready.of_append other ended state outcome old kind positive
    · simp only [List.mem_cons, List.not_mem_nil, or_false] at new
      rcases new with same | same
      · cases same
        exact kept.returned returns queued handle ready.of_append kind positive
      · cases same

end AsyncRead

theorem asyncRead : Invariant world true AsyncRead := by
  have notes : ∀ {conn : Conn} {event : Event}, event.isFinished = false → AsyncRead conn →
      AsyncRead (conn.emit event) :=
    fun unfinished kept => ⟨kept.sound, kept.slots, ReadFacts.note kept.reads unfinished⟩
  constructor
  case move => exact fun move kept => ⟨sound.move move kept.sound, slots.move move kept.slots, kept.move move⟩
  case take =>
    intro waiter awaitable before after takes kept
    refine ⟨(@sound world).take takes kept.sound, (@slots world).take takes kept.slots, ?_⟩
    cases takes with
    | await _ => exact ReadFacts.update kept.reads (fun _ _ => id) (by simp)
    | dequeue _ => exact kept.reads
  case finish =>
    intro waiter before after finishes kept
    refine ⟨(@sound world).finish finishes kept.sound, (@slots world).finish finishes kept.slots, ?_⟩
    cases finishes with
    | complete _ _ =>
        unfold Reads
        rw [completeWaiter_waiters]
        exact ReadFacts.update kept.reads (fun _ _ => id) (by intros; contradiction)
    | finish queued handle => exact kept.finish queued handle
  case dispatch =>
    intro on before after move kept
    refine ⟨(@sound world).dispatch on move kept.sound, (@slots world).dispatch on move kept.slots, ?_⟩
    cases move with
    | established => exact kept.reads
    | receive => exact (ReadFacts.receive kept.reads _).note rfl
    | dispatch | interest | draining => exact ReadFacts.note kept.reads rfl
  case retrieve =>
    exact fun _ _ _ _ kept => ⟨kept.sound, kept.slots, ReadFacts.note kept.reads rfl⟩
  case settle =>
    intro _ conn kept
    rcases settle_eq conn with same | settled
    · rw [same]
      exact kept
    · rw [settled]
      exact ⟨kept.sound, kept.slots, ReadFacts.quiet kept.reads id (by simp [Event.isFinished])⟩
  case close =>
    intro conn failed opened fails kept
    obtain ⟨_, frame⟩ := fails.frame
    refine ⟨(@sound world).close opened fails kept.sound, (@slots world).close opened fails kept.slots, ?_⟩
    refine ⟨fun _ _ _ _ _ _ _ => .inl rfl, ?_⟩
    rw [shutChannel_trace, frame.trace]
    have failure : ReadFacts failed.state _ _ _ _ := ReadFacts.quiet kept.reads frame.closed
      fun event member => quiet_isFinished (frame.quiet event member)
    exact (failure.quiet id (by simp [Event.isFinished])).succeeded
  case disconnected => exact fun _ kept => notes rfl kept
  case closeCallback => exact fun kept => notes rfl kept

/-- The connection is established, if the hook before has not closed it. -/
theorem AsyncRead.establish {conn : Conn} (kept : AsyncRead conn) (transport : Transport) :
    AsyncRead (establish { conn with transport }) := by
  refine ⟨kept.sound, kept.slots, fun ready waiter awaitable queued outcome handle read => ?_, ?_⟩
  · have opened := fresh_establish ready.fresh
    rw [establish_trace] at ready
    exact .inr ((kept.reads.enough ready.of_append waiter awaitable queued outcome handle read).resolve_left
      opened)
  · rw [establish_trace]
    exact (ReadFacts.quiet kept.reads id (by simp [Event.isFinished])).succeeded

/-- In every run in which no read is armed on a half-closed connection that has too
little to read, no user code takes the input of an armed read, and no connection is
established that the hook before has closed, a read returns bytes, as many as it asked
for unless the connection is closed, or an error. -/
theorem reads_succeed_with_data (setup : Setup) (world : World) (depth : Nat) (steps : List Step)
    (ready : ReadsReady (setup.run world depth steps).trace) :
    ReadsSucceed (setup.run world depth steps).trace := by
  have initial : AsyncRead setup.initial := by
    refine ⟨fun waiter => ⟨fun _ => rfl, ?_⟩, ?_, by intros; contradiction, fun _ => ?_⟩
    · simp [Setup.initial]
    · exact ⟨(by rintro _ ⟨⟩), (by rintro _ ⟨⟩), (by rintro _ ⟨⟩)⟩
    · rintro waiter awaitable state result ⟨⟩
  have kept := (@asyncRead world).run initial (fun _ transport _ kept => kept.establish transport)
    depth steps
  exact kept.reads.succeeded ready

theorem reads_succeed_with_data_two_bytes :
    let trace := (Setup.run {} twoByteInput 1
      [.call (.await 1 { kind := .read, minBytes := 2 }), .event { read := true }, .functor]).trace
    .awaitFinished 1 { kind := .read, minBytes := 2 } .kConnected (.value [7, 8]) ∈ trace ∧
      ReadsSucceed trace := by
  refine ⟨by decide, ?_⟩
  exact reads_succeed_with_data {} twoByteInput 1
    [.call (.await 1 { kind := .read, minBytes := 2 }), .event { read := true }, .functor]
    ⟨by decide, by decide, by decide⟩

/-- After `shutdown` a read of an empty buffer succeeds with nothing. -/
theorem read_succeeds_with_nothing :
    ¬ReadsSucceed (Setup.run {} {} 1
      [.call .shutdown, .call (.await 1 { kind := .read }), .functor]).trace := by
  intro succeed
  have empty := succeed 1 { kind := .read } .kDisconnecting (.value []) (by decide) rfl (by decide)
  exact empty.1 rfl

end MiniTrantor.Net
