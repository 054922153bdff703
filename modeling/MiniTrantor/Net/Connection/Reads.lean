import MiniTrantor.Net.Connection.EndOfStream
import MiniTrantor.Net.Connection.Unread
import MiniTrantor.Trace

/-!
# Reads and messages

A read is followed by the message callback, within the same step, unless a
read waiter was registered when the read handler was entered.
-/

set_option autoImplicit false

namespace MiniTrantor.Net

open ConnectionAwaiterRegistry ConnectionBackpressureController ConnectionCallbackDispatcher
open ConnectionTransport TcpConnection
open Trace (Answered)

variable {world : World} {call : Callback → Conn → Conn}

def Event.isMessage (event : Event) : Bool := event == .callback .message

/-- The message callback stays, and what is read is followed by a message. -/
structure Answers (before after : Conn) : Prop where
  message : before.callbacks.message = true → after.callbacks.message = true
  answered : ∃ events, after.trace = before.trace ++ events ∧
    Answered Event.isRead Event.isMessage events

namespace Answers

variable {first second third : Conn}

theorem of_unread (unread : Unread first second) : Answers first second := by
  obtain ⟨events, trace, quiet⟩ := unread.silent
  exact ⟨unread.message, events, trace, .of_none quiet⟩

theorem trans (front : Answers first second) (back : Answers second third) :
    Answers first third := by
  refine ⟨back.message ∘ front.message, ?_⟩
  obtain ⟨early, trace, answered⟩ := front.answered
  obtain ⟨late, further, answering⟩ := back.answered
  exact ⟨early ++ late, by rw [further, trace, List.append_assoc], answered.append answering⟩

end Answers

/-! ## The read handler -/

theorem received_unread {reads : List Bytes} (nothing : reads.flatten = []) (conn : Conn) :
    Unread conn (received reads conn) := by
  rw [received_eq]
  refine .grown rfl rfl fun event member => ?_
  obtain ⟨data, among, rfl⟩ := List.mem_map.mp member
  rw [List.flatten_eq_nil_iff.mp nothing data among]
  rfl

/-- What `readInto` leaves alone, and that it reads something if it says so. -/
structure ReadReturned (conn : Conn) (returned : Result × Conn) : Prop where
  callbacks : returned.2.callbacks = conn.callbacks
  registry : returned.2.registry = conn.registry
  trace : ∃ events, returned.2.trace = conn.trace ++ events
  unread : returned.1.status ≠ .kOk → Unread conn returned.2

namespace ReadReturned

theorem nothing {conn after : Conn} (unread : Unread conn after)
    (callbacks : after.callbacks = conn.callbacks) (registry : after.registry = conn.registry)
    (result : Result) : ReadReturned conn (result, after) :=
  ⟨callbacks, registry, unread.silent.imp fun _ found => found.1, fun _ => unread⟩

theorem something {conn after : Conn} {events : List Event} {result : Result}
    (ok : result.status = .kOk) (callbacks : after.callbacks = conn.callbacks)
    (registry : after.registry = conn.registry) (trace : after.trace = conn.trace ++ events) :
    ReadReturned conn (result, after) :=
  ⟨callbacks, registry, ⟨events, trace⟩, fun failed => absurd ok failed⟩

theorem sslReadIntoBuffer (conn : Conn) : ReadReturned conn (sslReadIntoBuffer world conn) := by
  have folded : (world.sslRead conn).1.foldl (fun conn data => appendInput data conn) conn =
      received (world.sslRead conn).1 conn := rfl
  have filled := received_eq (world.sslRead conn).1 conn
  simp only [ConnectionTransport.sslReadIntoBuffer, folded, received_sum]
  by_cases empty : (world.sslRead conn).1.flatten = []
  · have unread := received_unread empty conn
    have callbacks : (received (world.sslRead conn).1 conn).callbacks = conn.callbacks := by
      rw [filled]
    have registry : (received (world.sslRead conn).1 conn).registry = conn.registry := by
      rw [filled]
    simp only [empty, List.length_nil, gt_iff_lt, Nat.lt_irrefl, ↓reduceIte]
    split
    · exact nothing unread callbacks registry _
    · exact nothing (unread.trans (.updateChannel _ _)) callbacks registry _
    · exact nothing unread callbacks registry _
    · exact nothing unread callbacks registry _
  · simp only [gt_iff_lt, List.length_pos_iff.mpr empty, ↓reduceIte, filled]
    split
    · exact something rfl rfl rfl rfl
    · exact something rfl rfl rfl (List.append_assoc ..)
    · exact something rfl rfl rfl rfl
    · exact something rfl rfl rfl rfl

theorem readInto (conn : Conn) : ReadReturned conn (readInto world conn) := by
  simp only [ConnectionTransport.readInto]
  repeat' split
  · exact sslReadIntoBuffer conn
  · exact nothing (.refl conn) rfl rfl _
  · exact something rfl rfl rfl rfl
  · exact nothing (.refl conn) rfl rfl _
  · exact nothing (.refl conn) rfl rfl _

end ReadReturned

section Handlers

variable (calls : ∀ callback, Reentry.Within Unread (call callback)) {conn : Conn}

include calls

/-- The message callback is entered if no read waiter is registered. -/
theorem notifyMessage_answers (message : conn.callbacks.message = true)
    (unawaited : conn.registry.readWaiter = none) {events : List Event} {before : Conn}
    (trace : conn.trace = before.trace ++ events) :
    Answers before (notifyMessage call conn.registry.readWaiter.isSome
      (resumeReadWaiterIfSatisfied world conn.inputBuffer.length conn)) := by
  have idle : resumeReadWaiterIfSatisfied world conn.inputBuffer.length conn = conn := by
    simp only [resumeReadWaiterIfSatisfied, unawaited, queueResumeSlot, ite_self]
  have told : notifyMessage call conn.registry.readWaiter.isSome conn =
      call .message (conn.emit (.callback .message)) := by
    simp [notifyMessage, unawaited, message, invoke]
  rw [idle, told]
  obtain ⟨after, further, quiet⟩ := (calls .message (conn.emit (.callback .message))).silent
  refine ⟨fun _ => (calls .message _).message message, events ++ .callback .message :: after, ?_,
    .answer rfl ?_⟩
  · rw [further, Conn.emit, trace]
    simp [List.append_assoc]
  · simpa [Event.isRead] using quiet

/-- Whether the transport has something for the read handler. -/
def readable (world : World) (conn : Conn) : Bool :=
  !handshakePending conn && (readInto world (reading conn)).1.status == .kOk

theorem handleRead_answers (message : conn.callbacks.message = true)
    (unawaited : readable world conn = true → conn.registry.readWaiter = none) :
    Answers conn (handleRead world call conn) := by
  cases pending : handshakePending conn with
  | true =>
      simp only [handleRead, pending, ↓reduceIte]
      exact .of_unread (.advanceTransportHandshake calls conn)
  | false =>
      have entered : Unread conn (reading conn) := .emit _ rfl conn
      have spec := @ReadReturned.readInto world (reading conn)
      rcases returned : readInto world (reading conn) with ⟨result, after⟩
      rw [returned] at spec
      rw [handleRead_settled pending returned]
      split
      case h_1 ok =>
        have same : after.registry = conn.registry := spec.registry
        have free := unawaited (by simp [readable, pending, returned, ok])
        obtain ⟨events, trace⟩ := spec.trace
        rw [← same] at free ⊢
        refine @notifyMessage_answers world call calls after (spec.callbacks ▸ message) free
          (.checkpoint .handleRead conn.state :: events) conn ?_
        rw [trace, reading, Conn.emit, List.append_assoc]
        rfl
      case h_2 closed =>
        have unread := spec.unread (by rw [closed]; decide)
        exact .of_unread ((entered.trans unread).trans (.handleClose calls _))
      case h_3 failed =>
        have unread := spec.unread (by rw [failed]; decide)
        exact .of_unread ((entered.trans unread).trans (.handleError calls _ _))
      case h_4 blocked =>
        exact .of_unread (entered.trans (spec.unread (by rw [blocked]; decide)))

end Handlers

/-- An error closes the connection. -/
theorem handleError_closes (runs : ∀ callback, Reentry.Within (Ran world .user) (call callback))
    (errno : Nat) (conn : Conn) : (handleError world call errno conn).state = .kDisconnected := by
  simp only [handleError]
  split
  case isTrue opened =>
    simp only [handleClose, if_neg opened]
    exact runCloseSequence_state runs true _
  case isFalse closed => exact not_ne_iff.mp closed

/-- The events of one poll, if the connection is still connected after them. -/
theorem handleEvent_answers (runs : ∀ callback, Reentry.Within (Ran world .user) (call callback))
    (calls : ∀ callback, Reentry.Within Unread (call callback)) (revents : EventMask) {conn : Conn}
    (message : conn.callbacks.message = true)
    (unawaited : revents.read = true → revents.error = false → readable world conn = true →
      conn.registry.readWaiter = none)
    (connected : (handleEventWithGuard world call revents conn).state = .kConnected) :
    Answers conn (handleEventWithGuard world call revents conn) := by
  have write : ∀ conn, Unread conn (if revents.write then handleWrite world call conn else conn) := by
    intro conn
    split
    · exact .handleWrite calls conn
    · exact .refl conn
  simp only [handleEventWithGuard] at connected ⊢
  cases read : revents.read with
  | false =>
      have close : Unread conn
          (if revents.close then handleClose world call conn else conn) := by
        split
        · exact .handleClose calls conn
        · exact .refl conn
      have error : ∀ conn, Unread conn
          (if revents.error then handleError world call 0 conn else conn) := by
        intro conn
        split
        · exact .handleError calls 0 conn
        · exact .refl conn
      simp only [Bool.not_false, Bool.and_true, Bool.false_eq_true, ↓reduceIte]
      exact .of_unread ((close.trans (error _)).trans (write _))
  | true =>
      simp only [read, Bool.not_true, Bool.and_false, Bool.false_eq_true, ↓reduceIte] at connected ⊢
      cases error : revents.error with
      | false =>
          simp only [Bool.false_eq_true, ↓reduceIte]
          exact (handleRead_answers calls message (unawaited read error)).trans (.of_unread (write _))
      | true =>
          -- the error closes the connection for good
          simp only [error, ↓reduceIte] at connected
          have closed := (handleRead_ran runs _).disconnected
            (@handleError_closes world call runs 0 conn)
          have still : (if revents.write then handleWrite world call
              (handleRead world call (handleError world call 0 conn))
              else handleRead world call (handleError world call 0 conn)).state = .kDisconnected := by
            split
            · exact (handleWrite_ran runs _).disconnected closed
            · exact closed
          rw [still] at connected
          cases connected

/-! ## Steps -/

/-- The user leaves the message callback in place. -/
def Op.KeepsMessage (op : Op) : Prop :=
  ∀ callbacks, op = .setCallbacks callbacks → callbacks.message = true

theorem Unread.reentered
    (keeps : ∀ callback conn, ∀ op ∈ world.user callback conn, op.KeepsMessage) (depth : Nat)
    (callback : Callback) : Reentry.Within Unread (world.call depth callback) :=
  Reentry.Within.reenter_allowed .refl .trans keeps
    (fun _ calls _ keeps conn => Unread.perform calls keeps conn) depth callback

theorem Unread.called
    (keeps : ∀ callback conn, ∀ op ∈ world.user callback conn, op.KeepsMessage) (depth : Nat)
    {op : Op} (called : op.KeepsMessage) (conn : Conn) :
    Unread conn (Step.take world depth (.call op) conn) :=
  (Unread.sync conn).trans (Unread.perform (Unread.reentered keeps depth) called _)

/-- No bytes are read from the transport of a connected connection while a read
waiter is registered. -/
def Step.heard (world : World) (step : Step) (conn : Conn) : Bool :=
  match step with
  | .event revents =>
      let conn := sync world conn
      !(conn.channel.addedToLoop && conn.state == .kConnected && revents.read && !revents.error &&
        readable world conn && conn.registry.readWaiter.isSome)
  | .functor | .call _ => true

theorem Step.answers
    (keeps : ∀ callback conn, ∀ op ∈ world.user callback conn, op.KeepsMessage) (depth : Nat)
    {step : Step} (called : ∀ op, step = .call op → op.KeepsMessage) {conn : Conn}
    (message : conn.callbacks.message = true) (heard : step.heard world conn = true)
    (connected : (step.take world depth conn).state = .kConnected)
    (before : ∀ {scope : Scope} {after : Conn}, Ran world scope (sync world conn) after →
      after.state = .kConnected → (sync world conn).state = .kConnected) :
    Answers conn (step.take world depth conn) := by
  have calls := Unread.reentered keeps depth
  have synced := @Unread.sync world conn
  cases step with
  | event revents =>
      simp only [Step.take] at connected ⊢
      split
      case isTrue added =>
        rw [if_pos added] at connected
        refine (Answers.of_unread synced).trans (handleEvent_answers (world.call_ran depth) calls
          revents (synced.message message) (fun read error readable => ?_) connected)
        have still := before (handleEventWithGuard_ran (world.call_ran depth) revents _) connected
        by_contra waiting
        rw [sync_channel] at added
        rw [sync_registry] at waiting
        simp [Step.heard, added, still, read, error, readable, waiting] at heard
      case isFalse => exact .of_unread synced
  | functor =>
      simp only [Step.take]
      split
      · exact .of_unread synced
      · exact .of_unread (synced.trans ((Unread.functor calls _ _).behind rfl rfl))
  | call op => exact .of_unread (Unread.called keeps depth (called op rfl) conn)

end MiniTrantor.Net
