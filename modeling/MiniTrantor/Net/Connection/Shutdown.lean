import MiniTrantor.Net.Connection.Output
import MiniTrantor.Trace

/-!
# Accepted data and the half close

When every payload that `send` accepted has reached `sendInLoop` by the time the
write half is shut down, all accepted bytes precede the shutdown and none follows.
-/

set_option autoImplicit false

namespace MiniTrantor.Net

open ConnectionAwaiterRegistry ConnectionBackpressureController TcpConnection
open Trace (NeverAfter)

variable {world : World}

def Event.acceptedPayload : Event → Option Bytes
  | .accepted data => some data
  | _ => none

/-- A payload of `send`, as it is given to `sendInLoop`. -/
def Event.sentPayload : Event → Option Bytes
  | .submitted (.waiter _) _ => none
  | .submitted _ data => some data
  | _ => none

/-- Payloads that `send` accepted, in order. -/
def acceptedPayloads (trace : List Event) : List Bytes := trace.filterMap Event.acceptedPayload

/-- Payloads of `send` that were given to `sendInLoop`, in order. -/
def sentPayloads (trace : List Event) : List Bytes := trace.filterMap Event.sentPayload

@[simp] theorem acceptedPayloads_append (front back : List Event) :
    acceptedPayloads (front ++ back) = acceptedPayloads front ++ acceptedPayloads back :=
  List.filterMap_append

@[simp] theorem sentPayloads_append (front back : List Event) :
    sentPayloads (front ++ back) = sentPayloads front ++ sentPayloads back :=
  List.filterMap_append

def Event.isShutdownWrite : Event → Bool
  | .shutdownWrite _ => true
  | _ => false

/-- Accepted payloads that a half close leaves behind. -/
def Event.backlog : Event → Nat
  | .shutdownWrite backlog => backlog
  | _ => 0

/-- The arm step of a write with a payload. -/
def Event.isWriteArm : Event → Bool
  | .arming _ awaitable _ _ => awaitable.kind == .write && !awaitable.data.isEmpty
  | _ => false

/-- Events that neither move output nor shut it down. -/
def Event.isNeutral : Event → Bool
  | .accepted _ | .submitted .. | .wrote _ | .shutdownWrite _ => false
  | _ => true

/-- The runs in which the order of accepted data and the half close is kept: the
connection neither closes nor is destroyed, the write half is shut down only once
`sendInLoop` has been given every accepted payload, and no write is armed later. -/
structure Orderly (trace : List Event) : Prop where
  undisturbed : .setState .kDisconnected ∉ trace
  unremoved : .removed ∉ trace
  flushed : ∀ event ∈ trace, event.backlog = 0
  unarmed : NeverAfter Event.isShutdownWrite Event.isWriteArm trace

theorem Orderly.of_append {trace events : List Event} (orderly : Orderly (trace ++ events)) :
    Orderly trace where
  undisturbed := fun member => orderly.undisturbed (List.mem_append_left _ member)
  unremoved := fun member => orderly.unremoved (List.mem_append_left _ member)
  flushed := fun event member => orderly.flushed event (List.mem_append_left _ member)
  unarmed := orderly.unarmed.of_append

/-- At every half close all accepted payloads have been submitted and all submitted
bytes accepted by the transport; afterwards nothing is accepted and no byte written. -/
def AcceptedFirst (trace : List Event) : Prop :=
  ∀ before backlog after, trace = before ++ .shutdownWrite backlog :: after →
    (acceptedPayloads before).Perm (sentPayloads before) ∧
    wroteBytes before = submittedBytes before ∧
    acceptedPayloads after = [] ∧ wroteBytes after = []

namespace AcceptedFirst

variable {trace events : List Event}

theorem append (kept : AcceptedFirst trace) (open_ : ∀ backlog, .shutdownWrite backlog ∉ events)
    (silent : (∃ backlog, .shutdownWrite backlog ∈ trace) →
      acceptedPayloads events = [] ∧ wroteBytes events = []) :
    AcceptedFirst (trace ++ events) := by
  intro before backlog after split
  obtain ⟨middle, rfl, old⟩ := Trace.split_append split (open_ backlog)
  obtain ⟨sent, wrote, unaccepted, unwritten⟩ := kept before backlog middle old
  obtain ⟨nothing, noByte⟩ := silent ⟨backlog, by simp [old]⟩
  refine ⟨sent, wrote, ?_, ?_⟩
  · rw [acceptedPayloads_append, unaccepted, nothing, List.append_nil]
  · rw [wroteBytes_append, unwritten, noByte, List.append_nil]

theorem shutdownWrite {backlog : Nat} (kept : AcceptedFirst trace)
    (sent : (acceptedPayloads trace).Perm (sentPayloads trace))
    (wrote : wroteBytes trace = submittedBytes trace) :
    AcceptedFirst (trace ++ [.shutdownWrite backlog]) := by
  intro before other after split
  rcases Trace.split_snoc split with ⟨rfl, _, rfl⟩ | ⟨middle, rfl, old⟩
  · exact ⟨sent, wrote, rfl, rfl⟩
  · obtain ⟨sent, wrote, unaccepted, unwritten⟩ := kept before other middle old
    refine ⟨sent, wrote, ?_, ?_⟩
    · rw [acceptedPayloads_append, unaccepted]
      rfl
    · rw [wroteBytes_append, unwritten]
      rfl

end AcceptedFirst

/-- What is known of an orderly run: the half close is only queued or done in a
state that accepts nothing, and accepted payloads are submitted or pending. -/
structure FinFacts (state : StateE) (functors : List Functor) (buffer : Bytes)
    (trace : List Event) : Prop where
  opened : state ≠ .kDisconnected
  queued : .shutdownInLoop ∈ functors → state ≠ .kConnected
  done : (∃ backlog, .shutdownWrite backlog ∈ trace) →
    state ≠ .kConnected ∧ buffer = [] ∧ functors.filterMap Functor.payload = []
  balance : (acceptedPayloads trace).Perm
    (sentPayloads trace ++ functors.filterMap Functor.payload)
  ordered : AcceptedFirst trace

namespace FinFacts

variable {state next : StateE} {functors others : List Functor} {buffer : Bytes}
  {trace events : List Event}

theorem neutral_payloads (neutral : ∀ event ∈ events, event.isNeutral = true) :
    acceptedPayloads events = [] ∧ sentPayloads events = [] ∧ wroteBytes events = [] ∧
      ∀ backlog, .shutdownWrite backlog ∉ events := by
  have silent : ∀ event ∈ events, event.acceptedPayload = none ∧ event.sentPayload = none ∧
      event.wroteBytes = [] ∧ ∀ backlog, event ≠ .shutdownWrite backlog := by
    intro event member
    have other := neutral event member
    cases event <;>
      simp [Event.isNeutral, Event.acceptedPayload, Event.sentPayload, Event.wroteBytes] at other ⊢
  refine ⟨?_, ?_, ?_, ?_⟩
  · exact List.filterMap_eq_nil_iff.mpr fun event member => (silent event member).1
  · exact List.filterMap_eq_nil_iff.mpr fun event member => (silent event member).2.1
  · exact List.flatMap_eq_nil_iff.mpr fun event member => (silent event member).2.2.1
  · exact fun backlog member => (silent _ member).2.2.2 backlog rfl

/-- Steps that move no payload. -/
theorem neutral (kept : FinFacts state functors buffer trace)
    (quiet : ∀ event ∈ events, event.isNeutral = true)
    (payloads : (others.filterMap Functor.payload).Perm (functors.filterMap Functor.payload))
    (shutdown : .shutdownInLoop ∈ others → .shutdownInLoop ∈ functors) :
    FinFacts state others buffer (trace ++ events) := by
  obtain ⟨unaccepted, unsent, unwritten, unshut⟩ := neutral_payloads quiet
  refine ⟨kept.opened, fun queued => kept.queued (shutdown queued), ?_, ?_, ?_⟩
  · rintro ⟨backlog, member⟩
    rcases List.mem_append.mp member with old | new
    · obtain ⟨unconnected, empty, flushed⟩ := kept.done ⟨backlog, old⟩
      rw [flushed] at payloads
      exact ⟨unconnected, empty, List.perm_nil.mp payloads⟩
    · exact absurd new (unshut backlog)
  · rw [acceptedPayloads_append, sentPayloads_append, unaccepted, unsent, List.append_nil,
      List.append_nil]
    exact kept.balance.trans (payloads.symm.append_left _)
  · exact kept.ordered.append unshut fun _ => ⟨unaccepted, unwritten⟩

/-- Only functors that carry no payload come and go. -/
theorem requeue (kept : FinFacts state functors buffer trace)
    (payloads : (others.filterMap Functor.payload).Perm (functors.filterMap Functor.payload))
    (shutdown : .shutdownInLoop ∈ others → .shutdownInLoop ∈ functors) :
    FinFacts state others buffer trace := by
  have same := @neutral state functors others buffer trace [] kept (by simp) payloads shutdown
  rwa [List.append_nil] at same

theorem note {event : Event} (kept : FinFacts state functors buffer trace)
    (quiet : event.isNeutral = true) : FinFacts state functors buffer (trace ++ [event]) :=
  kept.neutral (by simpa using quiet) (.refl _) id

theorem shutdownWrite (kept : FinFacts state functors buffer trace) (unconnected : state ≠ .kConnected)
    (drained : buffer = []) (flushed : functors.filterMap Functor.payload = [])
    (integrity : submittedBytes trace = wroteBytes trace ++ buffer) {backlog : Nat} :
    FinFacts state functors buffer (trace ++ [.shutdownWrite backlog]) where
  opened := kept.opened
  queued := kept.queued
  done := fun _ => ⟨unconnected, drained, flushed⟩
  balance := by
    have accepted : acceptedPayloads [.shutdownWrite backlog] = [] := rfl
    have sent : sentPayloads [.shutdownWrite backlog] = [] := rfl
    simpa [accepted, sent] using kept.balance
  ordered := by
    refine kept.ordered.shutdownWrite ?_ ?_
    · simpa [flushed] using kept.balance
    · rw [integrity, drained, List.append_nil]

/-- `shutdown` leaves `kConnected`. -/
theorem disconnecting (kept : FinFacts state functors buffer trace) :
    FinFacts .kDisconnecting functors buffer (trace ++ [.setState .kDisconnecting]) := by
  have noted := kept.note (by rfl : (Event.setState .kDisconnecting).isNeutral = true)
  exact ⟨by simp, fun _ => (by simp), fun done => ⟨(by simp), (noted.done done).2⟩, noted.balance, noted.ordered⟩

/-- A payload is accepted or submitted while the write half is open. -/
theorem transfer {after : Bytes} (kept : FinFacts state functors buffer trace)
    (unshut : ∀ backlog, .shutdownWrite backlog ∉ trace ++ events)
    (shutdown : .shutdownInLoop ∈ others → .shutdownInLoop ∈ functors)
    (balance : (acceptedPayloads (trace ++ events)).Perm
      (sentPayloads (trace ++ events) ++ others.filterMap Functor.payload)) :
    FinFacts state others after (trace ++ events) where
  opened := kept.opened
  queued := fun queued => kept.queued (shutdown queued)
  done := by
    rintro ⟨backlog, member⟩
    exact absurd member (unshut backlog)
  balance := balance
  ordered := by
    refine kept.ordered.append (fun backlog member => unshut backlog (List.mem_append_right _ member)) ?_
    rintro ⟨backlog, member⟩
    exact absurd (List.mem_append_left _ member) (unshut backlog)

/-- Draining the buffer; after the half close there is nothing to drain. -/
theorem retrieve (kept : FinFacts state functors buffer trace) (count : Nat) :
    FinFacts state functors (buffer.drop count) (trace ++ [.wrote (buffer.take count)]) where
  opened := kept.opened
  queued := kept.queued
  done := by
    rintro ⟨backlog, member⟩
    obtain ⟨unconnected, drained, flushed⟩ := kept.done ⟨backlog, by simpa using member⟩
    exact ⟨unconnected, by simp [drained], flushed⟩
  balance := by
    have accepted : acceptedPayloads [.wrote (buffer.take count)] = [] := rfl
    have sent : sentPayloads [.wrote (buffer.take count)] = [] := rfl
    simpa [accepted, sent] using kept.balance
  ordered := by
    refine kept.ordered.append (by simp) fun shut => ⟨rfl, ?_⟩
    simp [(kept.done shut).2.1, wroteBytes, Event.wroteBytes]

end FinFacts

/-! ## The invariant -/

def FinOrder (conn : Conn) : Prop :=
  FinFacts conn.state conn.functors conn.outputBuffer conn.trace

/-- The half close of an idle channel, given what the output stream guarantees. -/
theorem FinOrder.shutdownWrite {conn : Conn} (kept : FinOrder conn) (output : OutputStream conn)
    (unconnected : conn.state ≠ .kConnected) (idle : conn.channel.isWriting = false)
    (orderly : Orderly (ConnectionTransport.shutdownWrite conn).trace) :
    FinOrder (ConnectionTransport.shutdownWrite conn) := by
  have drained : conn.outputBuffer = [] := by
    by_contra nonempty
    have unremoved : .removed ∉ conn.trace := fun removed =>
      orderly.unremoved (List.mem_append_left _ removed)
    have writing := output.interest kept.opened unremoved nonempty
    rw [idle] at writing
    cases writing
  have backlog : conn.pendingPayloads.length = 0 :=
    orderly.flushed _ (List.mem_append_right _ List.mem_cons_self)
  exact FinFacts.shutdownWrite kept unconnected drained (List.length_eq_zero_iff.mp backlog)
    (output.integrity kept.opened)

theorem isNote_isNeutral {event : Event} (note : event.isNote = true) : event.isNeutral = true := by
  cases event <;> first | rfl | cases note

theorem isRequest_payload {functor : Functor} (requested : functor.isRequest = true) :
    functor.payload = none ∧ functor ≠ .shutdownInLoop := by
  cases functor <;> simp [Functor.isRequest, Functor.payload] at requested ⊢

theorem isNotice_payload {functor : Functor} (notice : functor.isNotice = true) :
    functor.payload = none ∧ functor ≠ .shutdownInLoop := by
  cases functor <;> simp [Functor.isNotice, Functor.payload] at notice ⊢

/-- Adding a functor that carries no payload. -/
theorem payloads_enqueue {conn : Conn} {functor : Functor} (empty : functor.payload = none) :
    ({ conn with queue := conn.queue ++ [functor] }.functors).filterMap Functor.payload =
      conn.functors.filterMap Functor.payload := by
  simp [Conn.functors, List.filterMap_append, empty]

theorem payloads_dequeue {conn : Conn} {functor : Functor} {rest : List Functor}
    (queue : conn.queue = functor :: rest) (empty : functor.payload = none) :
    ({ conn with queue := rest }.functors).filterMap Functor.payload =
      conn.functors.filterMap Functor.payload := by
  simp [Conn.functors, queue, empty]

theorem payloads_begin {conn : Conn} {thread : ThreadId} {functor : Functor} :
    (Remote.begin thread functor conn).functors.filterMap Functor.payload =
      conn.functors.filterMap Functor.payload ++ functor.payload.toList := by
  rw [begin_functors, List.filterMap_append]
  cases payload : functor.payload <;> simp [payload]

/-- A payload is submitted, which an orderly run does only before the half close. -/
theorem FinOrder.submitted {origin : Origin} {data : Bytes} {before arrived after : Conn}
    (kept : FinOrder before) (arrives : Arrives origin data before arrived)
    (effect : SubmitEffect origin data arrived after) (orderly : Orderly after.trace) :
    FinOrder after := by
  obtain ⟨⟨_, _, events, _, _, trace, _, transfers, _⟩, frame⟩ := effect
  have state : after.state = arrived.state := by rw [frame]
  have functors : after.functors = arrived.functors := by rw [frame]; rfl
  have silent : acceptedPayloads events = [] ∧ sentPayloads events = [] ∧
      ∀ backlog, .shutdownWrite backlog ∉ events := by
    have each : ∀ event ∈ events, event.acceptedPayload = none ∧ event.sentPayload = none ∧
        ∀ backlog, event ≠ .shutdownWrite backlog := by
      intro event member
      have transfer := transfers event member
      cases event <;>
        simp [Event.isTransfer, Event.isUpdate, Event.acceptedPayload, Event.sentPayload] at transfer ⊢
    exact ⟨List.filterMap_eq_nil_iff.mpr fun event member => (each event member).1,
      List.filterMap_eq_nil_iff.mpr fun event member => (each event member).2.1,
      fun backlog member => (each _ member).2.2 backlog rfl⟩
  unfold FinOrder
  rw [state, functors]
  cases arrives with
  | ownerSend connected =>
      have unshut : ∀ backlog, .shutdownWrite backlog ∉ before.trace := fun backlog member =>
        (kept.done ⟨backlog, member⟩).1 connected
      have split : after.trace = before.trace ++ (.accepted data :: .submitted .ownerSend data :: events) := by
        rw [trace]; simp
      rw [split]
      refine FinFacts.transfer kept ?_ id ?_
      · intro backlog
        simp [unshut backlog, silent.2.2 backlog]
      · have accepted : acceptedPayloads (.accepted data :: .submitted .ownerSend data :: events) =
            data :: acceptedPayloads events := rfl
        have sent : sentPayloads (.accepted data :: .submitted .ownerSend data :: events) =
            data :: sentPayloads events := rfl
        rw [acceptedPayloads_append, sentPayloads_append, accepted, sent, silent.1, silent.2.1]
        have added := (kept.balance.append_right [data]).trans
          (.of_eq (List.append_assoc _ _ _))
        exact (added.trans ((List.perm_append_singleton data _).append_left _)).trans
          (.of_eq (List.append_cons _ _ _))
  | @queuedSend _ _ rest queue =>
      have pending : before.functors.filterMap Functor.payload =
          data :: { before with queue := rest }.functors.filterMap Functor.payload := by
        simp [Conn.functors, queue, Functor.payload]
      have unshut : ∀ backlog, .shutdownWrite backlog ∉ before.trace := by
        intro backlog member
        have flushed := (kept.done ⟨backlog, member⟩).2.2
        rw [pending] at flushed
        cases flushed
      have sent : sentPayloads (.submitted .queuedSend data :: events) = data :: sentPayloads events := rfl
      have accepted : acceptedPayloads (.submitted .queuedSend data :: events) =
          acceptedPayloads events := rfl
      rw [trace]
      refine FinFacts.transfer kept ?_ ?_ ?_
      · intro backlog
        simp [unshut backlog, silent.2.2 backlog]
      · exact (mem_functors_dequeue queue (by simp)).mp
      · rw [acceptedPayloads_append, sentPayloads_append, accepted, sent, silent.1, silent.2.1]
        have balance := kept.balance
        rw [pending] at balance
        simpa using balance
  | @waiter waiter awaitable _ _ _ write payload _ armed =>
      obtain ⟨past, readable, noted⟩ := armed
      have unshut : ∀ backlog, .shutdownWrite backlog ∉ before.trace := by
        intro backlog member
        rw [noted] at member
        have early : .shutdownWrite backlog ∈ past := by simpa using member
        have unarmed : NeverAfter Event.isShutdownWrite Event.isWriteArm before.trace := by
          have whole := orderly.unarmed
          rw [trace] at whole
          exact whole.of_append
        rw [noted] at unarmed
        have refused := unarmed.last early rfl
        simp [Event.isWriteArm, write, payload] at refused
      have sent : sentPayloads (.submitted (.waiter waiter) awaitable.data :: events) =
          sentPayloads events := rfl
      have accepted : acceptedPayloads (.submitted (.waiter waiter) awaitable.data :: events) =
          acceptedPayloads events := rfl
      rw [trace]
      refine FinFacts.transfer kept ?_ id ?_
      · intro backlog
        simp [unshut backlog, silent.2.2 backlog]
      · rw [occupyWrite_trace, acceptedPayloads_append, sentPayloads_append, accepted, sent,
          silent.1, silent.2.1, List.append_nil, List.append_nil]
        exact kept.balance

theorem FinOrder.move {before after : Conn} (move : Move world before after)
    (output : OutputStream before) (orderly : Orderly after.trace) (kept : FinOrder before) :
    FinOrder after := by
  cases move with
  | claims | callbacks | policy | register => exact kept
  | enqueue notice =>
      obtain ⟨empty, other⟩ := isNotice_payload notice
      exact FinFacts.requeue kept (.of_eq (payloads_enqueue empty)) (mem_functors_enqueue other.symm).mp
  | @dequeue _ functor rest queue _ _ closed =>
      have empty : functor.payload = none := by
        cases functor with
        | sendInLoop data => exact absurd (closed data rfl) kept.opened
        | _ => rfl
      refine FinFacts.requeue kept (.of_eq (payloads_dequeue queue empty)) fun member => ?_
      simp only [Conn.functors, queue, List.mem_append, List.mem_cons] at member ⊢
      exact member.imp_left .inr
  | @dequeueShutdown _ rest queue idle =>
      have popped : FinOrder { before with queue := rest } := by
        refine FinFacts.requeue kept (.of_eq (payloads_dequeue queue rfl)) fun member => ?_
        simp only [Conn.functors, queue, List.mem_append, List.mem_cons] at member ⊢
        exact member.imp_left .inr
      have unconnected := kept.queued (by simp [Conn.functors, queue])
      exact popped.shutdownWrite output unconnected idle orderly
  | request requested =>
      obtain ⟨empty, other⟩ := isRequest_payload requested
      refine FinFacts.requeue kept (.of_eq ?_) (mem_functors_begin other.symm).mp
      rw [payloads_begin, empty, Option.toList_none, List.append_nil]
  | @accept _ thread data connected =>
      have unshut : ∀ backlog, .shutdownWrite backlog ∉ before.trace := fun backlog member =>
        (kept.done ⟨backlog, member⟩).1 connected
      refine FinFacts.transfer kept (by simp [unshut]) ?_ ?_
      · exact fun queued => (@mem_functors_begin before thread _ (.sendInLoop data) (by simp)).mp queued
      · have accepted : acceptedPayloads [.accepted data] = [data] := rfl
        have sent : sentPayloads [.accepted data] = [] := rfl
        have same : (before.emit (.accepted data)).functors = before.functors := rfl
        rw [payloads_begin, acceptedPayloads_append, sentPayloads_append, accepted, sent, same]
        have added := kept.balance.append_right [data]
        simpa [Functor.payload] using added
  | push member =>
      have same := push_functors member
      exact FinFacts.requeue kept (same.filterMap _) same.mem_iff.mp
  | note note => exact FinFacts.note kept (isNote_isNeutral note)
  | reading | modifyInput | error | cancelled | failed | queued | armWriteReady | unregister
  | destroyed =>
      exact FinFacts.note kept rfl
  | beginShutdown _ => exact FinFacts.disconnecting kept
  | @requestShutdown _ thread connected =>
      have begun : FinOrder (before.setState .kDisconnecting) := FinFacts.disconnecting kept
      refine ⟨by simp, fun _ => (by simp), fun done => ?_, ?_, begun.ordered⟩
      · obtain ⟨unconnected, drained, flushed⟩ := begun.done done
        exact ⟨unconnected, drained, by rw [payloads_begin, flushed]; rfl⟩
      · have balance := begun.balance
        rw [payloads_begin]
        simpa [Functor.payload] using balance
  | shutdownWrite disconnecting idle =>
      exact kept.shutdownWrite output (by rw [disconnecting]; decide) idle orderly
  | submit arrives _ submits => exact kept.submitted arrives submits.effect orderly
  | requestAwait _ =>
      refine FinFacts.requeue kept (.of_eq ?_) fun queued =>
        (@mem_functors_begin before _ _ (.armWaiter _ _) (by simp)).mp queued
      rw [payloads_begin]
      exact List.append_nil _
  | @armRead _ _ _ ready _ _ _ _ _ _ | @armClose _ _ _ ready _ _ _ _ _ =>
      cases ready
      · exact kept
      · exact FinFacts.note kept rfl
  | unregisterChannel _ =>
      obtain ⟨_, _, _, removed⟩ := unregisterChannel_eq before
      rw [removed] at orderly
      exact absurd (by simp) orderly.unremoved

theorem finOrder : Invariant world true fun conn =>
    OutputStream conn ∧ (Orderly conn.trace → FinOrder conn) := by
  constructor
  case move =>
    intro before after move kept
    refine ⟨outputStream.move move kept.1, fun orderly => ?_⟩
    obtain ⟨_, frame⟩ := move.frame
    have earlier : Orderly before.trace := by rw [frame.trace] at orderly; exact orderly.of_append
    exact FinOrder.move move kept.1 orderly (kept.2 earlier)
  case take =>
    intro waiter awaitable before after takes kept
    refine ⟨(@outputStream world).take takes kept.1, ?_⟩
    cases takes with
    | await _ => exact kept.2
    | dequeue queue =>
        intro orderly
        refine FinFacts.requeue (kept.2 orderly) (.of_eq (payloads_dequeue queue rfl)) ?_
        exact (mem_functors_dequeue queue (by simp)).mp
  case finish =>
    intro waiter before after finishes kept
    refine ⟨(@outputStream world).finish finishes kept.1, ?_⟩
    cases finishes with
    | complete _ _ => exact kept.2
    | finish _ _ =>
        obtain ⟨_, _, _, _, finished⟩ := finishAwait_eq _ _ _
        rw [finished]
        intro orderly
        exact FinFacts.neutral (kept.2 orderly.of_append) (by simp [Event.isNeutral]) (.refl _) id
  case dispatch =>
    intro on before after move kept
    refine ⟨(@outputStream world).dispatch on move kept.1, ?_⟩
    cases move with
    | established => exact kept.2
    | receive | dispatch | interest | draining =>
        exact fun orderly => FinFacts.note (kept.2 orderly.of_append) rfl
  case retrieve =>
    intro on conn count writing kept
    refine ⟨(@outputStream world).retrieve on writing kept.1, fun orderly => ?_⟩
    exact FinFacts.retrieve (kept.2 orderly.of_append) count
  case settle =>
    intro on conn kept
    refine ⟨(@outputStream world).settle on kept.1, ?_⟩
    unfold settle
    split
    · intro orderly
      exact FinFacts.note (FinFacts.note (kept.2 orderly.of_append.of_append) rfl) rfl
    · exact kept.2
  case close =>
    intro conn failed opened fails kept
    refine ⟨outputStream.close opened fails kept.1, fun orderly => ?_⟩
    rw [shutChannel_trace] at orderly
    exact absurd (by simp) orderly.undisturbed
  case disconnected =>
    intro conn closed kept
    exact ⟨(@outputStream world).disconnected closed kept.1,
      fun orderly => FinFacts.note (kept.2 orderly.of_append) rfl⟩
  case closeCallback =>
    intro conn kept
    exact ⟨(@outputStream world).closeCallback kept.1,
      fun orderly => FinFacts.note (kept.2 orderly.of_append) rfl⟩

/-! ## Results -/

/-- In every orderly run of a plain connection, at each half close every payload
that `send` accepted has been submitted and every submitted byte accepted by the
transport, and nothing is accepted or written afterwards. -/
theorem accepted_data_precedes_fin (setup : Setup) (plain : setup.tls = false) (world : World)
    (depth : Nat) (steps : List Step) (orderly : Orderly (setup.run world depth steps).trace)
    (before after : List Event) (backlog : Nat)
    (split : (setup.run world depth steps).trace = before ++ .shutdownWrite backlog :: after) :
    (acceptedPayloads before).Perm (sentPayloads before) ∧
      wroteBytes before = submittedBytes before ∧
      acceptedPayloads after = [] ∧ wroteBytes after = [] := by
  have opened : OutputStream setup.opened ∧ (Orderly setup.opened.trace → FinOrder setup.opened) := by
    refine ⟨setup.opened_output.1, fun _ => ⟨by rintro ⟨⟩, by rintro ⟨⟩, ?_, .refl _, ?_⟩⟩
    · simp [Setup.opened]
    · intro before backlog after split
      have member : .shutdownWrite backlog ∈ setup.opened.trace := by simp [split]
      simp [Setup.opened] at member
  have kept := (@finOrder world).run_opened plain opened depth steps
  exact (kept.2 orderly).ordered before backlog after split

/-- Another thread makes the given calls before the owner loop runs. -/
def callsBefore (calls : List RemoteCall) : World where
  others := fun conn =>
    if conn.trace.length ≤ 5 then calls.flatMap fun request => [.call 1 request, .push 1] else []

/-- A socket that takes one byte at a time. -/
def byteWise : World where
  write := fun _ data => .wrote (min 1 data.length)
  write_le := wroteOne_le

/-- Two payloads are sent, and both wait in the buffer at the shutdown. -/
def sendTwice : List Step :=
  [.call (.send [1, 2]), .call (.send [3]), .call .shutdown, .event { write := true },
    .event { write := true }]

theorem accepted_data_precedes_fin_two_sends :
    let trace := (Setup.run {} byteWise 1 sendTwice).trace
    trace = trace.take 18 ++ .shutdownWrite 0 :: trace.drop 19 ∧
      wroteBytes (trace.take 18) = [1, 2, 3] ∧ wroteBytes (trace.drop 19) = [] := by
  have split : (Setup.run {} byteWise 1 sendTwice).trace =
      (Setup.run {} byteWise 1 sendTwice).trace.take 18 ++ .shutdownWrite 0 ::
        (Setup.run {} byteWise 1 sendTwice).trace.drop 19 := by
    decide
  have ordered := accepted_data_precedes_fin {} rfl byteWise 1 sendTwice
    ⟨by decide, by decide, by decide, by decide⟩ _ _ 0 split
  exact ⟨split, by decide, ordered.2.2.2⟩

/-- One thread sends twice and shuts down: the first payload alone reaches the
transport before the half close, the second after it. -/
theorem accepted_data_follows_fin :
    let trace := (Setup.run {} (callsBefore [.send [1], .send [2], .shutdown]) 1
      [.functor, .functor, .functor]).trace
    .setState .kDisconnected ∉ trace ∧ .removed ∉ trace ∧
      trace = trace.take 10 ++ .shutdownWrite 1 :: trace.drop 11 ∧
      acceptedPayloads (trace.take 10) = [[1], [2]] ∧ wroteBytes (trace.take 10) = [1] ∧
      wroteBytes (trace.drop 11) = [2] := by
  decide

end MiniTrantor.Net
