import MiniTrantor.Net.Connection.Lifecycle

/-!
# Closed connections and the poller

Once the close sequence has disabled the channel nothing registers it again, as
long as no handler goes on to touch it on a connection that a hook has closed;
and what `connectDestroyed` leaves behind.
-/

set_option autoImplicit false

namespace MiniTrantor.Net

open ConnectionAwaiterRegistry ConnectionBackpressureController TcpConnection
open Trace (NeverAfter Follows)

variable {world : World}

def Event.isChannelClosed (event : Event) : Bool := event == .channelClosed

def Event.isRemoved (event : Event) : Bool := event == .removed

/-- Events that concern the channel's registration. -/
def Event.isChannel (event : Event) : Bool :=
  event.isUpdate || event.isChannelClosed || event.isRemoved

/-- No drain ends, no handshake step starts and, with TLS, no read starts on a
closed connection, and none is established that the hook before has closed. -/
structure Untouched (ssl : Bool) (trace : List Event) : Prop where
  fresh : Fresh trace
  drained : .checkpoint .drained .kDisconnected ∉ trace
  handshake : .checkpoint .handshake .kDisconnected ∉ trace
  read : ssl = true → .checkpoint .handleRead .kDisconnected ∉ trace

theorem Untouched.of_append {ssl : Bool} {trace events : List Event}
    (untouched : Untouched ssl (trace ++ events)) : Untouched ssl trace where
  fresh := untouched.fresh.of_append
  drained := fun member => untouched.drained (List.mem_append_left _ member)
  handshake := fun member => untouched.handshake (List.mem_append_left _ member)
  read := fun tls member => untouched.read tls (List.mem_append_left _ member)

/-- `connectDestroyed` finds the connection connected or closed already. -/
def DestroyedClosed (trace : List Event) : Prop :=
  ∀ found, .checkpoint .connectDestroyed found ∈ trace → found = .kConnected ∨ found = .kDisconnected

theorem DestroyedClosed.of_append {trace events : List Event}
    (destroyed : DestroyedClosed (trace ++ events)) : DestroyedClosed trace :=
  fun found member => destroyed found (List.mem_append_left _ member)

/-- What keeps the channel of a closed connection out of the poller. -/
structure InertFacts (ssl : Bool) (state : StateE) (channel : Channel) (active : Bool)
    (trace : List Event) : Prop where
  inactive : state = .kDisconnected → active = false
  closed : Untouched ssl trace → .channelClosed ∈ trace → state = .kDisconnected
  disabled : Untouched ssl trace → state = .kDisconnected → channel.events = .none
  ordered : Untouched ssl trace → NeverAfter Event.isChannelClosed Event.isUpdate trace
  removed : Untouched ssl trace → DestroyedClosed trace → .removed ∈ trace →
    state = .kDisconnected ∧ channel.addedToLoop = false
  destroyed : Untouched ssl trace → DestroyedClosed trace →
    NeverAfter Event.isRemoved Event.isUpdate trace

def Inert (conn : Conn) : Prop :=
  InertFacts conn.transport.ssl conn.state conn.channel conn.backpressure.active conn.trace

namespace InertFacts

variable {ssl : Bool} {state next : StateE} {channel : Channel} {active : Bool}
  {trace events : List Event}

/-- Steps that leave the channel alone. -/
theorem quiet (kept : InertFacts ssl state channel active trace)
    (state_eq : next = state ∨ state = .kConnected ∧ next = .kDisconnecting)
    (silent : ∀ event ∈ events, event.isChannel = false) :
    InertFacts ssl next channel active (trace ++ events) := by
  have unclosing : next = .kDisconnected → state = .kDisconnected := by
    rcases state_eq with rfl | ⟨_, rfl⟩
    · exact id
    · simp
  have closing : state = .kDisconnected → next = .kDisconnected := by
    rcases state_eq with rfl | ⟨rfl, rfl⟩
    · exact id
    · simp
  have none : ∀ event ∈ events, event.isUpdate = false ∧ event ≠ .channelClosed ∧ event ≠ .removed := by
    intro event member
    have other := silent event member
    simp only [Event.isChannel, Event.isChannelClosed, Event.isRemoved, Bool.or_eq_false_iff,
      beq_eq_false_iff_ne] at other
    exact ⟨other.1.1, other.1.2, other.2⟩
  have fresh : ∀ {first : Event → Bool}, NeverAfter first Event.isUpdate trace →
      NeverAfter first Event.isUpdate (trace ++ events) := by
    intro first ordered
    refine ordered.append (.silent fun event member => (none event member).1) ?_
    intro later member update
    rw [(none later member).1] at update
    cases update
  refine ⟨fun now => kept.inactive (unclosing now),
    fun untouched member => closing (kept.closed untouched.of_append ?_),
    fun untouched now => kept.disabled untouched.of_append (unclosing now),
    fun untouched => fresh (kept.ordered untouched.of_append),
    fun untouched destroyed member => ?_,
    fun untouched destroyed => fresh (kept.destroyed untouched.of_append destroyed.of_append)⟩
  · exact (List.mem_append.mp member).resolve_right fun new => (none _ new).2.1 rfl
  · have old := (List.mem_append.mp member).resolve_right fun new => (none _ new).2.2 rfl
    have gone := kept.removed untouched.of_append destroyed.of_append old
    exact ⟨closing gone.1, gone.2⟩

theorem note {event : Event} (kept : InertFacts ssl state channel active trace)
    (silent : event.isChannel = false) : InertFacts ssl state channel active (trace ++ [event]) :=
  kept.quiet (.inl rfl) (by simpa using silent)

/-- The channel may be updated while the connection is open, or in a run that the
conditions rule out. -/
theorem touch {after : Channel} (kept : InertFacts ssl state channel active trace)
    (touched : state = .kDisconnected → ¬Untouched ssl trace)
    (other : ∀ event ∈ events, event ≠ .channelClosed ∧ event ≠ .removed) :
    InertFacts ssl state after active (trace ++ events) := by
  have opened : Untouched ssl (trace ++ events) → state ≠ .kDisconnected :=
    fun untouched now => touched now untouched.of_append
  have ordered : ∀ {first : Event → Bool}, NeverAfter first Event.isUpdate trace →
      (∀ event ∈ trace, first event = false) → (∀ event ∈ events, first event = false) →
      NeverAfter first Event.isUpdate (trace ++ events) := by
    intro first before none new
    refine before.append (List.pairwise_of_forall_mem_list fun event member _ _ began => ?_)
      fun _ _ _ => none
    rw [new event member] at began
    cases began
  refine ⟨kept.inactive, fun untouched member => kept.closed untouched.of_append ?_,
    fun untouched now => absurd now (opened untouched), fun untouched => ?_,
    fun untouched destroyed member => ?_, fun untouched destroyed => ?_⟩
  · exact (List.mem_append.mp member).resolve_right fun new => (other _ new).1 rfl
  · refine ordered (kept.ordered untouched.of_append) (fun event member => ?_) fun event member => ?_
    · by_contra closed
      have same : event = .channelClosed := by simpa [Event.isChannelClosed] using closed
      exact opened untouched (kept.closed untouched.of_append (same ▸ member))
    · simpa [Event.isChannelClosed] using (other event member).1
  · have old := (List.mem_append.mp member).resolve_right fun new => (other _ new).2 rfl
    exact absurd (kept.removed untouched.of_append destroyed.of_append old).1 (opened untouched)
  · refine ordered (kept.destroyed untouched.of_append destroyed.of_append) (fun event member => ?_)
      fun event member => ?_
    · by_contra gone
      have same : event = .removed := by simpa [Event.isRemoved] using gone
      exact opened untouched
        (kept.removed untouched.of_append destroyed.of_append (same ▸ member)).1
    · simpa [Event.isRemoved] using (other event member).2

/-- Under the conditions, a connection that is still open was never removed. -/
theorem unremoved (kept : InertFacts ssl state channel active trace) (opened : state ≠ .kDisconnected)
    (untouched : Untouched ssl trace) (destroyed : DestroyedClosed trace) :
    ∀ event ∈ trace, event.isRemoved = false := by
  intro event member
  by_contra gone
  have same : event = .removed := by simpa [Event.isRemoved] using gone
  exact opened (kept.removed untouched destroyed (same ▸ member)).1

theorem unclosed (kept : InertFacts ssl state channel active trace) (opened : state ≠ .kDisconnected)
    (untouched : Untouched ssl trace) : ∀ event ∈ trace, event.isChannelClosed = false := by
  intro event member
  by_contra closed
  have same : event = .channelClosed := by simpa [Event.isChannelClosed] using closed
  exact opened (kept.closed untouched (same ▸ member))

/-- The start of the close sequence. -/
theorem shut {after : Channel} (kept : InertFacts ssl state channel active trace)
    (opened : state ≠ .kDisconnected) (disabled : after.events = .none) :
    InertFacts ssl .kDisconnected after false
      (trace ++ [.setState .kDisconnected, .update .none, .channelClosed]) where
  inactive := fun _ => rfl
  closed := fun _ _ => rfl
  disabled := fun _ _ => disabled
  ordered := fun untouched =>
    (kept.ordered untouched.of_append).append (by decide)
      fun _ _ _ => kept.unclosed opened untouched.of_append
  removed := fun untouched destroyed member => by
    have old : .removed ∈ trace := by simpa using member
    exact absurd (kept.removed untouched.of_append destroyed.of_append old).1 opened
  destroyed := fun untouched destroyed =>
    (kept.destroyed untouched.of_append destroyed.of_append).append (by decide)
      fun _ _ _ => kept.unremoved opened untouched.of_append destroyed.of_append

/-- The end of `connectDestroyed`. -/
theorem remove (kept : InertFacts ssl state channel active trace)
    (updates : ∀ event ∈ events, event.isUpdate = true)
    (needed : channel.events = .none → events = [])
    (guarded : state = .kDisconnected ∨ ∃ found, .checkpoint .connectDestroyed found ∈ trace ∧
      found ≠ .kConnected ∧ found ≠ .kDisconnected) :
    InertFacts ssl state {} active (trace ++ events ++ [.removed]) := by
  have only : ∀ event ∈ events ++ [.removed], event ≠ .channelClosed := by
    rintro event member rfl
    rcases List.mem_append.mp member with update | last
    · cases updates _ update
    · cases List.mem_singleton.mp last
  have closed : DestroyedClosed (trace ++ (events ++ [.removed])) → state = .kDisconnected := by
    intro destroyed
    rcases guarded with now | ⟨found, noted, unconnected, opened⟩
    · exact now
    · rcases destroyed.of_append found noted with connected | gone
      · exact absurd connected unconnected
      · exact absurd gone opened
  have single : ∀ {first : Event → Bool}, (∀ event ∈ events, first event = false) →
      NeverAfter first Event.isUpdate (events ++ [.removed]) := by
    intro first none
    refine List.pairwise_append.mpr ⟨?_, List.pairwise_singleton _ _, ?_⟩
    · refine List.pairwise_of_forall_mem_list fun event member _ _ began => ?_
      rw [none event member] at began
      cases began
    · intro _ _ later last _
      rw [List.mem_singleton.mp last]
      rfl
  have updateOnly : ∀ {first : Event → Bool}, (∀ mask, first (.update mask) = false) →
      ∀ event ∈ events, first event = false := by
    intro first none event member
    have update := updates event member
    cases event <;> first | exact none _ | cases update
  rw [List.append_assoc]
  refine ⟨kept.inactive, fun untouched member => kept.closed untouched.of_append ?_,
    fun _ _ => rfl, fun untouched => ?_,
    fun _ destroyed _ => ⟨closed destroyed, rfl⟩, fun untouched destroyed => ?_⟩
  · exact (List.mem_append.mp member).resolve_right fun new => only _ new rfl
  · refine (kept.ordered untouched.of_append).append (single (updateOnly fun _ => rfl)) ?_
    intro later member update
    by_cases now : state = .kDisconnected
    · rw [needed (kept.disabled untouched.of_append now), List.nil_append] at member
      cases List.mem_singleton.mp member
      cases update
    · exact kept.unclosed now untouched.of_append
  · refine (kept.destroyed untouched.of_append destroyed.of_append).append
      (single (updateOnly fun _ => rfl)) ?_
    intro later member update
    rw [needed (kept.disabled untouched.of_append (closed destroyed)), List.nil_append] at member
    cases List.mem_singleton.mp member
    cases update

end InertFacts

theorem isNote_isChannel {event : Event} (note : event.isNote = true) : event.isChannel = false := by
  cases event <;> first | rfl | cases note

theorem Inert.arrived {origin : Origin} {data : Bytes} {before after : Conn} (kept : Inert before)
    (arrives : Arrives origin data before after) : Inert after := by
  cases arrives with
  | ownerSend _ => exact InertFacts.note kept rfl
  | queuedSend _ | waiter _ _ _ _ _ _ => exact kept

theorem Inert.submitted {origin : Origin} {data : Bytes} {before after : Conn} (kept : Inert before)
    (opened : before.state ≠ .kDisconnected) (effect : SubmitEffect origin data before after) :
    Inert after := by
  obtain ⟨⟨_, _, events, _, _, trace, _, transfers, _⟩, frame⟩ := effect
  have other : ∀ event ∈ .submitted origin data :: events, event ≠ .channelClosed ∧ event ≠ .removed := by
    intro event member
    rcases List.mem_cons.mp member with rfl | transfer
    · exact ⟨by simp, (by simp)⟩
    · have moved := transfers event transfer
      constructor <;> rintro rfl <;> cases moved
  have touched : InertFacts before.transport.ssl before.state after.channel before.backpressure.active
      (before.trace ++ .submitted origin data :: events) :=
    InertFacts.touch kept (fun now => absurd now opened) other
  unfold Inert
  rw [← trace] at touched
  rw [frame]
  exact touched

theorem Inert.shutdownWrite {conn : Conn} (kept : Inert conn) :
    Inert (ConnectionTransport.shutdownWrite conn) := by
  have ssl : (ConnectionTransport.shutdownWrite conn).transport.ssl = conn.transport.ssl :=
    sslShutdown_ssl _
  unfold Inert
  rw [ssl]
  exact InertFacts.note kept rfl

/-- A change of interest by a read, a handshake step or a write of a TLS connection. -/
theorem Inert.interest {conn : Conn} {change : Channel → Channel} (kept : Inert conn)
    (ssl : conn.transport.ssl = true)
    (unchecked : conn.Unchecked [.handleRead, .handshake] ∨ conn.channel.isWriting = true) :
    Inert (conn.updateChannel change) := by
  refine InertFacts.touch kept (fun now untouched => ?_) (by simp)
  rcases unchecked with unchecked | writing
  · obtain ⟨place, listed, noted⟩ := unchecked now
    simp only [List.mem_cons, List.not_mem_nil, or_false] at listed
    rcases listed with rfl | rfl
    · exact untouched.read ssl noted
    · exact untouched.handshake noted
  · have disabled := kept.disabled untouched now
    rw [Channel.isWriting, disabled] at writing
    cases writing

theorem inert : Invariant world true Inert := by
  constructor
  case move =>
    intro before after move kept
    cases move with
    | enqueue | dequeue | request | push | claims | callbacks | policy | requestAwait | register =>
        exact kept
    | dequeueShutdown _ _ | shutdownWrite _ _ =>
        exact Inert.shutdownWrite kept
    | accept _ => exact InertFacts.note kept rfl
    | note note => exact InertFacts.note kept (isNote_isChannel note)
    | reading active =>
        refine InertFacts.touch kept (fun now => ?_) (by simp)
        have inactive := kept.inactive now
        rw [active] at inactive
        cases inactive
    | modifyInput | error | cancelled | failed | queued | armWriteReady | unregister | destroyed =>
        exact InertFacts.note kept rfl
    | beginShutdown connected | requestShutdown connected =>
        exact InertFacts.quiet kept (.inr ⟨connected, rfl⟩) (by simp [Event.isChannel, Event.isUpdate, Event.isChannelClosed, Event.isRemoved])
    | submit arrives opened submits =>
        exact (kept.arrived arrives).submitted (by rw [arrives.state_eq]; exact opened) submits.effect
    | @armRead _ _ _ ready _ _ _ _ _ _ | @armClose _ _ _ ready _ _ _ _ _ =>
        cases ready
        · exact kept
        · exact InertFacts.note kept rfl
    | unregisterChannel guarded =>
        obtain ⟨updates, all, needed, removed⟩ := unregisterChannel_eq before
        rw [removed]
        exact InertFacts.remove kept all needed guarded
  case take =>
    intro waiter awaitable before after takes kept
    cases takes <;> exact kept
  case finish =>
    intro waiter before after finishes kept
    cases finishes with
    | complete _ _ => exact kept
    | finish _ _ =>
        obtain ⟨_, _, _, _, finished⟩ := finishAwait_eq _ _ _
        rw [finished]
        exact InertFacts.quiet kept (.inl rfl) (by simp [Event.isChannel, Event.isUpdate, Event.isChannelClosed, Event.isRemoved])
  case dispatch =>
    intro _ before after move kept
    cases move with
    | established => exact kept
    | interest ssl unchecked _ => exact kept.interest ssl unchecked
    | receive | dispatch | draining => exact InertFacts.note kept rfl
  case retrieve => exact fun _ _ _ _ kept => InertFacts.note kept rfl
  case settle =>
    intro _ conn kept
    unfold settle
    split
    · have noted : InertFacts _ _ _ _ _ := InertFacts.note kept
        (by rfl : (Event.checkpoint .drained conn.state).isChannel = false)
      refine noted.touch (fun now untouched => ?_) (by simp)
      exact untouched.drained (by simp [now])
    · exact kept
  case close =>
    intro conn failed opened fails kept
    obtain ⟨_, frame⟩ := fails.frame
    have noted : Inert failed := by
      cases fails with
      | close => exact kept
      | error => exact InertFacts.note kept rfl
      | @send origin data _ _ arrives =>
          have submitted := InertFacts.note (kept.arrived arrives)
            (by rfl : (Event.submitted origin data).isChannel = false)
          exact submitted.note rfl
    unfold Inert
    rw [shutChannel_trace]
    exact InertFacts.shut noted (frame.still_open opened) rfl
  case disconnected => exact fun _ kept => InertFacts.note kept rfl
  case closeCallback => exact fun kept => InertFacts.note kept rfl

/-- The connection is established, if the hook before has not closed it. -/
theorem Inert.establish {conn : Conn} (kept : Inert conn) (plain : conn.transport.ssl = false)
    (transport : Transport) : Inert (establish { conn with transport }) := by
  unfold Inert at kept ⊢
  rw [plain] at kept
  rw [establish_trace]
  have before : ∀ {events : List Event}, Untouched transport.ssl (conn.trace ++ events) →
      Untouched false conn.trace :=
    fun untouched =>
      { fresh := untouched.fresh.of_append
        drained := untouched.of_append.drained
        handshake := untouched.of_append.handshake
        read := (by rintro ⟨⟩) }
  have opened : ∀ {events : List Event}, Untouched transport.ssl
      (conn.trace ++ .checkpoint .connectEstablished conn.state :: events) →
      conn.state ≠ .kDisconnected :=
    fun untouched closed => untouched.fresh (by simp [closed])
  refine ⟨by rintro ⟨⟩, fun untouched member => ?_, fun _ => (by rintro ⟨⟩), fun untouched => ?_,
    fun untouched destroyed member => ?_, fun untouched destroyed => ?_⟩
  · have old : .channelClosed ∈ conn.trace := by simpa using member
    exact absurd (kept.closed (before untouched) old) (opened untouched)
  · exact (kept.ordered (before untouched)).append (by simp [NeverAfter, Event.isChannelClosed])
      fun _ _ _ => kept.unclosed (opened untouched) (before untouched)
  · have old : .removed ∈ conn.trace := by simpa using member
    have gone := kept.removed (before untouched) destroyed.of_append old
    exact absurd gone.1 (opened untouched)
  · exact (kept.destroyed (before untouched) destroyed.of_append).append
      (by simp [NeverAfter, Event.isRemoved])
      fun _ _ _ => kept.unremoved (opened untouched) (before untouched) destroyed.of_append

theorem Setup.run_inert (setup : Setup) (world : World) (depth : Nat) (steps : List Step) :
    Inert (setup.run world depth steps) := by
  refine (@inert world).run ?_ (fun _ _ plain kept => kept.establish plain _) depth steps
  exact ⟨by rintro ⟨⟩, fun _ => (by rintro ⟨⟩), fun _ => (by rintro ⟨⟩), fun _ => .nil,
    fun _ _ => (by rintro ⟨⟩), fun _ _ => .nil⟩

theorem Setup.run_untouched {setup : Setup} {world : World} {depth : Nat} {steps : List Step}
    (untouched : Untouched setup.tls (setup.run world depth steps).trace) :
    Untouched (setup.run world depth steps).transport.ssl (setup.run world depth steps).trace := by
  refine { untouched with read := fun ssl => untouched.read ?_ }
  rw [setup.run_ssl] at ssl
  exact Setup.transport_ssl ssl

/-- In every run in which nothing goes on to touch the channel of a connection
that was closed meanwhile, the mask of a closed connection is empty and no update
follows its close; and if `connectDestroyed` never finds the connection half
closed, none follows the removal and the channel stays unregistered. -/
theorem closed_connection_inert (setup : Setup) (world : World) (depth : Nat) (steps : List Step)
    (untouched : Untouched setup.tls (setup.run world depth steps).trace) :
    let conn := setup.run world depth steps
    (conn.state = .kDisconnected → conn.channel.events = .none) ∧
      NeverAfter Event.isChannelClosed Event.isUpdate conn.trace ∧
      (DestroyedClosed conn.trace → NeverAfter Event.isRemoved Event.isUpdate conn.trace ∧
        (.removed ∈ conn.trace → conn.channel.addedToLoop = false)) := by
  have facts := setup.run_inert world depth steps
  have untouched := Setup.run_untouched untouched
  exact ⟨facts.disabled untouched, facts.ordered untouched, fun destroyed =>
    ⟨facts.destroyed untouched destroyed, fun gone => (facts.removed untouched destroyed gone).2⟩⟩

theorem closed_connection_inert_peer_close :
    let conn := Setup.run {} {} 1 [.event { read := true }, .call .connectDestroyed]
    conn.state = .kDisconnected ∧ conn.channel.events = .none := by
  refine ⟨by decide, ?_⟩
  exact (closed_connection_inert {} {} 1 [.event { read := true }, .call .connectDestroyed]
    ⟨by decide, by decide, by decide, by decide⟩).1 (by decide)

/-- A socket that blocks the direct write and takes the buffer whole, and a user
who closes the connection when reading resumes. -/
def closeOnResume : World where
  write := fun conn data => if conn.outputBuffer.isEmpty then .failed 11 else .wrote data.length
  user := fun
    | .backpressure .readResumed _, _ => [.forceClose]
    | _, _ => []
  write_le := by
    intro conn data count returned
    split at returned
    · cases returned
    · cases returned
      exact Nat.le_refl _

/-- The hook closes the connection in the middle of `handleWrite`, which then
disables writing and so registers the closed channel again. -/
theorem channel_updated_after_close :
    ¬NeverAfter Event.isChannelClosed Event.isUpdate
      (Setup.run { callbacks := { backpressureEvent := true }, highWaterMark := 2, lowWaterMark := 1 }
        closeOnResume 1 [.call (.send [1, 2, 3]), .event { write := true }]).trace := by
  decide

end MiniTrantor.Net
