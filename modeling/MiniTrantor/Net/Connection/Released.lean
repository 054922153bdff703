import MiniTrantor.Net.Connection.Dispatch

/-!
# Waiters of a closed connection

The close sequence queues every waiter that is in a slot, and nothing occupies a
slot of a closed connection without being queued at once. Between steps a waiter
that still waits is in a slot, or the functor that arms it has not run.
-/

set_option autoImplicit false

namespace MiniTrantor.Net

open ConnectionAwaiterRegistry ConnectionBackpressureController TcpConnection

variable {world : World} {waiter other : WaiterId}

/-! ## Waiters in the slots -/

/-- The waiter is armed if it is in a slot, and waits there only while the
connection is open. -/
def Freed (waiter : WaiterId) (conn : Conn) : Prop :=
  conn.registry.holds waiter → (conn.waiters waiter).phase ≠ .unarmed ∧
    (conn.state = .kDisconnected → (conn.waiters waiter).phase ≠ .pending)

theorem AwaiterState.Change.waits {old new : AwaiterState} (change : Change old new)
    (armed : old.phase ≠ .unarmed) (pending : new.phase = .pending) : old.phase = .pending := by
  cases change with
  | registered => exact pending
  | awaited unarmed => exact absurd unarmed armed
  | queued | cancelled | failed | abandoned | finished => cases pending

theorem Registry.holds_of_clear {registry : Registry} (held : (Registry.clear other registry).holds waiter) :
    registry.holds waiter :=
  held.imp clear_slot (Or.imp clear_slot clear_slot)

theorem Frame.was_closed {before after : Conn} {events : List Event} (frame : Frame before after events)
    (closed : after.state = .kDisconnected) : before.state = .kDisconnected := by
  by_contra opened
  exact frame.still_open opened closed

namespace Freed

variable {before after : Conn}

/-- A step that occupies no slot, or fills one with a waiter it accounts for. -/
theorem occupied (kept : Freed waiter before) (other : WaiterId)
    (change : AwaiterState.Change (before.waiters waiter) (after.waiters waiter))
    (closed : after.state = .kDisconnected → before.state = .kDisconnected)
    (held : after.registry.holds waiter → before.registry.holds waiter ∨ waiter = other)
    (newcomer : waiter = other → (after.waiters waiter).phase ≠ .unarmed ∧
      (after.state = .kDisconnected → (after.waiters waiter).phase ≠ .pending)) :
    Freed waiter after := by
  intro holds
  rcases held holds with old | same
  · obtain ⟨armed, freed⟩ := kept old
    exact ⟨(change.armed armed).1, fun now pending => freed (closed now) (change.waits armed pending)⟩
  · exact newcomer same

theorem changed (kept : Freed waiter before)
    (change : AwaiterState.Change (before.waiters waiter) (after.waiters waiter))
    (closed : after.state = .kDisconnected → before.state = .kDisconnected)
    (held : after.registry.holds waiter → before.registry.holds waiter) : Freed waiter after := by
  intro holds
  obtain ⟨armed, freed⟩ := kept (held holds)
  exact ⟨(change.armed armed).1, fun now pending => freed (closed now) (change.waits armed pending)⟩

end Freed

theorem Registry.of_occupyRead {minBytes : Nat} {conn : Conn}
    (held : (occupyRead other minBytes conn).registry.holds waiter) :
    conn.registry.holds waiter ∨ waiter = other := by
  rcases held with read | write | close
  · exact .inr (Option.some.inj read).symm
  · exact .inl (.inr (.inl write))
  · exact .inl (.inr (.inr close))

theorem Registry.of_occupyWrite {conn : Conn} (held : (occupyWrite other conn).registry.holds waiter) :
    conn.registry.holds waiter ∨ waiter = other := by
  rcases held with read | write | close
  · exact .inl (.inl read)
  · exact .inr (Option.some.inj write).symm
  · exact .inl (.inr (.inr close))

theorem Registry.of_occupyClose {conn : Conn} (held : (occupyClose other conn).registry.holds waiter) :
    conn.registry.holds waiter ∨ waiter = other := by
  rcases held with read | write | close
  · exact .inl (.inl read)
  · exact .inl (.inr (.inl write))
  · exact .inr (Option.some.inj close).symm

theorem Arrives.freed {origin : Origin} {data : Bytes} {before after : Conn}
    (arrives : Arrives origin data before after) (opened : before.state ≠ .kDisconnected)
    (kept : Freed waiter before) : Freed waiter after := by
  cases arrives with
  | ownerSend | queuedSend => exact kept
  | waiter pending _ _ _ _ _ =>
      refine kept.occupied _ (.refl _) id Registry.of_occupyWrite ?_
      rintro rfl
      exact ⟨by rw [occupyWrite_waiters, pending]; decide, fun closed => absurd closed opened⟩

theorem queueIf_phase (ready : Bool) {conn : Conn} (pending : (conn.waiters waiter).phase = .pending) :
    ((queueIf ready waiter conn).waiters waiter).phase = if ready then .queued else .pending := by
  cases ready
  · exact pending
  · simp [queueIf, markQueued]

theorem Move.freed {before after : Conn} (move : Move world before after) (kept : Freed waiter before) :
    Freed waiter after := by
  obtain ⟨_, frame⟩ := move.frame
  have change := move.waiter waiter
  cases move with
  | enqueue | dequeue | dequeueShutdown | request | accept | push | claims | note | callbacks
  | policy | reading | modifyInput | error | beginShutdown | requestShutdown | shutdownWrite
  | requestAwait | register | cancelled | failed | queued | destroyed =>
      exact kept.changed change frame.was_closed id
  | submit arrives opened submits =>
      have arrived := arrives.freed opened kept
      rw [submits.effect.frame]
      exact arrived
  | @armRead _ other awaitable ready pending _ _ _ _ immediate =>
      refine kept.occupied other change frame.was_closed (fun held => ?_) ?_
      · rw [queueIf_registry] at held
        exact Registry.of_occupyRead held
      · rintro rfl
        have phase := @queueIf_phase _ ready (occupyRead waiter awaitable.minBytes before) pending
        rw [phase]
        refine ⟨by split <;> decide, fun closed => ?_⟩
        have now : before.state = .kDisconnected := frame.was_closed closed
        have yes : ready = true := by simp [immediate, canReadImmediately, now]
        rw [yes]
        decide
  | armWriteReady _ _ _ _ _ =>
      refine kept.occupied _ change frame.was_closed Registry.of_occupyWrite ?_
      rintro rfl
      simp [markQueued]
  | @armClose _ other awaitable ready pending _ _ _ immediate =>
      refine kept.occupied other change frame.was_closed (fun held => ?_) ?_
      · rw [queueIf_registry] at held
        exact Registry.of_occupyClose held
      · rintro rfl
        have phase := @queueIf_phase _ ready (occupyClose waiter before) pending
        rw [phase]
        refine ⟨by split <;> decide, fun closed => ?_⟩
        have yes : ready = true := by
          rw [immediate]
          exact decide_eq_true (frame.was_closed closed)
        rw [yes]
        decide
  | unregister => exact kept.changed change frame.was_closed Registry.holds_of_clear
  | unregisterChannel _ =>
      obtain ⟨_, _, _, removed⟩ := unregisterChannel_eq before
      rw [removed]
      exact kept

/-! ## The close sequence -/

/-- `queueResume` of a slot queues its waiter, and no armed waiter starts to wait. -/
theorem queueResumeSlot_phase {slot : Option WaiterId} {conn : Conn}
    (armed : (conn.waiters waiter).phase ≠ .unarmed) :
    ((queueResumeSlot world slot conn).waiters waiter).phase ≠ .unarmed ∧
      (slot = some waiter ∨ (conn.waiters waiter).phase ≠ .pending →
        ((queueResumeSlot world slot conn).waiters waiter).phase ≠ .pending) := by
  cases slot with
  | none => exact ⟨armed, fun ended => ended.resolve_left (by simp)⟩
  | some other =>
      by_cases pending : (conn.waiters other).phase = .pending
      · have marked : ((markQueued other conn).waiters waiter).phase ≠ .unarmed ∧
            (some other = some waiter ∨ (conn.waiters waiter).phase ≠ .pending →
              ((markQueued other conn).waiters waiter).phase ≠ .pending) := by
          by_cases same : waiter = other
          · subst same
            simp [markQueued]
          · simpa [markQueued, same, Ne.symm same] using armed
        have synced := (sync_sharedOnly world (markQueued other conn)).waiters waiter marked.1
        rw [queueResumeSlot, queueResume_eq pending]
        simp only [EventLoop.queueInLoop, synced]
        exact marked
      · simp only [queueResumeSlot, queueResume, if_neg pending]
        refine ⟨armed, fun ended waits => ?_⟩
        rcases ended with same | ended
        · cases same
          exact pending waits
        · exact ended waits

theorem queueResumeSlot_registry (slot : Option WaiterId) (conn : Conn) :
    (queueResumeSlot world slot conn).registry = conn.registry := by
  cases slot with
  | none => rfl
  | some other =>
      simp only [queueResumeSlot, queueResume]
      split
      · simp only [EventLoop.queueInLoop, sync_registry]
        rfl
      · rfl

theorem resumeAllOnClose_freed {conn : Conn}
    (armed : conn.registry.holds waiter → (conn.waiters waiter).phase ≠ .unarmed) :
    Freed waiter (resumeAllOnClose world conn) := by
  intro held
  simp only [resumeAllOnClose, queueResumeSlot_registry] at held ⊢
  obtain ⟨readArmed, read⟩ := @queueResumeSlot_phase world _ conn.registry.readWaiter conn (armed held)
  obtain ⟨writeArmed, write⟩ := @queueResumeSlot_phase world _ conn.registry.writeWaiter _ readArmed
  obtain ⟨closeArmed, close⟩ := @queueResumeSlot_phase world _ conn.registry.closeWaiter _ writeArmed
  refine ⟨closeArmed, fun _ => ?_⟩
  rcases held with inRead | inWrite | inClose
  · exact close (.inr (write (.inr (read (.inl inRead)))))
  · exact close (.inr (write (.inl inWrite)))
  · exact close (.inl inClose)

theorem Fails.freed {conn failed : Conn} (fails : Fails world conn failed)
    (opened : conn.state ≠ .kDisconnected) (kept : Freed waiter conn) : Freed waiter failed := by
  cases fails with
  | close | error => exact kept
  | send arrives => exact arrives.freed opened kept

theorem Drains.freed {before after : Conn} (drains : Drains before after)
    (kept : Freed waiter before) : Freed waiter after := by
  induction drains with
  | first _ => exact kept
  | more _ ih => exact ih
  | wantRead _ _ ih => exact ih

theorem Takes.freed {awaitable : Awaitable} {before after : Conn}
    (takes : Takes other awaitable before after) (kept : Freed waiter before) : Freed waiter after := by
  refine kept.changed (takes.waiter waiter) ?_ ?_ <;> cases takes <;> exact id

theorem Fails.begun_freed {conn failed : Conn} (fails : Fails world conn failed)
    (opened : conn.state ≠ .kDisconnected) (kept : Freed waiter conn) :
    Freed waiter (beginClose world failed) :=
  resumeAllOnClose_freed fun held => (fails.freed opened kept held).1

theorem Ran.freed {scope : Scope} {first second : Conn} (ran : Ran world scope first second)
    (kept : Freed waiter first) : Freed waiter second := by
  induction ran with
  | refl => exact kept
  | step _ move ih => exact move.freed (ih kept)
  | arm _ takes _ _ ih inner => exact inner (takes.freed (ih kept))
  | resumed _ finishes ih =>
      have change := finishes.waiter waiter
      cases finishes with
      | complete _ _ => exact (ih kept).changed change id id
      | finish _ _ =>
          obtain ⟨_, _, _, _, finished⟩ := finishAwait_eq _ _ _
          rw [finished] at change ⊢
          exact (ih kept).changed change id Registry.holds_of_clear
  | dispatched _ move ih => cases move <;> exact ih kept
  | drain _ drains _ ih inner =>
      have settled := inner (drains.freed (ih kept))
      simp only [settle]
      split <;> exact settled
  | closing notified _ opened fails _ _ ih _ inner =>
      have ended := inner (fails.begun_freed opened (ih kept))
      cases notified <;> exact ended

/-! ## Waiters that still wait -/

/-- The functor that arms the waiter has not run. -/
def Conn.arming (conn : Conn) (waiter : WaiterId) : Prop :=
  ∃ awaitable, .armWaiter waiter awaitable ∈ conn.functors

/-- Outside its own arm step, a waiter that waits is in a slot or yet to be armed. -/
def Held (waiter : WaiterId) (conn : Conn) : Prop :=
  (conn.waiters waiter).phase = .pending → conn.registry.holds waiter ∨ conn.arming waiter

theorem pending_of_update {waiters : WaiterId → AwaiterState} {state : AwaiterState}
    (pending : (Function.update waiters other state waiter).phase = .pending)
    (ended : state.phase = .pending → (waiters other).phase = .pending) :
    (waiters waiter).phase = .pending := by
  by_cases same : waiter = other
  · subst same
    exact ended (by simpa using pending)
  · simpa [same] using pending

/-- Among the moves, only a request from another thread makes a waiter wait. -/
theorem Move.begins_waiting {before after : Conn} (move : Move world before after)
    (pending : (after.waiters waiter).phase = .pending) :
    (before.waiters waiter).phase = .pending ∨ after.arming waiter := by
  cases move with
  | enqueue | dequeue | dequeueShutdown | request | accept | push | claims | note | callbacks
  | policy | reading | modifyInput | error | beginShutdown | requestShutdown | shutdownWrite
  | destroyed =>
      exact .inl pending
  | submit arrives _ submits =>
      rw [submits.effect.frame] at pending
      rw [← arrives.waiters_eq]
      exact .inl pending
  | @requestAwait _ _ other awaitable _ =>
      by_cases same : waiter = other
      · subst same
        exact .inr ⟨awaitable, by simp [begin_functors]⟩
      · exact .inl (by simpa [awaitPending, same] using pending)
  | register => exact .inl (pending_of_update pending id)
  | cancelled _ | failed _ =>
      rw [markQueued_setWaiter] at pending
      exact .inl (pending_of_update pending (by simp))
  | queued _ _ | armWriteReady _ _ _ _ _ => exact .inl (pending_of_update pending (by simp))
  | @armRead _ _ _ ready _ _ _ _ _ _ | @armClose _ _ _ ready _ _ _ _ _ =>
      cases ready
      · exact .inl pending
      · exact .inl (pending_of_update pending (by simp))
  | unregister =>
      rw [Conn.emit_waiters, unregisterWaiter_waiters] at pending
      exact .inl (pending_of_update pending fun left => absurd left (abandon_over _).1)
  | unregisterChannel _ =>
      obtain ⟨_, _, _, removed⟩ := unregisterChannel_eq before
      rw [removed] at pending
      exact .inl pending

namespace Held

variable {before after : Conn}

theorem keep (kept : Held waiter before)
    (waits : (after.waiters waiter).phase = .pending → (before.waiters waiter).phase = .pending)
    (slots : before.registry.holds waiter → after.registry.holds waiter)
    (arming : before.arming waiter → after.arming waiter) : Held waiter after :=
  fun pending => (kept (waits pending)).imp slots arming

theorem move (kept : Held waiter before) (move : Move world before after) : Held waiter after := by
  intro pending
  rcases move.begins_waiting pending with waited | arming
  · have armed : (before.waiters waiter).phase ≠ .unarmed := by rw [waited]; decide
    rcases kept waited with held | ⟨awaitable, queued⟩
    · exact .inl (((armedSettled waiter).move move ⟨armed, fun _ => held⟩).2 pending)
    · rcases move.arm_iff waiter awaitable with same | ⟨unarmed, _⟩
      · exact .inr ⟨awaitable, same.mpr queued⟩
      · exact absurd unarmed armed
  · exact .inr arming

theorem arrived {origin : Origin} {data : Bytes} (kept : Held waiter before)
    (arrives : Arrives origin data before after) : Held waiter after := by
  cases arrives with
  | ownerSend _ => exact kept
  | queuedSend queue =>
      refine kept.keep id id ?_
      rintro ⟨awaitable, queued⟩
      exact ⟨awaitable, (mem_functors_dequeue queue (by simp)).mpr queued⟩
  | waiter _ _ _ _ free _ => exact kept.keep id (Registry.holds_occupyWrite free) id

theorem taken {awaitable : Awaitable} (kept : Held waiter before)
    (takes : Takes other awaitable before after) (different : waiter ≠ other) : Held waiter after := by
  cases takes with
  | await _ => exact kept.keep (by simp [awaitPending, different]) id id
  | dequeue queue =>
      refine kept.keep id id ?_
      rintro ⟨requested, queued⟩
      exact ⟨requested, (mem_functors_dequeue queue (by simp [different])).mpr queued⟩

theorem finished (kept : Held waiter before) (finishes : Finishes other before after) :
    Held waiter after := by
  cases finishes with
  | complete _ _ =>
      refine kept.keep (fun pending => ?_) id id
      rw [completeWaiter_waiters] at pending
      exact pending_of_update pending (by rintro ⟨⟩)
  | finish _ _ =>
      obtain ⟨_, _, _, _, finished⟩ := finishAwait_eq _ _ _
      rw [finished]
      by_cases same : waiter = other
      · subst same
        simp [Held, AwaiterState.finished]
      · exact kept.keep (fun pending => pending_of_update pending (by rintro ⟨⟩)) (Registry.holds_clear same) id

theorem drained (kept : Held waiter before) (drains : Drains before after) : Held waiter after := by
  induction drains with
  | first _ => exact kept
  | more _ ih => exact ih
  | wantRead _ _ ih => exact ih

end Held

theorem Ran.held {scope : Scope} {first second : Conn} (ran : Ran world scope first second)
    (kept : Held waiter first) : Held waiter second := by
  induction ran with
  | refl => exact kept
  | step _ move ih => exact (ih kept).move move
  | @arm _ _ _ _ _ other _ _ takes _ settled ih inner =>
      by_cases same : waiter = other
      · subst same
        exact fun pending => .inl (settled pending)
      · exact inner ((ih kept).taken takes same)
  | resumed _ finishes ih => exact (ih kept).finished finishes
  | dispatched _ move ih => cases move <;> exact ih kept
  | drain _ drains _ ih inner =>
      have settled := inner ((ih kept).drained drains)
      simp only [settle]
      split <;> exact settled
  | @closing _ _ _ failed _ notified _ _ fails _ _ ih resumed inner =>
      have shut : Held waiter failed := by
        cases fails with
        | close | error => exact ih kept
        | send arrives =>
            have arrived := (ih kept).arrived arrives
            exact arrived
      have ended := inner (resumed shut)
      cases notified <;> exact ended

/-- A closed connection at rest keeps no armed waiter waiting. -/
theorem Held.arming {conn : Conn} (kept : Held waiter conn) (freed : Freed waiter conn)
    (closed : conn.state = .kDisconnected) (pending : (conn.waiters waiter).phase = .pending) :
    conn.arming waiter :=
  (kept pending).resolve_left fun held => (freed held).2 closed pending

theorem Setup.begun_freed (setup : Setup) (world : World) (depth : Nat) (waiter : WaiterId) :
    Freed waiter (setup.begun world depth) := by
  refine Setup.begun_induction ?_ (fun ran kept => ran.freed kept) fun _ _ _ kept held => ?_
  · simp [Freed, Setup.initial, Registry.holds]
  · exact ⟨(kept held).1, by rintro ⟨⟩⟩

theorem Setup.run_freed (setup : Setup) (world : World) (depth : Nat) (steps : List Step)
    (waiter : WaiterId) : Freed waiter (setup.run world depth steps) :=
  Setup.run_begun (setup.begun_freed world depth waiter) (fun ran kept => ran.freed kept) steps

theorem Setup.run_held (setup : Setup) (world : World) (depth : Nat) (steps : List Step)
    (waiter : WaiterId) : Held waiter (setup.run world depth steps) :=
  Setup.run_induction (by rintro ⟨⟩) (fun ran kept => ran.held kept) (fun _ _ _ kept => kept) steps

end MiniTrantor.Net
