import MiniTrantor.Net.Connection.Invariants

/-!
# What happens to one waiter

Every change to a waiter is one of the steps listed here. Properties of a single
waiter are proved over these steps and lifted to every run at once.
-/

set_option autoImplicit false

namespace MiniTrantor.Net

open ConnectionAwaiterRegistry ConnectionBackpressureController TcpConnection

inductive AwaiterState.Change (old : AwaiterState) : AwaiterState → Prop where
  | registered {registration} : Change old { old with registration }
  | awaited {awaitable} : old.phase = .unarmed →
      Change old { old with handle := some awaitable, phase := .pending }
  | queued : old.phase = .pending → Change old { old with phase := .queued }
  | cancelled : old.phase = .pending →
      Change old { old with outcome := .cancelled, phase := .queued }
  | failed {message} : old.phase = .pending →
      Change old { old with failure := some message, outcome := .failed, phase := .queued }
  | abandoned : old.phase = .pending ∨ old.phase = .queued →
      Change old { old with phase := .abandoned, handle := none, registration := none }
  | finished : old.phase = .queued → Change old old.finished

namespace AwaiterState.Change

theorem refl (state : AwaiterState) : Change state state :=
  @registered state state.registration

theorem update {waiters : WaiterId → AwaiterState} {other : WaiterId} {state : AwaiterState}
    (changed : Change (waiters other) state) (waiter : WaiterId) :
    Change (waiters waiter) (Function.update waiters other state waiter) := by
  by_cases same : waiter = other
  · subst same
    simpa using changed
  · simpa [same] using refl (waiters waiter)

theorem unregister (state : AwaiterState) :
    Change state { AwaiterState.abandon state with registration := none } := by
  unfold AwaiterState.abandon
  split
  case isTrue waiting => exact .abandoned waiting
  case isFalse => exact .registered

end AwaiterState.Change

open AwaiterState (Change)

variable {world : World} {before after : Conn}

theorem queueIf_waiter (ready : Bool) {waiter : WaiterId} {conn : Conn}
    (pending : (conn.waiters waiter).phase = .pending) (other : WaiterId) :
    Change (conn.waiters other) ((queueIf ready waiter conn).waiters other) := by
  cases ready
  · exact .refl _
  · exact .update (.queued pending) other

/-- Setting some fields of a pending waiter and queueing it is one change. -/
theorem markQueued_setWaiter (waiter : WaiterId) (state : AwaiterState) (conn : Conn) :
    (markQueued waiter (conn.setWaiter waiter state)).waiters =
      Function.update conn.waiters waiter { state with phase := .queued } := by
  funext other
  by_cases same : other = waiter
  · subst same; simp [markQueued]
  · simp [markQueued, same]

theorem Arrives.waiters_eq {origin : Origin} {data : Bytes} (arrives : Arrives origin data before after) :
    after.waiters = before.waiters := by
  cases arrives <;> rfl

theorem Move.waiter (move : Move world before after) (waiter : WaiterId) :
    Change (before.waiters waiter) (after.waiters waiter) := by
  cases move with
  | enqueue | dequeue | dequeueShutdown | request | accept | push | claims | note | callbacks
  | policy | reading | modifyInput | error | beginShutdown | requestShutdown | shutdownWrite
  | destroyed =>
      exact .refl _
  | submit arrives _ submits =>
      rw [submits.effect.frame]
      rw [← arrives.waiters_eq]
      exact .refl _
  | requestAwait unarmed => exact .update (.awaited unarmed) waiter
  | register => exact .update .registered waiter
  | cancelled pending =>
      rw [markQueued_setWaiter]
      exact .update (.cancelled pending) waiter
  | failed pending =>
      rw [markQueued_setWaiter]
      exact .update (.failed pending) waiter
  | queued pending _ => exact .update (.queued pending) waiter
  | armRead pending _ _ _ _ _ => exact @queueIf_waiter _ _ (occupyRead _ _ before) pending waiter
  | armWriteReady pending _ _ _ _ => exact .update (.queued pending) waiter
  | armClose pending _ _ _ _ => exact @queueIf_waiter _ _ (occupyClose _ before) pending waiter
  | unregister =>
      rw [Conn.emit_waiters, unregisterWaiter_waiters]
      exact .update (.unregister _) waiter
  | unregisterChannel _ =>
      obtain ⟨_, _, _, removed⟩ := unregisterChannel_eq before
      rw [removed]
      exact .refl _

theorem Takes.waiter {taken : WaiterId} {awaitable : Awaitable} (takes : Takes taken awaitable before after)
    (waiter : WaiterId) : Change (before.waiters waiter) (after.waiters waiter) := by
  cases takes with
  | await unarmed => exact .update (.awaited unarmed) waiter
  | dequeue _ => exact .refl _

theorem Finishes.waiter {finished : WaiterId} (finishes : Finishes finished before after)
    (waiter : WaiterId) : Change (before.waiters waiter) (after.waiters waiter) := by
  cases finishes with
  | complete queued _ =>
      rw [completeWaiter_waiters]
      exact .update (.finished queued) waiter
  | finish queued _ =>
      obtain ⟨_, _, _, _, same⟩ := finishAwait_eq _ _ _
      rw [same]
      exact .update (.finished queued) waiter

theorem DispatchMove.waiters_eq (move : DispatchMove before after) :
    after.waiters = before.waiters := by
  cases move <;> rfl

theorem settle_waiters (conn : Conn) : (settle conn).waiters = conn.waiters := by
  simp only [settle]
  split <;> rfl

theorem Fails.waiters_eq (fails : Fails world before after) : after.waiters = before.waiters := by
  cases fails with
  | close | error => rfl
  | send arrives => exact arrives.waiters_eq

/-- A property of one waiter that its steps keep. -/
theorem waiterInvariant {holds : AwaiterState → Prop}
    (keeps : ∀ {old new}, Change old new → holds old → holds new) (waiter : WaiterId) :
    Invariant world true fun conn => holds (conn.waiters waiter) where
  move := fun move => keeps (move.waiter waiter)
  take := fun takes => keeps (takes.waiter waiter)
  finish := fun finishes => keeps (finishes.waiter waiter)
  dispatch := fun _ _ _ move kept => by rw [move.waiters_eq]; exact kept
  retrieve := fun _ _ _ _ kept => kept
  settle := fun _ conn kept => by rw [settle_waiters]; exact kept
  close := fun {_ failed} _ fails kept => by
    have same : (shutChannel failed).waiters = failed.waiters := rfl
    rw [same, fails.waiters_eq]
    exact kept
  disconnected := fun _ kept => kept
  closeCallback := fun kept => kept

/-- A waiter is failed exactly if it carries a message, and a waiter that is not
yet queued has met neither failure nor cancellation. -/
def AwaiterState.Sound (state : AwaiterState) : Prop :=
  (state.phase = .unarmed ∨ state.phase = .pending → state.outcome = .ready) ∧
    (state.outcome = .failed ↔ state.failure ≠ none)

theorem AwaiterState.Change.sound {old new : AwaiterState} (change : Change old new)
    (kept : old.Sound) : new.Sound := by
  cases change with
  | registered => exact kept
  | awaited unarmed => exact ⟨fun _ => kept.1 (.inl unarmed), kept.2⟩
  | queued _ => exact ⟨by simp, kept.2⟩
  | cancelled pending =>
      have ready := kept.1 (.inr pending)
      have unfailed : old.failure = none := by simpa [ready] using kept.2
      exact ⟨by simp, by simp [unfailed]⟩
  | failed _ => exact ⟨by simp, by simp⟩
  | abandoned _ => exact ⟨by simp, kept.2⟩
  | finished _ =>
      refine ⟨?_, kept.2⟩
      rintro (early | early) <;> cases early

theorem sound : Invariant world true fun conn => ∀ waiter, (conn.waiters waiter).Sound :=
  .all fun waiter => waiterInvariant (fun change => change.sound) waiter

/-! ## Slots and the waiters in them -/

/-- What a move can do to the slots. -/
inductive RegistryChange (conn : Conn) : Registry → Prop where
  | same : RegistryChange conn conn.registry
  | read {waiter awaitable} : (conn.waiters waiter).phase = .pending →
      (conn.waiters waiter).handle = some awaitable → awaitable.kind = .read →
      conn.registry.readWaiter = none →
      RegistryChange conn (occupyRead waiter awaitable.minBytes conn).registry
  | write {waiter awaitable} : (conn.waiters waiter).phase = .pending →
      (conn.waiters waiter).handle = some awaitable → awaitable.kind = .write →
      (∀ incumbent, conn.registry.writeWaiter = some incumbent → incumbent = waiter) →
      RegistryChange conn (occupyWrite waiter conn).registry
  | close {waiter awaitable} : (conn.waiters waiter).phase = .pending →
      (conn.waiters waiter).handle = some awaitable → awaitable.kind = .close →
      conn.registry.closeWaiter = none →
      RegistryChange conn (occupyClose waiter conn).registry
  | clear {waiter} : RegistryChange conn (Registry.clear waiter conn.registry)

theorem queueIf_registry (ready : Bool) (waiter : WaiterId) (conn : Conn) :
    (queueIf ready waiter conn).registry = conn.registry := by
  cases ready <;> rfl

theorem Arrives.registry {origin : Origin} {data : Bytes} (arrives : Arrives origin data before after) :
    RegistryChange before after.registry := by
  cases arrives with
  | ownerSend | queuedSend => exact .same
  | waiter pending handle kind _ free _ => exact .write pending handle kind free

theorem Move.registry (move : Move world before after) : RegistryChange before after.registry := by
  cases move with
  | enqueue | dequeue | dequeueShutdown | request | accept | push | claims | note | callbacks
  | policy | reading | modifyInput | error | beginShutdown | requestShutdown | shutdownWrite
  | requestAwait | register | cancelled | failed | queued | destroyed =>
      exact .same
  | submit arrives _ submits =>
      rw [submits.effect.frame]
      exact arrives.registry
  | armRead pending handle kind free _ _ =>
      rw [queueIf_registry]
      exact .read pending handle kind free
  | armWriteReady pending handle kind free _ => exact .write pending handle kind (by simp [free])
  | armClose pending handle kind free _ =>
      rw [queueIf_registry]
      exact .close pending handle kind free
  | unregister => exact .clear
  | unregisterChannel _ =>
      obtain ⟨_, _, _, removed⟩ := unregisterChannel_eq before
      rw [removed]
      exact .same

theorem Finishes.registry {finished : WaiterId} (finishes : Finishes finished before after) :
    RegistryChange before after.registry := by
  cases finishes with
  | complete _ _ => exact .same
  | finish _ _ =>
      obtain ⟨_, _, _, _, same⟩ := finishAwait_eq _ _ _
      rw [same]
      exact .clear

theorem settle_registry (conn : Conn) : (settle conn).registry = conn.registry := by
  simp only [settle]
  split <;> rfl

/-- A property of the waiters and their slots that every change keeps. -/
theorem registryInvariant {holds : (WaiterId → AwaiterState) → Registry → Prop}
    (keeps : ∀ {conn : Conn} {waiters registry}, (∀ waiter, Change (conn.waiters waiter) (waiters waiter)) →
      RegistryChange conn registry → holds conn.waiters conn.registry → holds waiters registry) :
    Invariant world true fun conn => holds conn.waiters conn.registry where
  move := fun move => keeps move.waiter move.registry
  take := fun takes => keeps takes.waiter (by cases takes <;> exact .same)
  finish := fun finishes => keeps finishes.waiter finishes.registry
  dispatch := fun _ _ _ move => by cases move <;> exact id
  retrieve := fun _ _ _ _ kept => kept
  settle := fun _ conn kept => by rw [settle_waiters, settle_registry]; exact kept
  close := by
    intro conn failed _ fails kept
    cases fails with
    | close | error => exact kept
    | @send _ _ _ arrived arrives =>
        have waiters : ∀ waiter, Change (conn.waiters waiter) (arrived.waiters waiter) := by
          intro waiter
          rw [arrives.waiters_eq]
          exact .refl _
        exact keeps waiters arrives.registry kept
  disconnected := fun _ kept => kept
  closeCallback := fun kept => kept

theorem AwaiterState.Change.armed {old new : AwaiterState} (change : Change old new)
    (kept : old.phase ≠ .unarmed) :
    new.phase ≠ .unarmed ∧ ∀ awaitable, new.handle = some awaitable → old.handle = some awaitable := by
  cases change with
  | registered => exact ⟨kept, fun _ => id⟩
  | awaited unarmed => exact absurd unarmed kept
  | queued _ | cancelled _ | failed _ => exact ⟨by simp, fun _ => id⟩
  | abandoned _ | finished _ =>
      refine ⟨by rintro ⟨⟩, ?_⟩
      intro awaitable suspended
      cases suspended

/-- A waiter in a slot is armed, and an awaitable of the given sort if its
coroutine is still suspended. -/
def Occupies (sort : Awaitable → Prop) (waiters : WaiterId → AwaiterState)
    (slot : Option WaiterId) : Prop :=
  ∀ waiter, slot = some waiter → (waiters waiter).phase ≠ .unarmed ∧
    ∀ awaitable, (waiters waiter).handle = some awaitable → sort awaitable

theorem Occupies.changed {sort : Awaitable → Prop} {old new : WaiterId → AwaiterState}
    {slot : Option WaiterId} (kept : Occupies sort old slot)
    (changes : ∀ waiter, Change (old waiter) (new waiter)) : Occupies sort new slot := by
  intro waiter occupied
  obtain ⟨armed, sorted⟩ := kept waiter occupied
  obtain ⟨still, handle⟩ := (changes waiter).armed armed
  exact ⟨still, fun awaitable suspended => sorted awaitable (handle awaitable suspended)⟩

theorem Occupies.clear {sort : Awaitable → Prop} {waiters : WaiterId → AwaiterState}
    {slot : Option WaiterId} (kept : Occupies sort waiters slot) (waiter : WaiterId) :
    Occupies sort waiters (if slot = some waiter then none else slot) := by
  split
  · intro other occupied
    cases occupied
  · exact kept

theorem Occupies.pending {sort : Awaitable → Prop} {waiters : WaiterId → AwaiterState}
    {waiter : WaiterId} {awaitable : Awaitable} (pending : (waiters waiter).phase = .pending)
    (handle : (waiters waiter).handle = some awaitable) (sorted : sort awaitable) :
    Occupies sort waiters (some waiter) := by
  rintro other ⟨⟩
  rw [pending, handle]
  refine ⟨by simp, ?_⟩
  rintro same ⟨⟩
  exact sorted

/-- Each slot holds a waiter of its kind; the read slot comes with its threshold. -/
structure Slots (waiters : WaiterId → AwaiterState) (registry : Registry) : Prop where
  read : Occupies (fun awaitable => awaitable.kind = .read ∧ registry.minReadBytes = awaitable.minBytes)
    waiters registry.readWaiter
  write : Occupies (fun awaitable => awaitable.kind = .write) waiters registry.writeWaiter
  close : Occupies (fun awaitable => awaitable.kind = .close) waiters registry.closeWaiter

theorem slots : Invariant world true fun conn => Slots conn.waiters conn.registry := by
  apply registryInvariant
  intro conn waiters registry changes change kept
  have changed : Slots waiters conn.registry :=
    ⟨kept.read.changed changes, kept.write.changed changes, kept.close.changed changes⟩
  cases change with
  | same => exact changed
  | read pending handle kind _ =>
      refine ⟨?_, changed.write, changed.close⟩
      exact Occupies.changed (.pending pending handle ⟨kind, rfl⟩) changes
  | write pending handle kind _ =>
      refine ⟨changed.read, ?_, changed.close⟩
      exact Occupies.changed (.pending pending handle kind) changes
  | close pending handle kind _ =>
      refine ⟨changed.read, changed.write, ?_⟩
      exact Occupies.changed (.pending pending handle kind) changes
  | clear => exact ⟨changed.read.clear _, changed.write.clear _, changed.close.clear _⟩

theorem abandon_over (state : AwaiterState) :
    (AwaiterState.abandon state).phase ≠ .pending ∧ (AwaiterState.abandon state).phase ≠ .queued := by
  unfold AwaiterState.abandon
  split
  case isTrue => exact ⟨by simp, (by simp)⟩
  case isFalse left => exact ⟨fun pending => left (.inl pending), fun queued => left (.inr queued)⟩

theorem clear_slot {slot : Option WaiterId} {cleared waiter : WaiterId}
    (occupied : (if slot = some cleared then none else slot) = some waiter) : slot = some waiter := by
  split at occupied
  · cases occupied
  · exact occupied

/-! ## Arming functors -/

theorem push_functors {conn : Conn} {entry : ThreadId × Functor} (member : entry ∈ conn.inflight) :
    ({ conn with
      inflight := conn.inflight.erase entry, queue := conn.queue ++ [entry.2] }.functors).Perm
        conn.functors := by
  have split := (List.perm_cons_erase member).map Prod.snd
  simp only [Conn.functors, List.append_assoc, List.map_cons, List.singleton_append] at split ⊢
  exact (split.symm).append_left conn.queue

theorem begin_functors (thread : ThreadId) (functor : Functor) (conn : Conn) :
    (Remote.begin thread functor conn).functors = conn.functors ++ [functor] := by
  simp [Conn.functors]

theorem mem_functors_dequeue {conn : Conn} {functor next : Functor} {rest : List Functor}
    (queue : conn.queue = next :: rest) (different : functor ≠ next) :
    functor ∈ { conn with queue := rest }.functors ↔ functor ∈ conn.functors := by
  simp [Conn.functors, queue, different]

theorem mem_functors_enqueue {conn : Conn} {functor pushed : Functor} (different : functor ≠ pushed) :
    functor ∈ { conn with queue := conn.queue ++ [pushed] }.functors ↔ functor ∈ conn.functors := by
  simp [Conn.functors, different]

theorem mem_functors_begin {conn : Conn} {thread : ThreadId} {functor begun : Functor}
    (different : functor ≠ begun) :
    functor ∈ (Remote.begin thread begun conn).functors ↔ functor ∈ conn.functors := by
  simp [begin_functors, different]

/-- Moves leave arming functors alone, except for a request from another thread,
which takes its waiter from unarmed to pending. -/
theorem Move.arm_iff (move : Move world before after) (waiter : WaiterId) (awaitable : Awaitable) :
    (.armWaiter waiter awaitable ∈ after.functors ↔ .armWaiter waiter awaitable ∈ before.functors) ∨
      (before.waiters waiter).phase = .unarmed ∧
        after.waiters waiter =
          { before.waiters waiter with handle := some awaitable, phase := .pending } ∧
        .armWaiter waiter awaitable ∈ after.functors := by
  cases move with
  | claims | note | callbacks | policy | reading | modifyInput | error | beginShutdown
  | shutdownWrite | register | cancelled | failed | queued | armWriteReady | unregister
  | destroyed =>
      exact .inl Iff.rfl
  | enqueue notice => exact .inl (mem_functors_enqueue (by rintro rfl; cases notice))
  | dequeue queue _ other _ => exact .inl (mem_functors_dequeue queue (other waiter awaitable).symm)
  | dequeueShutdown queue _ => exact .inl (mem_functors_dequeue queue (by simp))
  | request requested => exact .inl (mem_functors_begin (by rintro rfl; cases requested))
  | accept _ => exact .inl (mem_functors_begin (by simp))
  | requestShutdown _ => exact .inl (mem_functors_begin (by simp))
  | push member => exact .inl (push_functors member).mem_iff
  | submit arrives _ submits =>
      rw [submits.effect.frame]
      cases arrives with
      | ownerSend _ => exact .inl Iff.rfl
      | queuedSend queue => exact .inl (mem_functors_dequeue queue (by simp))
      | waiter _ _ _ _ _ _ => exact .inl Iff.rfl
  | @requestAwait _ thread other requested unarmed =>
      by_cases same : Functor.armWaiter waiter awaitable = .armWaiter other requested
      · cases same
        exact .inr ⟨unarmed, by simp [awaitPending], by simp [begin_functors]⟩
      · exact .inl (mem_functors_begin same)
  | @armRead _ _ _ ready _ _ _ _ _ _ | @armClose _ _ _ ready _ _ _ _ _ =>
      cases ready <;> exact .inl Iff.rfl
  | unregisterChannel _ =>
      obtain ⟨_, _, _, removed⟩ := unregisterChannel_eq before
      rw [removed]
      exact .inl Iff.rfl

/-! ## What an arming functor captured -/

/-- What an arming functor captured is the awaitable at which its coroutine is
still suspended. -/
def Captured (waiter : WaiterId) (awaitable : Awaitable) (conn : Conn) : Prop :=
  .armWaiter waiter awaitable ∈ conn.functors →
    (conn.waiters waiter).phase ≠ .unarmed ∧
      ((conn.waiters waiter).phase = .pending → (conn.waiters waiter).handle = some awaitable)

theorem AwaiterState.Change.suspended {old new : AwaiterState} (change : Change old new)
    {awaitable : Awaitable}
    (kept : old.phase ≠ .unarmed ∧ (old.phase = .pending → old.handle = some awaitable)) :
    new.phase ≠ .unarmed ∧ (new.phase = .pending → new.handle = some awaitable) := by
  cases change with
  | registered => exact kept
  | awaited unarmed => exact absurd unarmed kept.1
  | queued | cancelled | failed | abandoned | finished => exact ⟨by rintro ⟨⟩, by rintro ⟨⟩⟩

theorem captured (waiter : WaiterId) (awaitable : Awaitable) :
    Invariant world true (Captured waiter awaitable) := by
  constructor
  case move =>
    intro before after move kept member
    rcases move.arm_iff waiter awaitable with same | ⟨_, awaited, _⟩
    · exact (move.waiter waiter).suspended (kept (same.mp member))
    · rw [awaited]
      exact ⟨by simp, fun _ => rfl⟩
  case take =>
    intro taken requested before after takes kept member
    refine (takes.waiter waiter).suspended (kept ?_)
    cases takes with
    | await _ => exact member
    | dequeue queue =>
        simp only [Conn.functors, queue, List.mem_append, List.mem_cons] at member ⊢
        exact member.imp_left .inr
  case finish =>
    intro finished before after finishes kept member
    refine (finishes.waiter waiter).suspended (kept ?_)
    cases finishes with
    | complete _ _ => exact member
    | finish _ _ =>
        obtain ⟨_, _, _, _, same⟩ := finishAwait_eq _ _ _
        rw [same] at member
        exact member
  case dispatch =>
    intro _ before after move kept
    cases move <;> exact kept
  case retrieve => exact fun _ _ _ _ kept => kept
  case settle =>
    intro _ conn kept
    simp only [settle]
    split <;> exact kept
  case close =>
    intro conn failed _ fails kept
    cases fails with
    | close | error => exact kept
    | send arrives =>
        cases arrives with
        | ownerSend | waiter => exact kept
        | queuedSend queue =>
            intro member
            exact kept ((@mem_functors_dequeue conn (.armWaiter waiter awaitable) _ _ queue (by simp)).mp member)
  case disconnected => exact fun _ kept => kept
  case closeCallback => exact fun kept => kept

end MiniTrantor.Net
