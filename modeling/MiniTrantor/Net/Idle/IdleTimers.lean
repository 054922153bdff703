import MiniTrantor.Net.Idle.IdleTimeout

/-!
# The idle timers of a connection

Of the idle timers of a connection no other than the one that is remembered is in
the timer queue of the loop. After a cancellation none is remembered, and what was
captured before is of an older generation.
-/

set_option autoImplicit false

namespace MiniTrantor.Net

namespace TimerQueue

variable {batch : List TimerPtr} {queue : TimerQueue} {id other : Nat}

/-- A timer in the queue, still to expire. -/
def Live (id : Nat) (queue : TimerQueue) : Prop := ∃ key, (key, id) ∈ queue.timers.entries

theorem Holds.live_iff (holds : Holds batch queue) :
    Live id queue ↔ queue.timersById id = some id ∧ id ∉ batch := by
  constructor
  · rintro ⟨key, member⟩
    exact ⟨(holds.queued key id member).2.2.2.2, holds.queued_unbatched member⟩
  · rintro ⟨found, unbatched⟩
    exact ⟨_, (holds.known id id found).2.resolve_right unbatched⟩

theorem Live.of_cancelInLoop (holds : Holds batch queue) (live : Live id (queue.cancelInLoop other)) :
    Live id queue ∧ id ≠ other := by
  rw [(holds.cancelInLoop other).live_iff] at live
  rw [holds.live_iff]
  cases lookup : queue.timersById other with
  | none =>
      rw [TimerQueue.cancelInLoop, lookup] at live
      refine ⟨live, ?_⟩
      rintro rfl
      cases lookup.symm.trans live.1
  | some ptr =>
      obtain ⟨rfl, _⟩ := holds.known other ptr lookup
      rw [(holds.cancel_known lookup).2.2.1] at live
      obtain ⟨found, unbatched⟩ := live
      have different : id ≠ other := by
        rintro rfl
        rw [Function.update_self] at found
        cases found
      rw [Function.update_of_ne different] at found
      exact ⟨⟨found, unbatched⟩, different⟩

theorem addTimer_other (different : other ≠ queue.nextSequence) (expiration interval : Int) :
    (queue.addTimer expiration interval).objects other = queue.objects other ∧
      (queue.addTimer expiration interval).timersById other = queue.timersById other := by
  simp [addTimer, insert, allocate, modify, Timer.enqueue, different]

theorem addTimer_self (expiration interval : Int) :
    ((queue.addTimer expiration interval).objects queue.nextSequence).expiration = expiration ∧
      ((queue.addTimer expiration interval).objects queue.nextSequence).interval = interval ∧
      (queue.addTimer expiration interval).nextSequence = queue.nextSequence + 1 := by
  simp [addTimer, insert, allocate, modify, Timer.enqueue]

theorem Live.of_addTimer (holds : Holds batch queue) {expiration interval : Int}
    (live : Live id (queue.addTimer expiration interval)) (old : id ≠ queue.nextSequence) :
    Live id queue := by
  rw [(holds.addTimer expiration interval).live_iff, (addTimer_other old ..).2] at live
  exact holds.live_iff.mpr live

theorem Live.of_getExpired {now : Int} (holds : Holds [] queue)
    (live : Live id (queue.getExpired now).2) : Live id queue := by
  rw [(holds.getExpired now).live_iff] at live
  exact holds.live_iff.mpr ⟨live.1, by simp⟩

theorem getExpired_objects (now : Int) (queue : TimerQueue) (id : Nat) :
    ((queue.getExpired now).2.objects id).expiration = (queue.objects id).expiration ∧
      ((queue.getExpired now).2.objects id).interval = (queue.objects id).interval ∧
      (queue.getExpired now).2.nextSequence = queue.nextSequence := by
  simp only [getExpired]
  refine ⟨?_, ?_, ?_⟩
  · split <;> rfl
  · split <;> rfl
  · trivial

/-- A timer that does not repeat is not put back. -/
theorem Live.of_reset (holds : Holds batch queue) {now : Int}
    (once : (queue.objects id).interval = 0) (live : Live id (queue.reset batch now)) :
    Live id queue := by
  rw [(holds.reset now).live_iff] at live
  by_cases batched : id ∈ batch
  · rw [(holds.reset_known now batched).1, if_neg (by simp [Timer.repeats, once])] at live
    cases live.1
  · rw [(holds.reset_other now batched).1] at live
    exact holds.live_iff.mpr ⟨live.1, batched⟩

theorem reset_objects (holds : Holds batch queue) {now : Int}
    (once : (queue.objects id).interval = 0) :
    ((queue.reset batch now).objects id).expiration = (queue.objects id).expiration := by
  induction batch generalizing queue with
  | nil => rfl
  | cons ptr batch ih =>
      have same : ((queue.resetTimer now ptr).objects id).expiration =
          (queue.objects id).expiration := by
        by_cases mine : id = ptr
        · subst mine
          rw [resetTimer, if_neg (by simp [Timer.repeats, once])]
        · rw [(holds.resetTimer_other now mine).2]
      exact (ih (holds.resetTimer now) ((Holds.resetTimer_interval ..).1.trans once)).trans same

end TimerQueue

namespace Idle

open TimerQueue (Live)

variable {batch : List TimerPtr} {timers : IdleTimers}

theorem cancelIdleTimer_timeout (timers : IdleTimers) :
    (cancelIdleTimer timers).idleState.timeout = timers.idleState.timeout := by
  unfold cancelIdleTimer
  split
  · rfl
  · dsimp only
    split <;> rfl

theorem refreshIdleTimer_timeout (now : Int) (timers : IdleTimers) :
    (refreshIdleTimer now timers).idleState.timeout = timers.idleState.timeout := by
  unfold refreshIdleTimer
  split
  · rfl
  · exact cancelIdleTimer_timeout timers

theorem wrapper_timeout (state : StateE) (now : Int) (event : Event) (timers : IdleTimers) :
    (wrapper state now event timers).idleState.timeout = timers.idleState.timeout := by
  unfold wrapper
  split
  · split
    · exact refreshIdleTimer_timeout now timers
    · exact cancelIdleTimer_timeout timers
  · split
    · exact refreshIdleTimer_timeout now timers
    · exact cancelIdleTimer_timeout timers
  · exact refreshIdleTimer_timeout now timers
  · exact refreshIdleTimer_timeout now timers
  · exact cancelIdleTimer_timeout timers
  · rfl

/-- The invariant, while the timers of a batch expire. -/
structure Keeps (batch : List TimerPtr) (timers : IdleTimers) : Prop where
  queue : timers.timerQueue.Holds batch
  known : ∀ pair ∈ timers.captured, pair.1 < timers.timerQueue.nextSequence ∧
    (timers.timerQueue.objects pair.1).interval = 0 ∧ pair.2 ≤ timers.idleState.generation
  current : ∀ pair ∈ timers.captured, pair.2 = timers.idleState.generation →
    timers.idleState.timerId = some pair.1 ∨ timers.idleState.timerId = none
  live : ∀ pair ∈ timers.captured, Live pair.1 timers.timerQueue →
    timers.idleState.timerId = some pair.1

namespace Keeps

theorem start (timeout : Int) : Keeps [] { idleState := { timeout } } where
  queue := TimerQueue.initial_holds
  known := by simp
  current := by simp
  live := by simp

theorem cancelIdleTimer (keeps : Keeps batch timers) : Keeps batch (cancelIdleTimer timers) := by
  unfold Idle.cancelIdleTimer
  split
  · exact keeps
  · dsimp only
    split
    case h_1 id remembered =>
      obtain ⟨next, own, others⟩ := keeps.queue.cancelInLoop_objects id
      refine ⟨keeps.queue.cancelInLoop id, fun pair member => ?_, fun pair member same => ?_,
        fun pair member live => ?_⟩
      · obtain ⟨allocated, once, older⟩ := keeps.known pair member
        refine ⟨next ▸ allocated, ?_, Nat.le_succ_of_le older⟩
        by_cases mine : pair.1 = id
        · rw [mine, own, ← mine, once]
        · rw [others pair.1 mine, once]
      · exact .inr rfl
      · obtain ⟨before, different⟩ := Live.of_cancelInLoop keeps.queue live
        cases remembered.symm.trans (keeps.live pair member before)
        exact absurd rfl different
    case h_2 forgotten =>
      refine ⟨keeps.queue, fun pair member => ?_, fun pair member same => .inr forgotten,
        keeps.live⟩
      obtain ⟨allocated, once, older⟩ := keeps.known pair member
      exact ⟨allocated, once, Nat.le_succ_of_le older⟩

/-- After a cancellation no timer is remembered and all are of an older generation. -/
theorem cancelled (keeps : Keeps batch timers) (positive : 0 < timers.idleState.timeout) :
    (Idle.cancelIdleTimer timers).idleState.timerId = none ∧
      ∀ pair ∈ (Idle.cancelIdleTimer timers).captured,
        pair.2 < (Idle.cancelIdleTimer timers).idleState.generation := by
  rw [Idle.cancelIdleTimer, if_neg (Int.not_le.mpr positive)]
  dsimp only
  split
  · exact ⟨rfl, fun pair member => Nat.lt_succ_of_le (keeps.known pair member).2.2⟩
  · exact ⟨‹_›, fun pair member => Nat.lt_succ_of_le (keeps.known pair member).2.2⟩

theorem runAfter (keeps : Keeps batch timers) (forgotten : timers.idleState.timerId = none)
    (older : ∀ pair ∈ timers.captured, pair.2 < timers.idleState.generation) (now : Int) :
    Keeps batch (runAfter now timers) := by
  obtain ⟨_, once, next⟩ := @TimerQueue.addTimer_self timers.timerQueue
    (addTicks now timers.idleState.timeout) 0
  have fresh : ∀ pair ∈ timers.captured, pair.1 ≠ timers.timerQueue.nextSequence :=
    fun pair member => Nat.ne_of_lt (keeps.known pair member).1
  refine ⟨keeps.queue.addTimer _ _, fun pair member => ?_, fun pair member same => ?_,
    fun pair member live => ?_⟩
  · simp only [Idle.runAfter]
    rw [next]
    rcases List.mem_cons.mp member with rfl | old
    · exact ⟨Nat.lt_succ_self _, once, Nat.le_refl _⟩
    · rw [(TimerQueue.addTimer_other (fresh pair old) ..).1]
      obtain ⟨allocated, once, before⟩ := keeps.known pair old
      exact ⟨Nat.lt_succ_of_lt allocated, once, before⟩
  · rcases List.mem_cons.mp member with rfl | old
    · exact .inl rfl
    · exact absurd same (Nat.ne_of_lt (older pair old))
  · rcases List.mem_cons.mp member with rfl | old
    · rfl
    · have before := keeps.live pair old (live.of_addTimer keeps.queue (fresh pair old))
      cases forgotten.symm.trans before

theorem refreshIdleTimer (keeps : Keeps batch timers) (now : Int) :
    Keeps batch (refreshIdleTimer now timers) := by
  unfold Idle.refreshIdleTimer
  split
  · exact keeps
  case isFalse positive =>
    obtain ⟨forgotten, older⟩ := keeps.cancelled (Int.not_le.mp positive)
    exact keeps.cancelIdleTimer.runAfter forgotten older now

theorem wrapper (keeps : Keeps batch timers) (state : StateE) (now : Int) (event : Event) :
    Keeps batch (wrapper state now event timers) := by
  unfold Idle.wrapper
  split
  · split
    · exact keeps.refreshIdleTimer now
    · exact keeps.cancelIdleTimer
  · split
    · exact keeps.refreshIdleTimer now
    · exact keeps.cancelIdleTimer
  · exact keeps.refreshIdleTimer now
  · exact keeps.refreshIdleTimer now
  · exact keeps.cancelIdleTimer
  · exact keeps

/-- Other timers are added and cancelled. -/
theorem addTimer (keeps : Keeps batch timers) (expiration interval : Int) :
    Keeps batch
      { timers with timerQueue := timers.timerQueue.addTimer expiration interval } := by
  obtain ⟨_, _, next⟩ := @TimerQueue.addTimer_self timers.timerQueue expiration interval
  have fresh : ∀ pair ∈ timers.captured, pair.1 ≠ timers.timerQueue.nextSequence :=
    fun pair member => Nat.ne_of_lt (keeps.known pair member).1
  refine ⟨keeps.queue.addTimer _ _, fun pair member => ?_, keeps.current,
    fun pair member live => ?_⟩
  · rw [next, (TimerQueue.addTimer_other (fresh pair member) ..).1]
    obtain ⟨allocated, once, before⟩ := keeps.known pair member
    exact ⟨Nat.lt_succ_of_lt allocated, once, before⟩
  · exact keeps.live pair member (live.of_addTimer keeps.queue (fresh pair member))

theorem cancel (keeps : Keeps batch timers) {id : Nat}
    (foreign : ∀ pair ∈ timers.captured, pair.1 ≠ id) :
    Keeps batch { timers with timerQueue := timers.timerQueue.cancelInLoop id } := by
  obtain ⟨next, _, others⟩ := keeps.queue.cancelInLoop_objects id
  refine ⟨keeps.queue.cancelInLoop id, fun pair member => ?_, keeps.current,
    fun pair member live => ?_⟩
  · rw [next, others pair.1 (foreign pair member)]
    exact keeps.known pair member
  · exact keeps.live pair member (Live.of_cancelInLoop keeps.queue live).1

theorem getExpired (keeps : Keeps [] timers) (now : Int) :
    Keeps (timers.timerQueue.getExpired now).1
      { timers with timerQueue := (timers.timerQueue.getExpired now).2 } := by
  refine ⟨?_, fun pair member => ?_, keeps.current, fun pair member live => ?_⟩
  · rw [(TimerQueue.getExpired_eq now timers.timerQueue).1]
    exact keeps.queue.getExpired now
  · obtain ⟨_, interval, next⟩ := TimerQueue.getExpired_objects now timers.timerQueue pair.1
    rw [next, interval]
    exact keeps.known pair member
  · exact keeps.live pair member (Live.of_getExpired keeps.queue live)

theorem reset (keeps : Keeps batch timers) (now : Int) :
    Keeps [] { timers with timerQueue := timers.timerQueue.reset batch now } := by
  refine ⟨keeps.queue.reset now, fun pair member => ?_, keeps.current, fun pair member live => ?_⟩
  · obtain ⟨interval, next⟩ := TimerQueue.Holds.reset_interval batch now pair.1 timers.timerQueue
    rw [next, interval]
    exact keeps.known pair member
  · exact keeps.live pair member
      (Live.of_reset keeps.queue (keeps.known pair member).2.1 live)

/-- The callback of the timer that was remembered forgets it. -/
theorem disarm (keeps : Keeps batch timers) {id : Nat} (batched : id ∈ batch)
    (own : (id, timers.idleState.generation) ∈ timers.captured) :
    Keeps batch { timers with idleState := { timers.idleState with timerId := none } } := by
  refine ⟨keeps.queue, keeps.known, fun pair member same => .inr rfl,
    fun pair member live => ?_⟩
  have remembered := keeps.live pair member live
  rcases keeps.current _ own rfl with this | none
  · cases this.symm.trans remembered
    exact absurd batched (keeps.queue.live_iff.mp live).2
  · cases none.symm.trans remembered

end Keeps

end Idle

end MiniTrantor.Net
