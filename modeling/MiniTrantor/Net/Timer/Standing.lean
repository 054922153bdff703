import MiniTrantor.Net.Timer.Invariant

/-!
# When a timer is due

What was done to the timers says when each of them is due, whatever the queue keeps of it: a
timer is due from when it was added until it is cancelled or runs, and one that repeats is due
again when the call that ran it is over.
-/

set_option autoImplicit false

namespace MiniTrantor.Net

inductive TimerEvent where
  | added (id : Nat) (expiration interval : Int)
  | cancelled (id : Nat)
  | run (id : Nat)
  /-- The callbacks of a batch are over. -/
  | finished (now : Int)
  deriving DecidableEq, Repr

inductive Standing where
  | off
  | due (expiration interval : Int)
  | running (interval : Int)
  deriving DecidableEq, Repr

namespace Standing

def next (id : Nat) (standing : Standing) : TimerEvent → Standing
  | .added other expiration interval => if other = id then .due expiration interval else standing
  | .cancelled other => if other = id then .off else standing
  | .run other =>
      match standing with
      | .due _ interval => if other = id then .running interval else standing
      | _ => standing
  | .finished now =>
      match standing with
      | .running interval => if 0 < interval then .due (addTicks now interval) interval else .off
      | _ => standing

variable {id : Nat} {events : List TimerEvent}

/-- A timer that is off stays off until it is added. -/
theorem foldl_off (added : ∀ expiration interval, .added id expiration interval ∉ events) :
    events.foldl (next id) .off = .off := by
  induction events with
  | nil => rfl
  | cons event events ih =>
      have rest := ih fun expiration interval member => added _ _ (List.mem_cons_of_mem _ member)
      rw [List.foldl_cons]
      cases event with
      | added other expiration interval =>
          have different : other ≠ id := by
            rintro rfl
            exact added _ _ List.mem_cons_self
          simpa [next, different] using rest
      | cancelled other => simpa [next] using rest
      | run | finished => exact rest

theorem foldl_running (added : ∀ expiration interval, .added id expiration interval ∉ events)
    (unfinished : ∀ now, .finished now ∉ events) (interval : Int) :
    events.foldl (next id) (.running interval) =
      if .cancelled id ∈ events then .off else .running interval := by
  induction events with
  | nil => rfl
  | cons event events ih =>
      have later : ∀ expiration interval, .added id expiration interval ∉ events :=
        fun expiration interval member => added _ _ (List.mem_cons_of_mem _ member)
      have rest := ih later fun now member => unfinished now (List.mem_cons_of_mem _ member)
      rw [List.foldl_cons]
      cases event with
      | added other expiration interval =>
          have different : other ≠ id := by
            rintro rfl
            exact added _ _ List.mem_cons_self
          simpa [next, different] using rest
      | cancelled other =>
          by_cases same : other = id
          · simpa [next, same] using foldl_off later
          · simpa [next, same, Ne.symm same] using rest
      | run other => simpa [next] using rest
      | finished now => exact absurd List.mem_cons_self (unfinished now)

/-- What callbacks make of a timer that was due. -/
theorem foldl_due (added : ∀ expiration interval, .added id expiration interval ∉ events)
    (unfinished : ∀ now, .finished now ∉ events) (expiration interval : Int) :
    events.foldl (next id) (.due expiration interval) =
      if .cancelled id ∈ events then .off
      else if .run id ∈ events then .running interval else .due expiration interval := by
  induction events with
  | nil => rfl
  | cons event events ih =>
      have later : ∀ expiration interval, .added id expiration interval ∉ events :=
        fun expiration interval member => added _ _ (List.mem_cons_of_mem _ member)
      have open_ : ∀ now, .finished now ∉ events :=
        fun now member => unfinished now (List.mem_cons_of_mem _ member)
      have rest := ih later open_
      rw [List.foldl_cons]
      cases event with
      | added other expiration interval =>
          have different : other ≠ id := by
            rintro rfl
            exact added _ _ List.mem_cons_self
          simpa [next, different] using rest
      | cancelled other =>
          by_cases same : other = id
          · simpa [next, same] using foldl_off later
          · simpa [next, same, Ne.symm same] using rest
      | run other =>
          by_cases same : other = id
          · simpa [next, same] using foldl_running later open_ interval
          · simpa [next, same, Ne.symm same] using rest
      | finished now => exact absurd List.mem_cons_self (unfinished now)

end Standing

/-- When a timer is due, by what was done so far. -/
def standing (id : Nat) (trace : List TimerEvent) : Standing :=
  trace.foldl (Standing.next id) .off

theorem standing_append (id : Nat) (trace events : List TimerEvent) :
    standing id (trace ++ events) = events.foldl (Standing.next id) (standing id trace) :=
  List.foldl_append

namespace TimerQueue

/-- When a timer is due, by what the queue keeps of it between calls. -/
def standing (id : Nat) (queue : TimerQueue) : Standing :=
  if (queue.timersById id).isSome then
    .due (queue.objects id).expiration (queue.objects id).interval
  else .off

variable {batch : List TimerPtr} {queue later : TimerQueue} {id : Nat}

theorem standing_congr (byId : later.timersById id = queue.timersById id)
    (objects : later.objects id = queue.objects id) : later.standing id = queue.standing id := by
  rw [standing, standing, byId, objects]

theorem standing_addTimer (expiration interval : Int) :
    (queue.addTimer expiration interval).standing id =
      if queue.nextSequence = id then .due expiration interval else queue.standing id := by
  by_cases same : id = queue.nextSequence
  · subst same
    simp [standing, addTimer, allocate, insert, modify, Timer.enqueue]
  · rw [if_neg (Ne.symm same)]
    apply standing_congr <;>
      simp [addTimer, allocate, insert, modify, Timer.enqueue, same]

theorem standing_cancelInLoop (holds : Holds batch queue) (other : Nat) :
    (queue.cancelInLoop other).standing id = if other = id then .off else queue.standing id := by
  obtain ⟨_, _, others⟩ := holds.cancelInLoop_objects other
  have byId : (queue.cancelInLoop other).timersById = Function.update queue.timersById other none := by
    cases lookup : queue.timersById other with
    | none =>
        rw [cancelInLoop, lookup]
        exact (Function.update_eq_self_iff.mpr lookup.symm).symm
    | some ptr =>
        obtain ⟨rfl, _⟩ := holds.known other ptr lookup
        exact (holds.cancel_known lookup).2.2.1
  by_cases same : id = other
  · simp [standing, byId, same]
  · rw [if_neg (Ne.symm same)]
    exact standing_congr (by rw [byId, Function.update_of_ne same]) (others id same)

theorem standing_getExpired (now : Int) (undue : id ∉ queue.due now) :
    (queue.getExpired now).2.standing id = queue.standing id := by
  refine standing_congr rfl ?_
  rw [← (getExpired_eq now queue).1] at undue
  exact if_neg undue

/-- The timers of a batch that repeat are due again. -/
theorem standing_reset (holds : Holds batch queue) (now : Int) :
    (queue.reset batch now).standing id =
      if id ∈ batch then
        if (queue.objects id).repeats = true ∧ (queue.objects id).canceled = false then
          .due (addTicks now (queue.objects id).interval) (queue.objects id).interval
        else .off
      else queue.standing id := by
  split
  case isTrue batched =>
    obtain ⟨byId, expiration⟩ := holds.reset_known now batched
    unfold standing
    rw [byId, (Holds.reset_interval batch now id queue).1]
    split
    case isTrue again =>
      rw [expiration again]
      rfl
    case isFalse => rfl
  case isFalse unbatched =>
    obtain ⟨byId, objects⟩ := holds.reset_other now unbatched
    exact standing_congr byId objects

/-- A timer is due between calls if the queue lists it with its expiration. -/
theorem Holds.listed_iff (holds : Holds [] queue) {expiration : Int} :
    (toLex (expiration, id), id) ∈ queue.timers.entries ↔
      ∃ interval, queue.standing id = .due expiration interval := by
  constructor
  · intro listed
    obtain ⟨allocated, key, _, _, found⟩ := holds.queued _ _ listed
    have same : expiration = (queue.objects id).expiration := congrArg (fun key => (ofLex key).1) key
    exact ⟨(queue.objects id).interval, by simp [standing, found, same]⟩
  · intro due
    obtain ⟨interval, due⟩ := due
    unfold standing at due
    split at due
    case isTrue found =>
      obtain ⟨ptr, found⟩ := Option.isSome_iff_exists.mp found
      obtain ⟨rfl, listed⟩ := holds.known id ptr found
      have listed := listed.resolve_right List.not_mem_nil
      obtain ⟨rfl, rfl⟩ := Standing.due.inj due
      rwa [Timer.key, holds.sequence id (holds.allocated found)] at listed
    case isFalse => cases due

end TimerQueue

end MiniTrantor.Net
