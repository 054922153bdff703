import MiniTrantor.Net.Timer.Standing

/-!
# Expiry of timers

`handleExpired` runs the callbacks of a batch of due timers. A callback may add
timers and cancel any timer, itself and the rest of the batch included.
-/

set_option autoImplicit false

namespace MiniTrantor.Net

/-- A call on the owner thread. -/
inductive TimerOp where
  | addTimer (expiration interval : Int)
  | cancel (id : Nat)
  deriving DecidableEq, Repr

/-- The queue with the history of what was done to it. -/
structure Timers where
  queue : TimerQueue := {}
  trace : List TimerEvent := []

/-- What the callbacks do and what the clock shows. -/
structure TimerWorld where
  callback : TimerPtr → Timers → List TimerOp := fun _ _ => []
  now : Timers → Int := fun _ => 0

namespace Timers

/-- An id that `addTimer` never returns is ignored. -/
def perform : TimerOp → Timers → Timers
  | .addTimer expiration interval, timers =>
      { queue := timers.queue.addTimer expiration interval
        trace := timers.trace ++ [.added timers.queue.nextSequence expiration interval] }
  | .cancel id, timers =>
      if id = 0 then timers
      else { queue := timers.queue.cancelInLoop id, trace := timers.trace ++ [.cancelled id] }

def runCallback (world : TimerWorld) (ptr : TimerPtr) (timers : Timers) : Timers :=
  let timers := { timers with trace := timers.trace ++ [.run (timers.queue.objects ptr).sequence] }
  (world.callback ptr timers).foldl (fun timers op => timers.perform op) timers

/-- One timer of the batch. -/
def expire (world : TimerWorld) (timers : Timers) (ptr : TimerPtr) : Timers :=
  if (timers.queue.objects ptr).canceled then timers else timers.runCallback world ptr

/-- The timers that have expired, and the state after their callbacks. -/
def runExpired (world : TimerWorld) (now : Int) (timers : Timers) : List TimerPtr × Timers :=
  let split := timers.queue.getExpired now
  (split.1, split.1.foldl (expire world) { timers with queue := split.2 })

def handleExpired (world : TimerWorld) (now : Int) (timers : Timers) : Timers :=
  if timers.queue.nothingDue now then timers
  else
    let ran := timers.runExpired world now
    { queue := ran.2.queue.reset ran.1 (world.now ran.2)
      trace := ran.2.trace ++ [.finished (world.now ran.2)] }

end Timers

/-- A step of the owner loop that concerns the timers. -/
inductive TimerCall where
  | op (op : TimerOp)
  | handleExpired (now : Int)
  deriving DecidableEq, Repr

def Timers.call (world : TimerWorld) (timers : Timers) : TimerCall → Timers
  | .op op => timers.perform op
  | .handleExpired now => timers.handleExpired world now

def Timers.run (world : TimerWorld) (calls : List TimerCall) : Timers :=
  calls.foldl (Timers.call world) {}

/-- A queue that no timer was added to. -/
def TimerQueue.empty : TimerQueue := {}

/-! ## What a batch does -/

/-- The callbacks of the given timers run in order, each once, but for those
cancelled by what came before; every other event belongs to a callback. -/
inductive Plays : List TimerEvent → List Nat → List TimerEvent → Prop where
  | done {before} : Plays before [] []
  | skipped {before id rest events} : .cancelled id ∈ before → Plays before rest events →
      Plays before (id :: rest) events
  | ran {before id rest events} (inner : List TimerEvent) : .cancelled id ∉ before →
      (∀ other, .run other ∉ inner) → Plays (before ++ .run id :: inner) rest events →
      Plays before (id :: rest) (.run id :: inner ++ events)

/-- A batch in the middle of its callbacks, and the events of the call so far. -/
structure Underway (batch : List TimerPtr) (start timers : Timers) (events : List TimerEvent) : Prop where
  trace : timers.trace = start.trace ++ events
  holds : timers.queue.Holds batch
  flagged : ∀ ptr ∈ batch, (timers.queue.objects ptr).canceled = true ↔ .cancelled ptr ∈ events
  interval : ∀ ptr < start.queue.nextSequence,
    (timers.queue.objects ptr).interval = (start.queue.objects ptr).interval
  grown : start.queue.nextSequence ≤ timers.queue.nextSequence
  fresh : ∀ id expiration interval, .added id expiration interval ∈ events →
    start.queue.nextSequence ≤ id
  unfinished : ∀ now, .finished now ∉ events
  told : ∀ id, id ∉ batch → standing id timers.trace = timers.queue.standing id
  recorded : ∀ id expiration interval, .added id expiration interval ∈ events →
    id < timers.queue.nextSequence ∧ (timers.queue.objects id).interval = interval
  dead : ∀ id, start.queue.Dead id → timers.queue.Dead id

namespace Underway

variable {batch : List TimerPtr} {start timers : Timers} {events : List TimerEvent}

theorem addTimer (underway : Underway batch start timers events) (expiration interval : Int) :
    Underway batch start (timers.perform (.addTimer expiration interval))
      (events ++ [TimerEvent.added timers.queue.nextSequence expiration interval]) := by
  have old : ∀ ptr < timers.queue.nextSequence,
      (timers.queue.addTimer expiration interval).objects ptr = timers.queue.objects ptr := by
    intro ptr allocated
    simp [TimerQueue.addTimer, TimerQueue.allocate, TimerQueue.insert, TimerQueue.modify,
      Nat.ne_of_lt allocated]
  refine ⟨by simp [Timers.perform, underway.trace], underway.holds.addTimer _ _, ?_, ?_, ?_, ?_, ?_,
    ?_, ?_, fun id dead => (underway.dead id dead).addTimer _ _⟩
  · intro ptr batched
    rw [Timers.perform, old ptr (underway.holds.batched ptr batched).1, underway.flagged ptr batched]
    simp
  · intro ptr allocated
    rw [Timers.perform, old ptr (Nat.lt_of_lt_of_le allocated underway.grown)]
    exact underway.interval ptr allocated
  · exact Nat.le_succ_of_le underway.grown
  · intro id other long member
    rcases List.mem_append.mp member with old | new
    · exact underway.fresh id other long old
    · cases List.mem_singleton.mp new
      exact underway.grown
  · intro now member
    rcases List.mem_append.mp member with old | new
    · exact underway.unfinished now old
    · cases List.mem_singleton.mp new
  · intro id unbatched
    rw [Timers.perform, standing_append, underway.told id unbatched, TimerQueue.standing_addTimer]
    rfl
  · intro id other long member
    rcases List.mem_append.mp member with earlier | new
    · obtain ⟨allocated, same⟩ := underway.recorded id other long earlier
      exact ⟨Nat.lt_succ_of_lt allocated, by rw [Timers.perform, old id allocated, same]⟩
    · cases List.mem_singleton.mp new
      refine ⟨Nat.lt_succ_self _, ?_⟩
      simp [Timers.perform, TimerQueue.addTimer, TimerQueue.allocate, TimerQueue.insert,
        TimerQueue.modify, Timer.enqueue]

theorem cancel (underway : Underway batch start timers events) {id : Nat} (valid : id ≠ 0) :
    Underway batch start (timers.perform (.cancel id)) (events ++ [TimerEvent.cancelled id]) := by
  obtain ⟨next, interval, others⟩ := underway.holds.cancelInLoop_objects id
  have kept := underway.holds.cancelInLoop id
  have intervals : ∀ ptr, ((timers.queue.cancelInLoop id).objects ptr).interval =
      (timers.queue.objects ptr).interval := by
    intro ptr
    by_cases same : ptr = id
    · rw [same, interval]
    · rw [others ptr same]
  rw [Timers.perform, if_neg valid]
  refine ⟨by simp [underway.trace], kept, ?_, ?_, ?_, ?_, ?_, ?_, ?_,
    fun other dead => (underway.dead other dead).cancelInLoop underway.holds id⟩
  · intro ptr batched
    by_cases same : ptr = id
    · -- whatever its state before, a timer of the batch is flagged now
      have dead := TimerQueue.Dead.of_cancelInLoop underway.holds
        (same ▸ (underway.holds.batched ptr batched).1)
      simp [same, dead.canceled kept (same ▸ batched)]
    · rw [others ptr same, underway.flagged ptr batched]
      simp [same]
  · intro ptr allocated
    rw [intervals]
    exact underway.interval ptr allocated
  · exact underway.grown.trans next.ge
  · intro other expiration long member
    rcases List.mem_append.mp member with old | new
    · exact underway.fresh other expiration long old
    · cases List.mem_singleton.mp new
  · intro now member
    rcases List.mem_append.mp member with old | new
    · exact underway.unfinished now old
    · cases List.mem_singleton.mp new
  · intro other unbatched
    rw [standing_append, underway.told other unbatched,
      TimerQueue.standing_cancelInLoop underway.holds]
    rfl
  · intro other expiration long member
    rw [next, intervals]
    rcases List.mem_append.mp member with old | new
    · exact underway.recorded other expiration long old
    · cases List.mem_singleton.mp new

theorem perform (underway : Underway batch start timers events) (op : TimerOp) :
    ∃ inner, (∀ other, .run other ∉ inner) ∧
      Underway batch start (timers.perform op) (events ++ inner) := by
  cases op with
  | addTimer expiration interval => exact ⟨_, by simp, underway.addTimer expiration interval⟩
  | cancel id =>
      by_cases invalid : id = 0
      · refine ⟨[], by simp, ?_⟩
        simpa [Timers.perform, invalid] using underway
      · exact ⟨_, by simp, underway.cancel invalid⟩

theorem performs (underway : Underway batch start timers events) (ops : List TimerOp) :
    ∃ inner, (∀ other, .run other ∉ inner) ∧
      Underway batch start (ops.foldl (fun timers op => timers.perform op) timers)
        (events ++ inner) := by
  induction ops generalizing timers events with
  | nil => exact ⟨[], by simp, by simpa using underway⟩
  | cons op ops ih =>
      obtain ⟨first, quiet, next⟩ := underway.perform op
      obtain ⟨rest, silent, final⟩ := ih next
      refine ⟨first ++ rest, ?_, by simpa using final⟩
      intro other member
      rcases List.mem_append.mp member with early | late
      · exact quiet other early
      · exact silent other late

/-- The callback of a timer of the batch begins. -/
theorem started (underway : Underway batch start timers events) {ptr : TimerPtr}
    (batched : ptr ∈ batch) :
    Underway batch start { timers with trace := timers.trace ++ [.run ptr] }
      (events ++ [TimerEvent.run ptr]) := by
  refine ⟨by simp [underway.trace], underway.holds, ?_, underway.interval, underway.grown, ?_, ?_, ?_,
    ?_, underway.dead⟩
  · intro other member
    simpa using underway.flagged other member
  · intro id expiration interval member
    exact underway.fresh id expiration interval (by simpa using member)
  · intro now member
    exact underway.unfinished now (by simpa using member)
  · intro id unbatched
    have different : ptr ≠ id := fun same => unbatched (same ▸ batched)
    rw [standing_append, underway.told id unbatched]
    unfold TimerQueue.standing
    split <;> simp [Standing.next, different]
  · intro id expiration interval member
    exact underway.recorded id expiration interval (by simpa using member)

/-- Each timer of the batch is run or skipped as its flag says. -/
theorem expire (world : TimerWorld) (underway : Underway batch start timers events)
    (expired : List TimerPtr) (within : ∀ ptr ∈ expired, ptr ∈ batch) :
    ∃ later, Plays events expired later ∧
      Underway batch start (expired.foldl (Timers.expire world) timers) (events ++ later) := by
  induction expired generalizing timers events with
  | nil => exact ⟨[], .done, by simpa using underway⟩
  | cons ptr expired ih =>
      have batched := within ptr List.mem_cons_self
      have rest : ∀ ptr ∈ expired, ptr ∈ batch :=
        fun other member => within other (List.mem_cons_of_mem _ member)
      have named := underway.holds.sequence ptr (underway.holds.batched ptr batched).1
      rw [List.foldl_cons, Timers.expire]
      split
      case isTrue canceled =>
        obtain ⟨later, plays, final⟩ := ih underway rest
        exact ⟨later, .skipped ((underway.flagged ptr batched).mp canceled) plays, final⟩
      case isFalse live =>
        have started := underway.started batched
        obtain ⟨inner, quiet, ran⟩ := started.performs
          (world.callback ptr { timers with trace := timers.trace ++ [.run ptr] })
        rw [List.append_assoc, List.singleton_append] at ran
        rw [Timers.runCallback, named]
        obtain ⟨later, plays, final⟩ := ih ran rest
        refine ⟨.run ptr :: inner ++ later, .ran inner ?_ quiet plays, by simpa using final⟩
        exact fun cancelled => live ((underway.flagged ptr batched).mpr cancelled)

end Underway

/-- What one call of `handleExpired` does, given the batch and the events of its callbacks. -/
structure Expiry (world : TimerWorld) (now : Int) (timers : Timers) (batch : List Nat)
    (events : List TimerEvent) : Prop where
  due : ∀ id, id ∈ batch ↔
    ∃ expiration interval, standing id timers.trace = .due expiration interval ∧ expiration ≤ now
  ordered : batch.Pairwise fun first second => ∃ early late earlyInterval lateInterval,
    standing first timers.trace = .due early earlyInterval ∧
      standing second timers.trace = .due late lateInterval ∧
      toLex (early, first) < toLex (late, second)
  trace : (timers.handleExpired world now).trace = timers.trace ++ (events ++
    if batch = [] then [] else [TimerEvent.finished (world.now (timers.runExpired world now).2)])
  plays : Plays [] batch events
  reinserted : ∀ id ∈ batch, ∀ expiration interval,
    standing id timers.trace = .due expiration interval →
    ((∃ key, (key, id) ∈ (timers.handleExpired world now).queue.timers.entries) ↔
      0 < interval ∧ .cancelled id ∉ events)
  added : ∀ id expiration interval, .added id expiration interval ∈ events → .run id ∉ events

theorem Plays.run_mem {before events : List TimerEvent} {batch : List Nat}
    (plays : Plays before batch events) {id : Nat} (ran : .run id ∈ events) : id ∈ batch := by
  induction plays with
  | done => cases ran
  | skipped _ _ ih => exact List.mem_cons_of_mem _ (ih ran)
  | ran inner _ quiet _ ih =>
      rcases List.mem_append.mp ran with early | late
      · rcases List.mem_cons.mp early with same | nested
        · cases same
          exact List.mem_cons_self
        · exact absurd nested (quiet id)
      · exact List.mem_cons_of_mem _ (ih late)

theorem Plays.count_run {before events : List TimerEvent} {batch : List Nat}
    (plays : Plays before batch events) (id : Nat) : events.count (.run id) ≤ batch.count id := by
  induction plays with
  | done => exact Nat.le_refl _
  | skipped _ _ ih => exact ih.trans List.count_le_count_cons
  | @ran before other rest events inner _ quiet _ ih =>
      rw [List.cons_append, List.count_cons, List.count_append,
        List.count_eq_zero_of_not_mem (quiet id), List.count_cons]
      by_cases same : other = id
      · subst same
        simpa using ih
      · have different : TimerEvent.run other ≠ .run id := fun equal => same (by cases equal; rfl)
        simpa [same, different] using ih

/-- What is not cancelled before its turn has its turn. -/
theorem Plays.runs {before events : List TimerEvent} {batch : List Nat}
    (plays : Plays before batch events) {id : Nat} (batched : id ∈ batch)
    (wanted : .cancelled id ∉ before ++ events) : .run id ∈ events := by
  induction plays with
  | done => cases batched
  | @skipped before other rest events cancelled _ ih =>
      obtain rfl | batched := List.mem_cons.mp batched
      · exact absurd (List.mem_append_left _ cancelled) wanted
      · exact ih batched wanted
  | @ran before other rest events inner _ _ _ ih =>
      obtain rfl | batched := List.mem_cons.mp batched
      · exact List.mem_cons_self
      · refine List.mem_append_right _ (ih batched ?_)
        simpa using wanted

/-- Between calls the queue keeps of each timer when it is due. -/
def Timers.Told (timers : Timers) : Prop :=
  ∀ id, standing id timers.trace = timers.queue.standing id

theorem Underway.begin {timers : Timers} (holds : timers.queue.Holds []) (told : timers.Told)
    (now : Int) :
    Underway (timers.queue.due now) { timers with queue := (timers.queue.getExpired now).2 }
      { timers with queue := (timers.queue.getExpired now).2 } [] where
  trace := by simp
  holds := holds.getExpired now
  flagged := by
    intro ptr due
    obtain ⟨⟨key, member⟩, _⟩ := holds.mem_due.mp due
    have live := (holds.queued key ptr member).2.2.2.1
    simp only [TimerQueue.getExpired]
    split <;> simp [live]
  interval := fun _ _ => rfl
  grown := Nat.le_refl _
  fresh := by simp
  unfinished := by simp
  told := fun id undue => (told id).trans (TimerQueue.standing_getExpired now undue).symm
  recorded := by simp
  dead := fun _ dead => dead

/-- A call of `handleExpired` keeps the invariant, the intervals, and the dead dead. -/
structure Expires (before after : Timers) (events : List TimerEvent) : Prop where
  trace : after.trace = before.trace ++ events
  holds : after.queue.Holds []
  told : after.Told
  interval : ∀ id < before.queue.nextSequence,
    (after.queue.objects id).interval = (before.queue.objects id).interval
  grown : before.queue.nextSequence ≤ after.queue.nextSequence
  recorded : ∀ id expiration interval, .added id expiration interval ∈ events →
    id < after.queue.nextSequence ∧ (after.queue.objects id).interval = interval
  dead : ∀ id, before.queue.Dead id → after.queue.Dead id

/-- The callbacks of a batch, from the state before the call. -/
theorem runExpired_underway (world : TimerWorld) (now : Int) {timers : Timers}
    (holds : timers.queue.Holds []) (told : timers.Told) :
    (timers.runExpired world now).1 = timers.queue.due now ∧
    ∃ events, Plays [] (timers.queue.due now) events ∧
      Underway (timers.queue.due now) { timers with queue := (timers.queue.getExpired now).2 }
        (timers.runExpired world now).2 events ∧
      ∀ id < timers.queue.nextSequence, ((timers.runExpired world now).2.queue.objects id).interval =
        (timers.queue.objects id).interval := by
  have expired := (TimerQueue.getExpired_eq now timers.queue).1
  obtain ⟨events, plays, final⟩ := (Underway.begin holds told now).expire world
    (timers.queue.due now) fun _ member => member
  rw [List.nil_append] at final
  refine ⟨expired, events, plays, ?_, ?_⟩
  · rw [Timers.runExpired, expired]
    exact final
  · intro id allocated
    rw [Timers.runExpired, expired, final.interval id allocated]
    simp only [TimerQueue.getExpired]
    split <;> rfl

/-- A timer that is due is one that the queue lists. -/
theorem standing_due {timers : Timers} (holds : timers.queue.Holds []) (told : timers.Told) {id : Nat}
    (due : ∃ key, (key, id) ∈ timers.queue.timers.entries) :
    standing id timers.trace =
      .due (timers.queue.objects id).expiration (timers.queue.objects id).interval := by
  obtain ⟨key, listed⟩ := due
  rw [told, TimerQueue.standing, (holds.queued key id listed).2.2.2.2]
  rfl

/-- A batch is what is due, in the order in which it is due. -/
theorem due_batch {timers : Timers} (holds : timers.queue.Holds []) (told : timers.Told) (now : Int) :
    (∀ id, id ∈ timers.queue.due now ↔
      ∃ expiration interval, standing id timers.trace = .due expiration interval ∧
        expiration ≤ now) ∧
      (timers.queue.due now).Pairwise fun first second => ∃ early late earlyInterval lateInterval,
        standing first timers.trace = .due early earlyInterval ∧
          standing second timers.trace = .due late lateInterval ∧
          toLex (early, first) < toLex (late, second) := by
  constructor
  · intro id
    constructor
    · intro due
      obtain ⟨listed, passed⟩ := holds.mem_due.mp due
      exact ⟨_, _, standing_due holds told listed, passed⟩
    · intro due
      obtain ⟨expiration, interval, due, passed⟩ := due
      have listed := holds.listed_iff.mpr ⟨interval, (told id).symm.trans due⟩
      rw [standing_due holds told ⟨_, listed⟩] at due
      obtain ⟨same, _⟩ := Standing.due.inj due
      exact holds.mem_due.mpr ⟨⟨_, listed⟩, same ▸ passed⟩
  · refine (holds.due_sorted now).imp_of_mem ?_
    intro first second one two before
    have listed := (holds.mem_due.mp one).1
    have also := (holds.mem_due.mp two).1
    have named : ∀ {id}, (∃ key, (key, id) ∈ timers.queue.timers.entries) →
        (timers.queue.objects id).sequence = id := by
      intro id listed
      obtain ⟨key, member⟩ := listed
      exact holds.sequence id (holds.queued key id member).1
    rw [Timer.key, Timer.key, named listed, named also] at before
    exact ⟨_, _, _, _, standing_due holds told listed, standing_due holds told also, before⟩

/-- When the timers are due after the callbacks of a batch and `reset`. -/
theorem Underway.reset_told {timers middle : Timers} {now : Int} {events : List TimerEvent}
    (holds : timers.queue.Holds []) (told : timers.Told)
    (final : Underway (timers.queue.due now)
      { timers with queue := (timers.queue.getExpired now).2 } middle events)
    (intervals : ∀ id < timers.queue.nextSequence,
      (middle.queue.objects id).interval = (timers.queue.objects id).interval)
    (plays : Plays [] (timers.queue.due now) events) (later : Int) :
    Timers.Told
      { queue := middle.queue.reset (timers.queue.due now) later
        trace := middle.trace ++ [.finished later] } := by
  intro id
  rw [TimerQueue.standing_reset final.holds, standing_append]
  split
  case isTrue due =>
    obtain ⟨listed, _⟩ := holds.mem_due.mp due
    have allocated : id < timers.queue.nextSequence := by
      obtain ⟨key, member⟩ := listed
      exact (holds.queued key id member).1
    have added : ∀ expiration interval, .added id expiration interval ∉ events :=
      fun expiration interval new =>
        absurd allocated (Nat.not_lt.mpr (final.fresh id expiration interval new))
    have flagged := final.flagged id due
    rw [final.trace, standing_append, standing_due holds told listed,
      Standing.foldl_due added final.unfinished, Timer.repeats, intervals id allocated]
    by_cases cancelled : .cancelled id ∈ events
    · simp [cancelled, flagged.mpr cancelled, Standing.next]
    · have live := Bool.eq_false_iff.mpr fun canceled => cancelled (flagged.mp canceled)
      have ran := plays.runs due cancelled
      simp [cancelled, ran, live, Standing.next]
  case isFalse undue =>
    rw [final.told id undue]
    unfold TimerQueue.standing
    split <;> rfl

theorem handleExpired_idle (world : TimerWorld) (now : Int) {timers : Timers}
    (holds : timers.queue.Holds []) (told : timers.Told)
    (nothing : timers.queue.nothingDue now = true) :
    ∃ batch events, Expiry world now timers batch events ∧
      Expires timers (timers.handleExpired world now) [] := by
  have none := holds.due_of_nothingDue nothing
  have same : timers.handleExpired world now = timers := by simp [Timers.handleExpired, nothing]
  obtain ⟨due, ordered⟩ := due_batch holds told now
  rw [none] at due ordered
  refine ⟨[], [], ⟨due, ordered, by simp [same], .done, ?_, by simp⟩, ?_⟩
  · intro id member
    cases member
  · rw [same]
    exact ⟨by simp, holds, told, fun _ _ => rfl, Nat.le_refl _, by simp, fun _ dead => dead⟩

theorem handleExpired_expiry (world : TimerWorld) (now : Int) {timers : Timers}
    (holds : timers.queue.Holds []) (told : timers.Told)
    (something : timers.queue.nothingDue now = false) :
    ∃ batch events later, Expiry world now timers batch events ∧
      Expires timers (timers.handleExpired world now) (events ++ [.finished later]) := by
  obtain ⟨expired, events, plays, final, intervals⟩ := runExpired_underway world now holds told
  obtain ⟨due, ordered⟩ := due_batch holds told now
  have some : timers.queue.due now ≠ [] := by
    unfold TimerQueue.nothingDue at something
    split at something
    case h_1 => cases something
    case h_2 entry rest listed =>
      have passed := of_decide_eq_false something
      have member : (entry.1, entry.2) ∈ timers.queue.timers.entries := by simp [listed]
      exact List.ne_nil_of_mem (holds.mem_due.mpr ⟨⟨_, member⟩, not_lt.mp passed⟩)
  have after : timers.handleExpired world now =
      { queue := (timers.runExpired world now).2.queue.reset (timers.queue.due now)
          (world.now (timers.runExpired world now).2)
        trace := (timers.runExpired world now).2.trace ++
          [.finished (world.now (timers.runExpired world now).2)] } := by
    simp [Timers.handleExpired, something, expired]
  have settled := Underway.reset_told holds told final intervals plays
  refine ⟨timers.queue.due now, events, world.now (timers.runExpired world now).2,
    ⟨due, ordered, ?_, plays, ?_, ?_⟩, ?_⟩
  · rw [after, if_neg some, final.trace, List.append_assoc]
  · intro id batched expiration interval standing
    obtain ⟨known, _⟩ := final.holds.reset_known (world.now (timers.runExpired world now).2) batched
    have finished := final.holds.reset (world.now (timers.runExpired world now).2)
    obtain ⟨listed, _⟩ := holds.mem_due.mp batched
    have repeats : ((timers.runExpired world now).2.queue.objects id).repeats = true ↔ 0 < interval := by
      rw [standing_due holds told listed] at standing
      obtain ⟨key, member⟩ := listed
      obtain ⟨_, rfl⟩ := Standing.due.inj standing
      rw [Timer.repeats, intervals id (holds.queued key id member).1, decide_eq_true_eq]
    have live : ((timers.runExpired world now).2.queue.objects id).canceled = false ↔
        .cancelled id ∉ events := by
      rw [← final.flagged id batched, Bool.not_eq_true]
    rw [after, ← repeats, ← live]
    constructor
    · intro listed
      obtain ⟨key, member⟩ := listed
      have found := (finished.queued key id member).2.2.2.2
      rw [known] at found
      by_contra gone
      rw [if_neg gone] at found
      cases found
    · intro back
      rw [if_pos back] at known
      exact ⟨_, (finished.known id id known).2.resolve_right (by simp)⟩
  · intro id expiration interval added ran
    have allocated := final.fresh id expiration interval added
    obtain ⟨⟨key, member⟩, _⟩ := holds.mem_due.mp (plays.run_mem ran)
    exact absurd (holds.queued key id member).1 (Nat.not_lt.mpr allocated)
  · rw [after]
    refine ⟨by rw [final.trace, List.append_assoc], final.holds.reset _, settled _, ?_, ?_, ?_,
      fun id dead => (final.dead id dead).reset final.holds _⟩
    · intro id allocated
      rw [(TimerQueue.Holds.reset_interval _ _ _ _).1, intervals id allocated]
    · rw [(TimerQueue.Holds.reset_interval _ _ 0 _).2]
      exact final.grown
    · intro id expiration interval listed
      rw [(TimerQueue.Holds.reset_interval _ _ id _).1, (TimerQueue.Holds.reset_interval _ _ id _).2]
      exact final.recorded id expiration interval (by simpa using listed)

/-! ## Runs -/

/-- Between calls the indexes agree, and a timer that does not repeat and has
run is gone. -/
structure Timers.Settled (timers : Timers) : Prop where
  holds : timers.queue.Holds []
  told : timers.Told
  recorded : ∀ id expiration interval, .added id expiration interval ∈ timers.trace →
    id < timers.queue.nextSequence ∧ (timers.queue.objects id).interval = interval
  spent : ∀ id, .run id ∈ timers.trace → (timers.queue.objects id).repeats = false →
    timers.queue.Dead id
  started : ∀ id, .run id ∈ timers.trace → id < timers.queue.nextSequence
  once : ∀ id, (timers.queue.objects id).repeats = false → timers.trace.count (.run id) ≤ 1

/-- A call runs a timer at most once, and only if it is still known. -/
theorem Timers.Settled.advance {before after : Timers} {events : List TimerEvent}
    (settled : Timers.Settled before) (expires : Expires before after events)
    (ran : ∀ id, .run id ∈ events → id < before.queue.nextSequence ∧ ¬before.queue.Dead id ∧
      ((before.queue.objects id).repeats = false → after.queue.Dead id))
    (once : ∀ id, events.count (.run id) ≤ 1) : Timers.Settled after := by
  have trace := expires.trace
  have repeats : ∀ id < before.queue.nextSequence,
      (after.queue.objects id).repeats = (before.queue.objects id).repeats := by
    intro id allocated
    simp only [Timer.repeats, expires.interval id allocated]
  refine ⟨expires.holds, expires.told, ?_, ?_, ?_, ?_⟩
  · intro id expiration interval member
    rw [trace] at member
    rcases List.mem_append.mp member with old | new
    · obtain ⟨allocated, same⟩ := settled.recorded id expiration interval old
      exact ⟨Nat.lt_of_lt_of_le allocated expires.grown, (expires.interval id allocated).trans same⟩
    · exact expires.recorded id expiration interval new
  · intro id member single
    rw [trace] at member
    rcases List.mem_append.mp member with old | new
    · rw [repeats id (settled.started id old)] at single
      exact expires.dead id (settled.spent id old single)
    · obtain ⟨allocated, _, gone⟩ := ran id new
      rw [repeats id allocated] at single
      exact gone single
  · intro id member
    rw [trace] at member
    rcases List.mem_append.mp member with old | new
    · exact Nat.lt_of_lt_of_le (settled.started id old) expires.grown
    · exact Nat.lt_of_lt_of_le (ran id new).1 expires.grown
  · intro id single
    rw [trace, List.count_append]
    by_cases new : .run id ∈ events
    · obtain ⟨allocated, known, _⟩ := ran id new
      rw [repeats id allocated] at single
      have first : .run id ∉ before.trace := fun old => known (settled.spent id old single)
      rw [List.count_eq_zero_of_not_mem first, Nat.zero_add]
      exact once id
    · rw [List.count_eq_zero_of_not_mem new, Nat.add_zero]
      by_cases old : .run id ∈ before.trace
      · rw [repeats id (settled.started id old)] at single
        exact settled.once id single
      · rw [List.count_eq_zero_of_not_mem old]
        exact Nat.zero_le _

theorem Timers.Settled.perform {timers : Timers} (settled : Timers.Settled timers) (op : TimerOp) :
    Timers.Settled (timers.perform op) := by
  have idle : Underway [] timers timers [] :=
    ⟨by simp, settled.holds, by simp, fun _ _ => rfl, Nat.le_refl _, by simp, by simp,
      fun id _ => settled.told id, by simp, fun _ dead => dead⟩
  obtain ⟨inner, quiet, underway⟩ := idle.perform op
  rw [List.nil_append] at underway
  refine settled.advance ⟨underway.trace, underway.holds, fun id => underway.told id (by simp),
    underway.interval, underway.grown, underway.recorded, underway.dead⟩ ?_ ?_
  · intro id member
    exact absurd member (quiet id)
  · intro id
    rw [List.count_eq_zero_of_not_mem (quiet id)]
    exact Nat.zero_le _

theorem Timers.Settled.handleExpired {timers : Timers} (settled : Timers.Settled timers)
    (world : TimerWorld) (now : Int) : Timers.Settled (timers.handleExpired world now) := by
  cases something : timers.queue.nothingDue now with
  | true =>
      have same : timers.handleExpired world now = timers := by simp [Timers.handleExpired, something]
      rwa [same]
  | false =>
      obtain ⟨batch, events, later, expiry, expires⟩ :=
        handleExpired_expiry world now settled.holds settled.told something
      have distinct : batch.Nodup := by
        refine expiry.ordered.imp ?_
        rintro first _ ⟨early, late, _, _, one, two, before⟩ rfl
        obtain ⟨rfl, _⟩ := Standing.due.inj (one.symm.trans two)
        exact lt_irrefl _ before
      have within : ∀ {id}, .run id ∈ events ++ [TimerEvent.finished later] → .run id ∈ events := by
        intro id member
        simpa using member
      refine settled.advance expires ?_ ?_
      · intro id member
        have batched := expiry.plays.run_mem (within member)
        obtain ⟨expiration, interval, due, _⟩ := (expiry.due id).mp batched
        have queued := settled.holds.listed_iff.mpr ⟨interval, (settled.told id).symm.trans due⟩
        have listed := settled.holds.queued _ id queued
        have same := standing_due settled.holds settled.told ⟨_, queued⟩
        obtain ⟨_, rfl⟩ := Standing.due.inj (due.symm.trans same)
        refine ⟨listed.1, fun dead => ?_, fun single => ?_⟩
        · cases dead.2.symm.trans listed.2.2.2.2
        · refine ⟨Nat.lt_of_lt_of_le listed.1 expires.grown, ?_⟩
          cases found : (timers.handleExpired world now).queue.timersById id with
          | none => rfl
          | some ptr =>
              obtain ⟨rfl, place⟩ := expires.holds.known id ptr found
              have back := (expiry.reinserted id batched _ _ due).mp
                ⟨_, place.resolve_right (by simp)⟩
              exact absurd back.1 (of_decide_eq_false single)
      · intro id
        rw [List.count_append, List.count_singleton]
        exact (expiry.plays.count_run id).trans (List.nodup_iff_count_le_one.mp distinct id)

theorem Timers.Settled.run (world : TimerWorld) (calls : List TimerCall) :
    Timers.Settled (Timers.run world calls) := by
  have each : ∀ timers, Timers.Settled timers → Timers.Settled (calls.foldl (Timers.call world) timers) := by
    induction calls with
    | nil => exact fun _ settled => settled
    | cons call calls ih =>
        intro timers settled
        refine ih _ ?_
        cases call with
        | op op => exact settled.perform op
        | handleExpired now => exact settled.handleExpired world now
  exact each {} ⟨TimerQueue.initial_holds, fun _ => rfl, by simp, by simp, by simp, by simp⟩

/-- Whatever was added, cancelled and run before, the two indexes agree and hold the timers that
are due, each call of `handleExpired` plays the batch that is due, and no timer runs again
that was added without an interval. -/
theorem timer_queue_semantics (world : TimerWorld) (calls : List TimerCall) :
    let timers := Timers.run world calls
    timers.queue.Consistent ∧
      (∀ id expiration, (toLex (expiration, id), id) ∈ timers.queue.timers.entries ↔
        ∃ interval, standing id timers.trace = .due expiration interval) ∧
      (∀ now, ∃ batch events, Expiry world now timers batch events) ∧
      ∀ id expiration interval, .added id expiration interval ∈ timers.trace → ¬0 < interval →
        timers.trace.count (.run id) ≤ 1 := by
  have settled := Timers.Settled.run world calls
  refine ⟨settled.holds.consistent, fun id expiration => ?_, fun now => ?_,
    fun id expiration interval added single => ?_⟩
  · rw [settled.told]
    exact settled.holds.listed_iff
  · cases something : (Timers.run world calls).queue.nothingDue now with
    | true =>
        obtain ⟨batch, events, expiry, _⟩ :=
          handleExpired_idle world now settled.holds settled.told something
        exact ⟨batch, events, expiry⟩
    | false =>
        obtain ⟨batch, events, _, expiry, _⟩ :=
          handleExpired_expiry world now settled.holds settled.told something
        exact ⟨batch, events, expiry⟩
  · refine settled.once id ?_
    rw [Timer.repeats, (settled.recorded id expiration interval added).2]
    exact decide_eq_false single

/-- Timer 1 cancels timer 2 and adds another that is due as well. -/
def rescheduling : TimerWorld where
  callback ptr _ := if ptr = 1 then [.cancel 2, .addTimer 0 0] else []
  now _ := 10

def rescheduled : Timers :=
  .run rescheduling [.op (.addTimer 1 0), .op (.addTimer 2 0), .op (.addTimer 3 5),
    .handleExpired 10]

theorem rescheduled_trace : rescheduled.trace = [.added 1 1 0, .added 2 2 0, .added 3 3 5, .run 1,
    .cancelled 2, .added 4 0 0, .run 3, .finished 10] := by
  decide

/-- The timer that was added waits for the next batch, and the one that repeats is put back. -/
theorem timer_queue_semantics_rescheduled :
    (toLex (0, 4), 4) ∈ rescheduled.queue.timers.entries ∧
      (toLex (15, 3), 3) ∈ rescheduled.queue.timers.entries ∧
      ∀ expiration, (toLex (expiration, 2), 2) ∉ rescheduled.queue.timers.entries := by
  obtain ⟨_, entries, _⟩ := timer_queue_semantics rescheduling [.op (.addTimer 1 0),
    .op (.addTimer 2 0), .op (.addTimer 3 5), .handleExpired 10]
  refine ⟨(entries 4 0).mpr ⟨0, ?_⟩, (entries 3 15).mpr ⟨5, ?_⟩, fun expiration listed => ?_⟩
  · exact (congrArg (standing 4) rescheduled_trace).trans (by decide)
  · exact (congrArg (standing 3) rescheduled_trace).trans (by decide)
  · obtain ⟨interval, due⟩ := (entries 2 expiration).mp listed
    cases due.symm.trans (congrArg (standing 2) rescheduled_trace)

end MiniTrantor.Net
