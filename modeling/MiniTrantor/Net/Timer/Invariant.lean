import MiniTrantor.Net.Timer.TimerQueue

/-!
# Representation invariant of the timer queue

Between calls both indexes hold the same timers. While the callbacks of a batch
run, the timers of the batch are missing from the ordered index, and are in the
other exactly if they have not been cancelled.
-/

set_option autoImplicit false

namespace MiniTrantor.Net.TimerQueue

/-- Both indexes, given the timers of the batch under way. -/
structure Holds (batch : List TimerPtr) (queue : TimerQueue) : Prop where
  sequence : ∀ ptr < queue.nextSequence, (queue.objects ptr).sequence = ptr
  queued : ∀ key ptr, (key, ptr) ∈ queue.timers.entries →
    ptr < queue.nextSequence ∧ key = (queue.objects ptr).key ∧
      (queue.objects ptr).inQueue = true ∧ (queue.objects ptr).canceled = false ∧
      queue.timersById ptr = some ptr
  known : ∀ id ptr, queue.timersById id = some ptr →
    id = ptr ∧ (((queue.objects ptr).key, ptr) ∈ queue.timers.entries ∨ ptr ∈ batch)
  batched : ∀ ptr ∈ batch, ptr < queue.nextSequence ∧ (queue.objects ptr).inQueue = false ∧
    (((queue.objects ptr).canceled = true ∧ queue.timersById ptr = none) ∨
      ((queue.objects ptr).canceled = false ∧ queue.timersById ptr = some ptr))
  distinct : batch.Nodup

/-- What a reader of both indexes sees between calls. -/
structure Consistent (queue : TimerQueue) : Prop where
  same : ∀ ptr, (∃ key, (key, ptr) ∈ queue.timers.entries) ↔ ∃ id, queue.timersById id = some ptr
  keyed : ∀ key ptr, (key, ptr) ∈ queue.timers.entries →
    key = toLex ((queue.objects ptr).expiration, (queue.objects ptr).sequence) ∧
      (queue.objects ptr).inQueue = true ∧ (queue.objects ptr).canceled = false
  named : ∀ id ptr, queue.timersById id = some ptr → (queue.objects ptr).sequence = id

theorem initial_holds : Holds [] {} where
  sequence := by
    intro ptr allocated
    change ptr < 1 at allocated
    change 0 = ptr
    omega
  queued := by
    intro key ptr member
    cases member
  known := by
    intro id ptr found
    cases found
  batched := by
    intro ptr member
    cases member
  distinct := List.nodup_nil

namespace Holds

variable {batch : List TimerPtr} {queue : TimerQueue} {ptr : TimerPtr}

theorem allocated (holds : Holds batch queue) {id : Nat} (found : queue.timersById id = some ptr) :
    ptr < queue.nextSequence := by
  obtain ⟨_, queued | batched⟩ := holds.known id ptr found
  · exact (holds.queued _ _ queued).1
  · exact (holds.batched ptr batched).1

theorem consistent (holds : Holds [] queue) : Consistent queue where
  same := by
    intro ptr
    constructor
    · intro listed
      obtain ⟨key, member⟩ := listed
      exact ⟨ptr, (holds.queued key ptr member).2.2.2.2⟩
    · intro listed
      obtain ⟨id, found⟩ := listed
      obtain ⟨_, queued | batched⟩ := holds.known id ptr found
      · exact ⟨_, queued⟩
      · cases batched
  keyed := by
    intro key ptr member
    obtain ⟨_, keyed, inQueue, live, _⟩ := holds.queued key ptr member
    exact ⟨keyed, inQueue, live⟩
  named := by
    intro id ptr found
    rw [holds.sequence ptr (holds.allocated found)]
    exact (holds.known id ptr found).1.symm

/-- A timer in the ordered index is not in the batch. -/
theorem queued_unbatched (holds : Holds batch queue) {key : TimerKey}
    (member : (key, ptr) ∈ queue.timers.entries) : ptr ∉ batch := by
  intro batched
  have inQueue := (holds.queued key ptr member).2.2.1
  rw [(holds.batched ptr batched).2.1] at inQueue
  cases inQueue

/-- Timers outside both indexes and the batch may change, but for their names. -/
theorem modify (holds : Holds batch queue) (unlisted : queue.timersById ptr = none)
    (unbatched : ptr ∉ batch) {change : Timer → Timer}
    (named : (change (queue.objects ptr)).sequence = (queue.objects ptr).sequence) :
    Holds batch (queue.modify ptr change) where
  sequence := by
    intro other allocated
    refine Eq.trans ?_ (holds.sequence other allocated)
    by_cases same : other = ptr
    · subst same
      simp [TimerQueue.modify, named]
    · simp [TimerQueue.modify, same]
  queued := by
    intro key other member
    have kept := holds.queued key other member
    have different : other ≠ ptr := by
      intro same
      rw [same, unlisted] at kept
      cases kept.2.2.2.2
    simpa [TimerQueue.modify, different] using kept
  known := by
    intro id other found
    have different : other ≠ ptr := by
      intro same
      have id := (holds.known id other found).1
      rw [id, same] at found
      cases unlisted.symm.trans found
    simpa [TimerQueue.modify, different] using holds.known id other found
  batched := by
    intro other member
    have different : other ≠ ptr := fun same => unbatched (same ▸ member)
    simpa [TimerQueue.modify, different] using holds.batched other member
  distinct := holds.distinct

theorem allocate (holds : Holds batch queue) (expiration interval : Int) :
    Holds batch (queue.allocate expiration interval) := by
  have old : ∀ ptr < queue.nextSequence,
      (queue.allocate expiration interval).objects ptr = queue.objects ptr := by
    intro ptr allocated
    simp [TimerQueue.allocate, Nat.ne_of_lt allocated]
  refine ⟨?_, ?_, ?_, ?_, holds.distinct⟩
  · intro ptr allocated
    by_cases new : ptr = queue.nextSequence
    · simp [TimerQueue.allocate, new]
    · have before : ptr < queue.nextSequence := by
        change ptr < queue.nextSequence + 1 at allocated
        omega
      rw [old ptr before]
      exact holds.sequence ptr before
  · intro key ptr member
    have kept := holds.queued key ptr member
    rw [old ptr kept.1]
    exact ⟨Nat.lt_succ_of_lt kept.1, kept.2⟩
  · intro id ptr found
    rw [old ptr (holds.allocated found)]
    exact holds.known id ptr found
  · intro ptr member
    have kept := holds.batched ptr member
    rw [old ptr kept.1]
    exact ⟨Nat.lt_succ_of_lt kept.1, kept.2⟩

/-- An allocated timer that is nowhere enters both indexes. -/
theorem insert (holds : Holds batch queue) (allocated : ptr < queue.nextSequence)
    (unlisted : queue.timersById ptr = none) (unbatched : ptr ∉ batch) :
    Holds batch (queue.insert ptr) := by
  have named : (queue.objects ptr).sequence = ptr := holds.sequence ptr allocated
  have objects : (queue.insert ptr).objects =
      Function.update queue.objects ptr (queue.objects ptr).enqueue := rfl
  have own : (queue.insert ptr).objects ptr = (queue.objects ptr).enqueue := by rw [objects, Function.update_self]
  have others : ∀ other, other ≠ ptr → (queue.insert ptr).objects other = queue.objects other := by
    intro other different
    rw [objects, Function.update_of_ne different]
  have byId : (queue.insert ptr).timersById = Function.update queue.timersById ptr (some ptr) := by
    simp [TimerQueue.insert, TimerQueue.modify, Timer.enqueue, named]
  have entries : ∀ entry, entry ∈ (queue.insert ptr).timers.entries ↔
      entry = ((queue.objects ptr).key, ptr) ∨ entry ∈ queue.timers.entries := by
    intro entry
    have unused : ∀ entry ∈ queue.timers.entries, entry.1 ≠ (queue.objects ptr).key := by
      intro entry member same
      obtain ⟨before, keyed, _, _, found⟩ := holds.queued entry.1 entry.2 member
      rw [keyed] at same
      have sequences : (queue.objects entry.2).sequence = (queue.objects ptr).sequence :=
        congrArg (fun key => (ofLex key).2) same
      rw [named, holds.sequence _ before] at sequences
      rw [sequences, unlisted] at found
      cases found
    simpa [TimerQueue.insert, TimerQueue.modify, Timer.enqueue, Timer.key] using OrderedMap.mem_emplace unused
  refine ⟨?_, ?_, ?_, ?_, holds.distinct⟩
  · exact (@Holds.modify _ _ _ holds unlisted unbatched Timer.enqueue rfl).sequence
  · intro key other member
    rcases (entries _).mp member with new | old
    · cases new
      rw [own, byId, Function.update_self]
      exact ⟨allocated, rfl, rfl, rfl, rfl⟩
    · have kept := holds.queued key other old
      have different : other ≠ ptr := by
        intro same
        rw [same, unlisted] at kept
        cases kept.2.2.2.2
      rw [others other different, byId, Function.update_of_ne different]
      exact kept
  · intro id other found
    rw [byId] at found
    by_cases same : id = ptr
    · subst same
      rw [Function.update_self] at found
      cases found
      exact ⟨rfl, .inl ((entries _).mpr (.inl (by rw [own]; rfl)))⟩
    · rw [Function.update_of_ne same] at found
      obtain ⟨rfl, kept⟩ := holds.known id other found
      rw [others _ same]
      exact ⟨rfl, kept.imp_left fun queued => (entries _).mpr (.inr queued)⟩
  · intro other member
    have different : other ≠ ptr := fun same => unbatched (same ▸ member)
    rw [others other different, byId, Function.update_of_ne different]
    exact holds.batched other member

theorem unlisted_next (holds : Holds batch queue) : queue.timersById queue.nextSequence = none := by
  cases found : queue.timersById queue.nextSequence with
  | none => rfl
  | some other =>
      have allocated := holds.allocated found
      rw [← (holds.known _ _ found).1] at allocated
      exact absurd allocated (Nat.lt_irrefl _)

theorem unbatched_next (holds : Holds batch queue) : queue.nextSequence ∉ batch := by
  intro member
  exact absurd (holds.batched _ member).1 (Nat.lt_irrefl _)

theorem addTimer (holds : Holds batch queue) (expiration interval : Int) :
    Holds batch (queue.addTimer expiration interval) := by
  exact (holds.allocate expiration interval).insert (Nat.lt_succ_self _) holds.unlisted_next
    holds.unbatched_next

/-- Cancelling a known timer flags it and takes it out of both indexes. -/
theorem cancel_known (holds : Holds batch queue) (found : queue.timersById ptr = some ptr) :
    (queue.cancelInLoop ptr).nextSequence = queue.nextSequence ∧
    (queue.cancelInLoop ptr).objects = Function.update queue.objects ptr
      { queue.objects ptr with canceled := true, inQueue := false } ∧
    (queue.cancelInLoop ptr).timersById = Function.update queue.timersById ptr none ∧
    ∀ entry, entry ∈ (queue.cancelInLoop ptr).timers.entries ↔
      entry ∈ queue.timers.entries ∧ entry.2 ≠ ptr := by
  simp only [TimerQueue.cancelInLoop, found]
  obtain ⟨_, place⟩ := holds.known ptr ptr found
  have unkeyed : ∀ key, (key, ptr) ∈ queue.timers.entries → key = (queue.objects ptr).key :=
    fun key member => (holds.queued key ptr member).2.1
  cases listed : (queue.objects ptr).inQueue with
  | true =>
      have queued := place.resolve_right fun batched => by
        rw [(holds.batched ptr batched).2.1] at listed
        cases listed
      refine ⟨rfl, by simp [TimerQueue.modify], rfl, fun entry => ?_⟩
      simp only [TimerQueue.modify, ↓reduceIte, OrderedMap.mem_erase]
      refine and_congr_right fun member => not_congr ⟨fun keyed => ?_, fun own => ?_⟩
      · exact congrArg Prod.snd (OrderedMap.entry_unique member queued keyed)
      · exact unkeyed entry.1 (own ▸ member)
  | false =>
      refine ⟨rfl, ?_, rfl, fun entry => ⟨fun member => ⟨member, ?_⟩, fun member => member.1⟩⟩
      · simp only [TimerQueue.modify, Bool.false_eq_true, ↓reduceIte]
        congr 1
        rw [← listed]
      · intro own
        have member : (entry.1, ptr) ∈ queue.timers.entries := own ▸ member
        rw [(holds.queued entry.1 ptr member).2.2.1] at listed
        cases listed

theorem cancelInLoop (holds : Holds batch queue) (id : Nat) :
    Holds batch (queue.cancelInLoop id) := by
  cases lookup : queue.timersById id with
  | none =>
      rw [TimerQueue.cancelInLoop, lookup]
      exact holds
  | some ptr =>
      obtain ⟨rfl, _⟩ := holds.known id ptr lookup
      obtain ⟨next, objects, byId, entries⟩ := holds.cancel_known lookup
      refine ⟨?_, ?_, ?_, ?_, holds.distinct⟩
      · intro other allocated
        rw [next] at allocated
        rw [objects]
        by_cases same : other = id
        · rw [same, Function.update_self]
          exact holds.sequence id (same ▸ allocated)
        · rw [Function.update_of_ne same]
          exact holds.sequence other allocated
      · intro key other member
        obtain ⟨old, different⟩ := (entries _).mp member
        rw [next, objects, byId, Function.update_of_ne different, Function.update_of_ne different]
        exact holds.queued key other old
      · intro name other found
        rw [byId] at found
        by_cases same : name = id
        · rw [same, Function.update_self] at found
          cases found
        · rw [Function.update_of_ne same] at found
          obtain ⟨rfl, place⟩ := holds.known name other found
          rw [objects, Function.update_of_ne same, entries]
          exact ⟨rfl, place.imp_left fun queued => ⟨queued, same⟩⟩
      · intro other member
        rw [next, objects, byId]
        have kept := holds.batched other member
        by_cases same : other = id
        · subst same
          rw [Function.update_self, Function.update_self]
          exact ⟨kept.1, rfl, .inl ⟨rfl, rfl⟩⟩
        · rw [Function.update_of_ne same, Function.update_of_ne same]
          exact kept

/-- Cancelling touches no other timer and no interval. -/
theorem cancelInLoop_objects (holds : Holds batch queue) (id : Nat) :
    (queue.cancelInLoop id).nextSequence = queue.nextSequence ∧
      ((queue.cancelInLoop id).objects id).interval = (queue.objects id).interval ∧
      ∀ other, other ≠ id → (queue.cancelInLoop id).objects other = queue.objects other := by
  cases lookup : queue.timersById id with
  | none =>
      rw [TimerQueue.cancelInLoop, lookup]
      exact ⟨rfl, rfl, fun _ _ => rfl⟩
  | some ptr =>
      obtain ⟨rfl, _⟩ := holds.known id ptr lookup
      obtain ⟨next, objects, _, _⟩ := holds.cancel_known lookup
      rw [objects, Function.update_self]
      exact ⟨next, rfl, fun other different => Function.update_of_ne different ..⟩

/-- A timer of the batch leaves it and the index by id. -/
theorem leave (holds : Holds (ptr :: batch) queue) :
    Holds batch { queue with timersById := Function.update queue.timersById ptr none } := by
  obtain ⟨unbatched, distinct⟩ := List.nodup_cons.mp holds.distinct
  refine ⟨holds.sequence, ?_, ?_, ?_, distinct⟩
  · intro key other member
    have kept := holds.queued key other member
    have different : other ≠ ptr := by
      intro same
      exact holds.queued_unbatched member (same ▸ List.mem_cons_self)
    simpa [different] using kept
  · intro id other found
    by_cases same : id = ptr
    · simp [same] at found
    · simp only [Function.update_of_ne same] at found
      obtain ⟨rfl, queued | batched⟩ := holds.known id other found
      · exact ⟨rfl, .inl queued⟩
      · exact ⟨rfl, .inr ((List.mem_cons.mp batched).resolve_left same)⟩
  · intro other member
    have different : other ≠ ptr := fun same => unbatched (same ▸ member)
    simpa [different] using holds.batched other (List.mem_cons_of_mem _ member)

theorem resetTimer (holds : Holds (ptr :: batch) queue) (now : Int) :
    Holds batch (queue.resetTimer now ptr) := by
  have left := holds.leave
  have allocated := (holds.batched ptr List.mem_cons_self).1
  have unbatched := (List.nodup_cons.mp holds.distinct).1
  rw [TimerQueue.resetTimer, holds.sequence ptr allocated]
  split
  case isFalse => exact left
  case isTrue =>
    have moved := @Holds.modify _ _ ptr left (Function.update_self ..) unbatched
      (fun timer => { timer with expiration := addTicks now timer.interval }) rfl
    have entered := moved.insert allocated (Function.update_self ..) unbatched
    -- the entry that `leave` erases is the one that `insert` writes
    have same : ({ queue with timersById := Function.update queue.timersById ptr none }.modify ptr
          fun timer => { timer with expiration := addTicks now timer.interval }).insert ptr =
        (queue.modify ptr fun timer =>
          { timer with expiration := addTicks now timer.interval }).insert ptr := by
      simp [TimerQueue.insert, TimerQueue.modify, Timer.enqueue, holds.sequence ptr allocated]
    rw [← same]
    exact entered

theorem reset (holds : Holds batch queue) (now : Int) : Holds [] (queue.reset batch now) := by
  induction batch generalizing queue with
  | nil => exact holds
  | cons ptr batch ih => exact ih (holds.resetTimer now)

end Holds

private theorem expired_down {now : Int} (first second : TimerKey) (before : first < second)
    (expired : decide ((ofLex second).1 ≤ now) = true) : decide ((ofLex first).1 ≤ now) = true := by
  rw [decide_eq_true_eq] at expired ⊢
  rcases Prod.Lex.lt_iff.mp before with earlier | ⟨same, _⟩
  · exact earlier.le.trans expired
  · exact same.le.trans expired

/-- The timers whose expiration has passed, in the order of their keys. -/
def due (now : Int) (queue : TimerQueue) : List TimerPtr :=
  (queue.timers.entries.filter fun entry => decide ((ofLex entry.1).1 ≤ now)).map Prod.snd

theorem getExpired_eq (now : Int) (queue : TimerQueue) :
    (queue.getExpired now).1 = queue.due now ∧
      (queue.getExpired now).2.timers.entries =
        queue.timers.entries.filter fun entry => !decide ((ofLex entry.1).1 ≤ now) := by
  obtain ⟨front, back⟩ := @OrderedMap.splitUpTo_eq _ _ _ queue.timers
    (fun key => decide ((ofLex key).1 ≤ now)) expired_down
  exact ⟨by rw [due, ← front]; rfl, back⟩

namespace Holds

variable {batch : List TimerPtr} {queue : TimerQueue} {ptr : TimerPtr}

/-- The due timers are the ones in the queue whose expiration is not after `now`. -/
theorem mem_due (holds : Holds batch queue) {now : Int} :
    ptr ∈ queue.due now ↔ (∃ key, (key, ptr) ∈ queue.timers.entries) ∧
      (queue.objects ptr).expiration ≤ now := by
  simp only [due, List.mem_map, List.mem_filter, decide_eq_true_eq]
  constructor
  · intro listed
    obtain ⟨entry, ⟨member, passed⟩, rfl⟩ := listed
    rw [(holds.queued entry.1 entry.2 member).2.1] at passed
    exact ⟨⟨entry.1, member⟩, passed⟩
  · intro listed
    obtain ⟨⟨key, member⟩, passed⟩ := listed
    refine ⟨(key, ptr), ⟨member, ?_⟩, rfl⟩
    rw [(holds.queued key ptr member).2.1]
    exact passed

/-- Timers come due in the order of expiration and sequence. -/
theorem due_sorted (holds : Holds batch queue) (now : Int) :
    (queue.due now).Pairwise fun first second =>
      (queue.objects first).key < (queue.objects second).key := by
  rw [due, List.pairwise_map]
  refine (queue.timers.sorted.filter _).imp_of_mem ?_
  intro first second early late before
  have firstKey := (holds.queued first.1 first.2 (List.mem_of_mem_filter early)).2.1
  have secondKey := (holds.queued second.1 second.2 (List.mem_of_mem_filter late)).2.1
  rwa [← firstKey, ← secondKey]

theorem due_nodup (holds : Holds batch queue) (now : Int) : (queue.due now).Nodup :=
  (holds.due_sorted now).imp fun before same => by
    rw [same] at before
    exact absurd before (lt_irrefl _)

/-- The test at the start of `handleExpired` is exact. -/
theorem due_of_nothingDue (holds : Holds batch queue) {now : Int}
    (nothing : queue.nothingDue now = true) : queue.due now = [] := by
  rw [due]
  cases listed : queue.timers.entries with
  | nil => rfl
  | cons entry rest =>
      rw [nothingDue, listed, decide_eq_true_eq] at nothing
      have member : (entry.1, entry.2) ∈ queue.timers.entries := by simp [listed]
      have keyed := (holds.queued entry.1 entry.2 member).2.1
      have late : ¬decide ((ofLex entry.1).1 ≤ now) = true := by
        rw [decide_eq_true_eq, keyed]
        exact not_le.mpr nothing
      have sorted := queue.timers.sorted
      rw [listed, List.pairwise_cons] at sorted
      rw [List.map_eq_nil_iff, List.filter_eq_nil_iff]
      intro other found
      rcases List.mem_cons.mp found with same | later
      · exact same ▸ late
      · exact fun passed => late (expired_down _ _ (sorted.1 other later) passed)

theorem getExpired (holds : Holds [] queue) (now : Int) :
    Holds (queue.due now) (queue.getExpired now).2 := by
  obtain ⟨expired, entries⟩ := getExpired_eq now queue
  have objects : (queue.getExpired now).2.objects = fun ptr =>
      if ptr ∈ queue.due now then { queue.objects ptr with inQueue := false }
      else queue.objects ptr := by
    rw [← expired]
    rfl
  have undue : ∀ key ptr, (key, ptr) ∈ (queue.getExpired now).2.timers.entries →
      (key, ptr) ∈ queue.timers.entries ∧ ptr ∉ queue.due now := by
    intro key ptr member
    rw [entries, List.mem_filter] at member
    refine ⟨member.1, fun due => ?_⟩
    have passed := (holds.mem_due.mp due).2
    have kept := member.2
    rw [(holds.queued key ptr member.1).2.1] at kept
    rw [Bool.not_eq_true'] at kept
    exact of_decide_eq_false kept passed
  refine ⟨?_, ?_, ?_, ?_, holds.due_nodup now⟩
  · intro ptr allocated
    rw [objects]
    simp only
    split <;> exact holds.sequence ptr allocated
  · intro key ptr member
    obtain ⟨old, left⟩ := undue key ptr member
    rw [objects]
    simp only [left, ↓reduceIte]
    exact holds.queued key ptr old
  · intro id ptr found
    obtain ⟨rfl, queued | batched⟩ := holds.known id ptr found
    · refine ⟨rfl, ?_⟩
      by_cases passed : id ∈ queue.due now
      · exact .inr passed
      · left
        rw [objects, entries, List.mem_filter]
        simp only [passed, ↓reduceIte]
        refine ⟨queued, ?_⟩
        by_contra late
        rw [Bool.not_eq_true', Bool.not_eq_false] at late
        exact passed (holds.mem_due.mpr ⟨⟨_, queued⟩, of_decide_eq_true late⟩)
    · cases batched
  · intro ptr passed
    obtain ⟨⟨key, member⟩, _⟩ := holds.mem_due.mp passed
    obtain ⟨allocated, _, _, live, found⟩ := holds.queued key ptr member
    rw [objects]
    simp only [passed, ↓reduceIte]
    exact ⟨allocated, trivial, .inr ⟨live, found⟩⟩

end Holds

/-! ## Timers that are gone -/

/-- A timer that was added and is no longer known by its id. -/
def Dead (id : Nat) (queue : TimerQueue) : Prop :=
  id < queue.nextSequence ∧ queue.timersById id = none

namespace Dead

variable {batch : List TimerPtr} {queue : TimerQueue} {id : Nat} {ptr : TimerPtr}

theorem not_due (dead : Dead id queue) (holds : Holds batch queue) (now : Int) :
    id ∉ queue.due now := by
  intro due
  obtain ⟨⟨key, member⟩, _⟩ := holds.mem_due.mp due
  cases dead.2.symm.trans (holds.queued key id member).2.2.2.2

theorem canceled (dead : Dead id queue) (holds : Holds batch queue) (batched : id ∈ batch) :
    (queue.objects id).canceled = true := by
  rcases (holds.batched id batched).2.2 with cancelled | live
  · exact cancelled.1
  · cases dead.2.symm.trans live.2

theorem insert (dead : Dead id queue) (named : (queue.objects ptr).sequence = ptr)
    (different : id ≠ ptr) : Dead id (queue.insert ptr) := by
  refine ⟨dead.1, ?_⟩
  simp only [TimerQueue.insert, TimerQueue.modify, Function.update_self, Timer.enqueue, named,
    Function.update_of_ne different]
  exact dead.2

theorem allocate (dead : Dead id queue) (expiration interval : Int) :
    Dead id (queue.allocate expiration interval) :=
  ⟨Nat.lt_succ_of_lt dead.1, dead.2⟩

theorem addTimer (dead : Dead id queue) (expiration interval : Int) :
    Dead id (queue.addTimer expiration interval) := by
  refine (dead.allocate expiration interval).insert ?_ (Nat.ne_of_lt dead.1)
  simp [TimerQueue.allocate]

theorem cancelInLoop (dead : Dead id queue) (holds : Holds batch queue) (other : Nat) :
    Dead id (queue.cancelInLoop other) := by
  cases lookup : queue.timersById other with
  | none =>
      rw [TimerQueue.cancelInLoop, lookup]
      exact dead
  | some ptr =>
      obtain ⟨rfl, _⟩ := holds.known other ptr lookup
      obtain ⟨next, _, byId, _⟩ := holds.cancel_known lookup
      rw [Dead, next, byId]
      refine ⟨dead.1, ?_⟩
      by_cases same : id = other
      · rw [same, Function.update_self]
      · rw [Function.update_of_ne same]
        exact dead.2

/-- Cancelling a timer that was added leaves it dead. -/
theorem of_cancelInLoop (holds : Holds batch queue) (allocated : id < queue.nextSequence) :
    Dead id (queue.cancelInLoop id) := by
  cases lookup : queue.timersById id with
  | none =>
      rw [TimerQueue.cancelInLoop, lookup]
      exact ⟨allocated, lookup⟩
  | some ptr =>
      obtain ⟨rfl, _⟩ := holds.known id ptr lookup
      obtain ⟨next, _, byId, _⟩ := holds.cancel_known lookup
      rw [Dead, next, byId, Function.update_self]
      exact ⟨allocated, rfl⟩

theorem resetTimer (dead : Dead id queue) (holds : Holds (ptr :: batch) queue) (now : Int) :
    Dead id (queue.resetTimer now ptr) := by
  have allocated := (holds.batched ptr List.mem_cons_self).1
  rw [TimerQueue.resetTimer, holds.sequence ptr allocated]
  split
  case isFalse =>
    refine ⟨dead.1, ?_⟩
    by_cases same : id = ptr
    · simp [same]
    · simp only [Function.update_of_ne same]
      exact dead.2
  case isTrue again =>
    have different : id ≠ ptr := by
      intro same
      have canceled := dead.canceled holds (same ▸ List.mem_cons_self)
      simp [← same, canceled] at again
    refine insert ?_ ?_ different
    · exact dead
    · simp [TimerQueue.modify, holds.sequence ptr allocated]

theorem reset (dead : Dead id queue) (holds : Holds batch queue) (now : Int) :
    Dead id (queue.reset batch now) := by
  induction batch generalizing queue with
  | nil => exact dead
  | cons ptr batch ih => exact ih (dead.resetTimer holds now) (holds.resetTimer now)

end Dead

/-! ## What is left of a batch -/

namespace Holds

variable {batch : List TimerPtr} {queue : TimerQueue} {ptr other : TimerPtr}

theorem resetTimer_other (holds : Holds (ptr :: batch) queue) (now : Int) (different : other ≠ ptr) :
    (queue.resetTimer now ptr).timersById other = queue.timersById other ∧
      (queue.resetTimer now ptr).objects other = queue.objects other := by
  have named := holds.sequence ptr (holds.batched ptr List.mem_cons_self).1
  rw [TimerQueue.resetTimer]
  split <;> simp [TimerQueue.insert, TimerQueue.modify, Timer.enqueue, named, different]

theorem reset_other (holds : Holds batch queue) (now : Int) (unbatched : other ∉ batch) :
    (queue.reset batch now).timersById other = queue.timersById other ∧
      (queue.reset batch now).objects other = queue.objects other := by
  induction batch generalizing queue with
  | nil => exact ⟨rfl, rfl⟩
  | cons ptr batch ih =>
      have different : other ≠ ptr := fun same => unbatched (same ▸ List.mem_cons_self)
      have later := ih (holds.resetTimer now) fun member => unbatched (List.mem_cons_of_mem _ member)
      have first := holds.resetTimer_other now different
      exact ⟨later.1.trans first.1, later.2.trans first.2⟩

theorem resetTimer_interval (now : Int) (ptr other : TimerPtr) (queue : TimerQueue) :
    ((queue.resetTimer now ptr).objects other).interval = (queue.objects other).interval ∧
      (queue.resetTimer now ptr).nextSequence = queue.nextSequence := by
  rw [TimerQueue.resetTimer]
  split
  · by_cases same : other = ptr
    · subst same
      simp [TimerQueue.insert, TimerQueue.modify, Timer.enqueue]
    · simp [TimerQueue.insert, TimerQueue.modify, same]
  · exact ⟨rfl, rfl⟩

theorem reset_interval (batch : List TimerPtr) (now : Int) (other : TimerPtr) (queue : TimerQueue) :
    ((queue.reset batch now).objects other).interval = (queue.objects other).interval ∧
      (queue.reset batch now).nextSequence = queue.nextSequence := by
  induction batch generalizing queue with
  | nil => exact ⟨rfl, rfl⟩
  | cons ptr batch ih =>
      have first := resetTimer_interval now ptr other queue
      have later := ih (queue.resetTimer now ptr)
      exact ⟨later.1.trans first.1, later.2.trans first.2⟩

/-- A timer of the batch is put back if it repeats and was not cancelled. -/
theorem resetTimer_self (holds : Holds (ptr :: batch) queue) (now : Int) :
    (queue.resetTimer now ptr).timersById ptr =
        (if (queue.objects ptr).repeats = true ∧ (queue.objects ptr).canceled = false then some ptr
          else none) ∧
      ((queue.objects ptr).repeats = true ∧ (queue.objects ptr).canceled = false →
        ((queue.resetTimer now ptr).objects ptr).expiration =
          addTicks now (queue.objects ptr).interval) := by
  obtain ⟨allocated, _, place⟩ := holds.batched ptr List.mem_cons_self
  have named := holds.sequence ptr allocated
  rw [TimerQueue.resetTimer, named]
  rcases place with ⟨canceled, _⟩ | ⟨live, found⟩
  · simp [canceled]
  · cases again : (queue.objects ptr).repeats with
    | false => simp
    | true =>
        simp [live, found, TimerQueue.insert, TimerQueue.modify, Timer.enqueue, named]

/-- The timers that `reset` puts back: those that repeat and were not cancelled. -/
theorem reset_known (holds : Holds batch queue) (now : Int) (batched : ptr ∈ batch) :
    (queue.reset batch now).timersById ptr =
        (if (queue.objects ptr).repeats = true ∧ (queue.objects ptr).canceled = false then some ptr
          else none) ∧
      ((queue.objects ptr).repeats = true ∧ (queue.objects ptr).canceled = false →
        ((queue.reset batch now).objects ptr).expiration =
          addTicks now (queue.objects ptr).interval) := by
  induction batch generalizing queue with
  | nil => cases batched
  | cons first batch ih =>
      have reduced := holds.resetTimer now
      have distinct := List.nodup_cons.mp holds.distinct
      by_cases same : ptr = first
      · subst same
        have later := reduced.reset_other now distinct.1
        have own := holds.resetTimer_self now
        rw [TimerQueue.reset, List.foldl_cons]
        rw [TimerQueue.reset] at later
        rw [later.1, later.2]
        exact own
      · have kept := (holds.resetTimer_other now same).2
        have later := ih reduced ((List.mem_cons.mp batched).resolve_left same)
        rw [kept] at later
        exact later

end Holds

end MiniTrantor.Net.TimerQueue
