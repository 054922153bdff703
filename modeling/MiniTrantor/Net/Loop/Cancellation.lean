import MiniTrantor.Trace
import MiniTrantor.Net.Loop.Moves
import MiniTrantor.Net.Timer.Invariant

/-!
# Cancellation across threads

On the owner timers are added and cancelled at once; from another thread a
functor does it later. Functors keep the order of the calls that queued them, so
a queued cancellation finds its timer. A cancellation on the owner does not wait
for the functor that adds the timer.
-/

set_option autoImplicit false

namespace MiniTrantor.Net.Reactor

/-- The body of the functor that a call has not finished posting. -/
def Call.task : Call → Task
  | .acquiring functor => functor.task
  | .pushing post | .testing post | .waking post | .finishing post => post.functor.task
  | .idle | .returning _ | .quitting => .user

/-- The same, as long as the functor is not in the queue. -/
def Call.unpushed : Call → Task
  | .acquiring functor => functor.task
  | .pushing post => post.functor.task
  | .idle | .testing _ | .waking _ | .finishing _ | .returning _ | .quitting => .user

/-- The batch of timers under way. -/
def Pc.timers : Pc → List TimerPtr
  | .callbacks _ _ all => all
  | _ => []

def Functor.adds? (functor : Functor) : Option TimerPtr :=
  match functor.task with
  | .addTimerInLoop timer => some timer
  | .user | .cancelInLoop _ => none

theorem Functor.adds?_eq_some {functor : Functor} {timer : TimerPtr} :
    functor.adds? = some timer ↔ functor.task = .addTimerInLoop timer := by
  rw [Functor.adds?]
  split <;> simp_all

theorem Call.task_of_unpushed {call : Call} {timer : TimerPtr}
    (unpushed : call.unpushed = .addTimerInLoop timer) : call.task = .addTimerInLoop timer := by
  cases call <;> first | exact unpushed | cases unpushed

namespace Loop

/-- A timer that `addTimer` has made and the owner has not seen. -/
def Unseen (loop : Loop) (timer : TimerPtr) : Prop :=
  loop.timerQueue.Dead timer ∧ timer ∉ loop.pc.timers

/-- A functor that adds the timer waits to be called. -/
def Adds (loop : Loop) (timer : TimerPtr) : Prop :=
  ∃ functor ∈ loop.queued, functor.task = .addTimerInLoop timer

theorem mem_filterMap_adds {loop : Loop} {timer : TimerPtr} :
    timer ∈ loop.queued.filterMap Functor.adds? ↔ loop.Adds timer := by
  rw [List.mem_filterMap, Adds]
  simp only [Functor.adds?_eq_some]

/-- Timers, and the functors and calls on their way that are about them. -/
structure Timed (loop : Loop) : Prop where
  holds : loop.timerQueue.Holds loop.pc.timers
  rest : ∀ inside rest expired, loop.pc = .callbacks inside rest expired → rest ⊆ expired
  queued : ∀ timer, loop.Adds timer → loop.Unseen timer
  once : (loop.queued.filterMap Functor.adds?).Nodup
  unpushed : ∀ thread timer, (loop.calls thread).unpushed = .addTimerInLoop timer →
    loop.Unseen timer ∧ ¬loop.Adds timer
  alone : ∀ first second timer, (loop.calls first).task = .addTimerInLoop timer →
    (loop.calls second).task = .addTimerInLoop timer → first = second
  allocated : ∀ thread timer, (loop.calls thread).task = .addTimerInLoop timer →
    timer < loop.timerQueue.nextSequence
  returned : ∀ id, .timerReturned id ∈ loop.trace → id < loop.timerQueue.nextSequence ∧
    ∀ thread, (loop.calls thread).task ≠ .addTimerInLoop id
  known : ∀ id, (∃ functor ∈ loop.queued, functor.task = .cancelInLoop id) ∨
    (∃ thread, (loop.calls thread).unpushed = .cancelInLoop id) → .timerReturned id ∈ loop.trace
  ordered : loop.queued.Pairwise fun first second =>
    ∀ id, first.task = .cancelInLoop id → second.task ≠ .addTimerInLoop id

variable {loop after : Loop} {thread : Thread}

/-- Calls that go on without a new timer, and events that are not about one. -/
theorem Timed.proceeds (timed : loop.Timed) (timers : after.timerQueue = loop.timerQueue)
    (pc : after.pc = loop.pc) (pending : after.pendingFunctors = loop.pendingFunctors)
    (tasks : ∀ thread timer, (after.calls thread).task = .addTimerInLoop timer →
      (loop.calls thread).task = .addTimerInLoop timer)
    (unpushed : ∀ thread timer, (after.calls thread).unpushed = .addTimerInLoop timer →
      (loop.calls thread).unpushed = .addTimerInLoop timer)
    (cancels : ∀ thread id, (after.calls thread).unpushed = .cancelInLoop id →
      (loop.calls thread).unpushed = .cancelInLoop id ∨ .timerReturned id ∈ loop.trace)
    (returned : ∀ id, .timerReturned id ∈ after.trace ↔ .timerReturned id ∈ loop.trace) :
    after.Timed := by
  have queue : after.queued = loop.queued := by rw [Loop.queued, Loop.queued, pc, pending]
  have adds : ∀ timer, after.Adds timer ↔ loop.Adds timer := by
    intro timer
    rw [Adds, Adds, queue]
  have unseen : ∀ timer, after.Unseen timer ↔ loop.Unseen timer := by
    intro timer
    rw [Unseen, Unseen, timers, pc]
  constructor
  case holds => rw [timers, pc]; exact timed.holds
  case rest => rw [pc]; exact timed.rest
  case queued =>
    intro timer
    rw [adds, unseen]
    exact timed.queued timer
  case once => rw [queue]; exact timed.once
  case unpushed =>
    intro thread timer call
    rw [adds, unseen]
    exact timed.unpushed thread timer (unpushed thread timer call)
  case alone =>
    intro first second timer one two
    exact timed.alone first second timer (tasks first timer one) (tasks second timer two)
  case allocated =>
    intro thread timer call
    rw [timers]
    exact timed.allocated thread timer (tasks thread timer call)
  case returned =>
    intro id member
    rw [timers]
    obtain ⟨old, others⟩ := timed.returned id ((returned id).mp member)
    exact ⟨old, fun thread call => others thread (tasks thread id call)⟩
  case known =>
    intro id found
    rw [returned]
    rw [queue] at found
    rcases found with queued | ⟨thread, call⟩
    · exact timed.known id (.inl queued)
    · rcases cancels thread id call with before | known
      · exact timed.known id (.inr ⟨thread, before⟩)
      · exact known
  case ordered => rw [queue]; exact timed.ordered

/-- One thread's call goes on, or starts to cancel a timer that it was given. -/
theorem Timed.setCall (timed : loop.Timed) {call : Call}
    (task : ∀ timer, call.task = .addTimerInLoop timer →
      (loop.calls thread).task = .addTimerInLoop timer)
    (unpushed : ∀ timer, call.unpushed = .addTimerInLoop timer →
      (loop.calls thread).unpushed = .addTimerInLoop timer)
    (cancels : ∀ id, call.unpushed = .cancelInLoop id →
      (loop.calls thread).unpushed = .cancelInLoop id ∨ .timerReturned id ∈ loop.trace) :
    (loop.setCall thread call).Timed := by
  have each : ∀ other, (other = thread ∧ (loop.setCall thread call).calls other = call) ∨
      (loop.setCall thread call).calls other = loop.calls other := by
    intro other
    by_cases same : other = thread
    · rw [same, setCall_self]
      exact .inl ⟨rfl, rfl⟩
    · exact .inr (setCall_other _ same _)
  refine timed.proceeds rfl rfl rfl ?_ ?_ ?_ fun _ => Iff.rfl
  · intro other timer
    rcases each other with ⟨rfl, now⟩ | before
    · rw [now]
      exact task timer
    · rw [before]
      exact id
  · intro other timer
    rcases each other with ⟨rfl, now⟩ | before
    · rw [now]
      exact unpushed timer
    · rw [before]
      exact id
  · intro other timer
    rcases each other with ⟨rfl, now⟩ | before
    · rw [now]
      exact cancels timer
    · rw [before]
      exact .inl

/-- A call that is about no timer, or no longer waits to be queued. -/
theorem Timed.calls (timed : loop.Timed) {call : Call}
    (task : call.task = .user ∨ call.task = (loop.calls thread).task)
    (unpushed : call.unpushed = .user ∨ call.unpushed = (loop.calls thread).unpushed) :
    (loop.setCall thread call).Timed := by
  refine timed.setCall ?_ ?_ ?_
  · rcases task with none | same
    · simp [none]
    · simp [same]
  · rcases unpushed with none | same
    · simp [none]
    · simp [same]
  · rcases unpushed with none | same
    · simp [none]
    · exact fun _ cancels => .inl (same ▸ cancels)

/-- Fields that the timers do not depend on, and events that are not about them. -/
theorem Timed.tells (timed : loop.Timed) (timers : after.timerQueue = loop.timerQueue)
    (pc : after.pc = loop.pc) (pending : after.pendingFunctors = loop.pendingFunctors)
    (calls : after.calls = loop.calls) {event : Event}
    (trace : after.trace = loop.trace ++ [event]) (silent : ∀ id, event ≠ .timerReturned id) :
    after.Timed := by
  refine timed.proceeds timers pc pending (by simp [calls]) (by simp [calls]) ?_ fun id => ?_
  · rw [calls]
    exact fun _ _ => .inl
  · rw [trace]
    simp [(silent id).symm]

theorem Timed.same (timed : loop.Timed) (timers : after.timerQueue = loop.timerQueue)
    (pc : after.pc = loop.pc) (pending : after.pendingFunctors = loop.pendingFunctors)
    (calls : after.calls = loop.calls) (trace : after.trace = loop.trace) : after.Timed := by
  refine timed.proceeds timers pc pending (by simp [calls]) (by simp [calls]) ?_ (by simp [trace])
  rw [calls]
  exact fun _ _ => .inl

/-- A functor enters the queue behind everything that depends on it. -/
theorem Timed.pushed (timed : loop.Timed) {post : Post} (call : loop.calls thread = .pushing post) :
    (({ loop with pendingFunctors := loop.pendingFunctors ++ [post.functor] }.setCall thread
      (.testing post)).emit (.pushed post.functor.id post.handle)).Timed := by
  let pushed := { loop with pendingFunctors := loop.pendingFunctors ++ [post.functor] }
  have queue : pushed.queued = loop.queued ++ [post.functor] := by simp [pushed, Loop.queued]
  have own : (loop.calls thread).unpushed = post.functor.task := by rw [call]; rfl
  have task : (loop.calls thread).task = post.functor.task := by rw [call]; rfl
  suffices moved : (pushed.setCall thread (.testing post)).Timed from
    moved.tells rfl rfl rfl rfl rfl (by simp)
  have adds : ∀ timer, pushed.Adds timer →
      loop.Adds timer ∨ post.functor.task = .addTimerInLoop timer := by
    intro timer added
    obtain ⟨functor, member, adds⟩ := added
    rw [queue, List.mem_append, List.mem_singleton] at member
    rcases member with before | rfl
    · exact .inl ⟨functor, before, adds⟩
    · exact .inr adds
  have others : ∀ other, other ≠ thread →
      (pushed.setCall thread (.testing post)).calls other = loop.calls other :=
    fun other different => setCall_other pushed different _
  have tasks : ∀ other, ((pushed.setCall thread (.testing post)).calls other).task =
      (loop.calls other).task := by
    intro other
    by_cases same : other = thread
    · rw [same, setCall_self, task]
      rfl
    · rw [others other same]
  have unpushed : ∀ other id, ((pushed.setCall thread (.testing post)).calls other).unpushed = id →
      id ≠ .user → other ≠ thread ∧ (loop.calls other).unpushed = id := by
    intro other id same busy
    by_cases mine : other = thread
    · rw [mine, setCall_self] at same
      exact absurd same.symm busy
    · rw [others other mine] at same
      exact ⟨mine, same⟩
  refine ⟨timed.holds, timed.rest, ?_, ?_, ?_, ?_, ?_, ?_, ?_, ?_⟩
  · intro timer added
    rcases adds timer added with before | new
    · exact timed.queued timer before
    · exact (timed.unpushed thread timer (own.trans new)).1
  · change (pushed.queued.filterMap Functor.adds?).Nodup
    rw [queue, List.filterMap_append]
    refine List.nodup_append.mpr ⟨timed.once, ?_, ?_⟩
    · cases new : post.functor.adds? <;> simp [new]
    · intro timer before last new same
      subst same
      obtain ⟨functor, member, adds⟩ := List.mem_filterMap.mp new
      rw [List.mem_singleton.mp member, Functor.adds?_eq_some] at adds
      exact (timed.unpushed thread timer (own.trans adds)).2 (mem_filterMap_adds.mp before)
  · intro other timer waits
    obtain ⟨different, waits⟩ := unpushed other _ waits (by simp)
    obtain ⟨unseen, absent⟩ := timed.unpushed other timer waits
    refine ⟨unseen, fun added => ?_⟩
    rcases adds timer added with before | new
    · exact absent before
    · exact different (timed.alone other thread timer (Call.task_of_unpushed waits) (task.trans new))
  · intro first second timer one two
    rw [tasks] at one two
    exact timed.alone first second timer one two
  · intro other timer
    rw [tasks]
    exact timed.allocated other timer
  · intro id member
    obtain ⟨old, absent⟩ := timed.returned id member
    exact ⟨old, fun other => by rw [tasks]; exact absent other⟩
  · intro id cancels
    refine timed.known id ?_
    rcases cancels with ⟨functor, member, cancels⟩ | ⟨other, waits⟩
    · change functor ∈ pushed.queued at member
      rw [queue, List.mem_append, List.mem_singleton] at member
      rcases member with before | rfl
      · exact .inl ⟨functor, before, cancels⟩
      · exact .inr ⟨thread, own.trans cancels⟩
    · exact .inr ⟨other, (unpushed other _ waits (by simp)).2⟩
  · change pushed.queued.Pairwise _
    rw [queue]
    refine List.pairwise_append.mpr ⟨timed.ordered, List.pairwise_singleton _ _, ?_⟩
    intro first member second last id cancels adds
    obtain rfl : second = post.functor := List.mem_singleton.mp last
    -- the timer has been handed out, so its own add is not on its way any more
    have known := timed.known id (.inl ⟨first, member, cancels⟩)
    exact (timed.returned id known).2 thread (task.trans adds)

/-- The owner changes its timers and keeps unseen what it has not seen. -/
theorem Timed.changes (timed : loop.Timed)
    (holds : after.timerQueue.Holds after.pc.timers)
    (rest : ∀ inside rest expired, after.pc = .callbacks inside rest expired → rest ⊆ expired)
    (queue : after.queued = loop.queued) (calls : after.calls = loop.calls)
    (trace : ∀ id, .timerReturned id ∈ after.trace → .timerReturned id ∈ loop.trace ∨
      id < after.timerQueue.nextSequence ∧ ∀ thread, (loop.calls thread).task ≠ .addTimerInLoop id)
    (returned : ∀ id, .timerReturned id ∈ loop.trace → .timerReturned id ∈ after.trace)
    (grown : loop.timerQueue.nextSequence ≤ after.timerQueue.nextSequence)
    (unseen : ∀ timer, loop.Adds timer ∨
      (∃ thread, (loop.calls thread).unpushed = .addTimerInLoop timer) →
      loop.Unseen timer → after.Unseen timer) : after.Timed := by
  have adds : ∀ timer, after.Adds timer ↔ loop.Adds timer := by
    intro timer
    rw [Adds, Adds, queue]
  refine ⟨holds, rest, ?_, ?_, ?_, ?_, ?_, ?_, ?_, ?_⟩
  · intro timer
    rw [adds]
    exact fun added => unseen timer (.inl added) (timed.queued timer added)
  · rw [queue]
    exact timed.once
  · intro thread timer
    rw [calls, adds]
    intro waits
    obtain ⟨before, absent⟩ := timed.unpushed thread timer waits
    exact ⟨unseen timer (.inr ⟨thread, waits⟩) before, absent⟩
  · rw [calls]
    exact timed.alone
  · intro thread timer
    rw [calls]
    exact fun task => Nat.lt_of_lt_of_le (timed.allocated thread timer task) grown
  · intro id member
    rw [calls]
    rcases trace id member with before | new
    · obtain ⟨old, absent⟩ := timed.returned id before
      exact ⟨Nat.lt_of_lt_of_le old grown, absent⟩
    · exact new
  · intro id
    rw [queue, calls]
    exact fun cancels => returned id (timed.known id cancels)
  · rw [queue]
    exact timed.ordered

theorem Timed.turned {action : Action} {pc : Pc} (timed : loop.Timed)
    (turns : Turns loop action pc) : ({ loop with pc } : Loop).Timed := by
  have batch := turns.batch
  have same : pc.timers = loop.pc.timers := by
    cases turns with
    | @empty final place => cases final <;> rw [place] <;> rfl
    | @destroyed final place => cases final <;> rw [place] <;> rfl
    | polled place => rw [place]; rfl
    | nothingDue place => rw [place]; rfl
    | skipped place => rw [place]; rfl
    | quitted place => rw [place]; rfl
    | entered place => rw [place]; rfl
    | expired place => rw [place]; rfl
    | refilled place => rw [place]; rfl
  refine timed.changes (by rw [same]; exact timed.holds) ?_ (by rw [Loop.queued, Loop.queued, batch])
    rfl (fun _ => .inl) (fun _ => id) (Nat.le_refl _) ?_
  · intro inside rest expired place
    cases turns with
    | @empty final => cases final <;> cases place
    | @destroyed final => cases final <;> cases place
    | skipped before =>
        cases place
        exact fun timer member => timed.rest _ _ _ before (List.mem_cons_of_mem _ member)
    | _ => cases place
  · intro timer _ unseen
    exact ⟨unseen.1, by rw [same]; exact unseen.2⟩

/-- A timer whose sequence number was never given out is nowhere. -/
theorem Timed.fresh (timed : loop.Timed) :
    loop.timerQueue.timersById loop.timerQueue.nextSequence = none ∧
      loop.timerQueue.nextSequence ∉ loop.pc.timers ∧ ¬loop.Adds loop.timerQueue.nextSequence ∧
      ∀ thread, (loop.calls thread).task ≠ .addTimerInLoop loop.timerQueue.nextSequence := by
  refine ⟨timed.holds.unlisted_next, timed.holds.unbatched_next, ?_, ?_⟩
  · intro added
    exact absurd (timed.queued _ added).1.1 (Nat.lt_irrefl _)
  · intro thread task
    exact absurd (timed.allocated thread _ task) (Nat.lt_irrefl _)

theorem Timed.addTimerInline (timed : loop.Timed) (expiration interval : Int) :
    ({ loop with timerQueue := loop.timerQueue.addTimer expiration interval }.emit
      (.timerReturned loop.timerQueue.nextSequence)).Timed := by
  refine timed.changes (timed.holds.addTimer _ _) timed.rest rfl rfl ?_ ?_ (Nat.le_succ _) ?_
  · intro id member
    rcases List.mem_append.mp member with before | last
    · exact .inl before
    · cases List.mem_singleton.mp last
      exact .inr ⟨Nat.lt_succ_self _, timed.fresh.2.2.2⟩
  · exact fun id member => List.mem_append_left _ member
  · exact fun timer _ unseen => ⟨unseen.1.addTimer _ _, unseen.2⟩

/-- Another thread allocates a timer and starts to queue the functor that adds it. -/
theorem Timed.addTimerRemote (timed : loop.Timed) (thread : Thread) (expiration interval : Int) :
    ({ loop with timerQueue := loop.timerQueue.allocate expiration interval }.queueInLoop thread
      (.addTimerInLoop loop.timerQueue.nextSequence)).Timed := by
  let allocated := { loop with timerQueue := loop.timerQueue.allocate expiration interval }
  let call := Call.pushing
    { functor := { id := loop.nextFunctor, task := .addTimerInLoop loop.timerQueue.nextSequence },
      handle := false }
  obtain ⟨unlisted, unbatched, absent, nobody⟩ := timed.fresh
  have first : allocated.Timed := by
    refine timed.changes (timed.holds.allocate _ _) timed.rest rfl rfl (fun _ => .inl)
      (fun _ => id) (Nat.le_succ _) ?_
    exact fun timer _ unseen => ⟨unseen.1.allocate _ _, unseen.2⟩
  have others : ∀ other, other ≠ thread → (allocated.setCall thread call).calls other =
      loop.calls other := fun other different => setCall_other allocated different _
  suffices posts : (allocated.setCall thread call).Timed from
    posts.tells rfl rfl rfl rfl rfl (by simp)
  refine ⟨first.holds, first.rest, first.queued, first.once, ?_, ?_, ?_, ?_, ?_, first.ordered⟩
  · intro other timer waits
    by_cases same : other = thread
    · rw [same, setCall_self] at waits
      cases waits
      exact ⟨⟨⟨Nat.lt_succ_self _, unlisted⟩, unbatched⟩, absent⟩
    · rw [others other same] at waits
      exact first.unpushed other timer waits
  · intro one two timer here there
    by_cases first' : one = thread <;> by_cases second' : two = thread
    · rw [first', second']
    · rw [first', setCall_self] at here
      rw [others two second'] at there
      cases here
      exact absurd there (nobody two)
    · rw [second', setCall_self] at there
      rw [others one first'] at here
      cases there
      exact absurd here (nobody one)
    · rw [others one first'] at here
      rw [others two second'] at there
      exact timed.alone one two timer here there
  · intro other timer task
    by_cases same : other = thread
    · rw [same, setCall_self] at task
      cases task
      exact Nat.lt_succ_self _
    · rw [others other same] at task
      exact first.allocated other timer task
  · intro id member
    obtain ⟨old, gone⟩ := timed.returned id member
    refine ⟨Nat.lt_succ_of_lt old, fun other task => ?_⟩
    by_cases same : other = thread
    · rw [same, setCall_self] at task
      cases task
      exact absurd old (Nat.lt_irrefl _)
    · rw [others other same] at task
      exact gone other task
  · intro id cancels
    refine timed.known id (cancels.imp_right fun waits => ?_)
    obtain ⟨other, waits⟩ := waits
    by_cases same : other = thread
    · rw [same, setCall_self] at waits
      cases waits
    · rw [others other same] at waits
      exact ⟨other, waits⟩

/-- The timer that a thread asked for is handed out when its functor is queued. -/
theorem Timed.timerAdded (timed : loop.Timed) {post : Post} {timer : TimerPtr}
    (call : loop.calls thread = .finishing post) (task : post.functor.task = .addTimerInLoop timer) :
    ((loop.setCall thread .idle).emit
      (.timerReturned (loop.timerQueue.objects timer).sequence)).Timed := by
  have adding : (loop.calls thread).task = .addTimerInLoop timer := by
    rw [call]
    exact task
  have old := timed.allocated thread timer adding
  rw [timed.holds.sequence timer old]
  have idle : (loop.setCall thread .idle).Timed := timed.calls (.inl rfl) (.inl rfl)
  refine idle.changes idle.holds idle.rest rfl rfl ?_ ?_ (Nat.le_refl _) fun _ _ unseen => unseen
  · intro id member
    rcases List.mem_append.mp member with before | last
    · exact .inl before
    · cases List.mem_singleton.mp last
      refine .inr ⟨old, fun other here => ?_⟩
      by_cases same : other = thread
      · rw [same, setCall_self] at here
        cases here
      · rw [setCall_other _ same] at here
        exact same (timed.alone other thread timer here adding)
  · exact fun id member => List.mem_append_left _ member

theorem Timed.cancelInLoop (timed : loop.Timed) (id : Nat) : (loop.cancelInLoop id).Timed := by
  refine timed.changes (timed.holds.cancelInLoop id) timed.rest rfl rfl ?_ ?_
    (timed.holds.cancelInLoop_objects id).1.ge ?_
  · intro other member
    rcases List.mem_append.mp member with before | last
    · exact .inl before
    · cases List.mem_singleton.mp last
  · exact fun other member => List.mem_append_left _ member
  · exact fun timer _ unseen => ⟨unseen.1.cancelInLoop timed.holds id, unseen.2⟩

/-- The owner takes the next functor of the batch. -/
theorem Timed.popped (timed : loop.Timed) {final : Bool} {functor : Functor} {rest : List Functor}
    (place : loop.pc = .running final (functor :: rest)) :
    ({ loop with pc := .running final rest } : Loop).Timed ∧
      ∀ timer, functor.task = .addTimerInLoop timer → loop.Unseen timer ∧
        ¬({ loop with pc := .running final rest } : Loop).Adds timer := by
  let popped : Loop := { loop with pc := .running final rest }
  have queue : loop.queued = functor :: popped.queued := by
    simp [popped, Loop.queued, place, Pc.batch]
  have timers : loop.pc.timers = popped.pc.timers := by
    rw [place]
    rfl
  have adds : ∀ timer, popped.Adds timer → loop.Adds timer := by
    intro timer added
    obtain ⟨other, member, task⟩ := added
    exact ⟨other, by rw [queue]; exact List.mem_cons_of_mem _ member, task⟩
  have unseen : ∀ timer, loop.Unseen timer ↔ popped.Unseen timer := by
    intro timer
    rw [Unseen, Unseen, timers]
  have ordered := timed.ordered
  have once := timed.once
  rw [queue] at ordered once
  constructor
  · refine ⟨?_, by simp, ?_, ?_, ?_, timed.alone, timed.allocated, timed.returned, ?_, ?_⟩
    · have holds := timed.holds
      rwa [timers] at holds
    · intro timer added
      exact (unseen timer).mp (timed.queued timer (adds timer added))
    · rw [List.filterMap_cons] at once
      split at once
      · exact once
      · exact (List.nodup_cons.mp once).2
    · intro thread timer waits
      obtain ⟨before, absent⟩ := timed.unpushed thread timer waits
      exact ⟨(unseen timer).mp before, fun added => absent (adds timer added)⟩
    · intro id cancels
      refine timed.known id (cancels.imp_left fun found => ?_)
      obtain ⟨other, member, task⟩ := found
      exact ⟨other, by rw [queue]; exact List.mem_cons_of_mem _ member, task⟩
    · exact (List.pairwise_cons.mp ordered).2
  · intro timer task
    refine ⟨timed.queued timer ⟨functor, by simp [queue], task⟩, fun added => ?_⟩
    rw [List.filterMap_cons, Functor.adds?_eq_some.mpr task] at once
    exact (List.nodup_cons.mp once).1 (mem_filterMap_adds.mpr added)

theorem Timed.executed (timed : loop.Timed) {final : Bool} {functor : Functor}
    {rest : List Functor} (place : loop.pc = .running final (functor :: rest)) :
    ({ loop with pc := .running final rest }.execute functor).Timed := by
  obtain ⟨popped, own⟩ := timed.popped place
  have called : ({ loop with pc := .running final rest }.emit (.executed functor.id)).Timed :=
    popped.tells rfl rfl rfl rfl rfl (by simp)
  rw [execute]
  split
  case h_1 => exact called
  case h_2 timer task =>
    obtain ⟨unseen, absent⟩ := own timer task
    have unbatched : timer ∉ Pc.timers (.running final rest) := by simp [Pc.timers]
    refine called.changes (called.holds.insert unseen.1.1 unseen.1.2 unbatched) (by simp [emit])
      rfl rfl (fun _ => .inl) (fun _ => id) (Nat.le_refl _) ?_
    intro other expected before
    have different : other ≠ timer := by
      intro same
      subst same
      rcases expected with added | ⟨thread, waits⟩
      · exact absent added
      · exact (timed.unpushed thread other waits).2 ⟨functor, by simp [Loop.queued, place, Pc.batch], task⟩
    exact ⟨before.1.insert (called.holds.sequence timer unseen.1.1) different, before.2⟩
  case h_3 id task => exact called.cancelInLoop id

theorem Timed.expiring (timed : loop.Timed) (now : Int) (place : loop.pc = .dispatching false) :
    ({ loop with
      timerQueue := (loop.timerQueue.getExpired now).2
      pc := .callbacks false (loop.timerQueue.getExpired now).1
        (loop.timerQueue.getExpired now).1 } : Loop).Timed := by
  have holds := timed.holds
  rw [place] at holds
  have due := (TimerQueue.getExpired_eq now loop.timerQueue).1
  rw [due]
  refine timed.changes (holds.getExpired now) ?_ (by simp [Loop.queued, place, Pc.batch]) rfl
    (fun _ => .inl) (fun _ => id) (Nat.le_refl _) ?_
  · intro inside rest expired same
    cases same
    exact fun timer member => member
  · exact fun timer _ unseen => ⟨unseen.1, unseen.1.not_due holds now⟩

theorem Timed.reset (timed : loop.Timed) (now : Int) {inside : Bool} {expired : List TimerPtr}
    (place : loop.pc = .callbacks inside [] expired) :
    ({ loop with timerQueue := loop.timerQueue.reset expired now, pc := .expired } : Loop).Timed := by
  have holds := timed.holds
  rw [place] at holds
  refine timed.changes (holds.reset now) (by simp) (by simp [Loop.queued, place, Pc.batch]) rfl
    (fun _ => .inl) (fun _ => id) ?_ ?_
  · exact (TimerQueue.Holds.reset_interval expired now 0 loop.timerQueue).2.ge
  · exact fun timer _ unseen => ⟨unseen.1.reset holds now, by simp [Pc.timers]⟩

theorem Timed.started (timed : loop.Timed) {inside : Bool} {timer : TimerPtr}
    {rest expired : List TimerPtr} (place : loop.pc = .callbacks inside (timer :: rest) expired) :
    ({ loop with pc := .callbacks true rest expired }.emit
      (.started (loop.timerQueue.objects timer).sequence)).Timed := by
  have holds := timed.holds
  rw [place] at holds
  refine timed.changes holds ?_ (by simp [Loop.queued, emit, place, Pc.batch]) rfl ?_ ?_
    (Nat.le_refl _) ?_
  · intro other others all same
    cases same
    exact fun other member => timed.rest _ _ _ place (List.mem_cons_of_mem _ member)
  · intro id member
    exact .inl (by simpa [emit] using member)
  · exact fun id member => List.mem_append_left _ member
  · intro other _ unseen
    rw [Unseen, place] at unseen
    exact unseen

/-- The owner goes elsewhere, with the same functors to call and no timers under way. -/
theorem Timed.goes (timed : loop.Timed) (timers : after.timerQueue = loop.timerQueue)
    (before : loop.pc.timers = []) (now : ∀ inside rest expired, after.pc ≠ .callbacks inside rest expired)
    (queue : after.queued = loop.queued) (calls : after.calls = loop.calls)
    (trace : ∀ id, .timerReturned id ∈ after.trace ↔ .timerReturned id ∈ loop.trace) :
    after.Timed := by
  have none : after.pc.timers = [] := by
    cases pc : after.pc with
    | callbacks inside rest expired => exact absurd pc (now inside rest expired)
    | _ => rfl
  have holds := timed.holds
  rw [before] at holds
  refine timed.changes ?_ ?_ queue calls (fun id member => .inl ((trace id).mp member))
    (fun id => (trace id).mpr) (by rw [timers]) ?_
  · rw [timers, none]
    exact holds
  · exact fun inside rest expired place => absurd place (now inside rest expired)
  · intro timer _ unseen
    rw [Unseen, timers, none]
    exact ⟨unseen.1, by simp⟩

theorem Timed.moves {action : Action} (timed : loop.Timed) (moves : Moves loop action after) :
    after.Timed := by
  cases moves with
  | @queue thread idle =>
      have call : (loop.setCall thread (.acquiring { id := loop.nextFunctor, task := .user })).Timed :=
        timed.calls (.inl rfl) (.inl rfl)
      exact call.tells rfl rfl rfl rfl rfl (by simp)
  | @queueInLoop thread idle =>
      have call : (loop.setCall thread (.pushing
          { functor := { id := loop.nextFunctor, task := .user }, handle := false })).Timed :=
        timed.calls (.inl rfl) (.inl rfl)
      exact call.tells rfl rfl rfl rfl rfl (by simp)
  | quitInline =>
      exact timed.same rfl rfl rfl rfl rfl
  | quitRemote => 
      exact (timed.calls (.inl rfl) (.inl rfl)).same rfl rfl rfl rfl rfl
  | addTimerInline => exact timed.addTimerInline _ _
  | addTimerRemote => exact timed.addTimerRemote _ _ _
  | cancelNothing => exact timed
  | cancelInline => exact timed.cancelInLoop _
  | @cancelRemote thread id _ _ known =>
      have call : (loop.setCall thread (.pushing
          { functor := { id := loop.nextFunctor, task := .cancelInLoop id }, handle := false })).Timed := by
        refine timed.setCall (by simp [Call.task]) (by simp [Call.unpushed]) ?_
        intro other same
        cases same
        exact .inr known
      exact call.tells rfl rfl rfl rfl rfl (by simp)
  | @acquired thread functor call =>
      have posting : (loop.setCall thread (.pushing { functor, handle := true })).Timed :=
        timed.calls (.inr (by rw [call]; rfl)) (.inr (by rw [call]; rfl))
      exact posting.same rfl rfl rfl rfl rfl
  | rejected => exact (timed.calls (.inl rfl) (.inl rfl)).tells rfl rfl rfl rfl rfl (by simp)
  | pushed call => exact timed.pushed call
  | announcing call => exact timed.calls (.inr (by rw [call]; rfl)) (.inl rfl)
  | unannounced call => exact timed.calls (.inr (by rw [call]; rfl)) (.inl rfl)
  | @woken thread post call =>
      have posting : (loop.setCall thread (.finishing post)).Timed :=
        timed.calls (.inr (by rw [call]; rfl)) (.inl rfl)
      exact posting.same rfl rfl rfl rfl rfl
  | @released thread post =>
      have done : (loop.setCall thread (.returning post.functor)).Timed :=
        timed.calls (.inl rfl) (.inl rfl)
      exact done.same rfl rfl rfl rfl rfl
  | finished => exact timed.calls (.inl rfl) (.inl rfl)
  | timerAdded call _ task => exact timed.timerAdded call task
  | returned => exact (timed.calls (.inl rfl) (.inl rfl)).tells rfl rfl rfl rfl rfl (by simp)
  | @quitted thread =>
      have done : (loop.setCall thread .idle).Timed := timed.calls (.inl rfl) (.inl rfl)
      exact done.same rfl rfl rfl rfl rfl
  | turned _ turns => exact timed.turned turns
  | looped _ place =>
      exact timed.goes rfl (by rw [place]; rfl) (by simp) (by simp [Loop.queued, place, Pc.batch]) rfl fun _ => Iff.rfl
  | handledRead _ place =>
      exact timed.goes rfl (by rw [place]; rfl) (by simp) (by simp [Loop.queued, place, Pc.batch]) rfl fun _ => Iff.rfl
  | expiring _ place => exact timed.expiring _ place
  | started _ place => exact timed.started place
  | reset _ place => exact timed.reset _ place
  | swapped _ place =>
      exact timed.goes rfl (by rw [place]; rfl) (by simp) (by simp [Loop.queued, place, Pc.batch]) rfl fun _ => Iff.rfl
  | executed _ place => exact timed.executed place
  | called _ place =>
      exact timed.goes rfl (by rw [place]; rfl) (by simp) (by simp [Loop.queued, place, Pc.batch]) rfl fun _ => Iff.rfl
  | closed _ place =>
      exact timed.goes rfl (by rw [place]; rfl) (by simp [emit]) (by simp [Loop.queued, emit, place, Pc.batch]) rfl (by simp [emit])
  | left _ place =>
      exact timed.goes rfl (by rw [place]; rfl) (by simp [emit]) (by simp [Loop.queued, emit, place, Pc.batch]) rfl (by simp [emit])

theorem timed_initial : ({} : Loop).Timed where
  holds := TimerQueue.initial_holds
  rest := by simp
  queued := by simp [Adds, Loop.queued, Pc.batch]
  once := by simp [Loop.queued, Pc.batch]
  unpushed := by simp [Call.unpushed]
  alone := by simp [Call.task]
  allocated := by simp [Call.task]
  returned := by simp
  known := by simp [Loop.queued, Pc.batch, Call.unpushed]
  ordered := by simp [Loop.queued, Pc.batch]

/-! ## After a cancellation -/

/-- A timer that is gone and that no functor is going to add stays gone. -/
theorem dead_moves {action : Action} {id : Nat} (timed : loop.Timed) (absent : ¬loop.Adds id)
    (dead : loop.timerQueue.Dead id) (moves : Moves loop action after) :
    after.timerQueue.Dead id := by
  cases moves with
  | addTimerInline => exact dead.addTimer _ _
  | addTimerRemote => exact dead.allocate _ _
  | cancelInline => exact dead.cancelInLoop timed.holds _
  | @executed final functor rest idle place =>
      rw [execute]
      split
      case h_1 => exact dead
      case h_2 timer task =>
        have added : loop.Adds timer := ⟨functor, by simp [Loop.queued, place, Pc.batch], task⟩
        refine dead.insert (timed.holds.sequence timer (timed.queued timer added).1.1) ?_
        intro same
        exact absent (same ▸ added)
      case h_3 other task => exact dead.cancelInLoop timed.holds other
  | reset _ place =>
      have holds := timed.holds
      rw [place] at holds
      exact dead.reset holds _
  | _ => exact dead

/-- No functor is queued to add a timer that its thread has been given. -/
theorem adds_moves {action : Action} {id : Nat} (timed : loop.Timed) (absent : ¬loop.Adds id)
    (known : .timerReturned id ∈ loop.trace) (moves : Moves loop action after) :
    ¬after.Adds id := by
  have same : after.queued = loop.queued → ¬after.Adds id := by
    intro queue
    rw [Adds, queue]
    exact absent
  cases moves with
  | @pushed thread post call =>
      intro added
      obtain ⟨functor, member, adds⟩ := added
      have queue : loop.pc.batch ++ (loop.pendingFunctors ++ [post.functor]) =
          loop.queued ++ [post.functor] := by simp [Loop.queued]
      change functor ∈ loop.pc.batch ++ (loop.pendingFunctors ++ [post.functor]) at member
      rw [queue, List.mem_append, List.mem_singleton] at member
      rcases member with before | rfl
      · exact absent ⟨functor, before, adds⟩
      · refine (timed.returned id known).2 thread ?_
        rw [call]
        exact adds
  | turned _ turns => exact same (by rw [Loop.queued, Loop.queued, turns.batch])
  | looped _ place => exact same (by simp [Loop.queued, place, Pc.batch])
  | handledRead _ place => exact same (by simp [Loop.queued, place, Pc.batch])
  | expiring _ place => exact same (by simp [Loop.queued, place, Pc.batch])
  | started _ place => exact same (by simp [Loop.queued, place, Pc.batch, emit])
  | reset _ place => exact same (by simp [Loop.queued, place, Pc.batch])
  | swapped _ place => exact same (by simp [Loop.queued, place, Pc.batch])
  | @executed final functor rest idle place =>
      intro added
      obtain ⟨other, member, adds⟩ := added
      obtain ⟨timerQueue, trace, equal⟩ := execute_eq { loop with pc := .running final rest } functor
      rw [equal] at member
      refine absent ⟨other, ?_, adds⟩
      simp only [Loop.queued, place, Pc.batch, List.cons_append, List.mem_cons] at member ⊢
      exact .inr member
  | called _ place => exact same (by simp [Loop.queued, place, Pc.batch])
  | closed _ place => exact same (by simp [Loop.queued, place, Pc.batch, emit])
  | left _ place => exact same (by simp [Loop.queued, place, Pc.batch, emit])
  | _ => exact absent

/-- The owner does not cancel a timer while the functor that adds it waits. -/
def InOrder (id : Nat) (loop : Loop) (action : Action) : Prop :=
  action = .call owner (.cancel id) → ¬loop.Adds id

/-- Once cancelled, a timer is gone for good and does not start. -/
structure Final (id : Nat) (loop : Loop) : Prop where
  gone : .cancelled id ∈ loop.trace →
    loop.timerQueue.Dead id ∧ ¬loop.Adds id ∧ .timerReturned id ∈ loop.trace
  never : Trace.NeverAfter (· == .cancelled id) (· == .started id) loop.trace

/-- A step that starts no timer and cancels this one only if it is gone then. -/
theorem Final.moves_quiet {id : Nat} {action : Action} (final : Final id loop) (timed : loop.Timed)
    (moves : Moves loop action after) {events : List Event}
    (trace : after.trace = loop.trace ++ events) (unstarted : .started id ∉ events)
    (cancelled : .cancelled id ∈ events →
      after.timerQueue.Dead id ∧ ¬after.Adds id ∧ .timerReturned id ∈ loop.trace) :
    Final id after := by
  constructor
  · intro member
    rw [trace] at member ⊢
    rcases List.mem_append.mp member with before | new
    · obtain ⟨dead, absent, known⟩ := final.gone before
      exact ⟨dead_moves timed absent dead moves, adds_moves timed absent known moves,
        List.mem_append_left _ known⟩
    · obtain ⟨dead, absent, known⟩ := cancelled new
      exact ⟨dead, absent, List.mem_append_left _ known⟩
  · rw [trace]
    have silent : ∀ event ∈ events, (event == .started id) = false := by
      intro event member
      rw [beq_eq_false_iff_ne]
      exact fun same => unstarted (same ▸ member)
    refine final.never.append (.silent silent) fun later member started => ?_
    rw [silent later member] at started
    cases started

/-- What a step says, when it is not the start or the cancellation of a timer. -/
theorem Final.tells {id : Nat} {action : Action} (final : Final id loop) (timed : loop.Timed)
    (moves : Moves loop action after) {event : Event}
    (trace : after.trace = loop.trace ++ [event]) (unstarted : event ≠ .started id)
    (uncancelled : event ≠ .cancelled id) : Final id after := by
  refine final.moves_quiet timed moves trace (by simpa using unstarted.symm) fun member => ?_
  exact absurd (List.mem_singleton.mp member).symm uncancelled

theorem Final.cancelInline {id other : Nat} (final : Final id loop) (timed : loop.Timed)
    (ordered : InOrder id loop (.call owner (.cancel other)))
    (known : .timerReturned other ∈ loop.trace) : Final id (loop.cancelInLoop other) := by
  refine final.moves_quiet timed (.cancelInline known) rfl (by simp) fun member => ?_
  cases List.mem_singleton.mp member
  exact ⟨.of_cancelInLoop timed.holds (timed.returned id known).1, ordered rfl, known⟩

theorem Final.executed {id : Nat} (final : Final id loop) (timed : loop.Timed) {last : Bool}
    {functor : Functor} {rest : List Functor} (idle : loop.calls owner = .idle)
    (place : loop.pc = .running last (functor :: rest)) :
    Final id ({ loop with pc := .running last rest }.execute functor) := by
  have moves : Moves loop .next _ := .executed idle place
  have member : functor ∈ loop.queued := by simp [Loop.queued, place, Pc.batch]
  rw [execute] at moves ⊢
  split at moves
  case h_1 => exact final.tells timed moves rfl (by simp) (by simp)
  case h_2 => exact final.tells timed moves rfl (by simp) (by simp)
  case h_3 other task =>
    have known := timed.known other (.inl ⟨functor, member, task⟩)
    refine final.moves_quiet timed moves (List.append_assoc ..) (by simp) fun cancelled => ?_
    obtain rfl : id = other := by simpa using cancelled
    refine ⟨.of_cancelInLoop timed.holds (timed.returned id known).1, ?_, known⟩
    -- the functor that adds the timer was queued before this one
    intro added
    obtain ⟨later, waits, adds⟩ := added
    have ordered := timed.ordered
    rw [Loop.queued, place, Pc.batch, List.cons_append, List.pairwise_cons] at ordered
    exact ordered.1 later waits id task adds

theorem Final.started {id : Nat} (final : Final id loop) (timed : loop.Timed) {inside : Bool}
    {timer : TimerPtr} {rest expired : List TimerPtr} (idle : loop.calls owner = .idle)
    (place : loop.pc = .callbacks inside (timer :: rest) expired)
    (live : (loop.timerQueue.objects timer).canceled = false) :
    Final id ({ loop with pc := .callbacks true rest expired }.emit
      (.started (loop.timerQueue.objects timer).sequence)) := by
  have moves : Moves loop .expire _ := .started idle place live
  have holds := timed.holds
  rw [place] at holds
  have batched : timer ∈ expired := timed.rest _ _ _ place List.mem_cons_self
  have named := holds.sequence timer (holds.batched timer batched).1
  by_cases same : timer = id
  · subst same
    -- a timer of the batch that was cancelled is flagged, and this one is not
    have uncancelled : .cancelled timer ∉ loop.trace := by
      intro cancelled
      have flagged := (final.gone cancelled).1.canceled holds batched
      rw [live] at flagged
      cases flagged
    constructor
    · intro member
      rw [emit] at member
      exact absurd (by simpa using member) uncancelled
    · refine final.never.append ?_ ?_
      · exact List.pairwise_singleton _ _
      · intro later _ _ earlier member
        rw [beq_eq_false_iff_ne]
        exact fun same => uncancelled (same ▸ member)
  · refine final.tells timed moves rfl ?_ (by simp)
    rw [named]
    simpa using same

theorem Final.moves {id : Nat} {action : Action} (final : Final id loop) (timed : loop.Timed)
    (ordered : InOrder id loop action) (moves : Moves loop action after) : Final id after := by
  have moved := moves
  cases moves with
  | cancelInline known => exact final.cancelInline timed ordered known
  | executed idle place => exact final.executed timed idle place
  | started idle place live => exact final.started timed idle place live
  | queue => exact final.tells timed moved rfl (by simp) (by simp)
  | queueInLoop => exact final.tells timed moved rfl (by simp) (by simp)
  | addTimerInline => exact final.tells timed moved rfl (by simp) (by simp)
  | addTimerRemote => exact final.tells timed moved rfl (by simp) (by simp)
  | cancelRemote => exact final.tells timed moved rfl (by simp) (by simp)
  | rejected => exact final.tells timed moved rfl (by simp) (by simp)
  | pushed => exact final.tells timed moved rfl (by simp) (by simp)
  | timerAdded => exact final.tells timed moved rfl (by simp) (by simp)
  | returned => exact final.tells timed moved rfl (by simp) (by simp)
  | closed => exact final.tells timed moved rfl (by simp) (by simp)
  | left => exact final.tells timed moved rfl (by simp) (by simp)
  | _ => exact final.moves_quiet timed moved (List.append_nil _).symm (by simp) (by simp)

end Loop

theorem Loop.final_run {id : Nat} {loop : Loop}
    (reach : Reach Loop.step (Loop.InOrder id) {} loop) : loop.Timed ∧ loop.Final id := by
  induction reach with
  | start => exact ⟨Loop.timed_initial, by simp, List.Pairwise.nil⟩
  | step _ ordered taken ih =>
      obtain ⟨timed, final⟩ := ih
      have moves := Loop.step_moves taken
      exact ⟨timed.moves moves, final.moves timed ordered moves⟩

/-- In a run in which the owner never cancels a timer while the functor that
adds it still waits, the callback of a timer does not start after the timer has
been cancelled. -/
theorem cancel_is_final {id : Nat} {loop : Loop}
    (reach : Reach Loop.step (Loop.InOrder id) {} loop) {before after : List Event}
    (cancelled : loop.trace = before ++ .cancelled id :: after) : .started id ∉ after := by
  have never := (Loop.final_run reach).2.never
  rw [Trace.NeverAfter, cancelled, List.pairwise_append, List.pairwise_cons] at never
  intro started
  have late := never.2.1.1 _ started (by simp)
  simp at late

/-- Another thread adds a repeating timer and cancels it when it has run once;
then the owner adds a timer that is due as well. -/
def remoteCancel : List Action :=
  [.call 1 (.addTimer 5 10), .proceed 1, .proceed 1, .proceed 1, .proceed 1, .loop, .next,
    .poll true, .handleRead, .handleExpired 0, .next, .next, .next, .next, .next, .poll false,
    .handleExpired 5, .expire, .reset 5, .call 1 (.cancel 1), .proceed 1, .proceed 1, .proceed 1,
    .proceed 1, .next, .next, .next, .next, .next, .next, .poll true, .handleRead,
    .call owner (.addTimer 50 0), .handleExpired 100, .expire]

theorem cancel_is_final_repeating :
    ∃ loop : Loop, run Loop.step {} remoteCancel = some loop ∧
      loop.trace =
        [.called 0 false, .pushed 0 false, .timerReturned 1, .executed 0, .started 1,
          .called 1 false, .pushed 1 false, .executed 1] ++
          .cancelled 1 :: [.timerReturned 2, .started 2] ∧
      .started 1 ∉ [Event.timerReturned 2, .started 2] := by
  have final : ∃ loop : Loop, run Loop.step {} remoteCancel = some loop ∧ loop.trace =
      [.called 0 false, .pushed 0 false, .timerReturned 1, .executed 0, .started 1,
        .called 1 false, .pushed 1 false, .executed 1] ++
        .cancelled 1 :: [.timerReturned 2, .started 2] := ⟨_, rfl, rfl⟩
  obtain ⟨loop, ran, trace⟩ := final
  have reach : Reach Loop.step (Loop.InOrder 1) {} loop :=
    .run .start (by simp [remoteCancel, Loop.InOrder, owner]) ran
  exact ⟨loop, ran, trace, cancel_is_final reach trace⟩

/-- The owner cancels a timer of another thread before the functor that adds it has run. -/
def ownerOvertakes : List Action :=
  [.call 1 (.addTimer 5 0), .proceed 1, .proceed 1, .proceed 1, .proceed 1,
    .call owner (.cancel 1), .loop, .next, .poll true, .handleRead, .handleExpired 0, .next, .next,
    .next, .next, .next, .poll false, .handleExpired 5, .expire]

theorem started_after_cancel :
    ∃ loop : Loop, run Loop.step {} ownerOvertakes = some loop ∧
      loop.trace = [.called 0 false, .pushed 0 false, .timerReturned 1, .cancelled 1, .executed 0,
        .started 1] := ⟨_, rfl, rfl⟩

end MiniTrantor.Net.Reactor
