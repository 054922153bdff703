import MiniTrantor.Coroutine.Tasks.Owners

/-!
# Turns of a thread

A thread replaces what it is on top of its stack. What such a turn cannot touch is kept
whatever it is about: the assignments, the places of objects, and the links of frames.
-/

set_option autoImplicit false

namespace MiniTrantor.Coroutine.Tasks

namespace Coroutines

variable {Value Failure : Type} {coroutines next : Coroutines Value Failure} {thread : Thread}
  {gate : Gate} {parent child frame : FrameId} {old new rest : List Activity}
  {loose : Option FrameId}

/-- The top of the stack of a thread is replaced, and frames and controls change. -/
structure Shift (coroutines next : Coroutines Value Failure) (thread : Thread)
    (old new rest : List Activity) : Prop where
  top : coroutines.activities thread = old ++ rest
  activities : next.activities = Function.update coroutines.activities thread (new ++ rest)
  mutex : next.mutex = (coroutines.put thread (new ++ rest)).mutex
  created : next.controls.created = coroutines.controls.created
  tasks : next.tasks = coroutines.tasks
  constructed : next.constructed = coroutines.constructed

/-- The controls stay. -/
structure Turn (coroutines next : Coroutines Value Failure) (thread : Thread)
    (old new rest : List Activity) : Prop extends Shift coroutines next thread old new rest where
  controls : next.controls = coroutines.controls

/-- The thread is not about to destroy an awaiter. -/
def Clear (coroutines : Coroutines Value Failure) (thread : Thread) : Prop :=
  ∀ gate parent rest, coroutines.activities thread = .destroying gate parent :: rest →
    coroutines.awaiter parent = none

theorem clear_of_user (user : coroutines.atUser thread = true) : coroutines.Clear thread := by
  intro gate parent rest top
  simp only [atUser, top, List.head?_cons] at user
  exact Option.isNone_iff_eq_none.mp user

theorem clear_of_execution {doing : Doing}
    (top : coroutines.activities thread = .execution gate doing :: rest) :
    coroutines.Clear thread := by
  intro other parent rest' same
  rw [top] at same
  cases same

/-- A frame whose parent is being destroyed is under a gate that another thread holds. -/
theorem Sound.elsewhere (sound : coroutines.Sound loose) (clear : coroutines.Clear thread)
    (awaits : coroutines.awaiter parent = some child)
    (gone : coroutines.status parent = .destroyed) :
    ∃ other rest, other ≠ thread ∧
      coroutines.activities other = .destroying (coroutines.gate child) parent :: rest ∧
      coroutines.executions (coroutines.gate child) = 0 ∧
      coroutines.gateOpen thread (coroutines.gate child) = false := by
  obtain ⟨other, rest, top, quiet⟩ := sound.waiting.destroyed parent child awaits gone
  have apart : other ≠ thread := by
    rintro rfl
    rw [clear _ _ _ top] at awaits
    cases awaits
  refine ⟨other, rest, apart, top, quiet, ?_⟩
  have held := (sound.threaded.locked other _).mpr ⟨_, by rw [top]; exact List.mem_cons_self, rfl⟩
  cases open_ : coroutines.gateOpen thread (coroutines.gate child) with
  | false => rfl
  | true =>
      obtain none | mine := (coroutines.gateOpen_iff thread _).mp open_
      · rw [none] at held
        cases held
      · exact absurd (Option.some.inj (held.symm.trans mine)) apart

/-- What a thread is in the middle of after it has replaced the top. -/
theorem mem_update {activities : Thread → List Activity} {old new : List Activity}
    (top : activities thread = old ++ rest) {holder : Thread} {activity : Activity}
    (listed : activity ∈ Function.update activities thread (new ++ rest) holder) :
    holder = thread ∧ activity ∈ new ∨ activity ∈ activities holder := by
  by_cases same : holder = thread
  · subst same
    rw [Function.update_self] at listed
    obtain first | second := List.mem_append.mp listed
    · exact .inl ⟨rfl, first⟩
    · rw [top]
      exact .inr (List.mem_append_right _ second)
  · rw [Function.update_of_ne same] at listed
    exact .inr listed

/-- What is not replaced stays. -/
theorem mem_update_of {activities : Thread → List Activity} {old new : List Activity}
    (top : activities thread = old ++ rest) {holder : Thread} {activity : Activity}
    (listed : activity ∈ activities holder) (kept : activity ∉ old) :
    activity ∈ Function.update activities thread (new ++ rest) holder := by
  by_cases same : holder = thread
  · subst same
    rw [top] at listed
    rw [Function.update_self]
    exact List.mem_append_right _ ((List.mem_append.mp listed).resolve_left kept)
  · rwa [Function.update_of_ne same]

namespace Shift

variable (shift : Shift coroutines next thread old new rest)
include shift

theorem held : next.held = coroutines.held := by
  funext task
  simp only [Coroutines.held, shift.tasks]

theorem home : next.home = coroutines.home := by
  funext task
  simp only [Coroutines.home, shift.tasks]

theorem holding (awaiters : next.awaiter = coroutines.awaiter) :
    next.holding = coroutines.holding := by
  funext holder
  cases holder with
  | task task => simp only [Coroutines.holding, shift.held]
  | awaiter parent => simp only [Coroutines.holding, awaiters]

theorem listed {holder : Thread} {activity : Activity} (listed : activity ∈ next.activities holder) :
    holder = thread ∧ activity ∈ new ∨ activity ∈ coroutines.activities holder := by
  rw [shift.activities] at listed
  exact mem_update shift.top listed

theorem stays {holder : Thread} {activity : Activity}
    (listed : activity ∈ coroutines.activities holder) (kept : activity ∉ old) :
    activity ∈ next.activities holder := by
  rw [shift.activities]
  exact mem_update_of shift.top listed kept

theorem elsewhere {other : Thread} (apart : other ≠ thread) :
    next.activities other = coroutines.activities other := by
  rw [shift.activities, Function.update_of_ne apart]

/-- Assignments are where they were. -/
theorem assigned (assigned : coroutines.Assigned)
    (none : ∀ activity ∈ old ++ new, activity.target = none) : next.Assigned := by
  have empty : ∀ list : List Activity, (∀ activity ∈ list, activity.target = .none) →
      list.filterMap Activity.target = [] :=
    fun list => List.filterMap_eq_nil_iff.mpr
  have targets : ∀ holder, (next.activities holder).filterMap Activity.target =
      (coroutines.activities holder).filterMap Activity.target := by
    intro holder
    rw [shift.activities]
    by_cases same : holder = thread
    · subst same
      rw [Function.update_self, shift.top, List.filterMap_append, List.filterMap_append,
        empty old fun activity listed => none activity (List.mem_append_left _ listed),
        empty new fun activity listed => none activity (List.mem_append_right _ listed)]
    · rw [Function.update_of_ne same]
  constructor
  · intro holder source target listed
    rw [shift.held]
    obtain ⟨_, new⟩ | old := shift.listed listed
    · cases none _ (List.mem_append_right _ new)
    · exact assigned.emptied holder source target old
  · intro holder
    rw [targets]
    exact assigned.once holder
  · intro first second
    rw [targets, targets]
    exact assigned.apart first second

/-- Objects stay where they are, and a frame that is destroyed is about to destroy its own. -/
theorem housed (housed : coroutines.Housed)
    (gone : ∀ frame, next.status frame = .destroyed → coroutines.status frame = .destroyed ∨
      ∃ gate, .destroying gate frame ∈ new)
    (kept : ∀ gate frame, .destroying gate frame ∉ old) : next.Housed := by
  constructor
  · intro task held
    rw [shift.held] at held
    rw [shift.constructed]
    exact housed.bounded task held
  · intro task frame at_ dead
    rw [shift.home] at at_
    obtain dead | ⟨gate, listed⟩ := gone frame dead
    · obtain ⟨holder, gate, listed⟩ := housed.homes task frame at_ dead
      exact ⟨holder, gate, shift.stays listed (kept gate frame)⟩
    · refine ⟨thread, gate, ?_⟩
      rw [shift.activities, Function.update_self]
      exact List.mem_append_left _ listed
  · rw [shift.home, shift.created]
    exact housed.hosts

theorem fresh (fresh : ∀ frame, coroutines.controls.created ≤ frame → coroutines.frames frame = {})
    (known : frame < coroutines.controls.created) {record : Frame Value Failure}
    (frames : next.frames = Function.update coroutines.frames frame record) :
    ∀ frame, next.controls.created ≤ frame → next.frames frame = {} := by
  intro other new
  rw [shift.created] at new
  have differs : other ≠ frame := by
    rintro rfl
    exact absurd known (Nat.not_lt.mpr new)
  rw [frames, Function.update_of_ne differs]
  exact fresh other new

end Shift

namespace Turn

variable (turn : Turn coroutines next thread old new rest)
include turn

theorem gates : next.gate = coroutines.gate := by
  funext frame
  simp only [Coroutines.gate, turn.controls]

/-- Links stay between frames of which no more are destroyed. -/
theorem linked (linked : coroutines.Linked loose) (awaiters : next.awaiter = coroutines.awaiter)
    (continuations : next.continuation = coroutines.continuation)
    (alive : ∀ frame, next.status frame = .destroyed ↔ coroutines.status frame = .destroyed) :
    next.Linked loose := by
  constructor
  · rw [turn.controls]
    exact linked.shared
  · intro frame created living
    rw [turn.controls] at created ⊢
    exact linked.alive frame created fun dead => living ((alive frame).mpr dead)
  · intro parent child listed
    rw [turn.controls] at listed
    rw [awaiters, alive]
    exact linked.children parent child listed
  · rw [turn.controls, awaiters]
    exact linked.listed
  · rw [continuations, awaiters]
    exact linked.continued
  · intro parent child awaits living
    rw [continuations] at awaits
    rw [awaiters]
    exact linked.awaited parent child awaits fun dead => living ((alive child).mpr dead)
  · rw [awaiters, turn.gates]
    exact linked.together

/-- Frames stay with their owners when none is destroyed or detached. -/
theorem owned (owned : SoleOwnership coroutines.holding loose coroutines.Owed)
    (awaiters : next.awaiter = coroutines.awaiter)
    (detacheds : next.detached = coroutines.detached)
    (alive : ∀ frame, next.status frame = .destroyed ↔ coroutines.status frame = .destroyed) :
    SoleOwnership next.holding loose next.Owed := by
  apply owned.congr
  · intro holder
    rw [turn.holding awaiters]
  · intro frame
    unfold Owed
    rw [turn.controls, detacheds, ne_eq, ne_eq, alive]

end Turn

end Coroutines

end MiniTrantor.Coroutine.Tasks
