import MiniTrantor.Coroutine.Tasks.Sound

/-!
# Threads under gates

What the parts of a step change, and what a thread that goes on leaves true of the mutexes,
the counts of executions and the frames that run.
-/

set_option autoImplicit false

namespace MiniTrantor.Coroutine.Tasks

open Custody (InStep marked)

namespace Coroutines

variable {Value Failure : Type} {coroutines next : Coroutines Value Failure} {thread : Thread}
  {frame : FrameId} {update : Frame Value Failure → Frame Value Failure}
  {old new rest stack : List Activity} {loose : Option FrameId}

section Parts

variable {record : Frame Value Failure}

theorem status_update (frames : next.frames = Function.update coroutines.frames frame record) :
    next.status = Function.update coroutines.status frame record.status := by
  have same := Function.comp_update Frame.status coroutines.frames frame record
  rwa [← frames] at same

theorem awaiter_update (frames : next.frames = Function.update coroutines.frames frame record) :
    next.awaiter = Function.update coroutines.awaiter frame record.awaiter := by
  have same := Function.comp_update Frame.awaiter coroutines.frames frame record
  rwa [← frames] at same

theorem continuation_update (frames : next.frames = Function.update coroutines.frames frame record) :
    next.continuation = Function.update coroutines.continuation frame record.continuation_ := by
  have same := Function.comp_update Frame.continuation_ coroutines.frames frame record
  rwa [← frames] at same

theorem detached_update (frames : next.frames = Function.update coroutines.frames frame record) :
    next.detached = Function.update coroutines.detached frame record.detached_ := by
  have same := Function.comp_update Frame.detached_ coroutines.frames frame record
  rwa [← frames] at same

theorem status_same (frames : next.frames = Function.update coroutines.frames frame record)
    (same : record.status = coroutines.status frame) : next.status = coroutines.status := by
  rw [status_update frames, same, Function.update_eq_self]

theorem awaiter_same (frames : next.frames = Function.update coroutines.frames frame record)
    (same : record.awaiter = coroutines.awaiter frame) : next.awaiter = coroutines.awaiter := by
  rw [awaiter_update frames, same, Function.update_eq_self]

theorem continuation_same (frames : next.frames = Function.update coroutines.frames frame record)
    (same : record.continuation_ = coroutines.continuation frame) :
    next.continuation = coroutines.continuation := by
  rw [continuation_update frames, same, Function.update_eq_self]

theorem detached_same (frames : next.frames = Function.update coroutines.frames frame record)
    (same : record.detached_ = coroutines.detached frame) :
    next.detached = coroutines.detached := by
  rw [detached_update frames, same, Function.update_eq_self]

/-- Two frames change. -/
theorem two_updates {Field : Type} (field : Frame Value Failure → Field) {first second : FrameId}
    {one two : Frame Value Failure} (frames : next.frames =
      Function.update (Function.update coroutines.frames first one) second two) :
    field ∘ next.frames =
      Function.update (Function.update (field ∘ coroutines.frames) first (field one)) second
        (field two) := by
  rw [frames, Function.comp_update, Function.comp_update]

theorem two_same {Field : Type} (field : Frame Value Failure → Field) {first second : FrameId}
    {one two : Frame Value Failure} (frames : next.frames =
      Function.update (Function.update coroutines.frames first one) second two)
    (left : field one = field (coroutines.frames first))
    (right : field two = field (coroutines.frames second)) :
    field ∘ next.frames = field ∘ coroutines.frames := by
  rw [two_updates field frames, left, right]
  funext other
  by_cases later : other = second
  · subst later
    rw [Function.update_self, Function.comp]
  · rw [Function.update_of_ne later]
    exact congrFun (Function.update_eq_self first (field ∘ coroutines.frames)) other

variable (coroutines thread stack)

theorem gateOpen_iff (gate : Gate) : coroutines.gateOpen thread gate = true ↔
    coroutines.mutex gate = none ∨ coroutines.mutex gate = some thread := by
  unfold gateOpen
  cases coroutines.mutex gate with
  | none => simp
  | some holder => simp

theorem put_mutex (gate : Gate) : (coroutines.put thread stack).mutex gate =
    if stack.any (·.locks == some gate) then some thread
    else if coroutines.mutex gate = some thread then none else coroutines.mutex gate := rfl

end Parts

namespace Threaded

theorem start : Threaded ({} : Coroutines Value Failure) where
  locked thread gate := by simp
  counted thread gate held := by cases held
  idle gate free := rfl
  running := InStep.start fun frame => rfl
  under thread gate doing frame member := by cases member

theorem own (thread : Thread) (activity : Activity) (frame : FrameId) (status : Status)
    (member : (frame, status) ∈ activity.marks thread) : status.thread = some thread := by
  cases activity with
  | execution gate doing =>
      simp only [Activity.marks, Option.mem_toList, Option.map_eq_some_iff] at member
      obtain ⟨_, _, same⟩ := member
      cases same
      rfl
  | destroying gate frame => cases member
  | assigning source target => cases member

theorem marked_cons {gate : Gate} {doing : Doing} (runs : doing.runs = some frame) :
    marked Activity.marks thread (.execution gate doing :: rest) =
      (frame, .running thread) :: marked Activity.marks thread rest := by
  simp [marked, Activity.marks, runs]

/-- A frame that runs is in an execution under its gate. -/
theorem runs (threaded : coroutines.Threaded) (running : coroutines.status frame = .running thread) :
    ∃ doing, .execution (coroutines.gate frame) doing ∈ coroutines.activities thread ∧
      doing.runs = some frame := by
  have member := (threaded.running.exact thread frame (.running thread) rfl).mpr running
  obtain ⟨activity, listed, mark⟩ := List.mem_flatMap.mp member
  cases activity with
  | execution gate doing =>
      simp only [Activity.marks, Option.mem_toList, Option.map_eq_some_iff] at mark
      obtain ⟨other, runs, same⟩ := mark
      cases same
      cases threaded.under thread gate doing frame listed runs
      exact ⟨doing, listed, runs⟩
  | destroying gate other => cases mark
  | assigning source target => cases mark

/-- An execution is counted under a gate that its thread holds. -/
theorem counts (threaded : coroutines.Threaded) {gate : Gate} {doing : Doing}
    (listed : .execution gate doing ∈ coroutines.activities thread) :
    coroutines.mutex gate = some thread ∧ coroutines.executions gate ≠ 0 := by
  have held := (threaded.locked thread gate).mpr ⟨_, listed, rfl⟩
  refine ⟨held, ?_⟩
  rw [threaded.counted thread gate held]
  exact Nat.ne_of_gt (List.countP_pos_iff.mpr ⟨_, listed, by simp [Activity.executes]⟩)

theorem busy (threaded : coroutines.Threaded) (running : coroutines.status frame = .running thread) :
    coroutines.mutex (coroutines.gate frame) = some thread ∧
      coroutines.executions (coroutines.gate frame) ≠ 0 := by
  obtain ⟨doing, listed, _⟩ := threaded.runs running
  exact threaded.counts listed

/-- A frame that is not destroyed is suspended or done when nothing is executed under its gate. -/
theorem still (threaded : coroutines.Threaded)
    (quiet : coroutines.executions (coroutines.gate frame) = 0 ∨ coroutines.status frame = .done)
    (alive : coroutines.status frame ≠ .destroyed) :
    (∃ point, coroutines.status frame = .suspended point) ∨ coroutines.status frame = .done := by
  cases at_ : coroutines.status frame with
  | suspended point => exact .inl ⟨point, rfl⟩
  | done => exact .inr rfl
  | destroyed => exact absurd at_ alive
  | running holder =>
      obtain none | ended := quiet
      · exact absurd none (threaded.busy at_).2
      · rw [at_] at ended
        cases ended

/-- An activity of a frame that runs is where the thread has it. -/
theorem running_of (threaded : coroutines.Threaded) {gate : Gate} {doing : Doing}
    (listed : .execution gate doing ∈ coroutines.activities thread) (runs : doing.runs = some frame) :
    coroutines.status frame = .running thread := by
  apply (threaded.running.exact thread frame (.running thread) rfl).mp
  exact List.mem_flatMap.mpr ⟨_, listed, by simp [Activity.marks, runs]⟩

/-- A frame runs in one place only. -/
theorem alone (threaded : coroutines.Threaded) {gate other : Gate} {doing further : Doing}
    (top : coroutines.activities thread = .execution gate doing :: rest)
    (runs : doing.runs = some frame) (again : further.runs = some frame) {holder : Thread}
    (listed : .execution other further ∈ coroutines.activities holder) :
    further = doing := by
  have here : .execution gate doing ∈ coroutines.activities thread := by
    rw [top]
    exact List.mem_cons_self
  have first := threaded.running_of here runs
  have second := threaded.running_of listed again
  cases first.symm.trans second
  rw [top] at listed
  obtain same | deeper := List.mem_cons.mp listed
  · cases same
    rfl
  · have once := threaded.running.once thread
    rw [top, marked_cons runs, List.map_cons, List.nodup_cons] at once
    refine absurd ?_ once.1
    refine Custody.named.mpr ⟨.running thread, List.mem_flatMap.mpr ⟨_, deeper, ?_⟩⟩
    simp [Activity.marks, again]

/-- What a thread locks is locked by it, and nothing else changes hands. -/
theorem locked_put (locked : ∀ thread gate, coroutines.mutex gate = some thread ↔
      ∃ activity ∈ coroutines.activities thread, activity.locks = some gate)
    (opened : ∀ activity ∈ stack, ∀ gate, activity.locks = some gate →
      coroutines.gateOpen thread gate = true) (holder : Thread) (gate : Gate) :
    (coroutines.put thread stack).mutex gate = some holder ↔
      ∃ activity ∈ (coroutines.put thread stack).activities holder, activity.locks = some gate := by
  have found : stack.any (·.locks == some gate) = true ↔
      ∃ activity ∈ stack, activity.locks = some gate := by simp
  rw [put_mutex]
  by_cases same : holder = thread
  · subst same
    change _ ↔ ∃ activity ∈ Function.update _ _ _ _, _
    rw [Function.update_self, ← found]
    cases stack.any (·.locks == some gate) with
    | true => simp
    | false => by_cases mine : coroutines.mutex gate = some holder <;> simp [mine]
  · change _ ↔ ∃ activity ∈ Function.update _ _ _ _, _
    rw [Function.update_of_ne same, ← locked holder gate]
    cases locks : stack.any (·.locks == some gate) with
    | true =>
        obtain ⟨activity, listed, at_⟩ := found.mp locks
        have free := (coroutines.gateOpen_iff thread gate).mp (opened activity listed gate at_)
        constructor
        · rintro ⟨⟩
          exact absurd rfl same
        · intro held
          obtain none | mine := free
          · rw [none] at held
            cases held
          · exact absurd (Option.some.inj (held.symm.trans mine)) same
    | false =>
        by_cases mine : coroutines.mutex gate = some thread
        · simp [mine, Ne.symm same]
        · simp [mine]

/-- Where no activity locks a gate none executes under it. -/
theorem unlocked {gate : Gate} (none : ¬∃ activity ∈ stack, activity.locks = some gate) :
    stack.countP (Activity.executes gate) = 0 := by
  apply List.countP_eq_zero.mpr
  intro activity listed executes
  apply none
  cases activity with
  | execution other doing =>
      simp only [Activity.executes, beq_iff_eq] at executes
      exact ⟨_, listed, congrArg some executes⟩
  | destroying other frame => cases executes
  | assigning source target => cases executes

/-- The gate of an activity is open to its own thread. -/
theorem opened (threaded : coroutines.Threaded) {gate : Gate} {activity : Activity}
    (listed : activity ∈ coroutines.activities thread) (locks : activity.locks = some gate) :
    coroutines.gateOpen thread gate = true :=
  (coroutines.gateOpen_iff thread gate).mpr
    (.inr ((threaded.locked thread gate).mpr ⟨activity, listed, locks⟩))

/-- The executions under a gate are those of the thread that it is open to. -/
theorem executions_open (threaded : coroutines.Threaded) {gate : Gate}
    (free : coroutines.gateOpen thread gate = true) :
    coroutines.executions gate = (coroutines.activities thread).countP (Activity.executes gate) := by
  obtain none | mine := (coroutines.gateOpen_iff thread gate).mp free
  · rw [threaded.idle gate none, unlocked]
    rintro ⟨activity, listed, locks⟩
    have held := (threaded.locked thread gate).mpr ⟨activity, listed, locks⟩
    rw [none] at held
    cases held
  · exact threaded.counted thread gate mine

/-- Nothing executes under a gate of another thread when every gate it locks is open. -/
theorem apart {holder : Thread} {gate : Gate} (theirs : coroutines.mutex gate = some holder)
    (other : holder ≠ thread) (free : ∀ activity ∈ stack, ∀ gate, activity.locks = some gate →
      coroutines.gateOpen thread gate = true) : stack.countP (Activity.executes gate) = 0 := by
  apply unlocked
  rintro ⟨activity, listed, locks⟩
  obtain none | mine := (coroutines.gateOpen_iff thread gate).mp (free activity listed gate locks)
  · rw [none] at theirs
    cases theirs
  · exact other (Option.some.inj (theirs.symm.trans mine))

/-- A gate that is free after a thread has turned to something else was open to it. -/
theorem open_before {gate : Gate} (none : ¬∃ activity ∈ stack, activity.locks = some gate)
    (free : (coroutines.put thread stack).mutex gate = .none) :
    coroutines.gateOpen thread gate = true := by
  have unlocked : ¬stack.any (·.locks == some gate) = true := by
    intro found
    obtain ⟨activity, listed, locks⟩ := List.any_eq_true.mp found
    exact none ⟨activity, listed, eq_of_beq locks⟩
  apply (coroutines.gateOpen_iff thread gate).mpr
  rw [put_mutex, if_neg unlocked] at free
  by_cases mine : coroutines.mutex gate = some thread
  · exact .inr mine
  · rw [if_neg mine] at free
    exact .inl free

/-- A thread replaces what it is in the middle of. -/
theorem replace (threaded : coroutines.Threaded) (top : coroutines.activities thread = old ++ rest)
    (activities : next.activities = Function.update coroutines.activities thread (new ++ rest))
    (mutex : next.mutex = (coroutines.put thread (new ++ rest)).mutex)
    (open_ : ∀ activity ∈ new, ∀ gate, activity.locks = some gate →
      coroutines.gateOpen thread gate = true)
    (counts : ∀ gate, next.executions gate + old.countP (Activity.executes gate) =
      coroutines.executions gate + new.countP (Activity.executes gate))
    (running : InStep Activity.marks Status.thread next.activities next.status)
    (under : ∀ gate doing frame, .execution gate doing ∈ new → doing.runs = some frame →
      next.gate frame = gate)
    (gates : ∀ holder frame, coroutines.status frame = .running holder →
      next.gate frame = coroutines.gate frame) : next.Threaded := by
  have openRest : ∀ activity ∈ new ++ rest, ∀ gate, activity.locks = some gate →
      coroutines.gateOpen thread gate = true := by
    intro activity listed gate locks
    obtain first | second := List.mem_append.mp listed
    · exact open_ activity first gate locks
    · refine threaded.opened ?_ locks
      rw [top]
      exact List.mem_append_right _ second
  have locked : ∀ holder gate, next.mutex gate = some holder ↔
      ∃ activity ∈ next.activities holder, activity.locks = some gate := by
    intro holder gate
    rw [mutex, activities]
    exact locked_put threaded.locked openRest holder gate
  refine ⟨locked, ?_, ?_, running, ?_⟩
  · intro holder gate held
    have count := counts gate
    by_cases same : holder = thread
    · subst same
      obtain ⟨activity, listed, locks⟩ := (locked holder gate).mp held
      rw [activities, Function.update_self] at listed ⊢
      rw [threaded.executions_open (openRest activity listed gate locks), top] at count
      rw [List.countP_append] at count ⊢
      omega
    · obtain ⟨activity, listed, locks⟩ := (locked holder gate).mp held
      rw [activities, Function.update_of_ne same] at listed ⊢
      have theirs := (threaded.locked holder gate).mpr ⟨activity, listed, locks⟩
      -- the gate belongs to another thread, before and after
      have oldOpen : ∀ activity ∈ old, ∀ gate, activity.locks = some gate →
          coroutines.gateOpen thread gate = true := by
        intro activity listed gate locks
        refine threaded.opened ?_ locks
        rw [top]
        exact List.mem_append_left _ listed
      rw [apart theirs same oldOpen, apart theirs same open_] at count
      rw [← threaded.counted holder gate theirs]
      omega
  · intro gate free
    have count := counts gate
    have none : ¬∃ activity ∈ new ++ rest, activity.locks = some gate := by
      rintro ⟨activity, listed, locks⟩
      have held := (locked thread gate).mpr ⟨activity, by rwa [activities, Function.update_self], locks⟩
      rw [free] at held
      cases held
    have after := unlocked none
    rw [List.countP_append] at after
    rw [mutex] at free
    rw [threaded.executions_open (open_before none free), top, List.countP_append] at count
    omega
  · intro holder gate doing frame listed runs
    rw [activities] at listed
    by_cases same : holder = thread
    · subst same
      rw [Function.update_self] at listed
      obtain first | second := List.mem_append.mp listed
      · exact under gate doing frame first runs
      · have listed : .execution gate doing ∈ coroutines.activities holder := by
          rw [top]
          exact List.mem_append_right _ second
        rw [gates holder frame (threaded.running_of listed runs)]
        exact threaded.under holder gate doing frame listed runs
    · rw [Function.update_of_ne same] at listed
      rw [gates holder frame (threaded.running_of listed runs)]
      exact threaded.under holder gate doing frame listed runs

end Threaded

end Coroutines

end MiniTrantor.Coroutine.Tasks
