import MiniTrantor.Coroutine.Tasks.Waits

/-!
# Going on in the library

What a thread does by itself, between one piece of user code and the next.
-/

set_option autoImplicit false

namespace MiniTrantor.Coroutine.Tasks

namespace Coroutines

variable {Value Failure : Type} {coroutines next : Coroutines Value Failure} {thread : Thread}
  {gate : Gate} {frame : FrameId} {source target : TaskId} {old new rest : List Activity}

/-- The thread leaves what it was in the middle of, or the rest of it. -/
theorem Valid.shuffle (valid : coroutines.Valid) (running : coroutines.terminated = false)
    (turn : Turn coroutines next thread old new rest) (frames : next.frames = coroutines.frames)
    (defined : next.undefined = coroutines.undefined) (clear : coroutines.Clear thread)
    (opened : ∀ activity ∈ new, ∀ gate, activity.locks = some gate →
      coroutines.gateOpen thread gate = true)
    (counts : ∀ gate, next.executions gate + old.countP (Activity.executes gate) =
      coroutines.executions gate + new.countP (Activity.executes gate))
    (fewer : ∀ gate, next.executions gate ≤ coroutines.executions gate)
    (idle : ∀ activity ∈ old, activity.marks thread = [])
    (plain : ∀ activity ∈ new, (∃ gate, activity = .execution gate .over) ∨
      ∃ source target, activity = .assigning source target)
    (assigned : next.Assigned) (housed : next.Housed) : next.Valid := by
  have sound := valid.sound running
  refine ⟨defined.trans valid.defined, fun _ => ?_, fun _ => ?_⟩
  · exact sound.shuffle turn frames clear opened counts fewer idle plain assigned housed
  · rw [frames]
    exact valid.records running

theorem Housed.locals (housed : coroutines.Housed) (none : coroutines.hasLocals frame = false)
    (task : TaskId) : coroutines.home task ≠ some frame := by
  intro home
  have exists_ : coroutines.held task ≠ .none := by
    intro absent
    have gone : coroutines.tasks task = .none := Option.map_eq_none_iff.mp absent
    simp [Coroutines.home, gone] at home
  have found : coroutines.hasLocals frame = true := by
    simp only [hasLocals, List.any_eq_true, List.mem_range]
    refine ⟨task, housed.bounded task exists_, ?_⟩
    obtain ⟨object, is, home⟩ := Option.bind_eq_some_iff.mp home
    simp [is, home]
  rw [none] at found
  cases found

/-- The `await_suspend` of an awaitable is over. -/
theorem Valid.suspended (valid : coroutines.Valid) (running : coroutines.terminated = false)
    (top : coroutines.activities thread = .execution gate (.suspending frame) :: rest) :
    (coroutines.put thread (.execution gate .over :: rest)).Valid := by
  have sound := valid.sound running
  have listed : .execution gate (.suspending frame) ∈ coroutines.activities thread := by
    rw [top]
    exact List.mem_cons_self
  have shift : Shift coroutines (coroutines.put thread (.execution gate .over :: rest)) thread
      [.execution gate (.suspending frame)] [.execution gate .over] rest :=
    ⟨top, rfl, rfl, rfl, rfl, rfl⟩
  apply valid.shuffle running ⟨shift, rfl⟩ rfl rfl (clear_of_execution top)
  · intro activity new other locks
    cases List.mem_singleton.mp new
    cases locks
    exact (gateOpen_iff coroutines thread _).mpr (.inr (sound.threaded.counts listed).1)
  · exact fun _ => rfl
  · exact fun _ => Nat.le_refl _
  · intro activity old
    cases List.mem_singleton.mp old
    rfl
  · exact fun activity new => .inl ⟨gate, List.mem_singleton.mp new⟩
  · apply shift.assigned sound.assigned
    intro activity moved
    simp only [List.cons_append, List.nil_append, List.mem_cons, List.not_mem_nil, or_false] at moved
    obtain rfl | rfl := moved <;> rfl
  · apply shift.housed sound.housed
    · exact fun _ => .inl
    · intro _ _ old
      cases List.mem_singleton.mp old

/-- The destructor of a `FrameExecution`. -/
theorem Valid.leave (valid : coroutines.Valid) (running : coroutines.terminated = false)
    (top : coroutines.activities thread = .execution gate .over :: rest) :
    ({ coroutines with
      executions :=
        Function.update coroutines.executions gate (coroutines.executions gate - 1) }.put
      thread rest).Valid := by
  have sound := valid.sound running
  have listed : .execution gate .over ∈ coroutines.activities thread := by
    rw [top]
    exact List.mem_cons_self
  have shift : Shift coroutines ({ coroutines with
      executions :=
        Function.update coroutines.executions gate (coroutines.executions gate - 1) }.put
      thread rest) thread [.execution gate .over] [] rest := ⟨top, rfl, rfl, rfl, rfl, rfl⟩
  have executions : ∀ other, ({ coroutines with
      executions :=
        Function.update coroutines.executions gate (coroutines.executions gate - 1) }.put
      thread rest).executions other =
        if other = gate then coroutines.executions gate - 1 else coroutines.executions other :=
    fun other => Function.update_apply ..
  apply valid.shuffle running ⟨shift, rfl⟩ rfl rfl (clear_of_execution top)
  · exact fun _ none => by cases none
  · intro other
    rw [executions]
    by_cases same : other = gate
    · subst same
      have busy := (sound.threaded.counts listed).2
      simp [Activity.executes]
      omega
    · simp [Activity.executes, same, Ne.symm same]
  · intro other
    rw [executions]
    split
    case isTrue same =>
      subst same
      exact Nat.sub_le _ _
    case isFalse => exact Nat.le_refl _
  · intro activity old
    cases List.mem_singleton.mp old
    rfl
  · exact fun _ none => by cases none
  · apply shift.assigned sound.assigned
    intro activity moved
    cases List.mem_singleton.mp moved
    rfl
  · apply shift.housed sound.housed
    · exact fun _ => .inl
    · intro _ _ old
      cases List.mem_singleton.mp old

/-- The destruction of a frame is over. -/
theorem Valid.destroyed (valid : coroutines.Valid) (running : coroutines.terminated = false)
    (top : coroutines.activities thread = .destroying gate frame :: rest)
    (alone : coroutines.awaiter frame = none) (empty : coroutines.hasLocals frame = false) :
    (coroutines.put thread rest).Valid := by
  have sound := valid.sound running
  have shift : Shift coroutines (coroutines.put thread rest) thread [.destroying gate frame] []
      rest := ⟨top, rfl, rfl, rfl, rfl, rfl⟩
  apply valid.shuffle running ⟨shift, rfl⟩ rfl rfl
  · intro other parent below same
    rw [top] at same
    cases same
    exact alone
  · exact fun _ none => by cases none
  · exact fun _ => rfl
  · exact fun _ => Nat.le_refl _
  · intro activity old
    cases List.mem_singleton.mp old
    rfl
  · exact fun _ none => by cases none
  · apply shift.assigned sound.assigned
    intro activity moved
    cases List.mem_singleton.mp moved
    rfl
  · refine ⟨sound.housed.bounded, ?_, sound.housed.hosts⟩
    intro task other at_ gone
    obtain ⟨holder, under, listed⟩ := sound.housed.homes task other at_ gone
    refine ⟨holder, under, shift.stays listed fun same => ?_⟩
    cases List.mem_singleton.mp same
    exact sound.housed.locals empty task at_

/-- The `Awaiter` of a frame that is being destroyed is destroyed as well. -/
theorem Valid.destroyAwaiter (valid : coroutines.Valid) (running : coroutines.terminated = false)
    (top : coroutines.activities thread = .destroying gate frame :: rest) {child : FrameId}
    (awaits : coroutines.awaiter frame = some child)
    (taken : (coroutines.change frame fun old => { old with awaiter := none }).destroyFrame thread
      child (.destroying gate frame :: rest) = some next) : next.Valid := by
  have sound := valid.sound running
  have same : coroutines.put thread (coroutines.activities thread) = coroutines :=
    sound.threaded.put_self
  have releases : Releases coroutines
      (coroutines.change frame fun old => { old with awaiter := none }) thread frame child [] []
        (coroutines.activities thread) := by
    refine ⟨awaits, ⟨⟨rfl, ?_, ?_, rfl, rfl, rfl⟩, rfl⟩, rfl, rfl, .inl ⟨rfl, rfl, gate, rest, top⟩⟩
    · exact (Function.update_eq_self thread coroutines.activities).symm
    · change coroutines.mutex = _
      rw [List.nil_append, same]
  rw [← top] at taken
  apply Valid.destroyHere _ (releases.sound sound) valid.defined releases.clear taken
  exact records_update (valid.records running) rfl (valid.records running frame).release

/-- The rest of `operator=`. -/
theorem Valid.assigned (valid : coroutines.Valid) (running : coroutines.terminated = false)
    (top : coroutines.activities thread = .assigning source target :: rest)
    {coroutine_ : Option FrameId} (held : coroutines.held source = some coroutine_) :
    (((coroutines.setCoroutine source none).setCoroutine target coroutine_).put thread rest).Valid := by
  have sound := valid.sound running
  have listed : .assigning source target ∈ coroutines.activities thread := by
    rw [top]
    exact List.mem_cons_self
  have shift : Shift coroutines (coroutines.put thread rest) thread [.assigning source target] []
      rest := ⟨top, rfl, rfl, rfl, rfl, rfl⟩
  have fewer : ∀ {holder activity}, activity ∈ (coroutines.put thread rest).activities holder →
      activity ∈ coroutines.activities holder := by
    intro holder activity there
    exact (shift.listed there).resolve_left fun none => by cases none.2
  have shorter : ∀ holder, List.Sublist ((coroutines.put thread rest).activities holder)
      (coroutines.activities holder) := by
    intro holder
    by_cases same : holder = thread
    · subst same
      rw [shift.activities, Function.update_self, top]
      exact List.sublist_cons_self _ _
    · rw [shift.elsewhere same]
  have left : (coroutines.put thread rest).Valid := by
    apply valid.shuffle running ⟨shift, rfl⟩ rfl rfl
    · intro other parent below same
      rw [top] at same
      cases same
    · exact fun _ none => by cases none
    · exact fun _ => rfl
    · exact fun _ => Nat.le_refl _
    · intro activity old
      cases List.mem_singleton.mp old
      rfl
    · exact fun _ none => by cases none
    · constructor
      · exact fun holder from_ to_ there => sound.assigned.emptied holder from_ to_ (fewer there)
      · exact fun holder => (sound.assigned.once holder).sublist ((shorter holder).filterMap _)
      · intro first second differs task one two
        exact sound.assigned.apart first second differs task (((shorter first).filterMap _).mem one)
          (((shorter second).filterMap _).mem two)
    · refine shift.housed sound.housed (fun _ => .inl) fun _ _ old => ?_
      cases List.mem_singleton.mp old
  have moved := left.sound running
  have given : ((coroutines.put thread rest).setCoroutine source none).Sound coroutine_ :=
    moved.give held
  have taken : (((coroutines.put thread rest).setCoroutine source none).setCoroutine target
      coroutine_).Sound none := by
    apply given.take
    · rintro frame rfl
      exact moved.unlinked held
    · have empty := (sound.assigned.emptied thread source target listed).2
      rw [held_setCoroutine]
      split
      case isTrue same =>
        change (coroutines.held source).map _ = _
        rw [held]
        rfl
      case isFalse => exact empty
    · intro holder other there
      have named : target ∈ ((coroutines.put thread rest).activities holder).filterMap
          Activity.target := List.mem_filterMap.mpr ⟨_, there, rfl⟩
      by_cases same : holder = thread
      · subst same
        have once := sound.assigned.once holder
        rw [shift.activities, Function.update_self] at named
        rw [top] at once
        exact (List.nodup_cons.mp once).1 named
      · rw [shift.elsewhere same] at named
        exact sound.assigned.apart thread holder (Ne.symm same) target
          (List.mem_filterMap.mpr ⟨_, listed, rfl⟩) named
  exact .of_sound taken (valid.records running) valid.defined

theorem Valid.goOn (valid : coroutines.Valid) (running : coroutines.terminated = false)
    (taken : coroutines.goOn thread = some next) : next.Valid := by
  have sound := valid.sound running
  have records := valid.records running
  unfold Coroutines.goOn at taken
  split at taken
  case h_1 gate frame rest top => exact valid.awaitResume sound records top taken
  case h_2 gate frame rest top =>
    split at taken
    case isTrue => cases taken
    case isFalse =>
      cases taken
      exact valid.finalSuspend sound records top
  case h_3 gate frame rest top =>
    cases taken
    exact valid.suspended running top
  case h_4 gate rest top =>
    cases taken
    exact valid.leave running top
  case h_5 gate frame rest top =>
    split at taken
    case h_1 child awaits => exact valid.destroyAwaiter running top awaits taken
    case h_2 alone =>
      split at taken
      case isTrue => cases taken
      case isFalse empty =>
        cases taken
        exact valid.destroyed running top alone (Bool.eq_false_iff.mpr empty)
  case h_6 source target rest top =>
    have exists_ := (sound.assigned.emptied thread source target
      (by rw [top]; exact List.mem_cons_self)).1
    split at taken
    case h_1 coroutine_ held =>
      cases taken
      exact valid.assigned running top held
    case h_2 absent => exact absurd absent exists_
  case h_7 => cases taken

end Coroutines

end MiniTrantor.Coroutine.Tasks
