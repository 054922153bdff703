import MiniTrantor.Coroutine.Tasks.Adoption
import MiniTrantor.Coroutine.Tasks.Destruction

/-!
# Frames that come and go

What the remaining parts of a step leave true: a coroutine is created, a control expires, an
`Awaiter` ends, and an activity is over in which no frame runs.
-/

set_option autoImplicit false

namespace MiniTrantor.Coroutine.Tasks

open Custody (InStep marked)

namespace Coroutines

variable {Value Failure : Type} {coroutines next : Coroutines Value Failure} {thread : Thread}
  {gate : Gate} {parent child frame : FrameId} {old new rest : List Activity}
  {loose : Option FrameId} {record : Frame Value Failure}

section

variable (frames : next.frames = Function.update coroutines.frames frame record)
  (same : next = { coroutines with frames := next.frames, trace := next.trace })
include frames same

theorem holding_of (awaiter : record.awaiter = coroutines.awaiter frame) :
    next.holding = coroutines.holding := by
  funext holder
  cases holder with
  | task task =>
      rw [same]
      rfl
  | awaiter other => exact congrFun (awaiter_same frames awaiter) other

/-- A frame changes in what only its owner knows of. -/
theorem Sound.revise (sound : coroutines.Sound loose)
    (known : frame < coroutines.controls.created)
    (status : record.status = coroutines.status frame)
    (awaiter : record.awaiter = coroutines.awaiter frame)
    (continuation : record.continuation_ = coroutines.continuation frame) {given : Option FrameId}
    (owned : SoleOwnership next.holding given next.Owed) (linked : coroutines.Linked given) :
    next.Sound given := by
  have statuses := status_same frames status
  have awaiters := awaiter_same frames awaiter
  have continuations := continuation_same frames continuation
  have controls : next.controls = coroutines.controls := by rw [same]
  have mutex : next.mutex = coroutines.mutex := by rw [same]
  have executions : next.executions = coroutines.executions := by rw [same]
  have activities : next.activities = coroutines.activities := by rw [same]
  have gates : next.gate = coroutines.gate := by
    funext other
    unfold gate
    rw [controls]
  refine ⟨?_, owned, ?_, ?_, ?_, ?_, ?_⟩
  · obtain ⟨locked, counted, idle, running, under⟩ := sound.threaded
    rw [← mutex, ← activities] at locked
    rw [← mutex, ← activities, ← executions] at counted
    rw [← mutex, ← executions] at idle
    rw [← activities, ← statuses] at running
    rw [← activities, ← gates] at under
    exact ⟨locked, counted, idle, running, under⟩
  · obtain ⟨shared, alive, children, listed, continued, awaited, together⟩ := linked
    rw [← controls] at shared
    rw [← controls, ← statuses] at alive
    rw [← controls, ← statuses, ← awaiters] at children
    rw [← controls, ← awaiters] at listed
    rw [← awaiters, ← continuations] at continued
    rw [← awaiters, ← continuations, ← statuses] at awaited
    rw [← awaiters, ← gates] at together
    exact ⟨shared, alive, children, listed, continued, awaited, together⟩
  · obtain ⟨suspended, returns, destroyed, awaiting, others, bodies, returning, unwinding⟩ :=
      sound.waiting
    rw [← awaiters, ← statuses] at suspended returns awaiting others
    rw [← awaiters, ← statuses, ← activities, ← gates, ← executions] at destroyed
    rw [← awaiters, ← activities] at bodies returning
    rw [← statuses, ← activities] at unwinding
    exact ⟨suspended, returns, destroyed, awaiting, others, bodies, returning, unwinding⟩
  · rw [same]
    exact ⟨sound.assigned.emptied, sound.assigned.once, sound.assigned.apart⟩
  · refine ⟨?_, ?_, ?_⟩
    · rw [same]
      exact sound.housed.bounded
    · rw [statuses]
      rw [same]
      exact sound.housed.homes
    · rw [same]
      exact sound.housed.hosts
  · intro other created
    rw [controls] at created
    have differs : other ≠ frame := by
      rintro rfl
      exact absurd known (Nat.not_lt.mpr created)
    rw [frames, Function.update_of_ne differs]
    exact sound.fresh other created

/-- A frame changes in what nobody else knows of. -/
theorem Sound.rewrite (sound : coroutines.Sound loose)
    (known : frame < coroutines.controls.created)
    (status : record.status = coroutines.status frame)
    (awaiter : record.awaiter = coroutines.awaiter frame)
    (continuation : record.continuation_ = coroutines.continuation frame)
    (detached : record.detached_ = coroutines.detached frame) : next.Sound loose := by
  apply sound.revise frames same known status awaiter continuation _ sound.linked
  rw [holding_of frames same awaiter]
  apply sound.owned.congr fun _ => rfl
  intro other
  unfold Owed
  rw [status_same frames status, detached_same frames detached, same]

/-- A loose frame that was never awaited is detached. -/
theorem Sound.detach (sound : coroutines.Sound (some frame)) (unlinked : coroutines.Unlinked frame)
    (status : record.status = coroutines.status frame)
    (awaiter : record.awaiter = coroutines.awaiter frame)
    (continuation : record.continuation_ = coroutines.continuation frame)
    (detached : record.detached_ = true) : next.Sound none := by
  apply sound.revise frames same (sound.owned.loosened rfl).1 status awaiter continuation
  · rw [holding_of frames same awaiter]
    apply sound.owned.dismiss
    · exact fun other away => (Option.some.inj away).symm
    · exact fun holder held => sound.owned.apart held rfl
    · intro owes
      have gone := owes.2.2
      rw [detached_update frames, Function.update_self, detached] at gone
      cases gone
    · intro other differs
      unfold Owed
      rw [status_same frames status, detached_update frames, Function.update_of_ne differs, same]
  · apply sound.linked.settle
    intro other away
    cases away
    exact unlinked

end

theorem Sound.emit (sound : coroutines.Sound loose) (event : Event Value Failure) :
    (coroutines.emit event).Sound loose where
  threaded := ⟨sound.threaded.locked, sound.threaded.counted, sound.threaded.idle,
    sound.threaded.running, sound.threaded.under⟩
  owned := sound.owned.congr (fun _ => rfl) fun _ => .rfl
  linked := ⟨sound.linked.shared, sound.linked.alive, sound.linked.children, sound.linked.listed,
    sound.linked.continued, sound.linked.awaited, sound.linked.together⟩
  waiting := ⟨sound.waiting.suspended, sound.waiting.returns, sound.waiting.destroyed,
    sound.waiting.awaiting, sound.waiting.others, sound.waiting.bodies, sound.waiting.returning,
    sound.waiting.unwinding⟩
  assigned := ⟨sound.assigned.emptied, sound.assigned.once, sound.assigned.apart⟩
  housed := ⟨sound.housed.bounded, sound.housed.homes, sound.housed.hosts⟩
  fresh := sound.fresh

/-- An activity in which no frame runs begins or ends. -/
theorem Sound.shuffle (sound : coroutines.Sound loose)
    (turn : Turn coroutines next thread old new rest) (frames : next.frames = coroutines.frames)
    (clear : coroutines.Clear thread)
    (opened : ∀ activity ∈ new, ∀ gate, activity.locks = some gate →
      coroutines.gateOpen thread gate = true)
    (counts : ∀ gate, next.executions gate + old.countP (Activity.executes gate) =
      coroutines.executions gate + new.countP (Activity.executes gate))
    (fewer : ∀ gate, next.executions gate ≤ coroutines.executions gate)
    (idle : ∀ activity ∈ old, activity.marks thread = [])
    (plain : ∀ activity ∈ new, (∃ gate, activity = .execution gate .over) ∨
      ∃ source target, activity = .assigning source target)
    (assigned : next.Assigned) (housed : next.Housed) : next.Sound loose := by
  have statuses : next.status = coroutines.status := by
    funext other
    unfold status
    rw [frames]
  have awaiters : next.awaiter = coroutines.awaiter := by
    funext other
    unfold awaiter
    rw [frames]
  have continuations : next.continuation = coroutines.continuation := by
    funext other
    unfold continuation
    rw [frames]
  have detacheds : next.detached = coroutines.detached := by
    funext other
    unfold detached
    rw [frames]
  have alive : ∀ other, next.status other = .destroyed ↔ coroutines.status other = .destroyed := by
    intro other
    rw [statuses]
  have unmarked : ∀ activity ∈ new, activity.marks thread = [] := by
    intro activity listed
    obtain ⟨gate, rfl⟩ | ⟨source, target, rfl⟩ := plain activity listed <;> rfl
  have executes : ∀ {holder gate doing}, .execution gate doing ∈ next.activities holder →
      doing = .over ∨ .execution gate doing ∈ coroutines.activities holder := by
    intro holder gate doing listed
    obtain ⟨_, first⟩ | second := turn.listed listed
    · obtain ⟨other, same⟩ | ⟨source, target, same⟩ := plain _ first
      · cases same
        exact .inl rfl
      · cases same
    · exact .inr second
  have threaded : next.Threaded := by
    apply sound.threaded.replace turn.top turn.activities turn.mutex opened counts
    · rw [turn.activities, statuses]
      exact sound.threaded.running.none Threaded.own turn.top (List.flatMap_eq_nil_iff.mpr idle)
        (List.flatMap_eq_nil_iff.mpr unmarked) fun _ => .inl rfl
    · intro other doing item listed runs
      obtain ⟨gate, same⟩ | ⟨source, target, same⟩ := plain _ listed
      · cases same
        cases runs
      · cases same
    · intro holder item _
      rw [turn.gates]
  refine ⟨threaded, turn.owned sound.owned awaiters detacheds alive,
    turn.linked sound.linked awaiters continuations alive, ?_, assigned, housed, ?_⟩
  · constructor
    · rw [awaiters, statuses]
      exact sound.waiting.suspended
    · rw [awaiters, statuses]
      exact sound.waiting.returns
    · intro parent child awaits dead
      rw [awaiters] at awaits
      obtain ⟨other, rest, apart, top, quiet, _⟩ :=
        sound.elsewhere clear awaits ((alive parent).mp dead)
      rw [turn.gates]
      refine ⟨other, rest, by rwa [turn.elsewhere apart], ?_⟩
      exact Nat.le_zero.mp (quiet ▸ fewer _)
    · rw [awaiters, statuses]
      exact sound.waiting.awaiting
    · rw [awaiters, statuses]
      exact sound.waiting.others
    · intro holder other doing item listed body
      rw [awaiters]
      obtain same | old := executes listed
      · rw [same] at body
        obtain body | body := body <;> cases body
      · exact sound.waiting.bodies holder other doing item old body
    · intro holder other item listed
      rw [awaiters]
      obtain same | old := executes listed
      · cases same
      · exact sound.waiting.returning holder other item old
    · intro holder other item listed
      rw [statuses]
      obtain ⟨_, first⟩ | second := turn.listed listed
      · obtain ⟨gate, same⟩ | ⟨source, target, same⟩ := plain _ first <;> cases same
      · exact sound.waiting.unwinding holder other item second
  · rw [turn.created, frames]
    exact sound.fresh

/-- The `Awaiter` of a frame ends, before its own frame does or with it. -/
structure Releases (coroutines next : Coroutines Value Failure) (thread : Thread)
    (parent child : FrameId) (old new rest : List Activity) : Prop where
  awaits : coroutines.awaiter parent = some child
  turn : Turn coroutines next thread old new rest
  frames : next.frames = Function.update coroutines.frames parent
    { coroutines.frames parent with awaiter := none }
  executions : next.executions = coroutines.executions
  ends : old = [] ∧ new = [] ∧
      (∃ gate below, coroutines.activities thread = .destroying gate parent :: below) ∨
    ∃ gate, old = [.execution gate (.returning parent)] ∧ new = [.execution gate (.body parent)]

namespace Releases

variable (releases : Releases coroutines next thread parent child old new rest)
include releases

theorem statuses : next.status = coroutines.status := status_same releases.frames rfl

theorem left : next.awaiter parent = none := by
  rw [awaiter_update releases.frames, Function.update_self]

theorem others {other : FrameId} (differs : other ≠ parent) :
    next.awaiter other = coroutines.awaiter other := by
  rw [awaiter_update releases.frames, Function.update_of_ne differs]

theorem still {other item : FrameId} (awaits : next.awaiter other = some item) :
    other ≠ parent ∧ coroutines.awaiter other = some item := by
  have differs : other ≠ parent := by
    rintro rfl
    rw [releases.left] at awaits
    cases awaits
  exact ⟨differs, releases.others differs ▸ awaits⟩

theorem clear : next.Clear thread := by
  intro gate other below top
  rw [releases.turn.activities, Function.update_self] at top
  obtain ⟨rfl, rfl, gate', below', held⟩ | ⟨gate', rfl, rfl⟩ := releases.ends
  · rw [releases.turn.top] at held
    cases held.symm.trans top
    exact releases.left
  · cases top

theorem threaded (threaded : coroutines.Threaded) : next.Threaded := by
  obtain ⟨rfl, rfl, _⟩ | ⟨gate, rfl, rfl⟩ := releases.ends
  · apply threaded.replace releases.turn.top releases.turn.activities releases.turn.mutex
    · exact fun _ listed => absurd listed List.not_mem_nil
    · exact fun _ => by rw [releases.executions]
    · rw [releases.turn.activities, releases.statuses]
      exact threaded.running.none Threaded.own releases.turn.top rfl rfl fun _ => .inl rfl
    · exact fun _ _ _ listed => absurd listed List.not_mem_nil
    · exact fun _ _ _ => by rw [releases.turn.gates]
  · have listed : .execution gate (.returning parent) ∈ coroutines.activities thread := by
      rw [releases.turn.top]
      exact List.mem_cons_self
    have runs := threaded.running_of listed rfl
    apply threaded.replace releases.turn.top releases.turn.activities releases.turn.mutex
    · intro activity listed' other locks
      cases List.mem_singleton.mp listed'
      cases locks
      exact (coroutines.gateOpen_iff thread gate).mpr (.inr (threaded.counts listed).1)
    · exact fun _ => by rw [releases.executions]; rfl
    · rw [releases.turn.activities, releases.statuses]
      apply threaded.running.single Threaded.own releases.turn.top (marked_execution rfl)
      · left
        rw [runs]
        exact marked_execution rfl
      · exact fun _ _ => rfl
    · intro other doing item listed' runs'
      cases List.mem_singleton.mp listed'
      cases runs'
      rw [releases.turn.gates]
      exact threaded.under thread gate _ parent listed rfl
    · exact fun _ _ _ => by rw [releases.turn.gates]

theorem owned (owned : SoleOwnership coroutines.holding none coroutines.Owed) :
    SoleOwnership next.holding (some child) next.Owed := by
  have held : coroutines.holding (.awaiter parent) = some child := releases.awaits
  have given : SoleOwnership next.holding (some child) coroutines.Owed := by
    apply owned.give held releases.left
    intro holder differs
    cases holder with
    | task task => simp only [holding, releases.turn.held]
    | awaiter other => exact releases.others fun same => differs (congrArg Holder.awaiter same)
  apply given.congr fun _ => rfl
  intro other
  unfold Owed
  rw [releases.turn.controls, releases.statuses, detached_same releases.frames rfl]

theorem linked (linked : coroutines.Linked none) : next.Linked (some child) := by
  constructor
  · rw [releases.turn.controls]
    exact linked.shared
  · rw [releases.turn.controls, releases.statuses]
    exact linked.alive
  · intro other item listed
    rw [releases.turn.controls] at listed
    rw [releases.statuses]
    obtain dead | awaits | none := linked.children other item listed
    · exact .inl dead
    · by_cases same : other = parent
      · subst same
        exact .inr (.inr (releases.awaits.symm.trans awaits))
      · exact .inr (.inl (releases.others same ▸ awaits))
    · cases none
  · intro other item awaits
    rw [releases.turn.controls]
    exact linked.listed other item (releases.still awaits).2
  · intro other item awaits
    rw [continuation_same releases.frames rfl]
    exact linked.continued other item (releases.still awaits).2
  · intro other item awaits living
    rw [continuation_same releases.frames rfl] at awaits
    rw [releases.statuses] at living
    obtain awaits | none := linked.awaited other item awaits living
    · by_cases same : other = parent
      · subst same
        exact .inr (releases.awaits.symm.trans awaits)
      · exact .inl (releases.others same ▸ awaits)
    · cases none
  · intro other item awaits
    rw [releases.turn.gates]
    exact linked.together other item (releases.still awaits).2

theorem waiting (sound : coroutines.Sound none) : next.Waiting := by
  have threaded := releases.threaded sound.threaded
  constructor
  · intro other item awaits
    rw [releases.statuses]
    exact sound.waiting.suspended other item (releases.still awaits).2
  · intro other item holder awaits
    rw [releases.statuses]
    exact sound.waiting.returns other item holder (releases.still awaits).2
  · intro other item awaits dead
    obtain ⟨differs, awaits⟩ := releases.still awaits
    rw [releases.statuses] at dead
    obtain ⟨holder, below, top, quiet⟩ := sound.waiting.destroyed other item awaits dead
    rw [releases.turn.gates, releases.executions]
    have apart : holder ≠ thread := by
      rintro rfl
      obtain ⟨_, _, gate, below', held⟩ | ⟨gate, rfl, _⟩ := releases.ends
      · cases top.symm.trans held
        exact differs rfl
      · cases top.symm.trans releases.turn.top
    exact ⟨holder, below, by rwa [releases.turn.elsewhere apart], quiet⟩
  · intro other waits
    rw [releases.statuses] at waits
    rw [releases.others]
    · exact sound.waiting.awaiting other waits
    · rintro rfl
      obtain ⟨_, _, gate, below, held⟩ | ⟨gate, rfl, _⟩ := releases.ends
      · rw [sound.waiting.unwinding thread gate other (held ▸ List.mem_cons_self)] at waits
        cases waits
      · have listed : .execution gate (.returning other) ∈ coroutines.activities thread := by
          rw [releases.turn.top]
          exact List.mem_cons_self
        rw [sound.threaded.running_of listed rfl] at waits
        cases waits
  · intro other awaits
    obtain ⟨item, has⟩ := Option.ne_none_iff_exists'.mp awaits
    rw [releases.statuses]
    exact sound.waiting.others other (by rw [(releases.still has).2]; simp)
  · intro holder other doing item listed body
    by_cases same : item = parent
    · rw [same]
      exact releases.left
    · rw [releases.others same]
      obtain ⟨_, first⟩ | second := releases.turn.listed listed
      · obtain ⟨_, rfl, _⟩ | ⟨gate, _, rfl⟩ := releases.ends
        · cases first
        · cases List.mem_singleton.mp first
          obtain body | body := body <;> cases body
          exact absurd rfl same
      · exact sound.waiting.bodies holder other doing item second body
  · intro holder other item listed
    by_cases same : item = parent
    · subst same
      have runs := threaded.running_of listed rfl
      obtain ⟨_, _, gate, below, held⟩ | ⟨gate, _, rfl⟩ := releases.ends
      · rw [releases.statuses,
          sound.waiting.unwinding thread gate item (held ▸ List.mem_cons_self)] at runs
        cases runs
      · have top : next.activities thread = .execution gate (.body item) :: rest := by
          rw [releases.turn.activities, Function.update_self]
          rfl
        cases threaded.alone top rfl rfl listed
    · rw [releases.others same]
      obtain ⟨_, first⟩ | second := releases.turn.listed listed
      · obtain ⟨_, rfl, _⟩ | ⟨gate, _, rfl⟩ := releases.ends
        · cases first
        · cases List.mem_singleton.mp first
      · exact sound.waiting.returning holder other item second
  · intro holder other item listed
    rw [releases.statuses]
    obtain ⟨_, first⟩ | second := releases.turn.listed listed
    · obtain ⟨_, rfl, _⟩ | ⟨gate, _, rfl⟩ := releases.ends
      · cases first
      · cases List.mem_singleton.mp first
    · exact sound.waiting.unwinding holder other item second

theorem sound (sound : coroutines.Sound none) : next.Sound (some child) where
  threaded := releases.threaded sound.threaded
  owned := releases.owned sound.owned
  linked := releases.linked sound.linked
  waiting := releases.waiting sound
  assigned := by
    apply releases.turn.assigned sound.assigned
    intro activity listed
    obtain ⟨rfl, rfl, _⟩ | ⟨gate, rfl, rfl⟩ := releases.ends
    · cases listed
    · obtain first | second := List.mem_append.mp listed
      · cases List.mem_singleton.mp first
        rfl
      · cases List.mem_singleton.mp second
        rfl
  housed := by
    apply releases.turn.housed sound.housed
    · exact fun other dead => .inl (releases.statuses ▸ dead)
    · intro other item listed
      obtain ⟨rfl, _⟩ | ⟨gate, rfl, _⟩ := releases.ends
      · cases listed
      · cases List.mem_singleton.mp listed
  fresh := by
    apply releases.turn.fresh sound.fresh _ releases.frames
    by_contra new
    have none := congrArg Frame.awaiter (sound.fresh parent (Nat.le_of_not_lt new))
    rw [show (coroutines.frames parent).awaiter = some child from releases.awaits] at none
    cases none

end Releases

/-- Nobody has the control of a frame that is destroyed. -/
theorem Sound.expire (sound : coroutines.Sound loose)
    (dead : coroutines.status frame = .destroyed) :
    Sound { coroutines with controls := coroutines.controls.release frame } loose where
  threaded := ⟨sound.threaded.locked, sound.threaded.counted, sound.threaded.idle,
    sound.threaded.running, sound.threaded.under⟩
  owned := sound.owned.congr (fun _ => rfl) fun _ => .rfl
  linked := by
    refine ⟨sound.linked.shared.release frame, ?_, sound.linked.children, sound.linked.listed,
      sound.linked.continued, sound.linked.awaited, sound.linked.together⟩
    intro other created living
    have differs : other ≠ frame := by
      rintro rfl
      exact living dead
    simp only [FrameControls.release, Function.update_of_ne differs]
    exact sound.linked.alive other created living
  waiting := ⟨sound.waiting.suspended, sound.waiting.returns, sound.waiting.destroyed,
    sound.waiting.awaiting, sound.waiting.others, sound.waiting.bodies, sound.waiting.returning,
    sound.waiting.unwinding⟩
  assigned := ⟨sound.assigned.emptied, sound.assigned.once, sound.assigned.apart⟩
  housed := ⟨sound.housed.bounded, sound.housed.homes, sound.housed.hosts⟩
  fresh := sound.fresh

theorem Sound.awaited_known {loose : Option FrameId} (sound : coroutines.Sound loose)
    {parent child : FrameId} (awaits : coroutines.awaiter parent = some child) :
    child < coroutines.controls.created := by
  have holds : coroutines.holding (.awaiter parent) = some child := awaits
  exact (sound.owned.owes holds).1

theorem Sound.awaiting_known {loose : Option FrameId} (sound : coroutines.Sound loose)
    {parent child : FrameId} (awaits : coroutines.awaiter parent = some child) :
    parent < coroutines.controls.created := by
  by_contra unknown
  have none := congrArg Frame.awaiter (sound.fresh parent (Nat.le_of_not_lt unknown))
  rw [show (coroutines.frames parent).awaiter = some child from awaits] at none
  cases none

theorem create_gate {controls : FrameControls} {other : FrameId} (known : other < controls.created) :
    controls.create.gate other = controls.gate other := by
  simp only [FrameControls.create, Function.update_of_ne (Nat.ne_of_lt known)]

theorem of_create_children {controls : FrameControls} {parent child : FrameId}
    (listed : child ∈ controls.create.children parent) : child ∈ controls.children parent := by
  by_cases same : parent = controls.created
  · subst same
    simp [FrameControls.create] at listed
  · simpa only [FrameControls.create, Function.update_of_ne same] using listed

/-- Nothing is linked to a new control. -/
theorem Sound.create_linked (sound : coroutines.Sound none) :
    Linked { coroutines with controls := coroutines.controls.create }
      (some coroutines.controls.created) := by
  refine ⟨sound.linked.shared.create, ?_, ?_, ?_, sound.linked.continued, ?_, ?_⟩
  · intro other known living
    by_cases same : other = coroutines.controls.created
    · simp [FrameControls.create, same]
    · simp only [FrameControls.create, Function.update_of_ne same]
      exact sound.linked.alive other
        (Nat.lt_of_le_of_ne (Nat.le_of_lt_succ known) same) living
  · intro parent child listed
    obtain dead | awaits | none := sound.linked.children parent child (of_create_children listed)
    · exact .inl dead
    · exact .inr (.inl awaits)
    · cases none
  · intro parent child awaits
    change child ∈ coroutines.controls.create.children parent
    simp only [FrameControls.create, Function.update_of_ne (Nat.ne_of_lt (sound.awaiting_known awaits))]
    exact sound.linked.listed parent child awaits
  · intro parent child awaits living
    obtain awaits | none := sound.linked.awaited parent child awaits living
    · exact .inl awaits
    · cases none
  · intro parent child awaits
    change coroutines.controls.create.gate child = coroutines.controls.create.gate parent
    rw [create_gate (sound.awaited_known awaits), create_gate (sound.awaiting_known awaits)]
    exact sound.linked.together parent child awaits

/-- A coroutine is created, and its frame is loose. -/
theorem Sound.create (sound : coroutines.Sound none) :
    Sound { coroutines with
        controls := coroutines.controls.create
        frames := Function.update coroutines.frames coroutines.controls.created {} }
      (some coroutines.controls.created) ∧
    Unlinked { coroutines with
        controls := coroutines.controls.create
        frames := Function.update coroutines.frames coroutines.controls.created {} }
      coroutines.controls.created := by
  have blank := sound.fresh _ (Nat.le_refl _)
  have frames : Function.update coroutines.frames coroutines.controls.created {} =
      coroutines.frames := by
    rw [← blank, Function.update_eq_self]
  rw [frames]
  have created : coroutines.controls.create.created = coroutines.controls.created + 1 := rfl
  constructor
  · constructor
    · refine ⟨sound.threaded.locked, sound.threaded.counted, sound.threaded.idle,
        sound.threaded.running, ?_⟩
      intro holder other doing item listed runs
      have known := sound.known (sound.threaded.running_of listed runs)
      change coroutines.controls.create.gate item = other
      rw [create_gate known]
      exact sound.threaded.under holder other doing item listed runs
    · have holds : SoleOwnership coroutines.holding none coroutines.Owed := sound.owned
      apply holds.create
      · exact fun owes => absurd owes.1 (Nat.lt_irrefl _)
      · refine ⟨Nat.lt_succ_self _, ?_, ?_⟩
        · change (coroutines.frames coroutines.controls.created).status ≠ .destroyed
          rw [blank]
          simp
        · change (coroutines.frames coroutines.controls.created).detached_ = false
          rw [blank]
      · intro other differs
        have known : other < coroutines.controls.create.created ↔
            other < coroutines.controls.created := by
          rw [created, Nat.lt_succ_iff_lt_or_eq]
          exact ⟨fun known => known.resolve_right differs, .inl⟩
        exact and_congr_left fun _ => known
    · exact sound.create_linked
    · refine ⟨sound.waiting.suspended, sound.waiting.returns, ?_, sound.waiting.awaiting,
        sound.waiting.others, sound.waiting.bodies, sound.waiting.returning,
        sound.waiting.unwinding⟩
      intro parent child awaits dead
      unfold Coroutines.gate
      rw [create_gate (sound.awaited_known awaits)]
      exact sound.waiting.destroyed parent child awaits dead
    · exact ⟨sound.assigned.emptied, sound.assigned.once, sound.assigned.apart⟩
    · refine ⟨sound.housed.bounded, sound.housed.homes, ?_⟩
      exact fun task other at_ => Nat.lt_succ_of_lt (sound.housed.hosts task other at_)
    · intro other known
      exact sound.fresh other (Nat.le_of_succ_le known)
  · constructor
    · intro parent listed
      exact absurd (sound.linked.shared.known parent _ (of_create_children listed))
        (Nat.lt_irrefl _)
    · change (coroutines.frames coroutines.controls.created).continuation_ = none
      rw [blank]

end Coroutines

end MiniTrantor.Coroutine.Tasks
