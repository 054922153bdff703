import MiniTrantor.Coroutine.Tasks.Turns

/-!
# Frames that are destroyed

`destroyFrame` is called for a frame that has no owner any more. It terminates the program
when the frame is under a gate with an execution; otherwise the frame was suspended or done.
-/

set_option autoImplicit false

namespace MiniTrantor.Coroutine.Tasks

namespace Coroutines

variable {Value Failure : Type} {coroutines next : Coroutines Value Failure} {thread : Thread}
  {frame : FrameId} {rest base : List Activity} {loose : Option FrameId}

/-- A frame that nobody has, and how it is destroyed. -/
structure Destroys (coroutines next : Coroutines Value Failure) (thread : Thread)
    (loose : Option FrameId) (frame : FrameId) : Prop where
  known : frame < coroutines.controls.created
  only : ∀ other, loose = some other → other = frame
  unheld : ∀ holder, coroutines.holding holder ≠ some frame
  clear : coroutines.Clear thread
  free : coroutines.gateOpen thread (coroutines.gate frame) = true
  still : (∃ point, coroutines.status frame = .suspended point) ∨ coroutines.status frame = .done
  quiet : coroutines.executions (coroutines.gate frame) = 0 ∨ coroutines.status frame = .done
  turn : Turn coroutines next thread [] [.destroying (coroutines.gate frame) frame]
    (coroutines.activities thread)
  frames : next.frames = Function.update coroutines.frames frame
    { coroutines.frames frame with status := .destroyed, handle := false }
  executions : next.executions = coroutines.executions

namespace Destroys

variable (destroys : Destroys coroutines next thread loose frame)
include destroys

theorem awaiters : next.awaiter = coroutines.awaiter := awaiter_same destroys.frames rfl

theorem gone : next.status frame = .destroyed := by
  rw [status_update destroys.frames, Function.update_self]

theorem others {other : FrameId} (differs : other ≠ frame) :
    next.status other = coroutines.status other := by
  rw [status_update destroys.frames, Function.update_of_ne differs]

theorem unawaited {parent child : FrameId} (awaits : coroutines.awaiter parent = some child) :
    child ≠ frame := by
  rintro rfl
  exact destroys.unheld (.awaiter parent) awaits

theorem alive : coroutines.status frame ≠ .destroyed := by
  obtain ⟨point, at_⟩ | at_ := destroys.still <;> rw [at_] <;> simp

theorem asleep : (coroutines.status frame).thread = none := by
  obtain ⟨point, at_⟩ | at_ := destroys.still <;> rw [at_] <;> rfl

theorem threaded (threaded : coroutines.Threaded) : next.Threaded := by
  apply threaded.replace destroys.turn.top destroys.turn.activities destroys.turn.mutex
  · intro activity listed other locks
    cases List.mem_singleton.mp listed
    cases locks
    exact destroys.free
  · intro other
    rw [destroys.executions]
    rfl
  · rw [destroys.turn.activities]
    apply threaded.running.none Threaded.own destroys.turn.top rfl rfl
    intro item
    by_cases this : item = frame
    · subst this
      exact .inr ⟨destroys.asleep, by rw [destroys.gone]; rfl⟩
    · exact .inl (destroys.others this)
  · intro other doing item listed
    cases List.mem_singleton.mp listed
  · intro holder item _
    rw [destroys.turn.gates]

theorem owned (owned : SoleOwnership coroutines.holding loose coroutines.Owed) :
    SoleOwnership next.holding none next.Owed := by
  rw [destroys.turn.holding destroys.awaiters]
  apply owned.dismiss destroys.only destroys.unheld
  · exact fun owes => owes.2.1 destroys.gone
  · intro other differs
    unfold Owed
    rw [destroys.others differs, destroys.turn.controls, detached_same destroys.frames rfl]

theorem linked (linked : coroutines.Linked loose) : next.Linked none := by
  have old : ∀ {other}, next.status other ≠ .destroyed →
      other ≠ frame ∧ coroutines.status other ≠ .destroyed := by
    intro other living
    have differs : other ≠ frame := by
      rintro rfl
      exact living destroys.gone
    exact ⟨differs, destroys.others differs ▸ living⟩
  constructor
  · rw [destroys.turn.controls]
    exact linked.shared
  · intro other created living
    rw [destroys.turn.controls] at created ⊢
    exact linked.alive other created (old living).2
  · intro parent child listed
    rw [destroys.turn.controls] at listed
    rw [destroys.awaiters]
    by_cases this : child = frame
    · subst this
      exact .inl destroys.gone
    · rw [destroys.others this]
      obtain dead | awaits | away := linked.children parent child listed
      · exact .inl dead
      · exact .inr (.inl awaits)
      · exact absurd (destroys.only child away) this
  · rw [destroys.turn.controls, destroys.awaiters]
    exact linked.listed
  · rw [continuation_same destroys.frames rfl, destroys.awaiters]
    exact linked.continued
  · intro parent child awaits living
    rw [continuation_same destroys.frames rfl] at awaits
    rw [destroys.awaiters]
    obtain ⟨differs, living⟩ := old living
    obtain awaits | away := linked.awaited parent child awaits living
    · exact .inl awaits
    · exact absurd (destroys.only child away) differs
  · rw [destroys.awaiters, destroys.turn.gates]
    exact linked.together

/-- The frame destroys its own awaiter next, if it has one. -/
theorem unwinds (sound : coroutines.Sound loose) {child : FrameId}
    (awaits : coroutines.awaiter frame = some child) :
    next.activities thread = .destroying (coroutines.gate child) frame ::
        coroutines.activities thread ∧ coroutines.executions (coroutines.gate child) = 0 := by
  rw [sound.linked.together frame child awaits]
  constructor
  · rw [destroys.turn.activities, Function.update_self]
    rfl
  · apply destroys.quiet.resolve_right
    intro ended
    obtain waits | ⟨holder, runs⟩ | dead := sound.waiting.others frame (by rw [awaits]; simp)
    · rw [ended] at waits
      cases waits
    · rw [ended] at runs
      cases runs
    · exact destroys.alive dead

theorem waiting (sound : coroutines.Sound loose) : next.Waiting := by
  have old : ∀ {other status}, next.status other = status → status ≠ .destroyed →
      coroutines.status other = status := by
    intro other status at_ living
    have differs : other ≠ frame := by
      rintro rfl
      exact living (at_.symm.trans destroys.gone)
    exact (destroys.others differs).symm.trans at_
  constructor
  · intro parent child awaits waits
    rw [destroys.awaiters] at awaits
    rw [destroys.others (destroys.unawaited awaits)]
    by_cases this : parent = frame
    · subst this
      have awaiting : coroutines.awaiter parent ≠ none := by rw [awaits]; simp
      obtain waits | ⟨holder, runs⟩ | dead := sound.waiting.others parent awaiting
      · exact sound.waiting.suspended parent child awaits (.inl waits)
      · have asleep := destroys.asleep
        rw [runs] at asleep
        cases asleep
      · exact absurd dead destroys.alive
    · rw [destroys.others this] at waits
      exact sound.waiting.suspended parent child awaits waits
  · intro parent child holder awaits runs
    rw [destroys.awaiters] at awaits
    rw [destroys.others (destroys.unawaited awaits)]
    exact sound.waiting.returns parent child holder awaits (old runs (by simp))
  · intro parent child awaits dead
    rw [destroys.awaiters] at awaits
    rw [destroys.turn.gates, destroys.executions]
    by_cases this : parent = frame
    · subst this
      exact ⟨thread, _, destroys.unwinds sound awaits⟩
    · rw [destroys.others this] at dead
      obtain ⟨other, rest, apart, top, quiet, _⟩ := sound.elsewhere destroys.clear awaits dead
      exact ⟨other, rest, by rwa [destroys.turn.elsewhere apart], quiet⟩
  · intro other waits
    rw [destroys.awaiters]
    exact sound.waiting.awaiting other (old waits (by simp))
  · intro other awaits
    rw [destroys.awaiters] at awaits
    by_cases this : other = frame
    · subst this
      exact .inr (.inr destroys.gone)
    · rw [destroys.others this]
      exact sound.waiting.others other awaits
  · intro holder gate doing item listed
    rw [destroys.awaiters]
    obtain ⟨_, new⟩ | old := destroys.turn.listed listed
    · cases List.mem_singleton.mp new
    · exact sound.waiting.bodies holder gate doing item old
  · intro holder gate item listed
    rw [destroys.awaiters]
    obtain ⟨_, new⟩ | old := destroys.turn.listed listed
    · cases List.mem_singleton.mp new
    · exact sound.waiting.returning holder gate item old
  · intro holder gate item listed
    obtain ⟨_, new⟩ | old := destroys.turn.listed listed
    · cases List.mem_singleton.mp new
      exact destroys.gone
    · by_cases this : item = frame
      · exact this ▸ destroys.gone
      · rw [destroys.others this]
        exact sound.waiting.unwinding holder gate item old

theorem sound (sound : coroutines.Sound loose) : next.Sound none where
  threaded := destroys.threaded sound.threaded
  owned := destroys.owned sound.owned
  linked := destroys.linked sound.linked
  waiting := destroys.waiting sound
  assigned := by
    apply destroys.turn.assigned sound.assigned
    intro activity listed
    cases List.mem_singleton.mp listed
    rfl
  housed := by
    apply destroys.turn.housed sound.housed
    · intro other dead
      by_cases this : other = frame
      · subst this
        exact .inr ⟨_, List.mem_singleton_self _⟩
      · rw [destroys.others this] at dead
        exact .inl dead
    · exact fun _ _ => List.not_mem_nil
  fresh := destroys.turn.fresh sound.fresh destroys.known destroys.frames

end Destroys

theorem Threaded.put_self (threaded : coroutines.Threaded) :
    coroutines.put thread (coroutines.activities thread) = coroutines := by
  have same : (coroutines.put thread (coroutines.activities thread)).mutex = coroutines.mutex := by
    funext gate
    have locked := threaded.locked thread gate
    rw [put_mutex]
    split
    case isTrue found =>
      obtain ⟨activity, listed, locks⟩ := List.any_eq_true.mp found
      exact (locked.mpr ⟨activity, listed, eq_of_beq locks⟩).symm
    case isFalse none =>
      split
      case isTrue mine =>
        obtain ⟨activity, listed, locks⟩ := locked.mp mine
        refine absurd ?_ none
        exact List.any_eq_true.mpr ⟨activity, listed, beq_iff_eq.mpr locks⟩
      case isFalse => rfl
  have kept : Function.update coroutines.activities thread (coroutines.activities thread) =
      coroutines.activities := Function.update_eq_self _ _
  unfold put at same ⊢
  rw [kept] at same ⊢
  simp only at same
  rw [same]

/-- What `destroyFrame` does above what is left of the activities of the thread. -/
theorem destroyFrame_cases (taken : coroutines.destroyFrame thread frame base = some next) :
    coroutines.gateOpen thread (coroutines.gate frame) = true ∧
      (coroutines.status frame = .destroyed ∧ next = coroutines.fault ∨
        (coroutines.executions (coroutines.gate frame) ≠ 0 ∧ coroutines.status frame ≠ .done) ∧
          next = { coroutines with terminated := true } ∨
        (coroutines.executions (coroutines.gate frame) = 0 ∨ coroutines.status frame = .done) ∧
          coroutines.status frame ≠ .destroyed ∧
          next = coroutines.destroy thread (coroutines.gate frame) frame base) := by
  obtain ⟨free, taken⟩ := Option.ite_none_right_eq_some.mp taken
  refine ⟨free, ?_⟩
  cases taken
  split
  case isTrue dead => exact .inl ⟨dead, rfl⟩
  case isFalse alive =>
    split
    case isTrue busy => exact .inr (.inl ⟨busy, rfl⟩)
    case isFalse idle =>
      refine .inr (.inr ⟨?_, alive, rfl⟩)
      by_cases none : coroutines.executions (coroutines.gate frame) = 0
      · exact .inl none
      · exact .inr (Decidable.byContradiction fun other => idle ⟨none, other⟩)

theorem destroy_eq (still : (∃ point, coroutines.status frame = .suspended point) ∨
      coroutines.status frame = .done) (gate : Gate) :
    coroutines.destroy thread gate frame base =
      ((coroutines.change frame fun old => { old with status := .destroyed, handle := false }).emit
        (.destroyed frame)).put thread (.destroying gate frame :: base) := by
  unfold destroy
  obtain ⟨point, at_⟩ | at_ := still <;> rw [at_]

/-- The frame is destroyed above what is left of the activities of the thread. -/
theorem Destroys.of_put (kept : (coroutines.put thread base).mutex = coroutines.mutex)
    (known : frame < coroutines.controls.created)
    (only : ∀ other, loose = some other → other = frame)
    (unheld : ∀ holder, coroutines.holding holder ≠ some frame)
    (clear : (coroutines.put thread base).Clear thread)
    (free : coroutines.gateOpen thread (coroutines.gate frame) = true)
    (still : (∃ point, coroutines.status frame = .suspended point) ∨
      coroutines.status frame = .done)
    (quiet : coroutines.executions (coroutines.gate frame) = 0 ∨ coroutines.status frame = .done) :
    Destroys (coroutines.put thread base)
      (coroutines.destroy thread (coroutines.gate frame) frame base) thread loose frame := by
  rw [destroy_eq still]
  have top : (coroutines.put thread base).activities thread = base := Function.update_self ..
  constructor
  · exact known
  · exact only
  · exact unheld
  · exact clear
  · unfold gateOpen at free ⊢
    rw [kept]
    exact free
  · exact still
  · exact quiet
  · refine ⟨⟨?_, ?_, ?_, ?_, ?_, ?_⟩, ?_⟩
    · rfl
    · rw [top]
      exact (Function.update_idem ..).symm
    · rw [top]
      funext gate
      change (coroutines.put thread _).mutex gate = _
      rw [put_mutex, put_mutex, kept]
      rfl
    · rfl
    · rfl
    · rfl
    · rfl
  · rfl
  · rfl

/-- A loose frame is destroyed, or the program is terminated. -/
theorem Sound.destroyFrame (sound : (coroutines.put thread base).Sound (some frame))
    (kept : (coroutines.put thread base).mutex = coroutines.mutex)
    (clear : (coroutines.put thread base).Clear thread)
    (taken : coroutines.destroyFrame thread frame base = some next) :
    next.undefined = coroutines.undefined ∧ (next.terminated = true ∨ next.Sound none ∧
      next.frames = Function.update coroutines.frames frame
        { coroutines.frames frame with status := .destroyed, handle := false }) := by
  have owes := sound.owned.loosened rfl
  obtain ⟨free, ⟨dead, _⟩ | ⟨_, rfl⟩ | ⟨quiet, alive, rfl⟩⟩ := destroyFrame_cases taken
  · exact absurd dead owes.2.1
  · exact ⟨rfl, .inl rfl⟩
  · have still := sound.threaded.still quiet alive
    have destroys : Destroys (coroutines.put thread base)
        (coroutines.destroy thread (coroutines.gate frame) frame base) thread (some frame) frame :=
      .of_put kept owes.1 (fun other same => (Option.some.inj same).symm)
        (fun holder held => sound.owned.apart held rfl) clear free still quiet
    refine ⟨?_, .inr ⟨destroys.sound sound, destroys.frames⟩⟩
    have result := @destroy_eq _ _ coroutines thread frame base still (coroutines.gate frame)
    rw [result]
    rfl

end Coroutines

end MiniTrantor.Coroutine.Tasks
