import Mathlib

/-!
# Items that threads are in the middle of

Every item is in a phase, and some phases belong to a thread. A frame of a thread has marks:
the items that it is busy with and the phase of each. The marks are in step with the phases
if a phase that belongs to a thread is that of exactly one of its marks.
-/

set_option autoImplicit false

namespace MiniTrantor.Custody

variable {Thread Frame Item Phase : Type} {marks : Thread → Frame → List (Item × Phase)}
  {holder : Phase → Option Thread}

/-- The marks of the frames of a thread. -/
def marked (marks : Thread → Frame → List (Item × Phase)) (thread : Thread) (frames : List Frame) :
    List (Item × Phase) :=
  frames.flatMap (marks thread)

theorem named {item : Item} {list : List (Item × Phase)} :
    item ∈ list.map Prod.fst ↔ ∃ phase, (item, phase) ∈ list := by
  simp

structure InStep (marks : Thread → Frame → List (Item × Phase)) (holder : Phase → Option Thread)
    (frames : Thread → List Frame) (phases : Item → Phase) : Prop where
  exact : ∀ thread item phase, holder phase = some thread →
    ((item, phase) ∈ marked marks thread (frames thread) ↔ phases item = phase)
  once : ∀ thread, ((marked marks thread (frames thread)).map Prod.fst).Nodup

namespace InStep

variable {frames : Thread → List Frame} {phases later : Item → Phase}

theorem start (none : ∀ item, holder (phases item) = none) :
    InStep marks holder (fun _ => []) phases where
  exact thread item phase held := by
    simp only [marked, List.flatMap_nil, List.not_mem_nil, false_iff]
    intro same
    rw [← same, none] at held
    cases held
  once := by simp [marked]

theorem marked_append (thread : Thread) (above below : List Frame) :
    marked marks thread (above ++ below) =
      marked marks thread above ++ marked marks thread below := by
  simp [marked]

section

variable {thread : Thread} {item : Item} {phase : Phase} {old new rest : List Frame}
  (inStep : InStep marks holder frames phases)
  (own : ∀ thread frame item phase, (item, phase) ∈ marks thread frame → holder phase = some thread)
  (top : frames thread = old ++ rest)
  (others : ∀ item, item ∉ (marked marks thread old).map Prod.fst →
    item ∉ (marked marks thread new).map Prod.fst → later item = phases item ∨
      holder (phases item) = none ∧ holder (later item) = none)
  (now : ∀ item phase, (item, phase) ∈ marked marks thread new → later item = phase)
  (gone : ∀ item, item ∈ (marked marks thread old).map Prod.fst →
    item ∉ (marked marks thread new).map Prod.fst → holder (later item) = none)
  (came : ∀ item, item ∈ (marked marks thread new).map Prod.fst →
    item ∈ (marked marks thread old).map Prod.fst ∨ holder (phases item) = none)

include own

theorem marked_holder {list : List Frame} (member : (item, phase) ∈ marked marks thread list) :
    holder phase = some thread := by
  obtain ⟨frame, _, member⟩ := List.mem_flatMap.mp member
  exact own thread frame item phase member

include inStep

theorem phase_of (member : (item, phase) ∈ marked marks thread (frames thread)) :
    phases item = phase :=
  (inStep.exact thread item phase (marked_holder own member)).mp member

include top came

/-- What the frames below are busy with is none of the business of the new frames. -/
theorem below_apart (member : (item, phase) ∈ marked marks thread rest) :
    item ∉ (marked marks thread old).map Prod.fst ∧
      item ∉ (marked marks thread new).map Prod.fst := by
  have before := inStep.once thread
  rw [top, marked_append, List.map_append, List.nodup_append] at before
  have notOld : item ∉ (marked marks thread old).map Prod.fst :=
    fun above => before.2.2 item above item (named.mpr ⟨_, member⟩) rfl
  refine ⟨notOld, fun above => ?_⟩
  obtain above | free := came item above
  · exact notOld above
  · have listed : (item, phase) ∈ marked marks thread (frames thread) := by
      rw [top, marked_append]
      exact List.mem_append_right _ member
    rw [inStep.phase_of own listed, marked_holder own member] at free
    cases free

include others

theorem below_kept (member : (item, phase) ∈ marked marks thread rest) : later item = phase := by
  have listed : (item, phase) ∈ marked marks thread (frames thread) := by
    rw [top, marked_append]
    exact List.mem_append_right _ member
  have same := inStep.phase_of own listed
  obtain ⟨notOld, notNew⟩ := inStep.below_apart own top came member
  obtain unchanged | ⟨free, _⟩ := others item notOld notNew
  · exact unchanged.trans same
  · rw [same, marked_holder own member] at free
    cases free

include now gone

/-- The phases of the thread that replaces its frames. -/
theorem replace_exact (held : holder phase = some thread) :
    (item, phase) ∈ marked marks thread (new ++ rest) ↔ later item = phase := by
  rw [marked_append, List.mem_append]
  refine ⟨fun member => member.elim (now item phase)
    (inStep.below_kept own top others came), fun same => ?_⟩
  by_cases inNew : item ∈ (marked marks thread new).map Prod.fst
  · obtain ⟨phase', member⟩ := named.mp inNew
    rw [now item phase' member] at same
    exact .inl (same ▸ member)
  · by_cases inOld : item ∈ (marked marks thread old).map Prod.fst
    · rw [← same, gone item inOld inNew] at held
      cases held
    · obtain unchanged | ⟨_, free⟩ := others item inOld inNew
      · have member := (inStep.exact thread item phase held).mpr (unchanged.symm.trans same)
        rw [top, marked_append, List.mem_append] at member
        exact .inr (member.resolve_left fun above => inOld (named.mpr ⟨_, above⟩))
      · rw [← same, free] at held
        cases held

/-- The phases that belong to another thread. -/
theorem replace_elsewhere {other : Thread} (held : holder phase = some other)
    (elsewhere : other ≠ thread) : phases item = phase ↔ later item = phase := by
  have different : ∀ {phase'}, holder phase' = some thread → phase' ≠ phase := by
    intro phase' held' same
    rw [same, held] at held'
    exact elsewhere (Option.some.inj held')
  -- an item that the old frames were busy with was in a phase of theirs
  have was : item ∈ (marked marks thread old).map Prod.fst → phases item ≠ phase := by
    intro inOld same
    obtain ⟨phase', member⟩ := named.mp inOld
    have listed : (item, phase') ∈ marked marks thread (frames thread) := by
      rw [top, marked_append]
      exact List.mem_append_left _ member
    exact different (marked_holder own member) ((inStep.phase_of own listed).symm.trans same)
  by_cases inNew : item ∈ (marked marks thread new).map Prod.fst
  · obtain ⟨phase', member⟩ := named.mp inNew
    refine ⟨fun same => ?_, fun same => ?_⟩
    · obtain inOld | free := came item inNew
      · exact absurd same (was inOld)
      · rw [same, held] at free
        cases free
    · rw [now item phase' member] at same
      exact absurd same (different (marked_holder own member))
  · by_cases inOld : item ∈ (marked marks thread old).map Prod.fst
    · refine ⟨fun same => absurd same (was inOld), fun same => ?_⟩
      have free := gone item inOld inNew
      rw [same, held] at free
      cases free
    · obtain unchanged | ⟨freeBefore, freeAfter⟩ := others item inOld inNew
      · rw [unchanged]
      · refine ⟨fun same => ?_, fun same => ?_⟩
        · rw [same, held] at freeBefore
          cases freeBefore
        · rw [same, held] at freeAfter
          cases freeAfter

/-- A thread that replaces its top frames answers for what they were busy with. -/
theorem replace [DecidableEq Thread] (once : ((marked marks thread new).map Prod.fst).Nodup) :
    InStep marks holder (Function.update frames thread (new ++ rest)) later := by
  refine ⟨fun other item phase held => ?_, fun other => ?_⟩
  · by_cases here : other = thread
    · subst here
      rw [Function.update_self]
      exact inStep.replace_exact own top others now gone came held
    · rw [Function.update_of_ne here, inStep.exact other item phase held]
      exact inStep.replace_elsewhere own top others now gone came held here
  · by_cases here : other = thread
    · subst here
      have before := inStep.once other
      rw [top, marked_append, List.map_append, List.nodup_append] at before
      rw [Function.update_self, marked_append, List.map_append, List.nodup_append]
      refine ⟨once, before.2.1, fun item above other' listed same => ?_⟩
      subst same
      obtain ⟨phase, member⟩ := named.mp listed
      exact (inStep.below_apart own top came member).2 above
    · rw [Function.update_of_ne here]
      exact inStep.once other

end

/-- A step that is about one item. -/
theorem one [DecidableEq Thread] [DecidableEq Item] (inStep : InStep marks holder frames phases)
    (own : ∀ thread frame item phase, (item, phase) ∈ marks thread frame →
      holder phase = some thread)
    {thread : Thread} {old new rest : List Frame} (top : frames thread = old ++ rest) (item : Item)
    (others : ∀ other, other ≠ item → later other = phases other)
    (same : ∀ other phase, other ≠ item →
      ((other, phase) ∈ marked marks thread new ↔ (other, phase) ∈ marked marks thread old))
    (held : holder (phases item) = none ∨ item ∈ (marked marks thread old).map Prod.fst)
    (now : ∀ phase, (item, phase) ∈ marked marks thread new → later item = phase)
    (gone : item ∉ (marked marks thread new).map Prod.fst → holder (later item) = none)
    (once : ((marked marks thread new).map Prod.fst).Nodup) :
    InStep marks holder (Function.update frames thread (new ++ rest)) later := by
  have mine : ∀ {other phase}, (other, phase) ∈ marked marks thread old →
      phases other = phase := by
    intro other phase member
    obtain ⟨frame, _, listed⟩ := List.mem_flatMap.mp member
    refine (inStep.exact thread other phase (own thread frame other phase listed)).mp ?_
    rw [top, marked, List.flatMap_append]
    exact List.mem_append_left _ member
  refine inStep.replace own top (fun other notOld notNew => ?_) (fun other phase member => ?_)
    (fun other inOld notNew => ?_) (fun other inNew => ?_) once
  · by_cases this : other = item
    · subst this
      exact .inr ⟨held.resolve_right notOld, gone notNew⟩
    · exact .inl (others other this)
  · by_cases this : other = item
    · subst this
      exact now phase member
    · exact (others other this).trans (mine ((same other phase this).mp member))
  · by_cases this : other = item
    · subst this
      exact gone notNew
    · obtain ⟨phase, member⟩ := named.mp inOld
      exact absurd (named.mpr ⟨phase, (same other phase this).mpr member⟩) notNew
  · by_cases this : other = item
    · subst this
      exact held.symm
    · obtain ⟨phase, member⟩ := named.mp inNew
      exact .inl (named.mpr ⟨phase, (same other phase this).mp member⟩)

/-- A step of a frame that is busy with one item, and keeps it or lets go of it. -/
theorem single [DecidableEq Thread] [DecidableEq Item] (inStep : InStep marks holder frames phases)
    (own : ∀ thread frame item phase, (item, phase) ∈ marks thread frame →
      holder phase = some thread)
    {thread : Thread} {old new rest : List Frame} (top : frames thread = old ++ rest) {item : Item}
    {before : Phase} (busy : marked marks thread old = [(item, before)])
    (left : marked marks thread new = [(item, later item)] ∨
      marked marks thread new = [] ∧ holder (later item) = none)
    (others : ∀ other, other ≠ item → later other = phases other) :
    InStep marks holder (Function.update frames thread (new ++ rest)) later := by
  refine inStep.one own top item others (fun other phase differs => ?_) ?_ (fun phase member => ?_)
    (fun absent => ?_) ?_
  · obtain same | ⟨same, _⟩ := left <;> simp [busy, same, differs]
  · exact .inr (by simp [busy])
  · obtain same | ⟨same, _⟩ := left
    · simpa [same, eq_comm] using member
    · simp [same] at member
  · obtain same | ⟨_, free⟩ := left
    · simp [same] at absent
    · exact free
  · obtain same | ⟨same, _⟩ := left <;> simp [same]

/-- A frame that is busy with one item is replaced by one that is busy with another. -/
theorem handOver [DecidableEq Thread] (inStep : InStep marks holder frames phases)
    (own : ∀ thread frame item phase, (item, phase) ∈ marks thread frame →
      holder phase = some thread)
    {thread : Thread} {old new rest : List Frame} (top : frames thread = old ++ rest)
    {first second : Item} {before : Phase} (busy : marked marks thread old = [(first, before)])
    (taken : marked marks thread new = [(second, later second)])
    (idle : holder (phases second) = .none) (left : holder (later first) = .none)
    (others : ∀ other, other ≠ first → other ≠ second → later other = phases other) :
    InStep marks holder (Function.update frames thread (new ++ rest)) later := by
  refine inStep.replace own top (fun other notOld notNew => ?_) (fun other phase member => ?_)
    (fun other inOld _ => ?_) (fun other inNew => ?_) ?_
  · rw [busy] at notOld
    rw [taken] at notNew
    exact .inl (others other (by simpa using notOld) (by simpa using notNew))
  · rw [taken] at member
    cases List.mem_singleton.mp member
    rfl
  · rw [busy] at inOld
    cases List.mem_singleton.mp inOld
    exact left
  · rw [taken] at inNew
    cases List.mem_singleton.mp inNew
    exact .inr idle
  · rw [taken]
    exact List.nodup_singleton _

/-- A step that is about no item. -/
theorem none [DecidableEq Thread] (inStep : InStep marks holder frames phases)
    (own : ∀ thread frame item phase, (item, phase) ∈ marks thread frame →
      holder phase = some thread)
    {thread : Thread} {old new rest : List Frame} (top : frames thread = old ++ rest)
    (empty : marked marks thread old = []) (unmarked : marked marks thread new = [])
    (others : ∀ item, later item = phases item ∨
      holder (phases item) = .none ∧ holder (later item) = .none) :
    InStep marks holder (Function.update frames thread (new ++ rest)) later :=
  inStep.replace own top (fun item _ _ => others item) (by simp [unmarked]) (by simp [empty])
    (by simp [unmarked]) (by simp [unmarked])

end InStep

/-- What is below the tops of the stacks is of a kind, if threads put frames on such frames only. -/
theorem below_tops [DecidableEq Thread] {below : Frame → Prop} {frames : Thread → List Frame}
    (kept : ∀ thread, ∀ frame ∈ (frames thread).tail, below frame) {thread : Thread}
    {old new rest : List Frame} (top : frames thread = old ++ rest)
    (under : ∀ frame ∈ new.tail, below frame)
    (onto : old = [] → new = [] ∨ ∀ frame ∈ rest.head?, below frame) (holder : Thread) :
    ∀ frame ∈ (Function.update frames thread (new ++ rest) holder).tail, below frame := by
  intro frame member
  by_cases mine : holder = thread
  · subst mine
    rw [Function.update_self] at member
    have lower : ∀ frame ∈ rest.tail, below frame := by
      intro frame listed
      refine kept holder frame ?_
      rw [top]
      cases old with
      | nil => exact listed
      | cons head above => exact List.mem_append_right _ (List.mem_of_mem_tail listed)
    cases new with
    | nil => exact lower frame member
    | cons head tail =>
        obtain new | stays := List.mem_append.mp member
        · exact under frame new
        · cases old with
          | nil =>
              obtain none | onto := onto rfl
              · cases none
              · cases rest with
                | nil => cases stays
                | cons first others =>
                    obtain rfl | deeper := List.mem_cons.mp stays
                    · exact onto frame rfl
                    · exact lower frame deeper
          | cons first above =>
              refine kept holder frame ?_
              rw [top]
              exact List.mem_append_right _ stays
  · rw [Function.update_of_ne mine] at member
    exact kept holder frame member

end MiniTrantor.Custody
