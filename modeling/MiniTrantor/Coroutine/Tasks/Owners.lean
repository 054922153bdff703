import MiniTrantor.Coroutine.Tasks.Threads

/-!
# Frames that change hands

What is done to `Task` objects alone. A frame that a `Task` has given away is loose until
another one takes it over.
-/

set_option autoImplicit false

namespace MiniTrantor.Coroutine.Tasks

namespace Coroutines

variable {Value Failure : Type} {coroutines next : Coroutines Value Failure} {thread : Thread}
  {task : TaskId} {frame : FrameId} {loose given : Option FrameId}

/-- Nobody has awaited the frame. -/
def Unlinked (coroutines : Coroutines Value Failure) (frame : FrameId) : Prop :=
  (∀ parent, frame ∉ coroutines.controls.children parent) ∧ coroutines.continuation frame = none

section Parts

variable (coroutines task given)

theorem held_setCoroutine (other : TaskId) : (coroutines.setCoroutine task given).held other =
    if other = task then (coroutines.held task).map fun _ => given else coroutines.held other := by
  simp only [held, setCoroutine]
  by_cases same : other = task
  · subst same
    rw [Function.update_self, if_pos rfl, Option.map_map, Option.map_map]
    rfl
  · rw [Function.update_of_ne same, if_neg same]

theorem home_setCoroutine (other : TaskId) :
    (coroutines.setCoroutine task given).home other = coroutines.home other := by
  simp only [home, setCoroutine]
  by_cases same : other = task
  · subst same
    rw [Function.update_self]
    cases coroutines.tasks other <;> rfl
  · rw [Function.update_of_ne same]

end Parts

namespace Sound

theorem owes (sound : coroutines.Sound loose) (held : coroutines.held task = some (some frame)) :
    coroutines.Owed frame := by
  have mine : coroutines.holding (.task task) = some frame := by simp [holding, held]
  exact sound.owned.owes mine

/-- The frame of a `Task` was never awaited. -/
theorem unlinked (sound : coroutines.Sound none) (held : coroutines.held task = some (some frame)) :
    coroutines.Unlinked frame := by
  have mine : coroutines.holding (.task task) = some frame := by simp [holding, held]
  have alone : ∀ parent, coroutines.awaiter parent ≠ some frame := by
    intro parent awaits
    have theirs : coroutines.holding (.awaiter parent) = some frame := awaits
    cases sound.owned.sole mine theirs
  have owes := sound.owes held
  constructor
  · intro parent listed
    obtain gone | awaits | none := sound.linked.children parent frame listed
    · exact owes.2.1 gone
    · exact alone parent awaits
    · cases none
  · cases linked : coroutines.continuation frame with
    | none => rfl
    | some parent =>
        obtain awaits | none := sound.linked.awaited parent frame linked owes.2.1
        · exact absurd awaits (alone parent)
        · cases none

end Sound

/-- What an object has does not matter to the threads and to the frames that wait. -/
theorem Sound.tasks (sound : coroutines.Sound loose) {tasks : TaskId → Option Task}
    {constructed : Nat} (owned : SoleOwnership { coroutines with tasks, constructed }.holding given
      coroutines.Owed)
    (linked : coroutines.Linked given)
    (kept : ∀ thread source target, .assigning source target ∈ coroutines.activities thread →
      { coroutines with tasks, constructed }.held source ≠ none ∧
        { coroutines with tasks, constructed }.held target = some none)
    (housed : Housed { coroutines with tasks, constructed }) :
    Sound { coroutines with tasks, constructed } given where
  threaded := ⟨sound.threaded.locked, sound.threaded.counted, sound.threaded.idle,
    sound.threaded.running, sound.threaded.under⟩
  owned := owned
  linked := ⟨linked.shared, linked.alive, linked.children, linked.listed, linked.continued,
    linked.awaited, linked.together⟩
  waiting := ⟨sound.waiting.suspended, sound.waiting.returns, sound.waiting.destroyed,
    sound.waiting.awaiting, sound.waiting.others, sound.waiting.bodies, sound.waiting.returning,
    sound.waiting.unwinding⟩
  assigned := ⟨kept, sound.assigned.once, sound.assigned.apart⟩
  housed := housed
  fresh := sound.fresh

theorem Linked.loosen (linked : coroutines.Linked none) : coroutines.Linked given where
  shared := linked.shared
  alive := linked.alive
  children parent child listed := by
    obtain gone | awaits | none := linked.children parent child listed
    · exact .inl gone
    · exact .inr (.inl awaits)
    · cases none
  listed := linked.listed
  continued := linked.continued
  awaited parent child awaits alive := by
    obtain awaits | none := linked.awaited parent child awaits alive
    · exact .inl awaits
    · cases none
  together := linked.together

/-- A loose frame that was never awaited makes no difference. -/
theorem Linked.settle (linked : coroutines.Linked loose)
    (unlinked : ∀ frame, loose = some frame → coroutines.Unlinked frame) :
    coroutines.Linked none where
  shared := linked.shared
  alive := linked.alive
  children parent child listed := by
    obtain gone | awaits | away := linked.children parent child listed
    · exact .inl gone
    · exact .inr (.inl awaits)
    · exact absurd listed ((unlinked child away).1 parent)
  listed := linked.listed
  continued := linked.continued
  awaited parent child awaits alive := by
    obtain awaits | away := linked.awaited parent child awaits alive
    · exact .inl awaits
    · rw [(unlinked child away).2] at awaits
      cases awaits
  together := linked.together

namespace Housed

theorem setCoroutine (housed : coroutines.Housed) : (coroutines.setCoroutine task given).Housed where
  bounded other held := by
    apply housed.bounded
    rw [held_setCoroutine] at held
    split at held
    case isTrue same =>
      subst same
      exact fun none => held (by rw [none]; rfl)
    case isFalse => exact held
  homes other frame home := by
    rw [home_setCoroutine] at home
    exact housed.homes other frame home
  hosts other frame home := by
    rw [home_setCoroutine] at home
    exact housed.hosts other frame home

end Housed

namespace Sound

/-- A `Task` gives its frame away, or has none. -/
theorem give (sound : coroutines.Sound none) (held : coroutines.held task = some given) :
    (coroutines.setCoroutine task none).Sound given := by
  have holdings : ∀ holder, (coroutines.setCoroutine task none).holding holder =
      if holder = .task task then none else coroutines.holding holder := by
    intro holder
    cases holder with
    | awaiter parent => rfl
    | task other =>
        simp only [holding, held_setCoroutine, held, Holder.task.injEq]
        split <;> rfl
  have had : coroutines.holding (.task task) = given := by simp [holding, held]
  have owned : SoleOwnership (coroutines.setCoroutine task none).holding given coroutines.Owed := by
    apply sound.owned.give had
    · rw [holdings, if_pos rfl]
    · intro other differs
      rw [holdings, if_neg differs]
  refine sound.tasks owned sound.linked.loosen ?_ sound.housed.setCoroutine
  intro thread source target assigning
  obtain ⟨exists_, empty⟩ := sound.assigned.emptied thread source target assigning
  change (coroutines.setCoroutine task none).held source ≠ none ∧
    (coroutines.setCoroutine task none).held target = some none
  rw [held_setCoroutine, held_setCoroutine, held]
  constructor
  · split
    · simp
    · exact exists_
  · split
    · rfl
    · exact empty

/-- An object ends. -/
theorem drop (sound : coroutines.Sound none) (held : coroutines.held task = some given)
    (free : ¬coroutines.Assigning task) : (coroutines.discard task).Sound given := by
  have helds : ∀ other, (coroutines.discard task).held other =
      if other = task then none else coroutines.held other := by
    intro other
    by_cases same : other = task <;> simp [Coroutines.held, discard, same]
  have homes : ∀ other frame, (coroutines.discard task).home other = some frame →
      coroutines.home other = some frame := by
    intro other frame
    by_cases same : other = task <;> simp [Coroutines.home, discard, same]
  have holdings : ∀ holder, (coroutines.discard task).holding holder =
      if holder = .task task then none else coroutines.holding holder := by
    intro holder
    cases holder with
    | awaiter parent => rfl
    | task other =>
        simp only [holding, helds, Holder.task.injEq]
        split <;> rfl
  have had : coroutines.holding (.task task) = given := by simp [holding, held]
  have owned : SoleOwnership (coroutines.discard task).holding given coroutines.Owed := by
    apply sound.owned.give had
    · rw [holdings, if_pos rfl]
    · intro other differs
      rw [holdings, if_neg differs]
  refine sound.tasks owned sound.linked.loosen ?_ ?_
  · intro thread source target assigning
    have first : source ≠ task := by
      rintro rfl
      exact free ⟨thread, source, target, assigning, .inl rfl⟩
    have second : target ≠ task := by
      rintro rfl
      exact free ⟨thread, source, target, assigning, .inr rfl⟩
    change (coroutines.discard task).held source ≠ none ∧
      (coroutines.discard task).held target = some none
    rw [helds, helds, if_neg first, if_neg second]
    exact sound.assigned.emptied thread source target assigning
  · change (coroutines.discard task).Housed
    constructor
    · intro other held
      rw [helds] at held
      split at held
      case isTrue => exact absurd rfl held
      case isFalse => exact sound.housed.bounded other held
    · exact fun other frame home => sound.housed.homes other frame (homes other frame home)
    · exact fun other frame home => sound.housed.hosts other frame (homes other frame home)

/-- An empty object takes a frame over. -/
theorem take (sound : coroutines.Sound loose)
    (unlinked : ∀ frame, loose = some frame → coroutines.Unlinked frame)
    (held : coroutines.held task = some none)
    (free : ∀ thread source, .assigning source task ∉ coroutines.activities thread) :
    (coroutines.setCoroutine task loose).Sound none := by
  have holdings : ∀ holder, (coroutines.setCoroutine task loose).holding holder =
      if holder = .task task then loose else coroutines.holding holder := by
    intro holder
    cases holder with
    | awaiter parent => rfl
    | task other =>
        simp only [holding, held_setCoroutine, held, Holder.task.injEq]
        split <;> rfl
  have empty : coroutines.holding (.task task) = none := by simp [holding, held]
  have owned : SoleOwnership (coroutines.setCoroutine task loose).holding none coroutines.Owed := by
    apply sound.owned.take empty
    · rw [holdings, if_pos rfl]
    · intro other differs
      rw [holdings, if_neg differs]
  refine sound.tasks owned (sound.linked.settle unlinked) ?_ sound.housed.setCoroutine
  intro thread source target assigning
  obtain ⟨exists_, empty⟩ := sound.assigned.emptied thread source target assigning
  have differs : target ≠ task := by
    rintro rfl
    exact free thread source assigning
  change (coroutines.setCoroutine task loose).held source ≠ none ∧
    (coroutines.setCoroutine task loose).held target = some none
  rw [held_setCoroutine, held_setCoroutine, held, if_neg differs]
  constructor
  · split
    · simp
    · exact exists_
  · exact empty

/-- An object is constructed, and takes a frame over. -/
theorem construct (sound : coroutines.Sound loose)
    (unlinked : ∀ frame, loose = some frame → coroutines.Unlinked frame) {home : Option FrameId}
    (hosts : coroutines.hosts home = true) :
    (coroutines.construct { coroutine_ := loose, home }).Sound none := by
  have new : coroutines.held coroutines.constructed = none := by
    by_contra held
    exact absurd (sound.housed.bounded _ held) (Nat.lt_irrefl _)
  have helds : ∀ other, (coroutines.construct { coroutine_ := loose, home }).held other =
      if other = coroutines.constructed then some loose else coroutines.held other := by
    intro other
    unfold Coroutines.held Coroutines.construct
    by_cases same : other = coroutines.constructed
    · subst same
      simp
    · simp [same]
  have homes : ∀ other, (coroutines.construct { coroutine_ := loose, home }).home other =
      if other = coroutines.constructed then home else coroutines.home other := by
    intro other
    unfold Coroutines.home Coroutines.construct
    by_cases same : other = coroutines.constructed
    · subst same
      simp
    · simp [same]
  have holdings : ∀ holder, (coroutines.construct { coroutine_ := loose, home }).holding holder =
      if holder = .task coroutines.constructed then loose else coroutines.holding holder := by
    intro holder
    cases holder with
    | awaiter parent => rfl
    | task other =>
        simp only [holding, helds, Holder.task.injEq]
        split <;> rfl
  have empty : coroutines.holding (.task coroutines.constructed) = none := by simp [holding, new]
  have housing : ∀ frame, home = some frame →
      frame < coroutines.controls.created ∧ coroutines.status frame ≠ .destroyed := by
    rintro frame rfl
    simpa [Coroutines.hosts] using hosts
  have owned : SoleOwnership (coroutines.construct { coroutine_ := loose, home }).holding none
      coroutines.Owed := by
    apply sound.owned.take empty
    · rw [holdings, if_pos rfl]
    · intro other differs
      rw [holdings, if_neg differs]
  refine sound.tasks owned (sound.linked.settle unlinked) ?_ ?_
  · intro thread source target assigning
    obtain ⟨exists_, empty⟩ := sound.assigned.emptied thread source target assigning
    have differs : target ≠ coroutines.constructed := by
      rintro rfl
      rw [new] at empty
      cases empty
    change (coroutines.construct { coroutine_ := loose, home }).held source ≠ none ∧
      (coroutines.construct { coroutine_ := loose, home }).held target = some none
    rw [helds, helds, if_neg differs]
    constructor
    · split
      · simp
      · exact exists_
    · exact empty
  · change (coroutines.construct { coroutine_ := loose, home }).Housed
    constructor
    · intro other held
      rw [helds] at held
      change other < coroutines.constructed + 1
      split at held
      case isTrue same => exact same ▸ Nat.lt_succ_self _
      case isFalse => exact Nat.lt_succ_of_lt (sound.housed.bounded other held)
    · intro other frame at_ gone
      rw [homes] at at_
      split at at_
      case isTrue => exact absurd gone (housing frame at_).2
      case isFalse => exact sound.housed.homes other frame at_ gone
    · intro other frame at_
      rw [homes] at at_
      split at at_
      case isTrue => exact (housing frame at_).1
      case isFalse => exact sound.housed.hosts other frame at_

end Sound

end Coroutines

end MiniTrantor.Coroutine.Tasks
