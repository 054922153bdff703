import MiniTrantor.Coroutine.Tasks.Returns

/-!
# Calls of user code

Every call keeps the invariant, and so do runs.
-/

set_option autoImplicit false

namespace MiniTrantor.Coroutine.Tasks

variable {Value Failure : Type}

/-- A handle that was not used is the last. -/
theorem Frame.Sound.use {frame : Frame Value Failure} (sound : frame.Sound) {suspension : Nat}
    (known : suspension < frame.suspensions) (unused : frame.resumed suspension = false) :
    (∀ other, other < frame.suspensions →
      Function.update frame.resumed suspension true other = true) ∧
      ∀ other, frame.suspensions ≤ other →
        Function.update frame.resumed suspension true other = false := by
  have last := (sound.resumable suspension known unused).1
  constructor
  · intro other before
    by_cases same : other = suspension
    · subst same
      rw [Function.update_self]
    · rw [Function.update_of_ne same]
      cases free : frame.resumed other with
      | true => rfl
      | false =>
          have also := (sound.resumable other before free).1
          omega
  · intro other later
    rw [Function.update_of_ne (by omega)]
    exact sound.unused other later

/-- A coroutine is resumed with its handle. -/
theorem Frame.Sound.resumed {frame : Frame Value Failure} (sound : frame.Sound) {suspension : Nat}
    (known : suspension < frame.suspensions) (unused : frame.resumed suspension = false)
    {status : Status} (other : status ≠ .suspended .awaitable)
    (goes : frame.status = .destroyed ∧ status = .destroyed ∨
      frame.status ≠ .destroyed ∧ ∃ thread, status = .running thread) :
    Frame.Sound { frame with
      resumed := Function.update frame.resumed suspension true
      status } := by
  obtain ⟨all, later⟩ := sound.use known unused
  have was := (sound.resumable suspension known unused).2
  have started : frame.status ≠ .destroyed → frame.startState_ = .started := by
    intro alive
    cases state : frame.startState_ with
    | started => rfl
    | lazy =>
        have initial := (sound.lazy state).resolve_right alive
        rw [was.resolve_right alive] at initial
        cases initial
  constructor
  · obtain ⟨dead, rfl⟩ | ⟨alive, thread, rfl⟩ := goes
    · simp only [sound.handle, dead]
    · simp [sound.handle.mpr alive]
  · intro lazy
    obtain ⟨_, rfl⟩ | ⟨alive, _⟩ := goes
    · exact .inr rfl
    · simp [started alive] at lazy
  · intro _
    obtain ⟨_, rfl⟩ | ⟨_, thread, rfl⟩ := goes <;> simp
  · intro suspension before free
    simp only [all suspension before] at free
    cases free
  · exact later
  · exact fun at_ => absurd at_ other
  · exact sound.continued
  · intro gone
    refine ⟨(sound.detached gone).1, ?_⟩
    obtain ⟨_, rfl⟩ | ⟨_, thread, rfl⟩ := goes <;> simp

namespace Coroutines

variable {coroutines next : Coroutines Value Failure} {thread : Thread} {gate : Gate}
  {frame : FrameId} {source target task : TaskId} {home : Option FrameId} {rest : List Activity}
  {loose : Option FrameId}

/-- An assignment begins. -/
theorem Sound.assign (sound : coroutines.Sound loose) (clear : coroutines.Clear thread)
    (exists_ : coroutines.held source ≠ none) (empty : coroutines.held target = some none)
    (free : ¬coroutines.Assigning target) :
    (coroutines.put thread (.assigning source target :: coroutines.activities thread)).Sound
      loose := by
  have shift : Shift coroutines
      (coroutines.put thread (.assigning source target :: coroutines.activities thread)) thread []
        [.assigning source target] (coroutines.activities thread) := ⟨rfl, rfl, rfl, rfl, rfl, rfl⟩
  have unnamed : ∀ holder, target ∉ (coroutines.activities holder).filterMap Activity.target := by
    intro holder named
    obtain ⟨activity, there, names⟩ := List.mem_filterMap.mp named
    cases activity with
    | execution gate doing => cases names
    | destroying gate frame => cases names
    | assigning from_ to_ =>
        cases names
        exact free ⟨holder, from_, target, there, .inr rfl⟩
  have mine : ((coroutines.put thread (.assigning source target ::
      coroutines.activities thread)).activities thread).filterMap Activity.target =
        target :: (coroutines.activities thread).filterMap Activity.target := by
    rw [shift.activities, Function.update_self]
    rfl
  apply sound.shuffle ⟨shift, rfl⟩ rfl clear
  · intro activity new gate locks
    cases List.mem_singleton.mp new
    cases locks
  · exact fun _ => rfl
  · exact fun _ => Nat.le_refl _
  · exact fun _ none => by cases none
  · exact fun activity new => .inr ⟨source, target, List.mem_singleton.mp new⟩
  · constructor
    · intro holder from_ to_ there
      obtain ⟨_, new⟩ | old := shift.listed there
      · cases List.mem_singleton.mp new
        exact ⟨exists_, empty⟩
      · exact sound.assigned.emptied holder from_ to_ old
    · intro holder
      by_cases same : holder = thread
      · subst same
        rw [mine]
        exact List.nodup_cons.mpr ⟨unnamed holder, sound.assigned.once holder⟩
      · rw [shift.elsewhere same]
        exact sound.assigned.once holder
    · intro first second differs task one two
      by_cases left : first = thread
      · subst left
        rw [mine] at one
        rw [shift.elsewhere (Ne.symm differs)] at two
        obtain rfl | one := List.mem_cons.mp one
        · exact unnamed second two
        · exact sound.assigned.apart first second differs task one two
      · rw [shift.elsewhere left] at one
        by_cases right : second = thread
        · subst right
          rw [mine] at two
          obtain rfl | two := List.mem_cons.mp two
          · exact unnamed first one
          · exact sound.assigned.apart first second differs task one two
        · rw [shift.elsewhere right] at two
          exact sound.assigned.apart first second differs task one two
  · refine shift.housed sound.housed (fun _ => .inl) fun _ _ none => ?_
    cases none

theorem locking_cases {done : Option (Coroutines Value Failure)}
    (taken : coroutines.locking thread frame done = some next) :
    coroutines.gateOpen thread (coroutines.gate frame) = true ∧ done = some next := by
  unfold locking at taken
  split at taken
  case isTrue free => exact ⟨free, taken⟩
  case isFalse => cases taken

section

variable (valid : coroutines.Valid) (running : coroutines.terminated = false)
include valid running

theorem Valid.create (hosts : coroutines.hosts home = true) :
    ({ coroutines with
      controls := coroutines.controls.create
      frames := Function.update coroutines.frames coroutines.controls.created {} }.construct
        { coroutine_ := some coroutines.controls.created, home }).Valid := by
  have sound := valid.sound running
  obtain ⟨created, unlinked⟩ := sound.create
  refine .of_sound (created.construct ?_ ?_) ?_ valid.defined
  · rintro frame same
    cases same
    exact unlinked
  · cases home with
    | none => rfl
    | some frame =>
        obtain ⟨known, alive⟩ : frame < coroutines.controls.created ∧
            coroutines.status frame ≠ .destroyed := by simpa [Coroutines.hosts] using hosts
        have still : (Function.update coroutines.frames coroutines.controls.created {} frame).status =
            coroutines.status frame := by
          rw [Function.update_of_ne (Nat.ne_of_lt known)]
          rfl
        simp only [Coroutines.hosts, Option.all_some, Coroutines.status, still, Bool.and_eq_true,
          decide_eq_true_eq, bne_iff_ne]
        exact ⟨Nat.lt_succ_of_lt known, alive⟩
  · exact records_update (valid.records running) rfl Frame.Sound.start

theorem Valid.move {coroutine_ : Option FrameId} (held : coroutines.held source = some coroutine_)
    (hosts : coroutines.hosts home = true) :
    ((coroutines.setCoroutine source none).construct { coroutine_, home }).Valid := by
  have sound := valid.sound running
  have given : (coroutines.setCoroutine source none).Sound coroutine_ := sound.give held
  refine .of_sound (given.construct ?_ hosts) (valid.records running) valid.defined
  rintro frame rfl
  exact sound.unlinked held

theorem Valid.assign (clear : coroutines.Clear thread) (differs : source ≠ target)
    (exists_ : coroutines.held source ≠ none) {old : Option FrameId}
    (held : coroutines.held target = some old) (free : ¬coroutines.Assigning target)
    (taken : (match old with
      | none => some (coroutines.put thread (.assigning source target :: coroutines.activities thread))
      | some frame => (coroutines.setCoroutine target none).destroyFrame thread frame
          (.assigning source target :: coroutines.activities thread)) = some next) : next.Valid := by
  have sound := valid.sound running
  have records := valid.records running
  cases old with
  | none =>
      cases taken
      exact .of_sound (sound.assign clear exists_ held free) records valid.defined
  | some frame =>
      have given := sound.give held
      have first : (coroutines.setCoroutine target none).held source ≠ none := by
        rwa [held_setCoroutine, if_neg differs]
      have second : (coroutines.setCoroutine target none).held target = some none := by
        rw [held_setCoroutine, if_pos rfl, held]
        rfl
      have assigning : ((coroutines.setCoroutine target none).put thread
          (.assigning source target :: coroutines.activities thread)).Sound (some frame) :=
        given.assign clear first second free
      refine Valid.destroyFrame ?_ assigning valid.defined ?_ ?_ taken
      · exact records
      · apply given.threaded.put_mutex_same
        intro gate
        have same : (coroutines.setCoroutine target none).activities thread =
          coroutines.activities thread := rfl
        simp [same, Activity.locks]
      · intro gate parent below top
        rw [show ((coroutines.setCoroutine target none).put thread
          (.assigning source target :: coroutines.activities thread)).activities thread =
            .assigning source target :: coroutines.activities thread from
              Function.update_self ..] at top
        cases top

theorem Valid.drop (clear : coroutines.Clear thread) {old : Option FrameId}
    (held : coroutines.held task = some old) (free : ¬coroutines.Assigning task)
    (taken : (match old with
      | none => some (coroutines.discard task)
      | some frame => (coroutines.discard task).destroyFrame thread frame
          (coroutines.activities thread)) = some next) : next.Valid := by
  have dropped := (valid.sound running).drop held free
  cases old with
  | none =>
      cases taken
      exact .of_sound dropped (valid.records running) valid.defined
  | some frame =>
      refine Valid.destroyHere ?_ dropped valid.defined ?_ taken
      · exact valid.records running
      · exact clear

theorem Valid.await {parent child : FrameId} (held : coroutines.held task = some (some child))
    (quiet : coroutines.status child = .done ∨ coroutines.executions (coroutines.gate child) = 0)
    (free : coroutines.gateOpen thread (coroutines.gate child) = true)
    (top : coroutines.activities thread = .execution gate (.body parent) :: rest)
    (taken : (coroutines.setCoroutine task none).await thread gate parent child rest = some next) :
    next.Valid := by
  have sound := valid.sound running
  have records := valid.records running
  have given := sound.give held
  have owes := sound.owes held
  unfold Coroutines.await at taken
  split at taken
  case h_1 =>
    obtain ⟨event, same⟩ : ∃ event, event = Event.received parent child
      ((coroutines.setCoroutine task none).frames child).result := ⟨_, rfl⟩
    rw [← top, ← same] at taken
    refine Valid.destroyHere ?_ (given.emit event) valid.defined ?_ taken
    · exact records
    · exact clear_of_execution top
  case h_2 dead => exact absurd dead owes.2.1
  case h_3 pending alive =>
    cases taken
    refine Valid.awaitSuspend given records valid.defined (sound.unlinked held) ?_ free pending top
    exact quiet.resolve_left pending

theorem Valid.suspend (top : coroutines.activities thread = .execution gate (.body frame) :: rest) :
    ((coroutines.change frame fun old =>
      { old with
        status := .suspended .awaitable
        suspensions := old.suspensions + 1 }).put thread
          (.execution gate (.suspending frame) :: rest)).Valid := by
  have sound := valid.sound running
  have listed : .execution gate (.body frame) ∈ coroutines.activities thread := by
    rw [top]
    exact List.mem_cons_self
  have runs := sound.threaded.running_of listed rfl
  have goesOn : GoesOn coroutines ((coroutines.change frame fun old =>
      { old with
        status := .suspended .awaitable
        suspensions := old.suspensions + 1 }).put thread
          (.execution gate (.suspending frame) :: rest)) thread gate frame (.body frame)
            (.suspending frame) rest
            { coroutines.frames frame with
              status := .suspended .awaitable
              suspensions := (coroutines.frames frame).suspensions + 1 } :=
    ⟨.inl rfl, .inr ⟨rfl, .inl rfl⟩, fun _ => by simp, rfl, rfl, rfl,
      ⟨⟨top, rfl, rfl, rfl, rfl, rfl⟩, rfl⟩, rfl, rfl⟩
  apply Valid.of_sound (goesOn.sound sound) _ valid.defined
  exact records_update (valid.records running) rfl ((valid.records running frame).suspend runs)

theorem Valid.finish (top : coroutines.activities thread = .execution gate (.body frame) :: rest)
    (result : Except Failure Value) :
    (((coroutines.change frame fun old => { old with result := some result }).emit
      (.finished frame result)).put thread (.execution gate (.finishing frame) :: rest)).Valid := by
  have sound := valid.sound running
  have listed : .execution gate (.body frame) ∈ coroutines.activities thread := by
    rw [top]
    exact List.mem_cons_self
  have runs := sound.threaded.running_of listed rfl
  have goesOn : GoesOn coroutines (((coroutines.change frame fun old =>
      { old with result := some result }).emit (.finished frame result)).put thread
        (.execution gate (.finishing frame) :: rest)) thread gate frame (.body frame)
          (.finishing frame) rest { coroutines.frames frame with result := some result } :=
    ⟨.inl rfl, .inl ⟨rfl, runs⟩, fun _ => by simp, rfl, rfl, rfl,
      ⟨⟨top, rfl, rfl, rfl, rfl, rfl⟩, rfl⟩, rfl, rfl⟩
  apply Valid.of_sound (goesOn.sound sound) _ valid.defined
  exact records_update (valid.records running) rfl ((valid.records running frame).finish result)

theorem Valid.resume (clear : coroutines.Clear thread) {suspension : Nat}
    (known : suspension < (coroutines.frames frame).suspensions)
    (unused : (coroutines.frames frame).resumed suspension = false)
    (free : coroutines.gateOpen thread (coroutines.gate frame) = true) :
    Valid (if (coroutines.frames frame).handle && coroutines.status frame != .done then
      (coroutines.change frame fun old =>
        { old with resumed := Function.update old.resumed suspension true }).execute thread frame
    else coroutines.change frame fun old =>
      { old with resumed := Function.update old.resumed suspension true }) := by
  have sound := valid.sound running
  have records := valid.records running
  have mine := records frame
  have created : frame < coroutines.controls.created := by
    by_contra new
    rw [sound.fresh frame (Nat.le_of_not_lt new)] at known
    exact absurd known (Nat.not_lt_zero _)
  have was := (mine.resumable suspension known unused).2
  obtain ⟨used, same⟩ : ∃ used, used = coroutines.change frame fun old =>
    { old with resumed := Function.update old.resumed suspension true } := ⟨_, rfl⟩
  have frames : used.frames = Function.update coroutines.frames frame
      { coroutines.frames frame with
        resumed := Function.update (coroutines.frames frame).resumed suspension true } := by
    rw [same]
    rfl
  have rest_ : used = { coroutines with frames := used.frames, trace := used.trace } := by
    rw [same]
    rfl
  have later : used.Sound none := sound.rewrite frames rest_ created rfl rfl rfl rfl
  have defined : used.undefined = false := by
    rw [same]
    exact valid.defined
  rw [← same]
  split
  case isFalse refused =>
    have dead : coroutines.status frame = .destroyed := by
      obtain waits | dead := was
      · have handle := mine.handle.mpr (by rw [waits]; simp)
        have pending : coroutines.status frame ≠ .done := by
          rw [show coroutines.status frame = _ from waits]
          simp
        exact absurd (by simp [handle, pending]) refused
      · exact dead
    have record := mine.resumed known unused (by simp) (.inl ⟨dead, rfl⟩)
    rw [← show (coroutines.frames frame).status = .destroyed from dead] at record
    exact .of_sound later (records_update records frames record) defined
  case isTrue resumes =>
    have handle : (coroutines.frames frame).handle = true := (Bool.and_eq_true _ _ ▸ resumes).1
    have alive := mine.handle.mp handle
    have waits := was.resolve_right alive
    have here : used.frames frame = { coroutines.frames frame with
        resumed := Function.update (coroutines.frames frame).resumed suspension true } := by
      rw [frames, Function.update_self]
    apply Valid.execute later _ defined
    · rw [rest_]
      exact created
    · intro gate parent below top
      rw [awaiter_same frames rfl]
      rw [rest_] at top
      exact clear gate parent below top
    · rw [rest_]
      exact free
    · rw [status_same frames rfl]
      exact waits
    · simp
    · rw [here]
      exact mine.resumed known unused (by simp) (.inr ⟨alive, thread, rfl⟩)
    · intro other differs
      rw [frames, Function.update_of_ne differs]
      exact records other

theorem Valid.act (user : coroutines.atUser thread = true) {action : Action Value Failure}
    (permitted : coroutines.Permitted action) (taken : coroutines.act thread action = some next) :
    next.Valid := by
  have clear := clear_of_user user
  have sound := valid.sound running
  have records := valid.records running
  cases action with
  | create by_ home =>
      simp only [Coroutines.act] at taken
      split at taken
      case isTrue hosts =>
        cases taken
        exact valid.create running hosts
      case isFalse => cases taken
  | move by_ source home =>
      simp only [Coroutines.act] at taken
      split at taken
      case h_1 => cases taken
      case h_2 coroutine_ held =>
        split at taken
        case isTrue hosts =>
          cases taken
          exact valid.move running held hosts
        case isFalse => cases taken
  | assign by_ source target =>
      simp only [Coroutines.act] at taken
      split at taken
      case h_1 coroutine_ old there held =>
        split at taken
        case isTrue =>
          cases taken
          exact valid
        case isFalse differs =>
          have exists_ : coroutines.held source ≠ none := by rw [there]; simp
          apply valid.assign running clear differs exists_ held permitted.2
          rw [← taken]
          cases old <;> rfl
      case h_2 => cases taken
  | drop by_ task =>
      simp only [Coroutines.act] at taken
      split at taken
      case h_1 => cases taken
      case h_2 old held =>
        apply valid.drop running clear held permitted
        rw [← taken]
        cases old <;> rfl
  | start by_ task =>
      simp only [Coroutines.act] at taken
      split at taken
      case h_1 => cases taken
      case h_2 =>
        cases taken
        exact valid
      case h_3 frame held =>
        obtain ⟨free, done⟩ := locking_cases taken
        cases done
        exact valid.start sound records clear held free
  | detach by_ task =>
      simp only [Coroutines.act] at taken
      split at taken
      case h_1 => cases taken
      case h_2 =>
        cases taken
        exact valid
      case h_3 frame held =>
        obtain ⟨free, done⟩ := locking_cases taken
        exact valid.detach sound records clear held free done
  | result by_ task =>
      simp only [Coroutines.act] at taken
      split at taken
      case h_1 => cases taken
      case h_2 =>
        cases taken
        exact valid.emit _
      case h_3 frame held =>
        obtain ⟨_, done⟩ := locking_cases taken
        cases done
        exact valid.result sound held
  | await by_ task =>
      simp only [Coroutines.act] at taken
      split at taken
      case h_1 =>
        cases taken
        exact valid.emit _
      case h_2 gate parent rest child top held =>
        obtain ⟨free, done⟩ := locking_cases taken
        exact valid.await running held (permitted.2 child held) free top done
      case h_3 => cases taken
  | suspend by_ =>
      simp only [Coroutines.act] at taken
      split at taken
      case h_1 gate frame rest top =>
        cases taken
        exact valid.suspend running top
      case h_2 => cases taken
  | resume by_ frame suspension =>
      simp only [Coroutines.act] at taken
      split at taken
      case isTrue known =>
        obtain ⟨free, done⟩ := locking_cases taken
        cases done
        exact valid.resume running clear known permitted free
      case isFalse => cases taken
  | finish by_ result =>
      simp only [Coroutines.act] at taken
      split at taken
      case h_1 gate frame rest top =>
        cases taken
        exact valid.finish running top result
      case h_2 => cases taken
  | goOn by_ => cases taken
  | expire control => cases taken

end

/-- What a step does, by who takes it. -/
theorem step_cases {action : Action Value Failure} (taken : coroutines.step action = some next) :
    coroutines.terminated = false ∧ coroutines.undefined = false ∧
      ((∃ thread, coroutines.goOn thread = some next) ∨
        (∃ frame, frame < coroutines.controls.created ∧ coroutines.status frame = .destroyed ∧
          next = { coroutines with controls := coroutines.controls.release frame }) ∨
        ∃ thread, coroutines.atUser thread = true ∧ coroutines.act thread action = some next) := by
  unfold step at taken
  split at taken
  case isTrue => cases taken
  case isFalse runs =>
    obtain ⟨terminated, undefined⟩ : coroutines.terminated = false ∧ coroutines.undefined = false := by
      simpa using runs
    refine ⟨terminated, undefined, ?_⟩
    split at taken
    case h_1 thread => exact .inl ⟨thread, taken⟩
    case h_2 control =>
      split at taken
      case isTrue known =>
        cases taken
        obtain ⟨created, dead⟩ : control < coroutines.controls.created ∧
          coroutines.status control = .destroyed := by simpa using known
        exact .inr (.inl ⟨control, created, dead, rfl⟩)
      case isFalse => cases taken
    all_goals
      split at taken
      case isTrue user => exact .inr (.inr ⟨_, user, taken⟩)
      case isFalse => cases taken

theorem Valid.step (valid : coroutines.Valid) {action : Action Value Failure}
    (permitted : coroutines.Permitted action) (taken : coroutines.step action = some next) :
    next.Valid := by
  obtain ⟨running, _, ⟨thread, on⟩ | ⟨frame, _, dead, rfl⟩ | ⟨thread, user, acts⟩⟩ :=
    step_cases taken
  · exact valid.goOn running on
  · exact .of_sound ((valid.sound running).expire dead) (valid.records running) valid.defined
  · exact valid.act running user permitted acts

end Coroutines

end MiniTrantor.Coroutine.Tasks
