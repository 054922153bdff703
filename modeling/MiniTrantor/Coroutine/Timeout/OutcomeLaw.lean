import MiniTrantor.Coroutine.Timeout.Results

/-!
# The outcome of a timeout

The result of `withTimeout` is that of the task that completes first. The timeout is
completed by its timer, or by the inherited token as long as the operation has not won. The
operation's token is cancelled before the timeout is reported; a callback that throws when
this is done replaces the error of the timeout by its exception.
-/

set_option autoImplicit false

namespace MiniTrantor.Coroutine.Timeout

open Net (addTicks)

variable {Value Failure : Type} {setting : Setting} {race next changed : Race Value Failure}
  {thread : Thread} {rest old new : List (Frame Value Failure)}

/-- What a step does to the sleep. -/
inductive Times (setting : Setting) (race changed : Race Value Failure) : Prop where
  | slept : race.phase = .unarmed → changed.phase = .pending →
      changed.deadline = addTicks race.now setting.timeout →
      changed.trace = race.trace ++ [.slept race.now] → Times setting race changed
  | woke : race.phase = .pending → changed.phase ≠ .unarmed → changed.deadline = race.deadline →
      (changed.phase = .expired → race.deadline ≤ race.now) →
      changed.trace = race.trace ++ [.woke changed.phase race.now] → Times setting race changed
  | other {events : List (Event Value Failure)} : changed.phase = race.phase →
      changed.deadline = race.deadline → changed.trace = race.trace ++ events →
      (∀ ended, .woke .expired ended ∉ events) → Times setting race changed

theorem Receives.deadline {failure : Option Failure}
    (receives : Receives race failure rest old new changed) : changed.deadline = race.deadline := by
  cases receives <;> rfl

theorem Times.quiet (phase : changed.phase = race.phase) (deadline : changed.deadline = race.deadline)
    (trace : changed.trace = race.trace) : Times setting race changed :=
  .other phase deadline (trace.trans (List.append_nil _).symm) (by simp)

theorem Receives.times {failure : Option Failure}
    (receives : Receives race failure rest old new changed) : Times setting race changed :=
  .quiet receives.fields.2.2.2.1 receives.deadline receives.decides.2.1

theorem Does.times (does : Does setting race thread rest old new changed)
    (sound : Sound setting race) : Times setting race changed := by
  cases does with
  | observerReturned receives => exact receives.times
  | observerThrew failure receives =>
      exact .other receives.fields.2.2.2.1 receives.deadline receives.decides.2.1 (by simp)
  | exchangeLate _ receives => exact receives.times
  | notified receives => exact receives.times
  | win _ stores =>
      refine .other rfl rfl rfl fun ended woke => ?_
      cases stores <;> simp at woke
  | resumeParent _ returns =>
      refine .other rfl rfl rfl fun ended woke => ?_
      cases returns <;> simp at woke
  | sleepHere instructions => exact .slept (sound.unarmed instructions) rfl rfl rfl
  | functorComplete _ _ pending =>
      exact .woke pending (by simp [Race.emit]) rfl (by simp [Race.emit]) rfl
  | expire _ due pending => exact .woke pending (by simp [Race.emit]) rfl (fun _ => due) rfl
  | finish | resumeSleep => exact .other rfl rfl rfl (by simp)
  | cancel | observe | resume | suspend | parentReturned | launched | linkCancelled | await | unlink
  | lose | parentGone | exchange | swap | notifyLink | notifySleep | notifyObserver
  | armStale | armCancelled | arm | registerCancelled | register | resetSleep | functorArm =>
      exact .quiet rfl rfl rfl

theorem Still.times (still : Still setting race next) (sound : Sound setting race) :
    Times setting race next := by
  cases still with
  | sleepElsewhere instructions => exact .slept (sound.unarmed instructions) rfl rfl rfl
  | observe | forget | link | functorStale | expireStale | abandon | tick => exact .quiet rfl rfl rfl

/-- The timer has expired in what is recorded, not before its time. -/
def Expired (setting : Setting) (events : List (Event Value Failure)) : Prop :=
  ∃ began ended, .slept began ∈ events ∧ .woke .expired ended ∈ events ∧
    addTicks began setting.timeout ≤ ended

/-- The record of the sleep. -/
structure Timed (setting : Setting) (race : Race Value Failure) : Prop where
  began : race.phase ≠ .unarmed →
    ∃ began, .slept began ∈ race.trace ∧ race.deadline = addTicks began setting.timeout
  expired : race.phase = .expired → Expired setting race.trace
  woke : ∀ ended, .woke .expired ended ∈ race.trace → race.phase = .expired

namespace Timed

theorem times (timed : Timed setting race) (times : Times setting race next) :
    Timed setting next := by
  cases times with
  | slept unarmed pending deadline trace =>
      refine ⟨fun _ => ⟨race.now, by simp [trace], deadline⟩, fun expired => ?_, fun ended woke => ?_⟩
      · cases pending.symm.trans expired
      · rw [trace, List.mem_append] at woke
        rcases woke with before | added
        · cases unarmed.symm.trans (timed.woke ended before)
        · simp at added
  | woke pending armed deadline due trace =>
      obtain ⟨began, slept, set⟩ := timed.began (by simp [pending])
      refine ⟨fun _ => ⟨began, by simp [trace, slept], deadline.trans set⟩, fun expired => ?_,
        fun ended woke => ?_⟩
      · exact ⟨began, race.now, by simp [trace, slept], by simp [trace, expired], set ▸ due expired⟩
      · rw [trace, List.mem_append] at woke
        rcases woke with before | added
        · cases pending.symm.trans (timed.woke ended before)
        · simp only [List.mem_singleton, Event.woke.injEq] at added
          exact added.1.symm
  | other phase deadline trace quiet =>
      have kept : ∀ event ∈ race.trace, event ∈ next.trace :=
        fun event member => trace ▸ List.mem_append_left _ member
      refine ⟨fun armed => ?_, fun expired => ?_, fun ended woke => ?_⟩
      · obtain ⟨began, slept, set⟩ := timed.began (phase ▸ armed)
        exact ⟨began, kept _ slept, deadline.trans set⟩
      · obtain ⟨began, ended, slept, woke, late⟩ := timed.expired (phase ▸ expired)
        exact ⟨began, ended, kept _ slept, kept _ woke, late⟩
      · rw [trace, List.mem_append] at woke
        exact phase.trans (timed.woke ended (woke.resolve_right (quiet ended)))

theorem step (timed : Timed setting race) (sound : Sound setting race)
    (steps : Steps setting race next) : Timed setting next := by
  cases steps with
  | does does frames =>
      have timed := timed.times (does.times sound)
      exact ⟨timed.began, timed.expired, timed.woke⟩
  | still still => exact timed.times (still.times sound)

theorem start (setting : Setting) (thread : Thread) (cancelled : Nat → Bool) (now : Int) :
    Timed setting (Race.start setting thread cancelled now : Race Value Failure) := by
  refine ⟨fun armed => absurd rfl armed, fun expired => ?_, fun ended woke => ?_⟩
  · cases expired
  · cases woke

end Timed

/-- A step completes the first task, or the first completion and what was before it stay. -/
theorem Steps.completes (steps : Steps setting race next) :
    (next.completions = race.completions ∨ race.completions ≠ []) ∧
      (∃ events, next.trace = race.trace ++ events) ∨
      race.completions = [] ∧ ∃ thread completion tokens,
        .settling completion tokens ∈ next.frames thread ∧
        next.trace = race.trace ++ [.completed completion] := by
  cases steps with
  | still still => exact .inl ⟨.inl still.decides.2, still.trace⟩
  | @does thread rest old new changed does frames =>
      by_cases completed : race.completions = []
      · have decides := does.decides
        cases decides with
        | @complete _ completion tokens _ _ _ _ trace =>
            exact .inr ⟨completed, thread, completion, tokens, by simp, trace⟩
        | unlink _ same => exact .inl ⟨.inl same, does.trace⟩
        | lose => exact .inl ⟨.inl rfl, does.trace⟩
        | win _ _ same => exact .inl ⟨.inl same, does.trace⟩
        | other _ same => exact .inl ⟨.inl same, does.trace⟩
      · exact .inl ⟨.inr completed, does.trace⟩

/-- The error of a timeout that completes first is that of its sleep. -/
def Told (setting : Setting) (race : Race Value Failure) : Prop :=
  ∀ error later, race.completions = .timeout error :: later → race.phase.settled = true ∧
    error = race.timeoutResult ∧ (race.phase = .expired → Expired setting race.prior)

namespace Told

theorem step (told : Told setting race) (sound : Sound setting race) (timed : Timed setting race)
    (steps : Steps setting race next) : Told setting next := by
  have after := sound.step steps
  intro error later first
  rcases steps.completes with ⟨same, events, trace⟩ | ⟨none, thread, completion, tokens, member, trace⟩
  · have completions : next.completions = race.completions ++ events.filterMap Event.completion := by
      rw [Race.completions, trace, List.filterMap_append, Race.completions]
    have completed : race.completions ≠ [] := by
      rcases same with same | known
      · simp [← same, first]
      · exact known
    obtain ⟨earlier, known⟩ : ∃ earlier, race.completions = .timeout error :: earlier := by
      cases before : race.completions with
      | nil => exact absurd before completed
      | cons head earlier =>
          rw [completions, before] at first
          cases first
          exact ⟨earlier, rfl⟩
    obtain ⟨settled, result, expired⟩ := told error earlier known
    have phase := (steps.grows sound).phase settled
    refine ⟨phase ▸ settled, ?_, fun late => ?_⟩
    · rw [result, Race.timeoutResult, Race.timeoutResult, phase]
    · rw [(prior_append completed trace).1]
      exact expired (phase ▸ late)
  · have completions := completions_append trace
    rw [none, List.nil_append, first] at completions
    cases completions
    obtain ⟨_, settled, result⟩ := after.frames thread _ member
    refine ⟨settled, result, fun late => ?_⟩
    obtain ⟨began, ended, slept, woke, waited⟩ := (timed.step sound steps).expired late
    rw [prior_first none trace]
    rw [trace, List.mem_append] at slept woke
    exact ⟨began, ended, slept.resolve_right (by simp), woke.resolve_right (by simp), waited⟩

theorem start (setting : Setting) (thread : Thread) (cancelled : Nat → Bool) (now : Int) :
    Told setting (Race.start setting thread cancelled now : Race Value Failure) := by
  intro error later first
  cases first

end Told

/-- All that holds of a race that has been started. -/
structure Law (setting : Setting) (race : Race Value Failure) : Prop where
  gated : Gated race
  decided : Decided race
  sound : Sound setting race
  paths : Paths race
  ready : Ready race
  delivers : Delivers setting race
  stored : Stored race
  answered : Answered race
  timed : Timed setting race
  told : Told setting race

namespace Law

theorem start (setting : Setting) (thread : Thread) (cancelled : Nat → Bool) (now : Int) :
    Law setting (Race.start setting thread cancelled now : Race Value Failure) :=
  ⟨Gated.start setting thread cancelled now, .start .., .start .., .start .., .start .., .start ..,
    .start .., Answered.start setting thread cancelled now, .start ..,
    Told.start setting thread cancelled now⟩

theorem step (law : Law setting race) (steps : Steps setting race next) : Law setting next := by
  obtain ⟨gated, decided, sound, paths, ready, delivers, stored, answered, timed, told⟩ := law
  exact ⟨gated.step steps, decided.step gated steps, sound.step steps, paths.step sound steps,
    ready.step decided sound paths steps, delivers.step decided gated sound paths ready steps,
    stored.step delivers decided sound steps, answered.step stored steps, timed.step sound steps,
    told.step sound timed steps⟩

/-- A sleep that was cancelled before the operation has completed was cancelled by the token
that `withTimeout` has inherited. -/
theorem inherits (law : Law setting race) {error : NetError}
    {later : List (Completion Value Failure)} (first : race.completions = .timeout error :: later)
    (cancelled : race.phase = .cancelled) : Inherits setting race := by
  have linked := law.sound.cancelled _ (law.sound.phase cancelled)
  refine linked.resolve_left fun lost => ?_
  obtain ⟨head, _, completions, same⟩ := law.decided.decided _ (law.sound.cancelled _ lost)
  rw [first] at completions
  cases completions
  cases same

theorem reach {thread : Thread} {cancelled : Nat → Bool} {now : Int}
    (reached : Reach (Race.step setting) (fun _ _ => True)
      (Race.start setting thread cancelled now) race) : Law setting race :=
  reached.invariant (start setting thread cancelled now)
    fun _ _ _ law _ taken => law.step (step_cases taken)

end Law

/-- The task that has completed first is the winner. -/
theorem Law.won (law : Law setting race) {head : Completion Value Failure}
    {later : List (Completion Value Failure)} (first : race.completions = head :: later)
    (known : race.winner ≠ none) : race.winner = some head.branch := by
  obtain ⟨winner, won⟩ := Option.ne_none_iff_exists'.mp known
  obtain ⟨earliest, _, completions, same⟩ := law.decided.decided winner won
  rw [first] at completions
  cases completions
  rw [won, same]

/-- How the timeout has come to its error. -/
theorem Law.attributed (law : Law setting race) {error : NetError}
    {later : List (Completion Value Failure)} (first : race.completions = .timeout error :: later) :
    (error = .timedOut ∧ Expired setting race.prior) ∨
      (error = .cancelled ∧ Inherits setting race ∧ ∀ ended, .woke .expired ended ∉ race.trace) := by
  obtain ⟨settled, result, expired⟩ := law.told error later first
  cases phase : race.phase with
  | unarmed | pending =>
      rw [phase] at settled
      cases settled
  | expired =>
      refine .inl ⟨?_, expired phase⟩
      rw [result, Race.timeoutResult, phase]
      rfl
  | cancelled =>
      refine .inr ⟨?_, law.inherits first phase, fun ended woke => ?_⟩
      · rw [result, Race.timeoutResult, phase]
        rfl
      · cases phase.symm.trans (law.timed.woke ended woke)

/-- When a task has completed and its wrapper is through, the parent has a result. -/
theorem Law.answers (law : Law setting race) (completed : race.completions ≠ [])
    (alive : race.alive = true)
    (through : ∀ thread, ∀ frame ∈ race.frames thread, frame.deciding = false) :
    ∃ outcome, race.result = some outcome := by
  have known : race.winner ≠ none := by
    intro undecided
    rcases law.decided.undecided undecided with none | ⟨thread, completion, tokens, rest, frames, _⟩
    · exact completed none
    · cases through thread (.settling completion tokens) (by simp [frames])
  rcases law.answered known alive with given | ⟨thread, losers | resumes⟩
  · exact Option.ne_none_iff_exists'.mp given
  · cases through thread _ losers
  · cases through thread _ resumes

/-- The result is the operation's if it has completed first, or what a move of its value has
thrown. Otherwise it is that of the timeout, unless a callback that user code has registered
with the token of the operation throws while the race cancels that token. -/
theorem withTimeout_outcome (setting : Setting) (thread : Thread) (cancelled : Nat → Bool)
    (now : Int) {race : Race Value Failure}
    (reached : Reach (Race.step setting) (fun _ _ => True)
      (Race.start setting thread cancelled now) race) :
    (∀ error later, race.completions = .timeout error :: later →
      (error = .timedOut ∧ Expired setting race.prior) ∨
        (error = .cancelled ∧ Inherits setting race ∧
          ∀ ended, .woke .expired ended ∉ race.trace)) ∧
    (race.completions ≠ [] → race.alive = true →
      (∀ thread, ∀ frame ∈ race.frames thread, frame.deciding = false) →
      ∃ outcome, race.result = some outcome) ∧
    ∀ outcome, race.result = some outcome →
      race.completions ≠ [] ∧
      (∀ own later, race.completions = .operation own :: later → outcome = own ∨
        ∃ value failure, own = .returned (.ok value) ∧ outcome = .threw failure ∧
          .moveThrew failure ∈ race.since) ∧
      (∀ error later, race.completions = .timeout error :: later →
        race.cancelled .prepared = true ∧ (outcome = .returned (.error error) ∨
          ∃ failure, outcome = .threw failure ∧ .threw .prepared failure ∈ race.since)) ∧
      (outcome = .returned (.error .timedOut) → Expired setting race.prior ∨
        ∃ later, race.completions = .operation (.returned (.error .timedOut)) :: later) ∧
      (¬ Inherits setting race → ¬ Expired setting race.prior →
        ∃ own later, race.completions = .operation own :: later) := by
  have law := Law.reach reached
  refine ⟨fun error later first => law.attributed first, law.answers, fun outcome result => ?_⟩
  obtain ⟨known, reports, cancels⟩ := law.stored.result outcome result
  cases completions : race.completions with
  | nil =>
      rw [Reports, completions] at reports
      exact reports.elim
  | cons head later =>
      rw [Reports, completions] at reports
      cases head with
      | operation own =>
          refine ⟨by simp, fun own later first => ?_, fun error later first => ?_, fun timedOut => ?_,
            fun _ _ => ⟨own, later, rfl⟩⟩
          · cases first
            exact reports
          · cases first
          · rcases reports with rfl | ⟨_, _, _, threw, _⟩
            · exact .inr ⟨later, by rw [timedOut]⟩
            · cases timedOut.symm.trans threw
      | timeout error =>
          have attributed := law.attributed completions
          refine ⟨by simp, fun own later first => ?_, fun error later first => ?_, fun timedOut => ?_,
            fun kept unexpired => ?_⟩
          · cases first
          · cases first
            exact ⟨cancels (law.won completions known), reports⟩
          · rcases attributed with ⟨_, expired⟩ | ⟨rfl, _⟩
            · exact .inl expired
            · rcases reports with same | ⟨failure, same, _⟩
              · cases timedOut.symm.trans same
              · cases timedOut.symm.trans same
          · rcases attributed with ⟨_, expired⟩ | ⟨_, inherits, _⟩
            · exact absurd expired unexpired
            · exact absurd inherits kept

/-- The timer of a race on one thread expires while the operation is suspended. -/
def expiry (observes told : List (Action Unit Unit)) : List (Action Unit Unit) :=
  [List.replicate 4 (.goOn 0), observes, [.suspend 0], List.replicate 4 (.goOn 0),
    [.tick 5, .expire], List.replicate 5 (.goOn 0),
    [.notify 0 (.cancel (.linked .operation)), .goOn 0, .goOn 0, .notify 0 (.cancel .prepared),
      .goOn 0, .goOn 0], told, List.replicate 4 (.goOn 0)].flatten

theorem withTimeout_outcome_expired : ∃ race : Race Unit Unit,
    race.result = some (.returned (.error .timedOut)) ∧ race.cancelled .prepared = true ∧
      Expired { timeout := 5 } race.prior := by
  have final : (run (Race.step { timeout := 5 })
      (Race.start { timeout := 5 } 0 (fun _ => false) 0) (expiry [] [])).map
        (fun race => (race.result, race.completions)) =
      some (some (.returned (.error .timedOut)), [.timeout .timedOut]) := rfl
  obtain ⟨race, ran, same⟩ := Option.map_eq_some_iff.mp final
  obtain ⟨result, completions⟩ := Prod.mk.inj same
  obtain ⟨attributed, _, outcomes⟩ := withTimeout_outcome { timeout := 5 } 0 (fun _ => false) 0
    (Reach.start.run (fun _ _ _ => trivial) ran)
  obtain ⟨_, _, timeout, _⟩ := outcomes _ result
  refine ⟨race, result, (timeout _ _ completions).1, ?_⟩
  rcases attributed _ _ completions with ⟨_, expired⟩ | ⟨wrong, _⟩
  · exact expired
  · cases wrong

/-- A callback of the operation's token throws while the race cancels it, and replaces the
error of the timer that has expired. -/
theorem withTimeout_outcome_thrown : ¬ ∀ (setting : Setting) (thread : Thread)
    (cancelled : Nat → Bool) (now : Int) (race : Race Unit Unit),
    Reach (Race.step setting) (fun _ _ => True) (Race.start setting thread cancelled now) race →
    ∀ outcome, race.result = some outcome →
      (∀ own later, race.completions ≠ .operation own :: later) → Expired setting race.prior →
      outcome = .returned (.error .timedOut) := by
  intro law
  have final : (run (Race.step { timeout := 5 })
      (Race.start { timeout := 5 } 0 (fun _ => false) 0)
      (expiry [.observe 0 .prepared] [.notify 0 .observer, .threw 0 ()])).map
        (fun race => (race.result, race.completions)) =
      some (some (.threw ()), [.timeout .timedOut]) := rfl
  obtain ⟨race, ran, same⟩ := Option.map_eq_some_iff.mp final
  obtain ⟨result, completions⟩ := Prod.mk.inj same
  have reached : Reach (Race.step { timeout := 5 }) (fun _ _ => True)
      (Race.start { timeout := 5 } 0 (fun _ => false) 0) race :=
    Reach.start.run (fun _ _ _ => trivial) ran
  rcases (Law.reach reached).attributed completions with ⟨_, expired⟩ | ⟨wrong, _⟩
  · have reported := law _ _ _ _ race reached _ result
      (fun own later first => by simp [completions] at first) expired
    cases reported
  · cases wrong

end MiniTrantor.Coroutine.Timeout
