import MiniTrantor.Coroutine.Tasks.Traces

/-!
# What coroutines return

The frames of a parent and a child, and the steps of whole runs.
-/

set_option autoImplicit false

namespace MiniTrantor.Coroutine.Tasks

namespace Coroutines

variable {Value Failure : Type} {coroutines next : Coroutines Value Failure} {thread : Thread}
  {gate : Gate} {task : TaskId} {parent child frame : FrameId} {rest base : List Activity}

section

variable (faithful : ∀ frame, coroutines.Faithful frame) (valid : coroutines.Valid)
  (running : coroutines.terminated = false)
include faithful valid running

/-- The coroutine whose body a thread is in. -/
theorem Faithful.body (top : coroutines.activities thread = .execution gate (.body frame) :: rest) :
    coroutines.status frame = .running thread ∧
      (coroutines.frames frame).startState_ = .started ∧
      (coroutines.frames frame).result = none ∧
      (∀ holder, ¬coroutines.Finishing holder frame) ∧
      Leads frame .created coroutines.trace .started := by
  have threaded := (valid.sound running).threaded
  have listed : .execution gate (.body frame) ∈ coroutines.activities thread := by
    rw [top]
    exact List.mem_cons_self
  have runs := threaded.running_of listed rfl
  have started := (valid.records running frame).started_of runs
  obtain ⟨none, unfinished⟩ := (faithful frame).unreturned threaded top rfl (by simp)
  have alive : (coroutines.frames frame).status ≠ .destroyed := by
    rw [show (coroutines.frames frame).status = _ from runs]
    simp
  have lives := (faithful frame).lives
  rw [Frame.life_started alive started none] at lives
  exact ⟨runs, started, none, unfinished, lives⟩

theorem Faithful.suspend (top : coroutines.activities thread = .execution gate (.body frame) :: rest)
    (other : FrameId) :
    ((coroutines.change frame fun old =>
      { old with
        status := .suspended .awaitable
        suspensions := old.suspensions + 1 }).put thread
          (.execution gate (.suspending frame) :: rest)).Faithful other := by
  obtain ⟨later, same⟩ : ∃ later, later = (coroutines.change frame fun old =>
      { old with
        status := .suspended .awaitable
        suspensions := old.suspensions + 1 }).put thread
          (.execution gate (.suspending frame) :: rest) := ⟨_, rfl⟩
  have frames : later.frames = Function.update coroutines.frames frame
      { coroutines.frames frame with
        status := .suspended .awaitable
        suspensions := (coroutines.frames frame).suspensions + 1 } := by
    rw [same]
    rfl
  have trace : later.trace = coroutines.trace ++ [] := by
    rw [same, List.append_nil]
    rfl
  have finishing : ∀ {holder item}, later.Finishing holder item ↔ coroutines.Finishing holder item := by
    intro holder item
    have activities : later.activities = Function.update coroutines.activities thread
        ([Activity.execution gate (.suspending frame)] ++ rest) := by
      rw [same]
      rfl
    exact finishing_iff top activities (fun _ => plain_one (by simp)) fun _ => plain_one (by simp)
  rw [← same]
  by_cases this : other = frame
  · subst this
    obtain ⟨_, started, none, unfinished, lives⟩ := Faithful.body faithful valid running top
    have here := congrFun frames other
    rw [Function.update_self] at here
    have at_ : later.status other = .suspended .awaitable := by
      rw [status_update frames, Function.update_self]
    apply Faithful.ongoing
    · rwa [trace, List.append_nil]
    · rw [here]
      exact started
    · rw [here]
      exact none
    · rw [at_]
      simp
    · rw [at_]
      simp
    · exact fun holder => finishing.not.mpr (unfinished holder)
  · apply (faithful other).keep _ trace
    · exact fun _ none => by cases none
    · exact fun _ => finishing
    · rw [frames, Function.update_of_ne this]

theorem Faithful.finish (top : coroutines.activities thread = .execution gate (.body frame) :: rest)
    (result : Except Failure Value) (other : FrameId) :
    (((coroutines.change frame fun old => { old with result := some result }).emit
      (.finished frame result)).put thread
        (.execution gate (.finishing frame) :: rest)).Faithful other := by
  obtain ⟨later, same⟩ : ∃ later, later =
      ((coroutines.change frame fun old => { old with result := some result }).emit
        (.finished frame result)).put thread (.execution gate (.finishing frame) :: rest) := ⟨_, rfl⟩
  have frames : later.frames = Function.update coroutines.frames frame
      { coroutines.frames frame with result := some result } := by
    rw [same]
    rfl
  have trace : later.trace = coroutines.trace ++ [Event.finished frame result] := by
    rw [same]
    rfl
  have activities : later.activities = Function.update coroutines.activities thread
      ([Activity.execution gate (.finishing frame)] ++ rest) := by
    rw [same]
    rfl
  rw [← same]
  by_cases this : other = frame
  · subst this
    obtain ⟨runs, started, _, _, lives⟩ := Faithful.body faithful valid running top
    have here := congrFun frames other
    rw [Function.update_self] at here
    have at_ : later.status other = .running thread := by
      rw [status_update frames, Function.update_self]
      exact runs
    have alive : (later.frames other).status ≠ .destroyed := by
      rw [show (later.frames other).status = _ from at_]
      simp
    refine ⟨?_, ?_, ?_, ?_⟩
    · rw [Frame.life_ended alive (by rw [here]; exact started) (by rw [here]), trace]
      · exact lives.here .finish
      · intro done
        cases at_.symm.trans done
    · intro point suspended
      rw [at_] at suspended
      cases suspended
    · intro holder here_
      cases at_.symm.trans here_
      rw [here]
      refine ⟨fun _ => ⟨gate, ?_⟩, fun _ => by simp⟩
      rw [activities, Function.update_self]
      exact List.mem_append_left _ List.mem_cons_self
    · intro done
      rw [at_] at done
      cases done
  · apply (faithful other).keep _ trace
    · exact unrelated rfl this
    · intro holder
      apply finishing_iff top activities fun _ => plain_one (by simp)
      intro under
      apply plain_one
      intro same
      cases same
      exact this rfl
    · rw [frames, Function.update_of_ne this]

end

/-- A coroutine awaits another one. -/
theorem Faithful.awaitSuspend {record : Frame Value Failure} {now : Doing}
    {events : List (Event Value Failure)}
    (faithful : ∀ frame, coroutines.Faithful frame) (threaded : coroutines.Threaded)
    (awaits : Awaits coroutines next thread gate parent child rest record now events)
    (apart : child ≠ parent) (alive : coroutines.status child ≠ .destroyed)
    (pending : coroutines.status child ≠ .done)
    (started : (coroutines.frames parent).startState_ = .started)
    (none : (coroutines.frames parent).result = none)
    (unfinished : ∀ holder, ¬coroutines.Finishing holder parent)
    (lives : Leads parent .created coroutines.trace .started) (other : FrameId) :
    next.Faithful other := by
  have about : ∀ event ∈ events, event.subject = some child := by
    intro event listed
    obtain ⟨_, _, rfl, _⟩ | ⟨_, _, _, rfl, _⟩ := awaits.goes
    · cases listed
    · rw [List.mem_singleton.mp listed]
      rfl
  have strange : ∀ {item}, item ≠ child → ∀ event ∈ events, event.subject ≠ some item := by
    intro item differs event listed subject
    rw [about event listed] at subject
    exact differs (Option.some.inj subject).symm
  have unmarked : ∀ item, now ≠ .finishing item := by
    intro item
    obtain ⟨_, rfl, _⟩ | ⟨_, _, rfl, _⟩ := awaits.goes <;> simp
  have finishing : ∀ {holder item}, next.Finishing holder item ↔ coroutines.Finishing holder item :=
    finishing_iff awaits.shift.top awaits.shift.activities (fun _ => plain_one (by simp))
      fun _ => plain_one (unmarked _)
  by_cases first : other = parent
  · subst first
    have here := congrFun awaits.frames other
    rw [Function.update_of_ne apart.symm, Function.update_self] at here
    have at_ : next.status other = .suspended .task := congrArg Frame.status here
    apply Faithful.ongoing
    · rw [awaits.trace]
      exact lives.others (strange apart.symm)
    · rw [here]
      exact started
    · rw [here]
      exact none
    · rw [at_]
      simp
    · rw [at_]
      simp
    · exact fun holder => finishing.not.mpr (unfinished holder)
  · by_cases second : other = child
    · subst second
      have here := congrFun awaits.frames other
      rw [Function.update_self] at here
      obtain ⟨state, _, rfl, rfl⟩ | ⟨at_, lazy, _, rfl, rfl⟩ := awaits.goes
      · have still : next.status other = coroutines.status other := by
          unfold status
          rw [here]
        have old := faithful other
        have life : (next.frames other).life = (coroutines.frames other).life := by
          rw [here]
          exact Frame.life_adopted pending parent
        refine ⟨?_, ?_, ?_, ?_⟩
        · rw [life, awaits.trace, List.append_nil]
          exact old.lives
        · rw [still, here]
          exact old.suspended
        · intro holder runs
          rw [finishing, here]
          exact old.running holder (still.symm.trans runs)
        · rw [still]
          exact fun done => absurd done pending
      · have before := (faithful other).lives
        rw [Frame.life_created alive lazy] at before
        have runs : next.status other = .running thread := congrArg Frame.status here
        apply Faithful.ongoing
        · rw [awaits.trace]
          exact before.here .start
        · rw [here]
        · rw [here]
          exact (faithful other).suspended .initial at_
        · rw [runs]
          simp
        · rw [runs]
          simp
        · intro holder
          rw [finishing]
          apply Faithful.unfinished threaded
          rw [at_]
          rfl
    · apply (faithful other).keep _ awaits.trace (strange second) fun _ => finishing
      rw [awaits.frames, Function.update_of_ne second, Function.update_of_ne first]

/-- A child is destroyed when its parent has received the result. -/
theorem Faithful.received {life : Life Value Failure} {result : Except Failure Value}
    {old new : List Activity} (faithful : ∀ frame, coroutines.Faithful frame)
    (mine : Leads child .created coroutines.trace life)
    (step : life.Step child (.received parent child (some result)) .received)
    (top : coroutines.activities thread = old ++ rest)
    (before : ∀ other gate, .execution gate (.finishing other) ∉ old)
    (after : ∀ other gate, .execution gate (.finishing other) ∉ new)
    (taken : (coroutines.emit (.received parent child (some result))).destroyFrame thread child
      (new ++ rest) = some next)
    (defined : next.undefined = false) (running : next.terminated = false) (other : FrameId) :
    next.Faithful other := by
  have trace : (coroutines.emit (.received parent child (some result))).trace =
    coroutines.trace ++ [Event.received parent child (some result)] := rfl
  have receives : Leads child .created
      (coroutines.emit (.received parent child (some result))).trace .received := mine.here step
  have destructible : Life.Destructible (.received : Life Value Failure) := trivial
  refine Faithful.destroyFrame ?_ receives destructible top before after taken defined running other
  intro item differs
  have record : (coroutines.emit (.received parent child (some result))).frames item =
    coroutines.frames item := rfl
  apply (faithful item).keep record trace
  · exact unrelated rfl differs
  · exact fun _ => .rfl

section

variable (faithful : ∀ frame, coroutines.Faithful frame) (valid : coroutines.Valid)
  (running : coroutines.terminated = false) (defined : next.undefined = false)
  (lives : next.terminated = false)
include faithful valid running defined lives

theorem Faithful.await (held : coroutines.held task = some (some child))
    (quiet : coroutines.status child = .done ∨ coroutines.executions (coroutines.gate child) = 0)
    (top : coroutines.activities thread = .execution gate (.body parent) :: rest)
    (taken : (coroutines.setCoroutine task none).await thread gate parent child rest = some next)
    (other : FrameId) : next.Faithful other := by
  have sound := valid.sound running
  have given : ∀ other, (coroutines.setCoroutine task none).Faithful other :=
    fun _ => Faithful.same faithful rfl rfl rfl
  have owes := sound.owes held
  unfold Coroutines.await at taken
  split at taken
  case h_1 done =>
    obtain ⟨started, result, some_⟩ := (faithful child).ended (valid.records running child) done
    have alone := (sound.unlinked held).2
    have before := (faithful child).lives
    rw [Frame.life_ended owes.2.1 started some_ fun _ => alone] at before
    have same : ((coroutines.setCoroutine task none).frames child).result = some result := some_
    have stays : (coroutines.setCoroutine task none).activities thread =
      [Activity.execution gate (.body parent)] ++ rest := top
    rw [same] at taken
    exact Faithful.received given before .receive stays (fun _ _ => plain_one (by simp))
      (fun _ _ => plain_one (by simp)) taken defined lives other
  case h_2 dead => exact absurd dead owes.2.1
  case h_3 pending alive =>
    cases taken
    obtain ⟨_, apart⟩ := sound.unequal (quiet.resolve_left pending) top
    obtain ⟨record, now, events, awaits⟩ :=
      (sound.give held).awaits (valid.records running child) apart top
    obtain ⟨_, started, none, unfinished, before⟩ := Faithful.body faithful valid running top
    exact Faithful.awaitSuspend given (sound.give held).threaded awaits apart alive pending started
      none unfinished before other

theorem Faithful.awaitResume
    (top : coroutines.activities thread = .execution gate (.returning parent) :: rest)
    (taken : coroutines.awaitResume thread gate parent rest = some next) (other : FrameId) :
    next.Faithful other := by
  have sound := valid.sound running
  have listed : .execution gate (.returning parent) ∈ coroutines.activities thread := by
    rw [top]
    exact List.mem_cons_self
  obtain ⟨child, awaits⟩ := Option.ne_none_iff_exists'.mp
    (sound.waiting.returning thread gate parent listed)
  have has : (coroutines.frames parent).awaiter = some child := awaits
  have runs := sound.threaded.running_of listed rfl
  have done := sound.waiting.returns parent child thread awaits runs
  obtain ⟨started, result, some_⟩ := (faithful child).ended (valid.records running child) done
  have before := (faithful child).lives
  rw [Frame.life_continued done started some_ (sound.linked.continued parent child awaits)] at before
  have left : ∀ item,
      (coroutines.change parent fun old => { old with awaiter := none }).Faithful item := by
    apply Faithful.revise faithful <;> rfl
  have stays : (coroutines.change parent fun old => { old with awaiter := none }).activities thread =
    [Activity.execution gate (.returning parent)] ++ rest := top
  simp only [Coroutines.awaitResume, has, some_] at taken
  exact Faithful.received left before .resume stays (fun _ _ => plain_one (by simp))
    (fun _ _ => plain_one (by simp)) taken defined lives other

theorem Faithful.destroyAwaiter
    (top : coroutines.activities thread = .destroying gate frame :: rest)
    (awaits : coroutines.awaiter frame = some child)
    (taken : (coroutines.change frame fun old => { old with awaiter := none }).destroyFrame thread
      child (.destroying gate frame :: rest) = some next) (other : FrameId) :
    next.Faithful other := by
  have sound := valid.sound running
  have dead : coroutines.status frame = .destroyed := by
    apply sound.waiting.unwinding thread gate
    rw [top]
    exact List.mem_cons_self
  have pending := sound.waiting.suspended frame child awaits (.inr dead)
  have owes := sound.owned.owes (show coroutines.holding (.awaiter frame) = some child from awaits)
  have left : ∀ item,
      (coroutines.change frame fun old => { old with awaiter := none }).Faithful item := by
    apply Faithful.revise faithful <;> rfl
  rw [← top] at taken
  exact Faithful.destroyHere (fun item _ => left item) (faithful child).lives
    (Frame.destructible owes.2.1 fun done => absurd done pending) taken defined lives other

end

/-- Nothing changes for bodies that end elsewhere. -/
theorem finishing_elsewhere {other : FrameId} {new : List Activity} {holder : Thread}
    (top : coroutines.activities thread = .execution gate (.finishing frame) :: rest)
    (differs : other ≠ frame)
    (activities : next.activities = Function.update coroutines.activities thread (new ++ rest))
    (plain : ∀ gate, .execution gate (.finishing other) ∉ new) :
    next.Finishing holder other ↔ coroutines.Finishing holder other := by
  have own : Doing.finishing frame ≠ .finishing other := by
    intro same
    cases same
    exact differs rfl
  exact finishing_iff top activities (fun _ => plain_one own) plain

section

variable (faithful : ∀ frame, coroutines.Faithful frame) (valid : coroutines.Valid)
  (running : coroutines.terminated = false)
  (top : coroutines.activities thread = .execution gate (.finishing frame) :: rest)
include faithful valid running top

/-- The coroutine whose body is over. -/
theorem Faithful.returned : coroutines.status frame = .running thread ∧
    (coroutines.frames frame).startState_ = .started ∧
    ∃ result, (coroutines.frames frame).result = some result ∧
      Leads frame .created coroutines.trace (.ended result) := by
  have runs := ((valid.sound running).finishing top).1
  have at_ : (coroutines.frames frame).status = .running thread := runs
  have started := (valid.records running frame).started_of runs
  obtain ⟨result, some_⟩ : ∃ result, (coroutines.frames frame).result = some result := by
    apply Option.ne_none_iff_exists'.mp
    apply ((faithful frame).running thread runs).mpr
    exact ⟨gate, by rw [top]; exact List.mem_cons_self⟩
  have before := (faithful frame).lives
  rw [Frame.life_ended (by rw [at_]; simp) started some_ fun done => by cases at_.symm.trans done]
    at before
  exact ⟨runs, started, result, some_, before⟩

/-- The parent goes on. -/
theorem Faithful.continues (continuation : (coroutines.frames frame).continuation_ = some parent)
    (other : FrameId) :
    (((coroutines.setStatus frame .done).emit (.continued parent frame)).enter thread gate parent
      rest).Faithful other := by
  have sound := valid.sound running
  obtain ⟨runs, started, result, some_, before⟩ := Faithful.returned faithful valid running top
  obtain ⟨awaits, waits, _⟩ := sound.expects top continuation
  have apart : parent ≠ frame := by
    rintro rfl
    rw [runs] at waits
    cases waits
  obtain ⟨ended, same⟩ : ∃ ended, ended =
    (coroutines.setStatus frame .done).emit (.continued parent frame) := ⟨_, rfl⟩
  have still : ended.status parent = .suspended .task := by
    rw [same]
    change (Function.update coroutines.frames frame _ parent).status = _
    rw [Function.update_of_ne apart]
    exact waits
  obtain ⟨later, named⟩ : ∃ later, later = (ended.setStatus parent (.running thread)).put thread
    (.execution gate (.returning parent) :: rest) := ⟨_, rfl⟩
  have frames : later.frames = Function.update (Function.update coroutines.frames frame
      { coroutines.frames frame with status := .done }) parent
        { coroutines.frames parent with status := .running thread } := by
    rw [named, same]
    change Function.update (Function.update coroutines.frames frame _) parent
      { Function.update coroutines.frames frame _ parent with status := .running thread } = _
    rw [Function.update_of_ne apart]
  have trace : later.trace = coroutines.trace ++ [Event.continued parent frame] := by
    rw [named, same]
    rfl
  have activities : later.activities = Function.update coroutines.activities thread
      ([Activity.execution gate (.returning parent)] ++ rest) := by
    rw [named, same]
    rfl
  rw [← same, enter_eq still, if_pos rfl, ← named]
  by_cases first : other = frame
  · subst first
    have here := congrFun frames other
    rw [Function.update_of_ne apart.symm, Function.update_self] at here
    have done : later.status other = .done := congrArg Frame.status here
    refine ⟨?_, ?_, ?_, ?_⟩
    · have life : (later.frames other).life = .continued parent result := by
        rw [here]
        refine Frame.life_continued ?_ ?_ ?_ ?_
        exacts [rfl, started, some_, continuation]
      rw [life, trace]
      exact before.here .continue_
    · intro point suspended
      cases done.symm.trans suspended
    · intro holder runs
      cases done.symm.trans runs
    · rw [here, some_]
      simp
  · by_cases second : other = parent
    · subst second
      have here := congrFun frames other
      rw [Function.update_self] at here
      have now : later.status other = .running thread := congrArg Frame.status here
      have none := (faithful other).suspended .task waits
      have begun := (valid.records running other).started_at waits
      have earlier := (faithful other).lives
      rw [Frame.life_started (by rw [show (coroutines.frames other).status = _ from waits]; simp)
        begun none] at earlier
      apply Faithful.ongoing
      · rw [trace]
        exact earlier.others (unrelated rfl first)
      · rw [here]
        exact begun
      · rw [here]
        exact none
      · rw [now]
        simp
      · rw [now]
        simp
      · intro holder
        rw [finishing_elsewhere top first activities fun _ => plain_one (by simp)]
        apply Faithful.unfinished sound.threaded
        rw [waits]
        rfl
    · apply (faithful other).keep _ trace (unrelated rfl first)
      · exact fun _ => finishing_elsewhere top first activities fun _ => plain_one (by simp)
      · rw [frames, Function.update_of_ne second, Function.update_of_ne first]

/-- A detached coroutine destroys its frame. -/
theorem Faithful.vanishes (other : FrameId) :
    ((coroutines.setStatus frame .done).destroy thread gate frame
      (.execution gate .over :: rest)).Faithful other := by
  obtain ⟨_, _, result, _, before⟩ := Faithful.returned faithful valid running top
  have done : (coroutines.setStatus frame .done).status frame = .done := by
    change (Function.update coroutines.frames frame _ frame).status = _
    rw [Function.update_self]
  obtain ⟨later, named⟩ : ∃ later, later = (((coroutines.setStatus frame .done).change frame
    fun old => { old with status := .destroyed, handle := false }).emit
      (.destroyed frame)).put thread (.destroying gate frame :: .execution gate .over :: rest) :=
    ⟨_, rfl⟩
  have trace : later.trace = coroutines.trace ++ [Event.destroyed frame] := by
    rw [named]
    rfl
  have frames : later.frames = Function.update coroutines.frames frame
      { coroutines.frames frame with status := .destroyed, handle := false } := by
    rw [named]
    change Function.update (Function.update coroutines.frames frame _) frame
      { Function.update coroutines.frames frame _ frame with
        status := .destroyed
        handle := false } = _
    rw [Function.update_idem, Function.update_self]
  rw [destroy_eq (.inr done), ← named]
  by_cases same : other = frame
  · subst same
    apply Faithful.gone
    · rw [trace]
      exact before.here (.destroy trivial)
    · rw [status_update frames, Function.update_self]
  · apply (faithful other).keep _ trace
    · exact unrelated rfl same
    · intro holder
      have activities : later.activities = Function.update coroutines.activities thread
          ([Activity.destroying gate frame, .execution gate .over] ++ rest) := by
        rw [named]
        rfl
      refine finishing_elsewhere top same activities ?_
      intro under listed
      simp at listed
    · rw [frames, Function.update_of_ne same]

/-- The coroutine waits for its owner. -/
theorem Faithful.remains (alone : (coroutines.frames frame).continuation_ = none)
    (other : FrameId) :
    ((coroutines.setStatus frame .done).put thread (.execution gate .over :: rest)).Faithful
      other := by
  obtain ⟨_, started, result, some_, before⟩ := Faithful.returned faithful valid running top
  obtain ⟨later, named⟩ : ∃ later, later =
    (coroutines.setStatus frame .done).put thread (.execution gate .over :: rest) := ⟨_, rfl⟩
  have frames : later.frames = Function.update coroutines.frames frame
      { coroutines.frames frame with status := .done } := by
    rw [named]
    rfl
  have trace : later.trace = coroutines.trace ++ [] := by
    rw [named, List.append_nil]
    rfl
  rw [← named]
  by_cases same : other = frame
  · subst same
    have here := congrFun frames other
    rw [Function.update_self] at here
    have done : later.status other = .done := congrArg Frame.status here
    refine ⟨?_, ?_, ?_, ?_⟩
    · have life : (later.frames other).life = .ended result := by
        rw [here]
        refine Frame.life_ended ?_ ?_ ?_ ?_
        exacts [by simp, started, some_, fun _ => alone]
      rwa [life, trace, List.append_nil]
    · intro point suspended
      cases done.symm.trans suspended
    · intro holder runs
      cases done.symm.trans runs
    · rw [here, some_]
      simp
  · apply (faithful other).keep _ trace
    · exact fun _ none => by cases none
    · intro holder
      have activities : later.activities = Function.update coroutines.activities thread
          ([Activity.execution gate .over] ++ rest) := by
        rw [named]
        rfl
      exact finishing_elsewhere top same activities fun _ => plain_one (by simp)
    · rw [frames, Function.update_of_ne same]

theorem Faithful.finalSuspend (other : FrameId) :
    (coroutines.finalSuspend thread gate frame rest).Faithful other := by
  unfold Coroutines.finalSuspend
  simp only
  split
  case h_1 parent continuation =>
    exact Faithful.continues faithful valid running top continuation other
  case h_2 alone =>
    split
    case isTrue => exact Faithful.vanishes faithful valid running top other
    case isFalse => exact Faithful.remains faithful valid running top alone other

end

end Coroutines

end MiniTrantor.Coroutine.Tasks
