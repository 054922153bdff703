import MiniTrantor.Coroutine.Tasks.Steps

/-!
# Steps of frames that wait

A `co_await`, the return from it, the end of a body, and what a thread does on its way back.
-/

set_option autoImplicit false

namespace MiniTrantor.Coroutine.Tasks

variable {Value Failure : Type}

namespace Frame.Sound

variable {frame : Frame Value Failure} {thread : Thread}

theorem started_of (sound : frame.Sound) (running : frame.status = .running thread) :
    frame.startState_ = .started := by
  cases state : frame.startState_ with
  | started => rfl
  | lazy =>
      obtain at_ | at_ := sound.lazy state <;>
        · rw [running] at at_
          cases at_

/-- A frame that runs has used every handle. -/
theorem used_of (sound : frame.Sound) (running : frame.status = .running thread) (suspension : Nat)
    (known : suspension < frame.suspensions) : frame.resumed suspension = true :=
  sound.used (by rw [running]; simp) (by rw [running]; simp) suspension known

theorem handled (sound : frame.Sound) (running : frame.status = .running thread) :
    frame.handle = true := sound.handle.mpr (by rw [running]; simp)

theorem await (sound : frame.Sound) (running : frame.status = .running thread) (child : FrameId) :
    Sound { frame with status := .suspended .task, awaiter := some child } where
  handle := by simp [sound.handled running]
  lazy unstarted := by simp [sound.started_of running] at unstarted
  started _ := by simp
  resumable suspension known unused := by
    simp only [sound.used_of running suspension known] at unused
    cases unused
  unused := sound.unused
  waits at_ := by cases at_
  continued := sound.continued
  detached gone := ⟨(sound.detached gone).1, by simp⟩

theorem suspend (sound : frame.Sound) (running : frame.status = .running thread) :
    Sound { frame with status := .suspended .awaitable, suspensions := frame.suspensions + 1 } where
  handle := by simp [sound.handled running]
  lazy unstarted := by simp [sound.started_of running] at unstarted
  started _ := by simp
  resumable suspension known unused := by
    obtain known | same := Nat.lt_succ_iff_lt_or_eq.mp known
    · simp only [sound.used_of running suspension known] at unused
      cases unused
    · exact ⟨congrArg (· + 1) same, .inl rfl⟩
  unused suspension later := sound.unused suspension (Nat.le_of_succ_le later)
  waits _ := ⟨frame.suspensions, rfl, sound.unused _ (Nat.le_refl _)⟩
  continued := sound.continued
  detached gone := ⟨(sound.detached gone).1, by simp⟩

theorem finish (sound : frame.Sound) (result : Except Failure Value) :
    Sound { frame with result := some result } :=
  ⟨sound.handle, sound.lazy, sound.started, sound.resumable, sound.unused, sound.waits,
    sound.continued, sound.detached⟩

theorem done (sound : frame.Sound) (running : frame.status = .running thread)
    (owed : frame.detached_ = false) : Sound { frame with status := .done } where
  handle := by simp [sound.handled running]
  lazy unstarted := by simp [sound.started_of running] at unstarted
  started _ := by simp
  resumable suspension known unused := by
    simp only [sound.used_of running suspension known] at unused
    cases unused
  unused := sound.unused
  waits at_ := by cases at_
  continued := sound.continued
  detached gone := by simp [owed] at gone

theorem started_at (sound : frame.Sound) (waits : frame.status = .suspended .task) :
    frame.startState_ = .started := by
  cases state : frame.startState_ with
  | started => rfl
  | lazy =>
      obtain at_ | at_ := sound.lazy state <;>
        · rw [waits] at at_
          cases at_

/-- The parent is resumed with what it has awaited. -/
theorem resume (sound : frame.Sound) (waits : frame.status = .suspended .task) :
    Sound { frame with status := .running thread } := by
  apply sound.run thread (by rw [waits]; simp)
  · exact sound.started_at waits
  · exact sound.used (by rw [waits]; simp) (by rw [waits]; simp)

theorem release (sound : frame.Sound) : Sound { frame with awaiter := none } :=
  ⟨sound.handle, sound.lazy, sound.started, sound.resumable, sound.unused, sound.waits,
    sound.continued, sound.detached⟩

end Frame.Sound

namespace Coroutines

variable {coroutines next : Coroutines Value Failure} {thread : Thread} {gate : Gate}
  {task : TaskId} {parent child frame : FrameId} {rest : List Activity} {record : Frame Value Failure}

theorem records_two (records : ∀ frame, (coroutines.frames frame).Sound) {first second : FrameId}
    {one two : Frame Value Failure} (frames : next.frames =
      Function.update (Function.update coroutines.frames first one) second two)
    (left : one.Sound) (right : two.Sound) (other : FrameId) : (next.frames other).Sound := by
  rw [frames]
  by_cases later : other = second
  · subst later
    rwa [Function.update_self]
  · rw [Function.update_of_ne later]
    by_cases earlier : other = first
    · subst earlier
      rwa [Function.update_self]
    · rw [Function.update_of_ne earlier]
      exact records other

/-- What `await_suspend` changes: the child is started, or goes on where it is. -/
structure Awaits (coroutines next : Coroutines Value Failure) (thread : Thread) (gate : Gate)
    (parent child : FrameId) (rest : List Activity) (record : Frame Value Failure) (now : Doing)
    (events : List (Event Value Failure)) : Prop where
  frames : next.frames = Function.update (Function.update coroutines.frames parent
    { coroutines.frames parent with status := .suspended .task, awaiter := some child }) child record
  shift : Shift coroutines next thread [.execution gate (.body parent)] [.execution gate now] rest
  controls : next.controls = coroutines.controls.linked parent child
  executions : next.executions = coroutines.executions
  undefined : next.undefined = coroutines.undefined
  trace : next.trace = coroutines.trace ++ events
  goes : (coroutines.frames child).startState_ = .started ∧ now = .over ∧ events = [] ∧
      record = { coroutines.frames child with continuation_ := some parent } ∨
    coroutines.status child = .suspended .initial ∧
      (coroutines.frames child).startState_ = .lazy ∧ now = .body child ∧
      events = [.started child] ∧
      record =
        { coroutines.frames child with
          continuation_ := some parent
          startState_ := .started
          status := .running thread }

theorem Sound.awaits (sound : coroutines.Sound (some child)) (mine : (coroutines.frames child).Sound)
    (apart : child ≠ parent)
    (top : coroutines.activities thread = .execution gate (.body parent) :: rest) :
    ∃ record now events, Awaits coroutines (coroutines.awaitSuspend thread gate parent child rest)
      thread gate parent child rest record now events := by
  have owes := sound.owned.loosened rfl
  have linking := @FrameControls.linkChild_eq coroutines.controls parent child
    sound.linked.shared.toFinite (sound.linked.alive child owes.1 owes.2.1)
  obtain ⟨adopted, same⟩ : ∃ adopted, adopted =
      ({ coroutines with controls := coroutines.controls.linked parent child }.change parent
        fun old => { old with status := .suspended .task, awaiter := some child }).change child
          fun old => { old with continuation_ := some parent } := ⟨_, rfl⟩
  have before : ({ coroutines with controls := coroutines.controls.linked parent child }.change
      parent fun old => { old with status := .suspended .task, awaiter := some child }).frames child =
      coroutines.frames child := Function.update_of_ne apart _ _
  have frames : adopted.frames = Function.update
      (Function.update coroutines.frames parent
        { coroutines.frames parent with status := .suspended .task, awaiter := some child }) child
          { coroutines.frames child with continuation_ := some parent } := by
    rw [same, change, before]
    rfl
  have here : adopted.frames child =
      { coroutines.frames child with continuation_ := some parent } := by
    rw [frames, Function.update_self]
  have others : adopted =
      { coroutines with
        controls := coroutines.controls.linked parent child
        frames := adopted.frames } := by
    rw [same]
    rfl
  have result : coroutines.awaitSuspend thread gate parent child rest =
      adopted.transfer thread gate child rest := by
    rw [same, Coroutines.awaitSuspend, linking]
  rw [result]
  cases state : (coroutines.frames child).startState_ with
  | started =>
      have waits : adopted.transfer thread gate child rest =
          adopted.put thread (.execution gate .over :: rest) := by
        rw [transfer, here, state]
      rw [waits]
      refine ⟨_, .over, [], frames, ?_, ?_, ?_, ?_, ?_, .inl ⟨state, rfl, rfl, rfl⟩⟩ <;>
        rw [others]
      · exact ⟨top, rfl, rfl, rfl, rfl, rfl⟩
      · rfl
      · rfl
      · rfl
      · rw [List.append_nil]
        rfl
  | lazy =>
      have at_ : coroutines.status child = .suspended .initial :=
        (mine.lazy state).resolve_right owes.2.1
      have marked : (adopted.markStarted child).status child = .suspended .initial := by
        change (Function.update adopted.frames child _ child).status = _
        rw [Function.update_self, here]
        exact at_
      have starts : adopted.transfer thread gate child rest =
          (adopted.markStarted child).enter thread gate child rest := by
        rw [transfer, here, state]
      rw [starts, enter_eq marked, if_neg (by simp)]
      refine ⟨_, .body child, [.started child], ?_, ?_, ?_, ?_, ?_, ?_,
        .inr ⟨at_, state, rfl, rfl, rfl⟩⟩
      · change Function.update (Function.update adopted.frames child _) child
          { Function.update adopted.frames child _ child with status := .running thread } = _
        rw [Function.update_idem, Function.update_self, here, frames, Function.update_idem]
      all_goals rw [others]
      · exact ⟨top, rfl, rfl, rfl, rfl, rfl⟩
      · rfl
      · rfl
      · rfl
      · rfl

theorem Awaits.adopts {now : Doing} {events : List (Event Value Failure)}
    (awaits : Awaits coroutines next thread gate parent child rest record now events)
    (unlinked : coroutines.Unlinked child)
    (quiet : coroutines.executions (coroutines.gate child) = 0)
    (free : coroutines.gateOpen thread (coroutines.gate child) = true)
    (pending : coroutines.status child ≠ .done) (apart : child ≠ parent) :
    Adopts coroutines next thread gate parent child rest now := by
  have statuses : next.status = _ := two_updates Frame.status awaits.frames
  have awaiters : next.awaiter = _ := two_updates Frame.awaiter awaits.frames
  have continuations : next.continuation = _ := two_updates Frame.continuation_ awaits.frames
  have detacheds : next.detached = _ := two_updates Frame.detached_ awaits.frames
  have mine : next.status child = record.status := by rw [statuses, Function.update_self]
  obtain ⟨awaiter, continuation, detached, goes⟩ : record.awaiter = coroutines.awaiter child ∧
      record.continuation_ = some parent ∧ record.detached_ = coroutines.detached child ∧
        (now = .over ∧ record.status = coroutines.status child ∨ now = .body child ∧
          coroutines.status child = .suspended .initial ∧ record.status = .running thread) := by
    obtain ⟨_, rfl, _, rfl⟩ | ⟨at_, _, rfl, _, rfl⟩ := awaits.goes
    · exact ⟨rfl, rfl, rfl, .inl ⟨rfl, rfl⟩⟩
    · exact ⟨rfl, rfl, rfl, .inr ⟨rfl, at_, rfl⟩⟩
  refine ⟨unlinked, quiet, free, pending, awaits.shift, awaits.controls, ?_, ?_, ?_, ?_, ?_, ?_, ?_,
    awaits.executions⟩
  · rw [statuses, Function.update_of_ne apart.symm, Function.update_self]
  · rw [mine]
    exact goes
  · intro other first second
    rw [statuses, Function.update_of_ne second, Function.update_of_ne first]
    rfl
  · rw [awaiters, awaiter]
    funext other
    by_cases second : other = child
    · subst second
      rw [Function.update_self, Function.update_of_ne apart]
    · rw [Function.update_of_ne second]
      rfl
  · rw [continuations, continuation]
    congr 1
    exact Function.update_eq_self parent coroutines.continuation
  · rw [detacheds, detached]
    funext other
    by_cases second : other = child
    · subst second
      rw [Function.update_self]
    · rw [Function.update_of_ne second]
      exact congrFun (Function.update_eq_self parent coroutines.detached) other
  · intro other first second
    rw [awaits.frames, Function.update_of_ne second, Function.update_of_ne first]

/-- A coroutine does not await itself. -/
theorem Sound.unequal {loose : Option FrameId} (sound : coroutines.Sound loose)
    (quiet : coroutines.executions (coroutines.gate child) = 0)
    (top : coroutines.activities thread = .execution gate (.body parent) :: rest) :
    coroutines.status parent = .running thread ∧ child ≠ parent := by
  have listed : .execution gate (.body parent) ∈ coroutines.activities thread := by
    rw [top]
    exact List.mem_cons_self
  have running := sound.threaded.running_of listed rfl
  refine ⟨running, ?_⟩
  rintro rfl
  exact (sound.threaded.busy running).2 quiet

/-- The frame of a `Task` is awaited. -/
theorem Valid.awaitSuspend (sound : coroutines.Sound (some child))
    (records : ∀ frame, (coroutines.frames frame).Sound) (defined : coroutines.undefined = false)
    (unlinked : coroutines.Unlinked child)
    (quiet : coroutines.executions (coroutines.gate child) = 0)
    (free : coroutines.gateOpen thread (coroutines.gate child) = true)
    (pending : coroutines.status child ≠ .done)
    (top : coroutines.activities thread = .execution gate (.body parent) :: rest) :
    (coroutines.awaitSuspend thread gate parent child rest).Valid := by
  obtain ⟨running, apart⟩ := sound.unequal quiet top
  obtain ⟨record, now, events, awaits⟩ := sound.awaits (records child) apart top
  have adopts := awaits.adopts unlinked quiet free pending apart
  have owes := sound.owned.loosened rfl
  have waits := (records parent).await running child
  apply Valid.of_sound (adopts.sound sound) _ (awaits.undefined.trans defined)
  apply records_two records awaits.frames waits
  obtain ⟨started, _, _, rfl⟩ | ⟨at_, _, _, _, rfl⟩ := awaits.goes
  · exact (records child).continue_ owes.2.2 started parent
  · exact ((records child).first thread at_).continue_ owes.2.2 rfl parent

/-- The mutexes stay when a thread stays under the same gates. -/
theorem Threaded.put_mutex_same (threaded : coroutines.Threaded) {base : List Activity}
    (same : ∀ gate, (∃ activity ∈ base, activity.locks = some gate) ↔
      ∃ activity ∈ coroutines.activities thread, activity.locks = some gate) :
    (coroutines.put thread base).mutex = coroutines.mutex := by
  funext gate
  have mine := (threaded.locked thread gate).trans (same gate).symm
  have found : base.any (·.locks == some gate) = true ↔
      ∃ activity ∈ base, activity.locks = some gate := by simp
  rw [put_mutex]
  split
  case isTrue here => exact (mine.mpr (found.mp here)).symm
  case isFalse none =>
    split
    case isTrue held => exact absurd (found.mpr (mine.mp held)) none
    case isFalse => rfl

/-- An activity is replaced by one under the same gate. -/
theorem Threaded.put_mutex_top (threaded : coroutines.Threaded) {old new : Activity}
    (top : coroutines.activities thread = old :: rest) (same : new.locks = old.locks) :
    (coroutines.put thread (new :: rest)).mutex = coroutines.mutex := by
  apply threaded.put_mutex_same
  intro gate
  rw [top]
  simp [same]

theorem Valid.awaitResume (valid : coroutines.Valid) (sound : coroutines.Sound none)
    (records : ∀ frame, (coroutines.frames frame).Sound)
    (top : coroutines.activities thread = .execution gate (.returning parent) :: rest)
    (taken : coroutines.awaitResume thread gate parent rest = some next) : next.Valid := by
  have listed : .execution gate (.returning parent) ∈ coroutines.activities thread := by
    rw [top]
    exact List.mem_cons_self
  obtain ⟨child, awaits⟩ := Option.ne_none_iff_exists'.mp
    (sound.waiting.returning thread gate parent listed)
  have has : (coroutines.frames parent).awaiter = some child := awaits
  obtain ⟨left, same⟩ : ∃ left, left =
      (coroutines.change parent fun old => { old with awaiter := none }).emit
        (.received parent child (coroutines.frames child).result) := ⟨_, rfl⟩
  have frames : left.frames = Function.update coroutines.frames parent
      { coroutines.frames parent with awaiter := none } := by
    rw [same]
    rfl
  have releases : Releases coroutines (left.put thread (.execution gate (.body parent) :: rest))
      thread parent child [.execution gate (.returning parent)] [.execution gate (.body parent)]
        rest := by
    refine ⟨awaits, ?_, frames, ?_, .inr ⟨gate, rfl, rfl⟩⟩
    · rw [same]
      exact ⟨⟨top, rfl, rfl, rfl, rfl, rfl⟩, rfl⟩
    · rw [same]
      rfl
  simp only [Coroutines.awaitResume, has] at taken
  rw [← same] at taken
  apply Valid.destroyFrame (records_update records frames (records parent).release)
    (releases.sound sound) _ _ releases.clear taken
  · rw [same]
    exact valid.defined
  · rw [same]
    exact @Threaded.put_mutex_top _ _ coroutines thread rest sound.threaded _
      (.execution gate (.body parent)) top rfl

theorem Valid.finalSuspend (valid : coroutines.Valid) (sound : coroutines.Sound none)
    (records : ∀ frame, (coroutines.frames frame).Sound)
    (top : coroutines.activities thread = .execution gate (.finishing frame) :: rest) :
    (coroutines.finalSuspend thread gate frame rest).Valid := by
  obtain ⟨running, under, held, busy⟩ := sound.finishing top
  have known := sound.known running
  have mine := records frame
  have ended : (coroutines.setStatus frame .done).frames = Function.update coroutines.frames frame
      { coroutines.frames frame with status := .done } := rfl
  simp only [Coroutines.finalSuspend]
  cases continuation : (coroutines.frames frame).continuation_ with
  | some parent =>
      obtain ⟨awaits, waits, together⟩ := sound.expects top continuation
      have apart : parent ≠ frame := by
        rintro rfl
        rw [running] at waits
        cases waits
      have at_ : ((coroutines.setStatus frame .done).emit (.continued parent frame)).status parent =
          .suspended .task := by
        change (Function.update coroutines.frames frame _ parent).status = _
        rw [Function.update_of_ne apart]
        exact waits
      have owed : (coroutines.frames frame).detached_ = false := by
        have holds : coroutines.holding (.awaiter parent) = some frame := awaits
        exact (sound.owned.owes holds).2.2
      simp only
      rw [enter_eq at_, if_pos rfl]
      have frames : ((((coroutines.setStatus frame .done).emit (.continued parent frame)).setStatus
          parent (.running thread)).put thread (.execution gate (.returning parent) :: rest)).frames =
          Function.update (Function.update coroutines.frames frame
            { coroutines.frames frame with status := .done }) parent
              { coroutines.frames parent with status := .running thread } := by
        change Function.update (Function.update coroutines.frames frame _) parent
          { Function.update coroutines.frames frame _ parent with status := .running thread } = _
        rw [Function.update_of_ne apart]
      have continues : Continues coroutines ((((coroutines.setStatus frame .done).emit
          (.continued parent frame)).setStatus parent (.running thread)).put thread
            (.execution gate (.returning parent) :: rest)) thread gate parent frame rest := by
        refine ⟨continuation, ⟨⟨top, rfl, rfl, rfl, rfl, rfl⟩, rfl⟩,
          two_updates Frame.status frames, ?_, ?_, ?_, ?_, rfl⟩
        · exact two_same Frame.awaiter frames rfl rfl
        · exact two_same Frame.continuation_ frames rfl rfl
        · exact two_same Frame.detached_ frames rfl rfl
        · intro other first second
          rw [frames, Function.update_of_ne second, Function.update_of_ne first]
      apply Valid.of_sound (continues.sound sound) _ valid.defined
      exact records_two records frames (mine.done running owed) ((records parent).resume waits)
  | none =>
      have goesOn : GoesOn coroutines ((coroutines.setStatus frame .done).put thread
          (.execution gate .over :: rest)) thread gate frame (.finishing frame) .over rest
            { coroutines.frames frame with status := .done } :=
        ⟨.inr rfl, .inr ⟨rfl, .inr ⟨rfl, continuation⟩⟩, fun _ => by simp, rfl, rfl, rfl,
          ⟨⟨top, rfl, rfl, rfl, rfl, rfl⟩, rfl⟩, rfl, rfl⟩
      have after := goesOn.sound sound
      simp only
      cases detached : (coroutines.frames frame).detached_ with
      | false =>
          rw [if_neg (by simp)]
          exact .of_sound after (records_update records ended (mine.done running detached))
            valid.defined
      | true =>
          -- nobody has the frame, so it destroys itself
          have done : (coroutines.setStatus frame .done).status frame = .done := by
            rw [status_update ended, Function.update_self]
          have here : ((coroutines.setStatus frame .done).put thread
              (.execution gate .over :: rest)).activities thread = .execution gate .over :: rest :=
            Function.update_self ..
          have kept := @Threaded.put_mutex_top _ _ coroutines thread rest sound.threaded _
            (.execution gate .over) top rfl
          have unheld : ∀ holder, coroutines.holding holder ≠ some frame := by
            intro holder has
            have owes := (sound.owned.owes has).2.2
            rw [show coroutines.detached frame = true from detached] at owes
            cases owes
          have destroys : Destroys ((coroutines.setStatus frame .done).put thread
              (.execution gate .over :: rest)) ((coroutines.setStatus frame .done).destroy thread gate
                frame (.execution gate .over :: rest)) thread none frame := by
            subst under
            apply @Destroys.of_put _ _ (coroutines.setStatus frame .done) thread frame
              (.execution (coroutines.gate frame) .over :: rest) none kept known
            · intro other none
              cases none
            · rw [holding_of ended rfl rfl]
              exact unheld
            · exact clear_of_execution here
            · exact (gateOpen_iff coroutines thread _).mpr (.inr held)
            · exact .inr done
            · exact .inr done
          rw [if_pos rfl]
          refine ⟨?_, fun _ => destroys.sound after, fun _ => ?_⟩
          · rw [destroy_eq (.inr done)]
            exact valid.defined
          · apply @records_update _ _ coroutines _ frame _ records _ mine.destroy
            rw [destroys.frames]
            change Function.update (Function.update coroutines.frames frame _) frame
              { Function.update coroutines.frames frame _ frame with
                status := .destroyed
                handle := false } = _
            rw [Function.update_idem, Function.update_self]

end Coroutines

end MiniTrantor.Coroutine.Tasks
