import MiniTrantor.Net.Worker.Moves
import MiniTrantor.Trace

/-!
# Publication of a loop

Where the worker is fixes the state, the pointer that is published and whether its loop is
alive. Until the worker has announced its loop the call that has started it waits with
`controlMutex_` held, so nobody else requests a stop meanwhile but the initializer.
-/

set_option autoImplicit false

namespace MiniTrantor.Net.Worker

variable {owner next changed : EventLoopThread} {thread : Thread} {worker other : Nat}
  {old new : Option Call} {was : Phase} {phase : Option Phase}

namespace Call

/-- `controlMutex_` is held. -/
def controls : Call → Bool
  | .requestJoin _ | .joinStopped _ => true
  | call => call.launches

/-- The last worker has been joined. -/
def cleared : Call → Bool
  | .reset | .spawn | .spawnFailed => true
  | _ => false

/-- The calls on the managed thread. -/
def inside : Call → Bool
  | .reenter | .requestStop => true
  | _ => false

def managed : Call → Bool
  | .startLoop | .reenter | .stop _ | .requestStop => true
  | _ => false

/-- A stop is requested next. -/
def requests : Call → Bool
  | .release | .requestJoin _ | .requestStop => true
  | _ => false

end Call

/-- The call that has started the worker waits for it. -/
def Launched (owner : EventLoopThread) : Prop :=
  ∃ thread, owner.controlMutex_ = some thread ∧ owner.calls thread = some .await

/-- The loop of the worker is alive, and `loop_` is its address. -/
def Owned (owner : EventLoopThread) (worker : Nat) : Prop :=
  owner.loop_ = some worker ∧ owner.workerId_ = some (.worker worker) ∧ owner.alive worker = true

def Ending (owner : EventLoopThread) : Prop :=
  owner.state_ = .starting ∨ owner.state_ = .stopping

/-- What holds while a worker is where it is. -/
def Phase.Sound (owner : EventLoopThread) (worker : Nat) : Phase → Prop
  | .constructing =>
      owner.loop_ = none ∧ owner.workerId_ = none ∧ owner.state_ = .starting ∧ Launched owner
  | .publishing => owner.loop_ = none ∧ owner.workerId_ = none ∧ owner.alive worker = true ∧
      owner.state_ = .starting ∧ Launched owner
  | .initializing | .checking => Owned owner worker ∧
      (owner.state_ = .starting ∨ owner.state_ = .stopping ∧ owner.quit_ worker = true) ∧
      Launched owner
  | .announcing => Owned owner worker ∧ owner.state_ = .starting ∧ Launched owner
  | .looping | .exiting => Owned owner worker ∧ (owner.state_ = .running ∨ owner.state_ = .stopping)
  | .retained => Owned owner worker ∧ (owner.state_ = .exited ∨ owner.state_ = .stopping)
  | .unpublishing _ => Owned owner worker ∧ Ending owner
  | .destroying _ | .destructing _ => owner.loop_ = none ∧
      owner.workerId_ = some (.worker worker) ∧ Ending owner
  | .finishing _ => owner.loop_ = none ∧
      (owner.workerId_ = none ∨ owner.workerId_ = some (.worker worker)) ∧ Ending owner

/-- No call of the worker is under way, nor can it begin. -/
def Phase.quiet : Phase → Bool
  | .constructing | .publishing | .checking | .announcing => true
  | _ => false

theorem quiet_user {phase : Phase} (quiet : phase.quiet = true) : phase.user = false := by
  cases phase <;> first | rfl | cases quiet

/-- The state without a worker. -/
structure Idle (owner : EventLoopThread) : Prop where
  loop : owner.loop_ = none
  workerId : owner.workerId_ = none
  running : owner.state_ ≠ .running
  exited : owner.state_ ≠ .exited

structure Sound (owner : EventLoopThread) : Prop where
  controls : ∀ thread call, owner.calls thread = some call → call.controls = true →
    owner.controlMutex_ = some thread
  single : ∀ worker phase, owner.workers worker = some phase → owner.thread_ = some worker
  numbered : ∀ worker, owner.thread_ = some worker → worker < owner.spawned
  phases : ∀ worker phase, owner.workers worker = some phase → phase.Sound owner worker
  idle : (∀ worker, owner.workers worker = none) → Idle owner
  cleared : ∀ thread call, owner.calls thread = some call → call.cleared = true →
    owner.thread_ = none
  resets : ∀ thread, owner.calls thread = some .spawn → owner.state_ = .starting
  managed : ∀ worker call, owner.calls (.worker worker) = some call →
    call.managed = true ∧ ∃ phase, owner.workers worker = some phase ∧ phase.user = true
  outside : ∀ id call, owner.calls (.outside id) = some call → call.inside = false

section put

variable (owner) (thread) (call : Option Call) (event : Event)

@[simp] theorem put_loop : (owner.put thread call).loop_ = owner.loop_ := rfl
@[simp] theorem put_thread : (owner.put thread call).thread_ = owner.thread_ := rfl
@[simp] theorem put_control : (owner.put thread call).controlMutex_ = owner.controlMutex_ := rfl
@[simp] theorem put_state : (owner.put thread call).state_ = owner.state_ := rfl
@[simp] theorem put_workerId : (owner.put thread call).workerId_ = owner.workerId_ := rfl
@[simp] theorem put_spawned : (owner.put thread call).spawned = owner.spawned := rfl
@[simp] theorem put_workers : (owner.put thread call).workers = owner.workers := rfl
@[simp] theorem put_calls :
    (owner.put thread call).calls = Function.update owner.calls thread call := rfl
@[simp] theorem put_alive : (owner.put thread call).alive = owner.alive := rfl
@[simp] theorem put_quit : (owner.put thread call).quit_ = owner.quit_ := rfl
@[simp] theorem put_trace : (owner.put thread call).trace = owner.trace := rfl

end put

section enter

variable (owner) (worker) (phase)

@[simp] theorem enter_loop : (owner.enter worker phase).loop_ = owner.loop_ := rfl
@[simp] theorem enter_thread : (owner.enter worker phase).thread_ = owner.thread_ := rfl
@[simp] theorem enter_control : (owner.enter worker phase).controlMutex_ = owner.controlMutex_ := rfl
@[simp] theorem enter_state : (owner.enter worker phase).state_ = owner.state_ := rfl
@[simp] theorem enter_workerId : (owner.enter worker phase).workerId_ = owner.workerId_ := rfl
@[simp] theorem enter_spawned : (owner.enter worker phase).spawned = owner.spawned := rfl
@[simp] theorem enter_workers :
    (owner.enter worker phase).workers = Function.update owner.workers worker phase := rfl
@[simp] theorem enter_calls : (owner.enter worker phase).calls = owner.calls := rfl
@[simp] theorem enter_alive : (owner.enter worker phase).alive = owner.alive := rfl
@[simp] theorem enter_quit : (owner.enter worker phase).quit_ = owner.quit_ := rfl
@[simp] theorem enter_trace : (owner.enter worker phase).trace = owner.trace := rfl

end enter

theorem Joins.same (joins : Joins owner changed) :
    changed.loop_ = owner.loop_ ∧ changed.controlMutex_ = owner.controlMutex_ ∧
      changed.state_ = owner.state_ ∧ changed.workerId_ = owner.workerId_ ∧
      changed.spawned = owner.spawned ∧ changed.workers = owner.workers ∧
      changed.calls = owner.calls ∧ changed.alive = owner.alive ∧ changed.quit_ = owner.quit_ := by
  cases joins <;> exact ⟨rfl, rfl, rfl, rfl, rfl, rfl, rfl, rfl, rfl⟩

/-- What no call changes. -/
theorem Calls.same (calls : Calls owner thread old new changed) :
    changed.loop_ = owner.loop_ ∧ changed.workerId_ = owner.workerId_ ∧
      changed.calls = owner.calls ∧ changed.alive = owner.alive := by
  cases calls with
  | join joins | joinFailed joins | joinStopped joins =>
      obtain ⟨loop, _, _, workerId, _, _, calls, alive, _⟩ := joins.same
      exact ⟨loop, workerId, calls, alive⟩
  | _ => exact ⟨rfl, rfl, rfl, rfl⟩

/-- A call leaves the state alone, requests a stop, or finds no worker there. -/
theorem Calls.state (calls : Calls owner thread old new changed) :
    (changed.state_ = owner.state_ ∧ changed.quit_ = owner.quit_) ∨
      (∃ call, old = some call ∧ call.requests = true ∧
        changed.state_ = owner.requestStopLocked.state_ ∧
        changed.quit_ = owner.requestStopLocked.quit_) ∨
      (∃ call, old = some call ∧ call.cleared = true ∧
        (changed.state_ = .starting ∨ changed.state_ = .failed)) := by
  cases calls with
  | join joins | joinFailed joins | joinStopped joins =>
      obtain ⟨_, _, state, _, _, _, _, _, quit⟩ := joins.same
      exact .inl ⟨state, quit⟩
  | request known =>
      rcases known with ⟨rfl, _⟩ | ⟨destroys, rfl, _⟩ <;>
        exact .inr (.inl ⟨_, rfl, rfl, rfl, rfl⟩)
  | selfStop => exact .inr (.inl ⟨_, rfl, rfl, rfl, rfl⟩)
  | reset => exact .inr (.inr ⟨_, rfl, rfl, .inl rfl⟩)
  | spawnFailed => exact .inr (.inr ⟨_, rfl, rfl, .inr rfl⟩)
  | _ => exact .inl ⟨rfl, rfl⟩

/-- `controlMutex_` is taken when it is free, and released by the call that has it. -/
theorem Calls.control (calls : Calls owner thread old new changed) :
    (changed.controlMutex_ = owner.controlMutex_ ∧ ∀ call, new = some call →
        call.controls = true → ∃ before, old = some before ∧ before.controls = true) ∨
      (owner.controlMutex_ = none ∧ changed.controlMutex_ = some thread) ∨
      (changed.controlMutex_ = none ∧ new = none ∧
        ∃ call, old = some call ∧ call.controls = true ∧ call ≠ .await) := by
  cases calls with
  | begin _ known =>
      refine .inl ⟨rfl, fun call same controls => ?_⟩
      cases same
      rcases known with rfl | ⟨destroys, rfl⟩ <;> cases controls
  | manage _ known =>
      refine .inl ⟨rfl, fun call same controls => ?_⟩
      cases same
      rcases known with ⟨rfl, rfl⟩ | ⟨rfl, rfl⟩ <;> cases controls
  | outside _ known =>
      refine .inl ⟨rfl, fun call same controls => ?_⟩
      cases same
      rcases known with ⟨rfl, rfl⟩ | ⟨destroys, rfl, rfl⟩ <;> cases controls
  | reenterRunning | reentered | selfStop =>
      refine .inl ⟨rfl, fun call same => ?_⟩
      cases same
  | lock free => exact .inr (.inl ⟨free, rfl⟩)
  | publish known =>
      refine .inl ⟨rfl, fun call _ _ => ⟨_, rfl, ?_⟩⟩
      rcases known with ⟨rfl, _⟩ | ⟨rfl, _⟩ <;> rfl
  | request known =>
      refine .inl ⟨rfl, fun call _ _ => ⟨_, rfl, ?_⟩⟩
      rcases known with ⟨rfl, _⟩ | ⟨destroys, rfl, _⟩ <;> rfl
  | join joins => exact .inl ⟨joins.same.2.1, fun _ _ _ => ⟨_, rfl, rfl⟩⟩
  | stale | reset | spawn | spawnFails | startFailed => exact .inl ⟨rfl, fun _ _ _ => ⟨_, rfl, rfl⟩⟩
  | spawnFailed | joinFailed | leave | joinStopped =>
      exact .inr (.inr ⟨rfl, rfl, _, rfl, rfl, by simp⟩)

/-- A worker is started, or the last one has ended and is joined. -/
theorem Calls.spawns (calls : Calls owner thread old new changed) :
    (changed.workers = owner.workers ∧ changed.spawned = owner.spawned ∧
      (changed.thread_ = owner.thread_ ∨ changed.thread_ = none ∧
        ∀ worker, owner.thread_ = some worker → owner.workers worker = none)) ∨
      (old = some .spawn ∧ new = some .await ∧
        changed.workers = Function.update owner.workers owner.spawned (some .constructing) ∧
        changed.spawned = owner.spawned + 1 ∧ changed.thread_ = some owner.spawned ∧
        changed.state_ = owner.state_ ∧ changed.controlMutex_ = owner.controlMutex_) := by
  have joined : ∀ {changed : EventLoopThread}, Joins owner changed →
      changed.workers = owner.workers ∧ changed.spawned = owner.spawned ∧
        (changed.thread_ = owner.thread_ ∨ changed.thread_ = none ∧
          ∀ worker, owner.thread_ = some worker → owner.workers worker = none) := by
    intro changed joins
    cases joins with
    | none => exact ⟨rfl, rfl, .inl rfl⟩
    | ended at_ ended =>
        refine ⟨rfl, rfl, .inr ⟨rfl, fun worker same => ?_⟩⟩
        cases at_.symm.trans same
        exact ended
  cases calls with
  | join joins | joinFailed joins | joinStopped joins =>
      have same := joined joins
      exact .inl same
  | spawn => exact .inr ⟨rfl, rfl, rfl, rfl, rfl, rfl, rfl⟩
  | _ => exact .inl ⟨rfl, rfl, .inl rfl⟩

namespace Sound

theorem only (sound : Sound owner) {first second : Phase} (one : owner.workers worker = some first)
    (two : owner.workers other = some second) : worker = other :=
  Option.some.inj ((sound.single _ _ one).symm.trans (sound.single _ _ two))

/-- The managed thread is that of a worker. -/
theorem manager (sound : Sound owner) : owner.workerId_ = none ∨
    ∃ worker, owner.workerId_ = some (.worker worker) := by
  by_cases none : ∀ worker, owner.workers worker = none
  · exact .inl (sound.idle none).workerId
  · obtain ⟨worker, present⟩ := not_forall.mp none
    obtain ⟨phase, at_⟩ := Option.ne_none_iff_exists'.mp present
    have known := sound.phases worker phase at_
    cases phase with
    | constructing => exact .inl known.2.1
    | publishing => exact .inl known.2.1
    | finishing failure => exact known.2.1.imp id fun same => ⟨worker, same⟩
    | destroying failure => exact .inr ⟨worker, known.2.1⟩
    | destructing failure => exact .inr ⟨worker, known.2.1⟩
    | _ => exact .inr ⟨worker, known.1.2.1⟩

/-- User code of a worker runs on the managed thread. -/
theorem user (sound : Sound owner) {phase : Phase} (at_ : owner.workers worker = some phase)
    (user : phase.user = true) : owner.isManagedThread (.worker worker) = true := by
  have known := sound.phases worker phase at_
  have same : owner.workerId_ = some (.worker worker) := by
    cases phase with
    | initializing | looping => exact known.1.2.1
    | destructing failure => exact known.2.1
    | _ => cases user
  simp [EventLoopThread.isManagedThread, same]

/-- Nobody requests a stop while the starting call waits, but the initializer. -/
theorem unrequested (sound : Sound owner) {phase : Phase} (at_ : owner.workers worker = some phase)
    (quiet : phase.quiet = true) {call : Call} (calls : owner.calls thread = some call) :
    call.requests = false := by
  have launched : Launched owner := by
    have known := sound.phases worker phase at_
    cases phase with
    | constructing => exact known.2.2.2
    | publishing => exact known.2.2.2.2
    | checking | announcing => exact known.2.2
    | _ => cases quiet
  obtain ⟨waiting, held, waits⟩ := launched
  have locked : call.controls = true → call = .await := by
    intro controls
    cases held.symm.trans (sound.controls thread call calls controls)
    exact Option.some.inj (calls.symm.trans waits)
  cases call with
  | release => cases locked rfl
  | requestJoin destroys => cases locked rfl
  | requestStop =>
      cases thread with
      | outside id => cases sound.outside id _ calls
      | worker known =>
          obtain ⟨_, other, here, user⟩ := sound.managed known _ calls
          obtain rfl := sound.only at_ here
          cases at_.symm.trans here
          cases (quiet_user quiet).symm.trans user
  | _ => rfl

/-- A worker that is not ready has its starting call waiting, until it is. -/
theorem launched_calls (sound : Sound owner) (calls : Calls owner thread old new changed)
    (at_ : owner.calls thread = old) (launched : Launched owner) (ending : Ending owner) :
    Launched (changed.put thread new) := by
  obtain ⟨waiting, held, waits⟩ := launched
  have apart : waiting ≠ thread ∨ new = some .await := by
    by_cases here : waiting = thread
    · rw [here, at_] at waits
      rw [waits] at calls
      cases calls with
      | manage _ known => simp at known
      | outside _ known => simp at known
      | lock _ known => simp at known
      | publish known =>
          rcases known with ⟨same, _⟩ | ⟨_, running | exited⟩
          · cases same
          · rcases ending with other | other <;> cases running.symm.trans other
          · rcases ending with other | other <;> cases exited.symm.trans other
      | request known => simp at known
      | startFailed known =>
          rcases known with stopped | failed
          · rcases ending with other | other <;> cases stopped.symm.trans other
          · rcases ending with other | other <;> cases failed.symm.trans other
    · exact .inl here
  refine ⟨waiting, ?_, ?_⟩
  · rcases calls.control with ⟨same, _⟩ | ⟨free, _⟩ | ⟨_, _, call, same, controls, other⟩
    · exact same.trans held
    · cases held.symm.trans free
    · rw [same] at at_
      cases held.symm.trans (sound.controls thread call at_ controls)
      exact absurd (Option.some.inj (at_.symm.trans waits)) other
  · rw [put_calls]
    rcases apart with here | awaits
    · rw [Function.update_of_ne here, calls.same.2.2.1]
      exact waits
    · by_cases here : waiting = thread
      · rw [here, Function.update_self, awaits]
      · rw [Function.update_of_ne here, calls.same.2.2.1]
        exact waits

end Sound

namespace Phase.Sound

variable {phase : Phase}

/-- What a worker does not depend on. -/
theorem kept (sound : phase.Sound owner worker) (loop : next.loop_ = owner.loop_)
    (workerId : next.workerId_ = owner.workerId_) (alive : next.alive = owner.alive)
    (state : next.state_ = owner.state_) (quit : owner.quit_ worker = true → next.quit_ worker = true)
    (launched : Launched owner → Ending owner → Launched next) : phase.Sound next worker := by
  have owned : Owned owner worker → Owned next worker := by
    rintro ⟨own, manages, lives⟩
    exact ⟨loop.trans own, workerId.trans manages, alive ▸ lives⟩
  have ending : Ending owner → Ending next := by
    rintro (starting | stopping)
    · exact .inl (state.trans starting)
    · exact .inr (state.trans stopping)
  cases phase with
  | constructing =>
      obtain ⟨unset, none, starting, starts⟩ := sound
      exact ⟨loop.trans unset, workerId.trans none, state.trans starting,
        launched starts (.inl starting)⟩
  | publishing =>
      obtain ⟨unset, none, lives, starting, starts⟩ := sound
      exact ⟨loop.trans unset, workerId.trans none, alive ▸ lives, state.trans starting,
        launched starts (.inl starting)⟩
  | initializing | checking =>
      obtain ⟨own, starting | ⟨stopping, quits⟩, starts⟩ := sound
      · exact ⟨owned own, .inl (state.trans starting), launched starts (.inl starting)⟩
      · exact ⟨owned own, .inr ⟨state.trans stopping, quit quits⟩, launched starts (.inr stopping)⟩
  | announcing =>
      obtain ⟨own, starting, starts⟩ := sound
      exact ⟨owned own, state.trans starting, launched starts (.inl starting)⟩
  | looping | exiting | retained =>
      obtain ⟨own, either⟩ := sound
      exact ⟨owned own, either.imp state.trans state.trans⟩
  | unpublishing failure => exact ⟨owned sound.1, ending sound.2⟩
  | destroying failure | destructing failure =>
      exact ⟨loop.trans sound.1, workerId.trans sound.2.1, ending sound.2.2⟩
  | finishing failure =>
      exact ⟨loop.trans sound.1, sound.2.1.imp workerId.trans workerId.trans, ending sound.2.2⟩

/-- A stop that is requested of a worker that may be told to stop. -/
theorem requested (sound : phase.Sound owner worker) (loud : phase.quiet = false)
    (loop : next.loop_ = owner.loop_) (workerId : next.workerId_ = owner.workerId_)
    (alive : next.alive = owner.alive) (state : next.state_ = owner.requestStopLocked.state_)
    (quit : next.quit_ = owner.requestStopLocked.quit_)
    (launched : Launched owner → Ending owner → Launched next) : phase.Sound next worker := by
  have owned : Owned owner worker → Owned next worker := by
    rintro ⟨own, manages, lives⟩
    exact ⟨loop.trans own, workerId.trans manages, alive ▸ lives⟩
  have stops : owner.state_ = .starting ∨ owner.state_ = .running ∨ owner.state_ = .exited ∨
      owner.state_ = .stopping → next.state_ = .stopping := by
    rintro (same | same | same | same) <;> simp [state, EventLoopThread.requestStopLocked, same]
  cases phase with
  | constructing | publishing | checking | announcing => cases loud
  | initializing =>
      obtain ⟨own, either, starts⟩ := sound
      have quits : next.quit_ worker = true := by
        simp [quit, EventLoopThread.requestStopLocked, own.1]
      rcases either with starting | ⟨stopping, _⟩
      · exact ⟨owned own, .inr ⟨stops (.inl starting), quits⟩, launched starts (.inl starting)⟩
      · exact ⟨owned own, .inr ⟨stops (.inr (.inr (.inr stopping))), quits⟩,
          launched starts (.inr stopping)⟩
  | looping | exiting =>
      obtain ⟨own, running | stopping⟩ := sound
      · exact ⟨owned own, .inr (stops (.inr (.inl running)))⟩
      · exact ⟨owned own, .inr (stops (.inr (.inr (.inr stopping))))⟩
  | retained =>
      obtain ⟨own, exited | stopping⟩ := sound
      · exact ⟨owned own, .inr (stops (.inr (.inr (.inl exited))))⟩
      · exact ⟨owned own, .inr (stops (.inr (.inr (.inr stopping))))⟩
  | unpublishing failure =>
      obtain ⟨own, starting | stopping⟩ := sound
      · exact ⟨owned own, .inr (stops (.inl starting))⟩
      · exact ⟨owned own, .inr (stops (.inr (.inr (.inr stopping))))⟩
  | destroying failure | destructing failure =>
      obtain ⟨unset, manages, starting | stopping⟩ := sound
      · exact ⟨loop.trans unset, workerId.trans manages, .inr (stops (.inl starting))⟩
      · exact ⟨loop.trans unset, workerId.trans manages, .inr (stops (.inr (.inr (.inr stopping))))⟩
  | finishing failure =>
      obtain ⟨unset, manages, starting | stopping⟩ := sound
      · exact ⟨loop.trans unset, manages.imp workerId.trans workerId.trans,
          .inr (stops (.inl starting))⟩
      · exact ⟨loop.trans unset, manages.imp workerId.trans workerId.trans,
          .inr (stops (.inr (.inr (.inr stopping))))⟩

end Phase.Sound

theorem cleared_controls {call : Call} (cleared : call.cleared = true) : call.controls = true := by
  cases call <;> first | rfl | cases cleared

theorem Calls.cleared (calls : Calls owner thread old new changed) {call : Call}
    (goesOn : new = some call) (cleared : call.cleared = true) : changed.thread_ = none ∨
      changed.thread_ = owner.thread_ ∧ ∃ before, old = some before ∧ before.cleared = true := by
  cases calls with
  | begin _ known =>
      cases goesOn
      rcases known with rfl | ⟨destroys, rfl⟩ <;> cases cleared
  | manage _ known =>
      cases goesOn
      rcases known with ⟨_, rfl⟩ | ⟨_, rfl⟩ <;> cases cleared
  | outside _ known | lock _ known | request known =>
      cases goesOn
      rcases known with ⟨_, rfl⟩ | ⟨destroys, _, rfl⟩ <;> cases cleared
  | join joins =>
      cases joins with
      | none gone => exact .inl gone
      | ended => exact .inl rfl
  | reset | spawnFails => exact .inr ⟨rfl, _, rfl, rfl⟩
  | publish | stale | spawn | startFailed =>
      cases goesOn
      cases cleared
  | reenterRunning | reentered | spawnFailed | joinFailed | leave | selfStop | joinStopped =>
      cases goesOn

theorem Calls.resets (calls : Calls owner thread old new changed) (goesOn : new = some .spawn) :
    changed.state_ = .starting := by
  cases calls with
  | begin _ known =>
      cases goesOn
      simp at known
  | manage _ known | outside _ known | lock _ known | request known =>
      cases goesOn
      simp at known
  | reset => rfl
  | reenterRunning | reentered | publish | stale | join | spawn | spawnFails | spawnFailed
  | startFailed | joinFailed | leave | selfStop | joinStopped => cases goesOn

theorem requested_idle : owner.requestStopLocked.state_ ≠ .running ∧
    owner.requestStopLocked.state_ ≠ .exited := by
  unfold EventLoopThread.requestStopLocked
  split <;> simp_all

namespace Sound

theorem cleared_none (sound : Sound owner) (cleared : owner.thread_ = none) (worker : Nat) :
    owner.workers worker = none := by
  by_contra present
  obtain ⟨phase, present⟩ := Option.ne_none_iff_exists'.mp present
  cases (sound.single worker phase present).symm.trans cleared

theorem phases_calls (sound : Sound owner) (calls : Calls owner thread old new changed)
    (at_ : owner.calls thread = old) {phase : Phase}
    (here : changed.workers worker = some phase) :
    phase.Sound (changed.put thread new) worker := by
  have launched := sound.launched_calls calls at_
  rcases calls.spawns with ⟨same, _⟩ | ⟨rfl, rfl, workers, _, _, state, control⟩
  · rw [same] at here
    have known := sound.phases worker phase here
    obtain ⟨loop, workerId, _, alive⟩ := calls.same
    rcases calls.state with
      ⟨state, quit⟩ | ⟨call, rfl, requests, state, quit⟩ | ⟨call, rfl, cleared, _⟩
    · exact known.kept loop workerId alive state (fun quits => quit ▸ quits) launched
    · refine known.requested ?_ loop workerId alive state quit launched
      by_contra quiet
      cases (sound.unrequested here (by simpa using quiet) at_).symm.trans requests
    · cases (sound.single worker phase here).symm.trans (sound.cleared thread call at_ cleared)
  · have cleared := sound.cleared thread .spawn at_ rfl
    have none := sound.cleared_none cleared
    have idle := sound.idle none
    obtain ⟨loop, workerId, _⟩ := calls.same
    have mine : worker = owner.spawned := by
      by_contra other
      rw [workers, Function.update_of_ne other, none] at here
      cases here
    rw [workers, mine, Function.update_self] at here
    cases here
    have starting := sound.resets thread at_
    refine ⟨loop.trans idle.loop, workerId.trans idle.workerId, state.trans starting, thread, ?_, ?_⟩
    · exact control.trans (sound.controls thread .spawn at_ rfl)
    · simp

/-- Without a worker a stop is requested by the call that holds `controlMutex_`. -/
theorem unrequested_cleared (sound : Sound owner) (cleared : owner.thread_ = none) {call : Call}
    (calls : owner.calls thread = some call) (requests : call.requests = true) :
    call.controls = true := by
  cases call with
  | release | requestJoin => rfl
  | requestStop =>
      cases thread with
      | outside id => cases sound.outside id _ calls
      | worker known =>
          obtain ⟨_, phase, here, _⟩ := sound.managed known _ calls
          cases cleared.symm.trans (sound.single known phase here)
  | _ => cases requests

theorem managed_calls (sound : Sound owner) (calls : Calls owner thread old new changed)
    (at_ : owner.calls thread = old) (mine : thread = .worker worker) {call : Call}
    (goesOn : new = some call) :
    call.managed = true ∧ ∃ phase, owner.workers worker = some phase ∧ phase.user = true := by
  have before : ∀ {call : Call}, old = some call →
      call.managed = true ∧ ∃ phase, owner.workers worker = some phase ∧ phase.user = true := by
    intro call same
    exact sound.managed worker call (mine ▸ at_.trans same)
  cases calls with
  | begin free known =>
      cases goesOn
      rw [mine] at free
      simp only [EventLoopThread.free, Bool.and_eq_true] at free
      obtain ⟨phase, here, user⟩ := (Option.any_eq_true _ _).mp free.2
      refine ⟨?_, phase, here, user⟩
      rcases known with rfl | ⟨destroys, rfl⟩ <;> rfl
  | manage _ known =>
      cases goesOn
      obtain ⟨_, phase⟩ := before rfl
      refine ⟨?_, phase⟩
      rcases known with ⟨_, rfl⟩ | ⟨_, rfl⟩ <;> rfl
  | outside outside known =>
      obtain ⟨_, phase, here, user⟩ := before rfl
      rw [mine, sound.user here user] at outside
      cases outside
  | lock _ known =>
      obtain ⟨managed, _⟩ := before rfl
      rcases known with ⟨rfl, _⟩ | ⟨destroys, rfl, _⟩ <;> cases managed
  | publish known =>
      obtain ⟨managed, _⟩ := before rfl
      rcases known with ⟨rfl, _⟩ | ⟨rfl, _⟩ <;> cases managed
  | request known =>
      obtain ⟨managed, _⟩ := before rfl
      rcases known with ⟨rfl, _⟩ | ⟨destroys, rfl, _⟩ <;> cases managed
  | stale | join | reset | spawn | spawnFails | startFailed => cases (before rfl).1
  | reenterRunning | reentered | spawnFailed | joinFailed | leave | selfStop | joinStopped =>
      cases goesOn

theorem outside_calls (sound : Sound owner) (calls : Calls owner thread old new changed)
    {id : Nat} (mine : thread = .outside id) {call : Call} (goesOn : new = some call) :
    call.inside = false := by
  cases calls with
  | begin _ known =>
      cases goesOn
      rcases known with rfl | ⟨destroys, rfl⟩ <;> rfl
  | manage managed =>
      rw [mine, EventLoopThread.isManagedThread] at managed
      rcases sound.manager with none | ⟨worker, manages⟩
      · simp [none] at managed
      · simp [manages] at managed
  | outside _ known =>
      cases goesOn
      rcases known with ⟨_, rfl⟩ | ⟨destroys, _, rfl⟩ <;> rfl
  | lock _ known =>
      cases goesOn
      rcases known with ⟨_, rfl⟩ | ⟨destroys, _, rfl⟩ <;> rfl
  | request known =>
      cases goesOn
      rcases known with ⟨_, rfl⟩ | ⟨destroys, _, rfl⟩ <;> rfl
  | publish | stale | join | reset | spawn | spawnFails | startFailed =>
      cases goesOn
      rfl
  | reenterRunning | reentered | spawnFailed | joinFailed | leave | selfStop | joinStopped =>
      cases goesOn

theorem calls (sound : Sound owner) (calls : Calls owner thread old new changed)
    (at_ : owner.calls thread = old) : Sound (changed.put thread new) := by
  have elsewhere : ∀ {other : Thread} {call : Call}, other ≠ thread →
      (changed.put thread new).calls other = some call → owner.calls other = some call := by
    intro other call apart same
    rwa [put_calls, Function.update_of_ne apart, calls.same.2.2.1] at same
  have here : ∀ {call : Call}, (changed.put thread new).calls thread = some call →
      new = some call := by
    intro call same
    rwa [put_calls, Function.update_self] at same
  -- two calls that hold the mutex are one
  have alone : ∀ {other : Thread} {call before : Call}, owner.calls other = some call →
      call.controls = true → old = some before → before.controls = true → other = thread := by
    intro other call before theirs controls same too
    have held := sound.controls other call theirs controls
    exact Option.some.inj (held.symm.trans (sound.controls thread before (at_.trans same) too))
  have none : old = some .spawn → ∀ worker, owner.workers worker = none :=
    fun same => sound.cleared_none (sound.cleared thread .spawn (at_.trans same) rfl)
  refine ⟨fun other call same controls => ?_, fun worker phase same => ?_, fun worker same => ?_,
    fun worker phase same => sound.phases_calls calls at_ same, fun empty => ?_,
    fun other call same cleared => ?_, fun other same => ?_, fun worker call same => ?_,
    fun id call same => ?_⟩
  · by_cases mine : other = thread
    · subst mine
      rcases calls.control with ⟨held, before⟩ | ⟨_, taken⟩ | ⟨_, over_, _⟩
      · obtain ⟨call, was, controlled⟩ := before call (here same) controls
        exact held.trans (sound.controls other call (at_.trans was) controlled)
      · exact taken
      · cases over_.symm.trans (here same)
    · have before := elsewhere mine same
      have held := sound.controls other call before controls
      rcases calls.control with ⟨kept, _⟩ | ⟨free, _⟩ | ⟨_, _, was, at_', controlled, _⟩
      · exact kept.trans held
      · cases free.symm.trans held
      · exact absurd (alone before controls at_' controlled) mine
  · rcases calls.spawns with ⟨workers, _, kept | ⟨_, ended⟩⟩ | ⟨rfl, _, workers, _, started, _⟩
    · exact kept.trans (sound.single worker phase (workers ▸ same))
    · have present := workers ▸ same
      cases (ended worker (sound.single worker phase present)).symm.trans present
    · rw [put_workers, workers] at same
      by_cases mine : worker = owner.spawned
      · rw [mine]
        exact started
      · rw [Function.update_of_ne mine, none rfl worker] at same
        cases same
  · rcases calls.spawns with ⟨_, spawned, kept | ⟨gone, _⟩⟩ | ⟨_, _, _, spawned, started, _⟩
    · exact spawned ▸ sound.numbered worker (kept.symm.trans same)
    · cases gone.symm.trans same
    · cases started.symm.trans same
      rw [put_spawned, spawned]
      exact Nat.lt_succ_self _
  · rcases calls.spawns with ⟨workers, _⟩ | ⟨_, _, workers, _⟩
    · have idle := sound.idle fun worker => by rw [← workers]; exact empty worker
      obtain ⟨loop, workerId, _⟩ := calls.same
      have state : changed.state_ ≠ .running ∧ changed.state_ ≠ .exited := by
        rcases calls.state with ⟨state, _⟩ | ⟨_, _, _, state, _⟩ | ⟨_, _, _, state | state⟩
        · rw [state]
          exact ⟨idle.running, idle.exited⟩
        · rw [state]
          exact requested_idle
        · simp [state]
        · simp [state]
      exact ⟨loop.trans idle.loop, workerId.trans idle.workerId, state.1, state.2⟩
    · have gone := empty owner.spawned
      rw [put_workers, workers, Function.update_self] at gone
      cases gone
  · by_cases mine : other = thread
    · subst mine
      rcases calls.cleared (here same) cleared with gone | ⟨kept, before, was, too⟩
      · exact gone
      · exact kept.trans (sound.cleared other before (at_.trans was) too)
    · have before := elsewhere mine same
      have gone := sound.cleared other call before cleared
      rcases calls.spawns with ⟨_, _, kept | ⟨gone, _⟩⟩ | ⟨rfl, _⟩
      · exact kept.trans gone
      · exact gone
      · exact absurd (alone before (cleared_controls cleared) rfl rfl) mine
  · by_cases mine : other = thread
    · subst mine
      exact calls.resets (here same)
    · have before := elsewhere mine same
      rcases calls.state with ⟨kept, _⟩ | ⟨call, was, requests, _⟩ | ⟨call, was, cleared, _⟩
      · exact kept.trans (sound.resets other before)
      · have gone := sound.cleared other .spawn before rfl
        have controls := sound.unrequested_cleared gone (at_.trans was) requests
        exact absurd (alone before rfl was controls) mine
      · exact absurd (alone before rfl was (cleared_controls cleared)) mine
  · have known : call.managed = true ∧
        ∃ phase, owner.workers worker = some phase ∧ phase.user = true := by
      by_cases mine : .worker worker = thread
      · subst mine
        exact sound.managed_calls calls at_ rfl (here same)
      · exact sound.managed worker call (elsewhere mine same)
    obtain ⟨managed, phase, present, user⟩ := known
    refine ⟨managed, phase, ?_, user⟩
    rcases calls.spawns with ⟨workers, _⟩ | ⟨rfl, _⟩
    · rw [put_workers, workers]
      exact present
    · cases (none rfl worker).symm.trans present
  · by_cases mine : .outside id = thread
    · exact sound.outside_calls calls mine.symm (here (mine ▸ same))
    · exact sound.outside id call (elsewhere mine same)

end Sound

/-- What no worker changes. -/
theorem Works.same (works : Works owner worker was phase changed) :
    changed.thread_ = owner.thread_ ∧ changed.controlMutex_ = owner.controlMutex_ ∧
      changed.spawned = owner.spawned ∧ changed.workers = owner.workers ∧
      changed.calls = owner.calls ∧ changed.quit_ = owner.quit_ := by
  cases works <;> exact ⟨rfl, rfl, rfl, rfl, rfl, rfl⟩

/-- User code is left when its call is over. -/
theorem Works.idle (works : Works owner worker was phase changed) (user : was.user = true) :
    owner.calls (.worker worker) = none := by
  cases works with
  | initialized idle | initializerThrows idle | loopReturns idle | destructed _ idle => exact idle
  | released _ known =>
      rcases known with rfl | rfl <;> cases user
  | _ => cases user

theorem Works.sound {then_ : Phase} (works : Works owner worker was (some then_) changed)
    (sound : was.Sound owner worker) : then_.Sound (changed.enter worker (some then_)) worker := by
  cases works with
  | construct =>
      obtain ⟨loop, workerId, starting, launched⟩ := sound
      exact ⟨loop, workerId, by simp, starting, launched⟩
  | constructionFails =>
      obtain ⟨loop, workerId, starting, _⟩ := sound
      exact ⟨loop, .inl workerId, .inl starting⟩
  | publish =>
      obtain ⟨_, _, alive, starting, launched⟩ := sound
      exact ⟨⟨rfl, rfl, alive⟩, .inl starting, launched⟩
  | initialized => exact sound
  | initializerThrows =>
      obtain ⟨own, either, _⟩ := sound
      exact ⟨own, either.imp id fun stopping => stopping.1⟩
  | quit =>
      obtain ⟨own, either, _⟩ := sound
      exact ⟨own, either.imp id fun stopping => stopping.1⟩
  | checked kept =>
      obtain ⟨own, starting | ⟨_, quits⟩, launched⟩ := sound
      · exact ⟨own, starting, launched⟩
      · cases kept.symm.trans quits
  | announce => exact ⟨sound.1, .inl rfl⟩
  | loopReturns => exact sound
  | exit => exact ⟨sound.1, .inl rfl⟩
  | released stopping known =>
      rcases known with rfl | rfl
      · exact ⟨sound.1, .inr stopping⟩
      · exact ⟨sound.1, .inr stopping⟩
  | unpublish => exact ⟨rfl, sound.1.2.1, sound.2⟩
  | destroy => exact sound
  | destructed => exact ⟨sound.1, .inr sound.2.1, sound.2.2⟩

namespace Sound

theorem works (sound : Sound owner) (works : Works owner worker was phase changed)
    (at_ : owner.workers worker = some was) : Sound (changed.enter worker phase) := by
  obtain ⟨thread_, control, spawned, workers, calls, _⟩ := works.same
  have present := sound.single worker was at_
  have elsewhere : ∀ {other : Nat} {there : Phase},
      (changed.enter worker phase).workers other = some there →
      other = worker ∧ phase = some there := by
    intro other there same
    rw [enter_workers, workers] at same
    by_cases mine : other = worker
    · rw [mine, Function.update_self] at same
      exact ⟨mine, same⟩
    · rw [Function.update_of_ne mine] at same
      exact absurd (sound.only same at_) mine
  refine ⟨fun thread call same controls => ?_, fun other there same => ?_, fun other same => ?_,
    fun other there same => ?_, fun empty => ?_, fun thread call same cleared => ?_,
    fun thread same => ?_, fun other call same => ?_, fun id call same => ?_⟩
  · exact control.trans (sound.controls thread call (calls ▸ same) controls)
  · obtain ⟨rfl, _⟩ := elsewhere same
    exact thread_.trans present
  · rw [enter_spawned, spawned]
    exact sound.numbered other (thread_.symm.trans same)
  · obtain ⟨rfl, goesOn⟩ := elsewhere same
    subst goesOn
    exact works.sound (sound.phases other was at_)
  · have over_ := empty worker
    rw [enter_workers, Function.update_self] at over_
    cases works with
    | finish failure =>
        refine ⟨rfl, rfl, ?_, ?_⟩ <;> cases failure <;> simp
    | _ => cases over_
  · exact thread_.trans (sound.cleared thread call (calls ▸ same) cleared)
  · cases present.symm.trans (sound.cleared thread .spawn (calls ▸ same) rfl)
  · obtain ⟨_, there, known, user⟩ := sound.managed other call (calls ▸ same)
    obtain rfl := sound.only known at_
    cases known.symm.trans at_
    have idle := works.idle user
    rw [← calls] at idle
    cases idle.symm.trans same
  · exact sound.outside id call (calls ▸ same)

/-- The pool requests a stop. -/
theorem requested (sound : Sound owner)
    (permitted : ∀ thread ∈ owner.controlMutex_, (owner.calls thread).any Call.launches = false) :
    Sound owner.requestStopLocked := by
  have unlaunched : ¬ Launched owner := by
    rintro ⟨thread, held, waits⟩
    have none := permitted thread held
    rw [waits] at none
    cases none
  refine ⟨sound.controls, sound.single, sound.numbered, fun worker phase at_ => ?_, fun empty => ?_,
    sound.cleared, fun thread same => ?_, sound.managed, sound.outside⟩
  · have known := sound.phases worker phase at_
    refine known.requested ?_ rfl rfl rfl rfl rfl fun launched _ => absurd launched unlaunched
    by_contra quiet
    refine unlaunched ?_
    cases phase with
    | constructing => exact known.2.2.2
    | publishing => exact known.2.2.2.2
    | checking | announcing => exact known.2.2
    | _ => exact absurd rfl quiet
  · have idle := sound.idle empty
    exact ⟨idle.loop, idle.workerId, requested_idle.1, requested_idle.2⟩
  · have none := permitted thread (sound.controls thread .spawn same rfl)
    have calls : owner.calls thread = some .spawn := same
    rw [calls] at none
    cases none

theorem quit (sound : Sound owner) (loop : Nat) :
    Sound { owner with quit_ := Function.update owner.quit_ loop true } := by
  refine ⟨sound.controls, sound.single, sound.numbered, fun worker phase at_ => ?_,
    fun empty => ?_, sound.cleared, sound.resets, sound.managed, sound.outside⟩
  · refine (sound.phases worker phase at_).kept rfl rfl rfl rfl (fun quits => ?_)
      fun launched _ => launched
    by_cases mine : worker = loop
    · simp [mine]
    · simpa only [Function.update_of_ne mine] using quits
  · obtain ⟨unset, workerId, running, exited⟩ := sound.idle empty
    exact ⟨unset, workerId, running, exited⟩

theorem step (sound : Sound owner) (steps : Steps owner next) : Sound next := by
  cases steps with
  | calls calls at_ => exact sound.calls calls at_
  | works works at_ => exact sound.works works at_
  | requestStop permitted => exact sound.requested permitted
  | quit => exact sound.quit _

theorem start : Sound {} := by
  refine ⟨fun _ _ same => ?_, fun _ _ same => ?_, fun _ same => ?_, fun _ _ same => ?_,
    fun _ => ⟨rfl, rfl, by simp, by simp⟩, fun _ _ same => ?_, fun _ same => ?_, fun _ _ same => ?_,
    fun _ _ same => ?_⟩
  all_goals cases same

end Sound

end MiniTrantor.Net.Worker
