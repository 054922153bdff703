import MiniTrantor.Net.Worker.EventLoopThread

/-!
# Steps of a loop thread

What a step can do, said once: a call goes on, a worker goes on, or the stop or the end of
the loop is requested.
-/

set_option autoImplicit false

namespace MiniTrantor.Net.Worker

variable {owner next changed : EventLoopThread} {thread : Thread} {worker : Nat}

/-- The thread of the last worker has ended, if there is one, and is joined. -/
inductive Joins (owner : EventLoopThread) : EventLoopThread → Prop where
  | none : owner.thread_ = none → Joins owner owner
  | ended {worker : Nat} : owner.thread_ = some worker → owner.workers worker = none →
      Joins owner ({ owner with thread_ := none }.emit (.joined worker))

/-- What a call was about to do, what it is about to do then, and the other changes. -/
inductive Calls (owner : EventLoopThread) (thread : Thread) :
    Option Call → Option Call → EventLoopThread → Prop where
  | begin {call : Call} : owner.free thread = true →
      call = .startLoop ∨ (∃ destroys, call = .stop destroys) →
      Calls owner thread none (some call) owner
  | manage {old new : Call} : owner.isManagedThread thread = true →
      (old = .startLoop ∧ new = .reenter) ∨ (old = .stop false ∧ new = .requestStop) →
      Calls owner thread (some old) (some new) owner
  | outside {old new : Call} : owner.isManagedThread thread = false →
      (old = .startLoop ∧ new = .lockStart) ∨
        (∃ destroys, old = .stop destroys ∧ new = .lockStop destroys) →
      Calls owner thread (some old) (some new) owner
  | reenterRunning : owner.state_ = .running →
      Calls owner thread (some .reenter) none (owner.emit (.returned thread owner.loop_))
  | reentered : Calls owner thread (some .reenter) none (owner.emit (.threw thread .reentered))
  | lock {old new : Call} : owner.controlMutex_ = none →
      (old = .lockStart ∧ new = .reuse) ∨
        (∃ destroys, old = .lockStop destroys ∧ new = .requestJoin destroys) →
      Calls owner thread (some old) (some new) { owner with controlMutex_ := some thread }
  | publish {old : Call} : (old = .reuse ∧ owner.state_ = .running) ∨
      (old = .await ∧ (owner.state_ = .running ∨ owner.state_ = .exited)) →
      Calls owner thread (some old) (some (.leave owner.loop_))
        (owner.emit (.returned thread owner.loop_))
  | stale : Calls owner thread (some .reuse) (some .release) owner
  | request {old new : Call} : (old = .release ∧ new = .join) ∨
        (∃ destroys, old = .requestJoin destroys ∧ new = .joinStopped destroys) →
      Calls owner thread (some old) (some new) owner.requestStopLocked
  | join {changed : EventLoopThread} : Joins owner changed →
      Calls owner thread (some .join) (some .reset) changed
  | reset : Calls owner thread (some .reset) (some .spawn)
      { owner with state_ := .starting, failure_ := none }
  | spawn : Calls owner thread (some .spawn) (some .await)
      (({ owner with thread_ := some owner.spawned, spawned := owner.spawned + 1 }.enter owner.spawned
        (some .constructing)).emit (.started owner.spawned))
  | spawnFails : Calls owner thread (some .spawn) (some .spawnFailed) owner
  | spawnFailed : Calls owner thread (some .spawnFailed) none
      { { owner with state_ := .failed, failure_ := some .spawning }.emit
        (.threw thread (.failed .spawning)) with controlMutex_ := none }
  | startFailed : owner.state_ = .stopped ∨ owner.state_ = .failed →
      Calls owner thread (some .await) (some (.joinFailed owner.failure_)) owner
  | joinFailed {changed : EventLoopThread} {failure : Option Failure} {refusal : Refusal} :
      Joins owner changed →
      Calls owner thread (some (.joinFailed failure)) none
        { changed.emit (.threw thread refusal) with controlMutex_ := none }
  | leave {loop : Option Nat} : Calls owner thread (some (.leave loop)) none
      { owner with controlMutex_ := none }
  | selfStop : Calls owner thread (some .requestStop) none
      (owner.requestStopLocked.emit (.selfStopped thread))
  | joinStopped {changed : EventLoopThread} {destroys : Bool} : Joins owner changed →
      Calls owner thread (some (.joinStopped destroys)) none
        { changed with destroyed := changed.destroyed || destroys, controlMutex_ := none }

/-- Where a worker was, where it is then, and the other changes. -/
inductive Works (owner : EventLoopThread) (worker : Nat) :
    Phase → Option Phase → EventLoopThread → Prop where
  | construct : Works owner worker .constructing (some .publishing)
      { owner with alive := Function.update owner.alive worker true }
  | constructionFails :
      Works owner worker .constructing (some (.finishing (some .construction))) owner
  | publish : Works owner worker .publishing (some .initializing)
      { owner with workerId_ := some (.worker worker), loop_ := some worker }
  | initialized : owner.calls (.worker worker) = none →
      Works owner worker .initializing (some .checking) owner
  | initializerThrows : owner.calls (.worker worker) = none →
      Works owner worker .initializing (some (.unpublishing (some .initializer))) owner
  | quit : owner.quit_ worker = true →
      Works owner worker .checking (some (.unpublishing (some .requestedQuit))) owner
  | checked : owner.quit_ worker = false → Works owner worker .checking (some .announcing) owner
  | announce : Works owner worker .announcing (some .looping) { owner with state_ := .running }
  | loopReturns : owner.calls (.worker worker) = none → owner.quit_ worker = true →
      Works owner worker .looping (some .exiting) owner
  | exit : Works owner worker .exiting (some .retained) { owner with state_ := .exited }
  | released {old : Phase} : owner.state_ = .stopping → old = .exiting ∨ old = .retained →
      Works owner worker old (some (.unpublishing none)) owner
  | unpublish (failure : Option Failure) :
      Works owner worker (.unpublishing failure) (some (.destroying failure))
        { owner with loop_ := none }
  | destroy (failure : Option Failure) :
      Works owner worker (.destroying failure) (some (.destructing failure))
        ({ owner with alive := Function.update owner.alive worker false }.emit (.destroyed worker))
  | destructed (failure : Option Failure) : owner.calls (.worker worker) = none →
      Works owner worker (.destructing failure) (some (.finishing failure)) owner
  | finish (failure : Option Failure) : Works owner worker (.finishing failure) none
      { owner with
        loop_ := none
        workerId_ := none
        failure_ := failure
        state_ := if failure.isSome then .failed else .stopped }

/-- What a permitted step does. -/
inductive Steps (owner : EventLoopThread) : EventLoopThread → Prop where
  | calls {thread : Thread} {old new : Option Call} {changed : EventLoopThread} :
      Calls owner thread old new changed → owner.calls thread = old →
      Steps owner (changed.put thread new)
  | works {worker : Nat} {old : Phase} {new : Option Phase} {changed : EventLoopThread} :
      Works owner worker old new changed → owner.workers worker = some old →
      Steps owner (changed.enter worker new)
  | requestStop : (∀ thread ∈ owner.controlMutex_, (owner.calls thread).any Call.launches = false) →
      Steps owner owner.requestStopLocked
  | quit {loop : Nat} : owner.alive loop = true →
      Steps owner { owner with quit_ := Function.update owner.quit_ loop true }

theorem joinThread_cases (joined : owner.joinThread = some changed) : Joins owner changed := by
  unfold EventLoopThread.joinThread at joined
  split at joined
  case h_1 none =>
    cases joined
    exact .none none
  case h_2 worker thread =>
    obtain ⟨ended, joined⟩ := Option.ite_none_right_eq_some.mp joined
    cases joined
    exact .ended thread (Option.isNone_iff_eq_none.mp ended)

theorem begins {call : Call} (free : owner.free thread = true)
    (known : call = .startLoop ∨ ∃ destroys, call = .stop destroys) :
    Steps owner (owner.put thread (some call)) := by
  have idle : owner.calls thread = none := by
    cases thread <;> simp only [EventLoopThread.free, Bool.and_eq_true] at free <;>
      exact Option.isNone_iff_eq_none.mp free.1
  exact .calls (.begin free known) idle

theorem goOn_steps (taken : owner.goOn thread = some next) : Steps owner next := by
  unfold EventLoopThread.goOn at taken
  split at taken
  case h_1 => cases taken
  case h_2 at_ =>
    cases taken
    cases managed : owner.isManagedThread thread with
    | true => exact .calls (.manage managed (.inl ⟨rfl, rfl⟩)) at_
    | false => exact .calls (.outside managed (.inl ⟨rfl, rfl⟩)) at_
  case h_3 at_ =>
    cases taken
    split
    case isTrue running => exact .calls (.reenterRunning running) at_
    case isFalse => exact .calls .reentered at_
  case h_4 at_ =>
    obtain ⟨open_, taken⟩ := Option.ite_none_right_eq_some.mp taken
    cases taken
    exact .calls (.lock (Option.isNone_iff_eq_none.mp open_) (.inl ⟨rfl, rfl⟩)) at_
  case h_5 at_ =>
    cases taken
    split
    case isTrue running => exact .calls (.publish (.inl ⟨rfl, running⟩)) at_
    case isFalse => exact .calls .stale at_
  case h_6 at_ =>
    cases taken
    exact .calls (.request (.inl ⟨rfl, rfl⟩)) at_
  case h_7 at_ =>
    obtain ⟨joined, joins, rfl⟩ := Option.map_eq_some_iff.mp taken
    exact .calls (.join (joinThread_cases joins)) at_
  case h_8 at_ =>
    cases taken
    exact .calls .reset at_
  case h_9 at_ =>
    cases taken
    exact .calls .spawn at_
  case h_10 at_ =>
    cases taken
    exact .calls .spawnFailed at_
  case h_11 at_ =>
    split at taken
    case h_1 running =>
      cases taken
      exact .calls (.publish (.inr ⟨rfl, .inl running⟩)) at_
    case h_2 exited =>
      cases taken
      exact .calls (.publish (.inr ⟨rfl, .inr exited⟩)) at_
    case h_3 stopped =>
      cases taken
      exact .calls (.startFailed (.inl stopped)) at_
    case h_4 failed =>
      cases taken
      exact .calls (.startFailed (.inr failed)) at_
    case h_5 => cases taken
  case h_12 failure at_ =>
    obtain ⟨joined, joins, rfl⟩ := Option.map_eq_some_iff.mp taken
    exact .calls (.joinFailed (joinThread_cases joins)) at_
  case h_13 at_ =>
    cases taken
    exact .calls .leave at_
  case h_14 destroys at_ =>
    split at taken
    case isTrue managed =>
      obtain ⟨kept, taken⟩ := Option.ite_none_left_eq_some.mp taken
      cases taken
      cases destroys with
      | true => cases kept rfl
      | false => exact .calls (.manage managed (.inr ⟨rfl, rfl⟩)) at_
    case isFalse managed =>
      cases taken
      exact .calls (.outside (by simpa using managed) (.inr ⟨destroys, rfl, rfl⟩)) at_
  case h_15 at_ =>
    cases taken
    exact .calls .selfStop at_
  case h_16 destroys at_ =>
    obtain ⟨open_, taken⟩ := Option.ite_none_right_eq_some.mp taken
    cases taken
    exact .calls (.lock (Option.isNone_iff_eq_none.mp open_) (.inr ⟨destroys, rfl, rfl⟩)) at_
  case h_17 destroys at_ =>
    cases taken
    exact .calls (.request (.inr ⟨destroys, rfl, rfl⟩)) at_
  case h_18 destroys at_ =>
    obtain ⟨joined, joins, rfl⟩ := Option.map_eq_some_iff.mp taken
    exact .calls (.joinStopped (joinThread_cases joins)) at_

theorem work_steps (taken : owner.work worker = some next) : Steps owner next := by
  unfold EventLoopThread.work at taken
  split at taken
  case h_1 => cases taken
  case h_2 at_ =>
    cases taken
    exact .works .construct at_
  case h_3 at_ =>
    cases taken
    exact .works .publish at_
  case h_4 at_ =>
    obtain ⟨idle, taken⟩ := Option.ite_none_right_eq_some.mp taken
    cases taken
    exact .works (.initialized (Option.isNone_iff_eq_none.mp idle)) at_
  case h_5 at_ =>
    cases taken
    cases quit : owner.quit_ worker with
    | true => exact .works (.quit quit) at_
    | false => exact .works (.checked quit) at_
  case h_6 at_ =>
    cases taken
    exact .works .announce at_
  case h_7 at_ =>
    obtain ⟨idle, taken⟩ := Option.ite_none_right_eq_some.mp taken
    simp only [Bool.and_eq_true, Option.isNone_iff_eq_none] at idle
    cases taken
    exact .works (.loopReturns idle.1 idle.2) at_
  case h_8 at_ =>
    cases taken
    split
    case isTrue stopping => exact .works (.released stopping (.inl rfl)) at_
    case isFalse => exact .works .exit at_
  case h_9 at_ =>
    obtain ⟨stopping, taken⟩ := Option.ite_none_right_eq_some.mp taken
    cases taken
    exact .works (.released stopping (.inr rfl)) at_
  case h_10 failure at_ =>
    cases taken
    exact .works (.unpublish failure) at_
  case h_11 failure at_ =>
    cases taken
    exact .works (.destroy failure) at_
  case h_12 failure at_ =>
    obtain ⟨idle, taken⟩ := Option.ite_none_right_eq_some.mp taken
    cases taken
    exact .works (.destructed failure (Option.isNone_iff_eq_none.mp idle)) at_
  case h_13 failure at_ =>
    cases taken
    exact .works (.finish failure) at_

theorem step_cases {action : Action} (permitted : Permitted owner action)
    (taken : owner.step action = some next) : Steps owner next := by
  cases action with
  | startLoop thread =>
      obtain ⟨free, taken⟩ := Option.ite_none_right_eq_some.mp taken
      cases taken
      exact begins free (.inl rfl)
  | stop thread =>
      obtain ⟨free, taken⟩ := Option.ite_none_right_eq_some.mp taken
      cases taken
      exact begins free (.inr ⟨false, rfl⟩)
  | destroy id =>
      obtain ⟨free, taken⟩ := Option.ite_none_right_eq_some.mp taken
      cases taken
      exact begins free (.inr ⟨true, rfl⟩)
  | requestStop =>
      obtain ⟨_, taken⟩ := Option.ite_none_left_eq_some.mp taken
      cases taken
      exact .requestStop permitted
  | quit loop =>
      obtain ⟨alive, taken⟩ := Option.ite_none_right_eq_some.mp taken
      cases taken
      exact .quit alive
  | goOn thread => exact goOn_steps taken
  | spawnFails thread =>
      simp only [EventLoopThread.step] at taken
      split at taken
      case h_1 at_ =>
        cases taken
        exact .calls .spawnFails at_
      case h_2 => cases taken
  | work worker => exact work_steps taken
  | throws worker =>
      simp only [EventLoopThread.step] at taken
      split at taken
      case h_1 at_ =>
        cases taken
        exact .works .constructionFails at_
      case h_2 at_ =>
        obtain ⟨idle, taken⟩ := Option.ite_none_right_eq_some.mp taken
        cases taken
        exact .works (.initializerThrows (Option.isNone_iff_eq_none.mp idle)) at_
      case h_3 => cases taken

end MiniTrantor.Net.Worker
