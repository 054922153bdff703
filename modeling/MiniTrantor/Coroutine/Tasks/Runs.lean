import MiniTrantor.Coroutine.Tasks.Outcomes

/-!
# Runs of coroutines

What holds after any sequence of permitted steps.
-/

set_option autoImplicit false

namespace MiniTrantor.Coroutine.Tasks

namespace Coroutines

variable {Value Failure : Type} {coroutines next : Coroutines Value Failure} {thread : Thread}
  {gate : Gate} {task source target : TaskId} {frame : FrameId} {rest : List Activity}

theorem Faithful.start_ (frame : FrameId) : Faithful ({} : Coroutines Value Failure) frame := by
  refine ⟨.refl, fun _ _ => rfl, ?_, ?_⟩
  · intro thread runs
    cases runs
  · intro done
    cases done

section

variable (faithful : ∀ frame, coroutines.Faithful frame) (valid : coroutines.Valid)
  (running : coroutines.terminated = false) (defined : next.undefined = false)
  (lives : next.terminated = false)
include faithful valid running defined lives

theorem Faithful.goOn (taken : coroutines.goOn thread = some next) (other : FrameId) :
    next.Faithful other := by
  unfold Coroutines.goOn at taken
  split at taken
  case h_1 gate parent rest top =>
    exact Faithful.awaitResume faithful valid running defined lives top taken other
  case h_2 gate frame rest top =>
    split at taken
    case isTrue => cases taken
    case isFalse =>
      cases taken
      exact Faithful.finalSuspend faithful valid running top other
  case h_3 gate frame rest top =>
    cases taken
    have before : coroutines.activities thread =
      [Activity.execution gate (.suspending frame)] ++ rest := top
    have after : (coroutines.put thread (.execution gate .over :: rest)).activities =
      Function.update coroutines.activities thread ([Activity.execution gate .over] ++ rest) := rfl
    exact Faithful.turn faithful rfl rfl before after (fun _ _ => plain_one (by simp))
      (fun _ _ => plain_one (by simp))
  case h_4 gate rest top =>
    cases taken
    have before : coroutines.activities thread = [Activity.execution gate .over] ++ rest := top
    exact Faithful.turn faithful rfl rfl before rfl (fun _ _ => plain_one (by simp))
      (fun _ _ => List.not_mem_nil)
  case h_5 gate frame rest top =>
    split at taken
    case h_1 child awaits =>
      exact Faithful.destroyAwaiter faithful valid running defined lives top awaits taken other
    case h_2 =>
      split at taken
      case isTrue => cases taken
      case isFalse =>
        cases taken
        have before : coroutines.activities thread = [Activity.destroying gate frame] ++ rest := top
        exact Faithful.turn faithful rfl rfl before rfl (fun _ _ => by simp)
          (fun _ _ => List.not_mem_nil)
  case h_6 source target rest top =>
    split at taken
    case h_1 coroutine_ _ =>
      cases taken
      have before : coroutines.activities thread = [Activity.assigning source target] ++ rest := top
      exact Faithful.turn faithful rfl rfl before rfl (fun _ _ => by simp)
        (fun _ _ => List.not_mem_nil)
    case h_2 =>
      cases taken
      cases defined
  case h_7 => cases taken

omit valid running defined lives in
/-- A coroutine is resumed where it was suspended. -/
theorem Faithful.resume {suspension : Nat} (threaded : coroutines.Threaded)
    (records : ∀ frame, (coroutines.frames frame).Sound)
    (known : suspension < (coroutines.frames frame).suspensions)
    (unused : (coroutines.frames frame).resumed suspension = false) (other : FrameId) :
    Faithful (if (coroutines.frames frame).handle && coroutines.status frame != .done then
      (coroutines.change frame fun old =>
        { old with resumed := Function.update old.resumed suspension true }).execute thread frame
    else coroutines.change frame fun old =>
      { old with resumed := Function.update old.resumed suspension true }) other := by
  obtain ⟨used, same⟩ : ∃ used, used = coroutines.change frame fun old =>
    { old with resumed := Function.update old.resumed suspension true } := ⟨_, rfl⟩
  have frames : used.frames = Function.update coroutines.frames frame
      { coroutines.frames frame with
        resumed := Function.update (coroutines.frames frame).resumed suspension true } := by
    rw [same]
    rfl
  have trace : used.trace = coroutines.trace := by
    rw [same]
    rfl
  have activities : used.activities = coroutines.activities := by
    rw [same]
    rfl
  have later : ∀ other, used.Faithful other :=
    Faithful.revise faithful frames rfl rfl rfl trace activities
  rw [← same]
  split
  case isFalse => exact later other
  case isTrue resumes =>
    have mine := records frame
    have handle : (coroutines.frames frame).handle = true := (Bool.and_eq_true _ _ ▸ resumes).1
    have alive := mine.handle.mp handle
    have waits := (mine.resumable suspension known unused).2.resolve_right alive
    have started : (coroutines.frames frame).startState_ = .started := by
      cases state : (coroutines.frames frame).startState_ with
      | started => rfl
      | lazy =>
          obtain at_ | at_ := mine.lazy state
          · rw [waits] at at_
            cases at_
          · exact absurd at_ alive
    have none := (faithful frame).suspended .awaitable waits
    have before := (faithful frame).lives
    rw [Frame.life_started alive started none] at before
    have here := congrFun frames frame
    rw [Function.update_self] at here
    have at_ : used.status frame = .suspended .awaitable := by
      rw [status_same frames rfl]
      exact waits
    apply Faithful.execute (fun other _ => later other)
    · rwa [trace]
    · rw [here]
      exact started
    · rw [here]
      exact none
    · intro holder
      unfold Finishing
      rw [activities]
      apply Faithful.unfinished threaded
      rw [show coroutines.status frame = _ from waits]
      rfl
    · exact at_
    · simp

omit defined lives in
/-- A frame gets a number that no frame had. -/
theorem Faithful.create {by_ : Thread} {home : Option FrameId}
    (taken : coroutines.act thread (.create by_ home) = some next) (other : FrameId) :
    next.Faithful other := by
  simp only [Coroutines.act] at taken
  split at taken
  case isTrue =>
    cases taken
    have blank := (valid.sound running).fresh _ (Nat.le_refl _)
    refine Faithful.same faithful ?_ rfl rfl
    change Function.update coroutines.frames coroutines.controls.created {} = coroutines.frames
    rw [← blank, Function.update_eq_self]
  case isFalse => cases taken

/-- The Task gives up what it had, and its frame is destroyed before it gets another. -/
theorem Faithful.assign {by_ : Thread}
    (taken : coroutines.act thread (.assign by_ source target) = some next) (other : FrameId) :
    next.Faithful other := by
  simp only [Coroutines.act] at taken
  split at taken
  case h_1 coroutine_ old there held =>
    split at taken
    case isTrue =>
      cases taken
      exact faithful other
    case isFalse =>
      have top : coroutines.activities thread = [] ++ coroutines.activities thread := rfl
      cases old with
      | none =>
          cases taken
          have after : (coroutines.put thread (.assigning source target ::
            coroutines.activities thread)).activities = Function.update coroutines.activities
              thread ([Activity.assigning source target] ++ coroutines.activities thread) := rfl
          exact Faithful.turn faithful rfl rfl top after (fun _ _ => List.not_mem_nil)
            (fun _ _ => by simp)
      | some frame =>
          have given : ∀ other, (coroutines.setCoroutine target none).Faithful other :=
            fun _ => Faithful.same faithful rfl rfl rfl
          have taken : (coroutines.setCoroutine target none).destroyFrame thread frame
            ([Activity.assigning source target] ++ coroutines.activities thread) = some next := taken
          have destructible := (valid.sound running).destructible held
          exact Faithful.destroyFrame (fun other _ => given other) (given frame).lives destructible
            top (fun _ _ => List.not_mem_nil) (fun _ _ => by simp) taken defined lives other
  case h_2 => cases taken

theorem Faithful.drop {by_ : Thread} (taken : coroutines.act thread (.drop by_ task) = some next)
    (other : FrameId) : next.Faithful other := by
  simp only [Coroutines.act] at taken
  split at taken
  case h_1 => cases taken
  case h_2 old held =>
    have dropped : ∀ other, (coroutines.discard task).Faithful other :=
      fun _ => Faithful.same faithful rfl rfl rfl
    cases old with
    | none =>
        cases taken
        exact dropped other
    | some frame =>
        exact Faithful.destroyHere (fun other _ => dropped other) (dropped frame).lives
          ((valid.sound running).destructible held) taken defined lives other

theorem Faithful.act {action : Action Value Failure} (permitted : coroutines.Permitted action)
    (taken : coroutines.act thread action = some next) (other : FrameId) : next.Faithful other := by
  have sound := valid.sound running
  have records := valid.records running
  cases action with
  | create by_ home => exact Faithful.create faithful valid running taken other
  | move by_ source home =>
      simp only [Coroutines.act] at taken
      split at taken
      case h_1 => cases taken
      case h_2 =>
        split at taken
        case isTrue =>
          cases taken
          exact Faithful.same faithful rfl rfl rfl
        case isFalse => cases taken
  | assign by_ source target =>
      exact Faithful.assign faithful valid running defined lives taken other
  | drop by_ task => exact Faithful.drop faithful valid running defined lives taken other
  | start by_ task =>
      simp only [Coroutines.act] at taken
      split at taken
      case h_1 => cases taken
      case h_2 =>
        cases taken
        exact faithful other
      case h_3 frame held =>
        obtain ⟨_, done⟩ := locking_cases taken
        cases done
        exact Faithful.start faithful valid running held other
  | detach by_ task =>
      simp only [Coroutines.act] at taken
      split at taken
      case h_1 => cases taken
      case h_2 =>
        cases taken
        exact faithful other
      case h_3 frame held =>
        obtain ⟨_, done⟩ := locking_cases taken
        exact Faithful.detach faithful valid running held done defined lives other
  | result by_ task =>
      simp only [Coroutines.act] at taken
      split at taken
      case h_1 => cases taken
      case h_2 =>
        cases taken
        exact Faithful.emit faithful _ rfl other
      case h_3 frame held =>
        obtain ⟨_, done⟩ := locking_cases taken
        cases done
        exact Faithful.result faithful valid running held other
  | await by_ task =>
      simp only [Coroutines.act] at taken
      split at taken
      case h_1 =>
        cases taken
        exact Faithful.emit faithful _ rfl other
      case h_2 gate parent rest child top held =>
        obtain ⟨_, done⟩ := locking_cases taken
        exact Faithful.await faithful valid running defined lives held (permitted.2 child held) top
          done other
      case h_3 => cases taken
  | suspend by_ =>
      simp only [Coroutines.act] at taken
      split at taken
      case h_1 gate frame rest top =>
        cases taken
        exact Faithful.suspend faithful valid running top other
      case h_2 => cases taken
  | resume by_ frame suspension =>
      simp only [Coroutines.act] at taken
      split at taken
      case isTrue known =>
        obtain ⟨_, done⟩ := locking_cases taken
        cases done
        exact Faithful.resume faithful sound.threaded records known permitted other
      case isFalse => cases taken
  | finish by_ result =>
      simp only [Coroutines.act] at taken
      split at taken
      case h_1 gate frame rest top =>
        cases taken
        exact Faithful.finish faithful valid running top result other
      case h_2 => cases taken
  | goOn by_ => cases taken
  | expire control => cases taken

theorem Faithful.step {action : Action Value Failure} (permitted : coroutines.Permitted action)
    (taken : coroutines.step action = some next) (other : FrameId) : next.Faithful other := by
  obtain ⟨_, _, ⟨thread, on⟩ | ⟨frame, _, _, rfl⟩ | ⟨thread, _, acts⟩⟩ := step_cases taken
  · exact Faithful.goOn faithful valid running defined lives on other
  · exact Faithful.same faithful rfl rfl rfl
  · exact Faithful.act faithful valid running defined lives permitted acts other

end

end Coroutines

end MiniTrantor.Coroutine.Tasks
