import MiniTrantor.Net.Loop.EventLoop

/-!
# Moves of the event loop

Everything a step can do, with what it found before. Results about runs split
on the moves and never unfold the step function.
-/

set_option autoImplicit false

namespace MiniTrantor.Net.Reactor

/-- The functors of the batch that the owner has not called yet. -/
def Pc.batch : Pc → List Functor
  | .running _ rest => rest
  | _ => []

/-- The functors that are still to be called, in order. -/
def Loop.queued (loop : Loop) : List Functor := loop.pc.batch ++ loop.pendingFunctors

/-- Steps that change nothing but the place of the owner. -/
inductive Turns (loop : Loop) : Action → Pc → Prop where
  | polled {active : Bool} : loop.pc = .polling → (active = true → loop.wakeupReadable = true) →
      Turns loop (.poll active) (.dispatching active)
  | nothingDue {now : Int} : loop.pc = .dispatching false → loop.timerQueue.nothingDue now = true →
      Turns loop (.handleExpired now) (.draining false)
  | skipped {inside : Bool} {timer : TimerPtr} {rest expired : List TimerPtr} :
      loop.pc = .callbacks inside (timer :: rest) expired →
      (loop.timerQueue.objects timer).canceled = true →
      Turns loop .expire (.callbacks false rest expired)
  | quitted : loop.pc = .testQuit → loop.quit = true → Turns loop .next .finalCheck
  | entered : loop.pc = .testQuit → loop.quit = false → Turns loop .next .polling
  | expired : loop.pc = .expired → Turns loop .next (.draining false)
  | empty {final : Bool} : loop.pc = .draining final → loop.pendingFunctors = [] →
      Turns loop .next (.drained final)
  | destroyed {final : Bool} : loop.pc = .destroying final → Turns loop .next (.drained final)
  | refilled : loop.pc = .finalCheck → loop.pendingFunctors ≠ [] → Turns loop .next (.draining true)

/-- What a step does, given the state before it. -/
inductive Moves (loop : Loop) : Action → Loop → Prop where
  | queue {thread : Thread} : loop.calls thread = .idle →
      (thread = owner → loop.pc.userCode = true) →
      Moves loop (.call thread .queue) (loop.queue thread)
  | queueInLoop {thread : Thread} : loop.calls thread = .idle →
      (thread = owner → loop.pc.userCode = true) →
      Moves loop (.call thread .queueInLoop) (loop.queueInLoop thread .user)
  | quitInline : Moves loop (.call owner .quit) { loop with quit := true }
  | quitRemote {thread : Thread} : thread ≠ owner → loop.calls thread = .idle →
      Moves loop (.call thread .quit) ({ loop with quit := true }.setCall thread .quitting)
  | addTimerInline {expiration interval : Int} :
      Moves loop (.call owner (.addTimer expiration interval))
        ({ loop with timerQueue := loop.timerQueue.addTimer expiration interval }.emit
          (.timerReturned loop.timerQueue.nextSequence))
  | addTimerRemote {thread : Thread} {expiration interval : Int} : thread ≠ owner →
      loop.calls thread = .idle →
      Moves loop (.call thread (.addTimer expiration interval))
        ({ loop with timerQueue := loop.timerQueue.allocate expiration interval }.queueInLoop thread
          (.addTimerInLoop loop.timerQueue.nextSequence))
  | cancelNothing {thread : Thread} : Moves loop (.call thread (.cancel 0)) loop
  | cancelInline {id : Nat} : .timerReturned id ∈ loop.trace →
      Moves loop (.call owner (.cancel id)) (loop.cancelInLoop id)
  | cancelRemote {thread : Thread} {id : Nat} : thread ≠ owner → loop.calls thread = .idle →
      .timerReturned id ∈ loop.trace →
      Moves loop (.call thread (.cancel id)) (loop.queueInLoop thread (.cancelInLoop id))
  | acquired {thread : Thread} {functor : Functor} : loop.calls thread = .acquiring functor →
      loop.postingLock = none → loop.posting = true →
      Moves loop (.proceed thread) ({ loop with postingLock := some thread }.setCall thread
        (.pushing { functor, handle := true }))
  | rejected {thread : Thread} {functor : Functor} : loop.calls thread = .acquiring functor →
      loop.postingLock = none → loop.posting = false →
      Moves loop (.proceed thread)
        ((loop.setCall thread .idle).emit (.returned functor.id false))
  | pushed {thread : Thread} {post : Post} : loop.calls thread = .pushing post →
      Moves loop (.proceed thread)
        (({ loop with pendingFunctors := loop.pendingFunctors ++ [post.functor] }.setCall thread
          (.testing post)).emit (.pushed post.functor.id post.handle))
  | announcing {thread : Thread} {post : Post} : loop.calls thread = .testing post →
      Moves loop (.proceed thread) (loop.setCall thread (.waking post))
  | unannounced {post : Post} : loop.calls owner = .testing post →
      loop.callingPendingFunctors = false → loop.looping = true →
      Moves loop (.proceed owner) (loop.setCall owner (.finishing post))
  | woken {thread : Thread} {post : Post} : loop.calls thread = .waking post →
      Moves loop (.proceed thread)
        ({ loop with wakeupReadable := true }.setCall thread (.finishing post))
  | released {thread : Thread} {post : Post} : loop.calls thread = .finishing post →
      post.handle = true →
      Moves loop (.proceed thread)
        ({ loop with postingLock := none }.setCall thread (.returning post.functor))
  | finished {thread : Thread} {post : Post} : loop.calls thread = .finishing post →
      post.handle = false → (∀ timer, post.functor.task ≠ .addTimerInLoop timer) →
      Moves loop (.proceed thread) (loop.setCall thread .idle)
  | timerAdded {thread : Thread} {post : Post} {timer : TimerPtr} :
      loop.calls thread = .finishing post → post.handle = false →
      post.functor.task = .addTimerInLoop timer →
      Moves loop (.proceed thread) ((loop.setCall thread .idle).emit
        (.timerReturned (loop.timerQueue.objects timer).sequence))
  | returned {thread : Thread} {functor : Functor} : loop.calls thread = .returning functor →
      Moves loop (.proceed thread) ((loop.setCall thread .idle).emit (.returned functor.id true))
  | quitted {thread : Thread} : loop.calls thread = .quitting →
      Moves loop (.proceed thread) ({ loop with wakeupReadable := true }.setCall thread .idle)
  | turned {action : Action} {pc : Pc} : loop.calls owner = .idle → Turns loop action pc →
      Moves loop action { loop with pc }
  | looped : loop.calls owner = .idle → loop.pc = .outside →
      Moves loop .loop { loop with looping := true, pc := .testQuit }
  | handledRead : loop.calls owner = .idle → loop.pc = .dispatching true →
      Moves loop .handleRead { loop with wakeupReadable := false, pc := .dispatching false }
  | expiring {now : Int} : loop.calls owner = .idle → loop.pc = .dispatching false →
      Moves loop (.handleExpired now)
        { loop with
          timerQueue := (loop.timerQueue.getExpired now).2
          pc := .callbacks false (loop.timerQueue.getExpired now).1
            (loop.timerQueue.getExpired now).1 }
  | started {inside : Bool} {timer : TimerPtr} {rest expired : List TimerPtr} :
      loop.calls owner = .idle → loop.pc = .callbacks inside (timer :: rest) expired →
      (loop.timerQueue.objects timer).canceled = false →
      Moves loop .expire ({ loop with pc := .callbacks true rest expired }.emit
        (.started (loop.timerQueue.objects timer).sequence))
  | reset {now : Int} {inside : Bool} {expired : List TimerPtr} :
      loop.calls owner = .idle → loop.pc = .callbacks inside [] expired →
      Moves loop (.reset now)
        { loop with timerQueue := loop.timerQueue.reset expired now, pc := .expired }
  | swapped {final : Bool} : loop.calls owner = .idle → loop.pc = .draining final →
      Moves loop .next
        { loop with
          callingPendingFunctors := true
          pendingFunctors := []
          pc := .running final loop.pendingFunctors }
  | executed {final : Bool} {functor : Functor} {rest : List Functor} :
      loop.calls owner = .idle → loop.pc = .running final (functor :: rest) →
      Moves loop .next ({ loop with pc := .running final rest }.execute functor)
  | called {final : Bool} : loop.calls owner = .idle → loop.pc = .running final [] →
      Moves loop .next { loop with callingPendingFunctors := false, pc := .destroying final }
  | closed : loop.calls owner = .idle → loop.pc = .finalCheck → loop.postingLock = none →
      loop.pendingFunctors = [] →
      Moves loop .next ({ loop with posting := false, pc := .leaving }.emit .closed)
  | left : loop.calls owner = .idle → loop.pc = .leaving →
      Moves loop .next ({ loop with looping := false, pc := .outside }.emit .loopReturned)

theorem Pc.drained_batch (final : Bool) : (Pc.drained final).batch = [] := by
  cases final <;> rfl

theorem Turns.batch {loop : Loop} {action : Action} {pc : Pc} (turns : Turns loop action pc) :
    pc.batch = loop.pc.batch := by
  cases turns with
  | empty place => rw [place, Pc.drained_batch]; rfl
  | destroyed place => rw [place, Pc.drained_batch]; rfl
  | polled place => rw [place]; rfl
  | nothingDue place => rw [place]; rfl
  | skipped place => rw [place]; rfl
  | quitted place => rw [place]; rfl
  | entered place => rw [place]; rfl
  | expired place => rw [place]; rfl
  | refilled place => rw [place]; rfl

namespace Loop

variable {loop after : Loop} {thread : Thread}

/-- A functor reaches nothing of the loop but its timers. -/
theorem execute_eq (loop : Loop) (functor : Functor) :
    ∃ timerQueue trace, loop.execute functor = { loop with timerQueue, trace } := by
  rw [execute]
  split <;> exact ⟨_, _, rfl⟩

theorem call_moves {request : Request} (may : loop.mayCall thread request = true) :
    Moves loop (.call thread request) (loop.call thread request) := by
  unfold mayCall at may
  rw [Bool.and_eq_true, Bool.and_eq_true, decide_eq_true_eq] at may
  obtain ⟨⟨idle, place⟩, known⟩ := may
  have place : thread = owner → loop.pc.userCode = true := by
    intro own
    simpa [own] using place
  cases request with
  | queue => exact .queue idle place
  | queueInLoop => exact .queueInLoop idle place
  | quit =>
      rw [call, requestQuit]
      by_cases own : thread = owner
      · subst own
        rw [if_pos rfl]
        exact .quitInline
      · rw [if_neg own]
        exact .quitRemote own idle
  | addTimer expiration interval =>
      rw [call, addTimer]
      by_cases own : thread = owner
      · subst own
        rw [if_pos rfl]
        exact .addTimerInline
      · rw [if_neg own]
        exact .addTimerRemote own idle
  | cancel id =>
      rw [call, cancel]
      by_cases invalid : id = 0
      · subst invalid
        rw [if_pos rfl]
        exact .cancelNothing
      · have returned : .timerReturned id ∈ loop.trace := by simpa [invalid] using known
        rw [if_neg invalid]
        by_cases own : thread = owner
        · subst own
          rw [if_pos rfl]
          exact .cancelInline returned
        · rw [if_neg own]
          exact .cancelRemote own idle returned

theorem finish_moves {post : Post} (call : loop.calls thread = .finishing post) :
    Moves loop (.proceed thread) (loop.finish thread post) := by
  rw [finish]
  split
  case isTrue handle => exact .released call handle
  case isFalse raw =>
    have raw : post.handle = false := by simpa using raw
    cases task : post.functor.task with
    | user => exact .finished call raw (by simp [task])
    | addTimerInLoop timer => exact .timerAdded call raw task
    | cancelInLoop id => exact .finished call raw (by simp [task])

theorem proceed_moves (taken : loop.proceed thread = some after) :
    Moves loop (.proceed thread) after := by
  rw [proceed] at taken
  cases call : loop.calls thread with
  | idle => simp [call] at taken
  | acquiring functor =>
      simp only [call] at taken
      split at taken
      case isTrue => cases taken
      case isFalse free =>
        have free : loop.postingLock = none := by simpa using free
        split at taken
        case isTrue posting =>
          cases taken
          exact .acquired call free posting
        case isFalse closed =>
          cases taken
          exact .rejected call free (by simpa using closed)
  | pushing post =>
      simp only [call] at taken
      cases taken
      exact .pushed call
  | testing post =>
      simp only [call] at taken
      split at taken
      case isTrue =>
        cases taken
        exact .announcing call
      case isFalse silent =>
        cases taken
        simp only [ne_eq, Bool.or_eq_true, decide_eq_true_eq, not_or, Decidable.not_not,
          Bool.not_eq_true, Bool.not_eq_false'] at silent
        obtain ⟨⟨rfl, calling⟩, looping⟩ := silent
        exact .unannounced call calling looping
  | waking post =>
      simp only [call] at taken
      cases taken
      exact .woken call
  | finishing post =>
      simp only [call] at taken
      cases taken
      exact finish_moves call
  | returning functor =>
      simp only [call] at taken
      cases taken
      exact .returned call
  | quitting =>
      simp only [call] at taken
      cases taken
      exact .quitted call

theorem next_moves (idle : loop.calls owner = .idle) (taken : loop.next = some after) :
    Moves loop .next after := by
  rw [next] at taken
  split at taken
  case h_1 place =>
    cases taken
    split
    case isTrue quit => exact .turned idle (.quitted place quit)
    case isFalse stay => exact .turned idle (.entered place (by simpa using stay))
  case h_2 place =>
    cases taken
    exact .turned idle (.expired place)
  case h_3 final place =>
    split at taken
    case isTrue empty =>
      cases taken
      exact .turned idle (.empty place empty)
    case isFalse =>
      cases taken
      exact .swapped idle place
  case h_4 final functor rest place =>
    cases taken
    exact .executed idle place
  case h_5 final place =>
    cases taken
    exact .called idle place
  case h_6 final place =>
    cases taken
    exact .turned idle (.destroyed place)
  case h_7 place =>
    split at taken
    case isTrue => cases taken
    case isFalse free =>
      have free : loop.postingLock = none := by simpa using free
      split at taken
      case isTrue empty =>
        cases taken
        exact .closed idle place free empty
      case isFalse filled =>
        cases taken
        exact .turned idle (.refilled place filled)
  case h_8 place =>
    cases taken
    exact .left idle place
  all_goals cases taken

theorem advance_moves {action : Action} (idle : loop.calls owner = .idle)
    (taken : loop.advance action = some after) : Moves loop action after := by
  cases action with
  | call thread request => cases taken
  | proceed thread => cases taken
  | loop =>
      obtain ⟨place, same⟩ := Option.ite_none_right_eq_some.mp taken
      cases same
      exact .looped idle place
  | poll active =>
      obtain ⟨⟨place, readable⟩, same⟩ := Option.ite_none_right_eq_some.mp taken
      cases same
      exact .turned idle (.polled place readable)
  | handleRead =>
      obtain ⟨place, same⟩ := Option.ite_none_right_eq_some.mp taken
      cases same
      exact .handledRead idle place
  | handleExpired now =>
      obtain ⟨place, same⟩ := Option.ite_none_right_eq_some.mp taken
      cases same
      rw [handleExpired]
      split
      case isTrue nothing => exact .turned idle (.nothingDue place nothing)
      case isFalse => exact .expiring idle place
  | expire =>
      rw [advance] at taken
      split at taken
      case h_1 inside timer rest expired place =>
        cases taken
        rw [expire]
        split
        case isTrue canceled => exact .turned idle (.skipped place canceled)
        case isFalse live => exact .started idle place (by simpa using live)
      case h_2 => cases taken
  | reset now =>
      rw [advance] at taken
      split at taken
      case h_1 inside expired place =>
        cases taken
        exact .reset idle place
      case h_2 => cases taken
  | next => exact next_moves idle taken

theorem step_moves {action : Action} (taken : loop.step action = some after) :
    Moves loop action after := by
  unfold step at taken
  split at taken
  case h_1 thread request =>
    obtain ⟨may, same⟩ := Option.ite_none_right_eq_some.mp taken
    cases same
    exact call_moves may
  case h_2 thread => exact proceed_moves taken
  case h_3 =>
    obtain ⟨idle, moved⟩ := Option.ite_none_right_eq_some.mp taken
    exact advance_moves idle moved

end Loop

end MiniTrantor.Net.Reactor
