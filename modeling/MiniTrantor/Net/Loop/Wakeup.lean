import MiniTrantor.Net.Loop.Moves

/-!
# Wakeups

A functor that is queued while the owner polls must make the poll return. A
thread that has pushed one wakes the owner unless it is the owner itself on its
way to `doPendingFunctors`. The flag that tells the owner so is cleared before
the functors it has called are destroyed.
-/

set_option autoImplicit false

namespace MiniTrantor.Net.Reactor

/-- A thread that has pushed a functor and not yet called `wakeup()`. -/
def Call.announcing : Call → Bool
  | .testing _ | .waking _ => true
  | .idle | .acquiring _ | .pushing _ | .finishing _ | .returning _ | .quitting => false

/-- The places from which the owner may poll before it looks at the queue. -/
def Pc.pollsNext : Pc → Bool
  | .outside | .testQuit | .running false _ | .destroying false | .leaving => true
  | .polling | .dispatching _ | .callbacks .. | .expired | .draining _ | .running true _
  | .destroying true | .finalCheck => false

theorem Turns.places {loop : Loop} {action : Action} {pc : Pc} (turns : Turns loop action pc) :
    (loop.pc ≠ .outside ∧ pc ≠ .outside) ∧
      ∀ final rest, loop.pc ≠ .running final rest ∧ pc ≠ .running final rest := by
  cases turns with
  | @empty final place => cases final <;> simp [place, Pc.drained]
  | @destroyed final place => cases final <;> simp [place, Pc.drained]
  | polled place => simp [place]
  | nothingDue place => simp [place]
  | skipped place => simp [place]
  | quitted place => simp [place]
  | entered place => simp [place]
  | expired place => simp [place]
  | refilled place => simp [place]

namespace Loop

/-- A poll would return for what is in the queue. -/
def Covered (loop : Loop) : Prop :=
  loop.pendingFunctors = [] ∨ loop.wakeupReadable = true ∨
    ∃ thread, (loop.calls thread).announcing = true

/-- The owner tests for a wakeup while the functors it has called are destroyed
only if it is heard without one, or will not poll again. -/
def Announced (loop : Loop) (action : Action) : Prop :=
  action = .proceed owner → loop.pc = .destroying false →
    (∃ post, loop.calls owner = .testing post) →
    loop.quit = true ∨ loop.wakeupReadable = true ∨
      ∃ thread, thread ≠ owner ∧ (loop.calls thread).announcing = true

/-- The flags follow the place of the owner, and the queue is announced. -/
structure Attentive (loop : Loop) : Prop where
  looping : loop.looping = true ↔ loop.pc ≠ .outside
  calling : loop.callingPendingFunctors = true ↔ ∃ final rest, loop.pc = .running final rest
  within : loop.calls owner ≠ .idle → loop.pc.userCode = true
  polling : loop.pc = .polling → loop.Covered
  heard : loop.pc.pollsNext = true → loop.quit = true ∨ loop.Covered

variable {loop after : Loop} {thread : Thread}

theorem Covered.setCall (covered : loop.Covered) (quiet : (loop.calls thread).announcing = false)
    (call : Call) : (loop.setCall thread call).Covered := by
  rcases covered with empty | readable | ⟨other, announcing⟩
  · exact .inl empty
  · exact .inr (.inl readable)
  · have different : other ≠ thread := by
      intro same
      rw [same, quiet] at announcing
      cases announcing
    refine .inr (.inr ⟨other, ?_⟩)
    rw [setCall_other _ different]
    exact announcing

theorem covered_of_announcing {call : Call} (announcing : call.announcing = true) :
    (loop.setCall thread call).Covered := by
  refine .inr (.inr ⟨thread, ?_⟩)
  rw [setCall_self]
  exact announcing

/-- A step of a call, at whatever place the owner is. -/
theorem Attentive.proceeds (attentive : loop.Attentive) (looping : after.looping = loop.looping)
    (calling : after.callingPendingFunctors = loop.callingPendingFunctors)
    (pc : after.pc = loop.pc) (quit : loop.quit = true → after.quit = true)
    (within : after.calls owner ≠ .idle → loop.calls owner ≠ .idle ∨ loop.pc.userCode = true)
    (covered : loop.Covered → after.Covered) : after.Attentive where
  looping := by rw [looping, pc]; exact attentive.looping
  calling := by rw [calling, pc]; exact attentive.calling
  within := by
    intro busy
    rw [pc]
    rcases within busy with before | place
    · exact attentive.within before
    · exact place
  polling := by
    intro place
    exact covered (attentive.polling (pc ▸ place))
  heard := by
    intro place
    exact (attentive.heard (pc ▸ place)).imp quit covered

theorem setCall_busy {call : Call} (before : loop.calls thread ≠ .idle)
    (busy : (loop.setCall thread call).calls owner ≠ .idle) : loop.calls owner ≠ .idle := by
  by_cases own : owner = thread
  · rw [own]
    exact before
  · rwa [setCall_other _ own] at busy

/-- A call of one thread that is not about to wake the owner goes on. -/
theorem Attentive.setCall (attentive : loop.Attentive)
    (quiet : (loop.calls thread).announcing = false) (call : Call)
    (within : thread = owner → loop.calls owner ≠ .idle ∨ loop.pc.userCode = true) :
    (loop.setCall thread call).Attentive := by
  refine attentive.proceeds rfl rfl rfl id ?_ fun covered => covered.setCall quiet call
  intro busy
  by_cases own : thread = owner
  · exact within own
  · rw [setCall_other _ (Ne.symm own)] at busy
    exact .inl busy

/-- The owner skips the wakeup on its way to `doPendingFunctors`, or else while
the functors it has called are destroyed. -/
theorem Attentive.unannounced (attentive : loop.Attentive) {post : Post}
    (call : loop.calls owner = .testing post) (calling : loop.callingPendingFunctors = false)
    (looping : loop.looping = true) (announced : loop.Announced (.proceed owner)) :
    (loop.setCall owner (.finishing post)).Attentive := by
  have code : loop.pc.userCode = true := attentive.within (by simp [call])
  have inside : loop.pc ≠ .outside := attentive.looping.mp looping
  have idle : ¬∃ final rest, loop.pc = .running final rest := by
    rw [← attentive.calling, calling]
    simp
  refine ⟨attentive.looping, attentive.calling, fun _ => code, ?_, ?_⟩
  · intro place
    change loop.pc = .polling at place
    rw [place] at code
    cases code
  · intro place
    change loop.pc.pollsNext = true at place
    have destroying : loop.pc = .destroying false := by
      cases pc : loop.pc with
      | destroying final =>
          cases final with
          | false => rfl
          | true => simp [pc, Pc.pollsNext] at place
      | outside => exact absurd pc inside
      | running final rest => exact absurd ⟨final, rest, pc⟩ idle
      | _ => simp [pc, Pc.pollsNext, Pc.userCode] at place code
    rcases announced rfl destroying ⟨post, call⟩ with quit | readable | ⟨other, different, waking⟩
    · exact .inl quit
    · exact .inr (.inr (.inl readable))
    · exact .inr (.inr (.inr ⟨other, by rw [setCall_other _ different]; exact waking⟩))

theorem Attentive.turned {action : Action} {pc : Pc} (attentive : loop.Attentive)
    (idle : loop.calls owner = .idle) (turns : Turns loop action pc) :
    ({ loop with pc } : Loop).Attentive := by
  obtain ⟨⟨before, inside⟩, still⟩ := turns.places
  refine ⟨?_, ?_, fun busy => absurd idle busy, ?_, ?_⟩
  · simpa [before, inside] using attentive.looping
  · simpa [still] using attentive.calling
  · intro place
    cases turns with
    | @empty final => cases final <;> cases place
    | @destroyed final => cases final <;> cases place
    | entered before stay =>
        have heard := attentive.heard (by rw [before]; rfl)
        exact heard.resolve_left (by simp [stay])
    | _ => cases place
  · intro place
    cases turns with
    | empty _ empty => exact .inr (.inl empty)
    | @destroyed final before =>
        cases final with
        | false => exact attentive.heard (by rw [before]; rfl)
        | true => cases place
    | _ => cases place

/-- The owner goes to a place where it does not poll yet. -/
theorem Attentive.goes (idle : after.calls owner = .idle)
    (looping : after.looping = true ↔ after.pc ≠ .outside)
    (calling : after.callingPendingFunctors = true ↔ ∃ final rest, after.pc = .running final rest)
    (elsewhere : after.pc ≠ .polling)
    (heard : after.pc.pollsNext = true → after.quit = true ∨ after.Covered) : after.Attentive :=
  ⟨looping, calling, fun busy => absurd idle busy, fun place => absurd place elsewhere, heard⟩

theorem Attentive.executed (attentive : loop.Attentive) {final : Bool} {functor : Functor}
    {rest : List Functor} (idle : loop.calls owner = .idle)
    (place : loop.pc = .running final (functor :: rest)) :
    ({ loop with pc := .running final rest }.execute functor).Attentive := by
  obtain ⟨timerQueue, trace, same⟩ := execute_eq { loop with pc := .running final rest } functor
  have looping := attentive.looping
  have calling := attentive.calling
  rw [place] at looping calling
  rw [same]
  refine .goes idle (by simpa using looping) (by simpa using calling) (by simp) fun polls => ?_
  cases final with
  | false => exact attentive.heard (by rw [place]; rfl)
  | true => cases polls

theorem Attentive.moves {action : Action} (attentive : loop.Attentive)
    (announced : loop.Announced action) (moves : Moves loop action after) : after.Attentive := by
  cases moves with
  | queue idle place =>
      exact (attentive.setCall (by rw [idle]; rfl) _ fun own => .inr (place own)).proceeds
        rfl rfl rfl id .inl id
  | queueInLoop idle place =>
      exact (attentive.setCall (by rw [idle]; rfl) _ fun own => .inr (place own)).proceeds
        rfl rfl rfl id .inl id
  | quitInline => exact attentive.proceeds rfl rfl rfl (fun _ => rfl) .inl id
  | quitRemote remote idle =>
      exact (attentive.setCall (by rw [idle]; rfl) _ fun own => absurd own remote).proceeds
        rfl rfl rfl (fun _ => rfl) .inl id
  | addTimerInline => exact attentive.proceeds rfl rfl rfl id .inl id
  | addTimerRemote remote idle =>
      exact (attentive.setCall (by rw [idle]; rfl) _ fun own => absurd own remote).proceeds
        rfl rfl rfl id .inl id
  | cancelNothing => exact attentive
  | cancelInline => exact attentive.proceeds rfl rfl rfl id .inl id
  | cancelRemote remote idle =>
      exact (attentive.setCall (by rw [idle]; rfl) _ fun own => absurd own remote).proceeds
        rfl rfl rfl id .inl id
  | acquired call =>
      exact (attentive.setCall (by rw [call]; rfl) _ fun own => .inl (by simp [← own, call])).proceeds
        rfl rfl rfl id .inl id
  | rejected call =>
      exact (attentive.setCall (by rw [call]; rfl) _ fun own => .inl (by simp [← own, call])).proceeds
        rfl rfl rfl id .inl id
  | @pushed thread post call =>
      refine attentive.proceeds rfl rfl rfl id (fun busy => ?_) fun _ => .inr (.inr ⟨thread, ?_⟩)
      · exact .inl (setCall_busy (by simp [call]) busy)
      · simp [emit, setCall_self, Call.announcing]
  | announcing call =>
      refine attentive.proceeds rfl rfl rfl id (fun busy => ?_) fun _ => ?_
      · exact .inl (setCall_busy (by simp [call]) busy)
      · exact covered_of_announcing rfl
  | unannounced call calling looping => exact attentive.unannounced call calling looping announced
  | woken call =>
      refine attentive.proceeds rfl rfl rfl id (fun busy => ?_) fun _ => .inr (.inl rfl)
      exact .inl (setCall_busy (by simp [call]) busy)
  | released call =>
      exact (attentive.setCall (by rw [call]; rfl) _ fun own => .inl (by simp [← own, call])).proceeds
        rfl rfl rfl id .inl id
  | finished call =>
      exact attentive.setCall (by rw [call]; rfl) _ fun own => .inl (by simp [← own, call])
  | timerAdded call =>
      exact (attentive.setCall (by rw [call]; rfl) _ fun own => .inl (by simp [← own, call])).proceeds
        rfl rfl rfl id .inl id
  | returned call =>
      exact (attentive.setCall (by rw [call]; rfl) _ fun own => .inl (by simp [← own, call])).proceeds
        rfl rfl rfl id .inl id
  | quitted call =>
      exact (attentive.setCall (by rw [call]; rfl) _ fun own => .inl (by simp [← own, call])).proceeds
        rfl rfl rfl id .inl fun _ => .inr (.inl rfl)
  | turned idle turns => exact attentive.turned idle turns
  | looped idle place =>
      refine .goes idle (by simp) ?_ (by simp) fun _ => attentive.heard (by rw [place]; rfl)
      simpa [place] using attentive.calling
  | handledRead idle place =>
      refine .goes idle ?_ ?_ (by simp) (by simp [Pc.pollsNext])
      · simpa [place] using attentive.looping
      · simpa [place] using attentive.calling
  | expiring idle place =>
      refine .goes idle ?_ ?_ (by simp) (by simp [Pc.pollsNext])
      · simpa [place] using attentive.looping
      · simpa [place] using attentive.calling
  | started idle place =>
      refine .goes idle ?_ ?_ (by simp [emit]) (by simp [emit, Pc.pollsNext])
      · simpa [place, emit] using attentive.looping
      · simpa [place, emit] using attentive.calling
  | reset idle place =>
      refine .goes idle ?_ ?_ (by simp) (by simp [Pc.pollsNext])
      · simpa [place] using attentive.looping
      · simpa [place] using attentive.calling
  | swapped idle place =>
      refine .goes idle ?_ (by simp) (by simp) fun _ => .inr (.inl rfl)
      simpa [place] using attentive.looping
  | executed idle place => exact attentive.executed idle place
  | @called final idle place =>
      refine .goes idle ?_ (by simp) (by simp) fun polls => ?_
      · simpa [place] using attentive.looping
      · cases final with
        | false => exact attentive.heard (by rw [place]; rfl)
        | true => cases polls
  | closed idle place free empty =>
      refine .goes idle ?_ ?_ (by simp [emit]) fun _ => .inr (.inl empty)
      · simpa [place, emit] using attentive.looping
      · simpa [place, emit] using attentive.calling
  | left idle place =>
      refine .goes idle (by simp [emit]) ?_ (by simp [emit]) fun _ => ?_
      · simpa [place, emit] using attentive.calling
      · exact attentive.heard (by rw [place]; rfl)

theorem attentive_initial : ({} : Loop).Attentive :=
  ⟨by simp, by simp, by simp, by simp, fun _ => .inr (.inl rfl)⟩

end Loop

/-- In a run in which the owner is heard whenever it queues a functor from the
destruction of others, it never waits in a poll for which a functor is queued
and nobody is about to wake it. -/
theorem no_lost_wakeup {loop : Loop} (reach : Reach Loop.step Loop.Announced {} loop)
    (polling : loop.pc = .polling) (pending : loop.pendingFunctors ≠ []) :
    loop.wakeupReadable = true ∨
      ∃ thread, thread ≠ owner ∧ (loop.calls thread).announcing = true := by
  have attentive : loop.Attentive :=
    reach.invariant Loop.attentive_initial fun _ _ _ attentive announced taken =>
      attentive.moves announced (Loop.step_moves taken)
  rcases attentive.polling polling with empty | readable | ⟨thread, announcing⟩
  · exact absurd empty pending
  · exact .inl readable
  · refine .inr ⟨thread, fun own => ?_, announcing⟩
    -- the owner is in no call while it polls
    have code := attentive.within (by rw [← own]; intro idle; simp [idle, Call.announcing] at announcing)
    rw [polling] at code
    cases code

/-- Another thread has pushed a functor while the owner polls. -/
theorem no_lost_wakeup_remote_push :
    ∃ loop : Loop, run Loop.step {} [.loop, .next, .call 1 .queueInLoop, .proceed 1] = some loop ∧
      loop.wakeupReadable = false ∧ (loop.wakeupReadable = true ∨
        ∃ thread, thread ≠ owner ∧ (loop.calls thread).announcing = true) := by
  have final : ∃ loop : Loop,
      run Loop.step {} [.loop, .next, .call 1 .queueInLoop, .proceed 1] = some loop ∧
        loop.pc = .polling ∧ loop.pendingFunctors ≠ [] ∧ loop.wakeupReadable = false :=
    ⟨_, rfl, rfl, by simp [Loop.emit, Loop.setCall], rfl⟩
  obtain ⟨loop, ran, polling, pending, silent⟩ := final
  have reach : Reach Loop.step Loop.Announced {} loop :=
    .run .start (by simp [Loop.Announced, owner]) ran
  exact ⟨loop, ran, silent, no_lost_wakeup reach polling pending⟩

/-- What a functor captured queues another functor when it is destroyed. -/
def destructorQueues : List Action :=
  [.call owner .queueInLoop, .proceed owner, .proceed owner, .proceed owner, .proceed owner, .loop,
    .next, .poll true, .handleRead, .handleExpired 0, .next, .next, .next, .call owner .queueInLoop,
    .proceed owner, .proceed owner, .proceed owner, .next, .next]

theorem wakeup_lost_in_destruction :
    ∃ loop : Loop, run Loop.step {} destructorQueues = some loop ∧ loop.pc = .polling ∧
      loop.pendingFunctors = [{ id := 1, task := .user }] ∧ loop.wakeupReadable = false ∧
      loop.calls = fun _ => .idle := by
  refine ⟨_, rfl, rfl, rfl, rfl, ?_⟩
  funext thread
  cases thread <;> rfl

end MiniTrantor.Net.Reactor
