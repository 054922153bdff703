import MiniTrantor.Mailbox
import MiniTrantor.Net.Loop.Moves

/-!
# Posting to an event loop

The pending functors are a mailbox that the owner closes at its final check:
`LoopHandle::queue` asks under the posting lock, `queueInLoop` does not ask. What
the mailbox promises its producers holds of every run of the loop.
-/

set_option autoImplicit false

namespace MiniTrantor.Net.Reactor

open Mailbox

def Call.stage : Call → Stage Nat
  | .idle | .quitting => .away
  | .acquiring functor => .asking functor.id
  | .pushing post => .posting post.functor.id post.handle
  | .testing post | .waking post | .finishing post => .posted post.functor.id post.handle
  | .returning functor => .released functor.id

def Event.mail? : Event → Option (Mailbox.Event Nat)
  | .called id handle => some (.asked id handle)
  | .pushed id handle => some (.pushed id handle)
  | .executed id => some (.taken id)
  | .returned id accepted => some (.answered id accepted)
  | .closed => some .closed
  | .loopReturned => some .left
  | .timerReturned _ | .cancelled _ | .started _ => none

/-- What the history of a loop says about its mailbox. -/
def mail (trace : List Event) : List (Mailbox.Event Nat) := trace.filterMap Event.mail?

@[simp] theorem mail_append (first second : List Event) :
    mail (first ++ second) = mail first ++ mail second := List.filterMap_append

def Loop.mailbox (loop : Loop) : State Thread Nat where
  stage := fun thread => (loop.calls thread).stage
  holder := loop.postingLock
  isOpen := loop.posting
  items := loop.queued.map Functor.id
  history := mail loop.trace

/-- Ids are given out in order, and the owner leaves when it has closed. -/
structure Loop.Numbered (loop : Loop) : Prop where
  old : ∀ id handle, .called id handle ∈ loop.trace → id < loop.nextFunctor
  closed : loop.pc = .leaving → .closed ∈ loop.trace

theorem Turns.stays {loop : Loop} {action : Action} {pc : Pc}
    (turns : Turns loop action pc) : pc ≠ .leaving := by
  cases turns with
  | @empty final => cases final <;> simp [Pc.drained]
  | @destroyed final => cases final <;> simp [Pc.drained]
  | _ => simp

namespace Loop

variable {loop after : Loop} {thread : Thread}

theorem setCall_mailbox (loop : Loop) (thread : Thread) (call : Call) :
    (loop.setCall thread call).mailbox = loop.mailbox.enter thread call.stage := by
  have stage : (fun other => (Function.update loop.calls thread call other).stage) =
      Function.update (fun other => (loop.calls other).stage) thread call.stage := by
    funext other
    rw [Function.update_apply, Function.update_apply]
    split <;> rfl
  simp only [mailbox, queued, setCall, State.enter, stage]

theorem emit_mailbox (loop : Loop) (event : Event) :
    (loop.emit event).mailbox = { loop.mailbox with history := mail loop.trace ++ mail [event] } := by
  simp only [mailbox, queued, emit, mail_append]

theorem emit_mailbox_silent (loop : Loop) {event : Event} (silent : event.mail? = none) :
    (loop.emit event).mailbox = loop.mailbox := by
  simp [mailbox, queued, emit, mail, silent]

theorem setCall_mailbox_same {call : Call} (same : call.stage = (loop.calls thread).stage) :
    (loop.setCall thread call).mailbox = loop.mailbox := by
  rw [setCall_mailbox, same]
  have stage : Function.update loop.mailbox.stage thread (loop.calls thread).stage =
      loop.mailbox.stage := Function.update_eq_self thread loop.mailbox.stage
  rw [State.enter, stage]

theorem Numbered.fresh (numbered : loop.Numbered) (handle : Bool) :
    .asked loop.nextFunctor handle ∉ loop.mailbox.history := by
  intro asked
  obtain ⟨event, member, same⟩ := List.mem_filterMap.mp asked
  cases event <;> cases same
  exact absurd (numbered.old _ _ member) (Nat.lt_irrefl _)

theorem queue_mailbox (numbered : loop.Numbered) (idle : loop.calls thread = .idle) :
    Mailbox.Move loop.mailbox (loop.queue thread).mailbox := by
  rw [queue, emit_mailbox, setCall_mailbox]
  exact .ask (by simp [mailbox, queued, idle, Call.stage]) numbered.fresh

theorem queueInLoop_mailbox (numbered : loop.Numbered) (idle : loop.calls thread = .idle)
    (task : Task) : Mailbox.Move loop.mailbox (loop.queueInLoop thread task).mailbox := by
  rw [queueInLoop, emit_mailbox, setCall_mailbox]
  exact .barge (by simp [mailbox, queued, idle, Call.stage]) numbered.fresh

theorem execute_mailbox {final : Bool} {functor : Functor} {rest : List Functor}
    (place : loop.pc = .running final (functor :: rest)) :
    Mailbox.Move loop.mailbox ({ loop with pc := .running final rest }.execute functor).mailbox := by
  have taken : ({ loop with pc := .running final rest }.execute functor).mailbox =
      { loop.mailbox with
        items := (rest ++ loop.pendingFunctors).map Functor.id
        history := mail loop.trace ++ [.taken functor.id] } := by
    cases task : functor.task <;>
      simp [execute, task, emit, cancelInLoop, mailbox, queued, Pc.batch, mail, Event.mail?]
  rw [taken]
  exact .take (by simp [mailbox, queued, place, Pc.batch])

/-- Every step of the loop is a move of its mailbox or leaves it alone. -/
theorem mailbox_moves {action : Action} (numbered : loop.Numbered) (moves : Moves loop action after) :
    Relation.ReflGen Mailbox.Move loop.mailbox after.mailbox := by
  have same : ∀ {other : Loop}, other.mailbox = loop.mailbox →
      Relation.ReflGen Mailbox.Move loop.mailbox other.mailbox := by
    intro other equal
    rw [equal]
  cases moves with
  | queue idle _ => exact .single (queue_mailbox numbered idle)
  | queueInLoop idle _ => exact .single (queueInLoop_mailbox numbered idle .user)
  | quitInline => exact .refl
  | quitRemote _ idle => exact same (setCall_mailbox_same (by simp [idle, Call.stage]))
  | addTimerInline => exact same (emit_mailbox_silent _ rfl)
  | @addTimerRemote thread expiration interval _ idle =>
      let allocated := { loop with timerQueue := loop.timerQueue.allocate expiration interval }
      have numbered : allocated.Numbered := ⟨numbered.old, numbered.closed⟩
      exact .single (queueInLoop_mailbox numbered idle _)
  | cancelNothing => exact .refl
  | cancelInline => exact same (emit_mailbox_silent _ rfl)
  | cancelRemote _ idle => exact .single (queueInLoop_mailbox numbered idle _)
  | acquired call free posting =>
      refine .single ?_
      rw [setCall_mailbox]
      exact .acquire (by simp [mailbox, queued, call, Call.stage]) free posting
  | rejected call free closed =>
      refine .single ?_
      rw [emit_mailbox, setCall_mailbox]
      exact .refuse (by simp [mailbox, queued, call, Call.stage]) closed
  | @pushed thread post call =>
      refine .single ?_
      have put : { loop with pendingFunctors := loop.pendingFunctors ++ [post.functor] }.mailbox =
          { loop.mailbox with items := loop.mailbox.items ++ [post.functor.id] } := by
        simp [mailbox, queued]
      rw [emit_mailbox, setCall_mailbox, put]
      exact .push (by simp [mailbox, queued, call, Call.stage])
  | announcing call => exact same (setCall_mailbox_same (by simp [call, Call.stage]))
  | unannounced call => exact same (setCall_mailbox_same (by simp [call, Call.stage]))
  | woken call => exact same (setCall_mailbox_same (by simp [call, Call.stage]))
  | released call handle =>
      refine .single ?_
      rw [setCall_mailbox]
      exact .release (by simp [mailbox, queued, call, Call.stage, handle])
  | finished call handle =>
      refine .single ?_
      rw [setCall_mailbox]
      exact .depart (by simp [mailbox, queued, call, Call.stage, handle]; rfl)
  | timerAdded call handle =>
      refine .single ?_
      rw [emit_mailbox_silent _ rfl, setCall_mailbox]
      exact .depart (by simp [mailbox, queued, call, Call.stage, handle]; rfl)
  | returned call =>
      refine .single ?_
      rw [emit_mailbox, setCall_mailbox]
      exact .answer (by simp [mailbox, queued, call, Call.stage])
  | quitted call => exact same (setCall_mailbox_same (by simp [call, Call.stage]))
  | turned _ turns => exact same (by simp only [mailbox, queued, turns.batch])
  | looped _ place => exact same (by simp [mailbox, queued, place, Pc.batch])
  | handledRead _ place => exact same (by simp [mailbox, queued, place, Pc.batch])
  | expiring _ place => exact same (by simp [mailbox, queued, place, Pc.batch])
  | started _ place => exact same (by simp [mailbox, queued, place, Pc.batch, emit, mail, Event.mail?])
  | reset _ place => exact same (by simp [mailbox, queued, place, Pc.batch])
  | swapped _ place => exact same (by simp [mailbox, queued, place, Pc.batch])
  | executed _ place => exact .single (execute_mailbox place)
  | called _ place => exact same (by simp [mailbox, queued, place, Pc.batch])
  | closed _ place free empty =>
      refine .single ?_
      have shut : ({ loop with posting := false, pc := .leaving }.emit .closed).mailbox =
          { loop.mailbox with isOpen := false, history := loop.mailbox.history ++ [.closed] } := by
        simp [mailbox, queued, emit, mail, Event.mail?, place, Pc.batch]
      rw [shut]
      exact .close free (by simp [mailbox, queued, place, Pc.batch, empty])
  | left _ place =>
      refine .single ?_
      have out : ({ loop with looping := false, pc := .outside }.emit .loopReturned).mailbox =
          { loop.mailbox with history := loop.mailbox.history ++ [.left] } := by
        simp [mailbox, queued, emit, mail, Event.mail?, place, Pc.batch]
      rw [out]
      exact .leave (List.mem_filterMap.mpr ⟨_, numbered.closed place, rfl⟩)

/-- A step that says something. -/
theorem Numbered.tells (numbered : loop.Numbered) {event : Event}
    (trace : after.trace = loop.trace ++ [event]) (next : loop.nextFunctor ≤ after.nextFunctor)
    (called : ∀ id handle, event = .called id handle → id < after.nextFunctor)
    (place : after.pc = .leaving → loop.pc = .leaving ∨ event = .closed) : after.Numbered := by
  constructor
  · intro id handle member
    rw [trace] at member
    rcases List.mem_append.mp member with before | last
    · exact Nat.lt_of_lt_of_le (numbered.old id handle before) next
    · exact called id handle (List.mem_singleton.mp last).symm
  · intro leaving
    rw [trace]
    rcases place leaving with before | last
    · exact List.mem_append_left _ (numbered.closed before)
    · simp [last]

/-- A step that says nothing. -/
theorem Numbered.silent (numbered : loop.Numbered) (trace : after.trace = loop.trace)
    (next : after.nextFunctor = loop.nextFunctor)
    (place : after.pc = .leaving → loop.pc = .leaving) : after.Numbered := by
  constructor
  · rw [trace, next]
    exact numbered.old
  · intro leaving
    rw [trace]
    exact numbered.closed (place leaving)

theorem Numbered.execute (numbered : loop.Numbered) {final : Bool} {functor : Functor}
    {rest : List Functor} : ({ loop with pc := .running final rest }.execute functor).Numbered := by
  have executed : ({ loop with pc := .running final rest }.emit (.executed functor.id)).Numbered :=
    numbered.tells rfl (Nat.le_refl _) (by simp) (by simp [emit])
  rw [Loop.execute]
  split
  · exact executed
  · exact executed.silent rfl rfl (by simp [emit])
  · exact executed.tells rfl (Nat.le_refl _) (by simp) (by simp [emit, cancelInLoop])

theorem Numbered.moves {action : Action} (numbered : loop.Numbered)
    (moves : Moves loop action after) : after.Numbered := by
  cases moves with
  | queue => exact numbered.tells rfl (Nat.le_succ _) (by simp [queue, emit, setCall]) .inl
  | queueInLoop => exact numbered.tells rfl (Nat.le_succ _) (by simp [queueInLoop, emit, setCall]) .inl
  | addTimerInline => exact numbered.tells rfl (Nat.le_refl _) (by simp) .inl
  | addTimerRemote =>
      exact numbered.tells rfl (Nat.le_succ _) (by simp [queueInLoop, emit, setCall]) .inl
  | cancelInline => exact numbered.tells rfl (Nat.le_refl _) (by simp) .inl
  | cancelRemote => exact numbered.tells rfl (Nat.le_succ _) (by simp [queueInLoop, emit, setCall]) .inl
  | rejected => exact numbered.tells rfl (Nat.le_refl _) (by simp) .inl
  | pushed => exact numbered.tells rfl (Nat.le_refl _) (by simp) .inl
  | timerAdded => exact numbered.tells rfl (Nat.le_refl _) (by simp) .inl
  | returned => exact numbered.tells rfl (Nat.le_refl _) (by simp) .inl
  | turned _ turns => exact numbered.silent rfl rfl fun leaving => absurd leaving turns.stays
  | looped => exact numbered.silent rfl rfl (by simp)
  | handledRead => exact numbered.silent rfl rfl (by simp)
  | expiring => exact numbered.silent rfl rfl (by simp)
  | started => exact numbered.tells rfl (Nat.le_refl _) (by simp) (by simp [emit])
  | reset => exact numbered.silent rfl rfl (by simp)
  | swapped => exact numbered.silent rfl rfl (by simp)
  | executed => exact numbered.execute
  | called => exact numbered.silent rfl rfl (by simp)
  | closed => exact numbered.tells rfl (Nat.le_refl _) (by simp) (by simp)
  | left => exact numbered.tells rfl (Nat.le_refl _) (by simp) (by simp [emit])
  | _ => exact numbered.silent rfl rfl fun leaving => leaving

/-- Every run of the loop is a run of its mailbox. -/
theorem mailbox_run {permitted : Loop → Action → Prop} (reach : Reach step permitted {} loop) :
    loop.Numbered ∧ Relation.ReflTransGen Mailbox.Move {} loop.mailbox := by
  induction reach with
  | start => exact ⟨⟨by simp, by simp⟩, .refl⟩
  | step _ _ taken ih =>
      obtain ⟨numbered, moves⟩ := ih
      have moved := step_moves taken
      exact ⟨numbered.moves moved, moves.trans (mailbox_moves numbered moved).to_reflTransGen⟩

theorem mailbox_sound {permitted : Loop → Action → Prop} (reach : Reach step permitted {} loop) :
    Sound loop.mailbox :=
  Sound.of_moves (mailbox_run reach).2

end Loop

/-! ## The contract -/

def Event.pushed? : Event → Option Nat
  | .pushed id _ => some id
  | _ => none

def Event.executed? : Event → Option Nat
  | .executed id => some id
  | _ => none

/-- The functors in the order in which they entered the queue. -/
def pushedIds (trace : List Event) : List Nat := trace.filterMap Event.pushed?

/-- The functors in the order in which they ran. -/
def executedIds (trace : List Event) : List Nat := trace.filterMap Event.executed?

theorem pushedItems_mail (trace : List Event) : pushedItems (mail trace) = pushedIds trace := by
  rw [pushedItems, mail, pushedIds, List.filterMap_filterMap]
  congr 1
  funext event
  cases event <;> rfl

theorem takenItems_mail (trace : List Event) : takenItems (mail trace) = executedIds trace := by
  rw [takenItems, mail, executedIds, List.filterMap_filterMap]
  congr 1
  funext event
  cases event <;> rfl

theorem mem_mail {trace : List Event} {event : Event} {said : Mailbox.Event Nat}
    (mails : event.mail? = some said) : said ∈ mail trace ↔ event ∈ trace := by
  rw [mail, List.mem_filterMap]
  constructor
  · intro found
    obtain ⟨other, member, same⟩ := found
    have equal : other = event := by
      cases other <;> cases event <;> simp_all [Event.mail?]
      all_goals aesop
    rwa [← equal]
  · intro member
    exact ⟨event, member, mails⟩

theorem count_executed (trace : List Event) (id : Nat) :
    trace.count (.executed id) = (executedIds trace).count id := by
  induction trace with
  | nil => rfl
  | cons event rest ih =>
      rw [executedIds] at ih
      cases event <;>
        simp [executedIds, Event.executed?, List.count_cons, List.filterMap_cons, ih]

/-- What `LoopHandle::queue` promises, read off the history of a run. -/
structure PostingContract (loop : Loop) : Prop where
  order : executedIds loop.trace <+: pushedIds loop.trace
  once : ∀ id, loop.trace.count (.executed id) ≤ 1
  owner : ∀ action next id, loop.step action = some next → .executed id ∈ next.trace →
    .executed id ∈ loop.trace ∨ action = .next
  drained : ∀ before after, loop.trace = before ++ .loopReturned :: after →
    ∀ id, .returned id true ∈ loop.trace → .executed id ∈ before
  closed : ∀ before after, loop.trace = before ++ .closed :: after →
    ∀ id, .called id true ∈ after → .returned id true ∉ loop.trace ∧ .executed id ∉ loop.trace
  refused : ∀ id, .returned id false ∈ loop.trace → .executed id ∉ loop.trace

/-- Functors run in steps of the owner's `loop()` only. -/
theorem executed_moves {loop after : Loop} {action : Action} {id : Nat}
    (moves : Moves loop action after) (executed : .executed id ∈ after.trace) :
    .executed id ∈ loop.trace ∨ action = .next := by
  have said : ∀ event, event ≠ .executed id → .executed id ∈ loop.trace ++ [event] →
      .executed id ∈ loop.trace := by
    intro event different member
    simpa [different.symm] using member
  cases moves with
  | queue => exact .inl (said _ (by simp) executed)
  | queueInLoop => exact .inl (said _ (by simp) executed)
  | addTimerInline => exact .inl (said _ (by simp) executed)
  | addTimerRemote => exact .inl (said _ (by simp) executed)
  | cancelInline => exact .inl (said _ (by simp) executed)
  | cancelRemote => exact .inl (said _ (by simp) executed)
  | rejected => exact .inl (said _ (by simp) executed)
  | pushed => exact .inl (said _ (by simp) executed)
  | timerAdded => exact .inl (said _ (by simp) executed)
  | returned => exact .inl (said _ (by simp) executed)
  | started => exact .inl (said _ (by simp) executed)
  | executed => exact .inr rfl
  | closed => exact .inr rfl
  | left => exact .inr rfl
  | _ => exact .inl executed

/-- However the threads interleave, functors run in the order of the queue, each
at most once and on the owner; every functor that `LoopHandle::queue` accepted
has run when `loop()` returns, and none that it refused ever does. -/
theorem posting_contract {loop : Loop} (reach : Reach Loop.step (fun _ _ => True) {} loop) :
    PostingContract loop := by
  have sound := Loop.mailbox_sound reach
  have order : executedIds loop.trace <+: pushedIds loop.trace := by
    have taken := sound.taken_prefix
    rwa [Loop.mailbox, takenItems_mail, pushedItems_mail] at taken
  refine ⟨order, ?_, ?_, ?_, ?_, ?_⟩
  · intro id
    have distinct := sound.distinct
    rw [Loop.mailbox, pushedItems_mail] at distinct
    rw [count_executed]
    exact List.nodup_iff_count_le_one.mp (distinct.sublist order.sublist) id
  · intro action next id taken executed
    exact executed_moves (Loop.step_moves taken) executed
  · intro before after left id accepted
    rw [← @mem_mail _ (.executed id) _ rfl]
    refine @Sound.taken_of_accepted _ _ _ sound _ (mail after) id ?_ ((mem_mail rfl).mpr accepted)
    rw [Loop.mailbox, left, mail_append]
    rfl
  · intro before after closed id called
    have history : loop.mailbox.history = mail before ++ .closed :: mail after := by
      rw [Loop.mailbox, closed, mail_append]
      rfl
    have outside := sound.not_pushed_of_asked_closed history ((mem_mail rfl).mpr called)
    constructor
    · intro accepted
      have pushed := sound.accepted id (.inr ((mem_mail rfl).mpr accepted))
      exact outside (mem_pushedItems.mpr ⟨true, pushed⟩)
    · intro executed
      refine outside (sound.taken_prefix.subset ?_)
      exact mem_takenItems.mpr ((mem_mail rfl).mpr executed)
  · intro id refused executed
    exact sound.not_taken_of_refused ((mem_mail rfl).mpr refused) ((mem_mail rfl).mpr executed)

/-- A functor posted before the loop runs posts another in the final drain; a
call that comes between the close and the return is refused. -/
def finalDrain : List Action :=
  [.call 1 .queue, .proceed 1, .proceed 1, .proceed 1, .proceed 1, .loop, .call 2 .quit,
    .proceed 2, .proceed 1, .proceed 1, .next, .next, .next, .call owner .queue,
    .proceed owner, .proceed owner, .proceed owner, .proceed owner, .proceed owner,
    .proceed owner, .next, .next, .next, .next, .next, .next, .next, .next, .next,
    .call 3 .queue, .proceed 3, .next]

theorem posting_contract_final_drain :
    ∃ loop : Loop, run Loop.step {} finalDrain = some loop ∧
      loop.trace =
        [.called 0 true, .pushed 0 true, .returned 0 true, .called 1 true, .pushed 1 true,
          .returned 1 true, .executed 0, .executed 1, .closed, .called 2 true, .returned 2 false,
          .loopReturned] ∧
      PostingContract loop := by
  have final : ∃ loop : Loop, run Loop.step {} finalDrain = some loop ∧ loop.trace =
      [.called 0 true, .pushed 0 true, .returned 0 true, .called 1 true, .pushed 1 true,
        .returned 1 true, .executed 0, .executed 1, .closed, .called 2 true, .returned 2 false,
        .loopReturned] := ⟨_, rfl, rfl⟩
  obtain ⟨loop, ran, trace⟩ := final
  exact ⟨loop, ran, trace, posting_contract (.run .start (by simp) ran)⟩

end MiniTrantor.Net.Reactor
