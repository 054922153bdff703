import MiniTrantor.Net.Idle.IdleTimers
import MiniTrantor.Reachability

/-!
# Steps of a connection with an idle timeout

What one step does, and what every step keeps: a consistent record of the
connection and the invariant of its idle timers. Once the wrappers have seen the
Disconnected notification no idle timer is remembered, as long as none of them
refreshes the timer of a closed connection.
-/

set_option autoImplicit false

namespace MiniTrantor.Net

open Trace (Follows)

variable {world : World}

/-! ## The record of the connection -/

def Event.isClosing (event : Event) : Bool := event == .setState .kDisconnected

/-- The close is in the record, and the Disconnected notification follows it. -/
structure Chronicled (conn : Conn) : Prop where
  shut : Shut conn.state conn.trace
  follows : Follows Event.isClosing Event.isDisconnected conn.trace

namespace Chronicled

variable {conn after : Conn} {events : List Event}

theorem silent (kept : Follows Event.isClosing Event.isDisconnected conn.trace)
    (trace : after.trace = conn.trace ++ events)
    (none : ∀ event ∈ events, event.isDisconnected = false) :
    Follows Event.isClosing Event.isDisconnected after.trace := by
  rw [trace]
  exact kept.silent none

theorem framed (kept : Follows Event.isClosing Event.isDisconnected conn.trace)
    (frame : Frame conn after events) : Follows Event.isClosing Event.isDisconnected after.trace := by
  refine silent kept frame.trace fun event member => ?_
  by_contra notified
  have same : event = .callback .disconnected := by simpa [Event.isDisconnected] using notified
  have loud := frame.quiet event member
  rw [same] at loud
  cases loud

end Chronicled

theorem chronicled : Invariant world true Chronicled := by
  have shut := @shut world
  constructor
  case move =>
    intro before after move kept
    obtain ⟨_, frame⟩ := move.frame
    exact ⟨shut.move move kept.shut, Chronicled.framed kept.follows frame⟩
  case take =>
    intro waiter awaitable before after takes kept
    refine ⟨shut.take takes kept.shut, ?_⟩
    cases takes <;> exact kept.follows
  case finish =>
    intro waiter before after finishes kept
    refine ⟨shut.finish finishes kept.shut, ?_⟩
    cases finishes with
    | complete _ _ => exact kept.follows
    | finish _ _ =>
        obtain ⟨_, _, _, _, finished⟩ := finishAwait_eq _ _ _
        rw [finished]
        exact Chronicled.silent kept.follows rfl (by simp [Event.isDisconnected])
  case dispatch =>
    intro _ before after move kept
    refine ⟨shut.dispatch rfl move kept.shut, ?_⟩
    cases move with
    | established => exact kept.follows
    | @dispatch callback dispatched _ _ =>
        refine Chronicled.silent kept.follows rfl ?_
        cases callback <;> simp [Event.isDisconnected, Callback.isDispatched] at dispatched ⊢
    | receive | interest | draining =>
        exact Chronicled.silent kept.follows rfl (by simp [Event.isDisconnected])
  case retrieve =>
    intro _ conn count writing kept
    exact ⟨shut.retrieve rfl writing kept.shut,
      Chronicled.silent kept.follows rfl (by simp [Event.isDisconnected])⟩
  case settle =>
    intro _ conn kept
    refine ⟨shut.settle rfl kept.shut, ?_⟩
    rcases settle_eq conn with same | settled
    · rw [same]
      exact kept.follows
    · rw [settled]
      exact Chronicled.silent kept.follows rfl (by simp [Event.isDisconnected])
  case close =>
    intro conn failed opened fails kept
    obtain ⟨_, frame⟩ := fails.frame
    exact ⟨shut.close opened fails kept.shut,
      Chronicled.silent (Chronicled.framed kept.follows frame) (shutChannel_trace failed)
        (by simp [Event.isDisconnected])⟩
  case disconnected =>
    intro conn closed kept
    refine ⟨shut.disconnected closed kept.shut, kept.follows.append fun _ _ _ => ?_⟩
    exact ⟨_, (kept.shut closed).1, by simp [Event.isClosing]⟩
  case closeCallback =>
    intro conn kept
    exact ⟨shut.closeCallback kept.shut,
      Chronicled.silent kept.follows rfl (by simp [Event.isDisconnected])⟩

/-- No state comes after the last one. -/
theorem StateE.last_of_closed {states : List StateE}
    (increasing : states.Pairwise fun earlier later => earlier.rank < later.rank)
    (member : .kDisconnected ∈ states) : states.getLast? = some .kDisconnected := by
  obtain ⟨before, after, rfl⟩ := List.append_of_mem member
  have beyond := (List.pairwise_cons.mp (List.pairwise_append.mp increasing).2.1).1
  cases after with
  | nil => exact List.getLast?_concat
  | cons next after =>
      have impossible := beyond next List.mem_cons_self
      cases next <;> exact absurd impossible (by decide)

/-- The state of the connection once the trace has notified of its end. -/
theorem Chronicled.closed {conn : Conn} (kept : Chronicled conn)
    (forward : ForwardSince [] conn.state conn.trace) {count : Nat}
    (notified : .callback .disconnected ∈ conn.trace.take count) :
    Idle.stateAfter (conn.trace.take count) = .kDisconnected := by
  obtain ⟨before, after, split⟩ := List.append_of_mem notified
  have whole : conn.trace =
      before ++ .callback .disconnected :: (after ++ conn.trace.drop count) := by
    rw [← List.cons_append, ← List.append_assoc, ← split, List.take_append_drop]
  obtain ⟨closing, early, isClosing⟩ := kept.follows before _ _ whole (by simp [Event.isDisconnected])
  obtain rfl : closing = .setState .kDisconnected := by simpa [Event.isClosing] using isClosing
  have increasing : (statesOf (conn.trace.take count)).Pairwise
      fun earlier later => earlier.rank < later.rank := by
    have all := (forward.whole rfl).increasing
    rw [← List.take_append_drop count conn.trace, statesOf_append] at all
    exact (List.pairwise_append.mp all).1
  have entered : .kDisconnected ∈ statesOf (conn.trace.take count) := by
    rw [split, statesOf_append]
    exact List.mem_append_left _ (List.mem_flatMap.mpr ⟨_, early, List.mem_cons_self⟩)
  rw [Idle.stateAfter, StateE.last_of_closed increasing entered]
  rfl

/-! ## Stretches of code -/

/-- The record goes on, and stays consistent. -/
structure Continues (before after : Conn) : Prop where
  recorded : Chronicled before → Chronicled after
  forward : ∀ past, ForwardSince past before.state before.trace →
    ForwardSince past after.state after.trace
  captured : (∀ waiter awaitable, Captured waiter awaitable before) →
    ∀ waiter awaitable, Captured waiter awaitable after
  extends_trace : ∃ later, after.trace = before.trace ++ later

namespace Continues

variable {first second third : Conn}

theorem refl (conn : Conn) : Continues conn conn := ⟨id, fun _ => id, id, [], by simp⟩

theorem trans (front : Continues first second) (back : Continues second third) :
    Continues first third := by
  refine ⟨back.recorded ∘ front.recorded, fun past => back.forward past ∘ front.forward past,
    back.captured ∘ front.captured, ?_⟩
  obtain ⟨middle, front⟩ := front.extends_trace
  obtain ⟨later, back⟩ := back.extends_trace
  exact ⟨middle ++ later, by rw [back, front, List.append_assoc]⟩

theorem of_ran {scope : Scope} (ran : Ran world scope first second) : Continues first second where
  recorded := Net.chronicled.ran ran fun _ => rfl
  forward := fun past => (Net.forward past).ran ran fun _ => rfl
  captured := fun armed waiter awaitable =>
    (Net.captured waiter awaitable).ran ran (fun _ => rfl) (armed waiter awaitable)
  extends_trace := ran.trace_extends

theorem step (world : World) (depth : Nat) (step : Step) {conn : Conn}
    (armed : ∀ waiter awaitable, Captured waiter awaitable conn) :
    Continues conn (step.take world depth conn) :=
  of_ran (Step.take_ran world depth step armed)

/-- User operations, one after the other. -/
theorem calls (world : World) (depth : Nat) (ops : List Op) (conn : Conn)
    (armed : ∀ waiter awaitable, Captured waiter awaitable conn) :
    Continues conn (ops.foldl (fun conn op => Step.take world depth (.call op) conn) conn) := by
  induction ops generalizing conn with
  | nil => exact refl conn
  | cons op ops ih =>
      have first := step world depth (.call op) armed
      exact first.trans (ih _ (first.captured armed))

theorem hookAndClose (world : World) (depth : Nat) (hook : List Op) (conn : Conn)
    (armed : ∀ waiter awaitable, Captured waiter awaitable conn) :
    Continues conn (ServerConnection.hookAndClose world depth hook conn) := by
  have hooked := calls world depth hook conn armed
  exact hooked.trans (step world depth _ (hooked.captured armed))

end Continues

namespace ServerConnection

open Idle
open TimerQueue (Live)

variable {application : Application} {depth : Nat} {clock : Nat → Int}
  {server next : ServerConnection} {action : Action}

/-! ## Steps -/

/-- What the steps do. -/
inductive Moved (application : Application) (depth : Nat) (clock : Nat → Int)
    (server : ServerConnection) : Action → ServerConnection → Prop where
  | wrapper {event : Event} (seen : server.conn.trace[server.handled]? = some event) :
      Moved application depth clock server .wrapper
        { server with
          handled := server.handled + 1
          timers := Idle.wrapper (stateAfter (server.conn.trace.take server.handled))
            (clock server.handled) event server.timers }
  | step {step : Step} (settled : server.handled = server.conn.trace.length)
      (allowed : allowed step = true) (next : server.expiry = none ∨ calls step = true) :
      Moved application depth clock server (.step step)
        { server with conn := step.take application.world depth server.conn }
  | addTimer {expiration interval : Int} :
      Moved application depth clock server (.addTimer expiration interval)
        { server with timers := { server.timers with
          timerQueue := server.timers.timerQueue.addTimer expiration interval } }
  | cancel {id : Nat} (foreign : server.generation id = none) :
      Moved application depth clock server (.cancel id)
        { server with timers := { server.timers with
          timerQueue := server.timers.timerQueue.cancelInLoop id } }
  | getExpired {now : Int} (settled : server.handled = server.conn.trace.length)
      (between : server.expiry = none) (read : now ≤ clock server.handled) :
      Moved application depth clock server (.getExpired now)
        { server with
          timers := { server.timers with
            timerQueue := (server.timers.timerQueue.getExpired now).2 }
          expiry := some
            { now
              expired := (server.timers.timerQueue.getExpired now).1
              rest := (server.timers.timerQueue.getExpired now).1 } }
  /-- The timer was canceled, is another's or has captured an older generation. -/
  | passOver {now : Int} {expired rest : List TimerPtr} {id : Nat} {connection : Bool}
      {hook : List Op} (expiring : server.expiry = some ⟨now, expired, id :: rest⟩) :
      Moved application depth clock server (.expire connection hook)
        { server with expiry := some ⟨now, expired, rest⟩ }
  | expire {now : Int} {expired rest : List TimerPtr} {id : Nat} {connection : Bool}
      {hook : List Op} {conn : Conn} (expiring : server.expiry = some ⟨now, expired, id :: rest⟩)
      (settled : server.handled = server.conn.trace.length)
      (own : server.generation id = some server.timers.idleState.generation)
      (keeps : hook.all keepsWrappers = true)
      (ran : conn = sync application.world server.conn ∨
        (sync application.world server.conn).state = .kConnected ∧
          conn = hookAndClose application.world depth hook (sync application.world server.conn)) :
      Moved application depth clock server (.expire connection hook)
        { server.disarm with conn, expiry := some ⟨now, expired, rest⟩ }
  | reset {now last : Int} {expired : List TimerPtr} (settled : server.handled = server.conn.trace.length)
      (expiring : server.expiry = some ⟨last, expired, []⟩) :
      Moved application depth clock server (.reset now)
        { server with
          timers := { server.timers with
            timerQueue := server.timers.timerQueue.reset expired now }
          expiry := none }

theorem settled_iff : server.settled = true ↔ server.handled = server.conn.trace.length := by
  simp [settled]

theorem step_cases (stepped : step application depth clock server action = some next) :
    Moved application depth clock server action next := by
  cases action with
  | wrapper =>
      simp only [step] at stepped
      split at stepped
      · cases stepped
      · cases stepped
        exact .wrapper ‹_›
  | step step =>
      obtain ⟨guard, taken⟩ := Option.ite_none_right_eq_some.mp stepped
      cases taken
      simp only [Bool.and_eq_true, Bool.or_eq_true, Option.isNone_iff_eq_none] at guard
      exact .step (settled_iff.mp guard.1.1) guard.1.2 guard.2
  | addTimer expiration interval =>
      cases stepped
      exact .addTimer
  | cancel id =>
      simp only [step] at stepped
      split at stepped
      · cases stepped
      case isFalse foreign =>
        cases stepped
        exact .cancel (by simpa using foreign)
  | getExpired now =>
      obtain ⟨guard, taken⟩ := Option.ite_none_right_eq_some.mp stepped
      cases taken
      simp only [Bool.and_eq_true, Option.isNone_iff_eq_none, decide_eq_true_eq] at guard
      exact .getExpired (settled_iff.mp guard.1.1) guard.1.2 guard.2
  | expire connection hook =>
      simp only [step] at stepped
      split at stepped
      case h_2 => cases stepped
      case h_1 now expired id rest expiring =>
        obtain ⟨guard, fired⟩ := Option.ite_none_right_eq_some.mp stepped
        simp only [Bool.and_eq_true] at guard
        split at fired
        · cases fired
          exact .passOver expiring
        · split at fired
          · cases fired
            exact .passOver expiring
          case h_2 generation captured =>
            cases fired
            simp only [timerCallback]
            split
            · exact .passOver expiring
            case isFalse current =>
              have own : server.generation id = some server.timers.idleState.generation := by
                rw [captured, not_ne_iff.mp current]
              split
              · exact .expire expiring (settled_iff.mp guard.1) own guard.2 (.inl rfl)
              case isFalse alive =>
                have connected : (sync application.world server.conn).state = .kConnected := by
                  by_contra other
                  exact alive (by simp [disarm, other])
                exact .expire expiring (settled_iff.mp guard.1) own guard.2 (.inr ⟨connected, rfl⟩)
  | reset now =>
      simp only [step] at stepped
      split at stepped
      case h_2 => cases stepped
      case h_1 expiring =>
        obtain ⟨guard, taken⟩ := Option.ite_none_right_eq_some.mp stepped
        cases taken
        exact .reset (settled_iff.mp guard) expiring

/-! ## What every step keeps -/

/-- The timers that are expiring. -/
def batch (server : ServerConnection) : List TimerPtr := (server.expiry.map Expiry.expired).getD []

structure Consistent (server : ServerConnection) : Prop where
  recorded : Chronicled server.conn
  captured : ∀ waiter awaitable, Captured waiter awaitable server.conn
  handled : server.handled ≤ server.conn.trace.length
  positive : 0 < server.timers.idleState.timeout
  keeps : Keeps server.batch server.timers
  rest : ∀ expiry ∈ server.expiry, expiry.rest ⊆ expiry.expired

theorem mem_captured {id generation : Nat} (captured : server.generation id = some generation) :
    (id, generation) ∈ server.timers.captured := by
  obtain ⟨before, after, split, _⟩ := List.lookup_eq_some_iff.mp captured
  rw [split]
  exact List.mem_append_right _ List.mem_cons_self

theorem ne_of_foreign {id : Nat} (foreign : server.generation id = none) :
    ∀ pair ∈ server.timers.captured, pair.1 ≠ id := by
  intro pair member same
  have other := List.lookup_eq_none_iff.mp foreign pair member
  simp [same] at other

namespace Consistent

theorem create {setup : Setup} {timeout : Int} (positive : 0 < timeout) :
    Consistent (create setup application depth timeout) where
  recorded := by
    refine Net.chronicled.run ⟨by rintro ⟨⟩, .of_none (by rintro _ ⟨⟩)⟩
      (fun conn transport _ kept => ⟨by rintro ⟨⟩, ?_⟩) depth []
    rw [establish_trace]
    exact kept.follows.silent (by simp [Event.isDisconnected])
  captured := (served setup).captured_established application.world depth
  handled := Nat.zero_le _
  positive := positive
  keeps := Keeps.start timeout
  rest := by simp [ServerConnection.create]

/-- The connection goes on, with timers in order. -/
theorem continues (kept : Consistent server) {conn : Conn} (continues : Continues server.conn conn)
    {timers : IdleTimers} {expiry : Option Idle.Expiry}
    (same : timers.idleState.timeout = server.timers.idleState.timeout)
    (keeps : Keeps ((expiry.map Expiry.expired).getD []) timers)
    (rest : ∀ current ∈ expiry, current.rest ⊆ current.expired) :
    Consistent { server with conn, timers, expiry } where
  recorded := continues.recorded kept.recorded
  captured := continues.captured kept.captured
  handled := by
    obtain ⟨later, trace⟩ := continues.extends_trace
    rw [trace, List.length_append]
    exact Nat.le_add_right_of_le kept.handled
  positive := by
    rw [same]
    exact kept.positive
  keeps := keeps
  rest := rest

theorem called (kept : Consistent server) {conn : Conn} {hook : List Op}
    (ran : conn = sync world server.conn ∨
      (sync world server.conn).state = .kConnected ∧
        conn = ServerConnection.hookAndClose world depth hook (sync world server.conn)) :
    Continues server.conn conn := by
  have synced : Continues server.conn (sync world server.conn) :=
    .of_ran (@sync_ran world .user server.conn)
  rcases ran with rfl | ⟨_, rfl⟩
  · exact synced
  · exact synced.trans (.hookAndClose world depth hook _ (synced.captured kept.captured))

theorem continued (kept : Consistent server)
    (moved : Moved application depth clock server action next) :
    Continues server.conn next.conn := by
  cases moved with
  | wrapper | addTimer | cancel | getExpired | passOver | reset => exact .refl _
  | step _ _ _ => exact .step _ depth _ kept.captured
  | expire _ _ _ _ ran => exact kept.called ran

/-- The step lemma. -/
theorem moved (kept : Consistent server) (moved : Moved application depth clock server action next) :
    Consistent next := by
  cases moved with
  | @wrapper event seen =>
      obtain ⟨within, _⟩ := List.getElem?_eq_some_iff.mp seen
      have positive := kept.positive
      rw [← wrapper_timeout (stateAfter (server.conn.trace.take server.handled))
        (clock server.handled) event] at positive
      exact ⟨kept.recorded, kept.captured, within, positive, kept.keeps.wrapper _ _ event,
        kept.rest⟩
  | step _ _ _ =>
      exact kept.continues (Continues.step _ depth _ kept.captured) rfl kept.keeps kept.rest
  | addTimer =>
      exact kept.continues (.refl _) rfl (kept.keeps.addTimer _ _) kept.rest
  | cancel foreign =>
      exact kept.continues (.refl _) rfl (kept.keeps.cancel (ne_of_foreign foreign)) kept.rest
  | getExpired _ between _ =>
      have keeps := kept.keeps
      rw [batch, between] at keeps
      refine kept.continues (.refl _) rfl (keeps.getExpired _) fun current expiring => ?_
      cases expiring
      exact List.Subset.refl _
  | passOver expiring =>
      have keeps := kept.keeps
      have rest := kept.rest _ expiring
      rw [batch, expiring] at keeps
      refine kept.continues (.refl _) rfl keeps fun current expiring => ?_
      cases expiring
      exact List.subset_of_cons_subset rest
  | expire expiring _ own _ ran =>
      have keeps := kept.keeps
      have rest := kept.rest _ expiring
      rw [batch, expiring] at keeps
      refine kept.continues (kept.called ran) rfl
        (keeps.disarm (rest List.mem_cons_self) (mem_captured own)) fun current expiring => ?_
      cases expiring
      exact List.subset_of_cons_subset rest
  | reset _ expiring =>
      have keeps := kept.keeps
      rw [batch, expiring] at keeps
      exact kept.continues (.refl _) rfl (keeps.reset _) (by simp)

end Consistent

end ServerConnection

end MiniTrantor.Net
