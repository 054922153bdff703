import MiniTrantor.Net.Idle.Steps

/-!
# Idle timers after the end of the connection

At most one idle timer of a connection is in the timer queue of its loop. The
Disconnected notification cancels it, but a write-complete functor that was queued
before, or the message of a connection whose error closed it, starts another.
-/

set_option autoImplicit false

namespace MiniTrantor.Net

namespace ServerConnection

open Idle
open TimerQueue (Live)

variable {application : Application} {depth : Nat} {clock : Nat → Int}
  {server next : ServerConnection} {action : Action}

/-- The wrappers that refresh the timer without a look at the connection. -/
def refreshes (event : Event) : Bool :=
  event == .callback .message || event == .callback .writeComplete

/-- No wrapper refreshes the timer of a closed connection. -/
def WhileOpen (server : ServerConnection) : Action → Prop
  | .wrapper => ∀ event ∈ server.conn.trace[server.handled]?, refreshes event = true →
      stateAfter (server.conn.trace.take server.handled) ≠ .kDisconnected
  | _ => True

instance (server : ServerConnection) : (action : Action) → Decidable (WhileOpen server action)
  | .wrapper =>
      inferInstanceAs (Decidable (∀ event ∈ server.conn.trace[server.handled]?,
        refreshes event = true →
          stateAfter (server.conn.trace.take server.handled) ≠ .kDisconnected))
  | .step _ | .addTimer _ _ | .cancel _ | .getExpired _ | .expire _ _ | .reset _ => isTrue trivial

/-- No timer is remembered once the wrappers have seen the Disconnected notification. -/
structure Disarmed (server : ServerConnection) : Prop where
  consistent : Consistent server
  forward : ForwardSince [] server.conn.state server.conn.trace
  forgotten : .callback .disconnected ∈ server.conn.trace.take server.handled →
    server.timers.idleState.timerId = none

/-- A wrapper of a closed connection, other than those that refresh the timer. -/
theorem wrapper_closed {batch : List TimerPtr} {timers : IdleTimers} (keeps : Keeps batch timers)
    (positive : 0 < timers.idleState.timeout) {event : Event} (passive : refreshes event = false)
    (before : event ≠ .callback .disconnected → timers.idleState.timerId = none) (now : Int) :
    (Idle.wrapper .kDisconnected now event timers).idleState.timerId = none := by
  have cancelled := (keeps.cancelled positive).1
  unfold Idle.wrapper
  split
  · exact cancelled
  · exact cancelled
  · simp [refreshes] at passive
  · simp [refreshes] at passive
  · exact cancelled
  case h_6 _ other _ _ _ => exact before other

namespace Disarmed

theorem create {setup : Setup} {timeout : Int} (positive : 0 < timeout)
    (fresh : Fresh (create setup application depth timeout).conn.trace) :
    Disarmed (create setup application depth timeout) := by
  have dormant := (served setup).hooked_dormant application.world depth
  have begun : Fresh ((served setup).begun application.world depth).trace :=
    @Setup.run_fresh _ _ _ [] fresh
  have forward := (served setup).run_forward application.world depth []
  exact ⟨.create positive, ⟨_, rfl, forward.whole (Dormant.connecting dormant begun).2⟩, fun _ => rfl⟩

/-- The wrappers have seen no more than before, whatever is remembered now. -/
theorem unseen (kept : Disarmed server) {conn : Conn} (continues : Continues server.conn conn)
    (notified : .callback .disconnected ∈ conn.trace.take server.handled) :
    server.timers.idleState.timerId = none := by
  obtain ⟨later, trace⟩ := continues.extends_trace
  rw [trace, List.take_append_of_le_length kept.consistent.handled] at notified
  exact kept.forgotten notified

theorem wrapper (kept : Disarmed server) {event : Event}
    (seen : server.conn.trace[server.handled]? = some event)
    (permitted : WhileOpen server .wrapper)
    (notified : .callback .disconnected ∈ server.conn.trace.take (server.handled + 1)) (now : Int) :
    (Idle.wrapper (stateAfter (server.conn.trace.take server.handled)) now event
      server.timers).idleState.timerId = none := by
  have grown : server.conn.trace.take (server.handled + 1) =
      server.conn.trace.take server.handled ++ [event] := by
    rw [List.take_add_one, seen]
    rfl
  have closed : stateAfter (server.conn.trace.take server.handled) = .kDisconnected := by
    have after := kept.consistent.recorded.closed kept.forward notified
    rw [grown] at notified
    rcases List.mem_append.mp notified with old | new
    · exact kept.consistent.recorded.closed kept.forward old
    · rw [grown, ← List.mem_singleton.mp new] at after
      simpa [stateAfter, Event.states, statesOf] using after
  have passive : refreshes event = false := by
    by_contra refreshing
    exact permitted event seen (by simpa using refreshing) closed
  rw [closed]
  refine wrapper_closed kept.consistent.keeps kept.consistent.positive passive (fun other => ?_) now
  rw [grown] at notified
  rcases List.mem_append.mp notified with old | new
  · exact kept.forgotten old
  · exact absurd (List.mem_singleton.mp new).symm other

/-- The step lemma. -/
theorem moved (kept : Disarmed server) (permitted : WhileOpen server action)
    (moved : Moved application depth clock server action next) : Disarmed next := by
  refine ⟨kept.consistent.moved moved, ?_, ?_⟩
  · exact (kept.consistent.continued moved).forward [] kept.forward
  cases moved with
  | wrapper seen => exact fun notified => kept.wrapper seen permitted notified _
  | step _ _ _ => exact kept.unseen (Continues.step _ depth _ kept.consistent.captured)
  | expire _ _ _ _ _ => exact fun _ => rfl
  | addTimer | cancel | getExpired | passOver | reset => exact kept.forgotten

theorem reach {setup : Setup} {timeout : Int} (positive : 0 < timeout)
    (fresh : Fresh (ServerConnection.create setup application depth timeout).conn.trace)
    (reached : Reach (step application depth clock) WhileOpen
      (ServerConnection.create setup application depth timeout) server) : Disarmed server :=
  reached.invariant (create positive fresh) fun _ _ _ kept permitted stepped =>
    kept.moved permitted (step_cases stepped)

end Disarmed

theorem Consistent.reach {permitted : ServerConnection → Action → Prop} {setup : Setup}
    {timeout : Int} (positive : 0 < timeout)
    (reached : Reach (step application depth clock) permitted
      (ServerConnection.create setup application depth timeout) server) : Consistent server :=
  reached.invariant (.create positive) fun _ _ _ kept _ stepped => kept.moved (step_cases stepped)

/-- The idle timers of the connection. -/
def idleTimers (server : ServerConnection) : List Nat := server.timers.captured.map Prod.fst

/-- At most one idle timer of a connection is in the timer queue of its loop. If no
wrapper refreshes the timer of a closed connection, and the hook of the handshake has
not closed it before it is established, none is from the Disconnected notification on. -/
theorem idle_timers (application : Application) (setup : Setup) (depth : Nat) (clock : Nat → Int)
    (timeout : Int) (positive : 0 < timeout) :
    (∀ server, Reach (step application depth clock) (fun _ _ => True)
        (create setup application depth timeout) server →
      ∀ first ∈ server.idleTimers, ∀ second ∈ server.idleTimers,
        Live first server.timers.timerQueue → Live second server.timers.timerQueue →
          first = second) ∧
      (Fresh (create setup application depth timeout).conn.trace →
        ∀ server, Reach (step application depth clock) WhileOpen
          (create setup application depth timeout) server →
        .callback .disconnected ∈ server.conn.trace.take server.handled →
          ∀ id ∈ server.idleTimers, ¬Live id server.timers.timerQueue) := by
  constructor
  · intro server reached first firstOwn second secondOwn firstLive secondLive
    obtain ⟨firstPair, firstMember, rfl⟩ := List.mem_map.mp firstOwn
    obtain ⟨secondPair, secondMember, rfl⟩ := List.mem_map.mp secondOwn
    have keeps := (Consistent.reach positive reached).keeps
    have firstTimer := keeps.live firstPair firstMember firstLive
    have secondTimer := keeps.live secondPair secondMember secondLive
    exact Option.some.inj (firstTimer.symm.trans secondTimer)
  · intro fresh server reached notified id own live
    obtain ⟨pair, member, rfl⟩ := List.mem_map.mp own
    have disarmed := Disarmed.reach positive fresh reached
    have remembered := disarmed.consistent.keeps.live pair member live
    rw [disarmed.forgotten notified] at remembered
    cases remembered

/-- A world in which the user of the server does nothing. -/
def idleUser : Application where
  world := {}
  keeps := keepsWrappers_nothing

/-- A connection that has closed while a write-complete functor was queued. -/
def closedWhileQueued : List Action :=
  [.wrapper, .wrapper, .wrapper, .wrapper, .wrapper, .step (.call (.send [1])), .wrapper, .wrapper, .wrapper,
    .step (.call .forceClose), .wrapper, .wrapper, .wrapper, .wrapper, .wrapper]

theorem idle_timers_closed :
    ∃ server, Reach (step idleUser 1 fun _ => 0) WhileOpen (create {} idleUser 1 5) server ∧
      .callback .close ∈ server.conn.trace.take server.handled ∧
      1 ∈ server.idleTimers ∧ ¬Live 1 server.timers.timerQueue := by
  have ran : ∃ server, MiniTrantor.run (checked (step idleUser 1 fun _ => 0) WhileOpen)
      (create {} idleUser 1 5) closedWhileQueued = some server ∧
      .callback .disconnected ∈ server.conn.trace.take server.handled ∧
      .callback .close ∈ server.conn.trace.take server.handled ∧ 1 ∈ server.idleTimers :=
    ⟨_, rfl, by decide, by decide, by decide⟩
  obtain ⟨server, ran, disconnected, closed, own⟩ := ran
  have reached := Reach.start.checked ran
  exact ⟨server, reached, closed, own,
    (idle_timers idleUser {} 1 (fun _ => 0) 5 (by decide)).2 (by decide) server reached disconnected
      1 own⟩

theorem idle_timer_outlives_connection :
    ∃ server, Reach (step idleUser 1 fun _ => 0) (fun _ _ => True) (create {} idleUser 1 5) server ∧
      .callback .close ∈ server.conn.trace.take server.handled ∧
      server.settled = true ∧ server.conn.queue = [] ∧
      ∃ id ∈ server.idleTimers, Live id server.timers.timerQueue := by
  have ran : ∃ server, MiniTrantor.run (step idleUser 1 fun _ => 0) (create {} idleUser 1 5)
      (closedWhileQueued ++ [.step .functor, .wrapper]) = some server ∧
      .callback .close ∈ server.conn.trace.take server.handled ∧
      server.settled = true ∧ server.conn.queue = [] ∧ 2 ∈ server.idleTimers ∧
      (toLex (5, 2), 2) ∈ server.timers.timerQueue.timers.entries :=
    ⟨_, rfl, by decide, rfl, rfl, by decide, by decide⟩
  obtain ⟨server, ran, closed, settled, empty, own, queued⟩ := ran
  exact ⟨server, Reach.start.run (fun _ _ _ => trivial) ran, closed, settled, empty, 2, own, _, queued⟩

end ServerConnection

end MiniTrantor.Net
