import MiniTrantor.Net.Connection.Dispatch
import MiniTrantor.Trace

/-!
# Life cycle and notifications

The state only moves forward, each notification is delivered as often as it
should be, and what may still be delivered once the connection is closed.
-/

set_option autoImplicit false

namespace MiniTrantor.Net

open ConnectionAwaiterRegistry ConnectionBackpressureController TcpConnection
open Trace (NeverAfter Follows)

variable {world : World}

/-! ## States -/

/-- States entered, in order. -/
def statesOf (trace : List Event) : List StateE := trace.flatMap Event.states

@[simp] theorem statesOf_append (front back : List Event) :
    statesOf (front ++ back) = statesOf front ++ statesOf back := List.flatMap_append

/-- The states entered go strictly forward and end in the current one. -/
structure Forward (state : StateE) (trace : List Event) : Prop where
  increasing : (statesOf trace).Pairwise fun earlier later => earlier.rank < later.rank
  bounded : ∀ entered ∈ statesOf trace, entered.rank ≤ state.rank
  current : (statesOf trace).getLast? = some state

namespace Forward

variable {state : StateE} {trace events : List Event}

theorem silent (kept : Forward state trace) (none : statesOf events = []) :
    Forward state (trace ++ events) := by
  have same : statesOf (trace ++ events) = statesOf trace := by
    rw [statesOf_append, none, List.append_nil]
  exact ⟨same ▸ kept.increasing, same ▸ kept.bounded, same ▸ kept.current⟩

theorem enter {next : StateE} (kept : Forward state trace) (later : state.rank < next.rank)
    (entered : statesOf events = [next]) : Forward next (trace ++ events) := by
  have grown : statesOf (trace ++ events) = statesOf trace ++ [next] := by
    rw [statesOf_append, entered]
  refine ⟨?_, ?_, ?_⟩
  · rw [grown]
    refine List.pairwise_append.mpr ⟨kept.increasing, List.pairwise_singleton _ _, ?_⟩
    intro old member new last
    rw [List.mem_singleton.mp last]
    exact Nat.lt_of_le_of_lt (kept.bounded old member) later
  · rw [grown]
    intro old member
    rcases List.mem_append.mp member with early | last
    · exact Nat.le_of_lt (Nat.lt_of_le_of_lt (kept.bounded old early) later)
    · obtain rfl := List.mem_singleton.mp last
      exact Nat.le_refl _
  · rw [grown]
    exact List.getLast?_concat

end Forward

/-- The states entered since the given trace go strictly forward. -/
def ForwardSince (past : List Event) (state : StateE) (trace : List Event) : Prop :=
  ∃ later, trace = past ++ later ∧ Forward state later

namespace ForwardSince

variable {past : List Event} {state : StateE} {trace events : List Event}

theorem silent (kept : ForwardSince past state trace) (none : statesOf events = []) :
    ForwardSince past state (trace ++ events) := by
  obtain ⟨later, split, forward⟩ := kept
  exact ⟨later ++ events, by rw [split, List.append_assoc], forward.silent none⟩

theorem enter {next : StateE} (kept : ForwardSince past state trace) (later : state.rank < next.rank)
    (entered : statesOf events = [next]) : ForwardSince past next (trace ++ events) := by
  obtain ⟨since, split, forward⟩ := kept
  exact ⟨since ++ events, by rw [split, List.append_assoc], forward.enter later entered⟩

theorem framed {before after : Conn} {events : List Event}
    (kept : ForwardSince past before.state before.trace) (frame : Frame before after events) :
    ForwardSince past after.state after.trace := by
  rw [frame.trace]
  rcases frame.state with ⟨same, none⟩ | ⟨connected, disconnecting, entered⟩
  · rw [same]
    exact kept.silent none
  · rw [connected] at kept
    rw [disconnecting]
    exact kept.enter (by decide) entered

/-- Nothing was entered before. -/
theorem whole (kept : ForwardSince past state trace) (none : statesOf past = []) :
    Forward state trace := by
  obtain ⟨later, rfl, forward⟩ := kept
  have same : statesOf (past ++ later) = statesOf later := by rw [statesOf_append, none]; rfl
  exact ⟨same ▸ forward.increasing, same ▸ forward.bounded, same ▸ forward.current⟩

end ForwardSince

theorem StateE.rank_lt_of_open {state : StateE} (opened : state ≠ .kDisconnected) :
    state.rank < StateE.rank .kDisconnected := by
  cases state <;> first | exact absurd rfl opened | decide

theorem forward (past : List Event) :
    Invariant world true fun conn => ForwardSince past conn.state conn.trace := by
  constructor
  case move =>
    intro before after move kept
    obtain ⟨_, frame⟩ := move.frame
    exact kept.framed frame
  case take =>
    intro waiter awaitable before after takes kept
    cases takes <;> exact kept
  case finish =>
    intro waiter before after finishes kept
    cases finishes with
    | complete _ _ => exact kept
    | finish _ _ =>
        obtain ⟨_, _, _, _, finished⟩ := finishAwait_eq _ _ _
        rw [finished]
        exact kept.silent rfl
  case dispatch =>
    intro _ before after move kept
    cases move with
    | established => exact kept
    | receive | dispatch | interest | draining => exact kept.silent rfl
  case retrieve => exact fun _ _ _ _ kept => kept.silent rfl
  case settle =>
    intro _ conn kept
    rcases settle_eq conn with same | settled
    · rw [same]
      exact kept
    · rw [settled]
      exact kept.silent rfl
  case close =>
    intro conn failed opened fails kept
    obtain ⟨_, frame⟩ := fails.frame
    rw [shutChannel_trace]
    exact (kept.framed frame).enter (StateE.rank_lt_of_open (frame.still_open opened)) rfl
  case disconnected => exact fun _ kept => kept.silent rfl
  case closeCallback => exact fun kept => kept.silent rfl

/-- A closed connection has been through the start of the close sequence. -/
def Shut (state : StateE) (trace : List Event) : Prop :=
  state = .kDisconnected → .setState .kDisconnected ∈ trace ∧ .channelClosed ∈ trace

theorem Shut.silent {state next : StateE} {trace events : List Event} (shut : Shut state trace)
    (opened : state ≠ .kDisconnected → next ≠ .kDisconnected) : Shut next (trace ++ events) := by
  intro closed
  have was : state = .kDisconnected := by
    by_contra still
    exact opened still closed
  exact (shut was).imp (List.mem_append_left _) (List.mem_append_left _)

theorem shut : Invariant world true fun conn => Shut conn.state conn.trace := by
  constructor
  case move =>
    intro before after move kept
    obtain ⟨_, frame⟩ := move.frame
    rw [frame.trace]
    exact kept.silent frame.still_open
  case take =>
    intro waiter awaitable before after takes kept
    cases takes <;> exact kept
  case finish =>
    intro waiter before after finishes kept
    cases finishes with
    | complete _ _ => exact kept
    | finish _ _ =>
        obtain ⟨_, _, _, _, finished⟩ := finishAwait_eq _ _ _
        rw [finished]
        exact Shut.silent kept id
  case dispatch =>
    intro _ before after move kept
    cases move with
    | established => exact kept
    | receive | dispatch | interest | draining => exact Shut.silent kept id
  case retrieve => exact fun _ _ _ _ kept => Shut.silent kept id
  case settle =>
    intro _ conn kept
    obtain same | settled := settle_eq conn
    · rw [same]
      exact kept
    · rw [settled]
      exact Shut.silent kept id
  case close =>
    intro conn failed _ _ _
    rw [shutChannel_trace]
    intro _
    simp
  case disconnected => exact fun _ kept => Shut.silent kept id
  case closeCallback => exact fun kept => Shut.silent kept id

/-- Nothing but a close happens to the state before the connection is established. -/
def Dormant (conn : Conn) : Prop :=
  conn.state = .kConnecting ∧ statesOf conn.trace = [] ∨ conn.state = .kDisconnected

theorem Dormant.quiet {before after : Conn} {events : List Event} (kept : Dormant before)
    (state : after.state = before.state) (trace : after.trace = before.trace ++ events)
    (none : statesOf events = []) : Dormant after := by
  refine kept.imp (fun connecting => ⟨state.trans connecting.1, ?_⟩) state.trans
  rw [trace, statesOf_append, connecting.2, none]
  rfl

theorem dormant : Invariant world true Dormant := by
  constructor
  case move =>
    intro before after move kept
    obtain ⟨_, frame⟩ := move.frame
    rcases frame.state with ⟨same, none⟩ | ⟨connected, _, _⟩
    · exact kept.quiet same frame.trace none
    · rcases kept with ⟨connecting, _⟩ | closed
      · rw [connecting] at connected
        cases connected
      · rw [closed] at connected
        cases connected
  case take =>
    intro waiter awaitable before after takes kept
    cases takes <;> exact kept
  case finish =>
    intro waiter before after finishes kept
    cases finishes with
    | complete _ _ => exact kept
    | finish _ _ =>
        obtain ⟨_, _, _, _, finished⟩ := finishAwait_eq _ _ _
        rw [finished]
        exact Dormant.quiet kept rfl rfl rfl
  case dispatch =>
    intro _ before after move kept
    cases move with
    | established => exact kept
    | receive | dispatch | interest | draining => exact Dormant.quiet kept rfl rfl rfl
  case retrieve => exact fun _ _ _ _ kept => Dormant.quiet kept rfl rfl rfl
  case settle =>
    intro _ conn kept
    rcases settle_eq conn with same | settled
    · rw [same]
      exact kept
    · rw [settled]
      exact Dormant.quiet kept rfl rfl rfl
  case close => exact fun _ _ _ => .inr rfl
  case disconnected => exact fun _ kept => Dormant.quiet kept rfl rfl rfl
  case closeCallback => exact fun kept => Dormant.quiet kept rfl rfl rfl

/-- A connection that is established fresh has entered no state before. -/
theorem Dormant.connecting {conn : Conn} (dormant : Dormant conn)
    (fresh : Fresh (establish conn).trace) :
    conn.state = .kConnecting ∧ statesOf conn.trace = [] :=
  dormant.resolve_right (fresh_establish fresh)

theorem Setup.hooked_dormant (setup : Setup) (world : World) (depth : Nat) :
    Dormant (setup.hooked world depth) :=
  dormant.ran (setup.hooked_ran world depth).1 (fun _ => rfl) (.inl ⟨rfl, rfl⟩)

theorem establish_forward (conn : Conn) :
    ForwardSince conn.trace (establish conn).state (establish conn).trace := by
  have one : statesOf [.checkpoint .connectEstablished conn.state, .setState .kConnected,
      .update conn.channel.enableReading.events] = [.kConnected] := rfl
  refine ⟨_, establish_trace conn, ?_, ?_, ?_⟩ <;> rw [one]
  · exact List.pairwise_singleton _ _
  · intro entered member
    rw [List.mem_singleton.mp member]
    exact Nat.le_refl _
  · rfl

/-- The states since the connection was established. -/
theorem Setup.run_forward (setup : Setup) (world : World) (depth : Nat) (steps : List Step) :
    ForwardSince (setup.hooked world depth).trace (setup.run world depth steps).state
      (setup.run world depth steps).trace :=
  Setup.run_begun (establish_forward _) (fun ran => (forward _).ran ran fun _ => rfl) steps

/-! ## Notifications of the close sequence -/

def Event.isDisconnected (event : Event) : Bool := event == .callback .disconnected

def Event.isClose (event : Event) : Bool := event == .callback .close

/-- Disconnected notifications delivered. -/
def Conn.disconnects (conn : Conn) : Nat := conn.trace.countP Event.isDisconnected

/-- Close callbacks entered. -/
def Conn.closes (conn : Conn) : Nat := conn.trace.countP Event.isClose

/-- Disconnected notifications delivered, plus one while it is still to come. -/
def Conn.announced (conn : Conn) : Nat :=
  conn.disconnects + if conn.state = .kDisconnected then 0 else 1

/-- What a stretch of code does to the notifications of the close sequence. -/
structure Notified (before after : Conn) : Prop where
  once : after.announced = before.announced
  close : after.closes + before.disconnects ≤ before.closes + after.disconnects
  follows : Follows Event.isDisconnected Event.isClose before.trace →
    Follows Event.isDisconnected Event.isClose after.trace

namespace Notified

theorem refl (conn : Conn) : Notified conn conn := ⟨rfl, Nat.le_refl _, id⟩

theorem trans {first second third : Conn} (front : Notified first second)
    (back : Notified second third) : Notified first third where
  once := back.once.trans front.once
  close := by
    have := front.close
    have := back.close
    omega
  follows := back.follows ∘ front.follows

/-- Steps that neither notify of the close nor close. -/
theorem quiet {before after : Conn} {events : List Event} (trace : after.trace = before.trace ++ events)
    (silent : ∀ event ∈ events, event.isDisconnected = false ∧ event.isClose = false)
    (state : after.state = .kDisconnected ↔ before.state = .kDisconnected) : Notified before after := by
  have undisconnected : events.countP Event.isDisconnected = 0 :=
    List.countP_eq_zero.mpr fun event member => by simp [(silent event member).1]
  have unclosed : events.countP Event.isClose = 0 :=
    List.countP_eq_zero.mpr fun event member => by simp [(silent event member).2]
  refine ⟨?_, ?_, fun kept => ?_⟩
  · simp only [Conn.announced, Conn.disconnects, trace, List.countP_append, undisconnected, state,
      Nat.add_zero]
  · simp only [Conn.closes, Conn.disconnects, trace, List.countP_append, undisconnected, unclosed,
      Nat.add_zero, Nat.le_refl]
  · rw [trace]
    exact kept.silent fun event member => (silent event member).2

theorem framed {before after : Conn} {events : List Event} (frame : Frame before after events) :
    Notified before after := by
  refine quiet frame.trace (fun event member => ?_) ?_
  · have loud := frame.quiet event member
    constructor
    · by_contra notified
      have same : event = .callback .disconnected := by simpa [Event.isDisconnected] using notified
      rw [same] at loud
      cases loud
    · by_contra notified
      have same : event = .callback .close := by simpa [Event.isClose] using notified
      rw [same] at loud
      cases loud
  · rcases frame.state with ⟨same, _⟩ | ⟨connected, disconnecting, _⟩
    · rw [same]
    · simp [connected, disconnecting]

theorem dispatched {before after : Conn} (move : DispatchMove before after) : Notified before after := by
  cases move with
  | established => exact .quiet (List.append_nil _).symm (by simp) Iff.rfl
  | receive => exact .quiet rfl (by simp [Event.isDisconnected, Event.isClose]) Iff.rfl
  | @dispatch callback dispatched _ _ =>
      refine .quiet rfl ?_ Iff.rfl
      cases callback <;>
        simp [Event.isDisconnected, Event.isClose, Callback.isDispatched] at dispatched ⊢
  | interest _ _ _ => exact .quiet rfl (by simp [Event.isDisconnected, Event.isClose]) Iff.rfl
  | draining _ => exact .quiet rfl (by simp [Event.isDisconnected, Event.isClose]) Iff.rfl

theorem drains {before after : Conn} (drains : Drains before after) : Notified before after := by
  induction drains with
  | first _ => exact .quiet rfl (by simp [Event.isDisconnected, Event.isClose]) Iff.rfl
  | more _ ih =>
      exact ih.trans (.quiet rfl (by simp [Event.isDisconnected, Event.isClose]) Iff.rfl)
  | wantRead _ _ ih =>
      exact ih.trans (.quiet rfl (by simp [Event.isDisconnected, Event.isClose]) Iff.rfl)

theorem settle (conn : Conn) : Notified conn (settle conn) := by
  rcases settle_eq conn with same | settled
  · rw [same]
    exact .refl conn
  · rw [settled]
    exact .quiet rfl (by simp [Event.isDisconnected, Event.isClose]) Iff.rfl

theorem announced_open {conn : Conn} (opened : conn.state ≠ .kDisconnected) :
    conn.announced = conn.disconnects + 1 := by
  simp [Conn.announced, opened]

theorem announced_closed {conn : Conn} (closed : conn.state = .kDisconnected) :
    conn.announced = conn.disconnects := by
  simp [Conn.announced, closed]

theorem noteDisconnected_counts (conn : Conn) :
    (noteDisconnected conn).disconnects = conn.disconnects + 1 ∧
      (noteDisconnected conn).closes = conn.closes := by
  simp [noteDisconnected, Conn.disconnects, Conn.closes, Event.isDisconnected, Event.isClose]

theorem noteClosed_counts (notified : Bool) (conn : Conn) :
    (noteClosed notified conn).disconnects = conn.disconnects ∧
      (noteClosed notified conn).closes ≤ conn.closes + 1 := by
  cases notified <;>
    simp [noteClosed, Conn.disconnects, Conn.closes, Event.isDisconnected, Event.isClose]

theorem shutChannel_counts (conn : Conn) :
    (shutChannel conn).disconnects = conn.disconnects ∧ (shutChannel conn).closes = conn.closes := by
  simp [Conn.disconnects, Conn.closes, shutChannel_trace, Event.isDisconnected, Event.isClose]

/-- A whole close sequence: its notification makes up for the one to come, and
pays for the close callback. -/
theorem closeSequence {failed begun third : Conn} (notified : Bool)
    (opened : failed.state ≠ .kDisconnected) (begunClosed : begun.state = .kDisconnected)
    (thirdClosed : third.state = .kDisconnected) (resumed : Notified (shutChannel failed) begun)
    (entered : Notified (noteDisconnected begun) third)
    (delivered : .callback .disconnected ∈ third.trace) :
    Notified failed (noteClosed notified third) := by
  have shut := shutChannel_counts failed
  have noted := noteDisconnected_counts begun
  have finished := noteClosed_counts notified third
  have finalState : (noteClosed notified third).state = .kDisconnected := by
    cases notified <;> exact thirdClosed
  have resumedOnce := resumed.once
  have enteredOnce := entered.once
  rw [announced_closed begunClosed, announced_closed rfl] at resumedOnce
  have notedClosed : (noteDisconnected begun).state = .kDisconnected := begunClosed
  rw [announced_closed thirdClosed, announced_closed notedClosed] at enteredOnce
  refine ⟨?_, ?_, fun kept => ?_⟩
  · rw [announced_open opened, announced_closed finalState]
    omega
  · have := resumed.close
    have := entered.close
    omega
  · have followed : Follows Event.isDisconnected Event.isClose third.trace := by
      apply entered.follows
      have begunFollows := resumed.follows (by
        rw [shutChannel_trace]
        exact kept.silent (by simp [Event.isClose]))
      exact begunFollows.silent (by simp [Event.isClose])
    cases notified with
    | false => exact followed
    | true => exact followed.append fun _ _ _ => ⟨_, delivered, by simp [Event.isDisconnected]⟩

end Notified

/-- The Disconnected notification follows the close within the same stretch of
code, and each close callback follows a Disconnected notification of its own. -/
theorem Ran.notified {scope : Scope} {first second : Conn} (ran : Ran world scope first second) :
    Notified first second := by
  induction ran with
  | refl => exact .refl _
  | step _ move ih =>
      obtain ⟨_, frame⟩ := move.frame
      exact ih.trans (.framed frame)
  | arm _ takes _ _ ih inner =>
      refine (ih.trans ?_).trans inner
      cases takes <;> exact .quiet (List.append_nil _).symm (by simp) Iff.rfl
  | resumed _ finishes ih =>
      refine ih.trans ?_
      cases finishes with
      | complete _ _ => exact .quiet (List.append_nil _).symm (by simp) Iff.rfl
      | finish _ _ =>
          obtain ⟨_, _, _, _, finished⟩ := finishAwait_eq _ _ _
          rw [finished]
          exact .quiet rfl (by simp [Event.isDisconnected, Event.isClose]) Iff.rfl
  | dispatched _ move ih => exact ih.trans (.dispatched move)
  | drain _ drains _ ih inner => exact ((ih.trans (.drains drains)).trans inner).trans (.settle _)
  | @closing _ _ second failed third notified _ opened fails resumed inner ih resumes after =>
      obtain ⟨_, frame⟩ := fails.frame
      have still : failed.state ≠ .kDisconnected := frame.still_open opened
      have begunClosed := resumed.disconnected rfl
      have thirdClosed := inner.disconnected begunClosed
      have delivered := inner.mem_trace (List.mem_append_right _ List.mem_cons_self)
      exact (ih.trans (.framed frame)).trans
        (.closeSequence notified still begunClosed thirdClosed resumes after delivered)

/-! ## The Connected notification -/

def Event.isConnected (event : Event) : Bool := event == .callback .connected

/-- Without TLS nothing but establishment notifies of the connection. -/
theorem connects : Invariant world true fun conn =>
    conn.transport.ssl = false ∧ conn.trace.countP Event.isConnected = 1 := by
  have silent : ∀ {before after : Conn} {events : List Event}, after.trace = before.trace ++ events →
      (∀ event ∈ events, event.isConnected = false) →
      before.trace.countP Event.isConnected = 1 → after.trace.countP Event.isConnected = 1 := by
    intro before after events trace quiet kept
    have none : events.countP Event.isConnected = 0 :=
      List.countP_eq_zero.mpr fun event member => by simp [quiet event member]
    rw [trace, List.countP_append, none, kept, Nat.add_zero]
  have framed : ∀ {before after : Conn} {events : List Event}, Frame before after events →
      before.trace.countP Event.isConnected = 1 → after.trace.countP Event.isConnected = 1 := by
    intro before after events frame
    refine silent frame.trace fun event member => ?_
    by_contra notified
    have same : event = .callback .connected := by simpa [Event.isConnected] using notified
    have loud := frame.quiet event member
    rw [same] at loud
    cases loud
  constructor
  case move =>
    intro before after move kept
    obtain ⟨_, frame⟩ := move.frame
    exact ⟨frame.ssl.trans kept.1, framed frame kept.2⟩
  case take =>
    intro waiter awaitable before after takes kept
    cases takes <;> exact kept
  case finish =>
    intro waiter before after finishes kept
    cases finishes with
    | complete _ _ => exact kept
    | finish _ _ =>
        obtain ⟨_, _, _, _, finished⟩ := finishAwait_eq _ _ _
        rw [finished]
        exact ⟨kept.1, silent rfl (by simp [Event.isConnected]) kept.2⟩
  case dispatch =>
    intro _ before after move kept
    cases move with
    | established => exact kept
    | @dispatch callback _ first _ =>
        refine ⟨kept.1, silent rfl ?_ kept.2⟩
        have other : callback ≠ .connected := fun connected => by
          rcases first connected with ssl | none
          · rw [kept.1] at ssl
            cases ssl
          · obtain ⟨event, member, same⟩ :=
              List.countP_pos_iff.mp (by rw [kept.2]; exact Nat.one_pos)
            obtain rfl : event = .callback .connected := by simpa [Event.isConnected] using same
            exact none member
        simpa [Event.isConnected] using other
    | receive | interest | draining => exact ⟨kept.1, silent rfl (by simp [Event.isConnected]) kept.2⟩
  case retrieve =>
    intro _ conn count _ kept
    exact ⟨kept.1, silent rfl (by simp [Event.isConnected]) kept.2⟩
  case settle =>
    intro _ conn kept
    rcases settle_eq conn with same | settled
    · rw [same]
      exact kept
    · rw [settled]
      exact ⟨kept.1, silent rfl (by simp [Event.isConnected]) kept.2⟩
  case close =>
    intro conn failed _ fails kept
    obtain ⟨_, frame⟩ := fails.frame
    exact ⟨frame.ssl.trans kept.1,
      silent (shutChannel_trace failed) (by simp [Event.isConnected]) (framed frame kept.2)⟩
  case disconnected =>
    intro conn _ kept
    exact ⟨kept.1, silent rfl (by simp [Event.isConnected]) kept.2⟩
  case closeCallback =>
    intro conn kept
    exact ⟨kept.1, silent rfl (by simp [Event.isConnected]) kept.2⟩

/-! ## Results -/

theorem Setup.run_extends (setup : Setup) (plain : setup.tls = false) (world : World) (depth : Nat)
    (steps : List Step) :
    ∃ later, (setup.run world depth steps).trace = setup.opened.trace ++ later :=
  (@extends_trace world setup.opened.trace).run_opened plain ⟨[], by simp⟩ depth steps

theorem Setup.run_notified (setup : Setup) (plain : setup.tls = false) (world : World) (depth : Nat)
    (steps : List Step) : Notified setup.opened (setup.run world depth steps) :=
  Setup.run_opened plain (.refl _) (fun ran kept => kept.trans ran.notified) steps

/-- The life cycle of a plain connection over every run: the states entered go
strictly forward and end in the current one; Connected is notified exactly once;
Disconnected, after it, exactly if the connection is closed; the close callback is
entered at most once, after Disconnected. -/
theorem lifecycle_notified_once (setup : Setup) (plain : setup.tls = false) (world : World)
    (depth : Nat) (steps : List Step) :
    let conn := setup.run world depth steps
    (statesOf conn.trace).Pairwise (fun earlier later => earlier.rank < later.rank) ∧
      (statesOf conn.trace).getLast? = some conn.state ∧
      conn.trace.countP Event.isConnected = 1 ∧
      conn.disconnects = (if conn.state = .kDisconnected then 1 else 0) ∧
      Follows Event.isConnected Event.isDisconnected conn.trace ∧
      conn.closes ≤ 1 ∧ Follows Event.isDisconnected Event.isClose conn.trace := by
  have states : Forward (setup.run world depth steps).state (setup.run world depth steps).trace := by
    refine (setup.run_forward world depth steps).whole ?_
    simp [Setup.hooked, plain, Setup.initial, statesOf]
  have connected := (@connects world).run_opened plain ⟨rfl, rfl⟩ depth steps
  have notified := setup.run_notified plain world depth steps
  obtain ⟨later, trace⟩ := setup.run_extends plain world depth steps
  have start : setup.opened.announced = 1 ∧ setup.opened.closes = 0 ∧ setup.opened.disconnects = 0 :=
    ⟨rfl, rfl, rfl⟩
  have disconnects : (setup.run world depth steps).disconnects =
      if (setup.run world depth steps).state = .kDisconnected then 1 else 0 := by
    have once : (setup.run world depth steps).announced = 1 := notified.once.trans start.1
    by_cases closed : (setup.run world depth steps).state = .kDisconnected
    · simpa [Conn.announced, closed] using once
    · simpa [Conn.announced, closed] using once
  refine ⟨states.increasing, states.current, connected.2, disconnects, ?_, ?_, notified.follows ?_⟩
  · have begun : Follows Event.isConnected Event.isDisconnected setup.opened.trace :=
      .of_none (by simp [Setup.opened, Event.isDisconnected])
    rw [trace]
    exact begun.append fun _ _ _ => ⟨.callback .connected, by simp [Setup.opened], rfl⟩
  · have := notified.close
    split at disconnects <;> omega
  · exact .of_none (by simp [Setup.opened, Event.isClose])

theorem lifecycle_notified_once_after_close :
    let conn := Setup.run { callbacks := { close := true } } {} 1 [.event { read := true }]
    conn.state = .kDisconnected ∧ conn.disconnects = 1 ∧ conn.closes ≤ 1 := by
  have once := lifecycle_notified_once { callbacks := { close := true } } rfl {} 1
    [.event { read := true }]
  exact ⟨by decide, by decide, once.2.2.2.2.2.1⟩

/-! ## Deliveries to a closed connection -/

/-- A message, Connected or TLS notification. -/
def Event.isDelivery : Event → Bool
  | .callback entered => entered.isDispatched
  | _ => false

/-- The places where dispatch goes on to a delivery, or to establish the connection,
without testing the state. -/
def Checkpoint.delivers : Checkpoint → Bool
  | .connectEstablished | .notifyConnected | .handleRead | .handshake => true
  | .drained | .connectDestroyed => false

/-- Nothing goes on to a delivery on a closed connection, or to establish it. -/
def Rechecked (trace : List Event) : Prop :=
  ∀ place, place.delivers = true → .checkpoint place .kDisconnected ∉ trace

theorem Rechecked.of_append {trace events : List Event} (rechecked : Rechecked (trace ++ events)) :
    Rechecked trace :=
  fun place delivers member => rechecked place delivers (List.mem_append_left _ member)

structure Delivered (state : StateE) (trace : List Event) : Prop where
  closed : Rechecked trace → .callback .disconnected ∈ trace → state = .kDisconnected
  ordered : Rechecked trace → NeverAfter Event.isDisconnected Event.isDelivery trace

theorem Delivered.silent {state next : StateE} {trace events : List Event} (kept : Delivered state trace)
    (closed : state = .kDisconnected → next = .kDisconnected)
    (undelivered : ∀ event ∈ events, event.isDelivery = false)
    (notified : .callback .disconnected ∈ events → next = .kDisconnected) :
    Delivered next (trace ++ events) where
  closed := by
    intro rechecked member
    rcases List.mem_append.mp member with old | new
    · exact closed (kept.closed rechecked.of_append old)
    · exact notified new
  ordered := by
    intro rechecked
    refine (kept.ordered rechecked.of_append).append (.silent undelivered) ?_
    intro later member delivery
    rw [undelivered later member] at delivery
    cases delivery

theorem Delivered.framed {before after : Conn} {events : List Event}
    (kept : Delivered before.state before.trace) (frame : Frame before after events) :
    Delivered after.state after.trace := by
  rw [frame.trace]
  refine kept.silent frame.closed (fun event member => ?_) fun member => ?_
  · have quiet := frame.quiet event member
    cases event with
    | callback entered => cases entered <;> first | rfl | cases quiet
    | _ => rfl
  · cases frame.quiet _ member

theorem delivered : Invariant world true fun conn => Delivered conn.state conn.trace := by
  constructor
  case move =>
    intro before after move kept
    obtain ⟨_, frame⟩ := move.frame
    exact kept.framed frame
  case take =>
    intro waiter awaitable before after takes kept
    cases takes <;> exact kept
  case finish =>
    intro waiter before after finishes kept
    cases finishes with
    | complete _ _ => exact kept
    | finish _ _ =>
        obtain ⟨_, _, _, _, finished⟩ := finishAwait_eq _ _ _
        rw [finished]
        exact kept.silent id (by simp [Event.isDelivery, Callback.isDispatched]) (by simp)
  case dispatch =>
    intro _ before after move kept
    cases move with
    | established => exact kept
    | @dispatch callback dispatched _ unchecked =>
        refine ⟨fun rechecked member => kept.closed rechecked.of_append ?_, fun rechecked => ?_⟩
        · rcases List.mem_append.mp member with old | new
          · exact old
          · cases List.mem_singleton.mp new
            cases dispatched
        · refine (kept.ordered rechecked.of_append).append (List.pairwise_singleton _ _) ?_
          intro _ _ _ earlier member
          by_contra notified
          have same : earlier = .callback .disconnected := by
            simpa [Event.isDisconnected] using notified
          obtain ⟨place, listed, noted⟩ :=
            unchecked (kept.closed rechecked.of_append (same ▸ member))
          refine rechecked.of_append place ?_ noted
          simp only [List.mem_cons, List.not_mem_nil, or_false] at listed
          rcases listed with rfl | rfl | rfl <;> rfl
    | receive | interest | draining => exact kept.silent id (by simp [Event.isDelivery]) (by simp)
  case retrieve =>
    intro _ conn count _ kept
    exact kept.silent id (by simp [Event.isDelivery]) (by simp)
  case settle =>
    intro _ conn kept
    rcases settle_eq conn with same | settled
    · rw [same]
      exact kept
    · rw [settled]
      exact kept.silent id (by simp [Event.isDelivery]) (by simp)
  case close =>
    intro conn failed _ fails kept
    obtain ⟨_, frame⟩ := fails.frame
    rw [shutChannel_trace]
    exact (kept.framed frame).silent (fun _ => rfl) (by simp [Event.isDelivery]) (by simp)
  case disconnected =>
    intro conn closed kept
    exact kept.silent id (by simp [Event.isDelivery, Callback.isDispatched]) fun _ => closed
  case closeCallback =>
    intro conn kept
    exact kept.silent id (by simp [Event.isDelivery, Callback.isDispatched]) (by simp)

/-- The connection is established, if the hook before has not closed it. -/
theorem Delivered.establish {conn : Conn} (kept : Delivered conn.state conn.trace) :
    Delivered (establish conn).state (establish conn).trace := by
  rw [establish_trace]
  have unnotified : Rechecked (conn.trace ++ [.checkpoint .connectEstablished conn.state,
      .setState .kConnected, .update conn.channel.enableReading.events]) →
      .callback .disconnected ∉ conn.trace := by
    intro rechecked member
    refine rechecked .connectEstablished rfl ?_
    simp [kept.closed rechecked.of_append member]
  refine ⟨fun rechecked member => absurd ?_ (unnotified rechecked), fun rechecked => ?_⟩
  · simpa using member
  · exact (kept.ordered rechecked.of_append).append (.silent (by simp [Event.isDelivery]))
      (by simp [Event.isDelivery])

theorem Setup.run_delivered (setup : Setup) (world : World) (depth : Nat) (steps : List Step) :
    Delivered (setup.run world depth steps).state (setup.run world depth steps).trace := by
  refine (@delivered world).run ?_ (fun _ _ _ kept => kept.establish) depth steps
  exact ⟨fun _ => (by rintro ⟨⟩), fun _ => .nil⟩

/-- In every run in which no read, handshake step or Connected notification is
reached on a closed connection, and none is established that the hook has closed,
no message, Connected or TLS notification comes after Disconnected. -/
theorem nothing_after_disconnected (setup : Setup) (world : World) (depth : Nat) (steps : List Step)
    (rechecked : Rechecked (setup.run world depth steps).trace) :
    NeverAfter Event.isDisconnected Event.isDelivery (setup.run world depth steps).trace :=
  (setup.run_delivered world depth steps).ordered rechecked

theorem nothing_after_disconnected_peer_close :
    let trace := (Setup.run { callbacks := { message := true } } {} 1 [.event { read := true }]).trace
    .callback .disconnected ∈ trace ∧ NeverAfter Event.isDisconnected Event.isDelivery trace := by
  refine ⟨by decide, nothing_after_disconnected { callbacks := { message := true } } {} 1
    [.event { read := true }] ?_⟩
  intro place
  cases place <;> decide

/-- A write in the hook fails and closes the connection, which is then established. -/
example :
    let world : World :=
      { write := fun _ _ => .failed 32
        user := fun entered _ =>
          if entered = .tls .handshakeStarted then [.await 0 { kind := .write, data := [1] }] else []
        write_le := by rintro _ _ _ ⟨⟩ }
    let trace := (Setup.run { callbacks := { tlsEvent := true }, tls := true } world 1 []).trace
    ¬Rechecked trace ∧ ¬NeverAfter Event.isDisconnected Event.isDelivery trace := by
  refine ⟨fun rechecked => ?_, by decide⟩
  exact rechecked .connectEstablished rfl (by decide)

/-- An error and readable bytes in one poll: the error closes the connection, then
the read delivers a message. -/
theorem message_after_disconnected :
    let world : World := { read := fun _ => .bytes [1] }
    ¬NeverAfter Event.isDisconnected Event.isDelivery
      (Setup.run { callbacks := { message := true } } world 1
        [.event { error := true, read := true }]).trace := by
  decide

end MiniTrantor.Net
