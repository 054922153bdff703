import MiniTrantor.Net.Client.ConnectorRun

/-!
# What a connector promises

Every socket that a connector makes is delivered once or closed once, and the
phase and the generation say at every point what may still happen.
-/

set_option autoImplicit false

namespace MiniTrantor.Net.Connector

def Event.isStart : Event → Bool
  | .started => true
  | _ => false

def Event.isStop : Event → Bool
  | .stopped => true
  | _ => false

/-- What the user of a connector gets from it. -/
def Event.isOutput : Event → Bool
  | .emitted _ | .delivered _ => true
  | _ => false

/-- What the trace gets at the end of a call. -/
def Event.isCall : Event → Bool
  | .started | .stopped | .destroyed => true
  | _ => false

theorem Event.count_call {event : Event} (isCall : event.isCall = true) (socket : SocketId) :
    [event].count (.created socket) = 0 ∧ [event].count (.closed socket) = 0 ∧
      [event].count (.delivered socket) = 0 := by
  cases event <;> cases isCall <;> simp

theorem Next.hook_frame (next : Next) (callback : Bool) :
    (next.hook callback).map (·.frame) = next.frame? := by
  cases next <;> rfl

namespace Turn

variable (turn : Turn) (socket : SocketId)

theorem count_created : turn.events.count (.created socket) = turn.created.toList.count socket := by
  obtain ⟨connector, created, closed, next⟩ := turn
  cases created <;> cases closed <;> cases next <;>
    simp [events, Next.events, List.count_cons, apply_ite (List.count _)]

theorem count_closed : turn.events.count (.closed socket) = turn.closed.toList.count socket := by
  obtain ⟨connector, created, closed, next⟩ := turn
  cases created <;> cases closed <;> cases next <;>
    simp [events, Next.events, List.count_cons, apply_ite (List.count _)]

theorem count_delivered :
    turn.events.count (.delivered socket) = turn.next.delivered.count socket := by
  obtain ⟨connector, created, closed, next⟩ := turn
  cases created <;> cases closed <;> cases next <;>
    simp [events, Next.events, Next.delivered, List.count_cons, apply_ite (List.count _)]

/-- A stretch is not a call. -/
theorem events_idle : ∀ event ∈ turn.events, event.isStart = false ∧ event.isStop = false := by
  obtain ⟨connector, created, closed, next⟩ := turn
  cases created <;> cases closed <;> cases next <;>
    simp [events, Next.events, Event.isStart, Event.isStop]

theorem events_silent (done : turn.next = .done) : ∀ event ∈ turn.events, event.isOutput = false := by
  obtain ⟨connector, created, closed, next⟩ := turn
  cases done
  cases created <;> cases closed <;> simp [events, Next.events, Event.isOutput]

end Turn

namespace System

def frame (system : System) : Option Frame := system.hook.map (·.frame)

/-- One step: a stretch, a call, the end, or an event for which there is no callback. -/
inductive Moves (system : System) : System → Prop where
  | stretch {turn : Turn} (writable : Option Nat) (alive : system.destroyed = false)
      (stretch : Stretch system.connector system.sockets system.frame turn) :
      Moves system { system.take turn with writable }
  | call (call : Call) (alive : system.destroyed = false) : Moves system (system.call call)
  | destroy (idle : system.idle = true) (alive : system.destroyed = false)
      (left : system.owned = false) :
      Moves system { system.called system.connector.destroy [.destroyed] with destroyed := true }
  | nothing : Moves system system

/-- What is known of a connector in the middle of any run. -/
structure Sound (system : System) : Prop where
  gone : system.destroyed = true → system.owned = false ∧ system.hook = none ∧
    system.writable = none ∧ system.connector.channel = none
  valid : system.destroyed = false → Valid system.frame system.connector
  fresh : ∀ socket, system.trace.count (.created socket) = if socket < system.sockets then 1 else 0
  ledger : ∀ socket, system.trace.count (.closed socket) + system.trace.count (.delivered socket) +
    (held system.frame system.connector).count socket = system.trace.count (.created socket)
  halted : system.destroyed = false → Trace.shut Event.isStart Event.isStop system.trace = true →
    Halted system.frame system.connector
  gated : Trace.Gated Event.isStart Event.isStop Event.isOutput system.trace

variable {system next : System} {turn : Turn}

theorem Sound.initial (options : ConnectorOptions) : Sound (initial options) where
  gone := by
    intro gone
    cases gone
  valid := fun _ => .create options
  fresh := by simp [System.initial]
  ledger := by simp [System.initial, System.frame, held, create]
  halted := by
    intro _ shut
    cases shut
  gated := by
    intro before event after split
    simp [System.initial] at split

theorem Sound.alive_of_owned (sound : Sound system) (owned : system.owned = true) :
    system.destroyed = false := by
  by_contra gone
  have left := (sound.gone (by simpa using gone)).1
  rw [owned] at left
  cases left

theorem Sound.alive_of_hook (sound : Sound system) {hook : Hook} (runs : system.hook = some hook) :
    system.destroyed = false := by
  by_contra gone
  have left := (sound.gone (by simpa using gone)).2.1
  rw [runs] at left
  cases left

theorem Sound.alive_of_writable (sound : Sound system) {generation : Nat}
    (writable : system.writable = some generation) : system.destroyed = false := by
  by_contra gone
  have left := (sound.gone (by simpa using gone)).2.2.1
  rw [writable] at left
  cases left

theorem hook_of_idle (idle : system.idle = true) : system.hook = none := by
  simp only [System.idle, Bool.and_eq_true, Option.isNone_iff_eq_none] at idle
  exact idle.1

theorem frame_of_hook (unhooked : system.hook = none) : system.frame = none := by
  rw [frame, unhooked]
  rfl

/-- A stretch that starts when no hook runs. -/
theorem Moves.loop {writable : Option Nat} (unhooked : system.hook = none)
    (alive : system.destroyed = false)
    (stretch : Stretch system.connector system.sockets none turn) :
    Moves system { system.take turn with writable } := by
  rw [← frame_of_hook unhooked] at stretch
  exact .stretch writable alive stretch

theorem step_moves (sound : Sound system) {action : Action}
    (taken : system.step action = some next) : Moves system next := by
  cases action with
  | call call =>
      simp only [step, Option.ite_none_right_eq_some, Bool.and_eq_true, Option.some.injEq] at taken
      obtain ⟨⟨owned, _⟩, rfl⟩ := taken
      exact .call call (sound.alive_of_owned owned)
  | startInLoop generation =>
      simp only [step, Option.ite_none_right_eq_some, Bool.and_eq_true, Option.some.injEq] at taken
      obtain ⟨⟨⟨owned, idle⟩, _⟩, rfl⟩ := taken
      exact .loop (hook_of_idle idle) (sound.alive_of_owned owned) (.startInLoop generation)
  | handleEvent error write probe =>
      rw [step] at taken
      split at taken
      case h_2 => cases taken
      case h_1 channel _ =>
        simp only [Option.ite_none_right_eq_some, Bool.and_eq_true, Option.some.injEq] at taken
        obtain ⟨⟨owned, idle⟩, rfl⟩ := taken
        have unhooked := hook_of_idle idle
        have alive := sound.alive_of_owned owned
        rw [handleEvent]
        split
        · exact .loop unhooked alive (.handleError channel.generation)
        · split
          · exact .loop unhooked alive (.handleWrite channel.generation probe)
          · exact .nothing
  | handleTimer timer =>
      simp only [step, Option.ite_none_right_eq_some, Bool.and_eq_true, Option.some.injEq] at taken
      obtain ⟨⟨⟨owned, idle⟩, _⟩, rfl⟩ := taken
      exact .loop (hook_of_idle idle) (sound.alive_of_owned owned) (.handleTimer timer)
  | resume opening =>
      rw [step] at taken
      split at taken
      case h_2 => cases taken
      case h_1 hook runs =>
        cases taken
        have stretch := @Stretch.resume system.connector system.sockets hook.frame opening
        have framed : system.frame = some hook.frame := by rw [frame, runs]; rfl
        rw [← framed] at stretch
        exact .stretch system.writable (sound.alive_of_hook runs) stretch
  | writeCallback probe =>
      rw [step] at taken
      split at taken
      case h_2 => cases taken
      case h_1 generation unhooked writable =>
        cases taken
        exact .loop unhooked (sound.alive_of_writable writable) (.handleWrite generation probe)
  | destroy =>
      simp only [step, Option.ite_none_right_eq_some, Bool.and_eq_true, Option.some.injEq,
        Bool.not_eq_true'] at taken
      obtain ⟨⟨⟨left, idle⟩, alive⟩, rfl⟩ := taken
      exact .destroy idle alive left

theorem fresh_succ (socket sockets : Nat) :
    (if socket < sockets then 1 else 0) + [sockets].count socket =
      if socket < sockets + 1 then 1 else 0 := by
  rw [List.count_singleton']
  split_ifs <;> omega

theorem frame_take (turn : Turn) (system : System) : (system.take turn).frame = turn.next.frame? :=
  turn.next.hook_frame _

theorem Sound.stretch (sound : Sound system) (alive : system.destroyed = false)
    (stretch : Stretch system.connector system.sockets system.frame turn)
    (writable : Option Nat) : Sound { system.take turn with writable } := by
  have valid := sound.valid alive
  have framed : System.frame { system.take turn with writable } = turn.next.frame? :=
    frame_take turn system
  constructor
  · intro gone
    cases alive.symm.trans gone
  · intro _
    rw [framed]
    exact stretch.valid valid
  · intro socket
    change (system.trace ++ turn.events).count _ =
      if socket < system.sockets + turn.created.toList.length then 1 else 0
    rw [List.count_append, turn.count_created, sound.fresh]
    rcases stretch.created with none | some
    · simp [none]
    · rw [some]
      exact fresh_succ socket system.sockets
  · intro socket
    have balanced := congrArg (List.count socket) (stretch.balanced valid)
    have ledger := sound.ledger socket
    simp only [List.count_append] at balanced
    rw [framed]
    change (system.trace ++ turn.events).count _ + (system.trace ++ turn.events).count _ +
      (held turn.next.frame? turn.connector).count socket = (system.trace ++ turn.events).count _
    simp only [List.count_append, turn.count_closed, turn.count_delivered, turn.count_created]
    omega
  · intro _ shut
    rw [framed]
    change Trace.shut _ _ (system.trace ++ turn.events) = true at shut
    rw [Trace.shut_append turn.events_idle] at shut
    obtain ⟨done, halted⟩ := stretch.halted (sound.halted alive shut)
    rw [done]
    exact halted
  · refine sound.gated.append turn.events_idle fun event member told => ?_
    -- Something is told only by a connector that was not stopped.
    by_contra shut
    obtain ⟨done, _⟩ := stretch.halted (sound.halted alive (by simpa using shut))
    rw [turn.events_silent done event member] at told
    cases told

section Called

/-- A call makes and delivers no socket, and keeps those that it does not close. -/
theorem Sound.called_ledger (sound : Sound system) {event : Event} (isCall : event.isCall = true)
    (created : turn.created = none) (done : turn.next = .done)
    (balanced : turn.closed.toList ++ held system.frame turn.connector =
      held system.frame system.connector) (socket : SocketId) :
    (system.called turn [event]).trace.count (.created socket) =
        system.trace.count (.created socket) ∧
      (system.called turn [event]).trace.count (.closed socket) +
        (system.called turn [event]).trace.count (.delivered socket) +
        (held system.frame turn.connector).count socket =
          system.trace.count (.created socket) := by
  obtain ⟨noneCreated, noneClosed, noneDelivered⟩ := Event.count_call isCall socket
  have balanced := congrArg (List.count socket) balanced
  have ledger := sound.ledger socket
  rw [List.count_append] at balanced
  simp only [System.called, List.count_append, turn.count_created, turn.count_closed,
    turn.count_delivered, created, done, noneCreated, noneClosed, noneDelivered, Next.delivered,
    Option.toList_none, List.count_nil]
  omega

theorem Sound.called_gated (sound : Sound system) {event : Event} (isCall : event.isCall = true)
    (done : turn.next = .done) :
    Trace.Gated Event.isStart Event.isStop Event.isOutput (system.called turn [event]).trace := by
  refine (sound.gated.append turn.events_idle fun other member told => ?_).snoc fun told => ?_
  · rw [turn.events_silent done other member] at told
    cases told
  · cases event <;> cases isCall <;> cases told

/-- A call of the user: after one that is no start the connector is stopped. -/
theorem Sound.called (sound : Sound system) (alive : system.destroyed = false) {event : Event}
    (isCall : event.isCall = true) (created : turn.created = none) (done : turn.next = .done)
    (balanced : turn.closed.toList ++ held system.frame turn.connector =
      held system.frame system.connector)
    (valid : Valid system.frame turn.connector)
    (halted : event = .started ∨ Halted system.frame turn.connector) :
    Sound (system.called turn [event]) := by
  have ledger := sound.called_ledger isCall created done balanced
  constructor
  · intro gone
    cases alive.symm.trans gone
  · exact fun _ => valid
  · exact fun socket => (ledger socket).1.trans (sound.fresh socket)
  · exact fun socket => (ledger socket).2.trans (ledger socket).1.symm
  · intro _ shut
    rcases halted with rfl | halted
    · rw [System.called, Trace.shut_snoc] at shut
      simp [Event.isStart, Event.isStop] at shut
    · exact halted
  · exact sound.called_gated isCall done

end Called

theorem Sound.destroy (sound : Sound system) (idle : system.idle = true)
    (left : system.owned = false) :
    Sound { system.called system.connector.destroy [.destroyed] with destroyed := true } := by
  have created : system.connector.destroy.created = none := by
    unfold Connector.destroy
    split <;> rfl
  have done : system.connector.destroy.next = .done := by
    unfold Connector.destroy
    split <;> rfl
  have ledger := @Sound.called_ledger _ _ sound .destroyed rfl created done destroy_balanced
  simp only [System.idle, Bool.and_eq_true, Option.isNone_iff_eq_none] at idle
  constructor
  · exact fun _ => ⟨left, idle.1, idle.2, destroy_channel⟩
  · intro alive
    cases alive
  · exact fun socket => (ledger socket).1.trans (sound.fresh socket)
  · exact fun socket => (ledger socket).2.trans (ledger socket).1.symm
  · intro alive
    cases alive
  · exact sound.called_gated rfl done

/-- Settings are no concern of the invariant. -/
theorem Sound.set {connector : Connector} (sound : Sound system) (alive : system.destroyed = false)
    (phase : connector.phase = system.connector.phase)
    (generation : connector.generation = system.connector.generation)
    (channel : connector.channel = system.connector.channel)
    (retry : connector.retryTimerId = system.connector.retryTimerId)
    (timeout : connector.connectTimeoutTimerId = system.connector.connectTimeoutTimerId) :
    Sound { system with connector } := by
  constructor
  · intro gone
    cases alive.symm.trans gone
  · exact fun _ => (sound.valid alive).same phase generation channel retry timeout
  · exact sound.fresh
  · intro socket
    have same : held system.frame connector = held system.frame system.connector := by
      rw [held, held, channel]
    change system.trace.count _ + system.trace.count _ + (held system.frame connector).count socket = _
    rw [same]
    exact sound.ledger socket
  · intro _ shut
    obtain ⟨idle, older⟩ := sound.halted alive shut
    exact ⟨phase.trans idle, fun waiting other found same => generation ▸ older waiting other found same⟩
  · exact sound.gated

theorem Sound.call (sound : Sound system) (alive : system.destroyed = false) (call : Call) :
    Sound (system.call call) := by
  have valid := sound.valid alive
  cases call with
  | start =>
      refine @Sound.called _ _ sound alive .started rfl rfl rfl ?_ valid.start (.inl rfl)
      simp [held, start_channel]
  | stop =>
      exact @Sound.called _ _ sound alive .stopped rfl rfl rfl stop_balanced valid.stop
        (.inr (.stop valid))
  | restart =>
      exact @Sound.called _ _ sound alive .started rfl rfl rfl restart_balanced valid.restart
        (.inl rfl)
  | setNewConnectionCallback set => exact sound.set alive rfl rfl rfl rfl rfl
  | setConnectorEventCallback set => exact sound.set alive rfl rfl rfl rfl rfl
  | setRetryDelay initial max =>
      unfold System.call setRetryDelay
      dsimp only
      split
      · exact sound
      · exact sound.set alive rfl rfl rfl rfl rfl
  | release =>
      refine ⟨?_, sound.valid, sound.fresh, sound.ledger, sound.halted, sound.gated⟩
      intro gone
      cases alive.symm.trans gone

theorem Sound.moves (sound : Sound system) (moves : Moves system next) : Sound next := by
  cases moves with
  | stretch writable alive stretch => exact sound.stretch alive stretch writable
  | call call alive => exact sound.call alive call
  | destroy idle _ left => exact sound.destroy idle left
  | nothing => exact sound

theorem sound_run {options : ConnectorOptions}
    (reach : Reach step (fun _ _ => True) (initial options) system) : Sound system :=
  reach.invariant (.initial options) fun _ _ _ sound _ taken => sound.moves (step_moves sound taken)

/-- A socket that was made and neither closed nor delivered. -/
def InFlight (system : System) (socket : SocketId) : Prop :=
  .created socket ∈ system.trace ∧ .closed socket ∉ system.trace ∧
    .delivered socket ∉ system.trace

theorem Sound.settled_or_held (sound : Sound system) {socket : SocketId}
    (created : .created socket ∈ system.trace) :
    (system.trace.count (.closed socket) + system.trace.count (.delivered socket) = 1 ∧
        socket ∉ held system.frame system.connector) ∨
      (system.InFlight socket ∧ socket ∈ held system.frame system.connector) := by
  have ledger := sound.ledger socket
  have fresh := sound.fresh socket
  have made := List.count_pos_iff.mpr created
  have once : system.trace.count (.created socket) = 1 := by
    split at fresh <;> omega
  rw [once] at ledger
  by_cases kept : socket ∈ held system.frame system.connector
  · have counted := List.count_pos_iff.mpr kept
    refine .inr ⟨⟨created, ?_, ?_⟩, kept⟩
    · exact List.count_eq_zero.mp (by omega)
    · exact List.count_eq_zero.mp (by omega)
  · have none := List.count_eq_zero.mpr kept
    exact .inl ⟨by omega, kept⟩

theorem Sound.held_of_inFlight (sound : Sound system) {socket : SocketId}
    (flying : system.InFlight socket) : socket ∈ held system.frame system.connector := by
  obtain ⟨created, unclosed, undelivered⟩ := flying
  rcases sound.settled_or_held created with ⟨settled, _⟩ | ⟨_, kept⟩
  · rw [List.count_eq_zero.mpr unclosed, List.count_eq_zero.mpr undelivered] at settled
    cases settled
  · exact kept

/-- At most one socket is the connector's at any time. -/
theorem held_unique {frame : Option Frame} {connector : Connector} (valid : Valid frame connector)
    {first second : SocketId} (one : first ∈ held frame connector)
    (other : second ∈ held frame connector) : first = second := by
  cases frame with
  | none =>
      simp only [held, Option.bind_none, Option.toList_none, List.append_nil, Option.mem_toList] at one other
      exact Option.mem_unique one other
  | some frame =>
      rw [held, valid.unregistered rfl] at one other
      simp only [Option.map_none, Option.toList_none, List.nil_append, Option.mem_toList] at one other
      exact Option.mem_unique one other

theorem Sound.destroyed_held (sound : Sound system) (gone : system.destroyed = true) :
    held system.frame system.connector = [] := by
  obtain ⟨_, unhooked, _, unset⟩ := sound.gone gone
  rw [frame_of_hook unhooked, held, unset]
  rfl

/-- The user stopped the connector and has not started it since. -/
def IsStopped (system : System) : Prop :=
  ∃ before after, system.trace = before ++ .stopped :: after ∧ .started ∉ after

theorem Sound.halted_of_isStopped (sound : Sound system) (alive : system.destroyed = false)
    (stopped : system.IsStopped) : Halted system.frame system.connector := by
  obtain ⟨before, after, split, never⟩ := stopped
  refine sound.halted alive ?_
  rw [split]
  refine Trace.shut_of_not_opened rfl fun other member => ?_
  cases other with
  | started => exact absurd member never
  | _ => rfl

theorem Sound.stopped_held (sound : Sound system) (stopped : system.IsStopped)
    (returned : system.hook = none) : held system.frame system.connector = [] := by
  cases alive : system.destroyed with
  | true => exact sound.destroyed_held alive
  | false =>
      have halted := sound.halted_of_isStopped alive stopped
      obtain ⟨unset, _⟩ := (sound.valid alive).quiet (by simp [halted.idle])
      rw [frame_of_hook returned, held, unset]
      rfl

/-- What becomes of the sockets that a connector makes. -/
structure SocketConservation (system : System) : Prop where
  /-- A socket is delivered once, closed once, or still the connector's own. -/
  accounted : ∀ socket, .created socket ∈ system.trace →
    (system.trace.count (.closed socket) + system.trace.count (.delivered socket) = 1 ∧
        socket ∉ held system.frame system.connector) ∨
      (system.InFlight socket ∧ socket ∈ held system.frame system.connector)
  own : ∀ socket, .closed socket ∈ system.trace ∨ .delivered socket ∈ system.trace →
    .created socket ∈ system.trace
  distinct : ∀ socket, system.trace.count (.created socket) ≤ 1
  /-- When no hook runs, a socket that is still open is the one of the channel. -/
  registered : system.hook = none → ∀ socket, system.InFlight socket →
    system.connector.phase = .connecting ∧ system.connector.channel.map (·.fd) = some socket
  stopped : system.IsStopped → system.hook = none → ∀ socket, ¬system.InFlight socket
  destroyed : system.destroyed = true → ∀ socket, ¬system.InFlight socket

theorem socket_conservation {options : ConnectorOptions}
    (reach : Reach step (fun _ _ => True) (initial options) system) : SocketConservation system := by
  have sound := sound_run reach
  have ended : system.destroyed = true → ∀ socket, ¬system.InFlight socket := by
    intro gone socket flying
    have kept := sound.held_of_inFlight flying
    rw [sound.destroyed_held gone] at kept
    cases kept
  refine ⟨fun socket => sound.settled_or_held, ?_, ?_, ?_, ?_, ended⟩
  · intro socket settled
    have ledger := sound.ledger socket
    rw [← List.count_pos_iff]
    rcases settled with closed | delivered
    · have positive := List.count_pos_iff.mpr closed
      omega
    · have positive := List.count_pos_iff.mpr delivered
      omega
  · intro socket
    rw [sound.fresh]
    split <;> omega
  · intro returned socket flying
    have kept := sound.held_of_inFlight flying
    have alive : system.destroyed = false := by
      by_contra gone
      exact ended (by simpa using gone) socket flying
    rw [frame_of_hook returned] at kept
    simp only [held, Option.bind_none, Option.toList_none, List.append_nil, Option.mem_toList] at kept
    refine ⟨(sound.valid alive).connecting.mpr (.inl ?_), kept⟩
    obtain ⟨channel, set, _⟩ := Option.map_eq_some_iff.mp kept
    rw [set]
    rfl
  · intro stopped returned socket flying
    have kept := sound.held_of_inFlight flying
    rw [sound.stopped_held stopped returned] at kept
    cases kept

/-- The first attempt succeeds, but its hook restarts the connector; the second
one is delivered. -/
def restartedInHook : List Action :=
  let probe : Probe :=
    { localAddress := { family := 2, address := 1, port := 4000 }
      peerAddress := { family := 2, address := 1, port := 80 } }
  [.call (.setNewConnectionCallback true), .call (.setConnectorEventCallback true), .call .start,
    .startInLoop 1, .resume (.opened (some .inProgress)), .handleEvent false true probe,
    .call .restart, .resume (.opened none), .startInLoop 3, .resume (.opened none),
    .handleEvent false true probe, .resume (.opened none), .call .stop, .resume (.opened none),
    .call .release, .destroy]

theorem socket_conservation_restarted :
    ∃ system : System, run step (initial {}) restartedInHook = some system ∧
      system.trace =
        [.started, .emitted .connectAttempt, .created 0, .emitted .connectSuccess, .started,
          .closed 0, .emitted .connectAttempt, .created 1, .emitted .connectSuccess, .delivered 1,
          .stopped, .destroyed] ∧
      SocketConservation system := by
  have final : ∃ system : System, run step (initial {}) restartedInHook = some system ∧
      system.trace =
        [.started, .emitted .connectAttempt, .created 0, .emitted .connectSuccess, .started,
          .closed 0, .emitted .connectAttempt, .created 1, .emitted .connectSuccess, .delivered 1,
          .stopped, .destroyed] := ⟨_, rfl, rfl⟩
  obtain ⟨system, ran, trace⟩ := final
  exact ⟨system, ran, trace, socket_conservation (.run .start (by simp) ran)⟩

/-- What the phase and the generation of a connector tell. -/
structure PhaseContract (system : System) : Prop where
  connecting : system.destroyed = false → system.hook = none →
    (system.connector.phase = .connecting ↔ system.connector.channel.isSome = true)
  retry : system.destroyed = false →
    (system.connector.retryTimerId.isSome = true ↔ system.connector.phase = .retryWaiting)
  timeout : system.destroyed = false → system.connector.connectTimeoutTimerId.isSome = true →
    system.connector.phase = .connecting
  single : ∀ first second, system.InFlight first → system.InFlight second → first = second
  /-- Only the functor, the timer or the rest of the event is gone afterwards. -/
  staleStart : ∀ generation next, generation ≠ system.connector.generation →
    system.step (.startInLoop generation) = some next →
      next = { system with connector :=
        { system.connector with starts := system.connector.starts.erase generation } }
  staleTimer : ∀ timer next, timer.generation ≠ system.connector.generation →
    system.step (.handleTimer timer) = some next →
      next = { system with connector :=
        { system.connector with timers := system.connector.timers.erase timer } }
  staleWrite : ∀ generation probe next, system.writable = some generation →
    generation ≠ system.connector.generation → system.step (.writeCallback probe) = some next →
      next = { system with writable := none }
  staleChannel : system.destroyed = false → ∀ channel, system.connector.channel = some channel →
    channel.generation = system.connector.generation
  /-- Something is told after a stop only if there was a start in between. -/
  stopped : ∀ before middle output after,
    system.trace = before ++ .stopped :: (middle ++ output :: after) → output.isOutput = true →
      .started ∈ middle

theorem stale_startInLoop {generation : Nat} (stale : generation ≠ system.connector.generation)
    (taken : system.step (.startInLoop generation) = some next) :
    next = { system with connector :=
      { system.connector with starts := system.connector.starts.erase generation } } := by
  simp only [step, Option.ite_none_right_eq_some, Bool.and_eq_true, Option.some.injEq] at taken
  obtain ⟨⟨⟨_, idle⟩, _⟩, rfl⟩ := taken
  rw [Connector.startInLoop, if_pos (.inl stale.symm), take, hook_of_idle idle]
  simp [Turn.events, Next.events, Next.hook]

theorem stale_handleTimer {timer : ConnectTimer}
    (stale : timer.generation ≠ system.connector.generation)
    (taken : system.step (.handleTimer timer) = some next) :
    next = { system with connector :=
      { system.connector with timers := system.connector.timers.erase timer } } := by
  simp only [step, Option.ite_none_right_eq_some, Bool.and_eq_true, Option.some.injEq] at taken
  obtain ⟨⟨⟨_, idle⟩, _⟩, rfl⟩ := taken
  have nothing : system.connector.handleTimer timer = { connector :=
      { system.connector with timers := system.connector.timers.erase timer } } := by
    unfold Connector.handleTimer handleConnectTimeout handleRetry
    dsimp only
    split
    · rw [if_pos (.inl stale.symm)]
    · rw [if_pos (.inl stale.symm)]
  rw [nothing, take, hook_of_idle idle]
  simp [Turn.events, Next.events, Next.hook]

theorem stale_writeCallback {generation : Nat} {probe : Probe}
    (writable : system.writable = some generation)
    (stale : generation ≠ system.connector.generation)
    (taken : system.step (.writeCallback probe) = some next) :
    next = { system with writable := none } := by
  rw [step, writable] at taken
  split at taken
  case h_2 => cases taken
  case h_1 unhooked same =>
    cases same
    cases taken
    rw [handleWrite, if_pos (.inl stale.symm), take, unhooked]
    simp [Turn.events, Next.events, Next.hook]

theorem phase_contract {options : ConnectorOptions}
    (reach : Reach step (fun _ _ => True) (initial options) system) : PhaseContract system := by
  have sound := sound_run reach
  constructor
  · intro alive returned
    have connecting := (sound.valid alive).connecting
    rw [frame_of_hook returned] at connecting
    simpa using connecting
  · exact fun alive => (sound.valid alive).retry
  · intro alive timed
    exact (sound.valid alive).connecting.mpr (.inl ((sound.valid alive).timeout timed))
  · intro first second one other
    have kept := sound.held_of_inFlight one
    cases alive : system.destroyed with
    | true =>
        rw [sound.destroyed_held alive] at kept
        cases kept
    | false => exact held_unique (sound.valid alive) kept (sound.held_of_inFlight other)
  · exact fun generation next stale taken => stale_startInLoop stale taken
  · exact fun timer next stale taken => stale_handleTimer stale taken
  · exact fun generation probe next writable stale taken => stale_writeCallback writable stale taken
  · exact fun alive => (sound.valid alive).registered
  · intro before middle output after split told
    obtain ⟨other, member, opened⟩ := sound.gated.opened split rfl told
    cases other <;> cases opened
    exact member

/-- An attempt fails, the retry is set, and the hook that tells so stops the
connector; then the connector is started again and the event for writing comes
in the same round as the one that failed. -/
def stoppedInHook : List Action :=
  let probe : Probe :=
    { localAddress := { family := 2, address := 1, port := 4000 }
      peerAddress := { family := 2, address := 1, port := 80 } }
  [.call (.setConnectorEventCallback true), .call .start, .startInLoop 1, .resume (.opened none),
    .handleEvent true true probe, .resume (.opened none), .call .stop, .call .start,
    .resume (.opened none), .writeCallback probe, .startInLoop 3]

theorem phase_contract_stopped :
    ∃ system : System, run step (initial { enableRetry := true }) stoppedInHook = some system ∧
      system.connector.phase = .connecting ∧ system.connector.retryDelay = 1000 ∧
      system.trace =
        [.started, .emitted .connectAttempt, .created 0, .closed 0, .emitted .connectFailed,
          .emitted .retryScheduled, .stopped, .started, .emitted .connectAttempt] ∧
      PhaseContract system := by
  have final : ∃ system : System,
      run step (initial { enableRetry := true }) stoppedInHook = some system ∧
      system.connector.phase = .connecting ∧ system.connector.retryDelay = 1000 ∧
      system.trace =
        [.started, .emitted .connectAttempt, .created 0, .closed 0, .emitted .connectFailed,
          .emitted .retryScheduled, .stopped, .started, .emitted .connectAttempt] :=
    ⟨_, rfl, rfl, rfl, rfl⟩
  obtain ⟨system, ran, phase, delay, trace⟩ := final
  exact ⟨system, ran, phase, delay, trace, phase_contract (.run .start (by simp) ran)⟩

end System

end MiniTrantor.Net.Connector
