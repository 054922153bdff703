import MiniTrantor.Net.Client.Connector

/-!
# Phases and generations of a connector

The phase says which of channel and timers the connector has. It holds at every
hook as well, where the function that runs the hook is remembered by its frame:
the frame of an older generation has nothing left to do.
-/

set_option autoImplicit false

namespace MiniTrantor.Net.Connector

def Frame.generation? : Frame → Option Nat
  | .attempting generation | .succeeding generation _ | .failing generation _ => some generation
  | .delivering | .retrying => none

/-- The phase that a function expects to find when its hook returns. -/
def Frame.phase : Frame → Phase
  | .attempting _ => .connecting
  | .succeeding .. => .connected
  | .failing .. | .delivering | .retrying => .idle

def Next.frame? : Next → Option Frame
  | .done => none
  | .emit _ frame => some frame
  | .deliver _ => some .delivering

/-- A connector while the given function waits for its hook. -/
structure Valid (frame : Option Frame) (connector : Connector) : Prop where
  connecting : connector.phase = .connecting ↔
    connector.channel.isSome = true ∨ frame = some (.attempting connector.generation)
  retry : connector.retryTimerId.isSome = true ↔ connector.phase = .retryWaiting
  timeout : connector.connectTimeoutTimerId.isSome = true → connector.channel.isSome = true
  registered : ∀ channel, connector.channel = some channel →
    channel.generation = connector.generation
  unregistered : frame.isSome = true → connector.channel = none
  current : ∀ waiting generation, frame = some waiting → waiting.generation? = some generation →
    generation ≤ connector.generation ∧
      (generation = connector.generation → connector.phase = waiting.phase)

variable {connector : Connector} {frame : Option Frame}

namespace Valid

theorem create (options : ConnectorOptions) : Valid none (create options) := by
  constructor <;> simp [Connector.create]

/-- A connector whose phase is neither connecting nor waiting has no channel and no timer. -/
theorem quiet (valid : Valid frame connector) (still : connector.phase ≠ .connecting) :
    connector.channel = none ∧ connector.connectTimeoutTimerId = none ∧
      frame ≠ some (.attempting connector.generation) := by
  have none : ¬(connector.channel.isSome = true ∨ frame = some (.attempting connector.generation)) :=
    fun found => still (valid.connecting.mpr found)
  obtain ⟨unset, elsewhere⟩ := not_or.mp none
  have unset : connector.channel = .none := by simpa using unset
  refine ⟨unset, ?_, elsewhere⟩
  cases timer : connector.connectTimeoutTimerId with
  | none => rfl
  | some id =>
      have found := valid.timeout (by rw [timer]; rfl)
      rw [unset] at found
      cases found

theorem start (valid : Valid frame connector) : Valid frame connector.start := by
  rw [Connector.start]
  split
  case isTrue => exact valid
  case isFalse idle =>
    have idle : connector.phase = .idle := by simpa using idle
    obtain ⟨unset, untimed, _⟩ := valid.quiet (by simp [idle])
    have older : ∀ waiting generation, frame = some waiting →
        waiting.generation? = some generation → generation ≤ connector.generation :=
      fun waiting generation found same => (valid.current waiting generation found same).1
    have retry := valid.retry
    rw [idle] at retry
    constructor
    · constructor
      · intro starting
        cases starting
      · intro found
        rcases found with set | attempting
        · rw [unset] at set
          cases set
        · exact absurd (older _ _ attempting rfl) (Nat.not_succ_le_self _)
    · simpa using retry
    · simp [untimed]
    · simp [unset]
    · exact fun _ => unset
    · intro waiting generation found same
      have below := older waiting generation found same
      refine ⟨Nat.le_succ_of_le below, fun equal => ?_⟩
      exact absurd (equal ▸ below) (Nat.not_succ_le_self _)

/-- Stopping leaves nothing behind that a function could still act on. -/
theorem stop (valid : Valid frame connector) : Valid frame connector.stop.connector := by
  have older : ∀ waiting generation, frame = some waiting →
      waiting.generation? = some generation → generation ≤ connector.generation :=
    fun waiting generation found same => (valid.current waiting generation found same).1
  constructor
  · constructor
    · intro idle
      cases idle
    · intro found
      rcases found with set | attempting
      · cases set
      · exact absurd (older _ _ attempting rfl) (Nat.not_succ_le_self _)
  · constructor
    · intro set
      cases set
    · intro idle
      cases idle
  · intro set
    cases set
  · intro channel set
    cases set
  · exact fun _ => rfl
  · intro waiting generation found same
    have below := older waiting generation found same
    refine ⟨Nat.le_succ_of_le below, fun equal => ?_⟩
    exact absurd (equal ▸ below) (Nat.not_succ_le_self _)

/-- What is not the phase, the generation, the channel or a timer may change. -/
theorem same {changed : Connector} (valid : Valid frame connector)
    (phase : changed.phase = connector.phase) (generation : changed.generation = connector.generation)
    (channel : changed.channel = connector.channel)
    (retry : changed.retryTimerId = connector.retryTimerId)
    (timeout : changed.connectTimeoutTimerId = connector.connectTimeoutTimerId) :
    Valid frame changed := by
  obtain ⟨connecting, waiting, timed, registered, unregistered, current⟩ := valid
  constructor
  · rw [phase, channel, generation]; exact connecting
  · rw [retry, phase]; exact waiting
  · rw [timeout, channel]; exact timed
  · rw [channel, generation]; exact registered
  · rw [channel]; exact unregistered
  · rw [generation, phase]; exact current

theorem restart (valid : Valid frame connector) : Valid frame connector.restart.connector := by
  have reset : Valid frame { connector.stop.connector with
      retryDelay := connector.stop.connector.initialRetryDelay } :=
    valid.stop.same rfl rfl rfl rfl rfl
  exact reset.start

/-- The function that ran the hook has nothing left to do. -/
theorem leave (valid : Valid frame connector)
    (elsewhere : frame ≠ some (.attempting connector.generation)) : Valid none connector := by
  refine ⟨?_, valid.retry, valid.timeout, valid.registered, by simp, by simp⟩
  have connecting := valid.connecting
  simp only [elsewhere, or_false] at connecting
  simpa using connecting

/-- A function whose attempt is over tells its hook. -/
theorem fail (unset : connector.channel = none) (sockfd : Option SocketId)
    (event : ConnectorEvent) (retryable : Bool) :
    Valid (some (.failing connector.generation retryable))
      (connector.fail sockfd event connector.generation retryable).connector := by
  have unset : connector.cancelTimers.channel = none := unset
  constructor
  · constructor
    · intro idle
      cases idle
    · intro found
      rcases found with set | attempting
      · rw [Connector.fail, unset] at set
        cases set
      · cases attempting
  · constructor
    · intro set
      cases set
    · intro idle
      cases idle
  · intro set
    cases set
  · intro channel set
    rw [Connector.fail, unset] at set
    cases set
  · exact fun _ => unset
  · intro waiting generation found same
    cases found
    cases same
    exact ⟨Nat.le_refl _, fun _ => rfl⟩

theorem startInLoop (valid : Valid none connector) (generation : Nat) :
    Valid (connector.startInLoop generation).next.frame?
      (connector.startInLoop generation).connector := by
  rw [Connector.startInLoop]
  split
  case isTrue => exact valid
  case isFalse now =>
    obtain ⟨same, queued⟩ := not_or.mp now
    have same : connector.generation = generation := by simpa using same
    have queued : connector.phase = .startQueued := by simpa using queued
    obtain ⟨unset, untimed, _⟩ := valid.quiet (by simp [queued])
    have retry := valid.retry
    rw [queued] at retry
    constructor
    · simp [Next.frame?, same]
    · simpa using retry
    · simp [untimed]
    · simp [unset]
    · exact fun _ => unset
    · intro waiting other found equal
      cases found
      cases equal
      exact ⟨same.ge, fun _ => rfl⟩

/-- The channel of an attempt is set when its hook has returned. -/
theorem connecting_set (valid : Valid frame connector) (phase : connector.phase = .connecting)
    (socket : SocketId) :
    Valid none (connector.connecting socket connector.generation) := by
  have retry := valid.retry
  rw [phase] at retry
  rw [Connector.connecting]
  split
  · constructor <;> simp [runAfter, phase, retry]
  · constructor <;> simp [phase, retry]

theorem attempted {generation : Nat} (valid : Valid (some (.attempting generation)) connector)
    (socket : SocketId) (opening : Opening) :
    Valid (connector.attempted generation socket opening).next.frame?
      (connector.attempted generation socket opening).connector := by
  have unset := valid.unregistered rfl
  unfold Connector.attempted
  split
  case isTrue stale =>
    refine valid.leave fun here => ?_
    cases here
    rcases stale with other | still
    · exact other rfl
    · exact still ((valid.current _ _ rfl rfl).2 rfl)
  case isFalse now =>
    obtain ⟨same, connecting⟩ := not_or.mp now
    have same : connector.generation = generation := by simpa using same
    have connecting : connector.phase = .connecting := by simpa using connecting
    subst same
    cases opening with
    | unavailable error => exact fail unset _ _ _
    | opened refused =>
        cases refused with
        | none => exact valid.connecting_set connecting socket
        | some error =>
            simp only
            split
            · exact valid.connecting_set connecting socket
            · exact fail unset (some socket) .connectFailed _

theorem handleWrite (valid : Valid none connector) (generation : Nat) (probe : Probe) :
    Valid (connector.handleWrite generation probe).next.frame?
      (connector.handleWrite generation probe).connector := by
  rw [Connector.handleWrite]
  split
  case isTrue => exact valid
  case isFalse now =>
    obtain ⟨same, _⟩ := not_or.mp now
    have same : connector.generation = generation := by simpa using same
    subst same
    cases connector.channel with
    | none => exact valid
    | some channel =>
        simp only
        split
        · exact @fail connector.cancelTimers.removeAndResetChannel rfl _ _ _
        · split
          · exact @fail connector.cancelTimers.removeAndResetChannel rfl _ _ _
          · constructor
            · simp [cancelTimers, removeAndResetChannel, Next.frame?]
            · simp [cancelTimers, removeAndResetChannel]
            · simp [cancelTimers, removeAndResetChannel]
            · simp [removeAndResetChannel]
            · exact fun _ => rfl
            · intro waiting other found equal
              cases found
              cases equal
              exact ⟨Nat.le_refl _, fun _ => rfl⟩

theorem succeeded {generation : Nat} {socket : SocketId}
    (valid : Valid (some (.succeeding generation socket)) connector) :
    Valid (connector.succeeded generation socket).next.frame?
      (connector.succeeded generation socket).connector := by
  have unset := valid.unregistered rfl
  rw [Connector.succeeded]
  split
  case isTrue => exact valid.leave (by simp)
  case isFalse now =>
    obtain ⟨same, connected⟩ := not_or.mp now
    have connected : connector.phase = .connected := by simpa using connected
    obtain ⟨_, untimed, _⟩ := valid.quiet (by simp [connected])
    have left : Valid none connector := valid.leave (by simp)
    split
    · refine ⟨?_, left.retry, left.timeout, left.registered, fun _ => unset, ?_⟩
      · simp [connected, unset, Next.frame?]
      · intro waiting other found equal
        cases found
        cases equal
    · have retry := left.retry
      rw [connected] at retry
      constructor <;> simp [unset, untimed, retry, Next.frame?]

theorem handleError (valid : Valid none connector) (generation : Nat) :
    Valid (connector.handleError generation).next.frame?
      (connector.handleError generation).connector := by
  rw [Connector.handleError]
  split
  case isTrue => exact valid
  case isFalse now =>
    obtain ⟨same, _⟩ := not_or.mp now
    have same : connector.generation = generation := by simpa using same
    subst same
    cases connector.channel with
    | none => exact valid
    | some channel => exact @fail connector.removeAndResetChannel rfl _ _ _

theorem handleConnectTimeout (valid : Valid none connector) (generation : Nat) :
    Valid (connector.handleConnectTimeout generation).next.frame?
      (connector.handleConnectTimeout generation).connector := by
  rw [Connector.handleConnectTimeout]
  split
  case isTrue => exact valid
  case isFalse now =>
    obtain ⟨same, _⟩ := not_or.mp now
    have same : connector.generation = generation := by simpa using same
    subst same
    cases connector.channel with
    | none => exact valid
    | some channel =>
        exact @fail { connector with connectTimeoutTimerId := none }.removeAndResetChannel rfl _ _ _

theorem handleRetry (valid : Valid none connector) (generation : Nat) :
    Valid (connector.handleRetry generation).next.frame?
      (connector.handleRetry generation).connector := by
  rw [Connector.handleRetry]
  split
  case isTrue => exact valid
  case isFalse now =>
    obtain ⟨_, waiting⟩ := not_or.mp now
    have waiting : connector.phase = .retryWaiting := by simpa using waiting
    obtain ⟨unset, untimed, _⟩ := valid.quiet (by simp [waiting])
    have idle : Valid none { connector with retryTimerId := none, phase := .idle } := by
      constructor <;> simp [unset, untimed]
    exact idle.start

theorem handleTimer (valid : Valid none connector) (timer : ConnectTimer) :
    Valid (connector.handleTimer timer).next.frame? (connector.handleTimer timer).connector := by
  have fired : Valid none { connector with timers := connector.timers.erase timer } :=
    valid.same rfl rfl rfl rfl rfl
  rw [Connector.handleTimer]
  cases timer.kind with
  | connectTimeout => exact fired.handleConnectTimeout _
  | retry => exact fired.handleRetry _

theorem failed {generation : Nat} {retryable : Bool}
    (valid : Valid (some (.failing generation retryable)) connector) :
    Valid (connector.failed generation retryable).next.frame?
      (connector.failed generation retryable).connector := by
  have unset := valid.unregistered rfl
  rw [Connector.failed]
  split
  case isFalse => exact valid.leave (by simp)
  case isTrue again =>
    obtain ⟨_, idle, _⟩ := again
    obtain ⟨_, untimed, _⟩ := valid.quiet (by simp [idle])
    constructor
    · simp [scheduleRetry, runAfter, unset, Next.frame?]
    · simp [scheduleRetry, runAfter]
    · simp [scheduleRetry, runAfter, untimed]
    · simp [scheduleRetry, runAfter, unset]
    · exact fun _ => unset
    · intro waiting other found equal
      cases found
      cases equal

/-- Whatever the hook did, the function that ran it goes on soundly. -/
theorem resume {frame : Frame} (valid : Valid (some frame) connector) (socket : SocketId)
    (opening : Opening) :
    Valid (connector.resume frame socket opening).next.frame?
      (connector.resume frame socket opening).connector := by
  cases frame with
  | attempting generation => exact valid.attempted socket opening
  | succeeding generation held => exact valid.succeeded
  | failing generation retryable => exact valid.failed
  | delivering => exact valid.leave (by simp)
  | retrying => exact valid.leave (by simp)

end Valid

/-- A stretch that the loop runs, or that goes on after the hook of the frame. -/
inductive Stretch (connector : Connector) (socket : SocketId) : Option Frame → Turn → Prop where
  | startInLoop (generation : Nat) :
      Stretch connector socket none
        ({ connector with starts := connector.starts.erase generation }.startInLoop generation)
  | handleWrite (generation : Nat) (probe : Probe) :
      Stretch connector socket none (connector.handleWrite generation probe)
  | handleError (generation : Nat) : Stretch connector socket none (connector.handleError generation)
  | handleTimer (timer : ConnectTimer) :
      Stretch connector socket none (connector.handleTimer timer)
  | resume (frame : Frame) (opening : Opening) :
      Stretch connector socket (some frame) (connector.resume frame socket opening)

variable {socket : SocketId} {turn : Turn}

theorem Stretch.valid (stretch : Stretch connector socket frame turn)
    (valid : Valid frame connector) : Valid turn.next.frame? turn.connector := by
  cases stretch with
  | startInLoop generation =>
      have taken : Valid none { connector with starts := connector.starts.erase generation } :=
        valid.same rfl rfl rfl rfl rfl
      exact taken.startInLoop generation
  | handleWrite generation probe => exact valid.handleWrite generation probe
  | handleError generation => exact valid.handleError generation
  | handleTimer timer => exact valid.handleTimer timer
  | resume frame opening => exact valid.resume socket opening

section Sockets

/-- The socket that a function has on its stack while its hook runs. -/
def Frame.socket? : Frame → Option SocketId
  | .succeeding _ socket => some socket
  | _ => none

/-- The sockets that are the connector's own. -/
def held (frame : Option Frame) (connector : Connector) : List SocketId :=
  (connector.channel.map (·.fd)).toList ++ (frame.bind Frame.socket?).toList

def Next.delivered : Next → List SocketId
  | .deliver socket => [socket]
  | _ => []

/-- Every socket that was there or was made is closed, delivered or kept. -/
def Turn.Balanced (frame : Option Frame) (connector : Connector) (turn : Turn) : Prop :=
  turn.closed.toList ++ turn.next.delivered ++ held turn.next.frame? turn.connector =
    held frame connector ++ turn.created.toList

theorem Turn.Balanced.nothing {changed : Connector} (same : changed.channel = connector.channel) :
    Turn.Balanced none connector { connector := changed } := by
  simp [Turn.Balanced, held, Next.delivered, Next.frame?, same]

theorem startInLoop_balanced (generation : Nat) :
    (connector.startInLoop generation).Balanced none connector := by
  unfold startInLoop
  split
  · exact .nothing rfl
  · simp [Turn.Balanced, held, Next.delivered, Next.frame?, Frame.socket?]

/-- A failure closes the socket that it is given. -/
theorem fail_balanced {before : Connector} (sockfd : Option SocketId) (event : ConnectorEvent)
    (generation : Nat) (retryable : Bool) (unset : connector.channel = none)
    (own : held frame before = sockfd.toList) :
    (connector.fail sockfd event generation retryable).Balanced frame before := by
  rw [Turn.Balanced, own]
  simp [fail, held, cancelTimers, unset, Next.delivered, Next.frame?, Frame.socket?]

theorem handleWrite_balanced (generation : Nat) (probe : Probe) :
    (connector.handleWrite generation probe).Balanced none connector := by
  unfold handleWrite
  split
  · exact .nothing rfl
  · split
    case h_1 => exact .nothing rfl
    case h_2 channel set =>
      have own : held none connector = [channel.fd] := by simp [held, set]
      dsimp only
      split
      · exact fail_balanced _ _ _ _ rfl own
      · split
        · exact fail_balanced _ _ _ _ rfl own
        · rw [Turn.Balanced, own]
          simp [held, removeAndResetChannel, Next.delivered, Next.frame?, Frame.socket?]

theorem handleError_balanced (generation : Nat) :
    (connector.handleError generation).Balanced none connector := by
  unfold handleError
  split
  · exact .nothing rfl
  · split
    case h_1 => exact .nothing rfl
    case h_2 channel set => exact fail_balanced _ _ _ _ rfl (by simp [held, set])

theorem handleConnectTimeout_balanced (generation : Nat) :
    (connector.handleConnectTimeout generation).Balanced none connector := by
  unfold handleConnectTimeout
  split
  · exact .nothing rfl
  · split
    case h_1 => exact .nothing rfl
    case h_2 channel set => exact fail_balanced _ _ _ _ rfl (by simp [held, set])

theorem handleRetry_balanced (generation : Nat) :
    (connector.handleRetry generation).Balanced none connector := by
  unfold handleRetry
  split
  · exact .nothing rfl
  · exact .nothing rfl

theorem handleTimer_balanced (timer : ConnectTimer) :
    (connector.handleTimer timer).Balanced none connector := by
  unfold handleTimer
  dsimp only
  split
  · exact handleConnectTimeout_balanced timer.generation
  · exact handleRetry_balanced timer.generation

theorem connecting_channel (socket : SocketId) (generation : Nat) :
    (connector.connecting socket generation).channel = some { fd := socket, generation } := by
  unfold connecting
  dsimp only
  split <;> rfl

theorem attempted_balanced (generation : Nat) (opening : Opening) (unset : connector.channel = none) :
    (connector.attempted generation socket opening).Balanced (some (.attempting generation))
      connector := by
  have own : held (some (.attempting generation)) connector = [] := by
    simp [held, unset, Frame.socket?]
  unfold attempted
  split
  · rw [Turn.Balanced, own]
    simp [held, unset, Next.delivered, Next.frame?]
  · cases opening with
    | unavailable error => exact fail_balanced _ _ _ _ unset own
    | opened refused =>
        have registered : Turn.Balanced (some (.attempting generation)) connector
            { connector := connector.connecting socket generation, created := some socket } := by
          rw [Turn.Balanced, own]
          simp [held, connecting_channel, Next.delivered, Next.frame?]
        cases refused with
        | none => exact registered
        | some error =>
            dsimp only
            split
            · exact registered
            · rw [Turn.Balanced, own]
              simp [fail, held, cancelTimers, unset, Next.delivered, Next.frame?, Frame.socket?]

theorem resume_balanced {frame : Frame} (opening : Opening) (unset : connector.channel = none) :
    (connector.resume frame socket opening).Balanced (some frame) connector := by
  cases frame with
  | attempting generation => exact attempted_balanced generation opening unset
  | succeeding generation own =>
      unfold resume succeeded
      dsimp only
      split
      · simp [Turn.Balanced, held, unset, Next.delivered, Next.frame?, Frame.socket?]
      · split <;> simp [Turn.Balanced, held, unset, Next.delivered, Next.frame?, Frame.socket?]
  | failing generation retryable =>
      unfold resume failed
      dsimp only
      split <;>
        simp [Turn.Balanced, held, scheduleRetry, runAfter, unset, Next.delivered, Next.frame?,
          Frame.socket?]
  | delivering =>
      simp [Turn.Balanced, resume, held, unset, Next.delivered, Next.frame?, Frame.socket?]
  | retrying =>
      simp [Turn.Balanced, resume, held, unset, Next.delivered, Next.frame?, Frame.socket?]

/-- No stretch loses or duplicates a socket. -/
theorem Stretch.balanced (stretch : Stretch connector socket frame turn)
    (valid : Valid frame connector) : turn.Balanced frame connector := by
  cases stretch with
  | startInLoop generation => exact startInLoop_balanced generation
  | handleWrite generation probe => exact handleWrite_balanced generation probe
  | handleError generation => exact handleError_balanced generation
  | handleTimer timer => exact handleTimer_balanced timer
  | resume frame opening => exact resume_balanced opening (valid.unregistered rfl)

/-- A socket that is made is the next one. -/
theorem Stretch.created (stretch : Stretch connector socket frame turn) :
    turn.created = none ∨ turn.created = some socket := by
  cases stretch with
  | startInLoop generation =>
      unfold Connector.startInLoop
      split <;> exact .inl rfl
  | handleWrite generation probe =>
      unfold Connector.handleWrite
      repeat' split
      all_goals exact .inl rfl
  | handleError generation =>
      unfold Connector.handleError
      repeat' split
      all_goals exact .inl rfl
  | handleTimer timer =>
      unfold Connector.handleTimer handleConnectTimeout handleRetry
      dsimp only
      repeat' split
      all_goals exact .inl rfl
  | resume frame opening =>
      cases frame with
      | attempting generation =>
          unfold Connector.resume attempted
          dsimp only
          repeat' split
          all_goals first | exact .inl rfl | exact .inr rfl
      | succeeding generation own =>
          unfold Connector.resume succeeded
          dsimp only
          repeat' split
          all_goals exact .inl rfl
      | failing generation retryable =>
          unfold Connector.resume failed
          dsimp only
          split <;> exact .inl rfl
      | delivering => exact .inl rfl
      | retrying => exact .inl rfl

/-- A call gives back what it does not close. -/
theorem stop_balanced : connector.stop.closed.toList ++ held frame connector.stop.connector =
    held frame connector := by
  rfl

theorem restart_balanced :
    connector.restart.closed.toList ++ held frame connector.restart.connector =
      held frame connector := by
  rfl

theorem start_channel : connector.start.channel = connector.channel := by
  unfold start
  split <;> rfl

theorem destroy_balanced : connector.destroy.closed.toList ++ held frame connector.destroy.connector =
    held frame connector := by
  unfold destroy
  split
  · rfl
  · rfl

theorem destroy_channel : connector.destroy.connector.channel = none := by
  unfold destroy
  split
  case isTrue => rfl
  case isFalse inert =>
    simp only [Bool.or_eq_true, not_or, Bool.not_eq_true, Option.isSome_eq_false_iff,
      Option.isNone_iff_eq_none] at inert
    exact inert.1.1

end Sockets

/-- Everything that a stretch can do to the phase, with the hook that it ends in. -/
inductive Shift (frame : Option Frame) (before after : Connector) : Next → Prop where
  | nothing (phase : after.phase = before.phase) (generation : after.generation = before.generation) :
      Shift frame before after .done
  | attempt (queued : before.phase = .startQueued) (phase : after.phase = .connecting)
      (generation : after.generation = before.generation) :
      Shift frame before after (.emit .connectAttempt (.attempting before.generation))
  | fail {event : ConnectorEvent} {retryable : Bool}
      (failure : event = .connectFailed ∨ event = .connectTimeout ∨ event = .selfConnectDetected)
      (connecting : before.phase = .connecting) (phase : after.phase = .idle)
      (generation : after.generation = before.generation) :
      Shift frame before after (.emit event (.failing before.generation retryable))
  | succeed {socket : SocketId} (connecting : before.phase = .connecting)
      (phase : after.phase = .connected) (generation : after.generation = before.generation) :
      Shift frame before after (.emit .connectSuccess (.succeeding before.generation socket))
  | deliver {socket : SocketId} (held : frame = some (.succeeding before.generation socket))
      (connected : before.phase = .connected) (phase : after.phase = .connected)
      (generation : after.generation = before.generation) :
      Shift frame before after (.deliver socket)
  | drop (unset : before.newConnectionCallback = false) (connected : before.phase = .connected)
      (phase : after.phase = .idle) (generation : after.generation = before.generation) :
      Shift frame before after .done
  | retry (failed : frame = some (.failing before.generation true)) (idle : before.phase = .idle)
      (enabled : before.retryEnabled = true) (phase : after.phase = .retryWaiting)
      (generation : after.generation = before.generation) :
      Shift frame before after (.emit .retryScheduled .retrying)
  | restart (waiting : before.phase = .retryWaiting) (phase : after.phase = .startQueued)
      (generation : after.generation = before.generation + 1) : Shift frame before after .done

section Shifts

/-- Only these fields of the connector count. -/
theorem Shift.before {before other after : Connector} {next : Next}
    (shift : Shift frame before after next) (phase : other.phase = before.phase)
    (generation : other.generation = before.generation)
    (retry : other.retryEnabled = before.retryEnabled)
    (callback : other.newConnectionCallback = before.newConnectionCallback) :
    Shift frame other after next := by
  cases shift with
  | nothing same kept => exact .nothing (same.trans phase.symm) (kept.trans generation.symm)
  | attempt queued now kept =>
      rw [← generation] at kept ⊢
      exact .attempt (phase.trans queued) now kept
  | fail failure connecting now kept =>
      rw [← generation] at kept ⊢
      exact .fail failure (phase.trans connecting) now kept
  | succeed connecting now kept =>
      rw [← generation] at kept ⊢
      exact .succeed (phase.trans connecting) now kept
  | deliver held connected now kept =>
      rw [← generation] at held kept
      exact .deliver held (phase.trans connected) now kept
  | drop unset connected now kept =>
      exact .drop (callback.trans unset) (phase.trans connected) now (kept.trans generation.symm)
  | retry failed idle enabled now kept =>
      rw [← generation] at failed kept
      exact .retry failed (phase.trans idle) (retry.trans enabled) now kept
  | restart waiting now kept =>
      rw [← generation] at kept
      exact .restart (phase.trans waiting) now kept

theorem shift_fail {before : Connector} (sockfd : Option SocketId) {event : ConnectorEvent}
    (retryable : Bool)
    (failure : event = .connectFailed ∨ event = .connectTimeout ∨ event = .selfConnectDetected)
    (connecting : before.phase = .connecting) (generation : connector.generation = before.generation) :
    Shift frame before (connector.fail sockfd event before.generation retryable).connector
      (connector.fail sockfd event before.generation retryable).next :=
  .fail failure connecting rfl generation

theorem shift_startInLoop (generation : Nat) :
    Shift frame connector (connector.startInLoop generation).connector
      (connector.startInLoop generation).next := by
  unfold startInLoop
  split
  case isTrue => exact .nothing rfl rfl
  case isFalse now =>
    obtain ⟨same, queued⟩ := not_or.mp now
    have same : connector.generation = generation := by simpa using same
    subst same
    exact .attempt (by simpa using queued) rfl rfl

theorem shift_handleWrite (generation : Nat) (probe : Probe) :
    Shift frame connector (connector.handleWrite generation probe).connector
      (connector.handleWrite generation probe).next := by
  unfold handleWrite
  split
  case isTrue => exact .nothing rfl rfl
  case isFalse now =>
    obtain ⟨same, connecting⟩ := not_or.mp now
    have same : connector.generation = generation := by simpa using same
    have connecting : connector.phase = .connecting := by simpa using connecting
    subst same
    split
    · exact .nothing rfl rfl
    · dsimp only
      split
      · exact shift_fail _ _ (by simp) connecting rfl
      · split
        · exact shift_fail _ _ (by simp) connecting rfl
        · exact .succeed connecting rfl rfl

theorem shift_handleError (generation : Nat) :
    Shift frame connector (connector.handleError generation).connector
      (connector.handleError generation).next := by
  unfold handleError
  split
  case isTrue => exact .nothing rfl rfl
  case isFalse now =>
    obtain ⟨same, connecting⟩ := not_or.mp now
    have same : connector.generation = generation := by simpa using same
    subst same
    split
    · exact .nothing rfl rfl
    · exact shift_fail _ _ (by simp) (by simpa using connecting) rfl

theorem shift_handleConnectTimeout (generation : Nat) :
    Shift frame connector (connector.handleConnectTimeout generation).connector
      (connector.handleConnectTimeout generation).next := by
  unfold handleConnectTimeout
  split
  case isTrue => exact .nothing rfl rfl
  case isFalse now =>
    obtain ⟨same, connecting⟩ := not_or.mp now
    have same : connector.generation = generation := by simpa using same
    subst same
    split
    · exact .nothing rfl rfl
    · exact shift_fail _ _ (by simp) (by simpa using connecting) rfl

theorem shift_handleRetry (generation : Nat) :
    Shift frame connector (connector.handleRetry generation).connector
      (connector.handleRetry generation).next := by
  unfold handleRetry
  split
  case isTrue => exact .nothing rfl rfl
  case isFalse now =>
    obtain ⟨_, waiting⟩ := not_or.mp now
    exact .restart (by simpa using waiting) rfl rfl

theorem connecting_same (socket : SocketId) (generation : Nat) :
    (connector.connecting socket generation).phase = connector.phase ∧
      (connector.connecting socket generation).generation = connector.generation := by
  unfold connecting
  dsimp only
  split <;> exact ⟨rfl, rfl⟩

theorem shift_attempted (generation : Nat) (opening : Opening) :
    Shift frame connector (connector.attempted generation socket opening).connector
      (connector.attempted generation socket opening).next := by
  unfold attempted
  split
  case isTrue => exact .nothing rfl rfl
  case isFalse now =>
    obtain ⟨same, connecting⟩ := not_or.mp now
    have same : connector.generation = generation := by simpa using same
    have connecting : connector.phase = .connecting := by simpa using connecting
    subst same
    have registered := connector.connecting_same socket connector.generation
    cases opening with
    | unavailable error => exact shift_fail _ _ (by simp) connecting rfl
    | opened refused =>
        cases refused with
        | none => exact .nothing registered.1 registered.2
        | some error =>
            dsimp only
            split
            · exact .nothing registered.1 registered.2
            · exact .fail (by simp) connecting rfl rfl

theorem shift_resume {frame : Frame} (opening : Opening) :
    Shift (some frame) connector (connector.resume frame socket opening).connector
      (connector.resume frame socket opening).next := by
  cases frame with
  | attempting generation => exact shift_attempted generation opening
  | succeeding generation own =>
      unfold resume succeeded
      dsimp only
      split
      case isTrue => exact .nothing rfl rfl
      case isFalse now =>
        obtain ⟨same, connected⟩ := not_or.mp now
        have same : connector.generation = generation := by simpa using same
        have connected : connector.phase = .connected := by simpa using connected
        subst same
        split
        · exact .deliver rfl connected connected rfl
        · rename_i unset
          exact .drop (by simpa using unset) connected rfl rfl
  | failing generation retryable =>
      unfold resume failed
      dsimp only
      split
      case isFalse => exact .nothing rfl rfl
      case isTrue again =>
        obtain ⟨same, idle, enabled, retryable⟩ := again
        subst same
        subst retryable
        exact .retry rfl idle enabled rfl rfl
  | delivering => exact .nothing rfl rfl
  | retrying => exact .nothing rfl rfl

theorem Stretch.shift (stretch : Stretch connector socket frame turn) :
    Shift frame connector turn.connector turn.next := by
  cases stretch with
  | startInLoop generation => exact (shift_startInLoop generation).before rfl rfl rfl rfl
  | handleWrite generation probe => exact shift_handleWrite generation probe
  | handleError generation => exact shift_handleError generation
  | handleTimer timer =>
      unfold Connector.handleTimer
      dsimp only
      split
      · exact (shift_handleConnectTimeout timer.generation).before rfl rfl rfl rfl
      · exact (shift_handleRetry timer.generation).before rfl rfl rfl rfl
  | resume frame opening => exact shift_resume opening

theorem connecting_settings (socket : SocketId) (generation : Nat) :
    (connector.connecting socket generation).retryEnabled = connector.retryEnabled ∧
      (connector.connecting socket generation).newConnectionCallback =
        connector.newConnectionCallback := by
  unfold connecting
  dsimp only
  split <;> exact ⟨rfl, rfl⟩

/-- No stretch changes what the user has set. -/
theorem Stretch.settings (stretch : Stretch connector socket frame turn) :
    turn.connector.retryEnabled = connector.retryEnabled ∧
      turn.connector.newConnectionCallback = connector.newConnectionCallback := by
  cases stretch with
  | startInLoop generation =>
      unfold Connector.startInLoop
      split <;> exact ⟨rfl, rfl⟩
  | handleWrite generation probe =>
      unfold Connector.handleWrite
      repeat' split
      all_goals exact ⟨rfl, rfl⟩
  | handleError generation =>
      unfold Connector.handleError
      repeat' split
      all_goals exact ⟨rfl, rfl⟩
  | handleTimer timer =>
      unfold Connector.handleTimer handleConnectTimeout handleRetry
      dsimp only
      repeat' split
      all_goals exact ⟨rfl, rfl⟩
  | resume frame opening =>
      cases frame with
      | attempting generation =>
          unfold Connector.resume attempted
          dsimp only
          repeat' split
          all_goals first | exact ⟨rfl, rfl⟩ | exact connecting_settings socket generation
      | succeeding generation own =>
          unfold Connector.resume succeeded
          dsimp only
          repeat' split
          all_goals exact ⟨rfl, rfl⟩
      | failing generation retryable =>
          unfold Connector.resume failed
          dsimp only
          split <;> exact ⟨rfl, rfl⟩
      | delivering => exact ⟨rfl, rfl⟩
      | retrying => exact ⟨rfl, rfl⟩

end Shifts

/-- A connector that was stopped, and functions that were waiting for their hook then. -/
structure Halted (frame : Option Frame) (connector : Connector) : Prop where
  idle : connector.phase = .idle
  older : ∀ waiting generation, frame = some waiting → waiting.generation? = some generation →
    generation < connector.generation

theorem Halted.stop (valid : Valid frame connector) : Halted frame connector.stop.connector where
  idle := rfl
  older := by
    intro waiting generation found same
    exact Nat.lt_succ_of_le (valid.current waiting generation found same).1

/-- A stopped connector does nothing whatever the loop gives it. -/
theorem Stretch.halted (stretch : Stretch connector socket frame turn)
    (halted : Halted frame connector) : turn.next = .done ∧ Halted none turn.connector := by
  have idle := halted.idle
  have shift := stretch.shift
  generalize turn.next = next at shift ⊢
  cases shift with
  | nothing phase generation => exact ⟨rfl, phase.trans idle, by simp⟩
  | retry failed => exact absurd (halted.older _ _ failed rfl) (Nat.lt_irrefl _)
  | attempt phase | fail _ phase | succeed phase | deliver _ phase | drop _ phase | restart phase =>
      rw [idle] at phase
      cases phase

end MiniTrantor.Net.Connector
