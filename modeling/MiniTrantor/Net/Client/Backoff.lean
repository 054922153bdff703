import MiniTrantor.Net.Client.ConnectorRun

/-!
# Exponential backoff

The delays that a connector hands to `runAfter` for its retries double from the
initial delay up to the largest one. They are counted from the last time that
the connector was made, was restarted or was given other delays; that it stops,
starts or fails in between does not count.
-/

set_option autoImplicit false

namespace MiniTrantor.Net.Connector

/-- A value of `std::chrono::steady_clock::duration::rep`. -/
def Representable (count : Int) : Prop := -2 ^ 63 ≤ count ∧ count < 2 ^ 63

instance (count : Int) : Decidable (Representable count) :=
  inferInstanceAs (Decidable (_ ∧ _))

/-! ## What a stretch does to the delays -/

/-- A step that is not a call leaves the delays alone, and the timers but for a
new connect timeout, or it schedules a retry. -/
inductive Paces (before : Connector) : Connector → Prop where
  | keeps {after : Connector} (initial : after.initialRetryDelay = before.initialRetryDelay)
      (delay : after.retryDelay = before.retryDelay)
      (max : after.maxRetryDelay = before.maxRetryDelay)
      (timeout : after.connectTimeout = before.connectTimeout)
      (counter : before.nextTimer ≤ after.nextTimer)
      (timers : ∀ timer ∈ after.timers, timer ∈ before.timers ∨
        timer.kind = .connectTimeout ∧ timer.delay = before.connectTimeout ∧
          0 < before.connectTimeout ∧ timer.id < after.nextTimer) : Paces before after
  | retries (generation : Nat) : Paces before (before.scheduleRetry generation).connector

namespace Paces

variable {before middle after : Connector}

theorem refl (connector : Connector) : Paces connector connector :=
  .keeps rfl rfl rfl rfl (Nat.le_refl _) fun _ member => .inl member

/-- Changes that take timers away and set none. -/
theorem fewer (initial : after.initialRetryDelay = before.initialRetryDelay)
    (delay : after.retryDelay = before.retryDelay) (max : after.maxRetryDelay = before.maxRetryDelay)
    (timeout : after.connectTimeout = before.connectTimeout)
    (counter : after.nextTimer = before.nextTimer)
    (timers : ∀ timer ∈ after.timers, timer ∈ before.timers) : Paces before after :=
  .keeps initial delay max timeout counter.ge fun timer member => .inl (timers timer member)

theorem mem_cancelTimers (connector : Connector) :
    ∀ timer ∈ connector.cancelTimers.timers, timer ∈ connector.timers :=
  fun _ member => List.mem_of_mem_filter member

theorem fail (sockfd : Option SocketId) (event : ConnectorEvent) (generation : Nat)
    (retryable : Bool) (connector : Connector) :
    Paces connector (connector.fail sockfd event generation retryable).connector :=
  .fewer rfl rfl rfl rfl rfl (mem_cancelTimers connector)

theorem connecting (socket : SocketId) (generation : Nat) (connector : Connector) :
    Paces connector (connector.connecting socket generation) := by
  unfold Connector.connecting
  dsimp only
  split
  case isFalse => exact .fewer rfl rfl rfl rfl rfl fun _ member => member
  case isTrue positive =>
    refine .keeps rfl rfl rfl rfl (Nat.le_succ _) fun timer member => ?_
    rcases List.mem_append.mp member with old | new
    · exact .inl old
    · rw [List.mem_singleton.mp new]
      exact .inr ⟨rfl, rfl, positive, Nat.lt_succ_self _⟩

theorem startInLoop (generation : Nat) (connector : Connector) :
    Paces connector (({ connector with
      starts := connector.starts.erase generation }).startInLoop generation).connector := by
  unfold Connector.startInLoop
  split <;> exact .fewer rfl rfl rfl rfl rfl fun _ member => member

theorem attempted (generation : Nat) (socket : SocketId) (opening : Opening)
    (connector : Connector) :
    Paces connector (connector.attempted generation socket opening).connector := by
  unfold Connector.attempted
  split
  case isTrue => exact .refl connector
  case isFalse =>
    cases opening with
    | unavailable error => exact .fail _ _ _ _ connector
    | opened refused =>
        cases refused with
        | none => exact .connecting socket generation connector
        | some error =>
            dsimp only
            split
            · exact .connecting socket generation connector
            · exact .fewer rfl rfl rfl rfl rfl (mem_cancelTimers connector)

theorem handleWrite (generation : Nat) (probe : Probe) (connector : Connector) :
    Paces connector (connector.handleWrite generation probe).connector := by
  unfold Connector.handleWrite
  split
  case isTrue => exact .refl connector
  case isFalse =>
    split
    case h_1 => exact .refl connector
    case h_2 =>
      -- `fail` cancels once more what is cancelled already
      have twice : ∀ timer ∈ connector.cancelTimers.removeAndResetChannel.cancelTimers.timers,
          timer ∈ connector.timers :=
        fun timer member => mem_cancelTimers connector timer (mem_cancelTimers _ timer member)
      dsimp only
      split
      · exact .fewer rfl rfl rfl rfl rfl twice
      · split
        · exact .fewer rfl rfl rfl rfl rfl twice
        · exact .fewer rfl rfl rfl rfl rfl (mem_cancelTimers connector)

theorem handleError (generation : Nat) (connector : Connector) :
    Paces connector (connector.handleError generation).connector := by
  unfold Connector.handleError
  split
  case isTrue => exact .refl connector
  case isFalse =>
    split
    · exact .refl connector
    · exact .fewer rfl rfl rfl rfl rfl (mem_cancelTimers connector)

theorem start_timers (connector : Connector) :
    Paces connector connector.start ∧ connector.start.timers = connector.timers := by
  unfold Connector.start
  split
  · exact ⟨.refl connector, rfl⟩
  · exact ⟨.fewer rfl rfl rfl rfl rfl fun _ member => member, rfl⟩

theorem handleTimer (timer : ConnectTimer) (connector : Connector) :
    Paces connector (connector.handleTimer timer).connector := by
  have erased : ∀ other ∈ connector.timers.erase timer, other ∈ connector.timers :=
    fun _ member => List.mem_of_mem_erase member
  unfold Connector.handleTimer
  dsimp only
  split
  · unfold Connector.handleConnectTimeout
    split
    · exact .fewer rfl rfl rfl rfl rfl erased
    · split
      · exact .fewer rfl rfl rfl rfl rfl erased
      · exact .fewer rfl rfl rfl rfl rfl fun other member =>
          erased other (List.mem_of_mem_filter member)
  · unfold Connector.handleRetry
    split
    · exact .fewer rfl rfl rfl rfl rfl erased
    · unfold Connector.start
      split <;> exact .fewer rfl rfl rfl rfl rfl erased

theorem resume (frame : Frame) (socket : SocketId) (opening : Opening) (connector : Connector) :
    Paces connector (connector.resume frame socket opening).connector := by
  cases frame with
  | attempting generation => exact .attempted generation socket opening connector
  | succeeding generation held =>
      unfold Connector.resume Connector.succeeded
      dsimp only
      repeat' split
      all_goals exact .fewer rfl rfl rfl rfl rfl fun _ member => member
  | failing generation retryable =>
      unfold Connector.resume Connector.failed
      dsimp only
      split
      · exact .retries generation
      · exact .refl connector
  | delivering | retrying => exact .refl connector

theorem destroy (connector : Connector) : Paces connector connector.destroy.connector := by
  unfold Connector.destroy
  split
  · exact .fewer rfl rfl rfl rfl rfl (mem_cancelTimers connector)
  · exact .refl connector

theorem stop (connector : Connector) : Paces connector connector.stop.connector :=
  .fewer rfl rfl rfl rfl rfl (mem_cancelTimers _)

end Paces

/-! ## The delays of a run -/

/-- The delays of the retry timers that a step installed. A step ends with the
hook that it calls, so a timer that it installed is still there. -/
def installed (before after : Connector) : List Int :=
  (after.timers.filter fun timer =>
    timer.kind == .retry && !before.timers.contains timer).map (·.delay)

/-- A run with the delays that its connector was given last, and those that
`runAfter` was given for retries since. -/
structure Backoff where
  system : System
  initial : Int
  max : Int
  delays : List Int := []

def Action.Counts : Action → Prop
  | .call (.setRetryDelay initial max) => Representable initial ∧ Representable max
  | _ => True

namespace Backoff

def create (options : ConnectorOptions) : Backoff where
  system := .initial options
  initial := options.initRetryDelay
  max := options.maxRetryDelay

def step (backoff : Backoff) (action : Action) : Option Backoff :=
  (backoff.system.step action).map fun system =>
    match action with
    | .call .restart => { backoff with system, delays := [] }
    | .call (.setRetryDelay initial max) =>
        if initial ≤ 0 ∨ max < initial then { backoff with system } else { system, initial, max }
    | _ =>
        { backoff with
          system
          delays := backoff.delays ++ installed backoff.system.connector system.connector }

/-- The delays double up to the largest one, and the code computes them within
64 bits. -/
structure Lawful (backoff : Backoff) : Prop where
  delays : ∀ n delay, backoff.delays[n]? = some delay →
    delay = min (backoff.initial * 2 ^ n) backoff.max
  bounded : 0 < backoff.system.connector.retryDelay ∧
    backoff.system.connector.retryDelay ≤ backoff.system.connector.maxRetryDelay
  difference : Representable
    (backoff.system.connector.maxRetryDelay - backoff.system.connector.retryDelay)
  doubled : backoff.system.connector.retryDelay ≤
      backoff.system.connector.maxRetryDelay - backoff.system.connector.retryDelay →
    Representable (backoff.system.connector.retryDelay * 2)

/-- The connector is ready for the next retry, and every timer it has set is for
a positive time. -/
structure Paced (connector : Connector) (initial max : Int) (retries : Nat) : Prop where
  accepted : 0 < initial ∧ initial ≤ max
  representable : Representable max
  initially : connector.initialRetryDelay = initial
  largest : connector.maxRetryDelay = max
  delay : connector.retryDelay = min (initial * 2 ^ retries) max
  timeout : 0 ≤ connector.connectTimeout ∧ Representable connector.connectTimeout
  fresh : ∀ timer ∈ connector.timers, timer.id < connector.nextTimer
  positive : ∀ timer ∈ connector.timers, 0 < timer.delay ∧ Representable timer.delay

variable {before after : Connector} {initial max : Int} {retries : Nat} {backoff next : Backoff}

theorem power_pos (positive : 0 < initial) (n : Nat) : 0 < initial * 2 ^ n :=
  Int.mul_pos positive (Int.pow_pos (by decide))

/-- The subtraction in `scheduleRetry` finds out whether the double is too large. -/
theorem doubled_delay (accepted : 0 < initial ∧ initial ≤ max) (n : Nat) :
    (if min (initial * 2 ^ n) max > max - min (initial * 2 ^ n) max then max
      else min (initial * 2 ^ n) max * 2) = min (initial * 2 ^ (n + 1)) max := by
  have power := power_pos accepted.1 n
  have twice : initial * 2 ^ (n + 1) = initial * 2 ^ n * 2 := by
    rw [pow_succ, mul_assoc]
  rw [twice]
  generalize initial * 2 ^ n = delay at power ⊢
  split <;> omega

namespace Paced

theorem bounded (paced : Paced before initial max retries) :
    0 < before.retryDelay ∧ before.retryDelay ≤ max := by
  have power := power_pos paced.accepted.1 retries
  have delay := paced.delay
  have accepted := paced.accepted
  generalize initial * 2 ^ retries = grown at power delay
  omega

theorem create {options : ConnectorOptions} (valid : options.validate = .ok ())
    (largest : Representable options.maxRetryDelay)
    (timeout : Representable options.connectTimeout) :
    Paced (Connector.create options) options.initRetryDelay options.maxRetryDelay 0 := by
  unfold ConnectorOptions.validate at valid
  split at valid
  · cases valid
  · split at valid
    · cases valid
    · split at valid
      · cases valid
      · refine ⟨⟨by omega, by omega⟩, largest, rfl, rfl, ?_, ⟨?_, timeout⟩, by simp [Connector.create],
          by simp [Connector.create]⟩
        · rw [pow_zero, mul_one, Connector.create]
          dsimp only
          omega
        · rw [Connector.create]
          dsimp only
          omega

/-- Nothing but the timers changes, and none is added but a connect timeout. -/
theorem keeps (paced : Paced before initial max retries)
    (sameInitial : after.initialRetryDelay = before.initialRetryDelay)
    (sameDelay : after.retryDelay = before.retryDelay)
    (sameMax : after.maxRetryDelay = before.maxRetryDelay)
    (sameTimeout : after.connectTimeout = before.connectTimeout)
    (counter : before.nextTimer ≤ after.nextTimer)
    (timers : ∀ timer ∈ after.timers, timer ∈ before.timers ∨
      timer.kind = .connectTimeout ∧ timer.delay = before.connectTimeout ∧
        0 < before.connectTimeout ∧ timer.id < after.nextTimer) :
    Paced after initial max retries where
  accepted := paced.accepted
  representable := paced.representable
  initially := sameInitial.trans paced.initially
  largest := sameMax.trans paced.largest
  delay := sameDelay.trans paced.delay
  timeout := sameTimeout ▸ paced.timeout
  fresh := by
    intro timer member
    rcases timers timer member with old | ⟨_, _, _, below⟩
    · exact Nat.lt_of_lt_of_le (paced.fresh timer old) counter
    · exact below
  positive := by
    intro timer member
    rcases timers timer member with old | ⟨_, same, positive, _⟩
    · exact paced.positive timer old
    · rw [same]
      exact ⟨positive, paced.timeout.2⟩

theorem scheduleRetry (paced : Paced before initial max retries) (generation : Nat) :
    Paced (before.scheduleRetry generation).connector initial max (retries + 1) where
  accepted := paced.accepted
  representable := paced.representable
  initially := paced.initially
  largest := paced.largest
  delay := by
    have delay : (before.scheduleRetry generation).connector.retryDelay =
        if before.retryDelay > before.maxRetryDelay - before.retryDelay then before.maxRetryDelay
        else before.retryDelay * 2 := rfl
    rw [delay, paced.largest, paced.delay]
    exact doubled_delay paced.accepted retries
  timeout := paced.timeout
  fresh := by
    intro timer member
    rcases List.mem_append.mp member with old | new
    · exact Nat.lt_succ_of_lt (paced.fresh timer old)
    · rw [List.mem_singleton.mp new]
      exact Nat.lt_succ_self _
  positive := by
    intro timer member
    rcases List.mem_append.mp member with old | new
    · exact paced.positive timer old
    · rw [List.mem_singleton.mp new]
      obtain ⟨positive, small⟩ := paced.bounded
      have largest := paced.representable
      unfold Representable at largest ⊢
      dsimp only
      omega

/-- A step that is not a call installs no retry timer, or one for the delay that is due. -/
theorem paces (paced : Paced before initial max retries) (paces : Paces before after) :
    installed before after = [] ∧ Paced after initial max retries ∨
      installed before after = [before.retryDelay] ∧ Paced after initial max (retries + 1) := by
  cases paces with
  | keeps sameInitial sameDelay sameMax sameTimeout counter timers =>
      refine .inl ⟨?_, paced.keeps sameInitial sameDelay sameMax sameTimeout counter timers⟩
      rw [installed, List.map_eq_nil_iff, List.filter_eq_nil_iff]
      intro timer member
      rcases timers timer member with old | ⟨kind, _⟩
      · simp [old]
      · simp [kind]
  | retries generation =>
      refine .inr ⟨?_, paced.scheduleRetry generation⟩
      have timers : (before.scheduleRetry generation).connector.timers = before.timers ++
        [{ id := before.nextTimer, kind := .retry, generation, delay := before.retryDelay }] := rfl
      have old : before.timers.filter (fun timer =>
          timer.kind == .retry && !before.timers.contains timer) = [] := by
        rw [List.filter_eq_nil_iff]
        intro timer member
        simp [member]
      have new : ({ id := before.nextTimer, kind := .retry, generation, delay := before.retryDelay } :
          ConnectTimer) ∉ before.timers := fun member => Nat.lt_irrefl _ (paced.fresh _ member)
      rw [installed, timers, List.filter_append, old, List.nil_append]
      simp [new]

/-- After a reset the next retry is the first. -/
theorem restart (paced : Paced before initial max retries) :
    Paced before.restart.connector initial max 0 := by
  have stopped : Paced before.stop.connector initial max retries :=
    paced.keeps rfl rfl rfl rfl (Nat.le_refl _) fun timer member =>
      .inl (Paces.mem_cancelTimers _ timer member)
  have rewound : Paced { before.stop.connector with
      retryDelay := before.stop.connector.initialRetryDelay } initial max 0 :=
    { stopped with
      delay := by
        have accepted := stopped.accepted
        rw [pow_zero, mul_one]
        dsimp only
        rw [stopped.initially]
        omega }
  unfold Connector.restart
  dsimp only
  unfold Connector.start
  split
  · exact rewound
  · exact rewound.keeps rfl rfl rfl rfl (Nat.le_refl _) fun _ member => .inl member

theorem setRetryDelay {newInitial newMax : Int} (paced : Paced before initial max retries)
    (accepted : ¬(newInitial ≤ 0 ∨ newMax < newInitial)) (representable : Representable newMax) :
    Paced (before.setRetryDelay newInitial newMax) newInitial newMax 0 := by
  rw [Connector.setRetryDelay, if_neg accepted]
  exact
    { paced with
      accepted := by omega
      representable
      initially := rfl
      largest := rfl
      delay := by
        rw [pow_zero, mul_one]
        dsimp only
        omega }

theorem lawful (paced : Paced before initial max retries) :
    Representable (before.maxRetryDelay - before.retryDelay) ∧
      (before.retryDelay ≤ before.maxRetryDelay - before.retryDelay →
        Representable (before.retryDelay * 2)) := by
  obtain ⟨positive, small⟩ := paced.bounded
  have largest := paced.representable
  rw [paced.largest]
  unfold Representable at largest ⊢
  omega

end Paced

/-! ## Runs -/

theorem call_paces {system : System} {call : Call} (other : call ≠ .restart)
    (unchanged : ∀ initial max, call ≠ .setRetryDelay initial max) :
    Paces system.connector (system.call call).connector := by
  cases call with
  | start => exact (Paces.start_timers system.connector).1
  | stop => exact Paces.stop system.connector
  | restart => exact absurd rfl other
  | setRetryDelay initial max => exact absurd rfl (unchanged initial max)
  | setNewConnectionCallback | setConnectorEventCallback =>
      exact .fewer rfl rfl rfl rfl rfl fun _ member => member
  | release => exact .refl system.connector

theorem step_paces {system after : System} {action : Action}
    (taken : system.step action = some after) (other : action ≠ .call .restart)
    (unchanged : ∀ initial max, action ≠ .call (.setRetryDelay initial max)) :
    Paces system.connector after.connector := by
  cases action with
  | call call =>
      simp only [System.step, Option.ite_none_right_eq_some, Option.some.injEq] at taken
      obtain ⟨_, rfl⟩ := taken
      refine call_paces (fun same => other (congrArg Action.call same)) fun initial max same => ?_
      exact unchanged initial max (congrArg Action.call same)
  | startInLoop generation =>
      simp only [System.step, Option.ite_none_right_eq_some, Option.some.injEq] at taken
      obtain ⟨_, rfl⟩ := taken
      exact .startInLoop generation system.connector
  | handleEvent error write probe =>
      rw [System.step] at taken
      split at taken
      case h_2 => cases taken
      case h_1 channel _ =>
        simp only [Option.ite_none_right_eq_some, Option.some.injEq] at taken
        obtain ⟨_, rfl⟩ := taken
        rw [System.handleEvent]
        split
        · exact .handleError channel.generation system.connector
        · split
          · exact .handleWrite channel.generation probe system.connector
          · exact .refl system.connector
  | handleTimer timer =>
      simp only [System.step, Option.ite_none_right_eq_some, Option.some.injEq] at taken
      obtain ⟨_, rfl⟩ := taken
      exact .handleTimer timer system.connector
  | resume opening =>
      rw [System.step] at taken
      split at taken
      case h_2 => cases taken
      case h_1 hook _ =>
        cases taken
        exact .resume hook.frame system.sockets opening system.connector
  | writeCallback probe =>
      rw [System.step] at taken
      split at taken
      case h_2 => cases taken
      case h_1 generation _ _ =>
        cases taken
        exact .handleWrite generation probe system.connector
  | destroy =>
      simp only [System.step, Option.ite_none_right_eq_some, Option.some.injEq] at taken
      obtain ⟨_, rfl⟩ := taken
      exact .destroy system.connector

/-- The invariant of a run. -/
structure Holds (backoff : Backoff) : Prop where
  paced : Paced backoff.system.connector backoff.initial backoff.max backoff.delays.length
  law : ∀ n delay, backoff.delays[n]? = some delay →
    delay = min (backoff.initial * 2 ^ n) backoff.max

theorem Holds.step {action : Action} (holds : Holds backoff) (counts : action.Counts)
    (taken : backoff.step action = some next) : Holds next := by
  obtain ⟨system, stepped, rfl⟩ := Option.map_eq_some_iff.mp taken
  split
  case h_1 =>
    simp only [System.step, Option.ite_none_right_eq_some, Option.some.injEq] at stepped
    obtain ⟨_, rfl⟩ := stepped
    exact ⟨holds.paced.restart, by simp⟩
  case h_2 initial max =>
    simp only [System.step, Option.ite_none_right_eq_some, Option.some.injEq] at stepped
    obtain ⟨_, rfl⟩ := stepped
    split
    case isTrue refused =>
      refine ⟨?_, holds.law⟩
      change Paced (backoff.system.connector.setRetryDelay initial max) _ _ _
      rw [Connector.setRetryDelay, if_pos refused]
      exact holds.paced
    case isFalse accepted => exact ⟨holds.paced.setRetryDelay accepted counts.2, by simp⟩
  case h_3 other unchanged =>
    have paces := step_paces stepped other unchanged
    rcases holds.paced.paces paces with ⟨none, paced⟩ | ⟨one, paced⟩
    · rw [none, List.append_nil]
      exact ⟨paced, holds.law⟩
    · rw [one]
      refine ⟨by rw [List.length_append]; exact paced, fun n delay found => ?_⟩
      rcases Nat.lt_or_ge n backoff.delays.length with old | new
      · rw [List.getElem?_append_left old] at found
        exact holds.law n delay found
      · rw [List.getElem?_append_right new, List.getElem?_singleton] at found
        split at found
        case isFalse => cases found
        case isTrue last =>
          cases found
          rw [holds.paced.delay, show n = backoff.delays.length by omega]

theorem holds_run {options : ConnectorOptions} (valid : options.validate = .ok ())
    (largest : Representable options.maxRetryDelay)
    (timeout : Representable options.connectTimeout)
    (reach : Reach step (fun _ action => action.Counts) (create options) backoff) :
    Holds backoff := by
  refine reach.invariant ⟨.create valid largest timeout, by simp [create]⟩ ?_
  exact fun _ _ _ holds counts taken => holds.step counts taken

/-- In every run the delay of the nth retry is the initial one doubled n times, or
the largest one. -/
theorem backoff_law {options : ConnectorOptions} (valid : options.validate = .ok ())
    (largest : Representable options.maxRetryDelay)
    (timeout : Representable options.connectTimeout)
    (reach : Reach step (fun _ action => action.Counts) (create options) backoff) :
    backoff.Lawful := by
  have holds := holds_run valid largest timeout reach
  have paced := holds.paced
  exact ⟨holds.law, paced.largest ▸ paced.bounded, paced.lawful.1, paced.lawful.2⟩

/-- Three attempts fail; the connector is stopped and started after the first and
the third attempt is made by the retry timer. -/
def failingRun : List Action :=
  let refused : Opening := .unavailable .connectionRefused
  [.call .start, .startInLoop 1, .resume refused, .resume refused, .resume refused, .call .stop,
    .call .start, .startInLoop 3, .resume refused, .resume refused, .resume refused,
    .handleTimer { id := 2, kind := .retry, generation := 3, delay := 1000 }, .startInLoop 4,
    .resume refused, .resume refused]

theorem backoff_law_failing :
    ∃ backoff, run step (create { enableRetry := true, maxRetryDelay := 1500 }) failingRun =
        some backoff ∧ backoff.delays = [500, 1000, 1500] ∧ backoff.Lawful := by
  have final : ∃ backoff,
      run step (create { enableRetry := true, maxRetryDelay := 1500 }) failingRun = some backoff ∧
        backoff.delays = [500, 1000, 1500] := ⟨_, rfl, rfl⟩
  obtain ⟨backoff, ran, delays⟩ := final
  refine ⟨backoff, ran, delays, ?_⟩
  refine backoff_law rfl (by decide) (by decide) (.run .start ?_ ran)
  simp [failingRun, Action.Counts]

end Backoff

end MiniTrantor.Net.Connector
