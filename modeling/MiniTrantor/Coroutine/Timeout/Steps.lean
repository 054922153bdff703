import MiniTrantor.Coroutine.Timeout.WithTimeout

/-!
# Steps of a timeout

What a step can do, said once. It replaces the frames on top of one thread, or it leaves
the frames of all threads alone.
-/

set_option autoImplicit false

namespace MiniTrantor.Coroutine.Timeout

open Net (addTicks)

variable {Value Failure : Type} {setting : Setting} {race next : Race Value Failure}
  {thread : Thread}

/-- Where an exception of `cancel()` goes, and its return: to the loop of another call or to
`cancelLosers`. Other code is only gone on with. -/
def Frame.catches : Frame Value Failure → Bool
  | .notifying .. | .cancelLosers => true
  | _ => false

/-- What a call that is over does to the frame below. -/
inductive Receives (race : Race Value Failure) (failure : Option Failure)
    (rest : List (Frame Value Failure)) :
    List (Frame Value Failure) → List (Frame Value Failure) → Race Value Failure → Prop where
  | loop (source : Source) (callbacks : List Callback) (first : Option Failure) :
      Receives race failure rest [.notifying source callbacks first]
        [.notifying source callbacks (first.or failure)] race
  | losers : Receives race failure rest [.cancelLosers] [.resumeParent]
      { race with winnerException := race.winnerException.or failure }
  | other : (∀ frame ∈ rest.head?, frame.catches = false) → Receives race failure rest [] [] race

/-- What a winner stores for what its task has completed with, and what it records. -/
inductive Stores (race : Race Value Failure) : Completion Value Failure →
    Option (Except NetError Value) → Option Failure → List (Event Value Failure) → Prop where
  | value (value : Value) :
      Stores race (.operation (.returned (.ok value))) (some (.ok value)) race.winnerException []
  | moveThrew (value : Value) (failure : Failure) :
      Stores race (.operation (.returned (.ok value))) race.winnerValue (some failure)
        [.moveThrew failure]
  | error (error : NetError) :
      Stores race (.operation (.returned (.error error))) (some (.error error)) race.winnerException []
  | threw (failure : Failure) :
      Stores race (.operation (.threw failure)) race.winnerValue (some failure) []
  | timeout (error : NetError) :
      Stores race (.timeout error) (some (.error error)) race.winnerException []

/-- What the parent gets of it. -/
inductive Returns (race : Race Value Failure) :
    Option (Outcome Value Failure) → List (Event Value Failure) → Prop where
  | stored : Returns race race.awaitResume []
  | moveThrew {value : Value} (failure : Failure) :
      race.awaitResume = some (.returned (.ok value)) →
      Returns race (some (.threw failure)) [.moveThrew failure]

/-- The frames that a step takes off a thread, those that it puts in their place over the
rest, and the other changes. -/
inductive Does (setting : Setting) (race : Race Value Failure) (thread : Thread)
    (rest : List (Frame Value Failure)) :
    List (Frame Value Failure) → List (Frame Value Failure) → Race Value Failure → Prop where
  | cancel (id : Nat) : (∀ frame ∈ rest.head?, frame.user = true) →
      Does setting race thread rest [] [.exchanging (.user id)] race
  | observe {source : Source} : (∀ frame ∈ rest.head?, frame.user = true) →
      race.visible source = true → Does setting race thread rest [] [.observer source] race
  | resume : (∀ frame ∈ rest.head?, frame.user = true) → race.gateOpen thread = true →
      race.operation = .suspended →
      Does setting race thread rest [] [.operation] { race with operation := .running }
  | suspend : Does setting race thread rest [.operation] [] { race with operation := .suspended }
  | finish (outcome : Outcome Value Failure) :
      Does setting race thread rest [.operation] [.settling (.operation outcome) setting.tokens]
        ({ race with operation := .done }.emit (.completed (.operation outcome)))
  | parentReturned : Does setting race thread rest [.parent] [] race
  | observerReturned {source : Source} {old new : List (Frame Value Failure)}
      {changed : Race Value Failure} : Receives race none rest old new changed →
      Does setting race thread rest (.observer source :: old) new changed
  | observerThrew {source : Source} (failure : Failure) {old new : List (Frame Value Failure)}
      {changed : Race Value Failure} :
      Receives (race.emit (.threw source failure)) (some failure) rest old new changed →
      Does setting race thread rest (.observer source :: old) new changed
  | launched : race.launch = [] → Does setting race thread rest [.launching] [] race
  | linkCancelled {target token : Source} {launch : List Instruction} :
      race.launch = .link target token :: launch → race.cancelled token = true →
      Does setting race thread rest [.launching] [.exchanging target, .launching]
        { race with launch }
  | await {launch : List Instruction} : race.launch = .awaitOperation :: launch →
      Does setting race thread rest [.launching] [.operation, .launching]
        { race with launch, operation := .running }
  | sleepHere {launch : List Instruction} : race.launch = .sleep :: launch →
      thread = setting.loop → Does setting race thread rest [.launching] [.arming, .launching]
        ({ race with
          launch
          phase := .pending
          deadline := addTicks race.now setting.timeout }.emit (.slept race.now))
  | unlink {completion : Completion Value Failure} {token : Source} {tokens : List Source} :
      Does setting race thread rest [.settling completion (token :: tokens)]
        [.settling completion tokens] (race.reset token (.cancel .prepared))
  | lose {completion : Completion Value Failure} {winner : Branch} : race.winner = some winner →
      Does setting race thread rest [.settling completion []] [] race
  | win {completion : Completion Value Failure} {winnerValue : Option (Except NetError Value)}
      {winnerException : Option Failure} {events : List (Event Value Failure)} :
      race.winner = none → Stores race completion winnerValue winnerException events →
      Does setting race thread rest [.settling completion []]
        [.exchanging (.loser completion.branch.other), .cancelLosers]
        { race with
          winner := some completion.branch
          winnerValue
          winnerException
          trace := race.trace ++ events }
  | resumeParent {result : Option (Outcome Value Failure)} {events : List (Event Value Failure)} :
      race.result = none → Returns race result events →
      Does setting race thread rest [.resumeParent] [.parent]
        { race with result, trace := race.trace ++ events }
  | parentGone : race.alive = false ∨ race.result ≠ none →
      Does setting race thread rest [.resumeParent] [] race
  | exchangeLate {source : Source} {old new : List (Frame Value Failure)}
      {changed : Race Value Failure} : race.cancelled source = true →
      Receives race none rest old new changed →
      Does setting race thread rest (.exchanging source :: old) new changed
  | exchange {source : Source} : race.cancelled source = false →
      Does setting race thread rest [.exchanging source] [.swapping source]
        { race with cancelled := Function.update race.cancelled source true }
  | swap {source : Source} : Does setting race thread rest [.swapping source]
      [.notifying source (race.callbacks source) none]
      { race with callbacks := Function.update race.callbacks source [] }
  | notifyLink {source target : Source} {callbacks : List Callback} {failure : Option Failure} :
      .cancel target ∈ callbacks →
      Does setting race thread rest [.notifying source callbacks failure]
        [.exchanging target, .notifying source (callbacks.erase (.cancel target)) failure] race
  | notifySleep {source : Source} {callbacks : List Callback} {failure : Option Failure} :
      .sleep ∈ callbacks →
      Does setting race thread rest [.notifying source callbacks failure]
        [.notifying source (callbacks.erase .sleep) failure]
        { race with queue := race.queue ++ [Functor.complete] }
  | notifyObserver {source : Source} {callbacks : List Callback} {failure : Option Failure} :
      .observer ∈ callbacks →
      Does setting race thread rest [.notifying source callbacks failure]
        [.observer source, .notifying source (callbacks.erase .observer) failure] race
  | notified {source : Source} {failure : Option Failure} {old new : List (Frame Value Failure)}
      {changed : Race Value Failure} : Receives race failure rest old new changed →
      Does setting race thread rest (.notifying source [] failure :: old) new changed
  | armStale : race.phase ≠ .pending → Does setting race thread rest [.arming] [] race
  | armCancelled : race.cancelled (.linked .timeout) = true →
      Does setting race thread rest [.arming] []
        { race with queue := race.queue ++ [Functor.complete] }
  | arm : race.phase = .pending → Does setting race thread rest [.arming] [.registering] race
  | registerCancelled : race.cancelled (.linked .timeout) = true →
      Does setting race thread rest [.registering] []
        { race with queue := race.queue ++ [Functor.complete], timer := true }
  | register : Does setting race thread rest [.registering] []
      ({ race with timer := true }.register (.linked .timeout) .sleep)
  | resetSleep : Does setting race thread rest [.resetting] [.resuming]
      ({ race with timer := false }.reset (.linked .timeout) .sleep)
  | resumeSleep : race.gateOpen thread = true →
      Does setting race thread rest [.resuming] [.settling (.timeout race.timeoutResult) []]
        (race.emit (.completed (.timeout race.timeoutResult)))
  | functorArm {queue : List Functor} : rest = [] → race.queue = .arm :: queue →
      Does setting race thread rest [] [.arming] { race with queue }
  | functorComplete {queue : List Functor} : rest = [] → race.queue = .complete :: queue →
      race.phase = .pending →
      Does setting race thread rest [] [.resetting]
        ({ race with queue, phase := .cancelled }.emit (.woke .cancelled race.now))
  | expire : rest = [] → race.deadline ≤ race.now → race.phase = .pending →
      Does setting race thread rest [] [.resetting]
        ({ race with timer := false, phase := .expired }.emit (.woke .expired race.now))

/-- The steps that leave all frames alone. -/
inductive Still (setting : Setting) (race : Race Value Failure) : Race Value Failure → Prop where
  | observe {source : Source} : race.visible source = true →
      Still setting race (race.register source .observer)
  | forget (source : Source) : Still setting race (race.reset source .observer)
  | link {target token : Source} {launch : List Instruction} :
      race.launch = .link target token :: launch → race.cancelled token = false →
      Still setting race ({ race with launch }.register token (.cancel target))
  | sleepElsewhere {launch : List Instruction} : race.launch = .sleep :: launch →
      Still setting race
        { { race with
            launch
            phase := .pending
            deadline := addTicks race.now setting.timeout }.emit (.slept race.now) with
          queue := race.queue ++ [Functor.arm] }
  | functorStale {functor : Functor} {queue : List Functor} : race.queue = functor :: queue →
      Still setting race { race with queue }
  | expireStale : Still setting race { race with timer := false }
  | abandon : Still setting race { race with alive := false }
  | tick (time : Nat) : Still setting race { race with now := race.now + time }

/-- What a step does. -/
inductive Steps (setting : Setting) (race : Race Value Failure) : Race Value Failure → Prop where
  | does {thread : Thread} {rest old new : List (Frame Value Failure)}
      {changed : Race Value Failure} : Does setting race thread rest old new changed →
      race.frames thread = old ++ rest → Steps setting race (changed.put thread (new ++ rest))
  | still {next : Race Value Failure} : Still setting race next → Steps setting race next

theorem receive_cases (thread : Thread) (failure : Option Failure) (race : Race Value Failure)
    (stack : List (Frame Value Failure)) :
    ∃ old new rest changed, Receives race failure rest old new changed ∧ stack = old ++ rest ∧
      race.receive thread failure stack = changed.put thread (new ++ rest) := by
  unfold Race.receive
  split
  · exact ⟨_, _, _, _, .loop .., rfl, rfl⟩
  · exact ⟨_, _, _, _, .losers, rfl, rfl⟩
  case h_3 loop losers =>
    refine ⟨[], [], stack, race, .other fun frame top => ?_, rfl, rfl⟩
    obtain ⟨rest, rfl⟩ := List.head?_eq_some_iff.mp top
    cases frame
    case notifying => exact absurd rfl (loop _ _ _ _)
    case cancelLosers => exact absurd rfl (losers _)
    all_goals rfl

theorem atUser_head (calm : race.atUser thread = true) :
    ∀ frame ∈ (race.frames thread).head?, frame.user = true := by
  intro frame top
  unfold Race.atUser at calm
  rw [top] at calm
  exact calm

/-- A call that is over takes its frame off. -/
theorem Steps.received {thread : Thread} {top : Frame Value Failure}
    {stack : List (Frame Value Failure)} {failure : Option Failure} {told : Race Value Failure}
    (frames : race.frames thread = top :: stack)
    (does : ∀ {rest old new changed}, Receives told failure rest old new changed →
      Does setting race thread rest (top :: old) new changed) :
    Steps setting race (told.receive thread failure stack) := by
  obtain ⟨old, new, rest, changed, receives, rfl, same⟩ := receive_cases thread failure told stack
  rw [same]
  exact .does (does receives) frames

theorem launchNext_steps {stack : List (Frame Value Failure)}
    (frames : race.frames thread = .launching :: stack) :
    Steps setting race (race.launchNext setting thread stack) := by
  unfold Race.launchNext
  split
  case h_1 none => exact .does (.launched none) frames
  case h_2 target token launch instruction =>
    split
    case isTrue cancelled => exact .does (.linkCancelled instruction cancelled) frames
    case isFalse fresh => exact .still (.link instruction (by simpa using fresh))
  case h_3 launch instruction => exact .does (.await instruction) frames
  case h_4 launch instruction =>
    dsimp only
    split
    case isTrue here => exact .does (.sleepHere instruction here) frames
    case isFalse => exact .still (.sleepElsewhere instruction)

theorem win_stores (thrown : Option Failure) (completion : Completion Value Failure) :
    ∃ winnerValue winnerException events, Stores race completion winnerValue winnerException events ∧
      race.win thrown completion = { race with
        winner := some completion.branch
        winnerValue
        winnerException
        trace := race.trace ++ events } := by
  cases completion with
  | operation outcome =>
      cases outcome with
      | returned result =>
          cases result with
          | ok value =>
              cases thrown with
              | none => exact ⟨_, _, _, .value value, by simp [Race.win, Completion.branch]⟩
              | some failure => exact ⟨_, _, _, .moveThrew value failure, rfl⟩
          | error error => exact ⟨_, _, _, .error error, by simp [Race.win, Completion.branch]⟩
      | threw failure => exact ⟨_, _, _, .threw failure, by simp [Race.win, Completion.branch]⟩
  | timeout error => exact ⟨_, _, _, .timeout error, by simp [Race.win, Completion.branch]⟩

theorem coReturn_returns (thrown : Option Failure) (race : Race Value Failure) :
    ∃ result events, Returns race result events ∧
      race.coReturn thrown = { race with result, trace := race.trace ++ events } := by
  unfold Race.coReturn
  split
  case h_1 awaited => exact ⟨_, _, .moveThrew _ awaited, rfl⟩
  case h_2 => exact ⟨_, _, .stored, by simp⟩

theorem goOn_steps {thrown : Option Failure} (taken : race.goOn setting thread thrown = some next) :
    Steps setting race next := by
  unfold Race.goOn at taken
  split at taken
  case h_1 frames =>
    cases taken
    exact launchNext_steps frames
  case h_2 frames =>
    cases taken
    exact .does .unlink frames
  case h_3 frames =>
    split at taken
    case h_1 decided =>
      cases taken
      exact .does (.lose decided) frames
    case h_2 undecided =>
      cases taken
      obtain ⟨_, _, _, stores, same⟩ := @win_stores _ _ race thrown ‹_›
      rw [same]
      exact .does (.win undecided stores) frames
  case h_4 frames =>
    split at taken
    case isTrue resumed =>
      cases taken
      simp only [Bool.and_eq_true, Option.isNone_iff_eq_none] at resumed
      obtain ⟨_, _, returns, same⟩ := coReturn_returns thrown race
      rw [same]
      exact .does (.resumeParent resumed.2 returns) frames
    case isFalse gone =>
      cases taken
      refine .does (.parentGone ?_) frames
      cases alive : race.alive with
      | false => exact .inl rfl
      | true => exact .inr fun fresh => gone (by simp [alive, fresh])
  case h_5 source rest frames =>
    split at taken
    case isTrue late =>
      cases taken
      exact .received frames (.exchangeLate late)
    case isFalse fresh =>
      cases taken
      exact .does (.exchange (by simpa using fresh)) frames
  case h_6 frames =>
    cases taken
    exact .does .swap frames
  case h_7 frames =>
    cases taken
    exact .received frames .notified
  case h_8 frames =>
    split at taken
    case isTrue stale =>
      cases taken
      exact .does (.armStale stale) frames
    case isFalse pending =>
      split at taken
      case isTrue late =>
        cases taken
        exact .does (.armCancelled late) frames
      case isFalse =>
        cases taken
        exact .does (.arm (by simpa using pending)) frames
  case h_9 frames =>
    split at taken
    case isTrue late =>
      cases taken
      exact .does (.registerCancelled late) frames
    case isFalse =>
      cases taken
      exact .does .register frames
  case h_10 frames =>
    cases taken
    exact .does .resetSleep frames
  case h_11 frames =>
    obtain ⟨opened, taken⟩ := Option.ite_none_right_eq_some.mp taken
    cases taken
    exact .does (.resumeSleep opened) frames
  case h_12 => cases taken

theorem notify_steps {callback : Callback} (taken : race.notify thread callback = some next) :
    Steps setting race next := by
  unfold Race.notify at taken
  split at taken
  case h_1 frames =>
    obtain ⟨member, taken⟩ := Option.ite_none_right_eq_some.mp taken
    cases callback with
    | cancel target =>
        cases taken
        exact .does (.notifyLink member) frames
    | sleep =>
        cases taken
        exact .does (.notifySleep member) frames
    | observer =>
        cases taken
        exact .does (.notifyObserver member) frames
  case h_2 => cases taken

theorem functor_steps (taken : race.step setting .functor = some next) :
    Steps setting race next := by
  simp only [Race.step] at taken
  split at taken
  case h_1 empty queued =>
    cases taken
    exact .does (.functorArm rfl queued) empty
  case h_2 empty queued =>
    cases taken
    unfold Race.complete
    split
    case isTrue pending => exact .does (.functorComplete rfl queued pending) empty
    case isFalse => exact .still (.functorStale queued)
  case h_3 => cases taken

theorem expire_steps (taken : race.step setting .expire = some next) : Steps setting race next := by
  obtain ⟨due, taken⟩ := Option.ite_none_right_eq_some.mp taken
  simp only [Bool.and_eq_true, List.isEmpty_iff, decide_eq_true_eq] at due
  cases taken
  unfold Race.complete
  split
  case isTrue pending => exact .does (.expire rfl due.2 pending) due.1.1
  case isFalse => exact .still .expireStale

theorem step_cases {action : Action Value Failure} (taken : race.step setting action = some next) :
    Steps setting race next := by
  cases action with
  | cancel thread id =>
      obtain ⟨calm, taken⟩ := Option.ite_none_right_eq_some.mp taken
      cases taken
      exact .does (.cancel id (atUser_head calm)) rfl
  | observe thread source =>
      obtain ⟨calm, taken⟩ := Option.ite_none_right_eq_some.mp taken
      simp only [Bool.and_eq_true] at calm
      cases taken
      split
      · exact .does (.observe (atUser_head calm.1) calm.2) rfl
      · exact .still (.observe calm.2)
  | forget thread source =>
      obtain ⟨_, taken⟩ := Option.ite_none_right_eq_some.mp taken
      cases taken
      exact .still (.forget source)
  | resume thread =>
      obtain ⟨calm, taken⟩ := Option.ite_none_right_eq_some.mp taken
      simp only [Bool.and_eq_true, beq_iff_eq] at calm
      cases taken
      exact .does (.resume (atUser_head calm.1.1) calm.1.2 calm.2) rfl
  | suspend thread =>
      simp only [Race.step] at taken
      split at taken
      case h_1 frames =>
        cases taken
        exact .does .suspend frames
      case h_2 => cases taken
  | finish thread outcome =>
      simp only [Race.step] at taken
      split at taken
      case h_1 frames =>
        cases taken
        exact .does (.finish outcome) frames
      case h_2 => cases taken
  | returned thread =>
      simp only [Race.step] at taken
      split at taken
      case h_1 frames =>
        cases taken
        exact .received frames .observerReturned
      case h_2 frames =>
        cases taken
        exact .does .parentReturned frames
      case h_3 => cases taken
  | threw thread failure =>
      simp only [Race.step] at taken
      split at taken
      case h_1 frames =>
        cases taken
        exact .received frames (.observerThrew failure)
      case h_2 => cases taken
  | abandon =>
      obtain ⟨_, taken⟩ := Option.ite_none_right_eq_some.mp taken
      cases taken
      exact .still .abandon
  | tick time =>
      cases taken
      exact .still (.tick time)
  | goOn thread thrown => exact goOn_steps taken
  | notify thread callback => exact notify_steps taken
  | functor => exact functor_steps taken
  | expire => exact expire_steps taken

end MiniTrantor.Coroutine.Timeout
