import MiniTrantor.Net.Client.Backoff
import MiniTrantor.Net.Loop.Cancellation

/-!
# Deadlines

The functions that take a duration add it to the time on the clock, and `reset`
adds the interval of a timer that repeats. The sum of two 64-bit counts need not
be one, and a sum that is not comes out as a time that has passed long ago.
-/

set_option autoImplicit false

namespace MiniTrantor.Net.Reactor

open Connector (Representable)

/-- `Timestamp::max()` -/
def maxTicks : Int := 2 ^ 63 - 1

/-- The functions that take a duration. A connector hands the delay of each of its
timers to `runAfter`. -/
inductive Entry where
  | runAfter (delay : Int)
  | runEvery (interval : Int)
  | asyncSleep (duration : Int)
  | connector (timer : ConnectTimer)

namespace Entry

def duration : Entry → Int
  | .runAfter delay => delay
  | .runEvery interval => interval
  | .asyncSleep duration => duration
  | .connector timer => timer.delay

/-- `EventLoop::runAt` -/
def runAt (time : Int) : Request := .addTimer time 0

/-- The call of `addTimer` that is made at the given time. -/
def request (now : Int) : Entry → Except String Request
  | .runAfter delay => .ok (.addTimer (addTicks now delay) 0)
  | .runEvery interval =>
      if interval ≤ 0 then .error "runEvery interval must be positive"
      else .ok (.addTimer (addTicks now interval) interval)
  | .asyncSleep duration => .ok (runAt (addTicks now duration))
  | .connector timer => .ok (.addTimer (addTicks now timer.delay) 0)

/-- The positive durations that are let through, up to the largest. -/
inductive Accepted : Entry → Prop where
  | runAfter {delay : Int} : 0 < delay → Representable delay → Accepted (.runAfter delay)
  | runEvery {interval : Int} : 0 < interval → Representable interval →
      Accepted (.runEvery interval)
  | asyncSleep {duration : Int} : 0 < duration → Representable duration →
      Accepted (.asyncSleep duration)
  | connector {options : ConnectorOptions} {backoff : Connector.Backoff} {timer : ConnectTimer} :
      options.validate = .ok () → Representable options.maxRetryDelay →
      Representable options.connectTimeout →
      Reach Connector.Backoff.step (fun _ action => action.Counts) (.create options) backoff →
      timer ∈ backoff.system.connector.timers → Accepted (.connector timer)

/-- Whatever is let through reaches `addTimer` as the sum with the time on the clock. -/
theorem Accepted.requests {entry : Entry} (accepted : entry.Accepted) (now : Int) :
    0 < entry.duration ∧ Representable entry.duration ∧
      ∃ interval, entry.request now = .ok (.addTimer (addTicks now entry.duration) interval) := by
  cases accepted with
  | runAfter positive counts => exact ⟨positive, counts, 0, rfl⟩
  | runEvery positive counts => exact ⟨positive, counts, _, if_neg (Int.not_le.mpr positive)⟩
  | asyncSleep positive counts => exact ⟨positive, counts, 0, rfl⟩
  | connector valid largest timeout reach member =>
      have holds := Connector.Backoff.holds_run valid largest timeout reach
      obtain ⟨positive, counts⟩ := holds.paced.positive _ member
      exact ⟨positive, counts, 0, rfl⟩

end Entry

/-- An expiration that is no earlier than the duration says, as far as there are
time points. -/
def NotEarly (now duration expiration : Int) : Prop := min (now + duration) maxTicks ≤ expiration

/-- A time that `steady_clock` shows. -/
def Clock (now : Int) : Prop := 0 ≤ now ∧ now ≤ maxTicks

instance (now duration expiration : Int) : Decidable (NotEarly now duration expiration) :=
  inferInstanceAs (Decidable (_ ≤ _))

instance (now : Int) : Decidable (Clock now) := inferInstanceAs (Decidable (_ ∧ _))

/-- A sum that is too large wraps to a negative count. -/
theorem addTicks_notEarly {now duration : Int} (clock : Clock now) (positive : 0 < duration)
    (counts : Representable duration) :
    NotEarly now duration (addTicks now duration) ↔ now + duration ≤ maxTicks := by
  unfold NotEarly addTicks Int.bmod
  unfold Clock maxTicks at *
  unfold Representable at counts
  dsimp only
  split <;> omega

namespace Loop

variable {loop : Loop}

/-- The expiration of a timer. -/
def expiration (id : Nat) (loop : Loop) : Int := (loop.timerQueue.objects id).expiration

theorem addTimer_expiration (thread : Thread) (time interval : Int) (loop : Loop) :
    (loop.addTimer thread time interval).expiration loop.timerQueue.nextSequence = time := by
  unfold addTimer
  dsimp only
  split
  · simp [expiration, emit, TimerQueue.insert, TimerQueue.modify, TimerQueue.allocate,
      Timer.enqueue]
  · simp [expiration, queueInLoop, setCall, emit, TimerQueue.allocate]

theorem timed_run {permitted : Loop → Action → Prop} (reach : Reach step permitted {} loop) :
    loop.Timed :=
  reach.invariant timed_initial fun _ _ _ timed _ taken => timed.moves (step_moves taken)

end Loop

/-- What a loop does with the durations it is given. -/
structure Deadlines (loop : Loop) : Prop where
  /-- The queue is ordered by the expirations of its timers. -/
  keyed : ∀ key ptr, (key, ptr) ∈ loop.timerQueue.timers.entries →
    (ofLex key).1 = loop.expiration ptr
  scheduled : ∀ (entry : Entry) (thread : Thread) (now : Int), entry.Accepted → Clock now →
    ((∃ request, entry.request now = .ok request ∧
        NotEarly now entry.duration
          ((loop.call thread request).expiration loop.timerQueue.nextSequence)) ↔
      now + entry.duration ≤ maxTicks)
  repeated : ∀ (inside : Bool) (expired : List TimerPtr) (timer : TimerPtr) (now : Int) (next : Loop),
    loop.pc = .callbacks inside [] expired → timer ∈ expired →
    (loop.timerQueue.objects timer).repeats = true →
    (loop.timerQueue.objects timer).canceled = false →
    Representable (loop.timerQueue.objects timer).interval → Clock now →
    loop.step (.reset now) = some next →
    (NotEarly now (loop.timerQueue.objects timer).interval (next.expiration timer) ↔
      now + (loop.timerQueue.objects timer).interval ≤ maxTicks)

/-- In every run the expirations are no earlier than asked for exactly if the sums
are counts. -/
theorem deadlines {permitted : Loop → Action → Prop} {loop : Loop}
    (reach : Reach Loop.step permitted {} loop) : Deadlines loop := by
  have timed := Loop.timed_run reach
  constructor
  · intro key ptr member
    have keyed := (timed.holds.queued key ptr member).2.1
    rw [keyed]
    rfl
  · intro entry thread now accepted clock
    obtain ⟨positive, counts, interval, requested⟩ := accepted.requests now
    rw [requested, ← addTicks_notEarly clock positive counts]
    constructor
    · rintro ⟨request, same, early⟩
      cases same
      rwa [Loop.call, Loop.addTimer_expiration] at early
    · intro early
      exact ⟨_, rfl, by rwa [Loop.call, Loop.addTimer_expiration]⟩
  · intro inside expired timer now next place member again live counts clock taken
    have holds : loop.timerQueue.Holds expired := by
      have holds := timed.holds
      rw [place] at holds
      exact holds
    have put : next.timerQueue = loop.timerQueue.reset expired now := by
      simp only [Loop.step, Option.ite_none_right_eq_some, Loop.advance, place,
        Option.some.injEq] at taken
      rw [← taken.2]
    have positive : 0 < (loop.timerQueue.objects timer).interval := by
      simpa [Timer.repeats] using again
    have expiration := (holds.reset_known now member).2 ⟨again, live⟩
    rw [Loop.expiration, put, expiration]
    exact addTicks_notEarly clock positive counts

/-- A timer that repeats has run and is about to be put back. -/
def repeatingRun : List Action :=
  [.call owner (.addTimer (addTicks 3 4) 4), .loop, .next, .poll false, .handleExpired 8, .expire]

theorem deadlines_repeating :
    ∃ loop, run Loop.step {} repeatingRun = some loop ∧ loop.pc = .callbacks true [] [1] ∧
      (loop.timerQueue.objects 1).repeats = true ∧ Deadlines loop := by
  have final : ∃ loop, run Loop.step {} repeatingRun = some loop ∧
      loop.pc = .callbacks true [] [1] ∧ (loop.timerQueue.objects 1).repeats = true :=
    ⟨_, rfl, rfl, rfl⟩
  obtain ⟨loop, ran, place, again⟩ := final
  exact ⟨loop, ran, place, again,
    @deadlines (fun _ _ => True) loop (.run .start (by simp) ran)⟩

/-- Waiting for the largest duration, one tick after the start of the clock, is
waiting for a time that has passed. -/
theorem deadline_wraps :
    Clock 1 ∧ (Entry.runAfter maxTicks).Accepted ∧
      (Entry.runAfter maxTicks).request 1 = .ok (.addTimer (-2 ^ 63) 0) ∧
      ¬ NotEarly 1 maxTicks
        ((({} : Loop).call owner (.addTimer (-2 ^ 63) 0)).expiration 1) := by
  refine ⟨by decide, .runAfter (by decide) (by decide), ?_, ?_⟩
  · have wrapped : addTicks 1 maxTicks = -2 ^ 63 := by decide
    rw [Entry.request, wrapped]
  · have stored := Loop.addTimer_expiration owner (-2 ^ 63) 0 {}
    rw [Loop.call, show (1 : Nat) = ({} : Loop).timerQueue.nextSequence from rfl, stored]
    decide

end MiniTrantor.Net.Reactor
