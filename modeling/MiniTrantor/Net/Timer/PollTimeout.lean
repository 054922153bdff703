import MiniTrantor.Net.Timer.TimerQueue

/-!
# The timeout of a poll

The loop polls no longer than until the next timer is due. A duration in nanoseconds
becomes a number of milliseconds on the way, so what remains is rounded up: a poll that
ends too early would find no timer due and be repeated with the timeout 0.
-/

set_option autoImplicit false

namespace MiniTrantor.Net

/-- Difference of two time points, as a 64-bit count. -/
def subTicks (time other : Int) : Int := Int.bmod (time - other) (2 ^ 64)

theorem subTicks_eq {time other : Int} (lower : -2 ^ 63 ≤ time - other)
    (upper : time - other < 2 ^ 63) : subTicks time other = time - other := by
  exact Int.bmod_eq_of_le lower upper

namespace TimerQueue

def nanosecondsPerMillisecond : Int := 1000000

/-- `std::numeric_limits<int>::max()` -/
def maxInt : Int := 2 ^ 31 - 1

def ceilMilliseconds (delay : Int) : Int :=
  if delay ≤ 0 then 0
  else
    -- `duration_cast` drops the fraction
    let millisecondsPart := delay.tdiv nanosecondsPerMillisecond
    let millisecondsPart :=
      if millisecondsPart * nanosecondsPerMillisecond < delay then millisecondsPart + 1
      else millisecondsPart
    let capped := min millisecondsPart maxInt
    max 1 capped

def pollTimeoutMs (defaultTimeoutMs now : Int) (queue : TimerQueue) : Int :=
  match queue.timers.entries with
  | [] => defaultTimeoutMs
  | entry :: _ =>
      min defaultTimeoutMs (ceilMilliseconds (subTicks (queue.objects entry.2).expiration now))

/-- What remains in milliseconds, with no fraction dropped. -/
def ceiling (remaining : Int) : Int := ⌈(remaining : ℚ) / nanosecondsPerMillisecond⌉

theorem ceiling_le_iff {remaining milliseconds : Int} :
    ceiling remaining ≤ milliseconds ↔ remaining ≤ milliseconds * nanosecondsPerMillisecond := by
  have positive : (0 : ℚ) < nanosecondsPerMillisecond := by norm_num [nanosecondsPerMillisecond]
  rw [ceiling, Int.ceil_le, div_le_iff₀ positive]
  norm_cast

theorem lt_ceiling_iff {remaining milliseconds : Int} :
    milliseconds < ceiling remaining ↔ milliseconds * nanosecondsPerMillisecond < remaining := by
  rw [← not_le, ceiling_le_iff, not_le]

theorem ceiling_pos {remaining : Int} (left : 0 < remaining) : 1 ≤ ceiling remaining := by
  have above : 0 < ceiling remaining := by
    apply lt_ceiling_iff.mpr
    rwa [zero_mul]
  exact above

theorem ceilMilliseconds_of_nonpos {delay : Int} (due : delay ≤ 0) : ceilMilliseconds delay = 0 :=
  if_pos due

/-- The correction after `duration_cast` makes the ceiling. -/
theorem ceilMilliseconds_of_pos {delay : Int} (left : 0 < delay) :
    ceilMilliseconds delay = min (ceiling delay) maxInt := by
  have same : (if delay.tdiv nanosecondsPerMillisecond * nanosecondsPerMillisecond < delay then
      delay.tdiv nanosecondsPerMillisecond + 1 else delay.tdiv nanosecondsPerMillisecond) =
        ceiling delay := by
    rw [Int.tdiv_eq_ediv_of_nonneg left.le]
    apply le_antisymm
    · apply Int.le_of_sub_one_lt
      apply lt_ceiling_iff.mpr
      unfold nanosecondsPerMillisecond
      split <;> omega
    · apply ceiling_le_iff.mpr
      unfold nanosecondsPerMillisecond
      split <;> omega
  have positive := ceiling_pos left
  rw [ceilMilliseconds, if_neg (not_le.mpr left)]
  dsimp only
  rw [same]
  unfold maxInt
  omega

/-- The timeout is what remains, rounded up, or a shorter default; only a timer that is
due makes it 0. -/
structure Tight (defaultTimeoutMs remaining timeout : Int) : Prop where
  le_default : timeout ≤ defaultTimeoutMs
  zero_iff : timeout = 0 ↔ remaining ≤ 0
  positive : 0 < remaining → 1 ≤ timeout
  ceiling : 0 < remaining → (timeout = defaultTimeoutMs ∧ defaultTimeoutMs < ceiling remaining) ∨
    timeout = min (ceiling remaining) maxInt

theorem ceilMilliseconds_tight {defaultTimeoutMs : Int} (positive : 1 ≤ defaultTimeoutMs)
    (remaining : Int) :
    Tight defaultTimeoutMs remaining (min defaultTimeoutMs (ceilMilliseconds remaining)) := by
  rcases le_or_gt remaining 0 with due | left
  · rw [ceilMilliseconds_of_nonpos due]
    constructor <;> omega
  · have some := ceiling_pos left
    rw [ceilMilliseconds_of_pos left]
    unfold maxInt
    constructor
    · exact min_le_left ..
    · omega
    · omega
    · unfold maxInt
      omega

/-- A poll that sleeps to its timeout sleeps until what remains is over. -/
theorem Tight.covers {defaultTimeoutMs remaining timeout : Int}
    (tight : Tight defaultTimeoutMs remaining timeout) (isInt : defaultTimeoutMs ≤ maxInt)
    (shorter : timeout < defaultTimeoutMs) :
    remaining ≤ timeout * nanosecondsPerMillisecond := by
  rcases le_or_gt remaining 0 with due | left
  · rw [tight.zero_iff.mpr due, zero_mul]
    exact due
  · apply ceiling_le_iff.mp
    rcases tight.ceiling left with ⟨same, _⟩ | rounded
    · omega
    · omega

theorem nothingDue_eq_false {queue : TimerQueue} {entry : TimerKey × TimerPtr}
    {rest : List (TimerKey × TimerPtr)} (head : queue.timers.entries = entry :: rest) {now : Int}
    (due : (queue.objects entry.2).expiration ≤ now) : queue.nothingDue now = false := by
  unfold nothingDue
  rw [head]
  simpa using due

/-- Without a timer the loop polls for the default. Otherwise the timeout is tight: a poll
that sleeps to a timeout below the default finds a timer due, and so does the loop when it
does not sleep at all. -/
theorem pollTimeoutMs_tight (queue : TimerQueue) (now defaultTimeoutMs : Int)
    (positive : 1 ≤ defaultTimeoutMs) (isInt : defaultTimeoutMs ≤ maxInt) :
    (queue.timers.entries = [] → queue.pollTimeoutMs defaultTimeoutMs now = defaultTimeoutMs) ∧
      ∀ entry rest, queue.timers.entries = entry :: rest →
        -2 ^ 63 ≤ (queue.objects entry.2).expiration - now →
        (queue.objects entry.2).expiration - now < 2 ^ 63 →
        Tight defaultTimeoutMs ((queue.objects entry.2).expiration - now)
            (queue.pollTimeoutMs defaultTimeoutMs now) ∧
          (queue.pollTimeoutMs defaultTimeoutMs now < defaultTimeoutMs → ∀ later,
            now + queue.pollTimeoutMs defaultTimeoutMs now * nanosecondsPerMillisecond ≤ later →
              queue.nothingDue later = false) ∧
          (queue.pollTimeoutMs defaultTimeoutMs now = 0 → queue.nothingDue now = false) := by
  refine ⟨fun none => by rw [pollTimeoutMs, none], fun entry rest head lower upper => ?_⟩
  have timeout : queue.pollTimeoutMs defaultTimeoutMs now =
      min defaultTimeoutMs (ceilMilliseconds ((queue.objects entry.2).expiration - now)) := by
    rw [pollTimeoutMs, head]
    dsimp only
    rw [subTicks_eq lower upper]
  have tight := ceilMilliseconds_tight positive ((queue.objects entry.2).expiration - now)
  rw [← timeout] at tight
  refine ⟨tight, fun shorter later slept => ?_, fun zero => ?_⟩
  · have covered := tight.covers isInt shorter
    exact nothingDue_eq_false head (by omega)
  · have due := tight.zero_iff.mp zero
    exact nothingDue_eq_false head (by omega)

/-- One nanosecond more than two milliseconds. -/
theorem pollTimeoutMs_tight_fraction :
    ∃ queue : TimerQueue, queue.pollTimeoutMs 10000 5 = 3 ∧ queue.nothingDue 3000005 = false := by
  have tight := (pollTimeoutMs_tight (addTimer 2000006 0 {}) 5 10000 (by decide) (by decide)).2
    _ [] rfl (by decide) (by decide)
  exact ⟨addTimer 2000006 0 {}, rfl, tight.2.1 (by decide) _ (by decide)⟩

end TimerQueue

end MiniTrantor.Net
