import MiniTrantor.Coroutine.Timeout.Delivery

/-!
# What the race stores

The winner's value, and what the cancellation of the loser throws. The parent is resumed
with them after the call of `cancel()` is over, and if the timeout has won it has cancelled
the token of the operation.
-/

set_option autoImplicit false

namespace MiniTrantor.Coroutine.Timeout

variable {Value Failure : Type} {setting : Setting} {race next changed : Race Value Failure}
  {thread : Thread} {rest old new : List (Frame Value Failure)} {outcome : Outcome Value Failure}

/-- The record up to the first completion, and from then on. -/
def Race.prior (race : Race Value Failure) : List (Event Value Failure) :=
  race.trace.takeWhile fun event => event.completion.isNone

def Race.since (race : Race Value Failure) : List (Event Value Failure) :=
  race.trace.dropWhile fun event => event.completion.isNone

theorem none_completed (none : race.completions = []) :
    ∀ event ∈ race.trace, event.completion.isNone = true := by
  intro event member
  rw [Race.completions, List.filterMap_eq_nil_iff] at none
  rw [none event member]
  rfl

/-- Once a task has completed what is recorded later does not change what was before. -/
theorem prior_append {events : List (Event Value Failure)} (completed : race.completions ≠ [])
    (trace : next.trace = race.trace ++ events) :
    next.prior = race.prior ∧ next.since = race.since ++ events := by
  have stops : ¬ ∀ event ∈ race.trace, event.completion.isNone = true := by
    intro all
    refine completed (List.filterMap_eq_nil_iff.mpr fun event member => ?_)
    exact Option.isNone_iff_eq_none.mp (all event member)
  constructor
  · rw [Race.prior, trace, List.takeWhile_append, if_neg, Race.prior]
    intro all
    refine stops fun event member => ?_
    have whole := (List.takeWhile_prefix fun event : Event Value Failure =>
      event.completion.isNone).eq_of_length all
    rw [← whole] at member
    exact @List.mem_takeWhile_imp _ (fun event : Event Value Failure => event.completion.isNone) _ _
      member
  · rw [Race.since, trace, List.dropWhile_append, if_neg, Race.since]
    intro empty
    exact stops (List.dropWhile_eq_nil_iff.mp (List.isEmpty_iff.mp empty))

theorem prior_first {completion : Completion Value Failure} (none : race.completions = [])
    (trace : next.trace = race.trace ++ [.completed completion]) : next.prior = race.trace := by
  rw [Race.prior, trace, List.takeWhile_append_of_pos (none_completed none)]
  simp [Event.completion]

/-- A callback that was registered with the token of the operation has thrown, after the
timeout has completed. An operation that has won has cancelled no such token. -/
def Thrown (race : Race Value Failure) : Branch → Failure → Prop
  | .operation, _ => False
  | .timeout, failure => .threw .prepared failure ∈ race.since

theorem Does.trace (does : Does setting race thread rest old new changed) :
    ∃ events, changed.trace = race.trace ++ events := by
  have quiet : changed.trace = race.trace → ∃ events, changed.trace = race.trace ++ events :=
    fun same => ⟨[], by simp [same]⟩
  cases does with
  | finish | resumeSleep | sleepHere | functorComplete | expire | win | resumeParent =>
      exact ⟨_, rfl⟩
  | observerReturned receives => exact quiet receives.decides.2.1
  | observerThrew failure receives => exact ⟨_, receives.decides.2.1⟩
  | exchangeLate _ receives => exact quiet receives.decides.2.1
  | notified receives => exact quiet receives.decides.2.1
  | _ => exact quiet rfl

theorem Still.trace (still : Still setting race next) :
    ∃ events, next.trace = race.trace ++ events := by
  cases still with
  | sleepElsewhere => exact ⟨_, rfl⟩
  | _ => exact ⟨[], by simp [Race.register, Race.reset]⟩

theorem Thrown.grows {winner : Branch} {failure : Failure} {events : List (Event Value Failure)}
    (thrown : Thrown race winner failure) (completed : race.completions ≠ [])
    (trace : next.trace = race.trace ++ events) : Thrown next winner failure := by
  cases winner with
  | operation => exact thrown
  | timeout =>
      rw [Thrown, (prior_append completed trace).2]
      exact List.mem_append_left _ thrown

theorem Calls.mono {winner : Branch} {thrown more : Failure → Prop} {list : List (Frame Value Failure)}
    (calls : Calls setting winner thrown list) (grows : ∀ failure, thrown failure → more failure) :
    Calls setting winner more list := by
  induction calls with
  | exchanging inside => exact .exchanging inside
  | swapping inside => exact .swapping inside
  | notifying loops => exact .notifying (loops.mono grows)
  | nested _ loops ih => exact .nested ih (loops.mono grows)
  | observer inner timeout loops => exact .observer inner timeout (loops.mono grows)

theorem Calls.nonempty {winner : Branch} {thrown : Failure → Prop} {list : List (Frame Value Failure)}
    (calls : Calls setting winner thrown list) : list ≠ [] := by
  cases calls <;> simp

/-- A step by which a task wins. -/
theorem Does.wins (does : Does setting race thread rest old new changed)
    {winner : Branch} (before : race.winner ≠ some winner) (won : changed.winner = some winner) :
    race.winner = none ∧ ∃ completion winnerValue winnerException events,
      completion.branch = winner ∧
      changed = { race with
        winner := some completion.branch
        winnerValue
        winnerException
        trace := race.trace ++ events } ∧ old = [.settling completion []] ∧
      new = [.exchanging (.loser completion.branch.other), .cancelLosers] := by
  have decides := does.decides
  cases decides with
  | complete _ _ same => exact absurd (same.symm.trans won) before
  | unlink same => exact absurd (same.symm.trans won) before
  | lose => exact absurd won before
  | other same => exact absurd (same.symm.trans won) before
  | win undecided =>
      obtain ⟨_, completion, _, _, _, _, changed, old, new⟩ := does.enters (by simp)
      refine ⟨undecided, completion, _, _, _, ?_, changed, old, new⟩
      rw [changed] at won
      exact Option.some.inj won

theorem Does.returning (does : Does setting race thread rest old new changed)
    (member : .resumeParent ∈ new) : .cancelLosers ∈ old := by
  have received : ∀ {top : Frame Value Failure} {failure : Option Failure}
      {received : List (Frame Value Failure)} {told : Race Value Failure},
      Receives told failure rest received new changed → .cancelLosers ∈ top :: received := by
    intro top failure received told receives
    cases receives with
    | losers => simp
    | loop | other => simp at member
  cases does with
  | observerReturned receives => exact received receives
  | observerThrew failure receives => exact received receives
  | exchangeLate _ receives => exact received receives
  | notified receives => exact received receives
  | _ => simp at member

/-- What `cancelLosers` is waiting for. -/
structure Delivers (setting : Setting) (race : Race Value Failure) : Prop where
  calls : ∀ thread above below, race.frames thread = above ++ .cancelLosers :: below →
    ∃ winner, race.winner = some winner ∧ Calls setting winner (Thrown race winner) above
  heading : ∀ thread, .cancelLosers ∈ race.frames thread → race.winner = some .timeout →
    race.cancelled .prepared = true ∨
      ∃ top stack, race.frames thread = top :: stack ∧ Heading race top
  resumed : ∀ thread, .resumeParent ∈ race.frames thread →
    race.winner ≠ none ∧ (race.winner = some .timeout → race.cancelled .prepared = true)

theorem Decided.completed (decided : Decided race) {winner : Branch}
    (won : race.winner = some winner) : race.completions ≠ [] := by
  obtain ⟨_, _, completions, _⟩ := decided.decided winner won
  simp [completions]

namespace Delivers

theorem still (delivers : Delivers setting race) (decided : Decided race) (sound : Sound setting race)
    (still : Still setting race next) : Delivers setting next := by
  obtain ⟨winner, _⟩ := still.decides
  obtain ⟨events, trace⟩ := still.trace
  refine ⟨fun thread above below split => ?_, fun thread losers won => ?_,
    fun thread resumes => ?_⟩
  · obtain ⟨branch, won, calls⟩ := delivers.calls thread above below (still.same.1 ▸ split)
    refine ⟨branch, winner.trans won, calls.mono fun failure thrown => ?_⟩
    exact thrown.grows (decided.completed won) trace
  · rw [still.same.1] at losers ⊢
    rcases delivers.heading thread losers (winner ▸ won) with cancelled | ⟨top, stack, frames, heading⟩
    · exact .inl ((still.grows sound).cancelled _ cancelled)
    · exact .inr ⟨top, stack, frames, heading.kept still.kept⟩
  · rw [still.same.1] at resumes
    obtain ⟨decided, cancelled⟩ := delivers.resumed thread resumes
    rw [winner]
    exact ⟨decided, fun won => (still.grows sound).cancelled _ (cancelled won)⟩

/-- What has been thrown stays so, and a callback of the operation's token adds to it. -/
theorem grown (decided : Decided race) (does : Does setting race thread rest old new changed)
    {winner : Branch} (won : race.winner = some winner) :
    (∀ failure, Thrown race winner failure → Thrown changed winner failure) ∧
      (winner = .timeout → ∀ failure,
        changed.trace = race.trace ++ [.threw .prepared failure] → Thrown changed winner failure) := by
  have completed := decided.completed won
  refine ⟨fun failure thrown => ?_, fun timeout failure trace => ?_⟩
  · obtain ⟨events, trace⟩ := does.trace
    exact thrown.grows completed trace
  · rw [timeout, Thrown, (prior_append completed trace).2]
    simp

/-- The call that `cancelLosers` waits for is over, and what it has thrown is known. -/
theorem returns (delivers : Delivers setting race) (decided : Decided race) (sound : Sound setting race)
    (does : Does setting race thread rest old new changed) (frames : race.frames thread = old ++ rest)
    (losers : .cancelLosers ∈ old) : ∃ winner failure, race.winner = some winner ∧
      (∀ first ∈ failure, Thrown changed winner first) ∧
      changed = { race with winnerException := race.winnerException.or failure } := by
  obtain ⟨top, rfl, rfl⟩ := does.leaves losers
  obtain ⟨winner, won, calls⟩ := delivers.calls thread [top] rest frames
  obtain ⟨grows, told⟩ := grown decided does won
  rcases calls.step does sound.callbacks grows told rfl with
    ⟨list, same, calls⟩ | ⟨_, failure, received, _, taken, below, thrown, receives⟩
  · have length := congrArg List.length same
    exact absurd (by simpa using length) calls.nonempty
  · exact ⟨winner, failure, won, thrown, (receives.to_losers below).2⟩

/-- What a thread has under `cancelLosers` as it waits is moved on by its own steps alone. -/
theorem calls_does (delivers : Delivers setting race) (decided : Decided race)
    (sound : Sound setting race) (paths : Paths race)
    (does : Does setting race thread rest old new changed) (frames : race.frames thread = old ++ rest)
    {above below : List (Frame Value Failure)}
    (split : new ++ rest = above ++ .cancelLosers :: below) :
    ∃ winner, changed.winner = some winner ∧ Calls setting winner (Thrown changed winner) above := by
  by_cases entered : Frame.cancelLosers ∈ new
  · obtain ⟨undecided, completion, _, _, _, _, rfl, rfl, rfl⟩ := does.enters entered
    have fresh : .cancelLosers ∉ rest := fun member =>
      paths.decided thread (frames ▸ List.mem_append_right _ member) undecided
    refine ⟨_, rfl, ?_⟩
    have first : above = [.exchanging (.loser completion.branch.other)] := by
      cases above with
      | nil => cases split
      | cons top above =>
          cases above with
          | nil =>
              cases split
              rfl
          | cons second above =>
              cases split
              simp at fresh
    rw [first]
    refine .exchanging ?_
    cases completion.branch with
    | operation => exact .inl rfl
    | timeout => exact .inl rfl
  · obtain ⟨middle, rfl, under⟩ := split_rest split entered
    have stack : race.frames thread = (old ++ middle) ++ .cancelLosers :: below := by
      rw [frames, under, List.append_assoc]
    obtain ⟨winner, won, calls⟩ := delivers.calls thread _ below stack
    refine ⟨winner, (does.grows sound).winner winner won, ?_⟩
    obtain ⟨grows, told⟩ := grown decided does won
    rcases calls.step does sound.callbacks grows told (frames.symm.trans stack) with
      ⟨list, same, calls⟩ | ⟨top, failure, received, single, rfl, tail, _, receives⟩
    · rw [split] at same
      rwa [List.append_cancel_right same]
    · -- the call would have been received by what is below
      have alone : received = [] := by
        cases received with
        | nil => rfl
        | cons => simp at single
      rw [alone, List.nil_append] at tail
      rw [alone] at receives
      have resumed := (receives.to_losers tail).1
      cases receives
      rw [List.nil_append, ← tail] at resumed
      cases resumed

/-- The way to the token of the operation is gone on, by the thread of the winner alone. -/
theorem heading_does (delivers : Delivers setting race) (decided : Decided race)
    (gated : Gated race) (sound : Sound setting race) (paths : Paths race) (ready : Ready race)
    (does : Does setting race thread rest old new changed) (frames : race.frames thread = old ++ rest)
    {waits : Thread}
    (losers : .cancelLosers ∈ (changed.put thread (new ++ rest)).frames waits)
    (won : changed.winner = some .timeout) : changed.cancelled .prepared = true ∨
      ∃ top stack, (changed.put thread (new ++ rest)).frames waits = top :: stack ∧
        Heading changed top := by
  have here : (changed.put thread (new ++ rest)).frames thread = new ++ rest := by simp
  have elsewhere : waits ≠ thread →
      (changed.put thread (new ++ rest)).frames waits = race.frames waits := by
    intro apart
    rw [put_frames, Function.update_of_ne apart, does.same.1]
  by_cases before : race.winner = some .timeout
  · by_cases same : waits = thread
    · rw [same, here] at losers ⊢
      have under : .cancelLosers ∈ race.frames thread := by
        rw [frames, List.mem_append]
        refine .inr ((List.mem_append.mp losers).resolve_left fun entered => ?_)
        cases before.symm.trans (does.enters entered).1
      rcases delivers.heading thread under before with cancelled | ⟨top, stack, shown, heading⟩
      · exact .inl ((does.grows sound).cancelled _ cancelled)
      · refine heading.goesOn does (frames.symm.trans shown) (sound.frames thread top ?_)
        simp [shown]
    · rw [elsewhere same] at losers ⊢
      rcases delivers.heading waits losers before with cancelled | ⟨top, stack, shown, heading⟩
      · exact .inl ((does.grows sound).cancelled _ cancelled)
      · have held : ∀ frame ∈ old, frame ∈ race.frames thread :=
          fun frame member => frames ▸ List.mem_append_left _ member
        refine .inr ⟨top, stack, shown, heading.kept (does.kept (fun frame member => ?_)
          fun frame member => ?_)⟩
        · exact paths.elsewhere gated losers (Ne.symm same) (held frame member)
        · by_contra settling
          have under : frame.gated = true := by
            cases frame
            case settling => rfl
            all_goals exact absurd rfl settling
          exact same (gated.unique losers rfl (held frame member) under)
  · obtain ⟨undecided, completion, _, _, _, timeout, rfl, rfl, rfl⟩ := does.wins before won
    have mine : waits = thread := by
      by_contra apart
      rw [elsewhere apart] at losers
      exact paths.decided waits losers undecided
    rw [mine, here]
    cases completion with
    | operation outcome => cases timeout
    | timeout error =>
        have settles : .settling (.timeout error) [] ∈ race.frames thread := by simp [frames]
        have heading := ready.heading decided sound settles undecided
        exact .inr ⟨_, _, rfl, heading.kept ⟨fun _ _ fresh => fresh, fun _ _ _ member => member⟩⟩

theorem resumed_does (delivers : Delivers setting race) (sound : Sound setting race)
    (does : Does setting race thread rest old new changed)
    (frames : race.frames thread = old ++ rest) {resumes : Thread}
    (member : .resumeParent ∈ (changed.put thread (new ++ rest)).frames resumes) :
    changed.winner ≠ none ∧ (changed.winner = some .timeout → changed.cancelled .prepared = true) := by
  have grows := does.grows sound
  have stays : .resumeParent ∈ race.frames resumes → changed.winner ≠ none ∧
      (changed.winner = some .timeout → changed.cancelled .prepared = true) := by
    intro before
    obtain ⟨known, cancelled⟩ := delivers.resumed resumes before
    obtain ⟨winner, won⟩ := Option.ne_none_iff_exists'.mp known
    have same := grows.winner winner won
    refine ⟨by simp [same], fun timeout => grows.cancelled _ (cancelled ?_)⟩
    rw [won, ← same, timeout]
  by_cases here : resumes = thread
  · rw [put_frames, here, Function.update_self, List.mem_append] at member
    rcases member with added | below
    · have losers := does.returning added
      obtain ⟨top, rfl, rfl⟩ := does.leaves losers
      obtain ⟨winner, won, _⟩ := delivers.calls thread [top] rest frames
      have same := grows.winner winner won
      refine ⟨by simp [same], fun timeout => ?_⟩
      have before : race.winner = some .timeout := by rw [won, ← same, timeout]
      have under : .cancelLosers ∈ race.frames thread := by simp [frames]
      rcases delivers.heading thread under before with cancelled | ⟨first, stack, shown, heading⟩
      · exact grows.cancelled _ cancelled
      · rcases heading.goesOn does (frames.symm.trans shown)
          (sound.frames thread first (by simp [shown])) with cancelled | ⟨next, stack, shown, heading⟩
        · exact cancelled
        · cases shown
          cases heading
    · exact stays (by rw [here, frames]; exact List.mem_append_right _ below)
  · rw [put_frames, Function.update_of_ne here, does.same.1] at member
    exact stays member

theorem does (delivers : Delivers setting race) (decided : Decided race) (gated : Gated race)
    (sound : Sound setting race) (paths : Paths race) (ready : Ready race)
    (does : Does setting race thread rest old new changed) (frames : race.frames thread = old ++ rest) :
    Delivers setting (changed.put thread (new ++ rest)) := by
  refine ⟨fun waits above below split => ?_, fun waits losers won => ?_, fun resumes member => ?_⟩
  · by_cases here : waits = thread
    · rw [put_frames, here, Function.update_self] at split
      exact delivers.calls_does decided sound paths does frames split
    · rw [put_frames, Function.update_of_ne here, does.same.1] at split
      obtain ⟨winner, won, calls⟩ := delivers.calls waits above below split
      exact ⟨winner, (does.grows sound).winner winner won,
        calls.mono (grown decided does won).1⟩
  · rcases delivers.heading_does decided gated sound paths ready does frames losers won with
      cancelled | ⟨top, stack, shown, heading⟩
    · exact .inl cancelled
    · exact .inr ⟨top, stack, shown,
        heading.kept ⟨fun _ _ fresh => fresh, fun _ _ _ member => member⟩⟩
  · have resumed := delivers.resumed_does sound does frames member
    exact resumed

theorem start (setting : Setting) (thread : Thread) (cancelled : Nat → Bool) (now : Int) :
    Delivers setting (Race.start setting thread cancelled now : Race Value Failure) := by
  refine ⟨fun other above below split => ?_, fun other member => ?_, fun other member => ?_⟩
  · have member : .cancelLosers ∈ (Race.start setting thread cancelled now :
        Race Value Failure).frames other := by simp [split]
    cases start_frames member
  · cases start_frames member
  · cases start_frames member

theorem step (delivers : Delivers setting race) (decided : Decided race) (gated : Gated race)
    (sound : Sound setting race) (paths : Paths race) (ready : Ready race)
    (steps : Steps setting race next) : Delivers setting next := by
  cases steps with
  | does does frames => exact delivers.does decided gated sound paths ready does frames
  | still still => exact delivers.still decided sound still

end Delivers

/-- The outcome is that of the task that has completed first, or what a move of the
operation's value or a callback of the operation's token has thrown since. -/
def Reports (race : Race Value Failure) (outcome : Outcome Value Failure) : Prop :=
  match race.completions with
  | [] => False
  | .operation own :: _ => outcome = own ∨ ∃ value failure, own = .returned (.ok value) ∧
      outcome = .threw failure ∧ .moveThrew failure ∈ race.since
  | .timeout error :: _ => outcome = .returned (.error error) ∨
      ∃ failure, outcome = .threw failure ∧ .threw .prepared failure ∈ race.since

theorem Reports.grows {events : List (Event Value Failure)} (reports : Reports race outcome)
    (trace : next.trace = race.trace ++ events) : Reports next outcome := by
  have completions : next.completions = race.completions ++ events.filterMap Event.completion := by
    rw [Race.completions, trace, List.filterMap_append, Race.completions]
  cases before : race.completions with
  | nil =>
      rw [Reports, before] at reports
      exact reports.elim
  | cons first later =>
      have completed : race.completions ≠ [] := by simp [before]
      have since := (prior_append completed trace).2
      rw [before] at completions
      rw [Reports, before] at reports
      rw [Reports, completions, List.cons_append, since]
      cases first with
      | operation own =>
          refine reports.imp id fun thrown => ?_
          obtain ⟨value, failure, moved, same, member⟩ := thrown
          exact ⟨value, failure, moved, same, List.mem_append_left _ member⟩
      | timeout error =>
          refine reports.imp id fun thrown => ?_
          obtain ⟨failure, same, member⟩ := thrown
          exact ⟨failure, same, List.mem_append_left _ member⟩

/-- The exception of a move is reported in place of the value. -/
theorem Reports.moveThrew {value : Value} {failure : Failure}
    (reports : Reports race (.returned (.ok value)))
    (trace : next.trace = race.trace ++ [.moveThrew failure]) : Reports next (.threw failure) := by
  cases before : race.completions with
  | nil =>
      rw [Reports, before] at reports
      exact reports.elim
  | cons first later =>
      have completed : race.completions ≠ [] := by simp [before]
      have since := (prior_append completed trace).2
      have completions := completions_quiet trace (by simp [Event.completion])
      rw [Reports, before] at reports
      rw [Reports, completions, before, since]
      cases first with
      | operation own =>
          rcases reports with rfl | ⟨_, _, _, threw, _⟩
          · exact .inr ⟨value, failure, rfl, rfl, by simp⟩
          · cases threw
      | timeout error =>
          rcases reports with threw | ⟨_, threw, _⟩ <;> cases threw

/-- What has been thrown is reported in place of the error of the timeout. -/
theorem Decided.reports (decided : Decided race) {winner : Branch} {failure : Failure}
    (won : race.winner = some winner) (thrown : Thrown race winner failure) :
    Reports race (.threw failure) := by
  obtain ⟨first, later, completions, same⟩ := decided.decided winner won
  cases winner with
  | operation => exact thrown.elim
  | timeout =>
      cases first with
      | operation own => cases same
      | timeout error =>
          rw [Reports, completions]
          exact .inr ⟨failure, rfl, thrown⟩

/-- What the race has stored for its parent, and what the parent has got. -/
structure Stored (race : Race Value Failure) : Prop where
  fresh : race.winner = none → race.winnerException = none
  awaits : race.winner ≠ none → ∃ outcome, race.awaitResume = some outcome ∧ Reports race outcome
  result : ∀ outcome, race.result = some outcome →
    race.winner ≠ none ∧ Reports race outcome ∧
      (race.winner = some .timeout → race.cancelled .prepared = true)

/-- The race stores the result of the winner, and the exception of `cancelLosers`. -/
theorem Does.stores (does : Does setting race thread rest old new changed) :
    .cancelLosers ∈ old ∨ .cancelLosers ∈ new ∨
      changed.winner = race.winner ∧ changed.winnerValue = race.winnerValue ∧
        changed.winnerException = race.winnerException := by
  have received : ∀ {top : Frame Value Failure} {failure : Option Failure}
      {received : List (Frame Value Failure)} {told : Race Value Failure},
      Receives told failure rest received new changed → told.winner = race.winner →
      told.winnerValue = race.winnerValue → told.winnerException = race.winnerException →
      .cancelLosers ∈ top :: received ∨ .cancelLosers ∈ new ∨
        changed.winner = race.winner ∧ changed.winnerValue = race.winnerValue ∧
          changed.winnerException = race.winnerException := by
    intro top failure received told receives winner value exception
    cases receives with
    | losers => exact .inl (by simp)
    | loop | other => exact .inr (.inr ⟨winner, value, exception⟩)
  cases does with
  | observerReturned receives => exact received receives rfl rfl rfl
  | observerThrew failure receives => exact received receives rfl rfl rfl
  | exchangeLate _ receives => exact received receives rfl rfl rfl
  | notified receives => exact received receives rfl rfl rfl
  | win => exact .inr (.inl (by simp))
  | _ => exact .inr (.inr ⟨rfl, rfl, rfl⟩)

/-- The parent gets what is stored when it is resumed. -/
theorem Does.results (does : Does setting race thread rest old new changed) :
    changed.result = race.result ∨ .resumeParent ∈ old ∧
      ∃ events, changed.trace = race.trace ++ events ∧ Returns race changed.result events := by
  have received : ∀ {failure : Option Failure} {received : List (Frame Value Failure)}
      {told : Race Value Failure}, Receives told failure rest received new changed →
      changed.result = told.result := by
    intro failure received told receives
    cases receives <;> rfl
  cases does with
  | observerReturned receives => exact .inl (received receives)
  | observerThrew failure receives =>
      have same := received receives
      exact .inl same
  | exchangeLate _ receives => exact .inl (received receives)
  | notified receives => exact .inl (received receives)
  | resumeParent _ returns => exact .inr ⟨by simp, _, rfl, returns⟩
  | _ => exact .inl rfl

/-- What the winner has stored is what it reports. -/
theorem Stores.reports {completion : Completion Value Failure}
    {winnerValue : Option (Except NetError Value)} {winnerException : Option Failure}
    {events : List (Event Value Failure)}
    (stores : Stores race completion winnerValue winnerException events)
    (fresh : race.winnerException = none) (only : race.completions = [completion])
    (stored : changed.winnerValue = winnerValue) (thrown : changed.winnerException = winnerException)
    (trace : changed.trace = race.trace ++ events) :
    ∃ outcome, changed.awaitResume = some outcome ∧ Reports changed outcome := by
  have same : changed.completions = [completion] := (completions_quiet trace stores.quiet).trans only
  rw [Race.awaitResume, stored, thrown]
  cases stores with
  | value => exact ⟨_, by rw [fresh]; rfl, by rw [Reports, same]; exact .inl rfl⟩
  | moveThrew value failure =>
      refine ⟨_, rfl, ?_⟩
      rw [Reports, same, (prior_append (by simp [only]) trace).2]
      exact .inr ⟨value, failure, rfl, rfl, by simp⟩
  | error error => exact ⟨_, by rw [fresh]; rfl, by rw [Reports, same]; exact .inl rfl⟩
  | threw failure => exact ⟨_, rfl, by rw [Reports, same]; exact .inl rfl⟩
  | timeout error => exact ⟨_, by rw [fresh]; rfl, by rw [Reports, same]; exact .inl rfl⟩

theorem Returns.reports {events : List (Event Value Failure)} {stored : Outcome Value Failure}
    (returns : Returns race (some outcome) events) (awaits : race.awaitResume = some stored)
    (reports : Reports race stored) (trace : changed.trace = race.trace ++ events) :
    Reports changed outcome := by
  generalize given : some outcome = result at returns
  cases returns with
  | stored =>
      obtain rfl : stored = outcome := Option.some.inj (awaits.symm.trans given.symm)
      exact reports.grows trace
  | moveThrew failure awaited =>
      cases given
      obtain rfl := Option.some.inj (awaits.symm.trans awaited)
      exact reports.moveThrew trace

namespace Stored

theorem awaits_does (stored : Stored race) (delivers : Delivers setting race) (decided : Decided race)
    (sound : Sound setting race) (does : Does setting race thread rest old new changed)
    (frames : race.frames thread = old ++ rest) (known : changed.winner ≠ none) :
    ∃ outcome, changed.awaitResume = some outcome ∧ Reports changed outcome := by
  obtain ⟨events, trace⟩ := does.trace
  rcases does.stores with losers | enters | ⟨winner, value, exception⟩
  · obtain ⟨winner, failure, won, thrown, changes⟩ :=
      delivers.returns decided sound does frames losers
    obtain ⟨outcome, awaited, reports⟩ := stored.awaits (by simp [won])
    subst changes
    cases exception : race.winnerException with
    | some earlier =>
        refine ⟨outcome, ?_, reports.grows trace⟩
        rw [← awaited]
        simp [Race.awaitResume, exception]
    | none =>
        cases failure with
        | none =>
            refine ⟨outcome, ?_, reports.grows trace⟩
            rw [← awaited]
            simp [Race.awaitResume, exception]
        | some failure =>
            have reports := decided.reports won (thrown failure rfl)
            exact ⟨.threw failure, by simp [Race.awaitResume], reports⟩
  · obtain ⟨undecided, completion, _, _, _, stores, rfl, rfl, rfl⟩ := does.enters enters
    have member : .settling completion [] ∈ race.frames thread := by simp [frames]
    have only := decided.settling _ _ _ member undecided
    exact stores.reports (stored.fresh undecided) only rfl rfl rfl
  · obtain ⟨outcome, awaited, reports⟩ := stored.awaits (winner ▸ known)
    refine ⟨outcome, ?_, reports.grows trace⟩
    rw [Race.awaitResume, value, exception]
    exact awaited

theorem does (stored : Stored race) (delivers : Delivers setting race) (decided : Decided race)
    (sound : Sound setting race) (does : Does setting race thread rest old new changed)
    (frames : race.frames thread = old ++ rest) : Stored (changed.put thread (new ++ rest)) := by
  refine ⟨fun undecided => ?_, fun known => ?_, fun outcome result => ?_⟩
  · rcases does.stores with losers | enters | ⟨winner, _, exception⟩
    · obtain ⟨winner, failure, won, _, rfl⟩ := delivers.returns decided sound does frames losers
      cases won.symm.trans undecided
    · obtain ⟨_, _, _, _, _, _, rfl, _⟩ := does.enters enters
      cases undecided
    · exact exception.trans (stored.fresh (winner ▸ undecided))
  · have awaits := stored.awaits_does delivers decided sound does frames known
    exact awaits
  · have grows := does.grows sound
    obtain ⟨known, reports, cancelled⟩ : race.winner ≠ none ∧ Reports changed outcome ∧
        (race.winner = some .timeout → race.cancelled .prepared = true) := by
      rcases does.results with same | ⟨resumes, told, trace, returns⟩
      · obtain ⟨known, reports, cancelled⟩ := stored.result outcome (same.symm.trans result)
        obtain ⟨events, trace⟩ := does.trace
        exact ⟨known, reports.grows trace, cancelled⟩
      · have member : .resumeParent ∈ race.frames thread :=
          frames ▸ List.mem_append_left _ resumes
        obtain ⟨known, cancelled⟩ := delivers.resumed thread member
        obtain ⟨kept, awaits, reports⟩ := stored.awaits known
        refine ⟨known, ?_, cancelled⟩
        rw [put_result] at result
        rw [result] at returns
        exact returns.reports awaits reports trace
    obtain ⟨winner, won⟩ := Option.ne_none_iff_exists'.mp known
    have still := grows.winner winner won
    refine ⟨?_, reports, fun timeout => grows.cancelled _ (cancelled ?_)⟩
    · rw [put_winner, still]
      simp
    · rw [won, ← still]
      exact timeout

theorem still (stored : Stored race) (sound : Sound setting race) (still : Still setting race next) :
    Stored next := by
  obtain ⟨winner, _⟩ := still.decides
  obtain ⟨events, trace⟩ := still.trace
  have same : next.winnerException = race.winnerException ∧
      next.awaitResume = race.awaitResume ∧ next.result = race.result := by
    cases still <;> exact ⟨rfl, rfl, rfl⟩
  obtain ⟨exception, awaitResume, result⟩ := same
  refine ⟨fun undecided => ?_, fun known => ?_, fun outcome given => ?_⟩
  · exact exception.trans (stored.fresh (winner ▸ undecided))
  · obtain ⟨outcome, awaits, reports⟩ := stored.awaits (winner ▸ known)
    exact ⟨outcome, awaitResume.trans awaits, reports.grows trace⟩
  · obtain ⟨known, reports, cancelled⟩ := stored.result outcome (result.symm.trans given)
    refine ⟨winner ▸ known, reports.grows trace, fun timeout => ?_⟩
    exact (still.grows sound).cancelled _ (cancelled (winner.symm.trans timeout))

theorem step (stored : Stored race) (delivers : Delivers setting race) (decided : Decided race)
    (sound : Sound setting race) (steps : Steps setting race next) : Stored next := by
  cases steps with
  | does does frames => exact stored.does delivers decided sound does frames
  | still still => exact stored.still sound still

theorem start (setting : Setting) (thread : Thread) (cancelled : Nat → Bool) (now : Int) :
    Stored (Race.start setting thread cancelled now : Race Value Failure) := by
  refine ⟨fun _ => rfl, fun known => absurd rfl known, fun outcome result => ?_⟩
  cases result

end Stored

/-- The wrapper of a task that has completed, until it has lost or the parent is resumed. -/
def Frame.deciding : Frame Value Failure → Bool
  | .settling .. | .cancelLosers | .resumeParent => true
  | _ => false

theorem Does.alive (does : Does setting race thread rest old new changed) :
    changed.alive = race.alive := by
  have received : ∀ {failure : Option Failure} {received : List (Frame Value Failure)}
      {told : Race Value Failure}, Receives told failure rest received new changed →
      changed.alive = told.alive := by
    intro failure received told receives
    cases receives <;> rfl
  cases does with
  | observerReturned receives => exact received receives
  | observerThrew failure receives =>
      have same := received receives
      exact same
  | exchangeLate _ receives => exact received receives
  | notified receives => exact received receives
  | _ => rfl

/-- `resumeParent` is left when the parent has got what is stored, or is gone. -/
theorem Does.resumes (does : Does setting race thread rest old new changed)
    (member : .resumeParent ∈ old) (awaits : race.awaitResume ≠ none) :
    race.alive = false ∨ changed.result ≠ none := by
  have received : ∀ {top : Frame Value Failure} {failure : Option Failure}
      {received : List (Frame Value Failure)} {told : Race Value Failure},
      Receives told failure rest received new changed → .resumeParent ∈ top :: received →
      top = .resumeParent := by
    intro top failure received told receives member
    cases receives <;> simpa [eq_comm] using member
  cases does with
  | observerReturned receives => cases received receives member
  | observerThrew failure receives => cases received receives member
  | exchangeLate _ receives => cases received receives member
  | notified receives => cases received receives member
  | resumeParent _ returns =>
      cases returns with
      | stored => exact .inr awaits
      | moveThrew => exact .inr (by simp)
  | parentGone gone => exact gone
  | _ => simp at member

/-- When a task has won its thread is about to resume the parent, or the parent has a result. -/
def Answered (race : Race Value Failure) : Prop :=
  race.winner ≠ none → race.alive = true → race.result ≠ none ∨
    ∃ thread, .cancelLosers ∈ race.frames thread ∨ .resumeParent ∈ race.frames thread

namespace Answered

theorem still (answered : Answered race) (still : Still setting race next) : Answered next := by
  intro known alive
  rw [still.decides.1] at known
  rw [still.same.1]
  cases still with
  | abandon => cases alive
  | observe | forget | link | sleepElsewhere | functorStale | expireStale | tick =>
      exact answered known alive

theorem does (answered : Answered race) (stored : Stored race)
    (does : Does setting race thread rest old new changed) (frames : race.frames thread = old ++ rest) :
    Answered (changed.put thread (new ++ rest)) := by
  intro known alive
  have here : (changed.put thread (new ++ rest)).frames thread = new ++ rest := by simp
  by_cases entered : .cancelLosers ∈ new
  · refine .inr ⟨thread, .inl ?_⟩
    rw [here]
    exact List.mem_append_left _ entered
  -- the parent keeps what it has got
  have keeps : race.winner ≠ none → race.result ≠ none → changed.result ≠ none := by
    intro before given
    rcases does.results with same | ⟨_, _, _, returns⟩
    · rwa [same]
    · obtain ⟨outcome, awaits, _⟩ := stored.awaits before
      cases returns' : changed.result with
      | some _ => simp
      | none =>
          rw [returns'] at returns
          generalize given : none = result at returns
          cases returns with
          | stored => cases given.trans awaits
          | moveThrew => cases given
  have before : race.winner ≠ none := by
    rcases does.stores with losers | enters | ⟨winner, _⟩
    · obtain ⟨top, rfl, rfl⟩ := does.leaves losers
      cases does.decides with
      | other winner => exact winner ▸ known
    · exact absurd enters entered
    · exact winner ▸ known
  obtain ⟨outcome, awaits, _⟩ := stored.awaits before
  have elsewhere : ∀ {frame : Frame Value Failure} {other : Thread}, frame ∈ race.frames other →
      frame ∉ old → frame ∈ (changed.put thread (new ++ rest)).frames other := by
    intro frame other member stays
    by_cases same : other = thread
    · rw [same, frames, List.mem_append] at member
      rw [same, here]
      exact List.mem_append_right _ (member.resolve_left stays)
    · rw [put_frames, Function.update_of_ne same, does.same.1]
      exact member
  rcases answered before (does.alive ▸ alive) with given | ⟨other, losers | resumes⟩
  · exact .inl (keeps before given)
  · by_cases left : .cancelLosers ∈ old
    · obtain ⟨_, _, rfl⟩ := does.leaves left
      exact .inr ⟨thread, .inr (by simp)⟩
    · exact .inr ⟨other, .inl (elsewhere losers left)⟩
  · by_cases left : .resumeParent ∈ old
    · rcases does.resumes left (by simp [awaits]) with gone | given
      · rw [← does.alive] at gone
        cases gone.symm.trans alive
      · exact .inl given
    · exact .inr ⟨other, .inr (elsewhere resumes left)⟩

theorem step (answered : Answered race) (stored : Stored race) (steps : Steps setting race next) :
    Answered next := by
  cases steps with
  | does does frames => exact answered.does stored does frames
  | still still => exact answered.still still

theorem start (setting : Setting) (thread : Thread) (cancelled : Nat → Bool) (now : Int) :
    Answered (Race.start setting thread cancelled now : Race Value Failure) :=
  fun known => absurd rfl known

end Answered

end MiniTrantor.Coroutine.Timeout
