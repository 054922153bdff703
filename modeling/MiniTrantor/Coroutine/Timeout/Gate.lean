import MiniTrantor.Coroutine.Timeout.Steps

/-!
# One thread under the gate

Only one thread has frames under the gate, so the wrapper of a task that has completed
contends before any other task completes. The first task that completes wins.
-/

set_option autoImplicit false

namespace MiniTrantor.Coroutine.Timeout

variable {Value Failure : Type} {setting : Setting} {race next changed : Race Value Failure}
  {thread other : Thread} {rest old new : List (Frame Value Failure)}

section put

variable (thread) (stack : List (Frame Value Failure)) (race)

@[simp] theorem put_frames :
    (race.put thread stack).frames = Function.update race.frames thread stack := rfl
@[simp] theorem put_now : (race.put thread stack).now = race.now := rfl
@[simp] theorem put_cancelled : (race.put thread stack).cancelled = race.cancelled := rfl
@[simp] theorem put_callbacks : (race.put thread stack).callbacks = race.callbacks := rfl
@[simp] theorem put_launch : (race.put thread stack).launch = race.launch := rfl
@[simp] theorem put_operation : (race.put thread stack).operation = race.operation := rfl
@[simp] theorem put_phase : (race.put thread stack).phase = race.phase := rfl
@[simp] theorem put_deadline : (race.put thread stack).deadline = race.deadline := rfl
@[simp] theorem put_queue : (race.put thread stack).queue = race.queue := rfl
@[simp] theorem put_winner : (race.put thread stack).winner = race.winner := rfl
@[simp] theorem put_winnerValue : (race.put thread stack).winnerValue = race.winnerValue := rfl
@[simp] theorem put_winnerException :
    (race.put thread stack).winnerException = race.winnerException := rfl
@[simp] theorem put_result : (race.put thread stack).result = race.result := rfl
@[simp] theorem put_trace : (race.put thread stack).trace = race.trace := rfl

end put

theorem Receives.same {failure : Option Failure}
    (receives : Receives race failure rest old new changed) :
    changed.frames = race.frames ∧ changed.gate = race.gate := by
  cases receives <;> exact ⟨rfl, rfl⟩

/-- Frames and the gate change in no other way. -/
theorem Does.same (does : Does setting race thread rest old new changed) :
    changed.frames = race.frames ∧ changed.gate = race.gate := by
  cases does with
  | observerReturned receives => exact receives.same
  | observerThrew failure receives => exact receives.same
  | exchangeLate _ receives => exact receives.same
  | notified receives => exact receives.same
  | _ => exact ⟨rfl, rfl⟩

theorem Still.same (still : Still setting race next) :
    next.frames = race.frames ∧ next.gate = race.gate := by
  cases still <;> exact ⟨rfl, rfl⟩

theorem Receives.gated {failure : Option Failure}
    (receives : Receives race failure rest old new changed) (under : new.any Frame.gated = true) :
    old.any Frame.gated = true := by
  cases receives with
  | loop => cases under
  | losers => rfl
  | other => cases under

/-- A frame under the gate takes the place of another, or the gate was open. -/
theorem Does.gated (does : Does setting race thread rest old new changed)
    (under : new.any Frame.gated = true) :
    old.any Frame.gated = true ∨ race.gateOpen thread = true := by
  cases does with
  | resume _ opened => exact .inr opened
  | resumeSleep opened => exact .inr opened
  | observerReturned receives => exact .inl (by simpa [Frame.gated] using receives.gated under)
  | observerThrew failure receives => exact .inl (by simpa [Frame.gated] using receives.gated under)
  | exchangeLate _ receives => exact .inl (by simpa [Frame.gated] using receives.gated under)
  | notified receives => exact .inl (by simpa [Frame.gated] using receives.gated under)
  | finish | linkCancelled | await | sleepHere | unlink | win | resumeParent => exact .inl rfl
  | cancel | observe | suspend | parentReturned | launched | lose | parentGone | exchange | swap
  | notifyLink | notifySleep | notifyObserver | armStale | armCancelled | arm | registerCancelled
  | register | resetSleep | functorArm | functorComplete | expire => cases under

theorem start_frames {frame : Frame Value Failure} {cancelled : Nat → Bool} {now : Int}
    (member : frame ∈ (Race.start setting thread cancelled now : Race Value Failure).frames other) :
    frame = .launching := by
  rw [Race.start, put_frames] at member
  by_cases here : other = thread
  · rw [here, Function.update_self] at member
    exact List.mem_singleton.mp member
  · rw [Function.update_of_ne here] at member
    cases member

/-- The thread that has a frame under the gate holds it. -/
def Gated (race : Race Value Failure) : Prop :=
  ∀ thread, ∀ frame ∈ race.frames thread, frame.gated = true → race.gate = some thread

namespace Gated

theorem unique {frame held : Frame Value Failure} (gated : Gated race)
    (member : frame ∈ race.frames thread) (under : frame.gated = true)
    (holds : held ∈ race.frames other) (too : held.gated = true) : thread = other :=
  Option.some.inj ((gated _ _ member under).symm.trans (gated _ _ holds too))

theorem opened {frame : Frame Value Failure} (gated : Gated race)
    (member : frame ∈ race.frames other) (under : frame.gated = true)
    (opened : race.gateOpen thread = true) : other = thread := by
  have held := gated other frame member under
  rw [Race.gateOpen, held] at opened
  simpa using opened

theorem step (gated : Gated race) (steps : Steps setting race next) : Gated next := by
  cases steps with
  | still still =>
      intro other frame member under
      rw [still.same.1] at member
      rw [still.same.2]
      exact gated other frame member under
  | @does thread rest old new changed does frames =>
      intro other frame member under
      rw [put_frames, does.same.1] at member
      simp only [Race.put, does.same.2]
      by_cases here : other = thread
      · rw [here, Function.update_self] at member
        rw [if_pos (List.any_eq_true.mpr ⟨frame, member, under⟩), here]
      · rw [Function.update_of_ne here] at member
        have held := gated other frame member under
        split
        case isFalse => rw [if_neg (by simpa [held] using here), held]
        case isTrue stacked =>
          -- the gate would belong to both threads
          have mine : ∀ frame ∈ old ++ rest, frame.gated = true → other = thread :=
            fun held holds too => gated.unique member under (frames ▸ holds) too
          rw [List.any_append, Bool.or_eq_true] at stacked
          rcases stacked with added | stays
          · rcases does.gated added with replaced | opened
            · obtain ⟨held, holds, too⟩ := List.any_eq_true.mp replaced
              exact absurd (mine held (List.mem_append_left _ holds) too) here
            · exact absurd (gated.opened member under opened) here
          · obtain ⟨held, holds, too⟩ := List.any_eq_true.mp stays
            exact absurd (mine held (List.mem_append_right _ holds) too) here

theorem start (setting : Setting) (thread : Thread) (cancelled : Nat → Bool) (now : Int) :
    Gated (Race.start setting thread cancelled now : Race Value Failure) := by
  intro other frame member under
  by_cases here : other = thread
  · rw [here]
    rfl
  · rw [Race.start, put_frames, Function.update_of_ne here] at member
    cases member

end Gated

def Event.completion : Event Value Failure → Option (Completion Value Failure)
  | .completed completion => some completion
  | _ => none

/-- What the tasks have completed with, in order. -/
def Race.completions (race : Race Value Failure) : List (Completion Value Failure) :=
  race.trace.filterMap Event.completion

def Frame.isSettling : Frame Value Failure → Bool
  | .settling .. => true
  | _ => false

/-- What a step does to the decision. -/
inductive Decides (race : Race Value Failure) (thread : Thread) (rest : List (Frame Value Failure)) :
    List (Frame Value Failure) → List (Frame Value Failure) → Race Value Failure → Prop where
  | complete {top : Frame Value Failure} {completion : Completion Value Failure}
      {tokens : List Source} {changed : Race Value Failure} : top.isSettling = false →
      top.gated = true ∨ race.gateOpen thread = true → changed.winner = race.winner →
      changed.trace = race.trace ++ [.completed completion] →
      Decides race thread rest [top] [.settling completion tokens] changed
  | unlink {completion : Completion Value Failure} {token : Source} {tokens : List Source}
      {changed : Race Value Failure} : changed.winner = race.winner →
      changed.completions = race.completions →
      Decides race thread rest [.settling completion (token :: tokens)]
        [.settling completion tokens] changed
  | lose {completion : Completion Value Failure} {winner : Branch} : race.winner = some winner →
      Decides race thread rest [.settling completion []] [] race
  | win {completion : Completion Value Failure} {changed : Race Value Failure} :
      race.winner = none → changed.winner = some completion.branch →
      changed.completions = race.completions →
      Decides race thread rest [.settling completion []]
        [.exchanging (.loser completion.branch.other), .cancelLosers] changed
  | other {old new : List (Frame Value Failure)} {changed : Race Value Failure} :
      changed.winner = race.winner → changed.completions = race.completions →
      new.any Frame.isSettling = false → ((old ++ rest).head?.any Frame.isSettling) = false →
      Decides race thread rest old new changed

theorem completions_append {completion : Completion Value Failure}
    (trace : changed.trace = race.trace ++ [.completed completion]) :
    changed.completions = race.completions ++ [completion] := by
  simp [Race.completions, trace, Event.completion]

theorem completions_quiet {events : List (Event Value Failure)}
    (trace : changed.trace = race.trace ++ events)
    (quiet : ∀ event ∈ events, event.completion = none) : changed.completions = race.completions := by
  rw [Race.completions, trace, List.filterMap_append, List.filterMap_eq_nil_iff.mpr quiet,
    List.append_nil, Race.completions]

theorem Stores.quiet {completion : Completion Value Failure}
    {winnerValue : Option (Except NetError Value)} {winnerException : Option Failure}
    {events : List (Event Value Failure)}
    (stores : Stores race completion winnerValue winnerException events) :
    ∀ event ∈ events, event.completion = none := by
  cases stores with
  | moveThrew => simp [Event.completion]
  | value | error | threw | timeout => simp

theorem Returns.quiet {result : Option (Outcome Value Failure)} {events : List (Event Value Failure)}
    (returns : Returns race result events) : ∀ event ∈ events, event.completion = none := by
  cases returns with
  | moveThrew => simp [Event.completion]
  | stored => simp

theorem Receives.decides {failure : Option Failure}
    (receives : Receives race failure rest old new changed) :
    changed.winner = race.winner ∧ changed.trace = race.trace ∧
      new.any Frame.isSettling = false := by
  cases receives <;> exact ⟨rfl, rfl, rfl⟩

theorem user_unsettling (user : ∀ frame ∈ rest.head?, frame.user = true) :
    (rest.head?.any Frame.isSettling) = false := by
  cases rest with
  | nil => rfl
  | cons frame rest =>
      have runs := user frame rfl
      cases frame
      case settling => cases runs
      all_goals rfl

theorem Does.decides (does : Does setting race thread rest old new changed) :
    Decides race thread rest old new changed := by
  have told : ∀ event : Event Value Failure, event.completion = none →
      (race.trace ++ [event]).filterMap Event.completion = race.completions := by
    intro event none
    simp [none, Race.completions]
  cases does with
  | finish outcome => exact .complete rfl (.inl rfl) rfl rfl
  | resumeSleep opened => exact .complete rfl (.inr opened) rfl rfl
  | unlink => exact .unlink rfl rfl
  | lose decided => exact .lose decided
  | win undecided stores => exact .win undecided rfl (completions_quiet rfl stores.quiet)
  | resumeParent _ returns => exact .other rfl (completions_quiet rfl returns.quiet) rfl rfl
  | cancel id user => exact .other rfl rfl rfl (user_unsettling user)
  | observe user => exact .other rfl rfl rfl (user_unsettling user)
  | resume user => exact .other rfl rfl rfl (user_unsettling user)
  | observerReturned receives =>
      obtain ⟨winner, trace, plain⟩ := receives.decides
      exact .other winner (by rw [Race.completions, trace, Race.completions]) plain rfl
  | observerThrew failure receives =>
      obtain ⟨winner, trace, plain⟩ := receives.decides
      exact .other winner (by rw [Race.completions, trace]; exact told _ rfl) plain rfl
  | exchangeLate _ receives =>
      obtain ⟨winner, trace, plain⟩ := receives.decides
      exact .other winner (by rw [Race.completions, trace, Race.completions]) plain rfl
  | notified receives =>
      obtain ⟨winner, trace, plain⟩ := receives.decides
      exact .other winner (by rw [Race.completions, trace, Race.completions]) plain rfl
  | sleepHere => exact .other rfl (told _ rfl) rfl rfl
  | functorArm empty => exact .other rfl rfl rfl (by rw [empty]; rfl)
  | functorComplete empty => exact .other rfl (told _ rfl) rfl (by rw [empty]; rfl)
  | expire empty => exact .other rfl (told _ rfl) rfl (by rw [empty]; rfl)
  | suspend | parentReturned | launched | linkCancelled | await | parentGone | exchange | swap | notifyLink | notifySleep | notifyObserver | armStale | armCancelled | arm
  | registerCancelled | register | resetSleep => exact .other rfl rfl rfl rfl

theorem Still.decides (still : Still setting race next) :
    next.winner = race.winner ∧ next.completions = race.completions := by
  cases still with
  | sleepElsewhere => exact ⟨rfl, by simp [Race.completions, Race.emit, Event.completion]⟩
  | _ => exact ⟨rfl, rfl⟩

/-- While nobody has won no task has completed, or one whose wrapper is about to contend. -/
structure Decided (race : Race Value Failure) : Prop where
  undecided : race.winner = none → race.completions = [] ∨
    ∃ thread completion tokens rest, race.frames thread = .settling completion tokens :: rest ∧
      race.completions = [completion]
  settling : ∀ thread completion tokens, .settling completion tokens ∈ race.frames thread →
    race.winner = none → race.completions = [completion]
  decided : ∀ winner, race.winner = some winner →
    ∃ completion later, race.completions = completion :: later ∧ completion.branch = winner

namespace Decided

/-- No task completes while the wrapper of another is under the gate. -/
theorem first (decided : Decided race) (gated : Gated race) {top : Frame Value Failure}
    (frames : race.frames thread = [top] ++ rest) (plain : top.isSettling = false)
    (under : top.gated = true ∨ race.gateOpen thread = true) (undecided : race.winner = none) :
    race.completions = [] := by
  rcases decided.undecided undecided with none | ⟨other, completion, tokens, stack, settles, _⟩
  · exact none
  · have member : .settling completion tokens ∈ race.frames other := by simp [settles]
    have same : other = thread := by
      rcases under with held | opened
      · exact gated.unique member rfl (by simp [frames]) held
      · exact gated.opened member rfl opened
    rw [same, frames] at settles
    cases settles
    cases plain

theorem still (decided : Decided race) (still : Still setting race next) : Decided next := by
  obtain ⟨winner, completions⟩ := still.decides
  refine ⟨fun undecided => ?_, fun thread completion tokens member undecided => ?_,
    fun branch won => ?_⟩
  · rw [winner] at undecided
    rw [completions, still.same.1]
    exact decided.undecided undecided
  · rw [still.same.1] at member
    rw [winner] at undecided
    rw [completions]
    exact decided.settling thread completion tokens member undecided
  · rw [winner] at won
    rw [completions]
    exact decided.decided branch won

theorem does (decided : Decided race) (gated : Gated race)
    (does : Does setting race thread rest old new changed)
    (frames : race.frames thread = old ++ rest) : Decided (changed.put thread (new ++ rest)) := by
  have elsewhere : ∀ other, other ≠ thread →
      (changed.put thread (new ++ rest)).frames other = race.frames other := by
    intro other apart
    rw [put_frames, Function.update_of_ne apart, does.same.1]
  have here : (changed.put thread (new ++ rest)).frames thread = new ++ rest := by simp
  cases does.decides with
  | @complete top completion tokens _ plain under winner trace =>
      have completions := completions_append trace
      have before := decided.first gated frames plain under
      refine ⟨fun undecided => .inr ⟨thread, completion, tokens, rest, here, ?_⟩,
        fun other known tokens member undecided => ?_, fun branch won => ?_⟩
      · exact completions.trans (by rw [before (winner ▸ undecided), List.nil_append])
      · have empty := before (winner ▸ undecided)
        have only : changed.completions = [completion] := by
          rw [completions, empty, List.nil_append]
        have none : ∀ thread, .settling known tokens ∉ race.frames thread := by
          intro thread settles
          have shown := decided.settling thread known tokens settles (winner ▸ undecided)
          rw [empty] at shown
          cases shown
        by_cases same : other = thread
        · rw [same, here, List.singleton_append, List.mem_cons] at member
          rcases member with top | below
          · cases top
            exact only
          · exact absurd (frames ▸ List.mem_append_right _ below) (none thread)
        · rw [elsewhere other same] at member
          exact absurd member (none other)
      · obtain ⟨first, later, known, branches⟩ := decided.decided branch (winner ▸ won)
        exact ⟨first, later ++ [completion], completions.trans (by rw [known]; rfl), branches⟩
  | @unlink completion token tokens _ winner completions =>
      have settled : ∀ other known tokens', .settling known tokens' ∈
          (changed.put thread ([.settling completion tokens] ++ rest)).frames other →
          ∃ tokens', .settling known tokens' ∈ race.frames other := by
        intro other known tokens' member
        by_cases same : other = thread
        · rw [same, here, List.singleton_append, List.mem_cons] at member
          rcases member with top | below
          · cases top
            exact ⟨token :: tokens, by simp [same, frames]⟩
          · exact ⟨tokens', by rw [same, frames]; exact List.mem_cons_of_mem _ below⟩
        · exact ⟨tokens', elsewhere other same ▸ member⟩
      refine ⟨fun undecided => .inr ⟨thread, completion, tokens, rest, here, ?_⟩,
        fun other known tokens' member undecided => ?_, fun branch won => ?_⟩
      · have member : .settling completion (token :: tokens) ∈ race.frames thread := by
          simp [frames]
        exact completions.trans (decided.settling _ _ _ member (winner ▸ undecided))
      · obtain ⟨tokens', member⟩ := settled other known tokens' member
        exact completions.trans (decided.settling other known tokens' member (winner ▸ undecided))
      · obtain ⟨first, later, known, branches⟩ := decided.decided branch (winner ▸ won)
        exact ⟨first, later, completions.trans known, branches⟩
  | lose won =>
      refine ⟨fun undecided => ?_, fun _ _ _ _ undecided => ?_, fun branch won => ?_⟩
      · cases won.symm.trans undecided
      · cases won.symm.trans undecided
      · exact decided.decided branch won
  | @win completion _ undecided winner completions =>
      refine ⟨fun none => ?_, fun _ _ _ _ none => ?_, fun branch won => ?_⟩
      · cases winner.symm.trans none
      · cases winner.symm.trans none
      · have member : .settling completion [] ∈ race.frames thread := by simp [frames]
        have only := decided.settling _ _ _ member undecided
        refine ⟨_, [], completions.trans only, ?_⟩
        exact Option.some.inj (winner.symm.trans won)
  | other winner completions plain top =>
      have settled : ∀ other known tokens, .settling known tokens ∈
          (changed.put thread (new ++ rest)).frames other →
          .settling known tokens ∈ race.frames other := by
        intro other known tokens member
        by_cases same : other = thread
        · rw [same, here, List.mem_append] at member
          rw [same, frames]
          refine List.mem_append_right _ (member.resolve_left fun added => ?_)
          rw [List.any_eq_false] at plain
          exact plain _ added rfl
        · exact elsewhere other same ▸ member
      refine ⟨fun undecided => ?_, fun other known tokens member undecided => ?_,
        fun branch won => ?_⟩
      · rcases decided.undecided (winner ▸ undecided) with
          none | ⟨other, known, tokens, stack, settles, only⟩
        · exact .inl (completions.trans none)
        · refine .inr ⟨other, known, tokens, stack, ?_, completions.trans only⟩
          rw [elsewhere other, settles]
          intro same
          rw [← frames, ← same, settles] at top
          cases top
      · exact completions.trans
          (decided.settling other known tokens (settled other known tokens member) (winner ▸ undecided))
      · obtain ⟨first, later, known, branches⟩ := decided.decided branch (winner ▸ won)
        exact ⟨first, later, completions.trans known, branches⟩

theorem step (decided : Decided race) (gated : Gated race) (steps : Steps setting race next) :
    Decided next := by
  cases steps with
  | does does frames => exact decided.does gated does frames
  | still still => exact decided.still still

theorem start (setting : Setting) (thread : Thread) (cancelled : Nat → Bool) (now : Int) :
    Decided (Race.start setting thread cancelled now : Race Value Failure) := by
  refine ⟨fun _ => .inl rfl, fun other completion tokens member => ?_, fun winner won => ?_⟩
  · cases start_frames member
  · cases won

end Decided

end MiniTrantor.Coroutine.Timeout
