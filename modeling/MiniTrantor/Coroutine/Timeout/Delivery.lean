import MiniTrantor.Coroutine.Timeout.Losers

/-!
# The token of the operation is cancelled

The race cancels its source for the operation, which leads over the token that it has given
to `prepareTimedOperation` to the token of the operation. Nobody else cancels the two on the
way, and both are linked before the sleep begins.
-/

set_option autoImplicit false

namespace MiniTrantor.Coroutine.Timeout

variable {Value Failure : Type} {setting : Setting} {race next changed : Race Value Failure}
  {thread other : Thread} {rest old new : List (Frame Value Failure)} {winner : Branch}

/-- The sources on the way to the token of the operation. -/
def Source.onPath : Source → Bool
  | .loser .operation | .linked .operation => true
  | _ => false

def Frame.onPath : Frame Value Failure → Bool
  | .exchanging source | .swapping source | .notifying source .. => source.onPath
  | _ => false

theorem Registers.onPath {source target : Source}
    (registers : Registers setting source (.cancel target))
    (path : target.onPath = true) : source.onPath = true := by
  cases registers with
  | loser branch =>
      cases branch with
      | operation => rfl
      | timeout => cases path
  | inherited => cases path
  | token => cases path

theorem Sound.onPath {source : Source} (sound : Sound setting race) (path : source.onPath = true)
    (cancelled : race.cancelled source = true) : race.winner = some .timeout := by
  have loser : race.cancelled (.loser .operation) = true → race.winner = some .timeout :=
    sound.cancelled (.loser .operation)
  cases source with
  | loser branch =>
      cases branch with
      | operation => exact loser cancelled
      | timeout => cases path
  | linked branch =>
      cases branch with
      | operation => exact loser (sound.cancelled (.linked .operation) cancelled)
      | timeout => cases path
  | user | prepared => cases path

theorem split_rest {above below : List (Frame Value Failure)} {frame : Frame Value Failure}
    (split : new ++ rest = above ++ frame :: below) (fresh : frame ∉ new) :
    ∃ middle, above = new ++ middle ∧ rest = middle ++ frame :: below := by
  rcases List.append_eq_append_iff.mp split with ⟨middle, rfl, rest⟩ | ⟨middle, rfl, back⟩
  · exact ⟨middle, rfl, rest⟩
  · cases middle with
    | nil => exact ⟨[], by simp, by simpa using back.symm⟩
    | cons first middle =>
        cases back
        simp at fresh

/-- `cancelLosers` is left when its call returns. -/
theorem Does.leaves (does : Does setting race thread rest old new changed)
    (member : .cancelLosers ∈ old) : ∃ top, old = [top, .cancelLosers] ∧ new = [.resumeParent] := by
  have received : ∀ {top : Frame Value Failure} {failure : Option Failure}
      {received : List (Frame Value Failure)} {told : Race Value Failure},
      old = top :: received → top.gated = false → Receives told failure rest received new changed →
      ∃ top, old = [top, .cancelLosers] ∧ new = [.resumeParent] := by
    intro top failure received told same library receives
    rw [same, List.mem_cons] at member
    cases receives with
    | losers => exact ⟨top, same, rfl⟩
    | loop | other =>
        rcases member with rfl | member
        · cases library
        · simp at member
  cases does with
  | observerReturned receives => exact received rfl rfl receives
  | observerThrew failure receives => exact received rfl rfl receives
  | exchangeLate _ receives => exact received rfl rfl receives
  | notified receives => exact received rfl rfl receives
  | _ => simp at member

/-- It is entered by the winner. -/
theorem Does.enters (does : Does setting race thread rest old new changed)
    (member : .cancelLosers ∈ new) : race.winner = none ∧
      ∃ completion winnerValue winnerException events,
        Stores race completion winnerValue winnerException events ∧
        changed = { race with
          winner := some completion.branch
          winnerValue
          winnerException
          trace := race.trace ++ events } ∧ old = [.settling completion []] ∧
        new = [.exchanging (.loser completion.branch.other), .cancelLosers] := by
  have received : ∀ {failure : Option Failure} {received : List (Frame Value Failure)}
      {told : Race Value Failure}, Receives told failure rest received new changed →
      .cancelLosers ∉ new := by
    intro failure received told receives
    cases receives <;> simp
  cases does with
  | win undecided stores => exact ⟨undecided, _, _, _, _, stores, rfl, rfl, rfl⟩
  | observerReturned receives => exact absurd member (received receives)
  | observerThrew failure receives => exact absurd member (received receives)
  | exchangeLate _ receives => exact absurd member (received receives)
  | notified receives => exact absurd member (received receives)
  | _ => simp at member

theorem win_onPath {completion : Completion Value Failure}
    (path : (Source.loser completion.branch.other).onPath = true) :
    completion.branch = .timeout := by
  cases completion with
  | operation => cases path
  | timeout => rfl

/-- A call that is on the way takes the place of another, or is the winner's. -/
theorem Does.path (does : Does setting race thread rest old new changed) (sound : Sound setting race)
    (tops : ∀ frame ∈ old, frame.Sound setting race)
    (launching : race.winner = some .timeout → race.launch = []) {frame : Frame Value Failure}
    (member : frame ∈ new) (path : frame.onPath = true) :
    (∃ before ∈ old, before.onPath = true) ∨
      .cancelLosers ∈ new ∧ changed.winner = some .timeout := by
  have received : ∀ {top : Frame Value Failure} {failure : Option Failure}
      {received : List (Frame Value Failure)} {told : Race Value Failure},
      Receives told failure rest received new changed →
      ∃ before ∈ top :: received, before.onPath = true := by
    intro top failure received told receives
    cases receives with
    | loop source callbacks first =>
        rw [List.mem_singleton.mp member] at path
        exact ⟨.notifying source callbacks first, by simp, path⟩
    | losers =>
        rw [List.mem_singleton.mp member] at path
        cases path
    | other => cases member
  cases does with
  | observerReturned receives => exact .inl (received receives)
  | observerThrew failure receives => exact .inl (received receives)
  | exchangeLate _ receives => exact .inl (received receives)
  | notified receives => exact .inl (received receives)
  | linkCancelled instructions cancelled =>
      simp only [List.mem_cons, List.not_mem_nil, or_false] at member
      rcases member with rfl | rfl
      · -- the launch is over when the timeout wins
        have token := (sound.linked instructions).onPath path
        rw [launching (sound.onPath token cancelled)] at instructions
        cases instructions
      · cases path
  | win =>
      simp only [List.mem_cons, List.not_mem_nil, or_false] at member
      rcases member with rfl | rfl
      · exact .inr ⟨by simp, congrArg some (win_onPath path)⟩
      · cases path
  | exchange | swap =>
      rw [List.mem_singleton.mp member] at path
      exact .inl ⟨_, List.mem_singleton_self _, path⟩
  | notifyLink linked =>
      have notifying := tops _ (List.mem_singleton_self _)
      refine .inl ⟨_, List.mem_singleton_self _, ?_⟩
      simp only [List.mem_cons, List.not_mem_nil, or_false] at member
      rcases member with rfl | rfl
      · exact (notifying.2 _ linked).onPath path
      · exact path
  | notifySleep =>
      rw [List.mem_singleton.mp member] at path
      exact .inl ⟨_, List.mem_singleton_self _, path⟩
  | notifyObserver =>
      simp only [List.mem_cons, List.not_mem_nil, or_false] at member
      rcases member with rfl | rfl
      · cases path
      · exact .inl ⟨_, List.mem_singleton_self _, path⟩
  | await | sleepHere =>
      simp only [List.mem_cons, List.not_mem_nil, or_false] at member
      rcases member with rfl | rfl <;> cases path
  | cancel | observe | resume | finish | unlink | resumeParent | arm | resetSleep | resumeSleep
  | functorArm | functorComplete | expire =>
      rw [List.mem_singleton.mp member] at path
      cases path
  | suspend | parentReturned | launched | lose | parentGone | armStale | armCancelled
  | registerCancelled | register => cases member

/-- The calls on the way are over `cancelLosers` on the stack of the thread for which the
timeout has won. -/
structure Paths (race : Race Value Failure) : Prop where
  slept : race.winner = some .timeout → race.phase.settled = true
  decided : ∀ thread, .cancelLosers ∈ race.frames thread → race.winner ≠ none
  above : ∀ thread, ∀ frame ∈ race.frames thread, frame.onPath = true →
    race.winner = some .timeout ∧ .cancelLosers ∈ race.frames thread
  below : ∀ thread above below, race.frames thread = above ++ .cancelLosers :: below →
    ∀ frame ∈ below, frame.onPath = false

namespace Paths

theorem launched (paths : Paths race) (sound : Sound setting race)
    (won : race.winner = some .timeout) : race.launch = [] := by
  refine sound.armed fun unarmed => ?_
  have settled := paths.slept won
  rw [unarmed] at settled
  cases settled

/-- Another thread has nothing on the way. -/
theorem elsewhere (paths : Paths race) (gated : Gated race) {frame : Frame Value Failure}
    (losers : .cancelLosers ∈ race.frames other) (apart : thread ≠ other)
    (member : frame ∈ race.frames thread) : frame.onPath = false := by
  by_contra path
  have mine := (paths.above thread frame member (by simpa using path)).2
  exact apart (gated.unique mine rfl losers rfl)

theorem still (paths : Paths race) (sound : Sound setting race) (still : Still setting race next) :
    Paths next := by
  have grows := still.grows sound
  obtain ⟨winner, _⟩ := still.decides
  refine ⟨fun won => ?_, fun thread member => ?_, fun thread frame member path => ?_,
    fun thread above below split => ?_⟩
  · have settled := paths.slept (winner ▸ won)
    rw [grows.phase settled]
    exact settled
  · rw [winner]
    exact paths.decided thread (still.same.1 ▸ member)
  · rw [winner, still.same.1]
    exact paths.above thread frame (still.same.1 ▸ member) path
  · exact paths.below thread above below (still.same.1 ▸ split)

theorem does (paths : Paths race) (sound : Sound setting race)
    (does : Does setting race thread rest old new changed) (frames : race.frames thread = old ++ rest) :
    Paths (changed.put thread (new ++ rest)) := by
  have grows := does.grows sound
  have tops : ∀ frame ∈ old, frame.Sound setting race :=
    fun frame member => sound.frames thread frame (frames ▸ List.mem_append_left _ member)
  have here : (changed.put thread (new ++ rest)).frames thread = new ++ rest := by simp
  have elsewhere : ∀ other, other ≠ thread →
      (changed.put thread (new ++ rest)).frames other = race.frames other := by
    intro other apart
    rw [put_frames, Function.update_of_ne apart, does.same.1]
  have stays : race.winner ≠ none → (changed.put thread (new ++ rest)).winner ≠ none := by
    intro won
    obtain ⟨branch, won⟩ := Option.ne_none_iff_exists'.mp won
    rw [put_winner, grows.winner branch won]
    simp
  -- what is below the frames that a step takes off stays where it is
  have kept : .cancelLosers ∈ race.frames thread → (∃ frame ∈ rest, frame.onPath = true) →
      .cancelLosers ∈ new ++ rest := by
    rintro losers ⟨frame, member, path⟩
    rw [frames, List.mem_append] at losers
    rcases losers with gone | stays
    · obtain ⟨top, rfl, _⟩ := does.leaves gone
      rw [paths.below thread [top] rest frames frame member] at path
      cases path
    · exact List.mem_append_right _ stays
  refine ⟨fun won => ?_, fun other member => ?_, fun other frame member path => ?_,
    fun other above below split frame member => ?_⟩
  · have settled : race.phase.settled = true := by
      cases does.decides with
      | complete _ _ winner => exact paths.slept (winner ▸ won)
      | unlink winner => exact paths.slept (winner ▸ won)
      | lose => exact paths.slept won
      | other winner => exact paths.slept (winner ▸ won)
      | @win completion _ _ winner =>
          have timeout : completion.branch = .timeout := Option.some.inj (winner.symm.trans won)
          have settling := tops _ (List.mem_singleton_self _)
          cases completion with
          | operation outcome => cases timeout
          | timeout error => exact settling.2.1
    rw [put_phase, grows.phase settled]
    exact settled
  · by_cases same : other = thread
    · rw [same, here, List.mem_append] at member
      rcases member with added | below
      · obtain ⟨_, completion, _, _, _, _, rfl, _⟩ := does.enters added
        simp
      · exact stays (paths.decided thread (frames ▸ List.mem_append_right _ below))
    · exact stays (paths.decided other (elsewhere other same ▸ member))
  · have before : ∀ stack, (∃ frame ∈ race.frames stack, frame.onPath = true) →
        changed.winner = some .timeout ∧ .cancelLosers ∈ race.frames stack := by
      rintro stack ⟨frame, member, path⟩
      obtain ⟨won, losers⟩ := paths.above stack frame member path
      exact ⟨grows.winner _ won, losers⟩
    by_cases same : other = thread
    · rw [same, here, List.mem_append] at member
      rw [same, here]
      rcases member with added | below
      · rcases does.path sound tops (paths.launched sound) added path with
          ⟨top, taken, too⟩ | ⟨losers, won⟩
        · obtain ⟨won, losers⟩ := before thread ⟨top, frames ▸ List.mem_append_left _ taken, too⟩
          refine ⟨won, ?_⟩
          rw [frames, List.mem_append] at losers
          rcases losers with gone | stays
          · obtain ⟨_, _, rfl⟩ := does.leaves gone
            rw [List.mem_singleton.mp added] at path
            cases path
          · exact List.mem_append_right _ stays
        · exact ⟨won, List.mem_append_left _ losers⟩
      · obtain ⟨won, losers⟩ := before thread ⟨frame, frames ▸ List.mem_append_right _ below, path⟩
        exact ⟨won, kept losers ⟨frame, below, path⟩⟩
    · rw [elsewhere other same] at member ⊢
      exact before other ⟨frame, member, path⟩
  · by_cases same : other = thread
    · rw [same, here] at split
      by_cases entered : Frame.cancelLosers ∈ new
      · obtain ⟨undecided, completion, _, _, _, _, _, _, rfl⟩ := does.enters entered
        have member : frame ∈ rest := by
          cases above with
          | nil => cases split
          | cons first above =>
              cases above with
              | nil =>
                  cases split
                  exact member
              | cons second above =>
                  cases split
                  simp [member]
        by_contra path
        have won := (paths.above thread frame (frames ▸ List.mem_append_right _ member)
          (by simpa using path)).1
        cases undecided.symm.trans won
      · obtain ⟨middle, _, below⟩ := split_rest split entered
        refine paths.below thread (old ++ middle) _ ?_ frame member
        rw [frames, below, List.append_assoc]
    · exact paths.below other above below (elsewhere other same ▸ split) frame member

theorem step (paths : Paths race) (sound : Sound setting race) (steps : Steps setting race next) :
    Paths next := by
  cases steps with
  | does does frames => exact paths.does sound does frames
  | still still => exact paths.still sound still

theorem start (setting : Setting) (thread : Thread) (cancelled : Nat → Bool) (now : Int) :
    Paths (Race.start setting thread cancelled now : Race Value Failure) := by
  refine ⟨fun won => ?_, fun other member => ?_, fun other frame member path => ?_,
    fun other above below split => ?_⟩
  · cases won
  · cases start_frames member
  · rw [start_frames member] at path
    cases path
  · have member : .cancelLosers ∈ (Race.start setting thread cancelled now :
        Race Value Failure).frames other := by simp [split]
    cases start_frames member

end Paths

/-- The fields on which the way depends. -/
structure Kept (race next : Race Value Failure) : Prop where
  cancelled : ∀ source, source.onPath = true → race.cancelled source = false →
    next.cancelled source = false
  callbacks : ∀ source target, source.onPath = true → .cancel target ∈ race.callbacks source →
    .cancel target ∈ next.callbacks source

theorem erase_kept {source token : Source} {target : Source} {removed : Callback}
    (member : .cancel target ∈ race.callbacks source)
    (other : source = token → removed ≠ .cancel target) :
    .cancel target ∈ Function.update race.callbacks token ((race.callbacks token).erase removed)
      source := by
  by_cases here : source = token
  · rw [here, Function.update_self]
    exact (List.mem_erase_of_ne (other here).symm).mpr (here ▸ member)
  · rwa [Function.update_of_ne here]

theorem append_kept {source token : Source} {target : Source} {added : Callback}
    (member : .cancel target ∈ race.callbacks source) :
    .cancel target ∈ Function.update race.callbacks token (race.callbacks token ++ [added])
      source := by
  by_cases here : source = token
  · rw [here, Function.update_self]
    exact List.mem_append_left _ (here ▸ member)
  · rwa [Function.update_of_ne here]

theorem Still.kept (still : Still setting race next) : Kept race next := by
  cases still with
  | observe => exact ⟨fun _ _ fresh => fresh, fun _ _ _ member => append_kept member⟩
  | forget => exact ⟨fun _ _ fresh => fresh, fun _ _ _ member => erase_kept member (by simp)⟩
  | link => exact ⟨fun _ _ fresh => fresh, fun _ _ _ member => append_kept member⟩
  | sleepElsewhere | functorStale | expireStale | abandon | tick =>
      exact ⟨fun _ _ fresh => fresh, fun _ _ _ member => member⟩

/-- What is on the way changes by what is on the way, and by the `LinkedCancellation` of an
operation that has completed. -/
theorem Does.kept (does : Does setting race thread rest old new changed)
    (apart : ∀ frame ∈ old, frame.onPath = false) (tops : ∀ frame ∈ old, frame.isSettling = false) :
    Kept race changed := by
  have received : ∀ {failure : Option Failure} {received : List (Frame Value Failure)}
      {told : Race Value Failure}, Receives told failure rest received new changed →
      told.cancelled = race.cancelled → told.callbacks = race.callbacks → Kept race changed := by
    intro failure received told receives cancelled callbacks
    refine ⟨fun source _ fresh => ?_, fun source target _ member => ?_⟩
    · rw [receives.fields.1, cancelled]
      exact fresh
    · rw [receives.fields.2.1, callbacks]
      exact member
  cases does with
  | observerReturned receives => exact received receives rfl rfl
  | observerThrew failure receives => exact received receives rfl rfl
  | exchangeLate _ receives => exact received receives rfl rfl
  | notified receives => exact received receives rfl rfl
  | unlink | lose | win => cases tops _ (List.mem_singleton_self _)
  | @exchange exchanged fresh =>
      refine ⟨fun source path before => ?_, fun _ _ _ member => member⟩
      have other : source ≠ exchanged := by
        rintro rfl
        have off : source.onPath = false := apart (.exchanging source) (List.mem_singleton_self _)
        cases path.symm.trans off
      rw [← before]
      exact Function.update_of_ne other _ _
  | @swap swapped =>
      refine ⟨fun _ _ before => before, fun source target path member => ?_⟩
      have other : source ≠ swapped := by
        rintro rfl
        have off : source.onPath = false := apart (.swapping source) (List.mem_singleton_self _)
        cases path.symm.trans off
      simpa only [Function.update_of_ne other] using member
  | register => exact ⟨fun _ _ before => before, fun _ _ _ member => append_kept member⟩
  | resetSleep => exact ⟨fun _ _ before => before, fun _ _ _ member => erase_kept member (by simp)⟩
  | cancel | observe | resume | suspend | finish | parentReturned | launched | linkCancelled | await
  | sleepHere | resumeParent | parentGone | notifyLink | notifySleep | notifyObserver | armStale
  | armCancelled | arm | registerCancelled | resumeSleep | functorArm | functorComplete | expire =>
      exact ⟨fun _ _ before => before, fun _ _ _ member => member⟩

/-- How far on the way the top of the stack is. -/
inductive Heading (race : Race Value Failure) : Frame Value Failure → Prop where
  | exchangeLoser : race.cancelled (.loser .operation) = false →
      .cancel (.linked .operation) ∈ race.callbacks (.loser .operation) →
      race.cancelled (.linked .operation) = false →
      .cancel .prepared ∈ race.callbacks (.linked .operation) →
      Heading race (.exchanging (.loser .operation))
  | swapLoser : .cancel (.linked .operation) ∈ race.callbacks (.loser .operation) →
      race.cancelled (.linked .operation) = false →
      .cancel .prepared ∈ race.callbacks (.linked .operation) →
      Heading race (.swapping (.loser .operation))
  | notifyLoser {callbacks : List Callback} {failure : Option Failure} :
      .cancel (.linked .operation) ∈ callbacks → race.cancelled (.linked .operation) = false →
      .cancel .prepared ∈ race.callbacks (.linked .operation) →
      Heading race (.notifying (.loser .operation) callbacks failure)
  | exchangeLinked : race.cancelled (.linked .operation) = false →
      .cancel .prepared ∈ race.callbacks (.linked .operation) →
      Heading race (.exchanging (.linked .operation))
  | swapLinked : .cancel .prepared ∈ race.callbacks (.linked .operation) →
      Heading race (.swapping (.linked .operation))
  | notifyLinked {callbacks : List Callback} {failure : Option Failure} :
      .cancel .prepared ∈ callbacks →
      Heading race (.notifying (.linked .operation) callbacks failure)
  | exchangePrepared : Heading race (.exchanging .prepared)

namespace Heading

variable {top : Frame Value Failure} {stack : List (Frame Value Failure)}

theorem library (heading : Heading race top) : top.user = false := by
  cases heading <;> rfl

theorem kept (heading : Heading race top) (kept : Kept race next) : Heading next top := by
  have linked := fun fresh => kept.cancelled (.linked .operation) rfl fresh
  have prepared := fun member => kept.callbacks (.linked .operation) .prepared rfl member
  cases heading with
  | exchangeLoser fresh member next ready =>
      exact .exchangeLoser (kept.cancelled _ rfl fresh) (kept.callbacks _ _ rfl member) (linked next)
        (prepared ready)
  | swapLoser member next ready =>
      exact .swapLoser (kept.callbacks _ _ rfl member) (linked next) (prepared ready)
  | notifyLoser member next ready => exact .notifyLoser member (linked next) (prepared ready)
  | exchangeLinked next ready => exact .exchangeLinked (linked next) (prepared ready)
  | swapLinked ready => exact .swapLinked (prepared ready)
  | notifyLinked member => exact .notifyLinked member
  | exchangePrepared => exact .exchangePrepared

theorem loser_linked {target : Source}
    (registers : Registers setting (.loser .operation) (.cancel target)) :
    target = .linked .operation := by
  cases registers with
  | loser => rfl
  | token member => exact absurd (tokens_known member) (by simp)

theorem linked_prepared {target : Source}
    (registers : Registers setting (.linked .operation) (.cancel target)) : target = .prepared := by
  cases registers with
  | token => rfl

/-- The thread goes on on its way, until the token of the operation is cancelled. -/
theorem goesOn (heading : Heading race top) (does : Does setting race thread rest old new changed)
    (frames : old ++ rest = top :: stack) (sound : top.Sound setting race) :
    changed.cancelled .prepared = true ∨
      ∃ top stack, new ++ rest = top :: stack ∧ Heading changed top := by
  obtain ⟨received, rfl, _⟩ := does.busy frames heading.library
  have apart : (Source.linked .operation) ≠ .loser .operation := by simp
  cases heading with
  | exchangeLoser fresh member next ready =>
      cases does with
      | exchangeLate late => cases fresh.symm.trans late
      | exchange =>
          refine .inr ⟨_, _, rfl, .swapLoser member ?_ ready⟩
          simpa only [Function.update_of_ne apart] using next
  | swapLoser member next ready =>
      cases does with
      | swap =>
          refine .inr ⟨_, _, rfl, .notifyLoser member next ?_⟩
          simpa only [Function.update_of_ne apart] using ready
  | notifyLoser member next ready =>
      cases does with
      | notifyLink linked =>
          obtain rfl := loser_linked (sound.2 _ linked)
          exact .inr ⟨_, _, rfl, .exchangeLinked next ready⟩
      | notifySleep sleeps => cases sound.2 _ sleeps
      | notifyObserver observed => cases sound.2 _ observed
      | notified => cases member
  | exchangeLinked next ready =>
      cases does with
      | exchangeLate late => cases next.symm.trans late
      | exchange => exact .inr ⟨_, _, rfl, .swapLinked ready⟩
  | swapLinked ready =>
      cases does with
      | swap => exact .inr ⟨_, _, rfl, .notifyLinked ready⟩
  | notifyLinked member =>
      cases does with
      | notifyLink linked =>
          obtain rfl := linked_prepared (sound.2 _ linked)
          exact .inr ⟨_, _, rfl, .exchangePrepared⟩
      | notifySleep sleeps => cases sound.2 _ sleeps
      | notifyObserver observed => cases sound.2 _ observed
      | notified => cases member
  | exchangePrepared =>
      cases does with
      | exchangeLate late receives =>
          refine .inl ?_
          rw [receives.fields.1]
          exact late
      | exchange => exact .inl (by simp)

end Heading

/-- The link is still to be made, or is made. -/
def Linking (race : Race Value Failure) (token target : Source) : Prop :=
  .link target token ∈ race.launch ∨ .cancel target ∈ race.callbacks token

/-- Until the timeout wins the way is there, but for the end of an operation that has
completed. -/
structure Ready (race : Race Value Failure) : Prop where
  loser : race.winner ≠ some .timeout → Linking race (.loser .operation) (.linked .operation)
  linked : race.winner ≠ some .timeout → Linking race (.linked .operation) .prepared ∨
    ∃ outcome, .operation outcome ∈ race.completions

/-- A link that is on the way is made when its turn comes, and not undone. -/
theorem Does.linking {token target : Source} (linking : Linking race token target)
    (does : Does setting race thread rest old new changed) (fresh : race.cancelled token = false)
    (apart : ∀ frame ∈ old, frame.onPath = false) (path : token.onPath = true) :
    Linking changed token target ∨
      target = .prepared ∧ ∃ completion tokens, old = [.settling completion (token :: tokens)] := by
  have received : ∀ {failure : Option Failure} {received : List (Frame Value Failure)}
      {told : Race Value Failure}, Receives told failure rest received new changed →
      told.launch = race.launch → told.callbacks = race.callbacks → Linking changed token target := by
    intro failure received told receives launch callbacks
    rw [Linking, receives.fields.2.1, receives.fields.2.2.1, launch, callbacks]
    exact linking
  have later : ∀ {instruction : Instruction} {launch : List Instruction},
      race.launch = instruction :: launch → .link target token ≠ instruction →
      .link target token ∈ launch ∨ .cancel target ∈ race.callbacks token := by
    intro instruction launch instructions other
    rcases linking with waits | made
    · rw [instructions] at waits
      exact .inl (List.mem_of_ne_of_mem other waits)
    · exact .inr made
  cases does with
  | observerReturned receives => exact .inl (received receives rfl rfl)
  | observerThrew failure receives => exact .inl (received receives rfl rfl)
  | exchangeLate _ receives => exact .inl (received receives rfl rfl)
  | notified receives => exact .inl (received receives rfl rfl)
  | linkCancelled instructions cancelled =>
      refine .inl (later instructions fun same => ?_)
      cases same
      cases fresh.symm.trans cancelled
  | await instructions => exact .inl (later instructions (by simp))
  | sleepHere instructions => exact .inl (later instructions (by simp))
  | @unlink completion unlinked tokens =>
      by_cases here : target = .prepared ∧ token = unlinked
      · obtain ⟨rfl, rfl⟩ := here
        exact .inr ⟨rfl, completion, tokens, rfl⟩
      · refine .inl (linking.imp id fun made => erase_kept made fun same removed => ?_)
        cases removed
        exact here ⟨rfl, same⟩
  | @swap swapped =>
      have other : token ≠ swapped := by
        rintro rfl
        have off : token.onPath = false := apart (.swapping token) (List.mem_singleton_self _)
        cases path.symm.trans off
      refine .inl (linking.imp id fun made => ?_)
      simpa only [Function.update_of_ne other] using made
  | register => exact .inl (linking.imp id append_kept)
  | resetSleep => exact .inl (linking.imp id fun made => erase_kept made (by simp))
  | cancel | observe | resume | suspend | finish | parentReturned | launched | lose | win | resumeParent
  | parentGone | exchange | notifyLink | notifySleep | notifyObserver | armStale | armCancelled | arm
  | registerCancelled | resumeSleep | functorArm | functorComplete | expire => exact .inl linking

theorem Still.linking {token target : Source} (linking : Linking race token target)
    (still : Still setting race next) : Linking next token target := by
  cases still with
  | observe => exact linking.imp id append_kept
  | forget => exact linking.imp id fun made => erase_kept made (by simp)
  | @link linked known launch instructions =>
      rcases linking with waits | made
      · rw [instructions, List.mem_cons] at waits
        rcases waits with same | waits
        · cases same
          exact .inr (by simp [Race.register])
        · exact .inl waits
      · exact .inr (append_kept made)
  | sleepElsewhere instructions =>
      refine linking.imp (fun waits => ?_) id
      rw [instructions] at waits
      exact List.mem_of_ne_of_mem (by simp) waits
  | functorStale | expireStale | abandon | tick => exact linking

/-- The completions of the past stay in the record. -/
theorem Does.completions (does : Does setting race thread rest old new changed) :
    race.completions <+: changed.completions := by
  cases does.decides with
  | complete _ _ _ trace => exact completions_append trace ▸ List.prefix_append ..
  | unlink _ completions => rw [completions]
  | lose => exact List.prefix_refl _
  | win _ _ completions => rw [completions]
  | other _ completions => rw [completions]

namespace Ready

theorem still (ready : Ready race) (still : Still setting race next) : Ready next := by
  obtain ⟨winner, completions⟩ := still.decides
  refine ⟨fun undecided => ?_, fun undecided => ?_⟩
  · exact still.linking (ready.loser (winner ▸ undecided))
  · rw [completions]
    exact (ready.linked (winner ▸ undecided)).imp still.linking id

/-- The token that an operation takes back its link from is that of its own end. -/
theorem completed (decided : Decided race) (sound : Sound setting race)
    {completion : Completion Value Failure} {token : Source} {tokens : List Source}
    (member : .settling completion (token :: tokens) ∈ race.frames thread)
    (undecided : race.winner ≠ some .timeout) :
    ∃ outcome, .operation outcome ∈ race.completions := by
  have settling := sound.frames thread _ member
  cases winner : race.winner with
  | none =>
      have only := decided.settling thread completion _ member winner
      cases completion with
      | operation outcome => exact ⟨outcome, by simp [only]⟩
      | timeout error => cases settling.1
  | some branch =>
      obtain ⟨first, later, completions, same⟩ := decided.decided branch winner
      cases first with
      | operation outcome => exact ⟨outcome, by simp [completions]⟩
      | timeout error =>
          cases same
          exact absurd winner undecided

theorem does (ready : Ready race) (decided : Decided race) (sound : Sound setting race)
    (paths : Paths race) (does : Does setting race thread rest old new changed)
    (frames : race.frames thread = old ++ rest) : Ready (changed.put thread (new ++ rest)) := by
  have grows := does.grows sound
  have before : changed.winner ≠ some .timeout → race.winner ≠ some .timeout :=
    fun undecided won => undecided (grows.winner _ won)
  have apart : changed.winner ≠ some .timeout → ∀ frame ∈ old, frame.onPath = false := by
    intro undecided frame member
    by_contra path
    exact before undecided (paths.above thread frame (frames ▸ List.mem_append_left _ member)
      (by simpa using path)).1
  have fresh : changed.winner ≠ some .timeout → ∀ source : Source, source.onPath = true →
      race.cancelled source = false := by
    intro undecided source path
    by_contra cancelled
    exact before undecided (sound.onPath path (by simpa using cancelled))
  refine ⟨fun undecided => ?_, fun undecided => ?_⟩
  · have linking := ready.loser (before undecided)
    rcases does.linking linking (fresh undecided _ rfl) (apart undecided) rfl with kept | ⟨other, _⟩
    · exact kept
    · cases other
  · rcases ready.linked (before undecided) with linking | ⟨outcome, member⟩
    · rcases does.linking linking (fresh undecided _ rfl) (apart undecided) rfl with
        kept | ⟨_, completion, tokens, rfl⟩
      · exact .inl kept
      · have settles : .settling completion (.linked .operation :: tokens) ∈ race.frames thread := by
          simp [frames]
        obtain ⟨outcome, member⟩ := completed decided sound settles (before undecided)
        exact .inr ⟨outcome, does.completions.subset member⟩
    · exact .inr ⟨outcome, does.completions.subset member⟩

theorem step (ready : Ready race) (decided : Decided race) (sound : Sound setting race)
    (paths : Paths race) (steps : Steps setting race next) : Ready next := by
  cases steps with
  | does does frames => exact ready.does decided sound paths does frames
  | still still => exact ready.still still

theorem start (setting : Setting) (thread : Thread) (cancelled : Nat → Bool) (now : Int) :
    Ready (Race.start setting thread cancelled now : Race Value Failure) := by
  refine ⟨fun _ => .inl ?_, fun _ => .inl (.inl ?_)⟩
  · simp [Race.start, Setting.withTimeout, Setting.whenAnyAwaitable]
  · simp [Race.start, Setting.withTimeout, Setting.prepareTimedOperation, Setting.tokens]

/-- When the timeout is about to win the whole way is there. -/
theorem heading (ready : Ready race) (decided : Decided race) (sound : Sound setting race)
    {error : NetError} (member : .settling (.timeout error) [] ∈ race.frames thread)
    (undecided : race.winner = none) : Heading race (.exchanging (.loser .operation)) := by
  have settling := sound.frames thread _ member
  have launch : race.launch = [] := by
    refine sound.armed fun unarmed => ?_
    have settled := settling.2.1
    rw [unarmed] at settled
    cases settled
  have other : race.winner ≠ some .timeout := by simp [undecided]
  have fresh : ∀ source : Source, source.onPath = true → race.cancelled source = false := by
    intro source path
    by_contra cancelled
    exact other (sound.onPath path (by simpa using cancelled))
  have made : ∀ {token target : Source}, Linking race token target →
      .cancel target ∈ race.callbacks token := by
    intro token target linking
    rw [Linking, launch] at linking
    simpa using linking
  have linked : Linking race (.linked .operation) .prepared := by
    refine (ready.linked other).resolve_right fun completed => ?_
    obtain ⟨outcome, member'⟩ := completed
    rw [decided.settling thread _ _ member undecided] at member'
    simp at member'
  exact .exchangeLoser (fresh _ rfl) (made (ready.loser other)) (fresh _ rfl) (made linked)

end Ready

end MiniTrantor.Coroutine.Timeout
