import MiniTrantor.Coroutine.Timeout.Gate
import MiniTrantor.Trace

/-!
# Who cancels which token

What is registered with a token, and what was the cause when it is cancelled. The sleep is
cancelled because the operation has won or because the inherited token is cancelled.
-/

set_option autoImplicit false

namespace MiniTrantor.Coroutine.Timeout

variable {Value Failure : Type} {setting : Setting} {race next changed : Race Value Failure}
  {thread : Thread} {rest old new : List (Frame Value Failure)}

/-- The callbacks that may be registered with a token. -/
inductive Registers (setting : Setting) : Source → Callback → Prop where
  | user (id : Nat) : Registers setting (.user id) .observer
  | operation : Registers setting .prepared .observer
  | sleep : Registers setting (.linked .timeout) .sleep
  | loser (branch : Branch) : Registers setting (.loser branch) (.cancel (.linked branch))
  | inherited {id : Nat} : setting.inherited = some id →
      Registers setting (.user id) (.cancel (.linked .timeout))
  | token {token : Source} : token ∈ setting.tokens → Registers setting token (.cancel .prepared)

theorem linked_registers {target token : Source} (member : .link target token ∈ setting.withTimeout) :
    Registers setting token (.cancel target) := by
  simp only [Setting.withTimeout, Setting.whenAnyAwaitable, Setting.prepareTimedOperation,
    List.mem_append, List.mem_cons, List.not_mem_nil, or_false, List.mem_map, Option.mem_toList,
    Instruction.link.injEq, reduceCtorEq] at member
  rcases member with ((⟨rfl, rfl⟩ | ⟨id, inherited, rfl, rfl⟩) | ⟨rfl, rfl⟩) | ⟨known, tokens, rfl, rfl⟩
  · exact .loser .operation
  · exact .inherited inherited
  · exact .loser .timeout
  · exact .token tokens

/-- The sleep is awaited last. -/
theorem sleep_last {launch : List Instruction} (suffix : .sleep :: launch <:+ setting.withTimeout) :
    launch = [] := by
  obtain ⟨before, split⟩ := suffix
  rcases Trace.split_snoc split.symm with ⟨_, _, none⟩ | ⟨middle, _, front⟩
  · exact none
  · have member : .sleep ∈ setting.whenAnyAwaitable ++ setting.prepareTimedOperation := by
      rw [front]
      simp
    simp [Setting.whenAnyAwaitable, Setting.prepareTimedOperation] at member

def Inherits (setting : Setting) (race : Race Value Failure) : Prop :=
  ∃ id, setting.inherited = some id ∧ race.cancelled (.user id) = true

/-- Why a source is cancelled: a task has won, or a source that it is linked to is cancelled. -/
def Caused (setting : Setting) (race : Race Value Failure) : Source → Prop
  | .loser branch => race.winner = some branch.other
  | .linked .operation => race.cancelled (.loser .operation) = true
  | .linked .timeout => race.cancelled (.loser .timeout) = true ∨ Inherits setting race
  | _ => True

theorem Registers.caused {source target : Source}
    (registers : Registers setting source (.cancel target))
    (cancelled : race.cancelled source = true) : Caused setting race target := by
  cases registers with
  | loser branch =>
      cases branch with
      | operation => exact cancelled
      | timeout => exact .inl cancelled
  | inherited inherited => exact .inr ⟨_, inherited, cancelled⟩
  | token => exact trivial

def Phase.settled : Phase → Bool
  | .expired | .cancelled => true
  | _ => false

/-- What is not taken back. -/
structure Grows (race next : Race Value Failure) : Prop where
  cancelled : ∀ source, race.cancelled source = true → next.cancelled source = true
  winner : ∀ branch, race.winner = some branch → next.winner = some branch
  phase : race.phase.settled = true → next.phase = race.phase

namespace Grows

theorem same (cancelled : next.cancelled = race.cancelled) (winner : next.winner = race.winner)
    (phase : next.phase = race.phase) : Grows race next :=
  ⟨fun _ before => cancelled ▸ before, fun _ before => winner ▸ before, fun _ => phase⟩

theorem caused (grows : Grows race next) {source : Source} (caused : Caused setting race source) :
    Caused setting next source := by
  unfold Caused at caused ⊢
  cases source with
  | user id => exact trivial
  | loser branch => exact grows.winner _ caused
  | linked branch =>
      cases branch with
      | operation => exact grows.cancelled _ caused
      | timeout =>
          rcases caused with lost | ⟨id, inherited, cancelled⟩
          · exact .inl (grows.cancelled _ lost)
          · exact .inr ⟨id, inherited, grows.cancelled _ cancelled⟩
  | prepared => exact trivial

end Grows

/-- What a frame stands for. -/
def Frame.Sound (setting : Setting) (race : Race Value Failure) : Frame Value Failure → Prop
  | .exchanging source => Caused setting race source
  | .swapping source => race.cancelled source = true
  | .notifying source callbacks _ =>
      race.cancelled source = true ∧ ∀ callback ∈ callbacks, Registers setting source callback
  | .resetting | .resuming => race.phase.settled = true
  | .settling (.timeout error) tokens =>
      tokens = [] ∧ race.phase.settled = true ∧ error = race.timeoutResult
  | _ => True

theorem Frame.Sound.grows {frame : Frame Value Failure} (sound : frame.Sound setting race)
    (grows : Grows race next) : frame.Sound setting next := by
  cases frame with
  | exchanging source => exact grows.caused sound
  | swapping source => exact grows.cancelled _ sound
  | notifying source callbacks failure => exact ⟨grows.cancelled _ sound.1, sound.2⟩
  | resetting => exact (congrArg Phase.settled (grows.phase sound)).trans sound
  | resuming => exact (congrArg Phase.settled (grows.phase sound)).trans sound
  | settling completion tokens =>
      cases completion with
      | operation outcome => exact trivial
      | timeout error =>
          obtain ⟨none, settled, told⟩ := sound
          refine ⟨none, (congrArg Phase.settled (grows.phase settled)).trans settled, ?_⟩
          rw [told, Race.timeoutResult, Race.timeoutResult, grows.phase settled]
  | _ => exact trivial

structure Sound (setting : Setting) (race : Race Value Failure) : Prop where
  launch : race.launch <:+ setting.withTimeout
  armed : race.phase ≠ .unarmed → race.launch = []
  callbacks : ∀ source, ∀ callback ∈ race.callbacks source, Registers setting source callback
  frames : ∀ thread, ∀ frame ∈ race.frames thread, frame.Sound setting race
  cancelled : ∀ source, race.cancelled source = true → Caused setting race source
  queue : .complete ∈ race.queue → race.cancelled (.linked .timeout) = true
  phase : race.phase = .cancelled → race.cancelled (.linked .timeout) = true

namespace Sound

theorem unarmed {instruction : Instruction} {launch : List Instruction} (sound : Sound setting race)
    (instructions : race.launch = instruction :: launch) : race.phase = .unarmed := by
  by_contra armed
  rw [sound.armed armed] at instructions
  cases instructions

theorem linked {target token : Source} {launch : List Instruction} (sound : Sound setting race)
    (instructions : race.launch = .link target token :: launch) :
    Registers setting token (.cancel target) :=
  linked_registers (sound.launch.mem (by simp [instructions]))

end Sound

theorem Receives.fields {failure : Option Failure}
    (receives : Receives race failure rest old new changed) :
    changed.cancelled = race.cancelled ∧ changed.callbacks = race.callbacks ∧
      changed.launch = race.launch ∧ changed.phase = race.phase ∧ changed.queue = race.queue ∧
      changed.winner = race.winner := by
  cases receives <;> exact ⟨rfl, rfl, rfl, rfl, rfl, rfl⟩

theorem Receives.grows {failure : Option Failure}
    (receives : Receives race failure rest old new changed) : Grows race changed := by
  obtain ⟨cancelled, _, _, phase, _, winner⟩ := receives.fields
  exact .same cancelled winner phase

theorem exchange_cancelled {source known : Source} (cancelled : race.cancelled known = true) :
    Function.update race.cancelled source true known = true := by
  by_cases here : known = source
  · rw [here, Function.update_self]
  · rwa [Function.update_of_ne here]

theorem Does.grows (does : Does setting race thread rest old new changed)
    (sound : Sound setting race) : Grows race changed := by
  cases does with
  | observerReturned receives => exact receives.grows
  | observerThrew failure receives =>
      have grows := receives.grows
      exact ⟨grows.cancelled, grows.winner, grows.phase⟩
  | exchangeLate _ receives => exact receives.grows
  | notified receives => exact receives.grows
  | sleepHere instructions =>
      refine ⟨fun _ before => before, fun _ before => before, fun settled => ?_⟩
      rw [sound.unarmed instructions] at settled
      cases settled
  | win undecided =>
      refine ⟨fun _ before => before, fun _ before => ?_, fun _ => rfl⟩
      cases undecided.symm.trans before
  | exchange fresh => exact ⟨fun _ => exchange_cancelled, fun _ before => before, fun _ => rfl⟩
  | functorComplete _ _ pending | expire _ _ pending =>
      refine ⟨fun _ before => before, fun _ before => before, fun settled => ?_⟩
      rw [pending] at settled
      cases settled
  | cancel | observe | resume | suspend | finish | parentReturned | launched | linkCancelled | await
  | unlink | lose | resumeParent | parentGone | swap | notifyLink | notifySleep | notifyObserver
  | armStale | armCancelled | arm | registerCancelled | register | resetSleep | resumeSleep
  | functorArm => exact .same rfl rfl rfl

theorem Still.grows (still : Still setting race next) (sound : Sound setting race) :
    Grows race next := by
  cases still with
  | sleepElsewhere instructions =>
      refine ⟨fun _ before => before, fun _ before => before, fun settled => ?_⟩
      rw [sound.unarmed instructions] at settled
      cases settled
  | observe | forget | link | functorStale | expireStale | abandon | tick => exact .same rfl rfl rfl

theorem Steps.grows (steps : Steps setting race next) (sound : Sound setting race) :
    Grows race next := by
  cases steps with
  | does does =>
      have grows := does.grows sound
      exact ⟨grows.cancelled, grows.winner, grows.phase⟩
  | still still => exact still.grows sound

theorem Receives.sound {failure : Option Failure} {told : Race Value Failure}
    (receives : Receives race failure rest old new changed)
    (frames : ∀ frame ∈ old, frame.Sound setting told) (grows : Grows told changed) :
    ∀ frame ∈ new, frame.Sound setting changed := by
  cases receives with
  | loop source callbacks first =>
      intro frame member
      rw [List.mem_singleton.mp member]
      exact (frames _ (List.mem_singleton_self _)).grows grows
  | losers =>
      intro frame member
      rw [List.mem_singleton.mp member]
      exact trivial
  | other =>
      intro frame member
      cases member

/-- The frames that are put in place stand for what they should. -/
theorem Does.sound_new (does : Does setting race thread rest old new changed)
    (sound : Sound setting race) (frames : ∀ frame ∈ old, frame.Sound setting race) :
    ∀ frame ∈ new, frame.Sound setting changed := by
  have grows := does.grows sound
  have below : ∀ {top : Frame Value Failure} {stack : List (Frame Value Failure)}, old = top :: stack →
      ∀ frame ∈ stack, frame.Sound setting race :=
    fun same frame member => frames frame (same ▸ List.mem_cons_of_mem _ member)
  cases does with
  | observerReturned receives => exact receives.sound (below rfl) grows
  | observerThrew failure receives => exact receives.sound (below rfl) grows
  | exchangeLate _ receives => exact receives.sound (below rfl) grows
  | notified receives => exact receives.sound (below rfl) grows
  | linkCancelled instructions cancelled =>
      have caused := (sound.linked instructions).caused cancelled
      have target := grows.caused caused
      simpa [Frame.Sound] using target
  | @win completion =>
      have other : completion.branch.other.other = completion.branch := by
        cases completion.branch <;> rfl
      simp [Frame.Sound, Caused, other]
  | @exchange source fresh =>
      simp [Frame.Sound]
  | @swap source =>
      have cancelled := frames _ (List.mem_singleton_self _)
      intro frame member
      rw [List.mem_singleton.mp member]
      exact ⟨cancelled, sound.callbacks source⟩
  | @notifyLink source target callbacks failure member =>
      have notifying := frames _ (List.mem_singleton_self _)
      intro frame added
      simp only [List.mem_cons, List.not_mem_nil, or_false] at added
      rcases added with rfl | rfl
      · exact (notifying.2 _ member).caused notifying.1
      · exact ⟨notifying.1, fun callback left => notifying.2 callback (List.mem_of_mem_erase left)⟩
  | @notifySleep source callbacks failure member =>
      have notifying := frames _ (List.mem_singleton_self _)
      intro frame added
      rw [List.mem_singleton.mp added]
      exact ⟨notifying.1, fun callback left => notifying.2 callback (List.mem_of_mem_erase left)⟩
  | @notifyObserver source callbacks failure member =>
      have notifying := frames _ (List.mem_singleton_self _)
      intro frame added
      simp only [List.mem_cons, List.not_mem_nil, or_false] at added
      rcases added with rfl | rfl
      · exact trivial
      · exact ⟨notifying.1, fun callback left => notifying.2 callback (List.mem_of_mem_erase left)⟩
  | resetSleep =>
      have settled := frames _ (List.mem_singleton_self _)
      intro frame member
      rw [List.mem_singleton.mp member]
      exact settled
  | @unlink completion token tokens =>
      have settling := frames _ (List.mem_singleton_self _)
      intro frame member
      rw [List.mem_singleton.mp member]
      cases completion with
      | operation outcome => exact trivial
      | timeout error => cases settling.1
  | resumeSleep =>
      have settled := frames _ (List.mem_singleton_self _)
      intro frame member
      rw [List.mem_singleton.mp member]
      exact ⟨rfl, settled, rfl⟩
  | cancel | observe | resume | suspend | finish | parentReturned | launched | await | sleepHere
  | lose | resumeParent | parentGone | armStale | armCancelled | arm | registerCancelled
  | register | functorArm | functorComplete | expire => simp [Frame.Sound, Caused, Phase.settled,
      Race.emit]

/-- Callbacks are added where they may be. -/
theorem Does.callbacks (does : Does setting race thread rest old new changed) {source : Source}
    {callback : Callback} (member : callback ∈ changed.callbacks source) :
    callback ∈ race.callbacks source ∨ Registers setting source callback := by
  have erased : ∀ (token : Source) (removed : Callback), callback ∈
      Function.update race.callbacks token ((race.callbacks token).erase removed) source →
      callback ∈ race.callbacks source := by
    intro token removed member
    by_cases here : source = token
    · rw [here, Function.update_self] at member
      exact here ▸ List.mem_of_mem_erase member
    · rwa [Function.update_of_ne here] at member
  cases does with
  | observerReturned receives => exact .inl (receives.fields.2.1 ▸ member)
  | observerThrew failure receives => exact .inl (receives.fields.2.1 ▸ member)
  | exchangeLate _ receives => exact .inl (receives.fields.2.1 ▸ member)
  | notified receives => exact .inl (receives.fields.2.1 ▸ member)
  | unlink => exact .inl (erased _ _ member)
  | resetSleep => exact .inl (erased _ _ member)
  | @swap token =>
      by_cases here : source = token
      · simp only [here, Function.update_self, List.not_mem_nil] at member
      · simp only [Function.update_of_ne here] at member
        exact .inl member
  | register =>
      by_cases here : source = .linked .timeout
      · subst here
        simp only [Race.register, Function.update_self, List.mem_append, List.mem_singleton] at member
        rcases member with before | rfl
        · exact .inl before
        · exact .inr .sleep
      · simp only [Race.register, Function.update_of_ne here] at member
        exact .inl member
  | cancel | observe | resume | suspend | finish | parentReturned | launched | linkCancelled | await
  | sleepHere | lose | win | resumeParent | parentGone | exchange | notifyLink | notifySleep
  | notifyObserver | armStale | armCancelled | arm | registerCancelled | resumeSleep | functorArm
  | functorComplete | expire => exact .inl member

theorem Still.callbacks (still : Still setting race next) (sound : Sound setting race)
    {source : Source} {callback : Callback} (member : callback ∈ next.callbacks source) :
    callback ∈ race.callbacks source ∨ Registers setting source callback := by
  have added : ∀ (token : Source) (new : Callback), Registers setting token new → callback ∈
      Function.update race.callbacks token (race.callbacks token ++ [new]) source →
      callback ∈ race.callbacks source ∨ Registers setting source callback := by
    intro token new registers member
    by_cases here : source = token
    · subst here
      rw [Function.update_self, List.mem_append, List.mem_singleton] at member
      rcases member with before | rfl
      · exact .inl before
      · exact .inr registers
    · rw [Function.update_of_ne here] at member
      exact .inl member
  cases still with
  | @observe token visible =>
      refine added token .observer ?_ member
      cases token with
      | user id => exact .user id
      | prepared => exact .operation
      | loser | linked => cases visible
  | forget token =>
      by_cases here : source = token
      · simp only [Race.reset, here, Function.update_self] at member
        exact .inl (here ▸ List.mem_of_mem_erase member)
      · simp only [Race.reset, Function.update_of_ne here] at member
        exact .inl member
  | link instructions => exact added _ _ (sound.linked instructions) member
  | sleepElsewhere | functorStale | expireStale | abandon | tick => exact .inl member

namespace Sound

theorem notified {source : Source} {callbacks : List Callback} {failure : Option Failure}
    (notifying : (Frame.notifying source callbacks failure).Sound setting race)
    (member : .sleep ∈ callbacks) : race.cancelled (.linked .timeout) = true := by
  cases notifying.2 _ member
  exact notifying.1

/-- A completion that is queued has a token that is cancelled. -/
theorem queued (does : Does setting race thread rest old new changed) (sound : Sound setting race)
    (frames : ∀ frame ∈ old, frame.Sound setting race) (member : .complete ∈ changed.queue) :
    race.cancelled (.linked .timeout) = true := by
  cases does with
  | observerReturned receives => exact sound.queue (receives.fields.2.2.2.2.1 ▸ member)
  | observerThrew failure receives => exact sound.queue (receives.fields.2.2.2.2.1 ▸ member)
  | exchangeLate _ receives => exact sound.queue (receives.fields.2.2.2.2.1 ▸ member)
  | notified receives => exact sound.queue (receives.fields.2.2.2.2.1 ▸ member)
  | notifySleep sleeps => exact notified (frames _ (List.mem_singleton_self _)) sleeps
  | armCancelled cancelled => exact cancelled
  | registerCancelled cancelled => exact cancelled
  | functorArm _ queued => exact sound.queue (queued ▸ List.mem_cons_of_mem _ member)
  | functorComplete _ queued => exact sound.queue (queued ▸ List.mem_cons_self)
  | cancel | observe | resume | suspend | finish | parentReturned | launched | linkCancelled | await
  | sleepHere | unlink | lose | win | resumeParent | parentGone | exchange | swap | notifyLink
  | notifyObserver | armStale | arm | register | resetSleep | resumeSleep | expire =>
      exact sound.queue member

theorem slept (does : Does setting race thread rest old new changed) (sound : Sound setting race)
    (cancelled : changed.phase = .cancelled) : race.cancelled (.linked .timeout) = true := by
  cases does with
  | observerReturned receives => exact sound.phase (receives.fields.2.2.2.1 ▸ cancelled)
  | observerThrew failure receives => exact sound.phase (receives.fields.2.2.2.1 ▸ cancelled)
  | exchangeLate _ receives => exact sound.phase (receives.fields.2.2.2.1 ▸ cancelled)
  | notified receives => exact sound.phase (receives.fields.2.2.2.1 ▸ cancelled)
  | sleepHere => cases cancelled
  | functorComplete _ queued => exact sound.queue (queued ▸ List.mem_cons_self)
  | expire => cases cancelled
  | cancel | observe | resume | suspend | finish | parentReturned | launched | linkCancelled | await
  | unlink | lose | win | resumeParent | parentGone | exchange | swap | notifyLink | notifySleep
  | notifyObserver | armStale | armCancelled | arm | registerCancelled | register | resetSleep
  | resumeSleep | functorArm => exact sound.phase cancelled

theorem launch_does (does : Does setting race thread rest old new changed)
    (sound : Sound setting race) :
    changed.launch <:+ setting.withTimeout ∧ (changed.phase ≠ .unarmed → changed.launch = []) := by
  have shorter : ∀ {instruction : Instruction} {launch : List Instruction},
      race.launch = instruction :: launch → launch <:+ setting.withTimeout := fun instructions =>
    (List.suffix_cons _ _).trans (instructions ▸ sound.launch)
  have same : changed.launch = race.launch → changed.phase = race.phase →
      changed.launch <:+ setting.withTimeout ∧ (changed.phase ≠ .unarmed → changed.launch = []) := by
    intro launch phase
    rw [launch, phase]
    exact ⟨sound.launch, sound.armed⟩
  cases does with
  | observerReturned receives => exact same receives.fields.2.2.1 receives.fields.2.2.2.1
  | observerThrew failure receives => exact same receives.fields.2.2.1 receives.fields.2.2.2.1
  | exchangeLate _ receives => exact same receives.fields.2.2.1 receives.fields.2.2.2.1
  | notified receives => exact same receives.fields.2.2.1 receives.fields.2.2.2.1
  | linkCancelled instructions =>
      exact ⟨shorter instructions, fun armed => absurd (sound.unarmed instructions) armed⟩
  | await instructions =>
      exact ⟨shorter instructions, fun armed => absurd (sound.unarmed instructions) armed⟩
  | sleepHere instructions =>
      exact ⟨shorter instructions, fun _ => sleep_last (instructions ▸ sound.launch)⟩
  | functorComplete _ _ pending | expire _ _ pending =>
      exact ⟨sound.launch, fun _ => sound.armed (by simp [pending])⟩
  | cancel | observe | resume | suspend | finish | parentReturned | launched
  | unlink | lose | win | resumeParent | parentGone | exchange | swap | notifyLink | notifySleep
  | notifyObserver | armStale | armCancelled | arm | registerCancelled | register | resetSleep
  | resumeSleep | functorArm => exact ⟨sound.launch, sound.armed⟩

theorem cancelled_does (does : Does setting race thread rest old new changed)
    (sound : Sound setting race) (frames : ∀ frame ∈ old, frame.Sound setting race) {source : Source}
    (cancelled : changed.cancelled source = true) : Caused setting changed source := by
  have grows := does.grows sound
  have before : race.cancelled source = true → Caused setting changed source :=
    fun before => grows.caused (sound.cancelled source before)
  cases does with
  | observerReturned receives => exact before (receives.fields.1 ▸ cancelled)
  | observerThrew failure receives => exact before (receives.fields.1 ▸ cancelled)
  | exchangeLate _ receives => exact before (receives.fields.1 ▸ cancelled)
  | notified receives => exact before (receives.fields.1 ▸ cancelled)
  | @exchange exchanged fresh =>
      by_cases here : source = exchanged
      · subst here
        exact grows.caused (frames _ (List.mem_singleton_self _))
      · simp only [Function.update_of_ne here] at cancelled
        exact before cancelled
  | cancel | observe | resume | suspend | finish | parentReturned | launched | linkCancelled | await
  | sleepHere | unlink | lose | win | resumeParent | parentGone | swap | notifyLink | notifySleep
  | notifyObserver | armStale | armCancelled | arm | registerCancelled | register | resetSleep
  | resumeSleep | functorArm | functorComplete | expire => exact before cancelled

theorem does (sound : Sound setting race) (does : Does setting race thread rest old new changed)
    (frames : race.frames thread = old ++ rest) :
    Sound setting (changed.put thread (new ++ rest)) := by
  have grows : Grows race (changed.put thread (new ++ rest)) := by
    have grows := does.grows sound
    exact ⟨grows.cancelled, grows.winner, grows.phase⟩
  have tops : ∀ frame ∈ old, frame.Sound setting race :=
    fun frame member => sound.frames thread frame (frames ▸ List.mem_append_left _ member)
  obtain ⟨launch, armed⟩ := sound.launch_does does
  refine ⟨launch, armed, fun source callback member => ?_, fun other frame member => ?_,
    fun source cancelled => sound.cancelled_does does tops cancelled,
    fun member => grows.cancelled _ (sound.queued does tops member),
    fun cancelled => grows.cancelled _ (sound.slept does cancelled)⟩
  · exact (does.callbacks member).elim (sound.callbacks source callback) id
  · by_cases here : other = thread
    · rw [put_frames, here, Function.update_self, List.mem_append] at member
      rcases member with added | below
      · exact does.sound_new sound tops frame added
      · exact (sound.frames thread frame (frames ▸ List.mem_append_right _ below)).grows grows
    · rw [put_frames, Function.update_of_ne here, does.same.1] at member
      exact (sound.frames other frame member).grows grows

theorem still (sound : Sound setting race) (still : Still setting race next) :
    Sound setting next := by
  have grows := still.grows sound
  have frames : ∀ thread, ∀ frame ∈ next.frames thread, frame.Sound setting next := by
    intro thread frame member
    rw [still.same.1] at member
    exact (sound.frames thread frame member).grows grows
  have callbacks : ∀ source, ∀ callback ∈ next.callbacks source, Registers setting source callback :=
    fun source callback member => (still.callbacks sound member).elim (sound.callbacks _ _) id
  have shorter : ∀ {instruction : Instruction} {launch : List Instruction},
      race.launch = instruction :: launch → launch <:+ setting.withTimeout := fun instructions =>
    (List.suffix_cons _ _).trans (instructions ▸ sound.launch)
  cases still with
  | observe | forget | expireStale | abandon | tick =>
      exact ⟨sound.launch, sound.armed, callbacks, frames, sound.cancelled, sound.queue, sound.phase⟩
  | link instructions =>
      exact ⟨shorter instructions, fun armed => absurd (sound.unarmed instructions) armed, callbacks,
        frames, sound.cancelled, sound.queue, sound.phase⟩
  | sleepElsewhere instructions =>
      refine ⟨shorter instructions, fun _ => sleep_last (instructions ▸ sound.launch), callbacks,
        frames, sound.cancelled, fun member => sound.queue ?_, fun cancelled => ?_⟩
      · simpa using member
      · cases cancelled
  | functorStale queued =>
      exact ⟨sound.launch, sound.armed, callbacks, frames, sound.cancelled,
        fun member => sound.queue (queued ▸ List.mem_cons_of_mem _ member), sound.phase⟩

theorem step (sound : Sound setting race) (steps : Steps setting race next) : Sound setting next := by
  cases steps with
  | does does frames => exact sound.does does frames
  | still still => exact sound.still still

theorem start (setting : Setting) (thread : Thread) (cancelled : Nat → Bool) (now : Int) :
    Sound setting (Race.start setting thread cancelled now : Race Value Failure) := by
  refine ⟨List.suffix_refl _, fun armed => absurd rfl armed, fun source callback member => ?_,
    fun other frame member => ?_, fun source set => ?_, fun member => ?_, fun set => ?_⟩
  · cases member
  · rw [start_frames member]
    exact trivial
  · cases source with
    | user id => exact trivial
    | _ => cases set
  · cases member
  · cases set

end Sound

end MiniTrantor.Coroutine.Timeout
