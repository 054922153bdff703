import MiniTrantor.Coroutine.Timeout.Tokens

/-!
# Cancelling the loser

What the winner's thread is in the middle of while `cancelLosers` waits: a call of
`cancel()` that calls others, through the tokens that are linked. Callbacks of the user are
among them only if the timeout has won, since no other token than that of the operation is
known to the user.
-/

set_option autoImplicit false

namespace MiniTrantor.Coroutine.Timeout

variable {Value Failure : Type} {setting : Setting} {race next changed : Race Value Failure}
  {thread : Thread} {rest old new : List (Frame Value Failure)} {winner : Branch}

/-- The sources that the winner's cancellation gets to. -/
def Inside : Branch → Source → Prop
  | .operation, source => source = .loser .timeout ∨ source = .linked .timeout
  | .timeout, source =>
      source = .loser .operation ∨ source = .linked .operation ∨ source = .prepared

theorem tokens_known {token : Source} (member : token ∈ setting.tokens) :
    (∃ id, token = .user id) ∨ token = .linked .operation := by
  simp only [Setting.tokens, List.mem_append, List.mem_map, Option.mem_toList, List.mem_singleton]
    at member
  rcases member with (⟨id, _, rfl⟩ | ⟨id, _, rfl⟩) | rfl
  · exact .inl ⟨id, rfl⟩
  · exact .inl ⟨id, rfl⟩
  · exact .inr rfl

theorem Inside.cancel {source target : Source} (inside : Inside winner source)
    (registers : Registers setting source (.cancel target)) : Inside winner target := by
  cases winner with
  | operation =>
      rcases inside with rfl | rfl
      · cases registers with
        | loser => exact .inr rfl
        | token member => exact absurd (tokens_known member) (by simp)
      · cases registers with
        | token member => exact absurd (tokens_known member) (by simp)
  | timeout =>
      rcases inside with rfl | rfl | rfl
      · cases registers with
        | loser => exact .inr (.inl rfl)
        | token => exact .inr (.inr rfl)
      · cases registers with
        | token => exact .inr (.inr rfl)
      · cases registers with
        | token => exact .inr (.inr rfl)

theorem Inside.observer {source : Source} (inside : Inside winner source)
    (registers : Registers setting source .observer) : winner = .timeout ∧ source = .prepared := by
  cases registers with
  | user id => cases winner <;> simp [Inside] at inside
  | operation =>
      cases winner with
      | operation => simp [Inside] at inside
      | timeout => exact ⟨rfl, rfl⟩

/-- The loop of one such call of `cancel()`. -/
structure Loops (setting : Setting) (winner : Branch) (thrown : Failure → Prop) (source : Source)
    (callbacks : List Callback) (failure : Option Failure) : Prop where
  inside : Inside winner source
  registered : ∀ callback ∈ callbacks, Registers setting source callback
  thrown : ∀ first ∈ failure, thrown first

theorem Loops.erase {thrown : Failure → Prop} {source : Source} {callbacks : List Callback}
    {failure : Option Failure} (loops : Loops setting winner thrown source callbacks failure)
    (callback : Callback) : Loops setting winner thrown source (callbacks.erase callback) failure :=
  ⟨loops.inside, fun _ member => loops.registered _ (List.mem_of_mem_erase member), loops.thrown⟩

theorem Loops.mono {thrown more : Failure → Prop} {source : Source} {callbacks : List Callback}
    {failure : Option Failure} (loops : Loops setting winner thrown source callbacks failure)
    (grows : ∀ failure, thrown failure → more failure) :
    Loops setting winner more source callbacks failure :=
  ⟨loops.inside, loops.registered, fun first member => grows first (loops.thrown first member)⟩

theorem Loops.or {thrown : Failure → Prop} {source : Source} {callbacks : List Callback}
    {failure later : Option Failure} (loops : Loops setting winner thrown source callbacks failure)
    (told : ∀ first ∈ later, thrown first) :
    Loops setting winner thrown source callbacks (failure.or later) := by
  refine ⟨loops.inside, loops.registered, fun first member => ?_⟩
  cases failure with
  | none => exact told first (by simpa using member)
  | some earlier => exact loops.thrown first (by simpa using member)

/-- The frames of a call of `cancel()`, over whatever made the call. What a callback of the
user does is not known. -/
inductive Calls (setting : Setting) (winner : Branch) (thrown : Failure → Prop) :
    List (Frame Value Failure) → Prop where
  | exchanging {source : Source} : Inside winner source →
      Calls setting winner thrown [.exchanging source]
  | swapping {source : Source} : Inside winner source → Calls setting winner thrown [.swapping source]
  | notifying {source : Source} {callbacks : List Callback} {failure : Option Failure} :
      Loops setting winner thrown source callbacks failure →
      Calls setting winner thrown [.notifying source callbacks failure]
  | nested {inner : List (Frame Value Failure)} {source : Source} {callbacks : List Callback}
      {failure : Option Failure} : Calls setting winner thrown inner →
      Loops setting winner thrown source callbacks failure →
      Calls setting winner thrown (inner ++ [.notifying source callbacks failure])
  | observer {callbacks : List Callback} {failure : Option Failure}
      (inner : List (Frame Value Failure)) : winner = .timeout →
      Loops setting winner thrown .prepared callbacks failure →
      Calls setting winner thrown
        (inner ++ [.observer .prepared, .notifying .prepared callbacks failure])

/-- Code of the library that is on the top goes on itself. -/
theorem Does.busy {top : Frame Value Failure} {stack : List (Frame Value Failure)}
    (does : Does setting race thread rest old new changed) (frames : old ++ rest = top :: stack)
    (library : top.user = false) : ∃ received, old = top :: received ∧ stack = received ++ rest := by
  have idle : old = [] → (∀ frame ∈ rest.head?, frame.user = true) → False := by
    intro empty user
    rw [empty, List.nil_append] at frames
    have runs := user top (by rw [frames]; rfl)
    rw [library] at runs
    cases runs
  have given : ∀ {frame : Frame Value Failure} {received : List (Frame Value Failure)},
      old = frame :: received → ∃ received, old = top :: received ∧ stack = received ++ rest := by
    intro frame received same
    rw [same, List.cons_append, List.cons.injEq] at frames
    exact ⟨received, by rw [same, frames.1], frames.2.symm⟩
  cases does with
  | cancel id user => exact (idle rfl user).elim
  | observe user => exact (idle rfl user).elim
  | resume user => exact (idle rfl user).elim
  | functorArm empty | functorComplete empty | expire empty =>
      rw [empty] at frames
      cases frames
  | _ => exact given rfl

/-- A step takes at most two frames off, and two only if the second has called the first. -/
theorem Does.short (does : Does setting race thread rest old new changed) :
    old = [] ∨ ∃ top, old = [top] ∨ ∃ below, old = [top, below] ∧ below.catches = true := by
  have received : ∀ {top : Frame Value Failure} {failure : Option Failure}
      {received : List (Frame Value Failure)} {told : Race Value Failure},
      Receives told failure rest received new changed → top :: received = [] ∨ ∃ first,
        top :: received = [first] ∨ ∃ below, top :: received = [first, below] ∧
          below.catches = true := by
    intro top failure received told receives
    cases receives with
    | loop => exact .inr ⟨top, .inr ⟨_, rfl, rfl⟩⟩
    | losers => exact .inr ⟨top, .inr ⟨_, rfl, rfl⟩⟩
    | other => exact .inr ⟨top, .inl rfl⟩
  cases does with
  | cancel | observe | resume | functorArm | functorComplete | expire => exact .inl rfl
  | observerReturned receives => exact received receives
  | observerThrew failure receives => exact received receives
  | exchangeLate _ receives => exact received receives
  | notified receives => exact received receives
  | _ => exact .inr ⟨_, .inl rfl⟩

/-- What happens over a callback of the user stays over it, until it is over. -/
theorem Does.over_observer {source : Source} {inner stack : List (Frame Value Failure)}
    (does : Does setting race thread rest old new changed)
    (frames : old ++ rest = inner ++ .observer source :: stack) :
    (∃ inner, new ++ rest = inner ++ .observer source :: stack) ∨
      ∃ received, old = .observer source :: received ∧ stack = received ++ rest := by
  rcases does.short with rfl | ⟨top, rfl | ⟨below, rfl, catches⟩⟩
  · refine .inl ⟨new ++ inner, ?_⟩
    rw [List.append_assoc, ← frames, List.nil_append]
  · cases inner with
    | nil =>
        cases frames
        exact .inr ⟨[], rfl, rfl⟩
    | cons first inner =>
        cases frames
        exact .inl ⟨new ++ inner, by simp⟩
  · cases inner with
    | nil =>
        cases frames
        exact .inr ⟨[below], rfl, rfl⟩
    | cons first inner =>
        cases inner with
        | nil =>
            cases frames
            cases catches
        | cons second inner =>
            cases frames
            exact .inl ⟨new ++ inner, by simp⟩

theorem Receives.to_loop {failure first : Option Failure}
    {received stack : List (Frame Value Failure)}
    {source : Source} {callbacks : List Callback}
    (receives : Receives race failure rest received new changed)
    (frames : .notifying source callbacks first :: stack = received ++ rest) :
    new ++ rest = .notifying source callbacks (first.or failure) :: stack := by
  cases receives with
  | loop =>
      cases frames
      rfl
  | losers => cases frames
  | other none =>
      rw [List.nil_append] at frames
      have catches := none _ (by rw [← frames]; rfl)
      cases catches

theorem Receives.to_losers {failure : Option Failure} {received stack : List (Frame Value Failure)}
    (receives : Receives race failure rest received new changed)
    (frames : .cancelLosers :: stack = received ++ rest) :
    new ++ rest = .resumeParent :: stack ∧
      changed = { race with winnerException := race.winnerException.or failure } := by
  cases receives with
  | loop => cases frames
  | losers =>
      cases frames
      exact ⟨rfl, rfl⟩
  | other none =>
      rw [List.nil_append] at frames
      have catches := none _ (by rw [← frames]; rfl)
      cases catches

/-- A call goes on, or it is over and its exception goes to the frame below. -/
theorem Calls.step {thrown more : Failure → Prop} {list tail : List (Frame Value Failure)}
    (calls : Calls setting winner thrown list)
    (does : Does setting race thread rest old new changed)
    (callbacks : ∀ source, ∀ callback ∈ race.callbacks source, Registers setting source callback)
    (grows : ∀ failure, thrown failure → more failure)
    (told : winner = .timeout → ∀ failure,
      changed.trace = race.trace ++ [.threw .prepared failure] → more failure)
    (frames : old ++ rest = list ++ tail) :
    (∃ list, new ++ rest = list ++ tail ∧ Calls setting winner more list) ∨
      ∃ top failure received, list = [top] ∧ old = top :: received ∧ tail = received ++ rest ∧
        (∀ first ∈ failure, more first) ∧ Receives race failure rest received new changed := by
  induction calls generalizing tail with
  | @exchanging source inside =>
      obtain ⟨received, rfl, below⟩ := does.busy frames rfl
      cases does with
      | exchangeLate _ receives =>
          exact .inr ⟨_, none, received, rfl, rfl, below, by simp, receives⟩
      | exchange =>
          obtain rfl : tail = rest := below
          exact .inl ⟨_, rfl, .swapping inside⟩
  | @swapping source inside =>
      obtain ⟨received, rfl, below⟩ := does.busy frames rfl
      cases does with
      | swap =>
          obtain rfl : tail = rest := below
          exact .inl ⟨_, rfl, .notifying ⟨inside, callbacks source, by simp⟩⟩
  | @notifying source list failure loops =>
      obtain ⟨received, rfl, below⟩ := does.busy frames rfl
      have loops := loops.mono grows
      cases does with
      | notifyLink member =>
          have inner := loops.inside.cancel (loops.registered _ member)
          obtain rfl : tail = rest := below
          exact .inl ⟨_, rfl, .nested (.exchanging inner) (loops.erase _)⟩
      | notifySleep =>
          obtain rfl : tail = rest := below
          exact .inl ⟨_, rfl, .notifying (loops.erase _)⟩
      | notifyObserver member =>
          obtain ⟨timeout, rfl⟩ := loops.inside.observer (loops.registered _ member)
          obtain rfl : tail = rest := below
          exact .inl ⟨_, rfl, .observer [] timeout (loops.erase .observer)⟩
      | notified receives =>
          exact .inr ⟨_, failure, received, rfl, rfl, below, loops.thrown, receives⟩
  | @nested inner source list failure _ loops ih =>
      rw [List.append_assoc] at frames
      rcases ih frames with
        ⟨inner, same, calls⟩ | ⟨top, passed, received, _, _, below, thrown, receives⟩
      · refine .inl ⟨_, ?_, .nested calls (loops.mono grows)⟩
        rw [same, List.append_assoc]
      · refine .inl ⟨_, receives.to_loop below, .notifying ((loops.mono grows).or thrown)⟩
  | @observer list failure inner timeout loops =>
      rw [List.append_assoc] at frames
      have loops := loops.mono grows
      rcases does.over_observer frames with ⟨inner, same⟩ | ⟨received, rfl, below⟩
      · refine .inl ⟨_, ?_, .observer inner timeout loops⟩
        rw [same, List.append_assoc]
        rfl
      · cases does with
        | observerReturned receives =>
            exact .inl ⟨_, receives.to_loop below, .notifying (loops.or (by simp))⟩
        | observerThrew thrown receives =>
            have trace := receives.decides.2.1
            refine .inl ⟨_, receives.to_loop below, .notifying (loops.or fun first same => ?_)⟩
            cases Option.some.inj same
            exact told timeout thrown trace

end MiniTrantor.Coroutine.Timeout
