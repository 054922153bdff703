import MiniTrantor.Trace

/-!
# A mailbox that closes

Producers hand items to one consumer. A guarded producer takes a lock first,
learns whether the mailbox is still open, and keeps the lock until its item is
in; others put their item in without asking. The consumer takes items in order
and closes the mailbox when it finds it empty and the lock free.
-/

set_option autoImplicit false

namespace MiniTrantor.Mailbox

/-- How far a producer is with an item. -/
inductive Stage (Item : Type) where
  | away
  | asking (item : Item)
  | posting (item : Item) (guarded : Bool)
  | posted (item : Item) (guarded : Bool)
  | released (item : Item)

inductive Event (Item : Type) where
  | asked (item : Item) (guarded : Bool)
  | pushed (item : Item) (guarded : Bool)
  | taken (item : Item)
  | answered (item : Item) (accepted : Bool)
  | closed
  | left

structure State (Producer Item : Type) where
  stage : Producer → Stage Item := fun _ => .away
  holder : Option Producer := none
  isOpen : Bool := true
  items : List Item := []
  history : List (Event Item) := []

variable {Producer Item : Type}

namespace Stage

/-- The item that is not in the mailbox yet. -/
def waiting : Stage Item → Option Item
  | .asking item | .posting item _ => some item
  | .away | .posted .. | .released _ => none

/-- The item that its producer knows to be in the mailbox. -/
def accepted : Stage Item → Option Item
  | .posted item true | .released item => some item
  | .away | .asking _ | .posting .. | .posted _ false => none

def holding : Stage Item → Bool
  | .posting _ true | .posted _ true => true
  | .away | .asking _ | .posting _ false | .posted _ false | .released _ => false

end Stage

namespace Event

def pushed? : Event Item → Option Item
  | .pushed item _ => some item
  | _ => none

def taken? : Event Item → Option Item
  | .taken item => some item
  | _ => none

end Event

def pushedItems (history : List (Event Item)) : List Item := history.filterMap Event.pushed?

def takenItems (history : List (Event Item)) : List Item := history.filterMap Event.taken?

@[simp] theorem pushedItems_snoc (history : List (Event Item)) (event : Event Item) :
    pushedItems (history ++ [event]) = pushedItems history ++ event.pushed?.toList := by
  cases event <;> simp [pushedItems, Event.pushed?]

@[simp] theorem takenItems_snoc (history : List (Event Item)) (event : Event Item) :
    takenItems (history ++ [event]) = takenItems history ++ event.taken?.toList := by
  cases event <;> simp [takenItems, Event.taken?]

theorem mem_pushedItems {history : List (Event Item)} {item : Item} :
    item ∈ pushedItems history ↔ ∃ guarded, .pushed item guarded ∈ history := by
  rw [pushedItems, List.mem_filterMap]
  constructor
  · intro found
    obtain ⟨event, member, same⟩ := found
    cases event <;> cases same
    exact ⟨_, member⟩
  · intro found
    obtain ⟨guarded, member⟩ := found
    exact ⟨_, member, rfl⟩

theorem mem_takenItems {history : List (Event Item)} {item : Item} :
    item ∈ takenItems history ↔ .taken item ∈ history := by
  rw [takenItems, List.mem_filterMap]
  constructor
  · intro found
    obtain ⟨event, member, same⟩ := found
    cases event <;> cases same
    exact member
  · intro member
    exact ⟨_, member, rfl⟩

variable [DecidableEq Producer]

/-- One producer changes its stage. -/
def State.enter (producer : Producer) (stage : Stage Item) (mailbox : State Producer Item) :
    State Producer Item :=
  { mailbox with stage := Function.update mailbox.stage producer stage }

inductive Move (mailbox : State Producer Item) : State Producer Item → Prop where
  | ask {producer : Producer} {item : Item} : mailbox.stage producer = .away →
      (∀ guarded, .asked item guarded ∉ mailbox.history) →
      Move mailbox { mailbox.enter producer (.asking item) with
        history := mailbox.history ++ [.asked item true] }
  | barge {producer : Producer} {item : Item} : mailbox.stage producer = .away →
      (∀ guarded, .asked item guarded ∉ mailbox.history) →
      Move mailbox { mailbox.enter producer (.posting item false) with
        history := mailbox.history ++ [.asked item false] }
  | acquire {producer : Producer} {item : Item} : mailbox.stage producer = .asking item →
      mailbox.holder = none → mailbox.isOpen = true →
      Move mailbox { mailbox.enter producer (.posting item true) with holder := some producer }
  | refuse {producer : Producer} {item : Item} : mailbox.stage producer = .asking item →
      mailbox.isOpen = false →
      Move mailbox { mailbox.enter producer .away with
        history := mailbox.history ++ [.answered item false] }
  | push {producer : Producer} {item : Item} {guarded : Bool} :
      mailbox.stage producer = .posting item guarded →
      Move mailbox { mailbox.enter producer (.posted item guarded) with
        items := mailbox.items ++ [item]
        history := mailbox.history ++ [.pushed item guarded] }
  | release {producer : Producer} {item : Item} : mailbox.stage producer = .posted item true →
      Move mailbox { mailbox.enter producer (.released item) with holder := none }
  | depart {producer : Producer} {item : Item} : mailbox.stage producer = .posted item false →
      Move mailbox (mailbox.enter producer .away)
  | answer {producer : Producer} {item : Item} : mailbox.stage producer = .released item →
      Move mailbox { mailbox.enter producer .away with
        history := mailbox.history ++ [.answered item true] }
  | take {item : Item} {rest : List Item} : mailbox.items = item :: rest →
      Move mailbox { mailbox with items := rest, history := mailbox.history ++ [.taken item] }
  | close : mailbox.holder = none → mailbox.items = [] →
      Move mailbox { mailbox with isOpen := false, history := mailbox.history ++ [.closed] }
  | leave : .closed ∈ mailbox.history →
      Move mailbox { mailbox with history := mailbox.history ++ [.left] }

/-- Who has which item, and what the history says of it. -/
structure Sound (mailbox : State Producer Item) : Prop where
  order : pushedItems mailbox.history = takenItems mailbox.history ++ mailbox.items
  distinct : (pushedItems mailbox.history).Nodup
  asked : ∀ item ∈ pushedItems mailbox.history, ∃ guarded, .asked item guarded ∈ mailbox.history
  waiting : ∀ producer item, (mailbox.stage producer).waiting = some item →
    (∃ guarded, .asked item guarded ∈ mailbox.history) ∧ item ∉ pushedItems mailbox.history ∧
      .answered item false ∉ mailbox.history
  alone : ∀ first second item, (mailbox.stage first).waiting = some item →
    (mailbox.stage second).waiting = some item → first = second
  locked : ∀ producer, (mailbox.stage producer).holding = true →
    mailbox.holder = some producer ∧ mailbox.isOpen = true
  shut : .closed ∈ mailbox.history → mailbox.isOpen = false
  drained : ∀ before after item, mailbox.history = before ++ .closed :: after →
    .pushed item true ∈ mailbox.history → .taken item ∈ before
  accepted : ∀ item, (∃ producer, (mailbox.stage producer).accepted = some item) ∨
    .answered item true ∈ mailbox.history → .pushed item true ∈ mailbox.history
  fresh : ∀ before after item guarded, mailbox.history = before ++ .asked item guarded :: after →
    .taken item ∉ before
  guarded : ∀ item, .pushed item false ∈ mailbox.history ∨
    (∃ producer, mailbox.stage producer = .posting item false) → .asked item true ∉ mailbox.history
  refused : ∀ item, .answered item false ∈ mailbox.history → item ∉ pushedItems mailbox.history ∧
    ∃ guarded, .asked item guarded ∈ mailbox.history
  ended : ∀ before after, mailbox.history = before ++ .left :: after → .closed ∈ before

@[simp, grind =] theorem State.enter_stage (producer other : Producer) (stage : Stage Item)
    (mailbox : State Producer Item) :
    (mailbox.enter producer stage).stage other =
      if other = producer then stage else mailbox.stage other :=
  Function.update_apply ..

@[simp] theorem State.enter_history (producer : Producer) (stage : Stage Item)
    (mailbox : State Producer Item) : (mailbox.enter producer stage).history = mailbox.history := rfl

@[simp] theorem State.enter_items (producer : Producer) (stage : Stage Item)
    (mailbox : State Producer Item) : (mailbox.enter producer stage).items = mailbox.items := rfl

@[simp] theorem State.enter_isOpen (producer : Producer) (stage : Stage Item)
    (mailbox : State Producer Item) : (mailbox.enter producer stage).isOpen = mailbox.isOpen := rfl

namespace Sound

variable {mailbox next : State Producer Item}

theorem order_step (sound : Sound mailbox) (move : Move mailbox next) :
    pushedItems next.history = takenItems next.history ++ next.items := by
  cases move with
  | push found => simp [Event.pushed?, Event.taken?, sound.order]
  | take found => simp [Event.pushed?, Event.taken?, sound.order, found]
  | _ => simp [Event.pushed?, Event.taken?, sound.order]

theorem distinct_step (sound : Sound mailbox) (move : Move mailbox next) :
    (pushedItems next.history).Nodup := by
  cases move with
  | @push producer item guarded found =>
      have new := (sound.waiting producer item (by rw [found]; rfl)).2.1
      rw [pushedItems_snoc]
      refine List.nodup_append.mpr ⟨sound.distinct, by simp [Event.pushed?], ?_⟩
      intro other member pushed last same
      obtain rfl : pushed = item := by simpa [Event.pushed?] using last
      exact new (same ▸ member)
  | _ => simpa [Event.pushed?] using sound.distinct

theorem asked_step (sound : Sound mailbox) (move : Move mailbox next) :
    ∀ item ∈ pushedItems next.history, ∃ guarded, .asked item guarded ∈ next.history := by
  have old : ∀ item ∈ pushedItems mailbox.history, ∀ event, ∃ guarded,
      .asked item guarded ∈ mailbox.history ++ [event] := by
    intro item member event
    obtain ⟨guarded, found⟩ := sound.asked item member
    exact ⟨guarded, List.mem_append_left _ found⟩
  cases move with
  | @push producer item guarded found =>
      obtain ⟨guarded, asked⟩ := (sound.waiting producer item (by rw [found]; rfl)).1
      intro other member
      rw [pushedItems_snoc, List.mem_append] at member
      rcases member with before | new
      · exact old other before _
      · obtain rfl : other = item := by simpa [Event.pushed?] using new
        exact ⟨guarded, List.mem_append_left _ asked⟩
  | acquire => exact sound.asked
  | release => exact sound.asked
  | depart => exact sound.asked
  | _ => exact fun other member => old other (by simpa [Event.pushed?] using member) _

omit [DecidableEq Producer] in
/-- An item that was waiting stays so until its own producer is heard of. -/
theorem waiting_append (sound : Sound mailbox) {producer : Producer} {item : Item}
    {event : Event Item} (waits : (mailbox.stage producer).waiting = some item)
    (unpushed : event.pushed? ≠ some item) (unanswered : event ≠ .answered item false) :
    (∃ guarded, .asked item guarded ∈ mailbox.history ++ [event]) ∧
      item ∉ pushedItems (mailbox.history ++ [event]) ∧
      .answered item false ∉ mailbox.history ++ [event] := by
  obtain ⟨⟨guarded, asked⟩, outside, open_⟩ := sound.waiting producer item waits
  refine ⟨⟨guarded, List.mem_append_left _ asked⟩, ?_, ?_⟩
  · simpa [outside] using unpushed
  · simpa [open_] using unanswered.symm

omit [DecidableEq Producer] in
/-- An item nobody has asked for is waiting once its producer asks. -/
theorem waiting_fresh (sound : Sound mailbox) {item : Item}
    (fresh : ∀ guarded, .asked item guarded ∉ mailbox.history) (guarded : Bool) :
    (∃ any, .asked item any ∈ mailbox.history ++ [.asked item guarded]) ∧
      item ∉ pushedItems (mailbox.history ++ [.asked item guarded]) ∧
      .answered item false ∉ mailbox.history ++ [.asked item guarded] := by
  refine ⟨⟨guarded, by simp⟩, ?_, ?_⟩
  · intro pushed
    obtain ⟨asked, member⟩ := sound.asked item (by simpa [Event.pushed?] using pushed)
    exact fresh asked member
  · intro answered
    obtain ⟨_, asked, member⟩ := sound.refused item (by simpa using answered)
    exact fresh asked member

theorem waiting_step (sound : Sound mailbox) (move : Move mailbox next) :
    ∀ producer item, (next.stage producer).waiting = some item →
      (∃ guarded, .asked item guarded ∈ next.history) ∧ item ∉ pushedItems next.history ∧
        .answered item false ∉ next.history := by
  intro other item waits
  cases move with
  | @ask producer new away fresh =>
      by_cases same : other = producer
      · obtain rfl : new = item := by simpa [same, Stage.waiting] using waits
        exact sound.waiting_fresh fresh true
      · exact sound.waiting_append (by simpa [same] using waits) (by simp [Event.pushed?]) (by simp)
  | @barge producer new away fresh =>
      by_cases same : other = producer
      · obtain rfl : new = item := by simpa [same, Stage.waiting] using waits
        exact sound.waiting_fresh fresh false
      · exact sound.waiting_append (by simpa [same] using waits) (by simp [Event.pushed?]) (by simp)
  | @acquire producer asking found =>
      by_cases same : other = producer
      · refine sound.waiting producer item ?_
        rw [found]
        simpa [same, Stage.waiting] using waits
      · exact sound.waiting other item (by simpa [same] using waits)
  | @refuse producer refused found =>
      have different : other ≠ producer := by
        intro same
        simp [same, Stage.waiting] at waits
      have still : (mailbox.stage other).waiting = some item := by simpa [different] using waits
      refine sound.waiting_append still (by simp [Event.pushed?]) fun same => ?_
      cases same
      exact different (sound.alone other producer item still (by rw [found]; rfl))
  | @push producer pushed guarded found =>
      have different : other ≠ producer := by
        intro same
        simp [same, Stage.waiting] at waits
      have still : (mailbox.stage other).waiting = some item := by simpa [different] using waits
      refine sound.waiting_append still (fun same => ?_) (by simp)
      cases same
      exact different (sound.alone other producer item still (by rw [found]; rfl))
  | @release producer released found =>
      refine sound.waiting other item ?_
      by_cases same : other = producer
      · simp [same, Stage.waiting] at waits
      · simpa [same] using waits
  | @depart producer departed found =>
      refine sound.waiting other item ?_
      by_cases same : other = producer
      · simp [same, Stage.waiting] at waits
      · simpa [same] using waits
  | @answer producer answered found =>
      have still : (mailbox.stage other).waiting = some item := by
        by_cases same : other = producer
        · simp [same, Stage.waiting] at waits
        · simpa [same] using waits
      exact sound.waiting_append still (by simp [Event.pushed?]) (by simp)
  | take => exact sound.waiting_append waits (by simp [Event.pushed?]) (by simp)
  | close => exact sound.waiting_append waits (by simp [Event.pushed?]) (by simp)
  | leave => exact sound.waiting_append waits (by simp [Event.pushed?]) (by simp)

/-- A stage is entered either with an item nobody else waits for or with none. -/
theorem alone_enter (sound : Sound mailbox) {producer : Producer} {stage : Stage Item}
    (own : ∀ item, stage.waiting = some item → ∀ other,
      (mailbox.stage other).waiting = some item → other = producer)
    {first second : Producer} {item : Item}
    (waits : ((mailbox.enter producer stage).stage first).waiting = some item)
    (also : ((mailbox.enter producer stage).stage second).waiting = some item) :
    first = second := by
  rw [State.enter_stage] at waits also
  split at waits <;> split at also
  · simp [*]
  · exact absurd (own item waits second also) (by assumption)
  · exact absurd (own item also first waits) (by assumption)
  · exact sound.alone first second item waits also

theorem alone_step (sound : Sound mailbox) (move : Move mailbox next) :
    ∀ first second item, (next.stage first).waiting = some item →
      (next.stage second).waiting = some item → first = second := by
  have asks : ∀ item, (∀ guarded, .asked item guarded ∉ mailbox.history) → ∀ other,
      (mailbox.stage other).waiting ≠ some item := by
    intro item fresh other waits
    obtain ⟨⟨guarded, asked⟩, _⟩ := sound.waiting other item waits
    exact fresh guarded asked
  intro first second item waits also
  cases move with
  | ask away fresh =>
      refine sound.alone_enter (fun item same other waits => ?_) waits also
      cases same
      exact absurd waits (asks _ fresh other)
  | barge away fresh =>
      refine sound.alone_enter (fun item same other waits => ?_) waits also
      cases same
      exact absurd waits (asks _ fresh other)
  | acquire found =>
      refine sound.alone_enter (fun item same other waits => ?_) waits also
      cases same
      exact sound.alone other _ _ waits (by rw [found]; rfl)
  | take => exact sound.alone first second item waits also
  | close => exact sound.alone first second item waits also
  | leave => exact sound.alone first second item waits also
  | _ => exact sound.alone_enter (by simp [Stage.waiting]) waits also

omit [DecidableEq Producer] in
theorem locked_of_free (sound : Sound mailbox) (free : mailbox.holder = none) (producer : Producer) :
    (mailbox.stage producer).holding = false := by
  by_contra holds
  have locked := (sound.locked producer (by simpa using holds)).1
  rw [free] at locked
  cases locked

theorem holding_enter {producer other : Producer} {stage : Stage Item}
    (quiet : stage.holding = false)
    (holds : ((mailbox.enter producer stage).stage other).holding = true) :
    (mailbox.stage other).holding = true := by
  rw [State.enter_stage] at holds
  split at holds
  · rw [quiet] at holds
    cases holds
  · exact holds

theorem locked_step (sound : Sound mailbox) (move : Move mailbox next) :
    ∀ producer, (next.stage producer).holding = true →
      next.holder = some producer ∧ next.isOpen = true := by
  intro other holds
  cases move with
  | @acquire producer item found free open_ =>
      by_cases same : other = producer
      · exact ⟨by simp [same], by simpa using open_⟩
      · have quiet := sound.locked_of_free free other
        simp [same, quiet] at holds
  | @push producer item guarded found =>
      refine sound.locked other ?_
      by_cases same : other = producer
      · rw [same, found]
        simp only [State.enter_stage, same, ↓reduceIte] at holds
        cases guarded <;> exact holds
      · simpa [same] using holds
  | @release producer item found =>
      by_cases same : other = producer
      · simp [same, Stage.holding] at holds
      · have locked := sound.locked other (by simpa [same] using holds)
        have own := sound.locked producer (by rw [found]; rfl)
        rw [locked.1] at own
        exact absurd (Option.some.inj own.1) same
  | take => exact sound.locked other holds
  | close free =>
      rw [sound.locked_of_free free other] at holds
      cases holds
  | leave => exact sound.locked other holds
  | _ => exact sound.locked other (holding_enter rfl holds)

theorem shut_step (sound : Sound mailbox) (move : Move mailbox next) :
    .closed ∈ next.history → next.isOpen = false := by
  intro closed
  cases move with
  | close => rfl
  | _ => exact sound.shut (by simpa using closed)

/-- While a guarded producer puts its item in, the mailbox has not been closed. -/
theorem drained_step (sound : Sound mailbox) (move : Move mailbox next) :
    ∀ before after item, next.history = before ++ .closed :: after →
      .pushed item true ∈ next.history → .taken item ∈ before := by
  intro before after item split pushed
  have old : ∀ event, event ≠ .closed → event ≠ .pushed item true →
      mailbox.history ++ [event] = before ++ .closed :: after →
      .pushed item true ∈ mailbox.history ++ [event] → .taken item ∈ before := by
    intro event different other split pushed
    rcases Trace.split_snoc split with ⟨_, same, _⟩ | ⟨middle, _, split⟩
    · exact absurd same.symm different
    · exact sound.drained before middle item split (by simpa [other.symm] using pushed)
  cases move with
  | @push producer new guarded found =>
      rcases Trace.split_snoc split with ⟨_, same, _⟩ | ⟨middle, _, cut⟩
      · cases same
      · rcases List.mem_append.mp pushed with before | last
        · exact sound.drained _ middle item cut before
        · obtain ⟨rfl, rfl⟩ : item = new ∧ true = guarded := by simpa using last
          have opened := (sound.locked producer (by rw [found]; rfl)).2
          have closed : .closed ∈ mailbox.history := by
            rw [cut]
            simp
          rw [sound.shut closed] at opened
          cases opened
  | close free empty =>
      have pushed : .pushed item true ∈ mailbox.history := by simpa using pushed
      rcases Trace.split_snoc split with ⟨rfl, _, _⟩ | ⟨middle, _, split⟩
      · have order := sound.order
        rw [empty, List.append_nil] at order
        rw [← mem_takenItems, ← order, mem_pushedItems]
        exact ⟨true, pushed⟩
      · exact sound.drained before middle item split pushed
  | acquire => exact sound.drained before after item split pushed
  | release => exact sound.drained before after item split pushed
  | depart => exact sound.drained before after item split pushed
  | _ => exact old _ (by simp) (by simp) split pushed

/-- An item that its producer knows to be in is known by its new stage or was before. -/
theorem accepted_enter {producer other : Producer} {stage : Stage Item} {item : Item}
    (known : ((mailbox.enter producer stage).stage other).accepted = some item) :
    stage.accepted = some item ∨ (mailbox.stage other).accepted = some item := by
  rw [State.enter_stage] at known
  split at known
  · exact .inl known
  · exact .inr known

theorem accepted_step (sound : Sound mailbox) (move : Move mailbox next) :
    ∀ item, (∃ producer, (next.stage producer).accepted = some item) ∨
      .answered item true ∈ next.history → .pushed item true ∈ next.history := by
  intro item known
  have stages : ∀ producer, (mailbox.stage producer).accepted = some item →
      .pushed item true ∈ mailbox.history := fun producer known => sound.accepted item (.inl ⟨producer, known⟩)
  have answers : ∀ event, event ≠ .answered item true → .answered item true ∈ mailbox.history ++ [event] →
      .pushed item true ∈ mailbox.history := by
    intro event different known
    exact sound.accepted item (.inr (by simpa [different.symm] using known))
  rcases known with ⟨other, known⟩ | known
  · cases move with
    | @push producer new guarded found =>
        rcases accepted_enter known with own | other
        · cases guarded with
          | false => cases own
          | true =>
              cases own
              exact List.mem_append_right _ List.mem_cons_self
        · exact List.mem_append_left _ (stages _ other)
    | @release producer released found =>
        rcases accepted_enter known with own | other
        · exact stages producer (by rw [found]; exact own)
        · exact stages _ other
    | take => exact List.mem_append_left _ (stages _ known)
    | close => exact List.mem_append_left _ (stages _ known)
    | leave => exact List.mem_append_left _ (stages _ known)
    | acquire => exact stages _ ((accepted_enter known).resolve_left (by simp [Stage.accepted]))
    | depart => exact stages _ ((accepted_enter known).resolve_left (by simp [Stage.accepted]))
    | _ =>
        exact List.mem_append_left _
          (stages _ ((accepted_enter known).resolve_left (by simp [Stage.accepted])))
  · cases move with
    | @answer producer answered found =>
        refine List.mem_append_left _ ?_
        rcases List.mem_append.mp known with known | last
        · exact sound.accepted item (.inr known)
        · obtain rfl : item = answered := by simpa using last
          exact stages producer (by rw [found]; rfl)
    | acquire => exact sound.accepted item (.inr known)
    | release => exact sound.accepted item (.inr known)
    | depart => exact sound.accepted item (.inr known)
    | _ => exact List.mem_append_left _ (answers _ (by simp) known)

theorem fresh_step (sound : Sound mailbox) (move : Move mailbox next) :
    ∀ before after item guarded, next.history = before ++ .asked item guarded :: after →
      .taken item ∉ before := by
  intro before after item guarded split
  have old : ∀ event, event ≠ .asked item guarded →
      mailbox.history ++ [event] = before ++ .asked item guarded :: after → .taken item ∉ before := by
    intro event different split
    rcases Trace.split_snoc split with ⟨_, same, _⟩ | ⟨middle, _, split⟩
    · exact absurd same.symm different
    · exact sound.fresh before middle item guarded split
  have new : ∀ other guarded', (∀ guarded, .asked other guarded ∉ mailbox.history) →
      mailbox.history ++ [.asked other guarded'] = before ++ .asked item guarded :: after →
      .taken item ∉ before := by
    intro other guarded' fresh split
    rcases Trace.split_snoc split with ⟨rfl, same, _⟩ | ⟨middle, _, split⟩
    · cases same
      intro taken
      have pushed : item ∈ pushedItems mailbox.history := by
        rw [sound.order]
        exact List.mem_append_left _ (mem_takenItems.mpr taken)
      obtain ⟨guarded, asked⟩ := sound.asked item pushed
      exact fresh guarded asked
    · exact sound.fresh before middle item guarded split
  cases move with
  | ask _ fresh => exact new _ _ fresh split
  | barge _ fresh => exact new _ _ fresh split
  | acquire => exact sound.fresh before after item guarded split
  | release => exact sound.fresh before after item guarded split
  | depart => exact sound.fresh before after item guarded split
  | _ => exact old _ (by simp) split

theorem posting_enter {producer other : Producer} {stage : Stage Item} {item : Item}
    (posting : (mailbox.enter producer stage).stage other = .posting item false) :
    stage = .posting item false ∨ mailbox.stage other = .posting item false := by
  rw [State.enter_stage] at posting
  split at posting
  · exact .inl posting
  · exact .inr posting

theorem guarded_step (sound : Sound mailbox) (move : Move mailbox next) :
    ∀ item, .pushed item false ∈ next.history ∨
      (∃ producer, next.stage producer = .posting item false) → .asked item true ∉ next.history := by
  intro item known
  have old : ∀ event, event ≠ .asked item true →
      (.pushed item false ∈ mailbox.history ∨ ∃ producer, mailbox.stage producer = .posting item false) →
      .asked item true ∉ mailbox.history ++ [event] := by
    intro event different known
    simpa [different.symm] using sound.guarded item known
  have unasked : (∀ guarded, .asked item guarded ∉ mailbox.history) →
      ¬(.pushed item false ∈ mailbox.history ∨
        ∃ producer, mailbox.stage producer = .posting item false) := by
    intro fresh known
    rcases known with pushed | ⟨producer, posting⟩
    · obtain ⟨guarded, asked⟩ := sound.asked item (mem_pushedItems.mpr ⟨false, pushed⟩)
      exact fresh guarded asked
    · obtain ⟨⟨guarded, asked⟩, _⟩ := sound.waiting producer item (by rw [posting]; rfl)
      exact fresh guarded asked
  cases move with
  | @ask producer new away fresh =>
      have before : .pushed item false ∈ mailbox.history ∨
          ∃ producer, mailbox.stage producer = .posting item false := by
        refine Or.imp (fun pushed => by simpa using pushed) ?_ known
        intro posting
        obtain ⟨other, posting⟩ := posting
        exact ⟨other, (posting_enter posting).resolve_left (by simp)⟩
      refine old _ (fun same => ?_) before
      cases same
      exact unasked fresh before
  | @barge producer new away fresh =>
      rcases known with pushed | ⟨other, posting⟩
      · exact old _ (by simp) (.inl (by simpa using pushed))
      · rcases posting_enter posting with own | before
        · cases own
          simpa using fresh true
        · exact old _ (by simp) (.inr ⟨other, before⟩)
  | acquire =>
      refine sound.guarded item (known.imp_right fun posting => ?_)
      obtain ⟨other, posting⟩ := posting
      exact ⟨other, (posting_enter posting).resolve_left (by simp)⟩
  | @push producer new guarded found =>
      refine old _ (by simp) ?_
      rcases known with pushed | ⟨other, posting⟩
      · rcases List.mem_append.mp pushed with before | last
        · exact .inl before
        · obtain ⟨rfl, rfl⟩ : item = new ∧ false = guarded := by simpa using last
          exact .inr ⟨producer, found⟩
      · exact .inr ⟨other, (posting_enter posting).resolve_left (by simp)⟩
  | release =>
      refine sound.guarded item (known.imp_right fun posting => ?_)
      obtain ⟨other, posting⟩ := posting
      exact ⟨other, (posting_enter posting).resolve_left (by simp)⟩
  | depart =>
      refine sound.guarded item (known.imp_right fun posting => ?_)
      obtain ⟨other, posting⟩ := posting
      exact ⟨other, (posting_enter posting).resolve_left (by simp)⟩
  | take => exact old _ (by simp) (by simpa using known)
  | close => exact old _ (by simp) (by simpa using known)
  | leave => exact old _ (by simp) (by simpa using known)
  | _ =>
      refine old _ (by simp) (known.imp (fun pushed => by simpa using pushed) fun posting => ?_)
      obtain ⟨other, posting⟩ := posting
      exact ⟨other, (posting_enter posting).resolve_left (by simp)⟩

theorem refused_step (sound : Sound mailbox) (move : Move mailbox next) :
    ∀ item, .answered item false ∈ next.history → item ∉ pushedItems next.history ∧
      ∃ guarded, .asked item guarded ∈ next.history := by
  intro item refused
  have old : ∀ event, event.pushed? ≠ some item → .answered item false ∈ mailbox.history →
      item ∉ pushedItems (mailbox.history ++ [event]) ∧
        ∃ guarded, .asked item guarded ∈ mailbox.history ++ [event] := by
    intro event unpushed refused
    obtain ⟨outside, guarded, asked⟩ := sound.refused item refused
    refine ⟨?_, guarded, List.mem_append_left _ asked⟩
    simpa [outside] using unpushed
  cases move with
  | @refuse producer new found =>
      rcases List.mem_append.mp refused with before | last
      · exact old _ (by simp [Event.pushed?]) before
      · obtain rfl : item = new := by simpa using last
        obtain ⟨⟨guarded, asked⟩, outside, _⟩ := sound.waiting producer item (by rw [found]; rfl)
        exact ⟨by simpa [Event.pushed?] using outside, guarded, List.mem_append_left _ asked⟩
  | @push producer new guarded found =>
      have before : .answered item false ∈ mailbox.history := by simpa using refused
      refine old _ (fun same => ?_) before
      cases same
      exact (sound.waiting producer item (by rw [found]; rfl)).2.2 before
  | acquire => exact sound.refused item refused
  | release => exact sound.refused item refused
  | depart => exact sound.refused item refused
  | _ => exact old _ (by simp [Event.pushed?]) (by simpa using refused)

theorem ended_step (sound : Sound mailbox) (move : Move mailbox next) :
    ∀ before after, next.history = before ++ .left :: after → .closed ∈ before := by
  intro before after split
  have old : ∀ event, event ≠ .left → mailbox.history ++ [event] = before ++ .left :: after →
      .closed ∈ before := by
    intro event different split
    rcases Trace.split_snoc split with ⟨_, same, _⟩ | ⟨middle, _, split⟩
    · exact absurd same.symm different
    · exact sound.ended before middle split
  cases move with
  | leave closed =>
      rcases Trace.split_snoc split with ⟨rfl, _, _⟩ | ⟨middle, _, split⟩
      · exact closed
      · exact sound.ended before middle split
  | acquire => exact sound.ended before after split
  | release => exact sound.ended before after split
  | depart => exact sound.ended before after split
  | _ => exact old _ (by simp) split

theorem step (sound : Sound mailbox) (move : Move mailbox next) : Sound next where
  order := sound.order_step move
  distinct := sound.distinct_step move
  asked := sound.asked_step move
  waiting := sound.waiting_step move
  alone := sound.alone_step move
  locked := sound.locked_step move
  shut := sound.shut_step move
  drained := sound.drained_step move
  accepted := sound.accepted_step move
  fresh := sound.fresh_step move
  guarded := sound.guarded_step move
  refused := sound.refused_step move
  ended := sound.ended_step move

omit [DecidableEq Producer] in
theorem initial : Sound ({} : State Producer Item) where
  order := rfl
  distinct := List.nodup_nil
  asked := by simp [pushedItems]
  waiting := by simp [Stage.waiting]
  alone := by simp [Stage.waiting]
  locked := by simp [Stage.holding]
  shut := by simp
  drained := by simp
  accepted := by simp [Stage.accepted]
  fresh := by simp
  guarded := by simp
  refused := by simp
  ended := by simp

theorem of_moves (moves : Relation.ReflTransGen Move {} mailbox) : Sound mailbox := by
  induction moves with
  | refl => exact initial
  | tail _ move ih => exact ih.step move

/-! ## What producers can rely on -/

omit [DecidableEq Producer]

theorem taken_prefix (sound : Sound mailbox) :
    takenItems mailbox.history <+: pushedItems mailbox.history :=
  ⟨mailbox.items, sound.order.symm⟩

theorem taken_of_accepted (sound : Sound mailbox) {before after : List (Event Item)} {item : Item}
    (left : mailbox.history = before ++ .left :: after)
    (accepted : .answered item true ∈ mailbox.history) : .taken item ∈ before := by
  have pushed := sound.accepted item (.inr accepted)
  obtain ⟨early, late, closed⟩ := List.append_of_mem (sound.ended before after left)
  rw [closed]
  refine List.mem_append_left _ (sound.drained early (late ++ .left :: after) item ?_ pushed)
  rw [left, closed]
  simp

theorem not_taken_of_refused (sound : Sound mailbox) {item : Item}
    (refused : .answered item false ∈ mailbox.history) : .taken item ∉ mailbox.history := by
  intro taken
  refine (sound.refused item refused).1 ?_
  rw [sound.order]
  exact List.mem_append_left _ (mem_takenItems.mpr taken)

theorem not_pushed_of_asked_closed (sound : Sound mailbox) {before after : List (Event Item)}
    {item : Item} (closed : mailbox.history = before ++ .closed :: after)
    (asked : .asked item true ∈ after) : item ∉ pushedItems mailbox.history := by
  intro pushed
  obtain ⟨guarded, pushed⟩ := mem_pushedItems.mp pushed
  have known : .asked item true ∈ mailbox.history := by
    rw [closed]
    simp [asked]
  cases guarded with
  | false => exact sound.guarded item (.inl pushed) known
  | true =>
      have taken := sound.drained before after item closed pushed
      obtain ⟨early, late, rfl⟩ := List.append_of_mem asked
      refine sound.fresh (before ++ .closed :: early) late item true ?_ ?_
      · rw [closed]
        simp
      · exact List.mem_append_left _ taken

end Sound

end MiniTrantor.Mailbox
