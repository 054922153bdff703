import MiniTrantor.Net.Poller.Registration

/-!
# Waiting with either backend

The same operations are done with both backends. They wait on the same channels as long
as no channel is disabled that has no event left.
-/

set_option autoImplicit false

namespace MiniTrantor.Net.Polling

variable {Address : Type} [DecidableEq Address] {address : Address} {object : Object}

/-- The same channels, each with either poller. -/
structure Both (Address : Type) where
  epoll : EPollPoller Address := {}
  select : SelectPoller Address := {}

namespace Both

def step (state : Both Address) (action : Action Address) : Option (Both Address) :=
  match Polling.epoll.step state.epoll action, Polling.select.step state.select action with
  | some epoll, some select => some { epoll, select }
  | _, _ => none

def Distinct (state : Both Address) : Action Address → Prop :=
  Polling.Distinct state.epoll.toPoller

end Both

/-- An operation that leaves no event takes one away. -/
def TakesAway (poller : Poller Address) : Action Address → Prop
  | .operate address operation => ∀ object, poller.objects address = some object →
      (operation.perform object.channel).isNoneEvent = true → object.channel.isNoneEvent = false
  | _ => True

def Both.Permitted (state : Both Address) (action : Action Address) : Prop :=
  state.Distinct action ∧ TakesAway state.epoll.toPoller action

/-- A channel with no event is not waited on. That a channel was removed says nothing of the
one that has its descriptor now. -/
def Ignores (waits : SocketFd → Bool) (poller : Poller Address) : Prop :=
  ∀ address object, poller.objects address = some object → Sole poller address object →
    object.channel.isNoneEvent = true → waits object.fd = false

structure Both.Ignored (state : Both Address) : Prop where
  epoll : Ignores state.epoll.waits state.epoll.toPoller
  select : Ignores state.select.waits state.select.toPoller
  same : ∀ fd, state.epoll.waits fd = state.select.waits fd

/-- Both pollers keep the same, and an index is that of the mask. -/
structure Agreed (state : Both Address) : Prop where
  consistent : Consistent state.epoll
  same : state.epoll.toPoller = state.select.toPoller
  index : ∀ address object, state.epoll.objects address = some object →
    (object.index = .kAdded ↔ object.channel.isNoneEvent = false)

theorem Operation.perform_added (operation : Operation) (channel : Channel) :
    (operation.perform channel).addedToLoop = true := by
  cases operation <;> rfl

namespace EPollPoller

variable {state next : EPollPoller Address}

omit [DecidableEq Address] in
theorem update_poller {operation : EpollCtl}
    (ran : state.update operation address object = .ok next) : next.toPoller = state.toPoller := by
  unfold update at ran
  split at ran
  · cases ran
    rfl
  · cases ran

/-- The poller keeps the channel as registered, unless it was and has no event left. -/
theorem updateChannel_poller (ran : state.updateChannel address object = .ok next) :
    next.toPoller =
      (if object.index = .kNew then state.toPoller.add object.fd address
        else state.toPoller).set address (some { object with
          index := if object.index = .kAdded ∧ object.channel.isNoneEvent = true then .kDeleted
            else .kAdded }) := by
  unfold updateChannel at ran
  cases index : object.index with
  | kNew =>
      rw [index] at ran
      exact update_poller ran
  | kDeleted =>
      rw [index] at ran
      exact update_poller ran
  | kAdded =>
      simp only [index] at ran
      by_cases empty : object.channel.isNoneEvent = true
      · rw [if_pos empty] at ran
        rw [update_poller ran, if_pos ⟨rfl, empty⟩, if_neg (by decide)]
        rfl
      · rw [if_neg empty] at ran
        rw [update_poller ran, if_neg (not_and_of_not_right _ empty), if_neg (by decide), ← index]
        rfl

theorem removeChannel_poller (ran : state.removeChannel address object = .ok next) :
    next.toPoller =
      (state.toPoller.erase object.fd).set address (some { object with index := .kNew }) := by
  simp only [removeChannel] at ran
  split at ran
  · exact update_poller ran
  · cases ran
    rfl

end EPollPoller

theorem SelectPoller.updateChannel_poller (state : SelectPoller Address) :
    (state.updateChannel address object).toPoller =
      (if object.index = .kNew then state.toPoller.add object.fd address
        else state.toPoller).set address (some { object with
          index := if object.channel.isNoneEvent = true then .kDeleted else .kAdded }) := by
  unfold SelectPoller.updateChannel
  by_cases new : object.index = .kNew <;> by_cases empty : object.channel.isNoneEvent = true <;>
    simp only [new, empty, if_true, if_false] <;> rfl

/-- What a step does with the poller, when a changed channel gets the index of `assign`. -/
inductive Moved (assign : Object → Index) (poller : Poller Address) :
    Action Address → Poller Address → Prop where
  | create {address : Address} {fd : SocketFd} : poller.objects address = none →
      Moved assign poller (.create address fd) (poller.set address (some { fd }))
  | destroy {address : Address} {object : Object} : poller.objects address = some object →
      Moved assign poller (.destroy address) (poller.set address none)
  | operate {address : Address} {operation : Operation} {object changed : Object} :
      poller.objects address = some object →
      changed = { object with channel := operation.perform object.channel } →
      Moved assign poller (.operate address operation)
        ((if changed.index = .kNew then poller.add changed.fd address else poller).set address
          (some { changed with index := assign changed }))
  | remove {address : Address} {object : Object} {channel : Channel} :
      poller.objects address = some object → object.channel.remove = .ok channel →
      Moved assign poller (.remove address)
        ((poller.erase object.fd).set address (some { object with channel, index := .kNew }))
  | refused {address : Address} {object : Object} {message : String} :
      poller.objects address = some object → object.channel.remove = .error message →
      Moved assign poller (.remove address) poller

/-- Every channel has a descriptor of its own. -/
def Owned (fdOf : Address → SocketFd) (poller : Poller Address) : Prop :=
  ∀ address object, poller.objects address = some object → object.fd = fdOf address

omit [DecidableEq Address] in
theorem Owned.distinct {fdOf : Address → SocketFd} {poller : Poller Address}
    (owned : Owned fdOf poller) (injective : Function.Injective fdOf) (action : Action Address) :
    Distinct poller action := by
  have sole : ∀ address object, poller.objects address = some object →
      Sole poller address object := by
    intro address object held other found holds differs _ same
    rw [owned _ _ held, owned _ _ holds] at same
    exact differs (injective same)
  cases action with
  | create | destroy => trivial
  | operate address | remove address => exact sole address

theorem Owned.put {fdOf : Address → SocketFd} {poller : Poller Address}
    (owned : Owned fdOf poller) {changed : Object} (own : changed.fd = fdOf address) :
    Owned fdOf (poller.set address (some changed)) := by
  intro location object held
  by_cases same : location = address
  · subst same
    rw [Poller.set_objects, Function.update_self] at held
    cases held
    exact own
  · rw [Poller.set_objects, Function.update_of_ne same] at held
    exact owned location object held

theorem Owned.moved {fdOf : Address → SocketFd} {assign : Object → Index}
    {poller next : Poller Address} {action : Action Address} (owned : Owned fdOf poller)
    (moved : Moved assign poller action next)
    (created : ∀ address fd, action = .create address fd → fd = fdOf address) :
    Owned fdOf next := by
  cases moved with
  | create absent => exact owned.put (created _ _ rfl)
  | @destroy address object held =>
      intro location other found
      by_cases same : location = address
      · rw [same, Poller.set_objects, Function.update_self] at found
        cases found
      · rw [Poller.set_objects, Function.update_of_ne same] at found
        exact owned location other found
  | @operate address operation object changed held is =>
      have own : changed.fd = fdOf address := by
        rw [is]
        exact owned address object held
      by_cases new : changed.index = .kNew
      · rw [if_pos new]
        exact Owned.put owned own
      · rw [if_neg new]
        exact owned.put own
  | @remove address object channel held asked => exact Owned.put owned (owned address object held)
  | refused => exact owned

/-- What a backend does with an update and a removal, when neither throws. -/
structure Backend.Assigns {State : Type} (backend : Backend Address State)
    (assign : Object → Index) : Prop where
  written : ∀ poller state, backend.poller (backend.withPoller poller state) = poller
  updated : ∀ {address object state next},
    backend.updateChannel address object state = .ok next → backend.poller next =
      (if object.index = .kNew then (backend.poller state).add object.fd address
        else backend.poller state).set address (some { object with index := assign object })
  accepted : ∀ {address object state message},
    backend.updateChannel address object state ≠ .error (.runtimeError message)
  removed : ∀ {address object state next},
    backend.removeChannel address object state = .ok next → backend.poller next =
      ((backend.poller state).erase object.fd).set address (some { object with index := .kNew })
  taken : ∀ {address object state message},
    backend.removeChannel address object state ≠ .error (.runtimeError message)

theorem Backend.Assigns.moved {State : Type} {backend : Backend Address State}
    {assign : Object → Index} (assigns : backend.Assigns assign) {state next : State}
    {action : Action Address} (ran : backend.step state action = some next) :
    Moved assign (backend.poller state) action (backend.poller next) := by
  have outcome := backend.step_eq ran
  cases action with
  | create address fd =>
      cases held : (backend.poller state).objects address with
      | some object => simp [act, held] at outcome
      | none =>
          simp only [act, held, Option.some.injEq, Except.ok.injEq, reduceCtorEq, exists_false,
            false_and, or_false] at outcome
          rw [← outcome, assigns.written]
          exact .create held
  | destroy address =>
      obtain acted | ⟨⟨message, acted⟩, _⟩ := outcome <;>
        obtain ⟨object, held, result⟩ := Option.map_eq_some_iff.mp acted <;>
        split at result <;> cases result
      rw [assigns.written]
      exact .destroy held
  | operate address operation =>
      obtain acted | ⟨⟨message, acted⟩, _⟩ := outcome <;>
        obtain ⟨object, held, result⟩ := Option.map_eq_some_iff.mp acted
      · rw [assigns.updated result]
        exact .operate held rfl
      · exact absurd result assigns.accepted
  | remove address =>
      obtain acted | ⟨⟨message, acted⟩, unchanged⟩ := outcome <;>
        obtain ⟨object, held, result⟩ := Option.map_eq_some_iff.mp acted
      · cases asked : object.channel.remove with
        | error message => simp [asked] at result
        | ok channel =>
            rw [asked] at result
            rw [assigns.removed result]
            exact @Moved.remove _ _ _ _ _ object channel held asked
      · cases asked : object.channel.remove with
        | error message =>
            rw [unchanged]
            exact .refused held asked
        | ok channel =>
            rw [asked] at result
            exact absurd result assigns.taken

omit [DecidableEq Address] in
theorem EPollPoller.update_accepted {state : EPollPoller Address} {operation : EpollCtl}
    {message : String} :
    state.update operation address object ≠ .error (.runtimeError message) := by
  unfold update
  split <;> simp

def EPollPoller.assign (object : Object) : Index :=
  if object.index = .kAdded ∧ object.channel.isNoneEvent = true then .kDeleted else .kAdded

def SelectPoller.assign (object : Object) : Index :=
  if object.channel.isNoneEvent = true then .kDeleted else .kAdded

theorem EPollPoller.assigns : (@epoll Address _).Assigns EPollPoller.assign where
  written _ _ := rfl
  updated := updateChannel_poller
  accepted := by
    intro address object state message failed
    simp only [epoll, updateChannel] at failed
    split at failed
    · exact update_accepted failed
    · exact update_accepted failed
    · split at failed <;> exact update_accepted failed
  removed := removeChannel_poller
  taken := by
    intro address object state message failed
    simp only [epoll, removeChannel] at failed
    split at failed
    · exact update_accepted failed
    · cases failed

theorem SelectPoller.assigns : (@select Address _).Assigns SelectPoller.assign where
  written _ _ := rfl
  updated := by
    intro address object state next ran
    cases ran
    exact updateChannel_poller state
  accepted := by simp [select]
  removed := by
    intro address object state next ran
    cases ran
    rfl
  taken := by simp [select]

namespace Agreed

variable {state next : Both Address}

omit [DecidableEq Address] in
theorem ignored (agreed : Agreed state) : state.Ignored := by
  have registered : ∀ address object, state.epoll.objects address = some object →
      Sole state.epoll.toPoller address object →
      state.epoll.waits object.fd = !object.channel.isNoneEvent := by
    intro address object held sole
    rw [EPollPoller.waits, (agreed.consistent.kept held sole).registered]
    have index := agreed.index address object held
    cases empty : object.channel.isNoneEvent with
    | true => simp [index, empty]
    | false => simp [index, empty]
  have same : ∀ fd, state.epoll.waits fd = state.select.waits fd := by
    intro fd
    by_cases owned : ∃ address object, state.epoll.objects address = some object ∧
        object.channel.addedToLoop = true ∧ object.fd = fd
    · obtain ⟨address, object, held, inLoop, rfl⟩ := owned
      have listed := (agreed.consistent.entry address object held inLoop).listed
      have index := agreed.index address object held
      rw [registered address object held (agreed.consistent.sole held inLoop), SelectPoller.waits,
        ← agreed.same, listed]
      cases empty : object.channel.isNoneEvent with
      | true =>
          by_cases new : object.index = .kNew
          · simp [new]
          · simp [new, held, empty]
      | false =>
          have added := index.mpr empty
          simp [added, held, empty]
    · obtain ⟨unlisted, unregistered⟩ := agreed.consistent.vacant fd
        fun address object held inLoop same => owned ⟨address, object, held, inLoop, same⟩
      rw [EPollPoller.waits, SelectPoller.waits, ← agreed.same, unlisted, unregistered]
      rfl
  have ignores : Ignores state.epoll.waits state.epoll.toPoller := by
    intro address object held sole empty
    rw [registered address object held sole, empty]
    rfl
  refine ⟨ignores, fun address object held sole empty => ?_, same⟩
  rw [← agreed.same] at held sole
  rw [← same]
  exact ignores address object held sole empty

omit [DecidableEq Address] in
theorem start : Agreed ({} : Both Address) :=
  ⟨.start, rfl, by simp⟩

/-- A step of both is one of each. -/
theorem taken {action : Action Address} (taken : state.step action = some next) :
    Polling.epoll.step state.epoll action = some next.epoll ∧
      Polling.select.step state.select action = some next.select := by
  unfold Both.step at taken
  split at taken
  · rename_i epoll select onEpoll onSelect
    cases taken
    exact ⟨onEpoll, onSelect⟩
  · cases taken

/-- The changed channel has the index of its mask, as every other has. -/
theorem put (agreed : Agreed state) {changed : Object} (consistent : Consistent next.epoll)
    (same : next.epoll.toPoller = next.select.toPoller)
    (objects : next.epoll.objects =
      Function.update state.epoll.objects address (some changed))
    (index : changed.index = .kAdded ↔ changed.channel.isNoneEvent = false) : Agreed next := by
  refine ⟨consistent, same, fun location object held => ?_⟩
  rw [objects] at held
  by_cases here : location = address
  · rw [here, Function.update_self] at held
    cases held
    exact index
  · rw [Function.update_of_ne here] at held
    exact agreed.index location object held

/-- Both pollers give a channel the same index, unless it is disabled again. -/
theorem step (agreed : Agreed state) {action : Action Address} (distinct : state.Distinct action)
    (away : TakesAway state.epoll.toPoller action) (ran : state.step action = some next) :
    Agreed next := by
  obtain ⟨onEpoll, onSelect⟩ := taken ran
  have consistent := agreed.consistent.step distinct onEpoll
  have moved := EPollPoller.assigns.moved onEpoll
  have movedSelect := SelectPoller.assigns.moved onSelect
  simp only [Polling.epoll, Polling.select, ← agreed.same] at moved movedSelect
  generalize after : next.epoll.toPoller = poller at moved
  generalize afterSelect : next.select.toPoller = pollerSelect at movedSelect
  cases moved with
  | create absent =>
      cases movedSelect
      exact agreed.put consistent (after.trans afterSelect.symm) (by rw [after]; rfl)
        (by simp [Channel.isNoneEvent])
  | @destroy address object held =>
      cases movedSelect
      refine ⟨consistent, after.trans afterSelect.symm, fun location other found => ?_⟩
      rw [after, Poller.set_objects] at found
      by_cases here : location = address
      · rw [here, Function.update_self] at found
        cases found
      · rw [Function.update_of_ne here] at found
        exact agreed.index location other found
  | @operate address operation object changed held is =>
      cases movedSelect with
      | @operate _ _ object' changed' held' is' =>
        cases held.symm.trans held'
        cases is.trans is'.symm
        have index := agreed.index address object held
        have own : changed.index = object.index := by rw [is]
        have assigned : EPollPoller.assign changed = SelectPoller.assign changed := by
          unfold EPollPoller.assign SelectPoller.assign
          by_cases empty : changed.channel.isNoneEvent = true
          · have taken := away object held (by rwa [is] at empty)
            simp [empty, own, index.mpr taken]
          · simp [empty]
        rw [assigned] at after
        have objects : next.epoll.objects = Function.update state.epoll.objects address
            (some { changed with index := SelectPoller.assign changed }) := by
          rw [after]
          split <;> rfl
        refine agreed.put consistent (after.trans afterSelect.symm) objects ?_
        unfold SelectPoller.assign
        by_cases empty : changed.channel.isNoneEvent = true <;> simp [empty]
  | @remove address object channel held asked =>
      have empty : object.channel.isNoneEvent = true ∧ channel.isNoneEvent = true := by
        unfold Channel.remove at asked
        split at asked <;> cases asked
        exact ⟨‹_›, ‹_›⟩
      cases movedSelect with
      | @remove _ object' channel' held' asked' =>
        cases held.symm.trans held'
        cases asked.symm.trans asked'
        exact agreed.put consistent (after.trans afterSelect.symm) (by rw [after]; rfl)
          (by simp [empty])
      | refused held' asked' =>
        cases held.symm.trans held'
        cases asked.symm.trans asked'
  | refused held asked =>
      cases movedSelect with
      | remove held' asked' =>
        cases held.symm.trans held'
        cases asked.symm.trans asked'
      | refused => 
        refine ⟨consistent, after.trans afterSelect.symm, ?_⟩
        rw [after]
        exact agreed.index

/-- A channel that is disabled again is registered with the kernel. -/
theorem waited (agreed : Agreed state) {action : Action Address}
    (distinct : state.Distinct action) (ran : state.step action = some next)
    (again : ¬ TakesAway state.epoll.toPoller action) :
    ¬ Ignores next.epoll.waits next.epoll.toPoller := by
  intro ignores
  obtain ⟨onEpoll, _⟩ := taken ran
  have consistent := agreed.consistent.step distinct onEpoll
  have moved := EPollPoller.assigns.moved onEpoll
  simp only [Polling.epoll] at moved
  generalize after : next.epoll.toPoller = poller at moved
  cases moved with
  | @operate address operation object changed held is =>
      refine again fun found heldAgain empty => ?_
      cases held.symm.trans heldAgain
      by_contra disabled
      have index := agreed.index address object held
      have own : changed.index ≠ .kAdded := by
        rw [is]
        exact fun added => disabled (index.mp added)
      have now : next.epoll.objects address = some { changed with index := .kAdded } := by
        rw [after]
        simp [EPollPoller.assign, own]
      have inLoop : changed.channel.addedToLoop = true := by
        rw [is]
        exact operation.perform_added _
      have waits := ignores address _ now (consistent.sole now inLoop) (by rw [is]; exact empty)
      rw [EPollPoller.waits, (consistent.entry address _ now inLoop).registered] at waits
      simp at waits
  | create | destroy | remove | refused => exact again trivial

end Agreed

/-- Channels with no event are not waited on, and both backends wait on the same ones, as
long as no channel is disabled again. The operation that does so ends it. -/
theorem disabled_not_waited {state : Both Address}
    (reachable : Reach Both.step Both.Permitted {} state) :
    state.Ignored ∧ ∀ action next, state.Distinct action → state.step action = some next →
      (next.Ignored ↔ TakesAway state.epoll.toPoller action) := by
  have agreed : Agreed state := reachable.invariant .start
    fun _ _ _ agreed permitted ran => agreed.step permitted.1 permitted.2 ran
  refine ⟨agreed.ignored, fun action next distinct ran => ⟨fun ignored => ?_, fun away => ?_⟩⟩
  · by_contra again
    exact agreed.waited distinct ran again ignored.epoll
  · exact (agreed.step distinct away ran).ignored

theorem disabled_not_waited_twice :
    ∃ state : Both Nat, run Both.step {} [.create 0 3, .operate 0 .enableReading,
      .operate 0 .disableAll] = some state ∧ state.Ignored ∧
      ∀ next, state.step (.operate 0 .disableWriting) = some next → ¬ next.Ignored := by
  have created : Reach Both.step (@Both.Permitted Nat) {} _ :=
    @Reach.step _ _ _ _ _ _ _ (.create 0 3) .start ⟨trivial, trivial⟩ rfl
  have reading : Reach Both.step (@Both.Permitted Nat) {} _ :=
    @Reach.step _ _ _ _ _ _ _ (.operate 0 .enableReading) created
      ⟨fun _ _ => .alone fun other differs => by simp [epoll, differs],
        by intro object held; cases held; decide⟩ rfl
  have disabled : Reach Both.step (@Both.Permitted Nat) {} _ :=
    @Reach.step _ _ _ _ _ _ _ (.operate 0 .disableAll) reading
      ⟨fun _ _ => .alone fun other differs => by simp [EPollPoller.set, epoll, differs],
        by intro object held; cases held; decide⟩ rfl
  obtain ⟨ignored, exactly⟩ := disabled_not_waited disabled
  refine ⟨_, rfl, ignored, fun next ran waiting => ?_⟩
  have taken := (exactly (.operate 0 .disableWriting) next
    (fun _ _ => .alone fun other differs => by simp [EPollPoller.set, epoll, differs]) ran).mp
      waiting
  exact absurd (taken _ rfl rfl) (by decide)

/-- A channel that is disabled before anything else is waited on with epoll. -/
theorem disabled_waited : ¬ ∀ state : Both Nat, Reach Both.step Both.Distinct {} state →
    state.Ignored := by
  intro always
  have ignored := always _ (@Reach.step _ _ _ _ _ _ _ (.operate 0 .disableAll)
    (@Reach.step _ _ _ _ _ _ _ (.create 0 3) .start trivial rfl)
    (fun _ _ => .alone fun other differs => by simp [epoll, differs]) rfl)
  have waits := ignored.epoll 0 _ rfl
    (.alone fun other differs => by simp [EPollPoller.set, epoll, differs]) rfl
  exact absurd waits (by decide)

end MiniTrantor.Net.Polling
