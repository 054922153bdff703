import MiniTrantor.Net.Poller.Waits
import MiniTrantor.Trace

/-!
# Dispatch of a batch

The loop goes through the channels that one poll reported while callbacks do what they
like with any of them. The timers, the functors and the code outside `loop()` are what
runs while no batch is dispatched. A channel may be tied to an object that is destroyed at
any time, but not while the guard of `handleEvent` holds it.
-/

set_option autoImplicit false

namespace MiniTrantor.Net.Polling

variable {Address : Type} [DecidableEq Address]

/-- A turn has the position of its channel in the batch. -/
inductive Event (Address : Type) where
  | polled (batch : List Address)
  | dispatched (position : Nat) (channel : Address)
  /-- `tie_.lock()` failed. -/
  | skipped (position : Nat) (channel : Address)
  /-- The entry is `nullptr`. -/
  | passed (position : Nat)
  | finished
  | created (channel : Address)
  | removed (channel : Address)
  | tied (channel : Address)
  | expired (channel : Address)
  deriving DecidableEq, Repr

namespace Event

def isPolled : Event Address → Bool
  | .polled _ => true
  | _ => false

/-- The position of a turn. -/
def turn : Event Address → Option Nat
  | .dispatched position _ | .skipped position _ | .passed position => some position
  | _ => none

def ties (channel : Address) : Event Address → Bool
  | .created other | .tied other => other = channel
  | _ => false

def expires (channel : Address) : Event Address → Bool
  | .expired other => other = channel
  | _ => false

end Event

/-- What is done on the thread of the loop, or with the object that a channel is tied to. -/
inductive Move (Address : Type) where
  | user (action : Action Address)
  | tie (channel : Address)
  | expire (channel : Address)
  | poll (ready : List SocketFd)
  | advance
  | returned
  deriving DecidableEq, Repr

structure Loop (Address : Type) where
  poller : EPollPoller Address := {}
  /-- `tie_` of the channels that are tied: whether its object is alive. -/
  ties : Address → Option Bool := fun _ => none
  activeChannels : List (Option Address) := []
  eventHandling : Bool := false
  position : Nat := 0
  /-- The channel that handles its event. -/
  handling : Option Address := none
  trace : List (Event Address) := []

/-- A channel in the loop stays there until it is removed. -/
theorem epoll_added {state next : EPollPoller Address} {action : Action Address}
    (acted : epoll.act state action = some (.ok next)) {channel : Address} {object : Object}
    (held : state.objects channel = some object) (added : object.channel.addedToLoop = true)
    (kept : action ≠ .remove channel) :
    ∃ object, next.objects channel = some object ∧ object.channel.addedToLoop = true := by
  cases action with
  | create address fd =>
      cases absent : state.objects address with
      | some other => simp [Backend.act, epoll, absent] at acted
      | none =>
          simp only [Backend.act, epoll, absent, Option.some.injEq, Except.ok.injEq] at acted
          have differs : channel ≠ address := by
            intro same
            rw [same, absent] at held
            cases held
          refine ⟨object, ?_, added⟩
          rw [← acted, Poller.set_objects, Function.update_of_ne differs, held]
  | destroy address =>
      obtain ⟨other, found, result⟩ := Option.map_eq_some_iff.mp acted
      split at result
      · cases result
      · rename_i removed
        cases result
        have differs : channel ≠ address := by
          intro same
          subst same
          cases held.symm.trans found
          exact removed added
        refine ⟨object, ?_, added⟩
        simp only [epoll, Poller.set_objects]
        rw [Function.update_of_ne differs, held]
  | operate address operation =>
      obtain ⟨other, found, result⟩ := Option.map_eq_some_iff.mp acted
      rw [EPollPoller.updateChannel_poller result]
      by_cases same : channel = address
      · subst same
        exact ⟨_, Function.update_self _ _ _, operation.perform_added _⟩
      · refine ⟨object, ?_, added⟩
        rw [Poller.set_objects, Function.update_of_ne same]
        split <;> exact held
  | remove address =>
      obtain ⟨other, found, result⟩ := Option.map_eq_some_iff.mp acted
      split at result
      · cases result
      · rw [EPollPoller.removeChannel_poller result]
        have differs : channel ≠ address := fun same => kept (by rw [same])
        refine ⟨object, ?_, added⟩
        rw [Poller.set_objects, Function.update_of_ne differs]
        exact held

namespace Loop

def emit (event : Event Address) (loop : Loop Address) : Loop Address :=
  { loop with trace := loop.trace ++ [event] }

/-- What `EventLoop::removeChannel` does after the poller. -/
def removeChannel (channel : Address) (loop : Loop Address) : Loop Address :=
  if loop.eventHandling then
    { loop with
      activeChannels := loop.activeChannels.map fun active =>
        if active = some channel then none else active }
  else loop

def fillActiveChannels (ready : List SocketFd) (poller : EPollPoller Address) : List Address :=
  ready.filterMap fun fd => (poller.kernel fd).map Prod.snd

/-- What else is done with a channel after the poller did its part. -/
def performed (loop : Loop Address) : Action Address → Loop Address
  | .create channel _ =>
      { loop with ties := Function.update loop.ties channel none }.emit (.created channel)
  | .remove channel => (loop.removeChannel channel).emit (.removed channel)
  | _ => loop

/-- `LOG_FATAL` in `~Channel` ends the process. -/
def user (loop : Loop Address) (action : Action Address) : Option (Loop Address) :=
  if loop.eventHandling && loop.handling.isNone then none
  else if loop.handling.map Action.destroy = some action then none
  else
    match epoll.act loop.poller action with
    | some (.ok poller) => some ({ loop with poller }.performed action)
    | some (.error (.runtimeError _)) => some loop
    | _ => none

/-- The next turn of the `for` loop, up to the first callback. -/
def advance (loop : Loop Address) : Option (Loop Address) :=
  match loop.activeChannels[loop.position]? with
  | none => some ({ loop with eventHandling := false }.emit .finished)
  | some none => some ({ loop with position := loop.position + 1 }.emit (.passed loop.position))
  | some (some channel) =>
      (loop.poller.objects channel).map fun _ =>
        if loop.ties channel = some false then
          { loop with position := loop.position + 1 }.emit (.skipped loop.position channel)
        else { loop with handling := some channel }.emit (.dispatched loop.position channel)

def step (loop : Loop Address) : Move Address → Option (Loop Address)
  | .user action => loop.user action
  | .tie channel =>
      if (loop.poller.objects channel).isSome then
        some ({ loop with ties := Function.update loop.ties channel (some true) }.emit
          (.tied channel))
      else none
  | .expire channel =>
      if loop.ties channel = some true ∧ loop.handling ≠ some channel then
        some ({ loop with ties := Function.update loop.ties channel (some false) }.emit
          (.expired channel))
      else none
  | .poll ready =>
      if !loop.eventHandling ∧ ready.Nodup ∧ ∀ fd ∈ ready, loop.poller.waits fd then
        let batch := fillActiveChannels ready loop.poller
        some ({ loop with
          activeChannels := batch.map some, eventHandling := true, position := 0 }.emit
            (.polled batch))
      else none
  | .advance => if loop.eventHandling && loop.handling.isNone then loop.advance else none
  | .returned =>
      if loop.handling.isSome then
        some { loop with handling := none, position := loop.position + 1 }
      else none

def Distinct (loop : Loop Address) : Move Address → Prop
  | .user action => Polling.Distinct loop.poller.toPoller action
  | _ => True

/-- Every channel is created with its own descriptor. -/
def Created (fdOf : Address → SocketFd) (_ : Loop Address) (move : Move Address) : Prop :=
  ∀ address fd, move = .user (.create address fd) → fd = fdOf address

/-- The object that a channel was last tied to is gone. -/
def gone (channel : Address) (trace : List (Event Address)) : Bool :=
  Trace.shut (Event.ties channel) (Event.expires channel) trace

/-- The turns that the channels of a batch had. Each is as what came before it says. -/
structure Turns (earlier : List (Event Address)) (batch : List Address)
    (during : List (Event Address)) (taken : Nat) : Prop where
  once : batch.Nodup
  order : during.filterMap Event.turn = List.range taken
  bound : taken ≤ batch.length
  outcome : ∀ before event after position, during = before ++ event :: after →
    event.turn = some position → ∃ channel, batch[position]? = some channel ∧
      event = if .removed channel ∈ before then .passed position
        else if gone channel (earlier ++ .polled batch :: before) then .skipped position channel
        else .dispatched position channel

/-- The turns that began. -/
def taken (loop : Loop Address) (batch : List Address) : Nat :=
  if loop.eventHandling then loop.position + (if loop.handling.isSome then 1 else 0)
  else batch.length

/-- The batch of the last poll. -/
structure Dispatching (loop : Loop Address) (earlier : List (Event Address))
    (batch : List Address) (during : List (Event Address)) : Prop where
  turns : Turns earlier batch during (loop.taken batch)
  unfinished : loop.eventHandling = true → .finished ∉ during
  slots : loop.eventHandling = true → loop.activeChannels = batch.map fun channel =>
    if .removed channel ∈ during then none else some channel

structure Invariant (loop : Loop Address) : Prop where
  consistent : Consistent loop.poller
  ties : ∀ channel, loop.ties channel = some false ↔ gone channel loop.trace = true
  idle : loop.eventHandling = false → loop.handling = none
  known : loop.eventHandling = true → ∀ channel, some channel ∈ loop.activeChannels →
    ∃ object, loop.poller.objects channel = some object ∧ object.channel.addedToLoop = true
  dispatching : ∀ earlier batch during, loop.trace = earlier ++ .polled batch :: during →
    (∀ event ∈ during, event.isPolled = false) → Dispatching loop earlier batch during

namespace Turns

variable {earlier during : List (Event Address)} {batch : List Address} {taken : Nat}
  {event : Event Address}

theorem quiet (turns : Turns earlier batch during taken) (silent : event.turn = none) :
    Turns earlier batch (during ++ [event]) taken := by
  refine ⟨turns.once, ?_, turns.bound, fun before other after position split at_ => ?_⟩
  · rw [List.filterMap_append, turns.order]
    simp [silent]
  · obtain ⟨_, rfl, _⟩ | ⟨middle, _, old⟩ := Trace.split_snoc split
    · rw [silent] at at_
      cases at_
    · exact turns.outcome before other middle position old at_

theorem take (turns : Turns earlier batch during taken) (turn : event.turn = some taken)
    {channel : Address} (entry : batch[taken]? = some channel)
    (outcome : event = if .removed channel ∈ during then .passed taken
      else if gone channel (earlier ++ .polled batch :: during) then .skipped taken channel
      else .dispatched taken channel) :
    Turns earlier batch (during ++ [event]) (taken + 1) := by
  refine ⟨turns.once, ?_, ?_, fun before other after position split at_ => ?_⟩
  · rw [List.filterMap_append, turns.order, List.range_succ]
    simp [turn]
  · obtain ⟨inside, _⟩ := List.getElem?_eq_some_iff.mp entry
    exact inside
  · obtain ⟨rfl, rfl, _⟩ | ⟨middle, _, old⟩ := Trace.split_snoc split
    · rw [turn] at at_
      cases at_
      exact ⟨channel, entry, outcome⟩
    · exact turns.outcome before other middle position old at_

end Turns

section

variable (channel : Address) (loop : Loop Address)

@[simp] theorem removeChannel_poller : (loop.removeChannel channel).poller = loop.poller := by
  unfold removeChannel
  split <;> rfl

@[simp] theorem removeChannel_ties : (loop.removeChannel channel).ties = loop.ties := by
  unfold removeChannel
  split <;> rfl

@[simp] theorem removeChannel_eventHandling :
    (loop.removeChannel channel).eventHandling = loop.eventHandling := by
  unfold removeChannel
  split <;> rfl

@[simp] theorem removeChannel_position :
    (loop.removeChannel channel).position = loop.position := by
  unfold removeChannel
  split <;> rfl

@[simp] theorem removeChannel_handling :
    (loop.removeChannel channel).handling = loop.handling := by
  unfold removeChannel
  split <;> rfl

@[simp] theorem removeChannel_trace : (loop.removeChannel channel).trace = loop.trace := by
  unfold removeChannel
  split <;> rfl

end

theorem gone_snoc (channel : Address) (trace : List (Event Address)) (event : Event Address) :
    gone channel (trace ++ [event]) =
      if event.expires channel then true else gone channel trace && !event.ties channel :=
  Trace.shut_snoc trace event

/-- What the code that runs in a loop does with it. -/
theorem user_cases {loop next : Loop Address} {action : Action Address}
    (ran : loop.user action = some next) :
    (loop.eventHandling = true → loop.handling.isSome = true) ∧
      loop.handling.map Action.destroy ≠ some action ∧
      (next = loop ∨ ∃ poller, epoll.step loop.poller action = some poller ∧
        epoll.act loop.poller action = some (.ok poller) ∧
        next = { loop with poller }.performed action) := by
  unfold user at ran
  split at ran
  · cases ran
  rename_i inside
  split at ran
  · cases ran
  rename_i alive
  refine ⟨fun batch => ?_, alive, ?_⟩
  · cases handling : loop.handling with
    | none => simp [batch, handling] at inside
    | some channel => rfl
  · split at ran
    · rename_i poller acted
      cases ran
      exact .inr ⟨poller, by rw [Backend.step, acted], acted, rfl⟩
    · cases ran
      exact .inl rfl
    · cases ran

theorem step_user {loop next : Loop Address} {move : Move Address}
    (ran : loop.step move = some next) : next.poller = loop.poller ∨
      ∃ action, move = .user action ∧ epoll.step loop.poller action = some next.poller := by
  cases move with
  | user action =>
      obtain ⟨_, _, rfl | ⟨poller, stepped, _, rfl⟩⟩ := user_cases ran
      · exact .inl rfl
      · refine .inr ⟨action, rfl, ?_⟩
        rw [stepped]
        cases action <;> simp [performed, emit]
  | advance =>
      refine .inl ?_
      obtain ⟨_, ran⟩ := Option.ite_none_right_eq_some.mp ran
      unfold Loop.advance at ran
      split at ran
      · cases ran
        rfl
      · cases ran
        rfl
      · obtain ⟨_, _, rfl⟩ := Option.map_eq_some_iff.mp ran
        split <;> rfl
  | tie | expire | poll | returned =>
      obtain ⟨_, same⟩ := Option.ite_none_right_eq_some.mp ran
      cases same
      exact .inl rfl

/-- Channels that are created with different descriptors keep them. -/
theorem reach_distinct {fdOf : Address → SocketFd} (injective : Function.Injective fdOf)
    {loop : Loop Address} (reachable : Reach step (Created fdOf) {} loop) :
    Reach step Distinct {} loop := by
  suffices kept : Reach step Distinct {} loop ∧ Owned fdOf loop.poller.toPoller from kept.1
  refine @Reach.invariant _ _ _ _ _ (fun loop => Reach step Distinct {} loop ∧
    Owned fdOf loop.poller.toPoller) ⟨.start, by simp [Owned]⟩ ?_ _ reachable
  rintro loop next move ⟨reached, owned⟩ created ran
  have distinct : Distinct loop move := by
    cases move with
    | user action => exact owned.distinct injective action
    | tie | expire | poll | advance | returned => trivial
  refine ⟨.step reached distinct ran, ?_⟩
  obtain same | ⟨action, rfl, stepped⟩ := step_user ran
  · rw [same]
    exact owned
  · exact owned.moved (EPollPoller.assigns.moved stepped) fun address fd is =>
      created address fd (by rw [is])

namespace Dispatching

variable {loop next : Loop Address} {earlier during : List (Event Address)}
  {batch : List Address} {event : Event Address}

/-- An event that is no turn, of a loop that stays where it is in its batch. -/
theorem quiet (dispatching : Dispatching loop earlier batch during) (silent : event.turn = none)
    (going : event ≠ .finished) (eventHandling : next.eventHandling = loop.eventHandling)
    (position : next.position = loop.position) (handling : next.handling = loop.handling)
    (slots : loop.eventHandling = true → next.activeChannels = batch.map fun channel =>
      if .removed channel ∈ during ++ [event] then none else some channel) :
    Dispatching next earlier batch (during ++ [event]) := by
  have taken : next.taken batch = loop.taken batch := by
    rw [Loop.taken, Loop.taken, eventHandling, position, handling]
  refine ⟨?_, fun batching member => ?_, fun batching => ?_⟩
  · rw [taken]
    exact dispatching.turns.quiet silent
  · rw [eventHandling] at batching
    obtain old | new := List.mem_append.mp member
    · exact dispatching.unfinished batching old
    · exact going (List.mem_singleton.mp new).symm
  · exact slots (eventHandling ▸ batching)

theorem poller (dispatching : Dispatching loop earlier batch during)
    (poller : EPollPoller Address) : Dispatching { loop with poller } earlier batch during :=
  ⟨dispatching.turns, dispatching.unfinished, dispatching.slots⟩

/-- An event that removes no channel leaves the entries as they are. -/
theorem slots_kept (dispatching : Dispatching loop earlier batch during)
    (other : ∀ channel, event ≠ .removed channel) (batching : loop.eventHandling = true) :
    loop.activeChannels = batch.map fun channel =>
      if .removed channel ∈ during ++ [event] then none else some channel := by
  rw [dispatching.slots batching]
  refine List.map_congr_left fun channel _ => ?_
  simp [(other channel).symm]

/-- The turn of the channel at the position of the loop. -/
theorem turned (dispatching : Dispatching loop earlier batch during)
    (trace : loop.trace = earlier ++ .polled batch :: during)
    (batching : loop.eventHandling = true) (free : loop.handling = none)
    (turn : event.turn = some loop.position) (outcome : ∀ channel,
      loop.activeChannels[loop.position]? =
        some (if .removed channel ∈ during then none else some channel) →
      event = if .removed channel ∈ during then .passed loop.position
        else if gone channel loop.trace then .skipped loop.position channel
        else .dispatched loop.position channel)
    (inside : loop.position < loop.activeChannels.length)
    (slots : next.activeChannels = loop.activeChannels)
    (began : ∀ batch, next.taken batch = loop.position + 1) :
    Dispatching next earlier batch (during ++ [event]) := by
  have other : ∀ channel, event ≠ .removed channel := by
    intro channel same
    rw [same] at turn
    cases turn
  have taken : loop.taken batch = loop.position := by
    simp [Loop.taken, batching, free]
  have turns := dispatching.turns
  rw [taken] at turns
  refine ⟨?_, fun _ member => ?_, fun _ => ?_⟩
  · have filled := dispatching.slots batching
    rw [filled, List.length_map] at inside
    obtain ⟨channel, entry⟩ : ∃ channel, batch[loop.position]? = some channel :=
      ⟨_, List.getElem?_eq_getElem inside⟩
    rw [began]
    refine turns.take turn entry ?_
    rw [← trace]
    refine outcome channel ?_
    rw [filled, List.getElem?_map, entry]
    rfl
  · obtain old | new := List.mem_append.mp member
    · exact dispatching.unfinished batching old
    · rw [← List.mem_singleton.mp new] at turn
      cases turn
  · rw [slots]
    exact dispatching.slots_kept other batching

/-- The entries of a removed channel are gone. -/
theorem slots_removed (dispatching : Dispatching loop earlier batch during) (channel : Address)
    (batching : loop.eventHandling = true) :
    (loop.removeChannel channel).activeChannels = batch.map fun other =>
      if .removed other ∈ during ++ [.removed channel] then none else some other := by
  rw [removeChannel, if_pos batching]
  simp only [dispatching.slots batching, List.map_map]
  refine List.map_congr_left fun other _ => ?_
  by_cases old : .removed other ∈ during
  · simp [old]
  · by_cases same : other = channel <;> simp [old, same]

end Dispatching

namespace Invariant

variable {loop next : Loop Address}

theorem start : Invariant ({} : Loop Address) where
  consistent := .start
  ties := by simp [gone, Trace.shut]
  idle _ := rfl
  known := by simp
  dispatching := by simp

/-- The batch of the last poll is the same after an event that is no poll. -/
theorem told (invariant : Invariant loop) {event : Event Address}
    (trace : next.trace = loop.trace ++ [event]) (other : event.isPolled = false)
    (kept : ∀ earlier batch during, loop.trace = earlier ++ .polled batch :: during →
      Dispatching loop earlier batch during →
      Dispatching next earlier batch (during ++ [event])) :
    ∀ earlier batch during, next.trace = earlier ++ .polled batch :: during →
      (∀ event ∈ during, event.isPolled = false) → Dispatching next earlier batch during := by
  intro earlier batch during split last
  rw [trace] at split
  obtain ⟨middle, rfl, before⟩ := Trace.split_append split (by
    intro member
    rw [← List.mem_singleton.mp member] at other
    cases other)
  exact kept earlier batch middle before
    (invariant.dispatching earlier batch middle before fun event member =>
      last event (List.mem_append_left _ member))

theorem user (invariant : Invariant loop) {action : Action Address}
    (distinct : Polling.Distinct loop.poller.toPoller action)
    (ran : loop.user action = some next) : Invariant next := by
  obtain ⟨inside, alive, rfl | ⟨poller, stepped, acted, rfl⟩⟩ := user_cases ran
  · exact invariant
  have consistent := invariant.consistent.step distinct stepped
  have known : (∀ channel, action ≠ .remove channel) → loop.eventHandling = true →
      ∀ channel, some channel ∈ loop.activeChannels → ∃ object,
        poller.objects channel = some object ∧ object.channel.addedToLoop = true := by
    intro other batching channel member
    obtain ⟨object, held, added⟩ := invariant.known batching channel member
    exact epoll_added acted held added (other channel)
  cases action with
  | create channel fd =>
      refine ⟨consistent, fun other => ?_, invariant.idle, known (by simp),
        invariant.told rfl rfl fun earlier batch during _ dispatching =>
          dispatching.quiet rfl (by simp) rfl rfl rfl (dispatching.slots_kept (by simp))⟩
      simp only [performed, emit, gone_snoc, Event.expires, Event.ties]
      by_cases same : other = channel
      · simp [same]
      · simp [Function.update_of_ne same, invariant.ties other, Ne.symm same]
  | destroy channel =>
      exact ⟨consistent, invariant.ties, invariant.idle, known (by simp),
        fun earlier batch during split last =>
          (invariant.dispatching earlier batch during split last).poller poller⟩
  | operate channel operation =>
      exact ⟨consistent, invariant.ties, invariant.idle, known (by simp),
        fun earlier batch during split last =>
          (invariant.dispatching earlier batch during split last).poller poller⟩
  | remove channel =>
      refine ⟨?_, fun other => ?_, ?_, fun batching other member => ?_,
        @told _ _ loop _ invariant (.removed channel) (by simp [performed, emit]) rfl
          fun earlier batch during _ dispatching =>
          dispatching.quiet rfl (by simp) (by simp [performed, emit]) (by simp [performed, emit])
            (by simp [performed, emit]) fun batching => ?_⟩
      · simpa [performed, emit] using consistent
      · simpa [performed, emit, gone_snoc, Event.expires, Event.ties] using invariant.ties other
      · simpa [performed, emit] using invariant.idle
      · have batching : loop.eventHandling = true := by simpa [performed, emit] using batching
        have gone : other ≠ channel ∧ some other ∈ loop.activeChannels := by
          simp only [performed, emit, removeChannel, if_pos batching, List.mem_map] at member
          obtain ⟨entry, member, same⟩ := member
          split at same
          · cases same
          · rename_i differs
            subst same
            exact ⟨by simpa using differs, member⟩
        obtain ⟨object, held, added⟩ := invariant.known batching other gone.2
        obtain ⟨object, held, added⟩ := epoll_added acted held added (by simpa using gone.1.symm)
        exact ⟨object, by simpa [performed, emit] using held, added⟩
      · exact (dispatching.poller poller).slots_removed channel batching

theorem tie (invariant : Invariant loop) (channel : Address) :
    Invariant ({ loop with ties := Function.update loop.ties channel (some true) }.emit
      (.tied channel)) := by
  refine ⟨invariant.consistent, fun other => ?_, invariant.idle, invariant.known,
    invariant.told rfl rfl fun earlier batch during _ dispatching =>
      dispatching.quiet rfl (by simp) rfl rfl rfl (dispatching.slots_kept (by simp))⟩
  simp only [emit, gone_snoc, Event.expires, Event.ties]
  by_cases same : other = channel
  · simp [same]
  · simp [Function.update_of_ne same, invariant.ties other, Ne.symm same]

theorem expire (invariant : Invariant loop) (channel : Address) :
    Invariant ({ loop with ties := Function.update loop.ties channel (some false) }.emit
      (.expired channel)) := by
  refine ⟨invariant.consistent, fun other => ?_, invariant.idle, invariant.known,
    invariant.told rfl rfl fun earlier batch during _ dispatching =>
      dispatching.quiet rfl (by simp) rfl rfl rfl (dispatching.slots_kept (by simp))⟩
  simp only [emit, gone_snoc, Event.expires, Event.ties]
  by_cases same : other = channel
  · simp [same]
  · simp [Function.update_of_ne same, invariant.ties other, Ne.symm same]

/-- The channels that the kernel reports are different and in the loop. -/
theorem poll (invariant : Invariant loop) {ready : List SocketFd} (nodup : ready.Nodup)
    (idle : loop.eventHandling = false) :
    Invariant ({ loop with
      activeChannels := (fillActiveChannels ready loop.poller).map some,
      eventHandling := true, position := 0 }.emit
        (.polled (fillActiveChannels ready loop.poller))) := by
  have reported : ∀ fd channel, (loop.poller.kernel fd).map Prod.snd = some channel →
      ∃ object, loop.poller.objects channel = some object ∧ object.fd = fd ∧
        object.channel.addedToLoop = true := by
    intro fd channel registered
    obtain ⟨⟨events, _⟩, kernel, rfl⟩ := Option.map_eq_some_iff.mp registered
    by_contra unowned
    have unregistered := (invariant.consistent.vacant fd
      fun address object held inLoop same => ?_).2
    · rw [kernel] at unregistered
      cases unregistered
    · have entry := (invariant.consistent.entry address object held inLoop).registered
      rw [same, kernel] at entry
      split at entry
      · cases entry
        exact unowned ⟨object, held, same, inLoop⟩
      · cases entry
  have once : (fillActiveChannels ready loop.poller).Nodup := by
    refine nodup.filterMap fun fd other channel onFirst onSecond => ?_
    obtain ⟨object, held, rfl, _⟩ := reported fd channel onFirst
    obtain ⟨object', held', rfl, _⟩ := reported other channel onSecond
    rw [Option.some.inj (held.symm.trans held')]
  refine ⟨invariant.consistent, fun channel => ?_, by simp [emit], fun _ channel member => ?_,
    fun earlier batch during split last => ?_⟩
  · simpa [emit, gone_snoc, Event.expires, Event.ties] using invariant.ties channel
  · obtain ⟨_, member, same⟩ := List.mem_map.mp member
    cases same
    obtain ⟨fd, _, registered⟩ := List.mem_filterMap.mp member
    obtain ⟨object, held, _, added⟩ := reported fd channel registered
    exact ⟨object, held, added⟩
  · obtain ⟨rfl, same, rfl⟩ | ⟨middle, rfl, _⟩ := Trace.split_snoc split
    · cases same
      refine ⟨⟨once, ?_, ?_, by simp⟩, by simp, ?_⟩
      · simp [taken, emit, invariant.idle idle]
      · simp [taken, emit, invariant.idle idle]
      · intro _
        simp [emit]
    · have polled := last _ (List.mem_append_right _ List.mem_cons_self)
      cases polled

theorem advance (invariant : Invariant loop) (batching : loop.eventHandling = true)
    (free : loop.handling = none) (ran : loop.advance = some next) : Invariant next := by
  have taken : ∀ batch, loop.taken batch = loop.position := by
    intro batch
    simp [Loop.taken, batching, free]
  unfold Loop.advance at ran
  split at ran
  · rename_i past
    cases ran
    refine ⟨invariant.consistent, fun channel => ?_, fun _ => free, by simp [emit],
      invariant.told rfl rfl fun earlier batch during _ dispatching => ?_⟩
    · simpa [emit, gone_snoc, Event.expires, Event.ties] using invariant.ties channel
    · have all : loop.position = batch.length := by
        have bound := dispatching.turns.bound
        have beyond := List.getElem?_eq_none_iff.mp past
        rw [dispatching.slots batching, List.length_map] at beyond
        rw [taken] at bound
        omega
      have turns := @Turns.quiet _ _ _ _ _ _ .finished dispatching.turns rfl
      rw [taken, all] at turns
      exact ⟨turns, by simp [emit], by simp [emit]⟩
  · rename_i entry
    cases ran
    refine ⟨invariant.consistent, fun channel => ?_, fun _ => free, invariant.known,
      invariant.told rfl rfl fun earlier batch during trace dispatching => ?_⟩
    · simpa [emit, gone_snoc, Event.expires, Event.ties] using invariant.ties channel
    · refine dispatching.turned trace batching free rfl (fun channel held => ?_)
        (List.getElem?_eq_some_iff.mp entry).1 rfl
        fun _ => by simp [Loop.taken, emit, batching, free]
      rw [entry] at held
      split at held
      · rename_i removed
        rw [if_pos removed]
      · cases held
  · rename_i channel entry
    obtain ⟨object, _, rfl⟩ := Option.map_eq_some_iff.mp ran
    have at_ : ∀ {during : List (Event Address)} {other : Address}, some (some channel) =
        some (if Event.removed other ∈ during then none else some other) →
        Event.removed other ∉ during ∧ other = channel := by
      intro during other held
      split at held
      · cases held
      · cases held
        exact ⟨‹_›, rfl⟩
    split
    · rename_i expired
      refine ⟨invariant.consistent, fun other => ?_, fun _ => free, invariant.known,
        invariant.told rfl rfl fun earlier batch during trace dispatching =>
          dispatching.turned trace batching free rfl (fun other held => ?_)
            (List.getElem?_eq_some_iff.mp entry).1 rfl
            fun _ => by simp [Loop.taken, emit, batching, free]⟩
      · simpa [emit, gone_snoc, Event.expires, Event.ties] using invariant.ties other
      · obtain ⟨kept, rfl⟩ := at_ (entry.symm.trans held)
        rw [if_neg kept, if_pos ((invariant.ties _).mp expired)]
    · rename_i alive
      refine ⟨invariant.consistent, fun other => ?_, by simp [emit, batching], invariant.known,
        invariant.told rfl rfl fun earlier batch during trace dispatching =>
          dispatching.turned trace batching free rfl (fun other held => ?_)
            (List.getElem?_eq_some_iff.mp entry).1 rfl
            fun _ => by simp [Loop.taken, emit, batching]⟩
      · simpa [emit, gone_snoc, Event.expires, Event.ties] using invariant.ties other
      · obtain ⟨kept, rfl⟩ := at_ (entry.symm.trans held)
        rw [if_neg kept, if_neg fun gone => alive ((invariant.ties _).mpr gone)]

theorem returned (invariant : Invariant loop) {channel : Address}
    (handling : loop.handling = some channel) :
    Invariant { loop with handling := none, position := loop.position + 1 } := by
  refine ⟨invariant.consistent, invariant.ties, by simp, invariant.known,
    fun earlier batch during split last => ?_⟩
  obtain ⟨turns, unfinished, slots⟩ := invariant.dispatching earlier batch during split last
  refine ⟨?_, unfinished, slots⟩
  have same : taken { loop with handling := none, position := loop.position + 1 } batch =
      loop.taken batch := by
    simp [taken, handling]
  rw [same]
  exact turns

theorem step (invariant : Invariant loop) {move : Move Address} (distinct : loop.Distinct move)
    (ran : loop.step move = some next) : Invariant next := by
  cases move with
  | user action => exact invariant.user distinct ran
  | tie channel =>
      obtain ⟨_, same⟩ := Option.ite_none_right_eq_some.mp ran
      cases same
      exact invariant.tie channel
  | expire channel =>
      obtain ⟨_, same⟩ := Option.ite_none_right_eq_some.mp ran
      cases same
      exact invariant.expire channel
  | poll ready =>
      obtain ⟨⟨idle, nodup, _⟩, same⟩ := Option.ite_none_right_eq_some.mp ran
      cases same
      exact invariant.poll nodup (by simpa using idle)
  | advance =>
      obtain ⟨free, ran⟩ := Option.ite_none_right_eq_some.mp ran
      obtain ⟨batching, free⟩ := Bool.and_eq_true_iff.mp free
      exact invariant.advance batching (Option.isNone_iff_eq_none.mp free) ran
  | returned =>
      obtain ⟨handling, same⟩ := Option.ite_none_right_eq_some.mp ran
      obtain ⟨channel, handling⟩ := Option.isSome_iff_exists.mp handling
      cases same
      exact invariant.returned handling

theorem reach (reachable : Reach Loop.step Distinct {} loop) : Invariant loop :=
  reachable.invariant start fun _ _ _ invariant distinct ran => invariant.step distinct ran

end Invariant

/-- Each channel of a batch has one turn, in their order, and handles its event then unless
it was removed before or the object that it is tied to is gone. The loop never stops at a
channel that is gone. -/
theorem batch_dispatched {loop : Loop Address} (reachable : Reach step Distinct {} loop) :
    (∀ earlier batch during, loop.trace = earlier ++ .polled batch :: during →
      (∀ event ∈ during, event.isPolled = false) →
      ∃ taken, Turns earlier batch during taken ∧
        (loop.eventHandling = false ∨ .finished ∈ during → taken = batch.length)) ∧
    (loop.eventHandling = true → loop.handling = none →
      ∃ next, loop.step .advance = some next) := by
  have invariant := Invariant.reach reachable
  refine ⟨fun earlier batch during split last => ?_, fun batching free => ?_⟩
  · have dispatching := invariant.dispatching earlier batch during split last
    refine ⟨loop.taken batch, dispatching.turns, fun ended => ?_⟩
    have ended : loop.eventHandling = false := by
      refine ended.elim id fun finished => ?_
      by_contra batching
      exact dispatching.unfinished (by simpa using batching) finished
    simp [taken, ended]
  · simp only [step, batching, free, Option.isNone_none, Bool.and_self, if_true]
    unfold advance
    split
    · exact ⟨_, rfl⟩
    · exact ⟨_, rfl⟩
    · rename_i channel entry
      obtain ⟨object, held, _⟩ := invariant.known batching channel (List.mem_of_getElem? entry)
      rw [held]
      exact ⟨_, rfl⟩

/-- The first channel removes the second one and registers it again. -/
theorem batch_dispatched_removed :
    ∃ loop : Loop Nat, run step {} [.user (.create 0 3), .user (.create 1 4),
      .user (.operate 0 .enableReading), .user (.operate 1 .enableReading), .poll [3, 4], .advance,
      .user (.operate 1 .disableAll), .user (.remove 1), .user (.operate 1 .enableReading),
      .returned, .advance, .advance] = some loop ∧ loop.poller.waits 4 = true ∧
      ∃ taken, Turns [.created 0, .created 1] [0, 1]
        [.dispatched 0 0, .removed 1, .passed 1, .finished] taken ∧ taken = 2 := by
  have created : Reach step (Created fun address : Nat => (address + 3 : Int)) {} _ :=
    @Reach.run _ _ _ _ _ [.user (.create 0 3), .user (.create 1 4),
      .user (.operate 0 .enableReading), .user (.operate 1 .enableReading), .poll [3, 4], .advance,
      .user (.operate 1 .disableAll), .user (.remove 1), .user (.operate 1 .enableReading),
      .returned, .advance, .advance] _ _ .start (by simp [Created]) rfl
  have reachable := reach_distinct (by intro first second same; simpa using same) created
  obtain ⟨taken, turns, complete⟩ := (batch_dispatched reachable).1 [.created 0, .created 1] [0, 1]
    [.dispatched 0 0, .removed 1, .passed 1, .finished] rfl (by decide)
  exact ⟨_, rfl, rfl, taken, turns, complete (.inr (by decide))⟩

end Loop

end MiniTrantor.Net.Polling
