import MiniTrantor.Net.Poller.Poller
import MiniTrantor.Reachability

/-!
# Registration with epoll

The index of a channel says whether its descriptor is in the map of the poller and
whether it is registered with the kernel, so no call of `epoll_ctl` is refused.
-/

set_option autoImplicit false

namespace MiniTrantor.Net.Polling

variable {Address : Type} [DecidableEq Address] {state next : EPollPoller Address}
  {address : Address} {object changed : Object}

/-- What the map and the kernel hold for a channel. -/
structure Entry (state : EPollPoller Address) (address : Address) (object : Object) : Prop where
  listed : state.channels object.fd = if object.index = .kNew then none else some address
  registered : state.kernel object.fd =
    if object.index = .kAdded then some (toEpollEvents object.channel.events, address) else none

omit [DecidableEq Address] in
theorem Entry.same (entry : Entry state address object)
    (channels : next.channels object.fd = state.channels object.fd)
    (kernel : next.kernel object.fd = state.kernel object.fd) : Entry next address object :=
  ⟨channels.trans entry.listed, kernel.trans entry.registered⟩

/-- What is held for the channels in the loop, and nothing else. -/
structure Consistent (state : EPollPoller Address) : Prop where
  added : ∀ address object, state.objects address = some object →
    (object.channel.addedToLoop = true ↔ object.index ≠ .kNew)
  entry : ∀ address object, state.objects address = some object →
    object.channel.addedToLoop = true → Entry state address object
  vacant : ∀ fd, (∀ address object, state.objects address = some object →
    object.channel.addedToLoop = true → object.fd ≠ fd) →
    state.channels fd = none ∧ state.kernel fd = none

namespace Consistent

omit [DecidableEq Address] in
theorem start : Consistent ({} : EPollPoller Address) := by
  constructor <;> simp

omit [DecidableEq Address] in
/-- The map holds one channel for a descriptor. -/
theorem sole (consistent : Consistent state) (held : state.objects address = some object)
    (inLoop : object.channel.addedToLoop = true) : Sole state.toPoller address object := by
  intro other found holds differs foundInLoop sameFd
  have listed := (consistent.entry address object held inLoop).listed
  have listedOther := (consistent.entry other found holds foundInLoop).listed
  rw [if_neg ((consistent.added address object held).mp inLoop)] at listed
  rw [if_neg ((consistent.added other found holds).mp foundInLoop), sameFd, listed] at listedOther
  exact differs (Option.some.inj listedOther).symm

omit [DecidableEq Address] in
/-- Nothing is held for a channel that was removed, unless another has its descriptor. -/
theorem kept (consistent : Consistent state) (held : state.objects address = some object)
    (sole : Sole state.toPoller address object) : Entry state address object := by
  by_cases inLoop : object.channel.addedToLoop = true
  · exact consistent.entry address object held inLoop
  · have new : object.index = .kNew := by
      by_contra index
      exact inLoop ((consistent.added address object held).mpr index)
    obtain ⟨unlisted, unregistered⟩ := consistent.vacant object.fd
      fun other found holds foundInLoop => sole other found holds
        (fun same => by
          subst same
          cases held.symm.trans holds
          exact inLoop foundInLoop) foundInLoop
    exact ⟨by rw [unlisted, if_pos new], by rw [unregistered, if_neg (by simp [new])]⟩

/-- Everything else stays as it is when a channel and what is held for it change. -/
theorem put (consistent : Consistent state) (held : state.objects address = some object)
    (sole : Sole state.toPoller address object)
    (objects : next.objects = Function.update state.objects address (some changed))
    (same : changed.fd = object.fd)
    (channels : ∀ fd, fd ≠ object.fd → next.channels fd = state.channels fd)
    (kernel : ∀ fd, fd ≠ object.fd → next.kernel fd = state.kernel fd)
    (entry : Entry next address changed)
    (added : changed.channel.addedToLoop = true ↔ changed.index ≠ .kNew) : Consistent next := by
  have other : ∀ {location other}, location ≠ address → next.objects location = some other →
      state.objects location = some other := by
    intro location other differs found
    rwa [objects, Function.update_of_ne differs] at found
  have here : next.objects address = some changed := by
    rw [objects, Function.update_self]
  refine ⟨fun location found holds => ?_, fun location found holds inLoop => ?_,
    fun fd unused => ?_⟩
  · by_cases differs : location = address
    · subst differs
      cases here.symm.trans holds
      exact added
    · exact consistent.added location found (other differs holds)
  · by_cases differs : location = address
    · subst differs
      cases here.symm.trans holds
      exact entry
    · have before := other differs holds
      have apart := sole location found before differs inLoop
      exact (consistent.entry location found before inLoop).same (channels _ apart)
        (kernel _ apart)
  · by_cases own : fd = object.fd
    · have removed : changed.index = .kNew := by
        by_contra index
        exact unused address changed here (added.mpr index) (same.trans own.symm)
      rw [own, ← same, entry.listed, entry.registered, if_pos removed, if_neg (by simp [removed])]
      exact ⟨rfl, rfl⟩
    · rw [channels fd own, kernel fd own]
      refine consistent.vacant fd fun location found holds inLoop => ?_
      by_cases differs : location = address
      · subst differs
        cases held.symm.trans holds
        exact Ne.symm own
      · refine unused location found ?_ inLoop
        rw [objects, Function.update_of_ne differs]
        exact holds

/-- An update is accepted by the kernel. -/
theorem updateChannel (consistent : Consistent state) (held : state.objects address = some object)
    (sole : Sole state.toPoller address object) {channel : Channel}
    (added : channel.addedToLoop = true) :
    ∃ next, state.updateChannel address { object with channel } = .ok next ∧ Consistent next := by
  obtain ⟨listed, registered⟩ := consistent.kept held sole
  cases index : object.index with
  | kNew =>
      rw [if_neg (by simp [index])] at registered
      refine ⟨_, by simp only [EPollPoller.updateChannel, EPollPoller.update,
        EPollPoller.set, epollCtl, registered]; rfl, ?_⟩
      refine consistent.put held sole rfl rfl (fun fd apart => Function.update_of_ne apart _ _)
        (fun fd apart => Function.update_of_ne apart _ _) ⟨?_, ?_⟩ ?_
      · simp
      · simp
      · simpa using added
  | kDeleted =>
      rw [if_neg (by simp [index])] at registered
      rw [if_neg (by simp [index])] at listed
      refine ⟨_, by simp only [EPollPoller.updateChannel, EPollPoller.update,
        EPollPoller.set, epollCtl, registered]; rfl, ?_⟩
      refine consistent.put held sole rfl rfl (fun fd apart => rfl)
        (fun fd apart => Function.update_of_ne apart _ _) ⟨?_, ?_⟩ ?_
      · simpa using listed
      · simp
      · simpa using added
  | kAdded =>
      rw [if_pos index] at registered
      rw [if_neg (by simp [index])] at listed
      by_cases empty : channel.isNoneEvent = true
      · refine ⟨_, by simp only [EPollPoller.updateChannel, EPollPoller.update,
          EPollPoller.set, epollCtl, registered, empty, if_true]; rfl, ?_⟩
        refine consistent.put held sole rfl rfl (fun fd apart => rfl)
          (fun fd apart => Function.update_of_ne apart _ _) ⟨?_, ?_⟩ ?_
        · simpa using listed
        · simp
        · simpa using added
      · refine ⟨_, by simp only [EPollPoller.updateChannel, EPollPoller.update,
          EPollPoller.set, epollCtl, registered, empty, Bool.false_eq_true, if_false]; rfl, ?_⟩
        refine consistent.put held sole rfl rfl (fun fd apart => rfl)
          (fun fd apart => Function.update_of_ne apart _ _) ⟨?_, ?_⟩ ?_
        · simpa [index] using listed
        · simp
        · simpa using added

/-- So is a removal. -/
theorem removeChannel (consistent : Consistent state) (held : state.objects address = some object)
    (sole : Sole state.toPoller address object) {channel : Channel}
    (removed : channel.addedToLoop = false) :
    ∃ next, state.removeChannel address { object with channel } = .ok next ∧ Consistent next := by
  obtain ⟨listed, registered⟩ := consistent.kept held sole
  by_cases index : object.index = .kAdded
  · rw [if_pos index] at registered
    refine ⟨_, by simp only [EPollPoller.removeChannel, index, EPollPoller.update,
      EPollPoller.set, epollCtl, registered, if_true]; rfl, ?_⟩
    refine consistent.put held sole rfl rfl (fun fd apart => Function.update_of_ne apart _ _)
      (fun fd apart => Function.update_of_ne apart _ _) ⟨?_, ?_⟩ ?_
    · simp
    · simp
    · simpa using removed
  · rw [if_neg index] at registered
    refine ⟨_, by simp only [EPollPoller.removeChannel, index, EPollPoller.set, if_false]; rfl, ?_⟩
    refine consistent.put held sole rfl rfl (fun fd apart => Function.update_of_ne apart _ _)
      (fun fd apart => rfl) ⟨?_, ?_⟩ ?_
    · simp
    · simpa using registered
    · simpa using removed

theorem create (consistent : Consistent state) {fd : SocketFd}
    (absent : state.objects address = none) :
    Consistent (epoll.withPoller (state.toPoller.set address (some { fd })) state) := by
  have other : ∀ {location object}, Function.update state.objects address (some { fd }) location =
      some object → object = { fd } ∨ state.objects location = some object := by
    intro location object found
    by_cases same : location = address
    · rw [same, Function.update_self] at found
      exact .inl (Option.some.inj found).symm
    · rw [Function.update_of_ne same] at found
      exact .inr found
  refine ⟨fun location object found => ?_, fun location object found inLoop => ?_,
    fun unused absence => ?_⟩
  · obtain rfl | before := other found
    · simp
    · exact consistent.added location object before
  · obtain rfl | before := other found
    · cases inLoop
    · exact (consistent.entry location object before inLoop).same rfl rfl
  · refine consistent.vacant unused fun location object found => absence location object ?_
    have differs : location ≠ address := by
      intro same
      rw [same, absent] at found
      cases found
    simpa [epoll, Function.update_of_ne differs] using found

/-- A channel that is destroyed was removed before. -/
theorem destroy (consistent : Consistent state) (held : state.objects address = some object)
    (removed : object.channel.addedToLoop = false) :
    Consistent (epoll.withPoller (state.toPoller.set address none) state) := by
  have before : ∀ {location other}, Function.update state.objects address none location =
      some other → state.objects location = some other := by
    intro location other found
    by_cases same : location = address
    · rw [same, Function.update_self] at found
      cases found
    · rwa [Function.update_of_ne same] at found
  refine ⟨fun location other found => consistent.added location other (before found),
    fun location other found inLoop =>
      (consistent.entry location other (before found) inLoop).same rfl rfl,
    fun fd unused => consistent.vacant fd fun location other found inLoop => ?_⟩
  have differs : location ≠ address := by
    intro same
    subst same
    cases held.symm.trans found
    rw [removed] at inLoop
    cases inLoop
  refine unused location other ?_ inLoop
  simpa [epoll, Function.update_of_ne differs] using found

/-- Whatever is done with a channel is done with the kernel, or throws before it. -/
theorem act (consistent : Consistent state) {action : Action Address}
    (distinct : Distinct state.toPoller action) {outcome : Except Failure (EPollPoller Address)}
    (taken : epoll.act state action = some outcome) :
    (∃ next, outcome = .ok next ∧ Consistent next) ∨
      (∃ message, outcome = .error (.runtimeError message)) ∨
      ∃ message, outcome = .error (.fatal message) := by
  cases action with
  | create address fd =>
      cases held : state.objects address with
      | some object => simp [Backend.act, epoll, held] at taken
      | none =>
          have created := @create _ _ _ _ consistent fd held
          simp only [Backend.act, epoll, held, Option.some.injEq] at taken
          exact .inl ⟨_, taken.symm, created⟩
  | destroy address =>
      obtain ⟨object, held, result⟩ := Option.map_eq_some_iff.mp taken
      by_cases added : object.channel.addedToLoop = true
      · rw [if_pos added] at result
        exact .inr (.inr ⟨_, result.symm⟩)
      · rw [if_neg added] at result
        exact .inl ⟨_, result.symm, consistent.destroy held (eq_false_of_ne_true added)⟩
  | operate address operation =>
      obtain ⟨object, held, result⟩ := Option.map_eq_some_iff.mp taken
      have added : (operation.perform object.channel).addedToLoop = true := by
        cases operation <;> rfl
      obtain ⟨next, ran, kept⟩ := consistent.updateChannel held (distinct object held) added
      exact .inl ⟨next, result.symm.trans ran, kept⟩
  | remove address =>
      obtain ⟨object, held, result⟩ := Option.map_eq_some_iff.mp taken
      by_cases empty : object.channel.isNoneEvent = true
      · simp only [Channel.remove, empty, if_true] at result
        obtain ⟨next, ran, kept⟩ := consistent.removeChannel held (distinct object held)
          (rfl : { object.channel with addedToLoop := false }.addedToLoop = false)
        exact .inl ⟨next, result.symm.trans ran, kept⟩
      · simp only [Channel.remove, if_neg empty] at result
        exact .inr (.inl ⟨_, result.symm⟩)

theorem step (consistent : Consistent state) {action : Action Address}
    (distinct : Distinct state.toPoller action)
    (ran : epoll.step state action = some next) : Consistent next := by
  obtain taken | ⟨_, rfl⟩ := epoll.step_eq ran
  · obtain ⟨after, same, kept⟩ | ⟨message, same⟩ | ⟨message, same⟩ :=
      consistent.act distinct taken <;> cases same
    exact kept
  · exact consistent

theorem reach (reachable : Reach epoll.step (fun state => Distinct state.toPoller) {} state) :
    Consistent state :=
  reachable.invariant start fun _ _ _ consistent distinct taken => consistent.step distinct taken

end Consistent

/-- Every call of `epoll_ctl` is valid. The kernel holds what the channels ask for, and the
map holds the channels that were not removed. -/
theorem registration_consistent
    (reachable : Reach epoll.step (fun state => Distinct state.toPoller) {} state) :
    (∀ action, Distinct state.toPoller action → ∀ call,
      epoll.act state action ≠ some (.error (.epollDie call))) ∧
    (∀ address object, state.objects address = some object → Sole state.toPoller address object →
      (object.index = .kAdded ↔ (state.kernel object.fd).isSome) ∧
      ∀ events registered, state.kernel object.fd = some (events, registered) →
        events = toEpollEvents object.channel.events ∧ registered = address) ∧
    (∀ address object, state.objects address = some object →
      object.channel.addedToLoop = true → Sole state.toPoller address object) ∧
    (∀ fd, (state.kernel fd).isSome → ∃ address object,
      state.objects address = some object ∧ object.fd = fd ∧ object.index = .kAdded) ∧
    ∀ fd address, state.channels fd = some address ↔
      ∃ object, state.objects address = some object ∧ object.fd = fd ∧ object.index ≠ .kNew := by
  have consistent := Consistent.reach reachable
  have owner : ∀ fd, state.channels fd ≠ none ∨ state.kernel fd ≠ none →
      ∃ address object, state.objects address = some object ∧ object.fd = fd ∧
        object.channel.addedToLoop = true := by
    intro fd held
    by_contra nobody
    obtain ⟨unlisted, unregistered⟩ := consistent.vacant fd
      fun address object held inLoop same => nobody ⟨address, object, held, same, inLoop⟩
    exact held.elim (absurd unlisted) (absurd unregistered)
  refine ⟨fun action distinct call died => ?_, fun address object held sole => ?_,
    fun address object held inLoop => consistent.sole held inLoop,
    fun fd registered => ?_, fun fd address => ⟨fun listed => ?_, ?_⟩⟩
  · obtain ⟨next, same, _⟩ | ⟨message, same⟩ | ⟨message, same⟩ := consistent.act distinct died <;>
      cases same
  · have registered := (consistent.kept held sole).registered
    rw [registered]
    by_cases index : object.index = .kAdded
    · simp [index]
    · simp [index]
  · obtain ⟨address, object, held, rfl, inLoop⟩ :=
      owner fd (.inr (Option.isSome_iff_ne_none.mp registered))
    have entry := (consistent.entry address object held inLoop).registered
    refine ⟨address, object, held, rfl, ?_⟩
    by_contra index
    rw [entry, if_neg index] at registered
    cases registered
  · obtain ⟨location, object, held, rfl, inLoop⟩ := owner fd (.inl (by simp [listed]))
    have index := (consistent.added location object held).mp inLoop
    have entry := (consistent.entry location object held inLoop).listed
    rw [listed, if_neg index] at entry
    cases entry
    exact ⟨object, held, rfl, index⟩
  · rintro ⟨object, held, rfl, index⟩
    have inLoop := (consistent.added address object held).mpr index
    rw [(consistent.entry address object held inLoop).listed, if_neg index]

/-- The descriptor goes from a channel that was removed to the next. -/
theorem registration_consistent_reading :
    ∃ (state : EPollPoller Nat) (object : Object), state.objects 1 = some object ∧
      (state.objects 0).map Object.fd = some object.fd ∧
      object.channel.isReading = true ∧ (state.kernel object.fd).isSome := by
  have connecting :
      Reach epoll.step (fun state : EPollPoller Nat => Distinct state.toPoller) {} _ :=
    @Reach.step _ _ _ _ _ _ _ (.operate 0 .enableWriting)
      (@Reach.step _ _ _ _ _ _ _ (.create 0 3) .start trivial rfl)
      (fun _ _ => .alone fun other differs => Function.update_of_ne differs _ _) rfl
  have removed : Reach epoll.step (fun state : EPollPoller Nat => Distinct state.toPoller) {} _ :=
    @Reach.step _ _ _ _ _ _ _ (.remove 0)
      (@Reach.step _ _ _ _ _ _ _ (.operate 0 .disableAll) connecting
        (fun _ _ => .alone fun other differs => by simp [EPollPoller.set, epoll, differs]) rfl)
      (fun _ _ => .alone fun other differs => by simp [EPollPoller.set, epoll, differs]) rfl
  have reachable : Reach epoll.step (fun state : EPollPoller Nat => Distinct state.toPoller) {} _ :=
    @Reach.step _ _ _ _ _ _ _ (.operate 1 .enableReading)
      (@Reach.step _ _ _ _ _ _ _ (.create 1 3) removed trivial rfl)
      (fun _ _ other found holds differs inLoop => by
        by_cases first : other = 0
        · subst first
          cases holds
          cases inLoop
        · simp [EPollPoller.set, epoll, differs, first] at holds) rfl
  have consistent := registration_consistent reachable
  exact ⟨_, _, rfl, rfl, rfl,
    (consistent.2.1 1 _ rfl (consistent.2.2.1 1 _ rfl rfl)).1.mp rfl⟩

end MiniTrantor.Net.Polling
