import MiniTrantor.Net.Server.Desk

/-!
# Graceful drain

Once `stop(Duration)` has run on a server that was started, the server drains until the
last connection is removed or the timer expires, and then the pool is stopped, once.
-/

set_option autoImplicit false

namespace MiniTrantor.Net.TcpServer

variable {server middle next : TcpServer} {loop : Loop} {id : Nat}

/-- Events that tell how far the server is. -/
def Event.isMilestone : Event → Bool
  | .inserted _ | .drained _ | .poolStop => true
  | _ => false

def milestones (server : TcpServer) : List Event := server.trace.filter Event.isMilestone

/-- Whether a loop over connections is that of the destructor. -/
def Frame.destructs? : Frame → Option Bool
  | .forceClosing _ => some false
  | .destructing _ => some true
  | _ => none

/-- The loops over connections that the base thread is in. -/
def listings (server : TcpServer) : List Bool := server.base.filterMap Frame.destructs?

/-- The server is in the same phase. -/
structure Alike (server next : TcpServer) : Prop where
  started : next.started = server.started
  stopped : next.stopped = server.stopped
  draining : next.draining = server.draining
  lifetime : next.lifetimeToken = server.lifetimeToken

/-- What a step does to the course of the server. -/
inductive Course (server next : TcpServer) : Prop where
  | quiet (alike : Alike server next) (milestones : next.milestones = server.milestones)
      (listings : next.listings = server.listings)
  | started (unstarted : server.started = false) (callable : server.callable .base = true)
      (started : next.started = true) (lifetime : next.lifetimeToken = server.lifetimeToken)
      (listings : next.listings = server.listings)
  | inserted (running : server.stopped = false) (alike : Alike server next)
      (listings : next.listings = server.listings)
  | stopped (running : server.stopped = false) (started : next.started = server.started)
      (lifetime : next.lifetimeToken = server.lifetimeToken)
      (listings : next.listings = false :: server.listings ∨ next.listings = server.listings)
  | destroyed (callable : server.callable .base = true) (started : next.started = server.started)
      (halted : Halted next) (lifetime : next.lifetimeToken = false)
      (milestones : next.milestones = server.milestones)
  | timeout (drained : Drained server next) (started : next.started = server.started)
      (lifetime : next.lifetimeToken = server.lifetimeToken)
      (milestones : next.milestones = server.milestones ++ [.drained .timeout])
      (listings : server.listings = [] ∧ next.listings = [false])
  | removal (drained : Drained server next) (started : next.started = server.started)
      (lifetime : next.lifetimeToken = server.lifetimeToken)
      (milestones : next.milestones = server.milestones ++ [.drained .removal, .poolStop])
      (listings : next.listings = server.listings)
  | joining {destructs : Bool} (alike : Alike server next)
      (milestones : next.milestones = server.milestones ++ [.poolStop])
      (listings : server.listings = destructs :: next.listings)

theorem Alike.of_desk (same : next.desk = server.desk) : Alike server next :=
  ⟨(congrArg TcpServer.started same :), (congrArg TcpServer.stopped same :),
    (congrArg TcpServer.draining same :), (congrArg lifetimeToken same :)⟩

theorem Alike.trans (first : Alike server middle) (second : Alike middle next) :
    Alike server next :=
  ⟨second.started.trans first.started, second.stopped.trans first.stopped,
    second.draining.trans first.draining, second.lifetime.trans first.lifetime⟩

theorem milestones_append {events : List Event} (trace : next.trace = server.trace ++ events) :
    next.milestones = server.milestones ++ events.filter Event.isMilestone := by
  rw [milestones, trace, List.filter_append]
  rfl

theorem listings_append {frames : List Frame} (stack : next.base = frames ++ server.base) :
    next.listings = frames.filterMap Frame.destructs? ++ server.listings := by
  rw [listings, stack, List.filterMap_append]
  rfl

/-- What is done with a connection is none of the milestones, and no loop over connections. -/
theorem Does.quiet {marks : List Mark} (does : Does loop id marks middle next) :
    next.milestones = middle.milestones ∧ next.listings = middle.listings := by
  obtain ⟨elsewhere, here⟩ := does.stack
  obtain ⟨_, events, acts, _, onLoop, _⟩ := does
  constructor
  · rw [milestones_append acts.trace, List.append_right_eq_self, List.filter_eq_nil_iff]
    intro event member
    rcases onLoop event member with rfl | rfl <;> simp [Event.isMilestone]
  · by_cases base : loop = .base
    · obtain ⟨frames, ofId, stack⟩ := here base
      rw [listings_append stack, List.append_left_eq_self, List.filterMap_eq_nil_iff]
      intro frame member
      have own := (ofId frame member).1
      cases frame <;> simp_all [Frame.isOf, Frame.destructs?]
    · rw [listings, listings, elsewhere base]

/-- So it is also when it is posted. -/
theorem runInLoop_quiet {functor : Functor} {run : TcpServer → TcpServer} {marks : List Mark}
    (does : Does .base id marks middle (run middle)) :
    (middle.runInLoop id functor run).milestones = middle.milestones ∧
      (middle.runInLoop id functor run).listings = middle.listings := by
  unfold runInLoop
  split
  · exact does.quiet
  case h_2 index _ =>
    have other : Loop.worker index ≠ .base := by simp
    refine ⟨rfl, ?_⟩
    rw [listings, listings, base_onThread other]

namespace Course

theorem does {marks : List Mark} (does : Does loop id marks middle next) (alike : Alike server middle)
    (milestones : middle.milestones = server.milestones) (listings : middle.listings = server.listings) :
    Course server next := by
  obtain ⟨told, listed⟩ := does.quiet
  exact .quiet (alike.trans (.of_desk does.desk)) (told.trans milestones) (listed.trans listings)

/-- Of what a frame lists there is one less when it is popped. -/
theorem pop {frame : Frame} {rest : List Frame} (top : server.base = frame :: rest) :
    server.listings = [frame].filterMap Frame.destructs? ++
      (server.onThread .base Thread.pop).listings := by
  rw [listings, listings, pop_base top, top, ← List.filterMap_append]
  rfl

theorem popped {frame : Frame} {rest : List Frame} (top : (server.threads loop).stack = frame :: rest)
    (plain : frame.destructs? = none) :
    (server.onThread loop Thread.pop).listings = server.listings := by
  by_cases here : loop = .base
  · subst here
    rw [pop top, List.filterMap_cons_none plain, List.filterMap_nil, List.nil_append]
  · rw [listings, listings, base_onThread here]

theorem taken (loop : Loop) (server : TcpServer) :
    (server.onThread loop Thread.take).listings = server.listings := by
  rw [listings, listings, base, base, onThread_threads]
  split
  case isTrue here =>
    subst here
    rfl
  case isFalse => rfl

theorem push (frame : Frame) (server : TcpServer) :
    (server.push .base frame).listings =
      [frame].filterMap Frame.destructs? ++ server.listings :=
  listings_append (Evolves.push frame server)

theorem stopPool (destructor : Bool) (server : TcpServer) :
    (server.stopPool destructor).milestones = server.milestones ++ [.poolStop] ∧
      (server.stopPool destructor).listings = server.listings := by
  have joining : (server.stopPool destructor).base = [.joining destructor] ++ server.base :=
    Evolves.stopPool destructor server
  exact ⟨@milestones_append server _ [.poolStop] rfl, listings_append joining⟩

theorem start (callable : server.callable .base = true) : Course server server.start := by
  unfold TcpServer.start
  split
  · exact .quiet (.of_desk rfl) rfl rfl
  case isFalse unstarted => exact .started (by simpa using unstarted) callable rfl rfl rfl

theorem stop (server : TcpServer) : Course server server.stop := by
  unfold TcpServer.stop
  split
  · exact .quiet (.of_desk rfl) rfl rfl
  case isFalse running =>
    exact .stopped (by simpa using running) rfl rfl (.inl (push (.forceClosing server.connections) _))

theorem stopAfter (server : TcpServer) : Course server server.stopAfter := by
  unfold TcpServer.stopAfter
  split
  · exact .quiet (.of_desk rfl) rfl rfl
  case isFalse running =>
    have running : server.stopped = false := by simpa using running
    split
    · exact .stopped running rfl rfl (.inr (stopPool false _).2)
    · exact .stopped running rfl rfl (.inr rfl)

theorem newConnection (server : TcpServer) : Course server server.newConnection := by
  unfold TcpServer.newConnection
  split
  · exact .quiet (.of_desk rfl) rfl rfl
  case isFalse running =>
    have running : server.stopped = false := by simpa using running
    dsimp only
    obtain ⟨selected, counted⟩ := server.getNextLoop_same
    rw [counted]
    have does := Does.establish .base server.nextConnId
      ({ server with next := selected }.insert server.getNextLoop.1)
    have desk := @runInLoop_desk _ _ (.connectEstablished server.nextConnId) _ _ does
    have listed := (@runInLoop_quiet _ _ (.connectEstablished server.nextConnId) _ _ does).2
    refine .inserted running (.trans ?_ (.of_desk desk)) listed
    exact ⟨rfl, rfl, rfl, rfl⟩

theorem removeConnectionInLoop (id : Nat) (alike : Alike server middle)
    (milestones : middle.milestones = server.milestones)
    (listings : middle.listings = server.listings) :
    Course server (middle.removeConnectionInLoop id) := by
  have told : (middle.emit (.removal id)).milestones = middle.milestones := by
    rw [@milestones_append middle (middle.emit (.removal id)) [.removal id] rfl]
    exact List.append_nil _
  unfold TcpServer.removeConnectionInLoop
  dsimp only
  split
  · obtain ⟨same, listed⟩ := @runInLoop_quiet (({ middle.emit (.removal id) with
      connections := middle.connections.erase id }.emit (.left id true)).push .base .removed) id
      (.connectDestroyed id) _ _ (.connectDestroyed .base id _)
    have desk := @runInLoop_desk (({ middle.emit (.removal id) with
      connections := middle.connections.erase id }.emit (.left id true)).push .base .removed) id
      (.connectDestroyed id) _ _ (.connectDestroyed .base id _)
    have erased : Alike middle (({ middle.emit (.removal id) with
        connections := middle.connections.erase id }.emit (.left id true)).push .base .removed) :=
      ⟨rfl, rfl, rfl, rfl⟩
    refine .quiet (alike.trans (erased.trans (.of_desk desk))) ?_ ?_
    · rw [← milestones, ← told]
      refine same.trans ((milestones_append rfl).trans ?_)
      exact List.append_nil _
    · rw [← listings]
      exact listed.trans (push .removed _)
  · exact .quiet (alike.trans ⟨rfl, rfl, rfl, rfl⟩) (told.trans milestones) listings

theorem functor (functor : Functor) (loop : Loop) (server : TcpServer) :
    Course server (functor.run loop (server.onThread loop Thread.take)) := by
  have alike : Alike server (server.onThread loop Thread.take) := .of_desk rfl
  have listings := taken loop server
  cases functor with
  | connectEstablished id => exact does (.establish loop id _) alike rfl listings
  | forceClose id => exact does (.forceClose loop id _) alike rfl listings
  | destroy id => exact does (.destroyConnection loop id _) alike rfl listings
  | connectDestroyed id => exact does (.connectDestroyed loop id _) alike rfl listings
  | removeConnectionInLoop id =>
      simp only [Functor.run]
      split
      · exact removeConnectionInLoop id alike rfl listings
      · exact .quiet alike rfl listings

theorem left_quiet (connections : List Nat) :
    (connections.map fun id => Event.left id false).filter Event.isMilestone = [] := by
  simp [List.filter_eq_nil_iff, Event.isMilestone]

theorem destruct (callable : server.callable .base = true) : Course server server.destruct := by
  refine .destroyed callable rfl ⟨rfl, rfl⟩ rfl ((milestones_append (List.append_assoc ..)).trans ?_)
  have none : server.milestones ++ _ = server.milestones ++ [] :=
    congrArg _ (left_quiet server.connections)
  exact none.trans (List.append_nil _)

theorem onDrainTimeout (idle : server.base = []) (timers : List Nat) :
    Course server { server with timers }.onDrainTimeout := by
  unfold TcpServer.onDrainTimeout
  split
  · exact .quiet ⟨rfl, rfl, rfl, rfl⟩ rfl rfl
  case isFalse draining =>
    have draining : server.draining = true := by simpa using draining
    refine .timeout ⟨draining, rfl, rfl⟩ rfl rfl ?_ ⟨?_, ?_⟩
    · refine (milestones_append (List.append_assoc ..)).trans (congrArg _ ?_)
      exact congrArg (List.cons _) (left_quiet server.connections)
    · rw [listings, idle]
      rfl
    · refine (push _ _).trans ?_
      exact congrArg (List.cons false) (congrArg (List.filterMap Frame.destructs?) idle)

theorem resume {frame : Frame} {rest : List Frame} (top : (server.threads loop).stack = frame :: rest)
    (own : loop = .base ∨ ∃ id, frame.isOf id = true) :
    Course server (frame.resume loop (server.onThread loop Thread.pop)) := by
  have alike : Alike server (server.onThread loop Thread.pop) := .of_desk rfl
  have here : (∀ id, frame.isOf id = false) → loop = .base := by
    intro ofServer
    rcases own with here | ⟨id, own⟩
    · exact here
    · cases (ofServer id).symm.trans own
  cases frame with
  | accepting | connected => exact .quiet alike rfl (popped top rfl)
  | handshakeStarted id => exact does (.connectEstablished loop id _) alike rfl (popped top rfl)
  | disconnected id notifies =>
      have listings := popped top rfl
      simp only [Frame.resume]
      split
      · refine .quiet (alike.trans (.of_desk (Desk.notifyClose_desk id _))) ?_ ?_
        · unfold TcpServer.notifyClose queueInBase
          split
          · have told := @milestones_append server (server.emit (.closed id)) [.closed id] rfl
            split <;> exact told.trans (List.append_nil _)
          · rfl
        · rw [← listings, TcpServer.listings, Evolves.notifyClose]
          rfl
      · exact .quiet alike rfl listings
  | forceClosed id => exact does (.closeAndDestroy loop id _) alike rfl (popped top rfl)
  | destroying id => exact does (.connectDestroyed loop id _) alike rfl (popped top rfl)
  | forceClosing listed =>
      have here := here fun _ => rfl
      subst here
      have listed : server.listings = false :: (server.onThread .base Thread.pop).listings := pop top
      obtain ⟨told, left⟩ := stopPool false (server.onThread .base Thread.pop)
      exact .joining ⟨rfl, rfl, rfl, rfl⟩ told (listed.trans (congrArg _ left.symm))
  | destructing listed =>
      have here := here fun _ => rfl
      subst here
      have listed : server.listings = true :: (server.onThread .base Thread.pop).listings := pop top
      obtain ⟨told, left⟩ := stopPool true (server.onThread .base Thread.pop)
      exact .joining ⟨rfl, rfl, rfl, rfl⟩ told (listed.trans (congrArg _ left.symm))
  | removed =>
      have listings := popped top rfl
      simp only [Frame.resume, TcpServer.finishRemoval]
      split
      case isTrue done =>
        rw [Bool.and_eq_true] at done
        refine .removal ⟨done.1, rfl, rfl⟩ rfl rfl ?_ ?_
        · refine (milestones_append (List.append_assoc ..)).trans (congrArg _ ?_)
          simp [Event.isMilestone]
        · refine (stopPool false _).2.trans ?_
          exact listings
      case isFalse => exact .quiet alike rfl listings
  | joining => exact .quiet ⟨rfl, rfl, rfl, rfl⟩ rfl (popped top rfl)

theorem moves {action : Action} (sound : Sound server) (moves : Moves server action next) :
    Course server next := by
  cases moves with
  | start _ callable => exact start callable
  | stop => exact stop server
  | stopAfter => exact stopAfter server
  | destruct _ callable => exact destruct callable
  | acceptable => exact .quiet (.of_desk rfl) rfl (push .accepting server)
  | accept => exact newConnection server
  | @functor loop functor => exact .functor functor loop server
  | expired idle => exact onDrainTimeout (Evolves.of_idle idle) _
  | outlived => exact .quiet ⟨rfl, rfl, rfl, rfl⟩ rfl rfl
  | close => exact does (.forceCloseInLoop _ _ server) (.of_desk rfl) rfl rfl
  | @abort loop id =>
      refine .quiet (.of_desk rfl) rfl ?_
      rw [listings, listings, base, base, runCloseSequence, TcpServer.push, onThread_threads]
      split
      case isTrue here =>
        subst here
        rfl
      case isFalse => rfl
  | shutdown => exact .quiet (.of_desk rfl) rfl rfl
  | noShutdown => exact .quiet (.of_desk rfl) rfl rfl
  | @forceClose id listed rest top =>
      obtain ⟨told, left⟩ := @runInLoop_quiet _ id (.forceClose id) _ _ (.forceClose .base id
        ((server.onThread .base Thread.pop).push .base (.forceClosing (listed.erase id))))
      refine .quiet (.of_desk (runInLoop_desk (.forceClose .base id _))) told (left.trans ?_)
      rw [push, pop top]
      rfl
  | @destroy id listed rest top =>
      obtain ⟨told, left⟩ := @runInLoop_quiet _ id (.destroy id) _ _ (.destroyConnection .base id
        ((server.onThread .base Thread.pop).push .base (.destructing (listed.erase id))))
      refine .quiet (.of_desk (runInLoop_desk (.destroyConnection .base id _))) told (left.trans ?_)
      rw [push, pop top]
      rfl
  | @resume loop frame rest top =>
      refine resume top ?_
      by_cases here : loop = .base
      · exact .inl here
      · exact .inr (sound.framed.workers loop here frame (top ▸ List.mem_cons_self))
  | @exit loop =>
      refine .quiet (.of_desk rfl) rfl ?_
      rw [listings, listings, base, base, onThread_threads]
      split
      case isTrue here =>
        subst here
        rfl
      case isFalse => rfl

end Course

/-- What holds in every state. -/
structure Settled (server : TcpServer) : Prop where
  sound : Sound server
  desk : Desk server
  ordered : Ordered server
  single : server.lifetimeToken = true → server.listings = [] ∨ server.listings = [false]

namespace Settled

theorem create (numThreads : Nat) (tlsContext : Bool) : Settled (create numThreads tlsContext) := by
  refine ⟨.create numThreads tlsContext, ?_, ?_, ?_⟩
  · constructor <;> simp [TcpServer.create]
  · constructor <;> simp [TcpServer.create, base]
  · exact fun _ => .inl rfl

/-- A loop over connections is begun by a server that stops. -/
theorem unlisted (settled : Settled server) (running : ¬ Halted server) : server.listings = [] := by
  rw [listings, List.filterMap_eq_nil_iff]
  intro frame member
  have other : frame.isListing ≠ true := fun listing =>
    running (settled.ordered.halted frame member (.inl listing))
  cases frame <;> simp_all [Frame.isListing, Frame.destructs?]

/-- A server that was not started has no callbacks, and so none is run while it is started. -/
theorem course (settled : Settled server) (course : Course server next) :
    (next.started = false → server.started = false) ∧
      (Halted server → Halted next ∨ server.base = []) ∧
      (next.lifetimeToken = server.lifetimeToken ∨ server.callable .base = true) := by
  cases course with
  | quiet alike | inserted _ alike | joining alike =>
      refine ⟨fun unstarted => alike.started.symm.trans unstarted, fun halted => .inl ?_,
        .inl alike.lifetime⟩
      exact ⟨alike.stopped.trans halted.1, alike.draining.trans halted.2⟩
  | started unstarted callable started lifetime =>
      refine ⟨fun _ => unstarted, fun _ => .inr ?_, .inl lifetime⟩
      rcases callable_base callable with idle | ⟨frame, rest, id, top, own⟩
      · exact idle
      · have stranger := settled.ordered.strangers unstarted frame (top ▸ List.mem_cons_self) id
        cases stranger.symm.trans own
  | stopped running started lifetime =>
      refine ⟨fun unstarted => started.symm.trans unstarted, fun halted => ?_, .inl lifetime⟩
      cases running.symm.trans halted.1
  | destroyed callable started halted =>
      exact ⟨fun unstarted => started.symm.trans unstarted, fun _ => .inl halted, .inr callable⟩
  | timeout drained started lifetime | removal drained started lifetime =>
      refine ⟨fun unstarted => started.symm.trans unstarted, fun halted => .inl ?_, .inl lifetime⟩
      exact ⟨drained.2.1.trans halted.1, drained.2.2⟩

theorem course_single (settled : Settled server) (course : Course server next)
    (living : next.lifetimeToken = true) : next.listings = [] ∨ next.listings = [false] := by
  have single := settled.single
  cases course with
  | quiet alike _ listings | inserted _ alike listings =>
      rw [listings]
      exact single (alike.lifetime.symm.trans living)
  | started _ _ _ lifetime listings | removal _ _ lifetime _ listings =>
      rw [listings]
      exact single (lifetime.symm.trans living)
  | stopped running _ _ listings =>
      rw [settled.unlisted fun halted => by cases running.symm.trans halted.1] at listings
      exact listings.symm
  | destroyed _ _ _ lifetime => cases lifetime.symm.trans living
  | timeout _ _ _ _ listings => exact .inr listings.2
  | joining alike _ listings =>
      rcases single (alike.lifetime.symm.trans living) with none | one
      · cases listings.symm.trans none
      · exact .inl (List.cons.inj (listings.symm.trans one)).2

theorem moves {action : Action} (settled : Settled server) (moves : Moves server action next) :
    Settled next := by
  have course : Course server next := .moves settled.sound moves
  obtain ⟨started, halts, _⟩ := settled.course course
  refine ⟨settled.sound.moves moves, settled.desk.moves settled.sound settled.ordered moves, ?_,
    settled.course_single course⟩
  exact settled.ordered.evolves settled.desk (.moves settled.sound moves) started halts

theorem reach {permitted : TcpServer → Action → Prop} {start : TcpServer} (settled : Settled start)
    (reach : Reach step permitted start server) : Settled server :=
  reach.invariant settled fun _ _ _ settled _ taken => settled.moves (step_moves taken)

end Settled

/-- What is still to come of a shutdown, if the drain ends for a given cause. -/
def ahead (cause : Cause) (server : TcpServer) : List Event :=
  if server.draining then [.drained cause, .poolStop] else server.listings.map fun _ => .poolStop

theorem ahead_stopPool {destructor : Bool} {cause : Cause} (still : server.draining = false) :
    (server.stopPool destructor).ahead cause = server.listings.map fun _ => .poolStop := by
  have after : ¬ (server.stopPool destructor).draining = true := fun drains => by
    cases still.symm.trans drains
  rw [ahead, if_neg after, (Course.stopPool destructor server).2]

/-- A server that was destroyed stays so. -/
theorem Course.living (course : Course server next) (living : next.lifetimeToken = true) :
    server.lifetimeToken = true := by
  cases course with
  | quiet alike | inserted _ alike | joining alike =>
      exact alike.lifetime.symm.trans living
  | started _ _ _ lifetime | stopped _ _ lifetime | timeout _ _ lifetime | removal _ _ lifetime =>
      exact lifetime.symm.trans living
  | destroyed _ _ _ lifetime => cases lifetime.symm.trans living

/-- How far a server that was stopped has got since, and that it takes no new connections. -/
structure Shutdown (first server : TcpServer) : Prop where
  started : server.started = true
  stopped : server.stopped = true
  born : server.lifetimeToken = true → first.lifetimeToken = true
  course : ∃ cause since, cause ≠ .empty ∧ server.milestones = first.milestones ++ since ∧
    (∀ id, .inserted id ∉ since) ∧
    (server.lifetimeToken = true → since ++ server.ahead cause = first.ahead cause)

namespace Shutdown

variable {first : TcpServer}

theorem refl (started : server.started = true) (stopped : server.stopped = true) :
    Shutdown server server :=
  ⟨started, stopped, fun living => living, .removal, [], by simp, (List.append_nil _).symm, by simp,
    fun _ => rfl⟩

/-- While the server drains nothing else has happened. -/
theorem draining {cause : Cause} {since : List Event} (settled : Settled first)
    (living : first.lifetimeToken = true) (drains : server.draining = true)
    (same : since ++ server.ahead cause = first.ahead cause) :
    since = [] ∧ first.draining = true := by
  rw [ahead, if_pos drains, ahead] at same
  split at same
  case isTrue draining => exact ⟨by simpa using same, draining⟩
  case isFalse =>
    rcases settled.single living with none | one
    · simp [none] at same
    · rw [one] at same
      have length := congrArg List.length same
      simp at length

theorem step (begun : Settled first) (settled : Settled server) (shutdown : Shutdown first server)
    (course : Course server next) : Shutdown first next := by
  have born : next.lifetimeToken = true → first.lifetimeToken = true :=
    fun living => shutdown.born (course.living living)
  obtain ⟨started, stopped, _, cause, since, given, milestones, uninserted, progress⟩ := shutdown
  have dead : next.lifetimeToken = false → next.lifetimeToken = true →
      since ++ next.ahead cause = first.ahead cause := by
    intro gone living
    cases gone.symm.trans living
  cases course with
  | quiet alike told listings =>
      refine ⟨alike.started.trans started, alike.stopped.trans stopped, born, cause, since, given,
        told.trans milestones, uninserted, fun living => ?_⟩
      rw [← progress (alike.lifetime.symm.trans living), ahead, ahead, alike.draining, listings]
  | started unstarted => cases unstarted.symm.trans started
  | inserted running | stopped running => cases running.symm.trans stopped
  | destroyed _ started' halted lifetime told =>
      exact ⟨started'.trans started, halted.1, born, cause, since, given, told.trans milestones,
        uninserted, dead lifetime⟩
  | timeout drained started' lifetime told listings =>
      refine ⟨started'.trans started, drained.2.1.trans stopped, born, .timeout,
        since ++ [.drained .timeout], by simp, ?_, ?_, fun living => ?_⟩
      · rw [told, milestones, List.append_assoc]
      · simpa using uninserted
      · obtain ⟨none, drains⟩ :=
          draining begun (born living) drained.1 (progress (lifetime.symm.trans living))
        rw [none, ahead, ahead, if_neg (by simp [drained.2.2]), if_pos drains, listings.2]
        rfl
  | removal drained started' lifetime told listings =>
      refine ⟨started'.trans started, drained.2.1.trans stopped, born, .removal,
        since ++ [.drained .removal, .poolStop], by simp, ?_, ?_, fun living => ?_⟩
      · rw [told, milestones, List.append_assoc]
      · simpa using uninserted
      · obtain ⟨none, drains⟩ :=
          draining begun (born living) drained.1 (progress (lifetime.symm.trans living))
        have unlisted := settled.unlisted fun halted => by cases halted.2.symm.trans drained.1
        rw [none, ahead, ahead, if_neg (by simp [drained.2.2]), if_pos drains, listings, unlisted]
        rfl
  | joining alike told listings =>
      refine ⟨alike.started.trans started, alike.stopped.trans stopped, born, cause,
        since ++ [.poolStop], given, ?_, ?_, fun living => ?_⟩
      · rw [told, milestones, List.append_assoc]
      · simpa using uninserted
      · have still : ¬ server.draining = true := by
          intro drains
          have none := settled.unlisted fun halted => by cases halted.2.symm.trans drains
          cases listings.symm.trans none
        rw [← progress (alike.lifetime.symm.trans living), ahead, ahead, alike.draining, if_neg still,
          if_neg still, listings]
        simp

theorem run {permitted : TcpServer → Action → Prop} (begun : Settled first)
    (started : first.started = true) (stopped : first.stopped = true)
    (reach : Reach TcpServer.step permitted first server) : Shutdown first server := by
  have initially : Settled first ∧ Shutdown first first := ⟨begun, .refl started stopped⟩
  have both : Settled server ∧ Shutdown first server := by
    refine @Reach.invariant _ _ _ _ _ (fun state => Settled state ∧ Shutdown first state) initially
      ?_ _ reach
    intro state next action held _ taken
    have moves := step_moves taken
    exact ⟨held.1.moves moves, held.2.step begun held.1 (.moves held.1.sound moves)⟩
  exact both.2

end Shutdown

/-- What happens from `stop(Duration)` on: a drain that ends for one cause, and then one
stop of the pool. A server that was stopped before may be at any point of that. -/
structure DrainsOnce (server later : TcpServer) (since : List Event) (cause : Cause) : Prop where
  given : cause = .empty → server.connections = []
  once : since <:+: [.drained cause, .poolStop]
  ordered : server.stopped = false → since <+: [.drained cause, .poolStop]
  draining : server.stopped = false → (later.draining = true ↔ since = [])
  complete : server.stopped = false → later.draining = false → later.base = [] →
    since = [.drained cause, .poolStop]

namespace DrainsOnce

variable {later : TcpServer} {since : List Event} {cause : Cause}

theorem of_ahead (settled : Settled later) (living : later.lifetimeToken = true)
    (given : cause = .empty → server.connections = [])
    (whole : since ++ later.ahead cause = [.drained cause, .poolStop]) :
    DrainsOnce server later since cause := by
  have ordered : since <+: [.drained cause, .poolStop] := whole ▸ List.prefix_append ..
  refine ⟨given, ordered.isInfix, fun _ => ordered, fun _ => ⟨fun drains => ?_, fun none => ?_⟩,
    fun _ still idle => ?_⟩
  · rw [ahead, if_pos drains] at whole
    simpa using whole
  · by_contra still
    rw [ahead, if_neg still, none] at whole
    rcases settled.single living with unlisted | one
    · simp [unlisted] at whole
    · simp [one] at whole
  · rw [ahead, if_neg (by simp [still]), listings, idle] at whole
    simpa using whole

/-- Calling `stop(Duration)` again does nothing. -/
theorem again (settled : Settled server) (living : server.lifetimeToken = true)
    (stopped : server.stopped = true) (given : cause ≠ .empty)
    (whole : since ++ later.ahead cause = server.ahead cause) :
    DrainsOnce server later since cause := by
  have running : ¬ server.stopped = false := by simp [stopped]
  refine ⟨fun empty => absurd empty given, ?_, fun runs => absurd runs running,
    fun runs => absurd runs running, fun runs => absurd runs running⟩
  have part : since <+: server.ahead cause := whole ▸ List.prefix_append ..
  refine part.isInfix.trans ?_
  rw [ahead]
  split
  · exact List.infix_refl _
  · rcases settled.single living with none | one
    · simp [none]
    · rw [one]
      exact ⟨[.drained cause], [], rfl⟩

/-- A server without connections has drained at once. -/
theorem at_once (settled : Settled server) (still : Settled later)
    (living : later.lifetimeToken = true) (running : server.stopped = false)
    (none : server.connections = []) {telling : TcpServer}
    (progress : since ++ later.ahead cause = (telling.stopPool false).ahead cause)
    (done : telling.draining = false) (listed : telling.listings = server.listings) :
    DrainsOnce server later ([.drained .empty, .poolStop] ++ since) .empty := by
  have unlisted := settled.unlisted fun halted => by cases running.symm.trans halted.1
  rw [ahead_stopPool done, listed, unlisted, List.map_nil, List.append_eq_nil_iff] at progress
  obtain ⟨rfl, finished⟩ := progress
  refine .of_ahead still living (fun _ => none) ?_
  have drained : ¬ later.draining = true := by
    intro drains
    rw [ahead, if_pos drains] at finished
    cases finished
  rw [ahead, if_neg drained] at finished ⊢
  rw [finished]
  rfl

theorem of_stopAfter (settled : Settled server) (still : Settled later)
    (born : later.lifetimeToken = true → server.lifetimeToken = true) (given : cause ≠ .empty)
    (progress : later.lifetimeToken = true →
      since ++ later.ahead cause = server.stopAfter.ahead cause) :
    ∃ told, server.stopAfter.milestones = server.milestones ++ told ∧
      (∀ id, .inserted id ∉ told) ∧
      (later.lifetimeToken = true → ∃ cause, DrainsOnce server later (told ++ since) cause) := by
  unfold TcpServer.stopAfter at progress ⊢
  split
  case isTrue stopped =>
    rw [if_pos stopped] at progress
    refine ⟨[], (List.append_nil _).symm, by simp, fun living => ⟨cause, ?_⟩⟩
    exact .again settled (born living) stopped given (progress living)
  case isFalse running =>
    rw [if_neg running] at progress
    have running : server.stopped = false := by simpa using running
    split
    case isTrue none =>
      rw [if_pos none] at progress
      refine ⟨[.drained .empty, .poolStop], ?_, by simp, fun living => ⟨.empty, ?_⟩⟩
      · refine (milestones_append (List.append_assoc ..)).trans (congrArg _ ?_)
        simp [Event.isMilestone]
      · have none := List.isEmpty_iff.mp none
        exact at_once settled still living running none (progress living) rfl rfl
    case isFalse some =>
      rw [if_neg some] at progress
      refine ⟨[], (List.append_nil _).symm, by simp, fun living => ⟨cause, ?_⟩⟩
      exact .of_ahead still living (fun empty => absurd empty given) (progress living)

end DrainsOnce

theorem drain_completes_once {numThreads : Nat} {tlsContext : Bool} {server stopping later : TcpServer}
    (reach : Reach step (fun _ _ => True) (create numThreads tlsContext) server)
    (started : server.started = true) (stop : server.step .stopAfter = some stopping)
    (after : Reach step (fun _ _ => True) stopping later) :
    (∃ since, later.milestones = server.milestones ++ since ∧ (∀ id, .inserted id ∉ since) ∧
      (later.lifetimeToken = true → ∃ cause, DrainsOnce server later since cause)) ∧
    (.removed ∉ later.base →
      (later.stopped = true → later.draining = false → later.connections = [] ∧ later.timers = []) ∧
      (later.draining = true → later.connections ≠ [] ∧ ∃ timer, later.timers = [timer])) := by
  have settled : Settled server := .reach (.create numThreads tlsContext) reach
  have settled' : Settled stopping := settled.moves (step_moves stop)
  have settled'' : Settled later := .reach settled' after
  have stopping : stopping = server.stopAfter := by
    simp only [step, Option.ite_none_right_eq_some, Option.some.injEq] at stop
    exact stop.2.symm
  subst stopping
  have started' : server.stopAfter.started = true ∧ server.stopAfter.stopped = true ∧
      server.stopAfter.lifetimeToken = server.lifetimeToken := by
    unfold TcpServer.stopAfter
    split
    case isTrue stopped => exact ⟨started, stopped, rfl⟩
    case isFalse => split <;> exact ⟨started, rfl, rfl⟩
  have shutdown : Shutdown server.stopAfter later := .run settled' started'.1 started'.2.1 after
  obtain ⟨-, -, born, cause, since, given, milestones, uninserted, progress⟩ := shutdown
  obtain ⟨told, began, uninserted', drains⟩ := DrainsOnce.of_stopAfter settled settled''
    (fun living => started'.2.2.symm.trans (born living)) given progress
  refine ⟨⟨told ++ since, ?_, ?_, drains⟩, fun between => ⟨fun stopped still => ?_, fun drains => ?_⟩⟩
  · rw [milestones, began, List.append_assoc]
  · exact fun id inserted => (List.mem_append.mp inserted).elim (uninserted' id) (uninserted id)
  · exact ⟨settled''.desk.empty ⟨stopped, still⟩, settled''.desk.untimed still⟩
  · obtain ⟨timer, one, _⟩ := settled''.desk.timed drains
    exact ⟨(settled''.desk.pending drains).resolve_right between, timer, one⟩

/-- A connection is accepted and established on a worker. -/
def acceptedOnWorker : List Action :=
  [.start, .acceptable, .accept, .resume .base, .functor (.worker 0), .resume (.worker 0)]

/-- It closes, and is removed. -/
def closedWhileDraining : List Action :=
  [.close (.worker 0) 1, .resume (.worker 0), .functor .base, .resume .base, .functor (.worker 0),
    .exit (.worker 0), .resume .base]

theorem drain_completes_once_removal :
    ∃ server stopping later : TcpServer, run step (create 1 false) acceptedOnWorker = some server ∧
      server.step .stopAfter = some stopping ∧ stopping.draining = true ∧
      run step stopping closedWhileDraining = some later ∧ later.base = [] ∧
      later.milestones = server.milestones ++ [.drained .removal, .poolStop] ∧
      (∃ since, later.milestones = server.milestones ++ since ∧ (∀ id, .inserted id ∉ since) ∧
        (later.lifetimeToken = true → ∃ cause, DrainsOnce server later since cause)) ∧
      later.connections = [] ∧ later.timers = [] := by
  have final : ∃ server stopping later : TcpServer,
      run step (create 1 false) acceptedOnWorker = some server ∧
      server.step .stopAfter = some stopping ∧ stopping.draining = true ∧
      run step stopping closedWhileDraining = some later ∧ later.base = [] ∧
      later.milestones = server.milestones ++ [.drained .removal, .poolStop] ∧
      server.started = true ∧ later.stopped = true ∧ later.draining = false :=
    ⟨_, _, _, rfl, rfl, rfl, rfl, rfl, rfl, rfl, rfl, rfl⟩
  obtain ⟨server, stopping, later, ran, stop, drains, after, idle, milestones, started, stopped, still⟩ :=
    final
  obtain ⟨course, between⟩ := drain_completes_once (.run .start (by simp) ran) started stop
    (.run .start (by simp) after)
  refine ⟨server, stopping, later, ran, stop, drains, after, idle, milestones, course, ?_⟩
  exact (between (by simp [idle])).1 stopped still

end MiniTrantor.Net.TcpServer
