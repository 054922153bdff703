import MiniTrantor.Net.Server.Workers

/-!
# Bookkeeping of connections

What was done with a connection, what its owner loop is still to do and what the server
is still to hand over are together one `connectEstablished` and one `connectDestroyed`,
unless the server is stopped from the TLS event hook of a connection of the base loop. A
posted removal is not interrupted, unless the connection was closed in that hook, and then
established.
-/

set_option autoImplicit false

namespace MiniTrantor.Net.TcpServer

variable {server next : TcpServer} {action : Action} {id : Nat}

/-- The TLS event hook of a connection that is not established yet. -/
def Frame.isHandshake : Frame → Bool
  | .handshakeStarted _ => true
  | _ => false

/-- `forceCloseAllConnections`, after which `stop` goes on. -/
def Frame.isForceClosing : Frame → Bool
  | .forceClosing _ => true
  | _ => false

/-- The server is not stopped from the TLS event hook on the base thread, no connection is
closed in that hook, and the server is not destroyed while it closes its connections. -/
def Orderly (server : TcpServer) : Action → Prop
  | .stop => server.stopped = false → ∀ frame ∈ server.base, frame.isHandshake = false
  | .close _ id => server.state id ≠ .kConnecting
  | .destruct => ∀ frame ∈ server.base, frame.isForceClosing = false
  | _ => True

instance (server : TcpServer) : (action : Action) → Decidable (Orderly server action)
  | .stop => inferInstanceAs (Decidable (_ → _))
  | .close _ id => inferInstanceAs (Decidable (server.state id ≠ .kConnecting))
  | .destruct => inferInstanceAs (Decidable (∀ frame ∈ server.base, frame.isForceClosing = false))
  | .start | .stopAfter | .acceptable | .accept | .functor _ | .timer _ | .shutdown _ | .take _
  | .resume _ | .exit _ => isTrue trivial

/-- The acceptor is at the bottom, and the hook of a new connection is called by it. -/
def Layered : List Frame → Prop
  | [] => True
  | frame :: rest => (frame = .accepting → rest = []) ∧
      (frame.isHandshake = true → rest = [.accepting]) ∧ Layered rest

theorem layered_append {frames rest : List Frame} (layered : Layered rest)
    (plain : ∀ frame ∈ frames, frame ≠ .accepting ∧ frame.isHandshake = false) :
    Layered (frames ++ rest) := by
  induction frames with
  | nil => exact layered
  | cons frame frames ih =>
      obtain ⟨other, silent⟩ := plain frame List.mem_cons_self
      refine ⟨fun same => absurd same other, fun hook => ?_, ih fun frame member => ?_⟩
      · cases silent.symm.trans hook
      · exact plain frame (List.mem_cons_of_mem _ member)

theorem layered_accepting {frames : List Frame} {frame : Frame} (layered : Layered frames)
    (member : frame ∈ frames) (hook : frame.isHandshake = true) : .accepting ∈ frames := by
  induction frames with
  | nil => cases member
  | cons first rest ih =>
      rcases List.mem_cons.mp member with rfl | later
      · rw [layered.2.1 hook]
        exact List.mem_cons_of_mem _ List.mem_cons_self
      · exact List.mem_cons_of_mem _ (ih layered.2.2 later)

/-- No loop over connections is entered from the TLS event hook. -/
structure Hooked (server : TcpServer) : Prop where
  layered : Layered server.base
  unlisted : ∀ frame ∈ server.base, frame.isHandshake = true →
    ∀ other ∈ server.base, other.isListing = false

namespace Hooked

theorem create (numThreads : Nat) (tlsContext : Bool) : Hooked (create numThreads tlsContext) :=
  ⟨trivial, by simp [TcpServer.create, base]⟩

/-- Frames that are neither of the acceptor nor of the hook. -/
theorem isOf_plain {frame : Frame} (own : frame.isOf id = true) (other : frame ≠ .handshakeStarted id) :
    frame ≠ .accepting ∧ frame.isHandshake = false ∧ frame.isListing = false := by
  cases frame <;> simp_all [Frame.isOf, Frame.isHandshake, Frame.isListing]

theorem listing_plain {frame : Frame} (listing : frame.isListing = true) :
    frame ≠ .accepting ∧ frame.isHandshake = false := by
  cases frame <;> simp_all [Frame.isListing, Frame.isHandshake]

theorem append {frames rest : List Frame} (stack : next.base = frames ++ rest)
    (layered : Layered rest)
    (unlisted : ∀ frame ∈ rest, frame.isHandshake = true → ∀ other ∈ rest, other.isListing = false)
    (plain : ∀ frame ∈ frames, frame ≠ .accepting ∧ frame.isHandshake = false)
    (listed : (∃ frame ∈ rest, frame.isHandshake = true) → ∀ frame ∈ frames, frame.isListing = false) :
    Hooked next := by
  refine ⟨stack ▸ layered_append layered plain, fun frame member hook other member' => ?_⟩
  rw [stack, List.mem_append] at member member'
  have below : frame ∈ rest := by
    refine member.resolve_left fun new => ?_
    cases (plain frame new).2.symm.trans hook
  rcases member' with new | old
  · exact listed ⟨frame, below, hook⟩ other new
  · exact unlisted frame below hook other old

theorem evolves (hooked : Hooked server) (permitted : Orderly server action)
    (evolves : Evolves action server next) : Hooked next := by
  obtain ⟨layered, unlisted⟩ := hooked
  cases evolves with
  | same stack => exact @append next [] server.base stack layered unlisted (by simp) (by simp)
  | closed _ closes _ stack =>
      refine append stack layered unlisted (fun frame new => ?_) fun _ frame new => ?_
      · rw [closes frame new]
        exact ⟨by simp, rfl⟩
      · rw [closes frame new]
        rfl
  | @accepted other frame rest top _ ofId _ stack =>
      rw [top] at stack layered
      have none : rest = [] := layered.1 rfl
      rw [none] at stack
      refine ⟨?_, fun _ _ _ other' member => ?_⟩
      · rw [stack]
        refine ⟨fun same => ?_, fun _ => rfl, fun _ => rfl, fun hook => ?_, trivial⟩
        · rw [same] at ofId
          cases ofId
        · cases hook
      · rw [stack, List.mem_cons, List.mem_singleton] at member
        rcases member with rfl | rfl
        · cases other' <;> simp_all [Frame.isOf, Frame.isListing]
        · rfl
  | @began frame idle begins stack =>
      have silent : frame.isHandshake = false := by
        rcases begins with rfl | ⟨listing, _⟩
        · rfl
        · exact (listing_plain listing).2
      refine ⟨stack ▸ ⟨fun _ => rfl, fun hook => ?_, trivial⟩, fun frame' member hook => ?_⟩
      · cases silent.symm.trans hook
      · rw [stack, List.mem_singleton] at member
        rw [member] at hook
        cases silent.symm.trans hook
  | @removing other frames _ _ _ _ _ ofId _ stack =>
      have plain := fun frame' new => isOf_plain (ofId frame' new).1 (ofId frame' new).2
      refine append stack ⟨by simp, fun hook => (by cases hook), trivial⟩ (fun frame' member hook => ?_)
        (fun frame' new => ⟨(plain frame' new).1, (plain frame' new).2.1⟩)
        fun _ frame' new => (plain frame' new).2.2
      rw [List.mem_singleton.mp member] at hook
      cases hook
  | @entered frame callable _ enters stack =>
      have plain : frame ≠ .accepting ∧ frame.isHandshake = false := by
        rcases enters with ⟨listing, _⟩ | ⟨listing, _⟩ | ⟨rfl, _⟩
        · exact listing_plain listing
        · exact listing_plain listing
        · exact ⟨by simp, rfl⟩
      refine @append next [frame] server.base stack layered unlisted (by simpa using plain) fun hooks => ?_
      obtain ⟨hook, member, hooked⟩ := hooks
      intro frame' pushed
      rw [List.mem_singleton.mp pushed]
      rcases enters with ⟨_, running, rfl⟩ | ⟨_, outside⟩ | ⟨rfl, _⟩
      · cases (permitted running hook member).symm.trans hooked
      · exact absurd (layered_accepting layered member hooked) outside
      · rfl
  | @listed other frame following frames rest top listing listing' ofId _ _ stack =>
      rw [top] at layered unlisted
      -- the loop that goes on was there before, and so was no hook
      have quiet : ∀ frame' ∈ rest, ¬ frame'.isHandshake = true := by
        intro frame' member hook
        have other := unlisted frame' (List.mem_cons_of_mem _ member) hook frame List.mem_cons_self
        cases other.symm.trans listing
      have plain : ∀ frame' ∈ frames ++ [following],
          frame' ≠ .accepting ∧ frame'.isHandshake = false := by
        intro frame' member
        rcases List.mem_append.mp member with new | last
        · have plain := isOf_plain (ofId frame' new).1 (ofId frame' new).2
          exact ⟨plain.1, plain.2.1⟩
        · rw [List.mem_singleton.mp last]
          exact listing_plain listing'
      refine @append next (frames ++ [following]) rest (by simpa using stack) layered.2.2
        (fun frame' member hook => absurd hook (quiet frame' member)) plain fun hooks => ?_
      obtain ⟨hook, member, hooked⟩ := hooks
      exact absurd hooked (quiet hook member)
  | @went other frame frames rest top own ofId stack =>
      rw [top] at layered unlisted
      have plain := fun frame' new => isOf_plain (ofId frame' new).1 (ofId frame' new).2
      refine append stack layered.2.2 (fun frame' member hook other' member' => ?_)
        (fun frame' new => ⟨(plain frame' new).1, (plain frame' new).2.1⟩)
        fun _ frame' new => (plain frame' new).2.2
      exact unlisted frame' (List.mem_cons_of_mem _ member) hook other'
        (List.mem_cons_of_mem _ member')
  | @finished frame frames rest top joins stack =>
      rw [top] at layered unlisted
      have joining : ∀ frame' ∈ frames, ∃ destructor, frame' = .joining destructor := by
        intro frame' new
        rcases joins with none | ⟨_, _, destructor, same, _⟩
        · rw [none] at new
          cases new
        · rw [same] at new
          exact ⟨destructor, List.mem_singleton.mp new⟩
      refine append stack layered.2.2 (fun frame' member hook other' member' => ?_)
        (fun frame' new => ?_) fun _ frame' new => ?_
      · exact unlisted frame' (List.mem_cons_of_mem _ member) hook other'
          (List.mem_cons_of_mem _ member')
      · obtain ⟨destructor, rfl⟩ := joining frame' new
        exact ⟨by simp, rfl⟩
      · obtain ⟨destructor, rfl⟩ := joining frame' new
        rfl

end Hooked

/-- The end of a removal is not interrupted. -/
def Uninterrupted (server : TcpServer) : Prop :=
  .removed ∈ server.base → server.base = [.removed] ∧ server.lifetimeToken = true

namespace Uninterrupted

theorem settled (kept : Uninterrupted server) (callable : server.callable .base = true) :
    .removed ∉ server.base := by
  intro member
  rw [Ordered.not_callable (kept member).1 fun _ => rfl] at callable
  cases callable

theorem evolves (kept : Uninterrupted server) (shut : Shut server) (evolves : Evolves action server next)
    (lifetime : next.lifetimeToken = server.lifetimeToken ∨ server.callable .base = true) :
    Uninterrupted next := by
  intro member
  have alone : ∀ {frame rest}, server.base = frame :: rest → .removed ∉ rest := by
    intro frame rest top earlier
    obtain ⟨only, _⟩ := kept (top ▸ List.mem_cons_of_mem _ earlier)
    rw [top] at only
    cases only
    cases earlier
  cases evolves with
  | same stack =>
      obtain ⟨only, living⟩ := kept (stack ▸ member)
      refine ⟨stack.trans only, ?_⟩
      rcases lifetime with same | callable
      · exact same.trans living
      · exact absurd (stack ▸ member) (kept.settled callable)
  | closed callable closes _ stack =>
      rw [stack, List.mem_append] at member
      rcases member with new | earlier
      · cases closes _ new
      · exact absurd earlier (kept.settled callable)
  | accepted top _ ofId _ stack =>
      rw [stack, List.mem_cons] at member
      rcases member with rfl | earlier
      · cases ofId
      · rw [top] at earlier
        exact absurd ((List.mem_cons.mp earlier).resolve_left (by simp)) (alone top)
  | began _ begins stack =>
      rw [stack, List.mem_singleton] at member
      rcases begins with rfl | ⟨listing, _⟩
      · cases member
      · subst member
        cases listing
  | removing _ living queued _ _ _ closed stack =>
      -- the connection was closed, and so no callback of it is entered
      rw [closed (shut.removal _ queued)] at stack
      exact ⟨stack, living⟩
  | entered callable _ enters stack =>
      rw [stack, List.mem_cons] at member
      rcases member with rfl | earlier
      · rcases enters with ⟨listing, _⟩ | ⟨listing, _⟩ | joining
        · cases listing
        · cases listing
        · cases joining.1
      · exact absurd earlier (kept.settled callable)
  | listed top _ listing' ofId _ _ stack =>
      rw [stack, List.mem_append, List.mem_cons] at member
      rcases member with new | rfl | earlier
      · cases (ofId _ new).1
      · cases listing'
      · exact absurd earlier (alone top)
  | went top _ ofId stack =>
      rw [stack, List.mem_append] at member
      rcases member with new | earlier
      · cases (ofId _ new).1
      · exact absurd earlier (alone top)
  | finished top joins stack =>
      rw [stack, List.mem_append] at member
      rcases member with new | earlier
      · rcases joins with none | ⟨_, _, destructor, joining, _⟩
        · rw [none] at new
          cases new
        · rw [joining] at new
          cases List.mem_singleton.mp new
      · exact absurd earlier (alone top)

end Uninterrupted

/-- Only the hook is before the establishment. -/
theorem Frame.established_hook {frame : Frame} (mark : .established ∈ frame.marks id) :
    frame.isHandshake = true := by
  cases frame <;> simp_all [Frame.marks, markIf, Frame.isHandshake]

theorem listing_of_listed {frames : List Frame} (listed : 0 < (frames.map (Frame.listed id)).sum) :
    ∃ frame ∈ frames, frame.isListing = true := by
  by_contra none
  have zero : (frames.map (Frame.listed id)).sum = 0 := by
    rw [List.sum_eq_zero]
    intro count member
    obtain ⟨frame, pushed, rfl⟩ := List.mem_map.mp member
    have other : frame.isListing ≠ true := fun listing => none ⟨frame, pushed, listing⟩
    cases frame <;> simp_all [Frame.isListing, Frame.listed]
  omega

/-- The base loop is posted nothing that is done with connections. -/
theorem Sound.base_marks (sound : Sound server) (id : Nat) :
    server.marksOn .base id = server.base.flatMap (Frame.marks id) := by
  have none : (server.threads .base).queue.flatMap (Functor.marks id) = [] := by
    rw [List.flatMap_eq_nil_iff]
    intro functor posted
    obtain ⟨other, rfl⟩ := (sound.framed.routed .base functor posted).mp rfl
    rfl
  rw [marksOn, Thread.marks, none, List.append_nil]
  rfl

/-- What was done with a connection, what is to be done and what is still to be handed
over make up its whole life. -/
def Booked (server : TcpServer) : Prop :=
  ∀ id, .inserted id ∈ server.trace →
    server.script [] id ++ List.replicate (server.outstanding id) (.destroyed, server.owner id) =
      [(.established, server.owner id), (.destroyed, server.owner id)]

namespace Booked

theorem books (booked : Booked server) (hooked : Hooked server) (sound : Sound server)
    (books : Books server next) : Booked next := by
  intro id inserted
  cases books.entry id with
  | same script outstanding owner old =>
      rw [script, outstanding, owner]
      exact booked id (old.mp inserted)
  | inserted _ fresh _ script outstanding _ _ =>
      have absent : .inserted id ∉ server.trace := fresh ▸ sound.fresh
      obtain ⟨none, nothing⟩ := sound.ledger.unknown id absent
      rw [TcpServer.script, List.append_eq_nil_iff] at none
      rw [script (sound.ledger.unmarked absent), none.1, outstanding, nothing]
      rfl
  | handed script outstanding owner old =>
      have before := booked id (old.mp inserted)
      rw [outstanding, List.replicate_succ] at before
      rw [script, owner, List.append_assoc]
      exact before
  | inline script outstanding owner base old listed =>
      have before := booked id (old.mp inserted)
      rw [outstanding, List.replicate_succ, TcpServer.script] at before
      rw [script, TcpServer.script, owner]
      have idle : server.marksOn (server.owner id) id = [] := by
        rw [base] at before ⊢
        cases marks : server.marksOn .base id with
        | nil => rfl
        | cons mark rest =>
            -- it would be the hook that is to establish it
            have established : mark = .established := by
              have length := congrArg List.length before
              rw [marks] at before length
              simp only [List.length_append, List.length_map, List.length_cons, List.length_replicate,
                List.nil_append, List.length_nil] at length
              have nothing : server.recorded id = [] := List.eq_nil_of_length_eq_zero (by omega)
              rw [nothing] at before
              simpa using congrArg List.head? before
            have member : .established ∈ server.marksOn .base id := by
              rw [marks, established]
              exact List.mem_cons_self
            rw [sound.base_marks, List.mem_flatMap] at member
            obtain ⟨hook, pushed, marked⟩ := member
            obtain ⟨frame, below, listing⟩ := listing_of_listed listed
            have other := hooked.unlisted hook pushed (Frame.established_hook marked) frame below
            cases other.symm.trans listing
      rw [idle] at before ⊢
      simpa using before

end Booked

/-- The books, and all that they rest on. -/
structure Audited (server : TcpServer) : Prop where
  settled : Settled server
  history : History server
  crew : Crew server
  hooked : Hooked server
  shut : Shut server
  uninterrupted : Uninterrupted server
  booked : Booked server

namespace Audited

theorem create (numThreads : Nat) (tlsContext : Bool) : Audited (create numThreads tlsContext) := by
  refine ⟨.create numThreads tlsContext, .create numThreads tlsContext,
    .create numThreads tlsContext, .create numThreads tlsContext, ⟨?_, ?_, ?_⟩, ?_, ?_⟩ <;>
    simp [TcpServer.create, state, base, Booked, Uninterrupted]

/-- No connection is closed before it is established. -/
theorem turns (audited : Audited server) (permitted : Orderly server action)
    (moves : Moves server action next) (id : Nat) : Turn server next id := by
  have sound := audited.settled.sound
  rcases moves.turns (sound.connecting sound.fresh) with turns | aborts
  · exact turns id
  · cases aborts with
    | close early => exact absurd early permitted

theorem moves (audited : Audited server) (permitted : Orderly server action)
    (moves : Moves server action next) : Audited next := by
  have turns := audited.turns permitted moves
  obtain ⟨settled, history, crew, hooked, shut, uninterrupted, booked⟩ := audited
  have sound := settled.sound
  have course : Course server next := .moves sound moves
  have evolves : Evolves action server next := .moves sound moves
  have books : Books server next := moves.books sound.ledger.placed sound.framed.routed
    (sound.ledger.unmarked sound.fresh)
  exact ⟨settled.moves moves, history.tells sound.ledger (.moves sound moves) course.living,
    crew.moves settled moves, hooked.evolves permitted evolves,
    shut.sources (sound.ledger.books books) (.moves moves) turns,
    uninterrupted.evolves shut evolves (settled.course course).2.2, booked.books hooked sound books⟩

theorem reach {numThreads : Nat} {tlsContext : Bool}
    (reach : Reach step Orderly (TcpServer.create numThreads tlsContext) server) : Audited server :=
  reach.invariant (create numThreads tlsContext) fun _ _ _ audited permitted taken =>
    audited.moves permitted (step_moves taken)

theorem complete (audited : Audited server) (inserted : .inserted id ∈ server.trace)
    (outstanding : server.outstanding id = 0) (idle : server.marksOn (server.owner id) id = []) :
    server.recorded id = [(.established, server.owner id), (.destroyed, server.owner id)] := by
  have booked := audited.booked id inserted
  rw [outstanding, script, idle] at booked
  simpa using booked

/-- When the destructor has returned the workers are done, and so is the base thread once
the callback returns that the server was destroyed in. -/
theorem destroyed (audited : Audited server) (inserted : .inserted id ∈ server.trace)
    (dead : server.alive = false) (idle : server.base = []) :
    server.outstanding id = 0 ∧ server.marksOn (server.owner id) id = [] := by
  obtain ⟨gone, stopped⟩ := audited.crew.dead dead
  have started : server.started = true := by
    by_contra unstarted
    exact audited.settled.desk.unstarted (by simpa using unstarted) id inserted
  have none := audited.settled.desk.empty (audited.settled.desk.destroyed gone)
  have stack : (server.threads .base).stack = [] := idle
  refine ⟨by simp [outstanding, none, stack], ?_⟩
  rcases audited.crew.owned id inserted with ⟨_, base⟩ | ⟨index, few, worker⟩
  · rw [base, audited.settled.sound.base_marks, idle]
    rfl
  · obtain ⟨stack, queue⟩ := audited.crew.empty index (audited.crew.joined started stopped index few)
    rw [worker, marksOn]
    exact Thread.marks_empty stack queue

end Audited

/-- No thread has anything to do. -/
def Quiescent (server : TcpServer) : Prop :=
  ∀ loop, (server.threads loop).stack = [] ∧ (server.threads loop).queue = []

/-- What is done with a connection that was put into the map. -/
structure Accounted (server : TcpServer) (id : Nat) : Prop where
  ordered : server.recorded id <+:
    [(.established, server.owner id), (.destroyed, server.owner id)]
  departs : server.connections.count id + server.departures id = 1
  quiescent : Quiescent server → id ∉ server.connections →
    server.recorded id = [(.established, server.owner id), (.destroyed, server.owner id)]
  destroyed : server.alive = false → server.base = [] → server.departures id = 1 ∧
    server.recorded id = [(.established, server.owner id), (.destroyed, server.owner id)]

theorem Audited.accounted (audited : Audited server) (inserted : .inserted id ∈ server.trace) :
    Accounted server id := by
  have departs : server.connections.count id + server.departures id = 1 := by
    have listed := audited.history.listed id
    have once := audited.history.once id
    have some := List.count_pos_iff.mpr inserted
    omega
  refine ⟨?_, departs, fun quiescent absent => ?_, fun dead idle => ⟨?_, ?_⟩⟩
  · rw [← audited.booked id inserted, script, List.append_assoc]
    exact List.prefix_append ..
  · have idle := quiescent .base
    refine audited.complete inserted ?_ ?_
    · simp [outstanding, idle.1, List.count_eq_zero.mpr absent]
    · exact Thread.marks_empty (quiescent (server.owner id)).1 (quiescent (server.owner id)).2
  · have gone := (audited.crew.dead dead).1
    rw [audited.settled.desk.empty (audited.settled.desk.destroyed gone), List.count_nil] at departs
    omega
  · obtain ⟨outstanding, done⟩ := audited.destroyed inserted dead idle
    exact audited.complete inserted outstanding done

theorem connections_accounted {numThreads : Nat} {tlsContext : Bool}
    (reach : Reach step Orderly (create numThreads tlsContext) server) :
    (∀ id, .inserted id ∈ server.trace → Accounted server id) ∧
    (∀ id, Trace.Follows (· == .closed id) (· == .left id true) server.trace) ∧
    Trace.NeverAfter (· == .destructor) Event.isRemoval server.trace ∧
    (.removed ∈ server.base → server.lifetimeToken = true) := by
  have audited : Audited server := .reach reach
  exact ⟨fun id inserted => audited.accounted inserted, audited.history.closed,
    audited.history.untouched, fun removed => (audited.uninterrupted removed).2⟩

/-- A connection of a worker closes while the server is destroyed. -/
def closedInDestruction : List Action :=
  [.start, .acceptable, .accept, .resume .base, .functor (.worker 0), .resume (.worker 0),
    .close (.worker 0) 1, .resume (.worker 0), .destruct, .take 1, .resume .base,
    .functor (.worker 0), .exit (.worker 0), .resume .base, .functor .base]

theorem connections_accounted_in_destruction :
    ∃ server, run (checked step Orderly) (create 1 false) closedInDestruction = some server ∧
      server.alive = false ∧ server.base = [] ∧ server.owner 1 = .worker 0 ∧
      (∀ id, .inserted id ∈ server.trace → Accounted server id) ∧
      (∀ id, Trace.Follows (· == .closed id) (· == .left id true) server.trace) ∧
      Trace.NeverAfter (· == .destructor) Event.isRemoval server.trace ∧
      (.removed ∈ server.base → server.lifetimeToken = true) := by
  have final : ∃ server,
      run (checked step Orderly) (create 1 false) closedInDestruction = some server ∧
      server.alive = false ∧ server.base = [] ∧ server.owner 1 = .worker 0 :=
    ⟨_, rfl, rfl, rfl, rfl⟩
  obtain ⟨server, ran, dead, idle, worker⟩ := final
  exact ⟨server, ran, dead, idle, worker, connections_accounted (.checked .start ran)⟩

/-- The first connection is closed in its TLS event hook, and established after that. -/
def closedInHook : List Action :=
  [.start, .acceptable, .accept, .close .base 1, .resume .base, .resume .base, .resume .base,
    .resume .base, .functor .base, .destruct]

/-- The removal finds it connected, and the server is destroyed in its callback. -/
example :
    ∃ server, run step (create 0 true) closedInHook = some server ∧ .removed ∈ server.base ∧
      server.lifetimeToken = false :=
  ⟨_, rfl, by decide, rfl⟩

/-- The server is stopped from the TLS event hook of a connection, and then destroyed. -/
def stoppedInHook : List Action :=
  [.start, .acceptable, .accept, .stop, .take 1, .resume .base, .resume .base, .resume .base,
    .resume .base, .resume .base, .resume .base, .destruct, .resume .base, .resume .base]

/-- The connection is destroyed before it is established, and not again. -/
theorem connections_unaccounted :
    ∃ server, run step (create 0 true) stoppedInHook = some server ∧
      server.alive = false ∧ server.base = [] ∧ .inserted 1 ∈ server.trace ∧
      server.recorded 1 = [(.destroyed, .base), (.established, .base)] ∧
      server.owner 1 = .base ∧ ¬ Accounted server 1 := by
  have final : ∃ server, run step (create 0 true) stoppedInHook = some server ∧
      server.alive = false ∧ server.base = [] ∧ .inserted 1 ∈ server.trace ∧
      server.recorded 1 = [(.destroyed, .base), (.established, .base)] ∧ server.owner 1 = .base :=
    ⟨_, rfl, rfl, rfl, by decide, rfl, rfl⟩
  obtain ⟨server, ran, dead, idle, inserted, recorded, own⟩ := final
  refine ⟨server, ran, dead, idle, inserted, recorded, own, fun accounted => ?_⟩
  have ordered := accounted.ordered
  rw [recorded, own] at ordered
  simp at ordered

end MiniTrantor.Net.TcpServer
