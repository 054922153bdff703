import MiniTrantor.Net.Server.Stack

/-!
# The server itself

What holds of the members of the server in every state, and of what the base thread is
in the middle of: a server that is stopped and not draining has no connections and no
drain timer, and one that is draining has one timer.
-/

set_option autoImplicit false

namespace MiniTrantor.Net.TcpServer

variable {server next : TcpServer} {action : Action} {loop : Loop} {id : Nat}

def Frame.isJoining : Frame → Bool
  | .joining _ => true
  | _ => false

/-- What holds of the server itself. -/
structure Desk (server : TcpServer) : Prop where
  listening : server.listening = true → server.started = true ∧ server.stopped = false ∧
    server.threadPool = .running ∧ server.lifetimeToken = true
  running : server.stopped = false → server.draining = false
  untimed : server.draining = false → server.timers = []
  timed : server.draining = true →
    ∃ timer, server.timers = [timer] ∧ server.drainTimerId = some timer
  pending : server.draining = true → server.connections ≠ [] ∨ .removed ∈ server.base
  empty : Halted server → server.connections = []
  destroyed : server.lifetimeToken = false → Halted server
  unstarted : server.started = false → ∀ id, .inserted id ∉ server.trace

/-- What holds of the base thread. -/
structure Ordered (server : TcpServer) : Prop where
  strangers : server.started = false → ∀ frame ∈ server.base, ∀ id, frame.isOf id = false
  halted : ∀ frame ∈ server.base, frame.isListing = true ∨ frame.isJoining = true → Halted server

/-- Code of the user runs when the base thread is idle or in a callback of a connection. -/
theorem callable_base (callable : server.callable .base = true) :
    server.base = [] ∨ ∃ frame rest id, server.base = frame :: rest ∧ frame.isOf id = true := by
  unfold TcpServer.callable at callable
  unfold base
  split at callable
  case h_1 idle => exact .inl idle
  case h_2 frame rest top =>
    refine .inr ?_
    cases frame with
    | handshakeStarted id | connected id | disconnected id _ | forceClosed id =>
        exact ⟨_, rest, id, top, beq_self_eq_true id⟩
    | _ => cases callable

namespace Ordered

/-- A frame of the server that is in its course. -/
theorem not_callable {frame : Frame} {rest : List Frame} (top : server.base = frame :: rest)
    (ofServer : ∀ id, frame.isOf id = false) : server.callable .base = false := by
  by_contra callable
  rcases callable_base (by simpa using callable) with idle | ⟨other, rest', id, top', own⟩
  · rw [idle] at top
    cases top
  · rw [top] at top'
    cases top'
    cases (ofServer id).symm.trans own

/-- A frame of a connection is none of the server's. -/
theorem isOf_plain {frame : Frame} (own : frame.isOf id = true) :
    frame.isListing = false ∧ frame.isJoining = false ∧ frame ≠ .removed := by
  cases frame <;> simp_all [Frame.isOf, Frame.isListing, Frame.isJoining]

/-- No code of the user runs on a server that was not started unless the thread is idle. -/
theorem idle (ordered : Ordered server) (unstarted : server.started = false)
    (callable : server.callable .base = true) : server.base = [] := by
  rcases callable_base callable with idle | ⟨frame, rest, id, top, own⟩
  · exact idle
  · cases (ordered.strangers unstarted frame (top ▸ List.mem_cons_self) id).symm.trans own

theorem drained_halted (desk : Desk server) (drained : Drained server next) : Halted next := by
  obtain ⟨draining, stopped, done⟩ := drained
  refine ⟨?_, done⟩
  rw [stopped]
  by_contra running
  cases (desk.running (by simpa using running)).symm.trans draining

theorem evolve_strangers (ordered : Ordered server) (desk : Desk server)
    (evolves : Evolves action server next) (unstarted : server.started = false) :
    ∀ frame ∈ next.base, ∀ id, frame.isOf id = false := by
  have old := ordered.strangers unstarted
  have unknown := desk.unstarted unstarted
  intro frame member id
  cases evolves with
  | same stack => exact old frame (stack ▸ member) id
  | closed _ _ known stack =>
      rw [stack, List.mem_append] at member
      rcases member with new | earlier
      · exact absurd (known (List.ne_nil_of_mem new)).1 (unknown _)
      · exact old frame earlier id
  | accepted _ listening =>
      cases unstarted.symm.trans (desk.listening listening).1
  | began _ begins stack =>
      rw [stack, List.mem_singleton] at member
      subst member
      rcases begins with rfl | ⟨listing, _⟩
      · rfl
      · by_contra own
        cases (isOf_plain (by simpa using own)).1.symm.trans listing
  | removing _ _ _ known => exact absurd known (unknown _)
  | entered _ _ enters stack =>
      rw [stack, List.mem_cons] at member
      rcases member with rfl | earlier
      · have plain : frame.isListing = true ∨ frame = .joining false := by
          rcases enters with ⟨listing, _⟩ | ⟨listing, _⟩ | joining
          · exact .inl listing
          · exact .inl listing
          · exact .inr joining.1
        by_contra own
        have own := isOf_plain (show frame.isOf id = true by simpa using own)
        rcases plain with listing | rfl
        · cases own.1.symm.trans listing
        · cases own.2.1
      · exact old frame earlier id
  | listed _ _ _ _ known => exact absurd known (unknown _)
  | went top own =>
      cases (old _ (top ▸ List.mem_cons_self) _).symm.trans own
  | finished top joins stack =>
      rw [stack, List.mem_append] at member
      rcases member with new | earlier
      · rcases joins with none | ⟨_, _, destructor, joining, _⟩
        · rw [none] at new
          cases new
        · rw [joining, List.mem_singleton] at new
          subst new
          rfl
      · exact old frame (top ▸ List.mem_cons_of_mem _ earlier) id

theorem evolve_halted (desk : Desk server) (evolves : Evolves action server next)
    (old : ∀ frame ∈ server.base, frame.isListing = true ∨ frame.isJoining = true → Halted next)
    (frame : Frame) (member : frame ∈ next.base)
    (kind : frame.isListing = true ∨ frame.isJoining = true) : Halted next := by
  have foreign : ∀ {id}, frame.isOf id = true → Halted next := by
    intro id own
    obtain ⟨listing, joining, _⟩ := isOf_plain own
    rcases kind with listed | joined
    · cases listing.symm.trans listed
    · cases joining.symm.trans joined
  cases evolves with
  | same stack => exact old frame (stack ▸ member) kind
  | closed _ closes _ stack =>
      rw [stack, List.mem_append] at member
      rcases member with new | earlier
      · exact foreign (by rw [closes frame new]; exact beq_self_eq_true _)
      · exact old frame earlier kind
  | accepted _ _ ofId _ stack =>
      rw [stack, List.mem_cons] at member
      rcases member with rfl | earlier
      · exact foreign ofId
      · exact old frame earlier kind
  | began _ begins stack =>
      rw [stack, List.mem_singleton] at member
      subst member
      rcases begins with rfl | ⟨_, drained⟩
      · rcases kind with listed | joined
        · cases listed
        · cases joined
      · exact drained_halted desk drained
  | removing _ _ _ _ _ ofId _ stack =>
      rw [stack, List.mem_append, List.mem_singleton] at member
      rcases member with new | rfl
      · exact foreign (ofId frame new).1
      · rcases kind with listed | joined
        · cases listed
        · cases joined
  | entered _ halted => exact halted
  | listed top listing _ ofId _ _ stack =>
      rw [stack, List.mem_append, List.mem_cons] at member
      rcases member with new | _ | earlier
      · exact foreign (ofId frame new).1
      · exact old _ (top ▸ List.mem_cons_self) (.inl listing)
      · exact old frame (top ▸ List.mem_cons_of_mem _ earlier) kind
  | went top _ ofId stack =>
      rw [stack, List.mem_append] at member
      rcases member with new | earlier
      · exact foreign (ofId frame new).1
      · exact old frame (top ▸ List.mem_cons_of_mem _ earlier) kind
  | finished top joins stack =>
      rw [stack, List.mem_append] at member
      rcases member with new | earlier
      · rcases joins with none | ⟨listing | ⟨_, drained⟩, _⟩
        · rw [none] at new
          cases new
        · exact old _ (top ▸ List.mem_cons_self) (.inl listing)
        · exact drained_halted desk drained
      · exact old frame (top ▸ List.mem_cons_of_mem _ earlier) kind

/-- What a step makes of the order on the base thread. -/
theorem evolves (ordered : Ordered server) (desk : Desk server) (evolves : Evolves action server next)
    (started : next.started = false → server.started = false)
    (halts : Halted server → Halted next ∨ server.base = []) : Ordered next := by
  refine ⟨fun unstarted => evolve_strangers ordered desk evolves (started unstarted),
    evolve_halted desk evolves fun frame member kind => ?_⟩
  rcases halts (ordered.halted frame member kind) with halted | idle
  · exact halted
  · rw [idle] at member
    cases member

end Ordered

/-- Only a connection that is accepted is new. -/
theorem Books.inserted_old (books : Books server next) (same : next.nextConnId = server.nextConnId)
    (inserted : .inserted id ∈ next.trace) : .inserted id ∈ server.trace := by
  cases books.entry id with
  | same _ _ _ old | handed _ _ _ old | inline _ _ _ _ old => exact old.mp inserted
  | inserted _ _ counter => omega

namespace Desk

/-- The server itself is the same, and the connections it waits for are still there. -/
theorem of_pending {pool : Pool} {alive : Bool} (desk : Desk server) (books : Books server next)
    (same : next.desk = { server with threadPool := pool, alive }.desk)
    (runs : server.threadPool = .running → pool = .running)
    (pending : server.draining = true → server.connections ≠ [] ∨ .removed ∈ next.base) :
    Desk next := by
  have started : next.started = server.started := (congrArg TcpServer.started same :)
  have stopped : next.stopped = server.stopped := (congrArg TcpServer.stopped same :)
  have draining : next.draining = server.draining := (congrArg TcpServer.draining same :)
  have listening : next.listening = server.listening := (congrArg TcpServer.listening same :)
  have threadPool : next.threadPool = pool := (congrArg TcpServer.threadPool same :)
  have counter : next.nextConnId = server.nextConnId := (congrArg TcpServer.nextConnId same :)
  have connections : next.connections = server.connections :=
    (congrArg TcpServer.connections same :)
  have timers : next.timers = server.timers := (congrArg TcpServer.timers same :)
  have drainTimerId : next.drainTimerId = server.drainTimerId :=
    (congrArg TcpServer.drainTimerId same :)
  have lifetime : next.lifetimeToken = server.lifetimeToken := (congrArg lifetimeToken same :)
  refine ⟨?_, ?_, ?_, ?_, ?_, ?_, ?_, ?_⟩
  · rw [listening, started, stopped, threadPool, lifetime]
    intro listens
    obtain ⟨started, stopped, running, lifetime⟩ := desk.listening listens
    exact ⟨started, stopped, runs running, lifetime⟩
  · rw [stopped, draining]
    exact desk.running
  · rw [draining, timers]
    exact desk.untimed
  · rw [draining, timers, drainTimerId]
    exact desk.timed
  · rw [draining, connections]
    exact pending
  · rw [Halted, stopped, draining, connections]
    exact desk.empty
  · rw [lifetime, Halted, stopped, draining]
    exact desk.destroyed
  · rw [started]
    exact fun unstarted id inserted => desk.unstarted unstarted id (books.inserted_old counter inserted)

/-- Steps that are none of the server's own business. -/
theorem same (desk : Desk server) (books : Books server next) (same : next.desk = server.desk)
    (removed : .removed ∈ server.base → .removed ∈ next.base) : Desk next :=
  desk.of_pending books same (fun running => running) fun drains =>
    (desk.pending drains).imp_right removed

/-- The map was moved out and the server halted. -/
theorem halt (desk : Desk server) (books : Books server next) (started : next.started = server.started)
    (listening : next.listening = false) (counter : next.nextConnId = server.nextConnId)
    (halted : Halted next) (timers : next.timers = []) (connections : next.connections = []) :
    Desk next := by
  refine ⟨fun listens => ?_, fun running => ?_, fun _ => timers, fun drains => ?_, fun drains => ?_,
    fun _ => connections, fun _ => halted, fun unstarted id inserted => ?_⟩
  · cases listening.symm.trans listens
  · cases halted.1.symm.trans running
  · cases halted.2.symm.trans drains
  · cases halted.2.symm.trans drains
  · exact desk.unstarted (started ▸ unstarted) id (books.inserted_old counter inserted)

theorem not_listening (desk : Desk server) (stopped : server.stopped = true) :
    server.listening = false := by
  by_contra listening
  have running := (desk.listening (by simpa using listening)).2.1
  cases stopped.symm.trans running

theorem cancelled (desk : Desk server) : cancel server.drainTimerId server.timers = [] := by
  cases drains : server.draining with
  | false =>
      rw [desk.untimed drains]
      cases server.drainTimerId <;> rfl
  | true =>
      obtain ⟨timer, one, armed⟩ := desk.timed drains
      rw [one, armed]
      simp [cancel]

theorem draining_stopped (desk : Desk server) (drains : server.draining = true) :
    server.stopped = true := by
  by_contra running
  cases (desk.running (by simpa using running)).symm.trans drains

/-- What is done with a connection. -/
theorem does {middle : TcpServer} {marks : List Mark} (desk : Desk server)
    (books : Books server next) (does : Does loop id marks middle next)
    (before : middle.desk = server.desk) (removed : .removed ∈ server.base → .removed ∈ middle.base) :
    Desk next := by
  refine desk.same books (does.desk.trans before) fun member => ?_
  by_cases here : loop = .base
  · obtain ⟨frames, _, stack⟩ := does.stack.2 here
    rw [stack]
    exact List.mem_append_right _ (removed member)
  · rw [does.stack.1 here]
    exact removed member

theorem start (desk : Desk server) (sound : Sound server) (ordered : Ordered server)
    (lifetime : server.lifetimeToken = true) (callable : server.callable .base = true) :
    Desk server.start := by
  unfold TcpServer.start
  split
  · exact desk
  case isFalse unstarted =>
    have unstarted : server.started = false := by simpa using unstarted
    have still : server.draining = false := by
      by_contra drains
      rcases desk.pending (by simpa using drains) with some | member
      · obtain ⟨id, member⟩ := List.exists_mem_of_ne_nil _ some
        have absent := desk.unstarted unstarted id
        have none := (sound.ledger.unknown id absent).2
        have count := List.count_pos_iff.mpr member
        rw [outstanding] at none
        omega
      · rw [ordered.idle unstarted callable] at member
        cases member
    refine ⟨fun _ => ⟨rfl, rfl, rfl, lifetime⟩, fun _ => still, desk.untimed, desk.timed, fun drains => ?_,
      fun halted => ?_, fun dead => ?_, fun unstarted => ?_⟩
    · cases still.symm.trans drains
    · cases halted.1
    · cases lifetime.symm.trans dead
    · cases unstarted

theorem stop (desk : Desk server) (books : Books server server.stop) : Desk server.stop := by
  unfold TcpServer.stop at books ⊢
  split
  · exact desk
  case isFalse running =>
    rw [if_neg running] at books
    refine desk.halt books rfl rfl rfl ⟨rfl, rfl⟩ ?_ rfl
    exact desk.untimed (desk.running (by simpa using running))

theorem stopAfter (desk : Desk server) (books : Books server server.stopAfter) :
    Desk server.stopAfter := by
  unfold TcpServer.stopAfter at books ⊢
  split
  · exact desk
  case isFalse running =>
    rw [if_neg running] at books
    have running : server.stopped = false := by simpa using running
    have untimed := desk.untimed (desk.running running)
    split
    case isTrue none =>
      rw [if_pos none] at books
      exact desk.halt books rfl rfl rfl ⟨rfl, rfl⟩ untimed (List.isEmpty_iff.mp none)
    case isFalse some =>
      rw [if_neg some] at books
      refine ⟨fun listens => ?_, fun runs => ?_, fun still => ?_, fun _ => ?_, fun _ => .inl ?_,
        fun halted => ?_, fun dead => ?_, fun unstarted id inserted => ?_⟩
      · cases listens
      · cases runs
      · cases still
      · exact ⟨server.nextTimer, by simp [untimed], rfl⟩
      · simpa using some
      · cases halted.2
      · cases running.symm.trans (desk.destroyed dead).1
      · exact desk.unstarted unstarted id inserted

theorem onDrainTimeout (desk : Desk server) {timer : Nat} (live : timer ∈ server.timers)
    (books : Books server { server with timers := server.timers.erase timer }.onDrainTimeout) :
    Desk { server with timers := server.timers.erase timer }.onDrainTimeout := by
  have drains : server.draining = true := by
    by_contra still
    rw [desk.untimed (by simpa using still)] at live
    cases live
  obtain ⟨armed, one, _⟩ := desk.timed drains
  have listening := desk.not_listening (desk.draining_stopped drains)
  have none : server.timers.erase timer = [] := by
    rw [one] at live ⊢
    cases List.mem_singleton.mp live
    simp
  unfold TcpServer.onDrainTimeout at books ⊢
  rw [if_neg (by simp [drains])] at books ⊢
  exact desk.halt books rfl listening rfl ⟨desk.draining_stopped drains, rfl⟩ none rfl

theorem stopPool (desk : Desk server) (middle : TcpServer) (same : middle.desk = server.desk)
    (halted : Halted server) {destructor : Bool} (books : Books server (middle.stopPool destructor)) :
    Desk (middle.stopPool destructor) := by
  have started : middle.started = server.started := (congrArg TcpServer.started same :)
  have stopped : middle.stopped = server.stopped := (congrArg TcpServer.stopped same :)
  have draining : middle.draining = server.draining := (congrArg TcpServer.draining same :)
  have listening : middle.listening = server.listening := (congrArg TcpServer.listening same :)
  have counter : middle.nextConnId = server.nextConnId := (congrArg TcpServer.nextConnId same :)
  have connections : middle.connections = server.connections :=
    (congrArg TcpServer.connections same :)
  have timers : middle.timers = server.timers := (congrArg TcpServer.timers same :)
  refine desk.halt books started ?_ counter ⟨stopped.trans halted.1, draining.trans halted.2⟩ ?_ ?_
  · exact listening.trans (desk.not_listening halted.1)
  · exact timers.trans (desk.untimed halted.2)
  · exact connections.trans (desk.empty halted)

theorem finishRemoval (desk : Desk server) {middle : TcpServer} (same : middle.desk = server.desk)
    (books : Books server middle.finishRemoval) : Desk middle.finishRemoval := by
  have draining : middle.draining = server.draining := (congrArg TcpServer.draining same :)
  have connections : middle.connections = server.connections :=
    (congrArg TcpServer.connections same :)
  unfold TcpServer.finishRemoval at books ⊢
  split
  case isTrue done =>
    rw [if_pos done] at books
    rw [Bool.and_eq_true, List.isEmpty_iff, draining] at done
    have started : middle.started = server.started := (congrArg TcpServer.started same :)
    have stopped : middle.stopped = server.stopped := (congrArg TcpServer.stopped same :)
    have listening : middle.listening = server.listening := (congrArg TcpServer.listening same :)
    have counter : middle.nextConnId = server.nextConnId := (congrArg TcpServer.nextConnId same :)
    have timers : middle.timers = server.timers := (congrArg TcpServer.timers same :)
    have timer : middle.drainTimerId = server.drainTimerId := (congrArg TcpServer.drainTimerId same :)
    have halts := desk.draining_stopped done.1
    refine desk.halt books started (listening.trans (desk.not_listening halts)) counter
      ⟨stopped.trans halts, rfl⟩ ?_ done.2
    show cancel middle.drainTimerId middle.timers = []
    rw [timer, timers]
    exact desk.cancelled
  case isFalse left =>
    rw [if_neg left] at books
    rw [Bool.and_eq_true, List.isEmpty_iff, not_and, draining, connections] at left
    exact desk.of_pending books same (fun running => running) fun drains => .inl (left drains)

theorem destruct (desk : Desk server) (books : Books server server.destruct) :
    Desk server.destruct :=
  desk.halt books rfl rfl rfl ⟨rfl, rfl⟩ desk.cancelled rfl

theorem newConnection (desk : Desk server) (listening : server.listening = true) :
    Desk server.newConnection := by
  obtain ⟨started, stopped, running, lifetime⟩ := desk.listening listening
  unfold TcpServer.newConnection
  rw [if_neg (by simp [stopped])]
  dsimp only
  obtain ⟨selected, counted⟩ := server.getNextLoop_same
  rw [counted]
  generalize inserted : ({ server with next := selected }.insert server.getNextLoop.1).runInLoop
    server.nextConnId (.connectEstablished server.nextConnId)
      (TcpServer.establish .base server.nextConnId) = next
  have same : next.desk = ({ server with next := selected }.insert server.getNextLoop.1).desk := by
    rw [← inserted]
    exact runInLoop_desk (.establish .base server.nextConnId _)
  have started' : next.started = server.started := (congrArg TcpServer.started same :)
  have stopped' : next.stopped = server.stopped := (congrArg TcpServer.stopped same :)
  have draining : next.draining = server.draining := (congrArg TcpServer.draining same :)
  have timers : next.timers = server.timers := (congrArg TcpServer.timers same :)
  have threadPool : next.threadPool = server.threadPool := (congrArg TcpServer.threadPool same :)
  have lifetime' : next.lifetimeToken = server.lifetimeToken := (congrArg lifetimeToken same :)
  have still := desk.running stopped
  refine ⟨fun _ => ?_, fun _ => draining.trans still, fun _ => ?_, fun drains => ?_, fun drains => ?_,
    fun halted => ?_, fun dead => ?_, fun unstarted => ?_⟩
  · exact ⟨started'.trans started, stopped'.trans stopped, threadPool.trans running,
      lifetime'.trans lifetime⟩
  · exact timers.trans (desk.untimed still)
  · cases (draining.trans still).symm.trans drains
  · cases (draining.trans still).symm.trans drains
  · cases (stopped'.trans stopped).symm.trans halted.1
  · cases (lifetime'.trans lifetime).symm.trans dead
  · cases (started'.trans started).symm.trans unstarted

/-- A connection is removed from the map, which may have been the last. -/
theorem removal (desk : Desk server) (idle : server.base = [])
    (books : Books server ((server.onThread .base Thread.take).removeConnectionInLoop id)) :
    Desk ((server.onThread .base Thread.take).removeConnectionInLoop id) := by
  by_cases member : id ∈ server.connections
  · obtain ⟨⟨frames, _, _, _, stack⟩, same⟩ := Evolves.removed idle member
    have begun : .removed ∈ ((server.onThread .base Thread.take).removeConnectionInLoop id).base := by
      rw [stack]
      exact List.mem_append_right _ (List.mem_singleton_self _)
    generalize (server.onThread .base Thread.take).removeConnectionInLoop id = next
      at books begun same ⊢
    have started : next.started = server.started := (congrArg TcpServer.started same :)
    have stopped : next.stopped = server.stopped := (congrArg TcpServer.stopped same :)
    have draining : next.draining = server.draining := (congrArg TcpServer.draining same :)
    have listening : next.listening = server.listening := (congrArg TcpServer.listening same :)
    have threadPool : next.threadPool = server.threadPool := (congrArg TcpServer.threadPool same :)
    have counter : next.nextConnId = server.nextConnId := (congrArg TcpServer.nextConnId same :)
    have timers : next.timers = server.timers := (congrArg TcpServer.timers same :)
    have drainTimerId : next.drainTimerId = server.drainTimerId :=
      (congrArg TcpServer.drainTimerId same :)
    have lifetime : next.lifetimeToken = server.lifetimeToken := (congrArg lifetimeToken same :)
    refine ⟨?_, ?_, ?_, ?_, fun _ => .inr begun, fun halted => ?_, ?_, ?_⟩
    · rw [listening, started, stopped, threadPool, lifetime]
      exact desk.listening
    · rw [stopped, draining]
      exact desk.running
    · rw [draining, timers]
      exact desk.untimed
    · rw [draining, timers, drainTimerId]
      exact desk.timed
    · rw [Halted, stopped, draining] at halted
      rw [desk.empty halted] at member
      cases member
    · rw [lifetime, Halted, stopped, draining]
      exact desk.destroyed
    · rw [started]
      exact fun unstarted id inserted =>
        desk.unstarted unstarted id (books.inserted_old counter inserted)
  · have absent : id ∉ ((server.onThread .base Thread.take).emit (.removal id)).connections := member
    unfold removeConnectionInLoop at books ⊢
    dsimp only at books ⊢
    rw [if_neg absent] at books ⊢
    exact desk.same books rfl fun removed => by simp [idle] at removed

theorem functor {functor : Functor} {rest : List Functor} (desk : Desk server) (sound : Sound server)
    (idle : server.idle loop = true) (queued : (server.threads loop).queue = functor :: rest)
    (books : Books server (functor.run loop (server.onThread loop Thread.take))) :
    Desk (functor.run loop (server.onThread loop Thread.take)) := by
  have taken : (server.onThread loop Thread.take).base = server.base := by
    unfold base
    rw [onThread_threads]
    split
    case isTrue here =>
      subst here
      rfl
    case isFalse => rfl
  have removed : .removed ∈ server.base → .removed ∈ (server.onThread loop Thread.take).base :=
    fun member => taken ▸ member
  cases functor with
  | connectEstablished id => exact desk.does books (.establish loop id _) rfl removed
  | forceClose id => exact desk.does books (.forceClose loop id _) rfl removed
  | destroy id => exact desk.does books (.destroyConnection loop id _) rfl removed
  | connectDestroyed id => exact desk.does books (.connectDestroyed loop id _) rfl removed
  | removeConnectionInLoop id =>
      have here := (sound.framed.routed loop _ (queued ▸ List.mem_cons_self)).mpr ⟨id, rfl⟩
      subst here
      simp only [Functor.run] at books ⊢
      split
      case isTrue lifetime =>
        rw [if_pos lifetime] at books
        exact desk.removal (Evolves.of_idle idle) books
      case isFalse gone =>
        rw [if_neg gone] at books
        exact desk.same books rfl removed

theorem notifyClose_desk (id : Nat) (server : TcpServer) :
    (server.notifyClose id).desk = server.desk := by
  unfold TcpServer.notifyClose queueInBase
  split
  · split <;> rfl
  · rfl

theorem resume {frame : Frame} {rest : List Frame} (desk : Desk server) (sound : Sound server)
    (ordered : Ordered server) (top : (server.threads loop).stack = frame :: rest)
    (books : Books server (frame.resume loop (server.onThread loop Thread.pop))) :
    Desk (frame.resume loop (server.onThread loop Thread.pop)) := by
  have removed : frame ≠ .removed → .removed ∈ server.base →
      .removed ∈ (server.onThread loop Thread.pop).base := by
    intro other member
    by_cases here : loop = .base
    · subst here
      have top : server.base = frame :: rest := top
      rw [pop_base top]
      rw [top] at member
      exact (List.mem_cons.mp member).resolve_left (Ne.symm other)
    · rw [base_onThread here]
      exact member
  have base : (∀ id, frame.isOf id = false) → frame ∈ server.base := by
    intro ofServer
    by_cases here : loop = .base
    · subst here
      exact (show server.base = frame :: rest from top) ▸ List.mem_cons_self
    · obtain ⟨id, own⟩ := sound.framed.workers loop here frame (top ▸ List.mem_cons_self)
      cases (ofServer id).symm.trans own
  cases frame with
  | accepting | connected => exact desk.same books rfl (removed (by simp))
  | handshakeStarted id =>
      exact desk.does books (.connectEstablished loop id _) rfl (removed (by simp))
  | disconnected id notifies =>
      simp only [Frame.resume] at books ⊢
      split
      case isTrue notifies =>
        rw [if_pos notifies] at books
        refine desk.same books (notifyClose_desk id _) fun member => ?_
        rw [Evolves.notifyClose]
        exact removed (by simp) member
      case isFalse silent =>
        rw [if_neg silent] at books
        exact desk.same books rfl (removed (by simp))
  | forceClosed id => exact desk.does books (.closeAndDestroy loop id _) rfl (removed (by simp))
  | destroying id => exact desk.does books (.connectDestroyed loop id _) rfl (removed (by simp))
  | forceClosing listed =>
      have halted := ordered.halted _ (base fun _ => rfl) (.inl rfl)
      exact desk.stopPool (server.onThread loop Thread.pop) rfl halted books
  | destructing listed =>
      have halted := ordered.halted _ (base fun _ => rfl) (.inl rfl)
      exact desk.stopPool (server.onThread loop Thread.pop) rfl halted books
  | removed => exact desk.finishRemoval rfl books
  | joining destructor =>
      refine desk.of_pending books rfl (fun running => ?_) fun drains =>
        (desk.pending drains).imp_right (removed (by simp))
      show server.threadPool.joined = .running
      rw [running]
      rfl

/-- What is done with a connection leaves the frames below. -/
theorem runInLoop_base {functor : Functor} {run : TcpServer → TcpServer} {marks : List Mark}
    {frame : Frame} (does : Does .base id marks server (run server)) (member : frame ∈ server.base) :
    frame ∈ (server.runInLoop id functor run).base := by
  unfold runInLoop
  split
  · obtain ⟨frames, _, stack⟩ := does.stack.2 rfl
    rw [stack]
    exact List.mem_append_right _ member
  case h_2 index _ =>
    have other : Loop.worker index ≠ .base := by simp
    rw [base_onThread other]
    exact member

theorem listing_removed {frame following : Frame} {rest : List Frame}
    (top : server.base = frame :: rest) (other : frame ≠ .removed) (member : .removed ∈ server.base) :
    .removed ∈ ((server.onThread .base Thread.pop).push .base following).base := by
  rw [top] at member
  rw [Evolves.push, pop_base top]
  exact List.mem_cons_of_mem _ ((List.mem_cons.mp member).resolve_left (Ne.symm other))

theorem moves {action : Action} (desk : Desk server) (sound : Sound server) (ordered : Ordered server)
    (moves : Moves server action next) : Desk next := by
  have books : Books server next := moves.books sound.ledger.placed sound.framed.routed
    (sound.ledger.unmarked sound.fresh)
  cases moves with
  | start lifetime callable => exact desk.start sound ordered lifetime callable
  | stop => exact desk.stop books
  | stopAfter => exact desk.stopAfter books
  | destruct => exact desk.destruct books
  | acceptable =>
      refine desk.same books rfl fun member => ?_
      rw [Evolves.push]
      exact List.mem_cons_of_mem _ member
  | accept _ listening => exact desk.newConnection listening
  | functor idle queued => exact desk.functor sound idle queued books
  | expired _ live => exact desk.onDrainTimeout live books
  | outlived _ live lifetime =>
      rw [desk.untimed (desk.destroyed lifetime).2] at live
      cases live
  | close => exact desk.does books (.forceCloseInLoop _ _ server) rfl fun member => member
  | abort =>
      refine desk.same books rfl fun member => ?_
      rw [base, runCloseSequence, TcpServer.push, onThread_threads]
      split
      case isTrue here =>
        subst here
        exact List.mem_cons_of_mem _ member
      case isFalse => exact member
  | shutdown => exact desk.same books rfl fun member => member
  | noShutdown => exact desk
  | @forceClose id listed rest top =>
      refine desk.same books (runInLoop_desk (.forceClose .base id _)) fun member => ?_
      refine runInLoop_base (.forceClose .base id _) (listing_removed top (by simp) ?_)
      exact member
  | @destroy id listed rest top =>
      refine desk.same books (runInLoop_desk (.destroyConnection .base id _)) fun member => ?_
      refine runInLoop_base (.destroyConnection .base id _) (listing_removed top (by simp) ?_)
      exact member
  | resume top => exact desk.resume sound ordered top books
  | @exit loop =>
      refine desk.same books rfl fun member => ?_
      unfold base
      rw [onThread_threads]
      split
      case isTrue here =>
        subst here
        exact member
      case isFalse => exact member

end Desk

end MiniTrantor.Net.TcpServer
