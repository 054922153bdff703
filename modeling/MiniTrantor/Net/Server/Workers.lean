import MiniTrantor.Net.Server.History

/-!
# The pool and its workers

Connections are those of workers when the server has any, and the base thread is then
never in code of the user. A worker stops when it has nothing more to do, and nothing is
posted to it afterwards.
-/

set_option autoImplicit false

namespace MiniTrantor.Net.TcpServer

variable {server middle next : TcpServer} {action : Action} {loop : Loop} {id index : Nat}

/-- The pool is as it was. -/
structure Unmoved (server next : TcpServer) : Prop where
  numThreads : next.numThreads = server.numThreads
  started : next.started = server.started
  threadPool : next.threadPool = server.threadPool
  worker : next.next = server.next
  alive : next.alive = server.alive

/-- What a step does with the pool. -/
inductive Pools (server next : TcpServer) : Prop where
  | same (unmoved : Unmoved server next)
  | started (numThreads : next.numThreads = server.numThreads) (unstarted : server.started = false)
      (started : next.started = true) (running : next.threadPool = .running) (first : next.next = 0)
      (alive : next.alive = server.alive) (lifetime : server.lifetimeToken = true)
      (callable : server.callable .base = true)
  | chosen (numThreads : next.numThreads = server.numThreads) (started : next.started = server.started)
      (threadPool : next.threadPool = server.threadPool) (worker : next.next = server.getNextLoop.2.next)
      (alive : next.alive = server.alive)
  | stopping {destructor : Bool} (numThreads : next.numThreads = server.numThreads)
      (started : next.started = server.started)
      (threadPool : next.threadPool = server.threadPool.requestStop)
      (worker : next.next = server.next) (alive : next.alive = server.alive)
      (joining : .joining destructor ∈ next.base)
  | joined {destructor : Bool} (joining : .joining destructor ∈ server.base)
      (ready : server.ready (.joining destructor) = true)
      (numThreads : next.numThreads = server.numThreads) (started : next.started = server.started)
      (threadPool : next.threadPool = server.threadPool.joined)
      (worker : next.next = server.next) (alive : next.alive = (server.alive && !destructor))

theorem Unmoved.of_desk (same : next.desk = server.desk) : Unmoved server next :=
  ⟨(congrArg TcpServer.numThreads same :), (congrArg TcpServer.started same :),
    (congrArg TcpServer.threadPool same :), (congrArg TcpServer.next same :),
    (congrArg TcpServer.alive same :)⟩

theorem Unmoved.trans (first : Unmoved server middle) (second : Unmoved middle next) :
    Unmoved server next :=
  ⟨second.numThreads.trans first.numThreads, second.started.trans first.started,
    second.threadPool.trans first.threadPool, second.worker.trans first.worker, second.alive.trans first.alive⟩

namespace Pools

theorem stopPool (destructor : Bool) (unmoved : Unmoved server middle) :
    Pools server (middle.stopPool destructor) := by
  have joining : .joining destructor ∈ (middle.stopPool destructor).base := by
    rw [Evolves.stopPool]
    exact List.mem_cons_self
  exact .stopping unmoved.numThreads unmoved.started
    (congrArg Pool.requestStop unmoved.threadPool) unmoved.worker unmoved.alive joining

theorem newConnection (server : TcpServer) : Pools server server.newConnection := by
  unfold TcpServer.newConnection
  split
  · exact .same (.of_desk rfl)
  · dsimp only
    obtain ⟨selected, counted⟩ := server.getNextLoop_same
    rw [counted]
    have does := Does.establish .base server.nextConnId
      ({ server with next := selected }.insert server.getNextLoop.1)
    have desk := @runInLoop_desk _ _ (.connectEstablished server.nextConnId) _ _ does
    have unmoved : Unmoved _ _ := .of_desk desk
    have worker := unmoved.worker.trans (congrArg TcpServer.next counted).symm
    exact .chosen unmoved.numThreads unmoved.started unmoved.threadPool worker unmoved.alive

theorem functor (functor : Functor) (loop : Loop) (server : TcpServer) :
    Unmoved server (functor.run loop (server.onThread loop Thread.take)) := by
  have taken : Unmoved server (server.onThread loop Thread.take) := .of_desk rfl
  cases functor with
  | connectEstablished id => exact taken.trans (.of_desk (Does.establish loop id _).desk)
  | forceClose id => exact taken.trans (.of_desk (Does.forceClose loop id _).desk)
  | destroy id => exact taken.trans (.of_desk (Does.destroyConnection loop id _).desk)
  | connectDestroyed id => exact taken.trans (.of_desk (Does.connectDestroyed loop id _).desk)
  | removeConnectionInLoop id =>
      simp only [Functor.run]
      split
      · unfold removeConnectionInLoop
        dsimp only
        split
        · have erased : Unmoved server (({ (server.onThread loop Thread.take).emit (.removal id) with
              connections := server.connections.erase id }.emit (.left id true)).push .base
                .removed) := ⟨rfl, rfl, rfl, rfl, rfl⟩
          exact erased.trans (.of_desk (runInLoop_desk (.connectDestroyed .base id _)))
        · exact .of_desk rfl
      · exact taken

theorem resume {frame : Frame} {rest : List Frame} (sound : Sound server)
    (top : (server.threads loop).stack = frame :: rest) (ready : server.ready frame = true) :
    Pools server (frame.resume loop (server.onThread loop Thread.pop)) := by
  have popped : Unmoved server (server.onThread loop Thread.pop) := .of_desk rfl
  cases frame with
  | accepting | connected => exact .same popped
  | handshakeStarted id =>
      exact .same (popped.trans (.of_desk (Does.connectEstablished loop id _).desk))
  | disconnected id notifies =>
      simp only [Frame.resume]
      split
      · exact .same (popped.trans (.of_desk (Desk.notifyClose_desk id _)))
      · exact .same popped
  | forceClosed id => exact .same (popped.trans (.of_desk (Does.closeAndDestroy loop id _).desk))
  | destroying id => exact .same (popped.trans (.of_desk (Does.connectDestroyed loop id _).desk))
  | forceClosing => exact stopPool false popped
  | destructing => exact stopPool true popped
  | removed =>
      simp only [Frame.resume, finishRemoval]
      split
      · exact stopPool false ⟨rfl, rfl, rfl, rfl, rfl⟩
      · exact .same popped
  | joining destructor =>
      have here : loop = .base := by
        by_contra other
        obtain ⟨id, own⟩ := sound.framed.workers loop other _ (top ▸ List.mem_cons_self)
        cases own
      subst here
      have top : server.base = .joining destructor :: rest := top
      exact .joined (top ▸ List.mem_cons_self) ready rfl rfl rfl rfl rfl

theorem moves (sound : Sound server) (moves : Moves server action next) : Pools server next := by
  cases moves with
  | start lifetime callable =>
      unfold TcpServer.start
      split
      · exact .same (.of_desk rfl)
      case isFalse unstarted =>
        exact .started rfl (by simpa using unstarted) rfl rfl rfl rfl lifetime callable
  | stop =>
      unfold TcpServer.stop
      split
      · exact .same (.of_desk rfl)
      · exact .same ⟨rfl, rfl, rfl, rfl, rfl⟩
  | stopAfter =>
      unfold TcpServer.stopAfter
      split
      · exact .same (.of_desk rfl)
      · split
        · exact stopPool false ⟨rfl, rfl, rfl, rfl, rfl⟩
        · exact .same ⟨rfl, rfl, rfl, rfl, rfl⟩
  | destruct => exact .same ⟨rfl, rfl, rfl, rfl, rfl⟩
  | acceptable => exact .same (.of_desk rfl)
  | accept => exact newConnection server
  | @functor loop functor => exact .same (Pools.functor functor loop server)
  | expired =>
      unfold TcpServer.onDrainTimeout
      split <;> exact .same ⟨rfl, rfl, rfl, rfl, rfl⟩
  | outlived => exact .same ⟨rfl, rfl, rfl, rfl, rfl⟩
  | close => exact .same (.of_desk (Does.forceCloseInLoop _ _ server).desk)
  | abort | shutdown | noShutdown => exact .same (.of_desk rfl)
  | forceClose => exact .same (.of_desk (runInLoop_desk (.forceClose .base _ _)))
  | destroy => exact .same (.of_desk (runInLoop_desk (.destroyConnection .base _ _)))
  | resume top ready => exact resume sound top ready
  | exit => exact .same (.of_desk rfl)

end Pools

/-- Of the workers a step touches at most one, which has not exited and does not. -/
structure Touched (loop : Loop) (server next : TcpServer) : Prop where
  others : ∀ index, .worker index ≠ loop →
    next.threads (.worker index) = server.threads (.worker index)
  exited : (next.threads loop).exited = (server.threads loop).exited

namespace Touched

theorem same (loop : Loop) (threads : next.threads = server.threads) : Touched loop server next :=
  ⟨fun index _ => congrFun threads (.worker index), congrArg (fun t => (t loop).exited) threads⟩

theorem trans (first : Touched loop server middle) (second : Touched loop middle next) :
    Touched loop server next :=
  ⟨fun index other => (second.others index other).trans (first.others index other),
    second.exited.trans first.exited⟩

theorem onThread {change : Thread Frame Functor → Thread Frame Functor}
    (exited : (change (server.threads loop)).exited = (server.threads loop).exited) :
    Touched loop server (server.onThread loop change) := by
  refine ⟨fun index other => ?_, ?_⟩
  · rw [onThread_threads, if_neg other]
  · rw [onThread_threads, if_pos rfl, exited]

theorem does {marks : List Mark} (does : Does loop id marks middle next) :
    Touched loop middle next := by
  obtain ⟨_, _, acts, _⟩ := does
  refine ⟨fun index other => ?_, ?_⟩
  · rw [acts.threads, Function.update_of_ne other]
  · rw [acts.threads, Function.update_self]

/-- What the base thread does is none of the workers' business. -/
theorem base (touched : Touched .base server middle) (then_ : Touched loop middle next) :
    Touched loop server next := by
  refine ⟨fun index other => ?_, ?_⟩
  · rw [then_.others index other]
    exact touched.others index (by simp)
  · cases loop with
    | base => exact then_.exited.trans touched.exited
    | worker index => exact then_.exited.trans (congrArg Thread.exited (touched.others index (by simp)))

theorem runInLoop {functor : Functor} {run : TcpServer → TcpServer} {marks : List Mark}
    (inline : Does .base id marks middle (run middle)) (own : middle.owner id = loop) :
    Touched loop middle (middle.runInLoop id functor run) := by
  unfold owner at own
  unfold TcpServer.runInLoop
  rw [own]
  cases loop with
  | base => exact does inline
  | worker index => exact onThread rfl

/-- A frame of the server is pushed. -/
theorem pushed (frame : Frame) (threads : next.threads =
    Function.update server.threads .base ((server.threads .base).push frame)) :
    Touched .base server next := by
  refine ⟨fun index other => ?_, ?_⟩
  · rw [threads, Function.update_of_ne other]
  · rw [threads, Function.update_self]
    rfl

theorem push (frame : Frame) (server : TcpServer) :
    Touched .base server (server.push .base frame) := pushed frame rfl

theorem removeConnectionInLoop (id : Nat) (server : TcpServer) :
    Touched .base server (server.removeConnectionInLoop id) ∨
      id ∈ server.connections ∧ Touched (server.owner id) server (server.removeConnectionInLoop id) := by
  unfold TcpServer.removeConnectionInLoop
  dsimp only
  split
  case isTrue listed =>
    have left : Touched .base server ({ server.emit (.removal id) with
        connections := server.connections.erase id }.emit (.left id true)) := same _ rfl
    have erased := left.trans (push .removed _)
    exact .inr ⟨listed, erased.base (runInLoop (.connectDestroyed .base id _) rfl)⟩
  case isFalse => exact .inl (same _ rfl)

theorem functor {functor : Functor} {rest : List Functor} (sound : Sound server)
    (queued : (server.threads loop).queue = functor :: rest)
    (working : ∀ id index, server.owner id = .worker index → 0 < server.outstanding id →
      (server.threads (.worker index)).exited = false)
    (awake : (server.threads loop).exited = false) :
    ∃ touched, Touched touched server (functor.run loop (server.onThread loop Thread.take)) ∧
      (server.threads touched).exited = false := by
  have taken : Touched loop server (server.onThread loop Thread.take) := onThread rfl
  cases functor with
  | connectEstablished id => exact ⟨loop, taken.trans (does (.establish loop id _)), awake⟩
  | forceClose id => exact ⟨loop, taken.trans (does (.forceClose loop id _)), awake⟩
  | destroy id => exact ⟨loop, taken.trans (does (.destroyConnection loop id _)), awake⟩
  | connectDestroyed id => exact ⟨loop, taken.trans (does (.connectDestroyed loop id _)), awake⟩
  | removeConnectionInLoop id =>
      have here := (sound.framed.routed loop _ (queued ▸ List.mem_cons_self)).mpr ⟨id, rfl⟩
      subst here
      simp only [Functor.run]
      split
      · rcases removeConnectionInLoop id (server.onThread .base Thread.take) with here | ⟨listed, there⟩
        · exact ⟨.base, taken.trans here, awake⟩
        · refine ⟨server.owner id, taken.base there, ?_⟩
          cases own : server.owner id with
          | base => exact awake
          | worker index =>
              exact working id index own (Nat.add_pos_left (List.count_pos_iff.mpr listed) _)
      · exact ⟨.base, taken, awake⟩

theorem notifyClose (id : Nat) (server : TcpServer) : Touched .base server (server.notifyClose id) := by
  unfold TcpServer.notifyClose queueInBase
  split
  · split
    · exact same _ rfl
    · have told : Touched .base server (server.emit (.closed id)) := same _ rfl
      exact told.trans (onThread rfl)
  · exact same _ rfl

theorem then_base (touched : Touched loop server middle) (then_ : Touched .base middle next) :
    Touched loop server next := by
  refine ⟨fun index other => ?_, ?_⟩
  · rw [then_.others index (by simp)]
    exact touched.others index other
  · cases loop with
    | base => exact then_.exited.trans touched.exited
    | worker index => exact (congrArg Thread.exited (then_.others index (by simp))).trans touched.exited

theorem resume (frame : Frame) (loop : Loop) (server : TcpServer) :
    Touched loop server (frame.resume loop (server.onThread loop Thread.pop)) := by
  have popped : Touched loop server (server.onThread loop Thread.pop) := onThread rfl
  cases frame with
  | accepting | connected => exact popped
  | handshakeStarted id => exact popped.trans (does (.connectEstablished loop id _))
  | disconnected id notifies =>
      simp only [Frame.resume]
      split
      · exact popped.then_base (notifyClose id _)
      · exact popped
  | forceClosed id => exact popped.trans (does (.closeAndDestroy loop id _))
  | destroying id => exact popped.trans (does (.connectDestroyed loop id _))
  | forceClosing => exact popped.then_base (pushed (.joining false) rfl)
  | destructing => exact popped.then_base (pushed (.joining true) rfl)
  | removed =>
      simp only [Frame.resume, finishRemoval]
      split
      · exact popped.then_base (pushed (.joining false) rfl)
      · exact popped
  | joining => exact popped.trans (same _ rfl)

theorem newConnection (server : TcpServer) :
    Touched server.getNextLoop.1 server server.newConnection := by
  unfold TcpServer.newConnection
  split
  · exact same _ rfl
  · dsimp only
    obtain ⟨selected, counted⟩ := server.getNextLoop_same
    rw [counted]
    have inserted : Touched .base server ({ server with next := selected }.insert
        server.getNextLoop.1) := same _ rfl
    refine inserted.base (runInLoop (.establish .base server.nextConnId _) ?_)
    simp [owner, insert, emit]

/-- A loop over connections takes up its next one. -/
theorem taken {frame following : Frame} {rest : List Frame} {functor : Functor}
    {run : TcpServer → TcpServer} {marks : List Mark}
    (top : (server.threads .base).stack = frame :: rest) (some : 0 < frame.listed id)
    (working : ∀ id index, server.owner id = .worker index → 0 < server.outstanding id →
      (server.threads (.worker index)).exited = false)
    (inline : Does .base id marks ((server.onThread .base Thread.pop).push .base following)
      (run ((server.onThread .base Thread.pop).push .base following))) :
    ∃ touched, Touched touched server (((server.onThread .base Thread.pop).push .base
        following).runInLoop id functor run) ∧
      (touched = .base ∨ (server.threads touched).exited = false) := by
  have popped : Touched .base server (server.onThread .base Thread.pop) := onThread rfl
  refine ⟨server.owner id, (popped.trans (push following _)).base (runInLoop inline rfl), ?_⟩
  cases own : server.owner id with
  | base => exact .inl rfl
  | worker index =>
      refine .inr (working id index own ?_)
      rw [outstanding, top, List.map_cons, List.sum_cons]
      omega

/-- Code of the user does not run on a worker that has exited. -/
theorem working_loop (empty : ∀ index, (server.threads (.worker index)).exited = true →
      (server.threads (.worker index)).stack = []) (callable : server.callable loop = true) :
    loop = .base ∨ (server.threads loop).exited = false := by
  cases loop with
  | base => exact .inl rfl
  | worker index =>
      refine .inr ?_
      by_contra exited
      have exited : (server.threads (.worker index)).exited = true := by simpa using exited
      simp [TcpServer.callable, empty index exited, exited] at callable

theorem moves (sound : Sound server)
    (working : ∀ id index, server.owner id = .worker index → 0 < server.outstanding id →
      (server.threads (.worker index)).exited = false)
    (awake : server.listening = true → ∀ index, (server.threads (.worker index)).exited = false)
    (empty : ∀ index, (server.threads (.worker index)).exited = true →
      (server.threads (.worker index)).stack = [])
    (stays : ∀ loop, action ≠ .exit loop) (moves : Moves server action next) :
    ∃ touched, Touched touched server next ∧
      (touched = .base ∨ (server.threads touched).exited = false) := by
  cases moves with
  | start =>
      unfold TcpServer.start
      split <;> exact ⟨.base, same _ rfl, .inl rfl⟩
  | stop =>
      unfold TcpServer.stop
      split
      · exact ⟨.base, same _ rfl, .inl rfl⟩
      · exact ⟨.base, pushed (.forceClosing server.connections) rfl, .inl rfl⟩
  | stopAfter =>
      unfold TcpServer.stopAfter
      split
      · exact ⟨.base, same _ rfl, .inl rfl⟩
      · split
        · exact ⟨.base, pushed (.joining false) rfl, .inl rfl⟩
        · exact ⟨.base, same _ rfl, .inl rfl⟩
  | destruct => exact ⟨.base, pushed (.destructing server.connections) rfl, .inl rfl⟩
  | acceptable => exact ⟨.base, push .accepting server, .inl rfl⟩
  | accept _ listening =>
      refine ⟨_, newConnection server, ?_⟩
      cases server.getNextLoop.1 with
      | base => exact .inl rfl
      | worker index => exact .inr (awake listening index)
  | @functor loop functor rest idle queued =>
      have awake : (server.threads loop).exited = false := by
        simp only [TcpServer.idle, Bool.and_eq_true, Bool.not_eq_true'] at idle
        exact idle.2
      obtain ⟨touched, touches, exited⟩ := Touched.functor sound queued working awake
      exact ⟨touched, touches, .inr exited⟩
  | expired =>
      unfold TcpServer.onDrainTimeout
      split
      · exact ⟨.base, same _ rfl, .inl rfl⟩
      · exact ⟨.base, pushed (.forceClosing server.connections) rfl, .inl rfl⟩
  | outlived | shutdown | noShutdown => exact ⟨.base, same _ rfl, .inl rfl⟩
  | @close loop id callable =>
      exact ⟨loop, does (.forceCloseInLoop loop id server), working_loop empty callable⟩
  | @abort loop id callable =>
      have closed : Touched loop server (server.setState id .kDisconnected) := same _ rfl
      exact ⟨loop, closed.trans (onThread rfl), working_loop empty callable⟩
  | @forceClose id listed rest top member =>
      exact taken top (List.count_pos_iff.mpr member) working (.forceClose .base id _)
  | @destroy id listed rest top member =>
      exact taken top (List.count_pos_iff.mpr member) working (.destroyConnection .base id _)
  | @resume loop frame rest top =>
      refine ⟨loop, resume frame loop server, ?_⟩
      cases loop with
      | base => exact .inl rfl
      | worker index =>
          refine .inr ?_
          by_contra exited
          have none := empty index (by simpa using exited)
          rw [none] at top
          cases top
  | exit => exact absurd rfl (stays _)

end Touched

/-- What holds of the pool and its workers. -/
structure Crew (server : TcpServer) : Prop where
  owned : ∀ id, .inserted id ∈ server.trace → server.numThreads = 0 ∧ server.owner id = .base ∨
    ∃ index < server.numThreads, server.owner id = .worker index
  chosen : 0 < server.numThreads → server.next < server.numThreads
  strangers : 0 < server.numThreads → ∀ frame ∈ server.base, ∀ id, frame.isOf id = false
  single : 0 < server.numThreads → server.base.length ≤ 1
  handed : ∀ id index, server.owner id = .worker index → server.threadPool ≠ .running →
    server.outstanding id = 0
  empty : ∀ index, (server.threads (.worker index)).exited = true →
    (server.threads (.worker index)).stack = [] ∧ (server.threads (.worker index)).queue = []
  released : ∀ index, (server.threads (.worker index)).exited = true →
    server.started = true ∧ server.threadPool ≠ .running
  joining : ∀ destructor, .joining destructor ∈ server.base → server.threadPool ≠ .running
  begun : server.threadPool ≠ .stopped → server.started = true
  joined : server.started = true → server.threadPool = .stopped → ∀ index < server.numThreads,
    (server.threads (.worker index)).exited = true
  closing : true ∈ server.listings → server.lifetimeToken = false
  ending : .joining true ∈ server.base → server.lifetimeToken = false
  dead : server.alive = false → server.lifetimeToken = false ∧ server.threadPool = .stopped

namespace Crew

theorem create (numThreads : Nat) (tlsContext : Bool) : Crew (create numThreads tlsContext) := by
  constructor <;> simp [TcpServer.create, base, listings, outstanding]

/-- A worker with something to be posted to it has not exited. -/
theorem working (crew : Crew server) (id index : Nat) (own : server.owner id = .worker index)
    (some : 0 < server.outstanding id) : (server.threads (.worker index)).exited = false := by
  by_contra exited
  have none := crew.handed id index own (crew.released index (by simpa using exited)).2
  omega

theorem awake (crew : Crew server) (desk : Desk server) (listening : server.listening = true)
    (index : Nat) : (server.threads (.worker index)).exited = false := by
  by_contra exited
  exact (crew.released index (by simpa using exited)).2 (desk.listening listening).2.2.1

/-- The base thread owns no connection when there are workers. -/
theorem not_base (crew : Crew server) (some : 0 < server.numThreads)
    (inserted : .inserted id ∈ server.trace) : server.owner id ≠ .base := by
  intro base
  rcases crew.owned id inserted with ⟨none, _⟩ | ⟨index, _, own⟩
  · omega
  · cases base.symm.trans own

theorem evolve_strangers (crew : Crew server) (desk : Desk server)
    (evolves : Evolves action server next) (some : 0 < server.numThreads) :
    (∀ frame ∈ next.base, ∀ id, frame.isOf id = false) ∧ next.base.length ≤ 1 := by
  have strangers := crew.strangers some
  have single := crew.single some
  have ofServer : ∀ {frame : Frame}, frame.isListing = true ∨ frame.isJoining = true →
      ∀ id, frame.isOf id = false := by
    intro frame kind id
    cases frame <;> simp_all [Frame.isListing, Frame.isJoining, Frame.isOf]
  cases evolves with
  | same stack =>
      rw [stack]
      exact ⟨strangers, single⟩
  | @closed other frames _ _ known stack =>
      have none : frames = [] := by
        by_contra pushed
        exact crew.not_base some (known pushed).1 (known pushed).2
      rw [stack, none, List.nil_append]
      exact ⟨strangers, single⟩
  | accepted _ listening _ own =>
      rw [getNextLoop, if_pos ⟨(desk.listening listening).2.2.1, some⟩] at own
      cases own
  | @began frame _ begins stack =>
      rw [stack]
      refine ⟨fun frame' member id => ?_, Nat.le_refl 1⟩
      rw [List.mem_singleton.mp member]
      rcases begins with rfl | ⟨listing, _⟩
      · rfl
      · exact ofServer (.inl listing) id
  | @removing other frames _ _ _ known own _ _ stack =>
      have none : frames = [] := by
        by_contra pushed
        exact crew.not_base some known (own pushed)
      rw [stack, none, List.nil_append]
      refine ⟨fun frame' member id => ?_, Nat.le_refl 1⟩
      rw [List.mem_singleton.mp member]
      rfl
  | @entered frame callable _ enters stack =>
      have idle : server.base = [] := by
        rcases callable_base callable with idle | ⟨frame, rest, id, top, own⟩
        · exact idle
        · cases (strangers frame (top ▸ List.mem_cons_self) id).symm.trans own
      rw [stack, idle]
      refine ⟨fun frame' member id => ?_, Nat.le_refl 1⟩
      rw [List.mem_singleton.mp member]
      rcases enters with ⟨listing, _⟩ | ⟨listing, _⟩ | ⟨rfl, _⟩
      · exact ofServer (.inl listing) id
      · exact ofServer (.inl listing) id
      · rfl
  | @listed other frame following frames rest top _ listing _ known own stack =>
      have none : frames = [] := by
        by_contra pushed
        exact crew.not_base some known (own pushed)
      rw [top] at strangers single
      rw [stack, none, List.nil_append]
      refine ⟨fun frame' member id => ?_, single⟩
      rcases List.mem_cons.mp member with rfl | earlier
      · exact ofServer (.inl listing) id
      · exact strangers frame' (List.mem_cons_of_mem _ earlier) id
  | went top own => cases (strangers _ (top ▸ List.mem_cons_self) _).symm.trans own
  | @finished frame frames rest top joins stack =>
      rw [top] at strangers single
      have none : rest = [] := by simpa using single
      rw [stack, none, List.append_nil]
      rcases joins with nothing | ⟨_, _, destructor, joining, _⟩
      · rw [nothing]
        simp
      · rw [joining]
        refine ⟨fun frame' member id => ?_, Nat.le_refl 1⟩
        rw [List.mem_singleton.mp member]
        rfl

/-- No code of the destructor is run while the server lives. -/
theorem course_closing (crew : Crew server) (course : Course server next)
    (destructs : true ∈ next.listings) : next.lifetimeToken = false := by
  have still : ∀ {next : TcpServer}, next.lifetimeToken = server.lifetimeToken →
      true ∈ server.listings → next.lifetimeToken = false :=
    fun same member => same.trans (crew.closing member)
  cases course with
  | quiet alike _ listings | inserted _ alike listings =>
      exact still alike.lifetime (listings ▸ destructs)
  | started _ _ _ lifetime listings | removal _ _ lifetime _ listings =>
      exact still lifetime (listings ▸ destructs)
  | stopped _ _ lifetime listings =>
      rcases listings with pushed | same
      · rw [pushed] at destructs
        exact still lifetime ((List.mem_cons.mp destructs).resolve_left (by simp))
      · exact still lifetime (same ▸ destructs)
  | destroyed _ _ _ lifetime => exact lifetime
  | timeout _ _ _ _ listings =>
      rw [listings.2] at destructs
      simp at destructs
  | joining alike _ listings =>
      refine still alike.lifetime ?_
      rw [listings]
      exact List.mem_cons_of_mem _ destructs

/-- A server that was destroyed is not revived. -/
theorem stays_dead (course : Course server next) (dead : server.lifetimeToken = false) :
    next.lifetimeToken = false := by
  by_contra living
  cases dead.symm.trans (course.living (by simpa using living))

/-- The base thread joins the pool only when the pool was asked to stop. -/
theorem evolve_joining (evolves : Evolves action server next) {destructor : Bool}
    (joining : .joining destructor ∈ next.base) :
    .joining destructor ∈ server.base ∨ next.threadPool ≠ .running ∧
      (destructor = true → true ∈ server.listings) := by
  have other : ∀ {frame : Frame} {id : Nat}, frame.isOf id = true → frame ≠ .joining destructor := by
    rintro frame id own rfl
    cases own
  cases evolves with
  | same stack => exact .inl (stack ▸ joining)
  | closed _ closes _ stack =>
      rw [stack, List.mem_append] at joining
      refine .inl (joining.resolve_left fun new => ?_)
      cases closes _ new
  | accepted _ _ ofId _ stack =>
      rw [stack, List.mem_cons] at joining
      exact .inl (joining.resolve_left (Ne.symm (other ofId)))
  | began _ begins stack =>
      rw [stack, List.mem_singleton] at joining
      subst joining
      rcases begins with same | ⟨listing, _⟩
      · cases same
      · cases listing
  | removing _ _ _ _ _ ofId _ stack =>
      rw [stack, List.mem_append, List.mem_singleton] at joining
      rcases joining with new | same
      · exact absurd rfl (other (ofId _ new).1)
      · cases same
  | entered _ _ enters stack =>
      rw [stack, List.mem_cons] at joining
      rcases joining with rfl | earlier
      · rcases enters with ⟨listing, _⟩ | ⟨listing, _⟩ | ⟨same, stopped⟩
        · cases listing
        · cases listing
        · cases same
          exact .inr ⟨stopped, by simp⟩
      · exact .inl earlier
  | listed top _ listing ofId _ _ stack =>
      rw [stack, List.mem_append, List.mem_cons] at joining
      rcases joining with new | rfl | earlier
      · exact absurd rfl (other (ofId _ new).1)
      · cases listing
      · exact .inl (top ▸ List.mem_cons_of_mem _ earlier)
  | went top _ ofId stack =>
      rw [stack, List.mem_append] at joining
      rcases joining with new | earlier
      · exact absurd rfl (other (ofId _ new).1)
      · exact .inl (top ▸ List.mem_cons_of_mem _ earlier)
  | finished top joins stack =>
      rw [stack, List.mem_append] at joining
      rcases joining with new | earlier
      · rcases joins with none | ⟨_, stopped, which, joining, final⟩
        · rw [none] at new
          cases new
        · rw [joining, List.mem_singleton, Frame.joining.injEq] at new
          refine .inr ⟨stopped, fun destructs => ?_⟩
          obtain ⟨listed, rfl⟩ := final (new ▸ destructs)
          rw [listings, top]
          exact List.mem_cons_self
      · exact .inl (top ▸ List.mem_cons_of_mem _ earlier)

theorem getNextLoop_next (server : TcpServer) (chosen : 0 < server.numThreads → server.next < server.numThreads)
    (some : 0 < server.numThreads) : server.getNextLoop.2.next < server.numThreads := by
  unfold getNextLoop
  split
  · dsimp only
    split
    · exact some
    · omega
  · exact chosen some

theorem exit_threads (loop : Loop) (server : TcpServer) (index : Nat) :
    ((server.onThread loop fun thread => { thread with exited := true }).threads (.worker index)).stack =
        (server.threads (.worker index)).stack ∧
      ((server.onThread loop fun thread => { thread with exited := true }).threads
        (.worker index)).queue = (server.threads (.worker index)).queue := by
  rw [onThread_threads]
  split
  case isTrue here =>
    rw [here]
    exact ⟨rfl, rfl⟩
  case isFalse => exact ⟨rfl, rfl⟩

/-- A worker that exited is left alone, and one exits only with nothing left to do. -/
structure Leaves (server next : TcpServer) : Prop where
  still : ∀ index, (server.threads (.worker index)).exited = true →
    next.threads (.worker index) = server.threads (.worker index)
  exits : ∀ index, (next.threads (.worker index)).exited = true →
    (server.threads (.worker index)).exited = true ∨
      ((next.threads (.worker index)).stack = [] ∧ (next.threads (.worker index)).queue = []) ∧
        server.threadPool = .stopping ∧ next.threadPool = .stopping ∧ next.started = server.started

theorem leaves (crew : Crew server) (desk : Desk server) (sound : Sound server)
    (moves : Moves server action next) : Leaves server next := by
  by_cases exits : ∃ loop, action = .exit loop
  · obtain ⟨loop, rfl⟩ := exits
    cases moves with
    | exit idle empty asked =>
      simp only [TcpServer.idle, Bool.and_eq_true, List.isEmpty_iff, Bool.not_eq_true'] at idle
      refine ⟨fun index exited => ?_, fun index exited => ?_⟩
      · rw [onThread_threads]
        split
        case isTrue here =>
          rw [here] at exited
          cases idle.2.symm.trans exited
        case isFalse => rfl
      · by_cases here : .worker index = loop
        · subst here
          obtain ⟨stack, queue⟩ := exit_threads (.worker index) server index
          have stopping := asked.resolve_left (by simp)
          exact .inr ⟨⟨stack.trans idle.1, queue.trans empty⟩, stopping, stopping, rfl⟩
        · rw [onThread_threads, if_neg here] at exited
          exact .inl exited
  · have stays : ∀ loop, action ≠ .exit loop := fun loop same => exits ⟨loop, same⟩
    obtain ⟨touched, touches, awake⟩ := Touched.moves sound crew.working (crew.awake desk)
      (fun index exited => (crew.empty index exited).1) stays moves
    refine ⟨fun index exited => ?_, fun index exited => ?_⟩
    · refine touches.others index fun same => ?_
      subst same
      rcases awake with base | awake
      · cases base
      · cases awake.symm.trans exited
    · refine .inl ?_
      by_cases same : .worker index = touched
      · subst same
        exact touches.exited.symm.trans exited
      · rw [← touches.others index same]
        exact exited

/-- Once the pool is not running no connection of a worker is left to hand over. -/
theorem moves_handed (crew : Crew server) (settled : Settled next) (ledger : Ledger next)
    (owned : ∀ id, .inserted id ∈ next.trace → next.numThreads = 0 ∧ next.owner id = .base ∨
      ∃ index < next.numThreads, next.owner id = .worker index)
    (single : 0 < next.numThreads → next.base.length ≤ 1) (pools : Pools server next)
    (books : Books server next) (id index : Nat) (own : next.owner id = .worker index)
    (stopped : next.threadPool ≠ .running) : next.outstanding id = 0 := by
  by_cases already : server.threadPool = .running
  · -- the pool was asked to stop in this step
    have joins : ∃ destructor, .joining destructor ∈ next.base := by
      cases pools with
      | same unmoved => exact absurd (unmoved.threadPool.trans already) stopped
      | started _ _ _ running => exact absurd running stopped
      | chosen _ _ threadPool => exact absurd (threadPool.trans already) stopped
      | stopping _ _ _ _ _ joining => exact ⟨_, joining⟩
      | joined _ _ _ _ threadPool =>
          rw [already] at threadPool
          exact absurd threadPool stopped
    obtain ⟨destructor, joining⟩ := joins
    by_contra some
    have inserted : .inserted id ∈ next.trace := by
      by_contra absent
      exact some (ledger.unknown id absent).2
    have workers : 0 < next.numThreads := by
      rcases owned id inserted with ⟨_, base⟩ | ⟨index, few, _⟩
      · cases base.symm.trans own
      · omega
    have stack : next.base = [.joining destructor] := by
      have one := single workers
      cases base : next.base with
      | nil =>
          rw [base] at joining
          cases joining
      | cons frame rest =>
          rw [base] at joining one
          have none : rest = [] := by simpa using one
          rw [none] at joining ⊢
          rw [List.mem_singleton.mp joining]
    have none := settled.desk.empty (settled.ordered.halted _ joining (.inr rfl))
    have stack : (next.threads .base).stack = [.joining destructor] := stack
    simp [outstanding, none, stack, Frame.listed] at some
  · cases books.entry id with
    | same _ outstanding owner =>
        rw [outstanding]
        exact crew.handed id index (owner.symm.trans own) already
    | inserted _ _ _ _ _ owner =>
        rw [owner, getNextLoop, if_neg fun both => already both.1] at own
        cases own
    | handed _ outstanding owner | inline _ outstanding owner =>
        have none := crew.handed id index (owner.symm.trans own) already
        omega

theorem numThreads (pools : Pools server next) : next.numThreads = server.numThreads := by
  cases pools with
  | same unmoved => exact unmoved.numThreads
  | started same | chosen same | stopping same | joined _ _ same => exact same

/-- The pool is started once. -/
theorem stays_stopped (pools : Pools server next) (started : server.started = true)
    (stopped : server.threadPool ≠ .running) :
    next.started = true ∧ next.threadPool ≠ .running := by
  cases pools with
  | same unmoved => exact ⟨unmoved.started.trans started, unmoved.threadPool ▸ stopped⟩
  | started _ unstarted => cases unstarted.symm.trans started
  | chosen _ same threadPool => exact ⟨same.trans started, threadPool ▸ stopped⟩
  | stopping _ same threadPool =>
      refine ⟨same.trans started, threadPool ▸ ?_⟩
      cases server.threadPool <;> simp [Pool.requestStop]
  | joined _ _ _ same threadPool =>
      refine ⟨same.trans started, threadPool ▸ ?_⟩
      generalize server.threadPool = pool at stopped ⊢
      cases pool with
      | stopped | stopping => simp [Pool.joined]
      | running => exact absurd rfl stopped

/-- Nor is it started while the base thread is busy with anything but a callback. -/
theorem moves_stopped (crew : Crew server) (settled : Settled server) (pools : Pools server next)
    (busy : server.base ≠ []) (stopped : server.threadPool ≠ .running) :
    next.threadPool ≠ .running := by
  by_cases started : server.started = true
  · exact (stays_stopped pools started stopped).2
  · have unstarted : server.started = false := by simpa using started
    have off : server.threadPool = .stopped := by
      by_contra on
      exact started (crew.begun on)
    cases pools with
    | same unmoved => simp [unmoved.threadPool, off]
    | started _ _ _ _ _ _ _ callable =>
        rcases callable_base callable with idle | ⟨frame, rest, id, top, own⟩
        · exact absurd idle busy
        · have stranger := settled.ordered.strangers unstarted frame (top ▸ List.mem_cons_self) id
          cases stranger.symm.trans own
    | chosen _ _ threadPool => simp [threadPool, off]
    | stopping _ _ threadPool => simp [threadPool, off, Pool.requestStop]
    | joined _ _ _ _ threadPool => simp [threadPool, off, Pool.joined]

theorem moves_begun (crew : Crew server) (pools : Pools server next)
    (stands : next.threadPool ≠ .stopped) : next.started = true := by
  have begun := crew.begun
  cases pools with
  | same unmoved => exact unmoved.started.trans (begun (unmoved.threadPool ▸ stands))
  | started _ _ started => exact started
  | chosen _ same threadPool => exact same.trans (begun (threadPool ▸ stands))
  | stopping _ same threadPool =>
      refine same.trans (begun fun stopped => stands ?_)
      rw [threadPool, stopped]
      rfl
  | joined _ _ _ same threadPool =>
      refine same.trans (begun fun stopped => stands ?_)
      rw [threadPool, stopped]
      rfl

theorem moves_joined (crew : Crew server) (pools : Pools server next) (leaves : Leaves server next)
    (started : next.started = true) (stopped : next.threadPool = .stopped) :
    ∀ index < next.numThreads, (next.threads (.worker index)).exited = true := by
  have before : ∀ index < server.numThreads, (server.threads (.worker index)).exited = true := by
    cases pools with
    | same unmoved =>
        exact crew.joined (unmoved.started.symm.trans started) (unmoved.threadPool.symm.trans stopped)
    | started _ _ _ running => cases running.symm.trans stopped
    | chosen _ same threadPool =>
        exact crew.joined (same.symm.trans started) (threadPool.symm.trans stopped)
    | stopping _ same threadPool =>
        refine crew.joined (same.symm.trans started) ?_
        rw [stopped] at threadPool
        generalize server.threadPool = pool at threadPool
        cases pool with
        | stopped => rfl
        | running | stopping => cases threadPool
    | joined _ ready _ same threadPool =>
        by_cases still : server.threadPool = .stopping
        · simpa [TcpServer.ready, still] using ready
        · refine crew.joined (same.symm.trans started) ?_
          rw [stopped] at threadPool
          generalize server.threadPool = pool at threadPool still
          cases pool with
          | stopped => rfl
          | running => cases threadPool
          | stopping => exact absurd rfl still
  intro index few
  have exited := before index (numThreads pools ▸ few)
  rw [leaves.still index exited]
  exact exited

theorem moves_dead (crew : Crew server) (pools : Pools server next)
    (stays : server.lifetimeToken = false → next.lifetimeToken = false) (dead : next.alive = false) :
    next.lifetimeToken = false ∧ next.threadPool = .stopped := by
  cases pools with
  | same unmoved =>
      obtain ⟨gone, stopped⟩ := crew.dead (unmoved.alive.symm.trans dead)
      exact ⟨stays gone, unmoved.threadPool.trans stopped⟩
  | started _ _ _ _ _ alive lifetime =>
      cases (crew.dead (alive.symm.trans dead)).1.symm.trans lifetime
  | chosen _ _ threadPool _ alive =>
      obtain ⟨gone, stopped⟩ := crew.dead (alive.symm.trans dead)
      exact ⟨stays gone, threadPool.trans stopped⟩
  | stopping _ _ threadPool _ alive =>
      obtain ⟨gone, stopped⟩ := crew.dead (alive.symm.trans dead)
      refine ⟨stays gone, threadPool.trans ?_⟩
      rw [stopped]
      rfl
  | @joined destructor joining _ _ _ threadPool _ alive =>
      have stopped : server.threadPool.joined = .stopped := by
        have not_running := crew.joining destructor joining
        generalize server.threadPool = pool at not_running
        cases pool with
        | stopped | stopping => rfl
        | running => exact absurd rfl not_running
      refine ⟨stays ?_, threadPool.trans stopped⟩
      by_cases before : server.alive = false
      · exact (crew.dead before).1
      · rw [dead] at alive
        have destructs : destructor = true := by simpa [before] using alive
        exact crew.ending (destructs ▸ joining)

theorem moves_owned (crew : Crew server) (desk : Desk server) (pools : Pools server next)
    (books : Books server next) (inserted : .inserted id ∈ next.trace) :
    next.numThreads = 0 ∧ next.owner id = .base ∨
      ∃ index < next.numThreads, next.owner id = .worker index := by
  rw [numThreads pools]
  cases books.entry id with
  | same _ _ owner old | handed _ _ owner old | inline _ _ owner _ old =>
      rw [owner]
      exact crew.owned id (old.mp inserted)
  | inserted listening _ _ _ _ owner =>
      rw [owner, getNextLoop]
      by_cases some : 0 < server.numThreads
      · rw [if_pos ⟨(desk.listening listening).2.2.1, some⟩]
        exact .inr ⟨server.next, crew.chosen some, rfl⟩
      · rw [if_neg fun both => some both.2]
        exact .inl ⟨by omega, rfl⟩

theorem moves (crew : Crew server) (settled : Settled server) (moves : Moves server action next) :
    Crew next := by
  have course : Course server next := .moves settled.sound moves
  have pools : Pools server next := .moves settled.sound moves
  have evolves : Evolves action server next := .moves settled.sound moves
  have books : Books server next := moves.books settled.sound.ledger.placed settled.sound.framed.routed
    (settled.sound.ledger.unmarked settled.sound.fresh)
  have leaves := crew.leaves settled.desk settled.sound moves
  have settled' : Settled next := settled.moves moves
  have owned := fun id => @moves_owned server next id crew settled.desk pools books
  have single : 0 < next.numThreads → next.base.length ≤ 1 := fun some =>
    (crew.evolve_strangers settled.desk evolves (numThreads pools ▸ some)).2
  refine ⟨owned, fun some => ?_, fun some => ?_, single, ?_, fun index exited => ?_,
    fun index exited => ?_, fun destructor joining running => ?_, crew.moves_begun pools,
    crew.moves_joined pools leaves, crew.course_closing course, fun joining => ?_,
    crew.moves_dead pools (stays_dead course)⟩
  · rw [numThreads pools] at some ⊢
    have chosen := crew.chosen
    cases pools with
    | same unmoved => exact unmoved.worker ▸ chosen some
    | started _ _ _ _ first => exact first ▸ some
    | chosen _ _ _ worker => exact worker ▸ getNextLoop_next server chosen some
    | stopping _ _ _ worker | joined _ _ _ _ _ worker => exact worker ▸ chosen some
  · exact (crew.evolve_strangers settled.desk evolves (numThreads pools ▸ some)).1
  · exact crew.moves_handed settled' settled'.sound.ledger owned single pools books
  · rcases leaves.exits index exited with before | ⟨empty, _⟩
    · rw [leaves.still index before]
      exact crew.empty index before
    · exact empty
  · rcases leaves.exits index exited with before | ⟨_, stopping, stopping', started⟩
    · obtain ⟨started, stopped⟩ := crew.released index before
      exact stays_stopped pools started stopped
    · exact ⟨started.trans (crew.begun (by simp [stopping])), by simp [stopping']⟩
  · rcases evolve_joining evolves joining with before | ⟨stopped, _⟩
    · exact crew.moves_stopped settled pools (List.ne_nil_of_mem before)
        (crew.joining destructor before) running
    · exact stopped running
  · rcases evolve_joining evolves joining with before | ⟨_, final⟩
    · exact stays_dead course (crew.ending before)
    · exact stays_dead course (crew.closing (final rfl))

end Crew

end MiniTrantor.Net.TcpServer
