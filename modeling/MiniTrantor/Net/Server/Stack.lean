import MiniTrantor.Net.Server.States

/-!
# The stack of the base thread

What the base thread is in the middle of changes in one of a few ways: code of the user
calls a function, the base loop begins one, or the function on the top goes on.
-/

set_option autoImplicit false

namespace MiniTrantor.Net.TcpServer

variable {before after server next : TcpServer} {action : Action} {loop : Loop} {id other : Nat}

/-- What the base thread is in the middle of. -/
def base (server : TcpServer) : List Frame := (server.threads .base).stack

/-- The loops over connections. -/
def Frame.isListing : Frame → Bool
  | .forceClosing _ | .destructing _ => true
  | _ => false

/-- The server has stopped, or is done with draining. -/
def Halted (server : TcpServer) : Prop := server.stopped = true ∧ server.draining = false

/-- The server was draining and no longer is. -/
def Drained (server next : TcpServer) : Prop :=
  server.draining = true ∧ next.stopped = server.stopped ∧ next.draining = false

/-- What becomes of the stack of the base thread. -/
inductive Evolves (action : Action) (server next : TcpServer) : Prop where
  | same (stack : next.base = server.base)
  | closed {id : Nat} {frames : List Frame} (callable : server.callable .base = true)
      (closes : ∀ frame ∈ frames, frame = .disconnected id true)
      (known : frames ≠ [] → .inserted id ∈ server.trace ∧ server.owner id = .base)
      (stack : next.base = frames ++ server.base)
  | accepted {id : Nat} {frame : Frame} {rest : List Frame} (top : server.base = .accepting :: rest)
      (listening : server.listening = true) (ofId : frame.isOf id = true)
      (own : server.getNextLoop.1 = .base) (stack : next.base = frame :: server.base)
  | began {frame : Frame} (idle : server.base = [])
      (begins : frame = .accepting ∨ frame.isListing = true ∧ Drained server next)
      (stack : next.base = [frame])
  | removing {id : Nat} {frames : List Frame} (idle : server.base = [])
      (lifetime : next.lifetimeToken = true)
      (queued : .removeConnectionInLoop id ∈ (server.threads .base).queue)
      (known : .inserted id ∈ server.trace) (own : frames ≠ [] → server.owner id = .base)
      (ofId : ∀ frame ∈ frames, frame.isOf id = true ∧ frame ≠ .handshakeStarted id)
      (closed : server.state id = .kDisconnected → frames = [])
      (stack : next.base = frames ++ [.removed])
  | entered {frame : Frame} (callable : server.callable .base = true) (halted : Halted next)
      (enters : frame.isListing = true ∧ server.stopped = false ∧ action = .stop ∨
        frame.isListing = true ∧ .accepting ∉ server.base ∨
        frame = .joining false ∧ next.threadPool ≠ .running)
      (stack : next.base = frame :: server.base)
  | listed {id : Nat} {frame following : Frame} {frames rest : List Frame}
      (top : server.base = frame :: rest) (listing : frame.isListing = true)
      (listing' : following.isListing = true)
      (ofId : ∀ frame ∈ frames, frame.isOf id = true ∧ frame ≠ .handshakeStarted id)
      (known : .inserted id ∈ server.trace) (own : frames ≠ [] → server.owner id = .base)
      (stack : next.base = frames ++ following :: rest)
  | went {id : Nat} {frame : Frame} {frames rest : List Frame} (top : server.base = frame :: rest)
      (own : frame.isOf id = true)
      (ofId : ∀ frame ∈ frames, frame.isOf id = true ∧ frame ≠ .handshakeStarted id)
      (stack : next.base = frames ++ rest)
  | finished {frame : Frame} {frames rest : List Frame} (top : server.base = frame :: rest)
      (joins : frames = [] ∨ (frame.isListing = true ∨ frame = .removed ∧ Drained server next) ∧
        next.threadPool ≠ .running ∧ ∃ destructor, frames = [.joining destructor] ∧
          (destructor = true → ∃ listed, frame = .destructing listed))
      (stack : next.base = frames ++ rest)

theorem Does.stack {marks : List Mark} (does : Does loop id marks before after) :
    (loop ≠ .base → after.base = before.base) ∧ (loop = .base → ∃ frames,
      (∀ frame ∈ frames, frame.isOf id = true ∧
        (frame = .handshakeStarted id → .established ∈ marks)) ∧
      after.base = frames ++ before.base) := by
  obtain ⟨frames, events, acts, ofId, _, conserved, _⟩ := does
  constructor
  · intro other
    rw [base, base, acts.threads, Function.update_of_ne (Ne.symm other)]
  · rintro rfl
    refine ⟨frames, fun frame member => ⟨ofId frame member, ?_⟩, ?_⟩
    · rintro rfl
      have marked : (Mark.established, Loop.base) ∈ marks.map fun mark => (mark, Loop.base) := by
        rw [← conserved, List.mem_append]
        refine .inr (List.mem_map.mpr ⟨.established, List.mem_flatMap.mpr ⟨_, member, ?_⟩, rfl⟩)
        simp [Frame.marks, markIf]
      simpa using marked
    · rw [base, base, acts.threads, Function.update_self]

theorem base_onThread (other : loop ≠ .base)
    (change : Thread Frame Functor → Thread Frame Functor) :
    (server.onThread loop change).base = server.base := by
  simp [base, onThread, Function.update_of_ne (Ne.symm other)]

theorem pop_base {frame : Frame} {rest : List Frame} (top : server.base = frame :: rest) :
    (server.onThread .base Thread.pop).base = rest := by
  unfold base at top
  simp [base, onThread, Thread.pop, top]

namespace Evolves

/-- What is done with a connection that was the business of the top frame. -/
theorem does {marks : List Mark} {frame : Frame} {rest : List Frame}
    (top : (server.threads loop).stack = frame :: rest) (own : frame.isOf id = true)
    (closing : .established ∉ marks)
    (does : Does loop id marks (server.onThread loop Thread.pop) next) : Evolves action server next := by
  by_cases here : loop = .base
  · obtain ⟨frames, ofId, stack⟩ := does.stack.2 here
    subst here
    rw [pop_base top] at stack
    refine .went top own (fun frame member => ?_) stack
    exact ⟨(ofId frame member).1, fun same => closing ((ofId frame member).2 same)⟩
  · exact .same ((does.stack.1 here).trans (base_onThread here _))

theorem stopPool (destructor : Bool) (server : TcpServer) :
    (server.stopPool destructor).base = .joining destructor :: server.base := by
  simp [base, TcpServer.stopPool, TcpServer.push, onThread, Thread.push, TcpServer.emit]

/-- A pool that is asked to stop, or was stopped, is not running. -/
theorem stopPool_stops (destructor : Bool) (server : TcpServer) :
    (server.stopPool destructor).threadPool ≠ .running := by
  show server.threadPool.requestStop ≠ .running
  cases server.threadPool <;> simp [Pool.requestStop]

theorem notifyClose (id : Nat) (server : TcpServer) :
    (server.notifyClose id).base = server.base := by
  unfold TcpServer.notifyClose queueInBase
  split
  · split
    · rfl
    · simp [base, onThread, Thread.post, TcpServer.emit]
  · rfl

theorem finishRemoval (server : TcpServer) : server.finishRemoval.base = server.base ∨
    server.finishRemoval.base = .joining false :: server.base ∧
      server.finishRemoval.threadPool ≠ .running ∧ Drained server server.finishRemoval := by
  unfold TcpServer.finishRemoval
  split
  case isTrue done =>
    rw [Bool.and_eq_true] at done
    exact .inr ⟨stopPool false _, stopPool_stops false _, done.1, rfl, rfl⟩
  case isFalse => exact .inl rfl

theorem resume {frame : Frame} {rest : List Frame}
    (top : (server.threads loop).stack = frame :: rest)
    (own : loop = .base ∨ ∃ id, frame.isOf id = true) :
    Evolves action server (frame.resume loop (server.onThread loop Thread.pop)) := by
  have left : loop = .base → (server.onThread loop Thread.pop).base = rest := by
    rintro rfl
    exact pop_base top
  have elsewhere : loop ≠ .base → (server.onThread loop Thread.pop).base = server.base :=
    fun other => base_onThread other _
  have popped : ∀ next : TcpServer, next.base = (server.onThread loop Thread.pop).base →
      Evolves action server next := by
    intro next stack
    by_cases here : loop = .base
    · subst here
      exact .finished top (.inl rfl) (stack.trans (left rfl))
    · exact .same (stack.trans (elsewhere here))
  have joins : ∀ next : TcpServer,
      frame.isListing = true ∨ frame = .removed ∧ Drained server next →
      (∀ id, frame.isOf id = false) → next.threadPool ≠ .running →
      (∃ destructor, next.base = .joining destructor :: (server.onThread loop Thread.pop).base ∧
        (destructor = true → ∃ listed, frame = .destructing listed)) →
      Evolves action server next := by
    rintro next ends ofServer stopped ⟨destructor, stack, final⟩
    have here : loop = .base := by
      rcases own with here | ⟨id, of⟩
      · exact here
      · cases (ofServer id).symm.trans of
    subst here
    exact .finished top (.inr ⟨ends, stopped, destructor, rfl, final⟩) (by rw [stack, left rfl]; rfl)
  cases frame with
  | accepting | connected => exact popped _ rfl
  | handshakeStarted id =>
      by_cases here : loop = .base
      · subst here
        have pushed : ((server.onThread .base Thread.pop).connectEstablished .base id).base =
            [.connected id] ++ rest := by
          rw [← left rfl]
          simp [base, TcpServer.connectEstablished, TcpServer.push, onThread, Thread.push,
            TcpServer.emit, setState, onConn]
        exact .went top (beq_self_eq_true id) (by simp [Frame.isOf]) pushed
      · exact .same (((Does.connectEstablished loop id _).stack.1 here).trans (elsewhere here))
  | disconnected id notifies =>
      refine popped _ ?_
      simp only [Frame.resume]
      split
      · exact notifyClose id _
      · rfl
  | forceClosed id =>
      exact does top (beq_self_eq_true id) (by simp) (.closeAndDestroy loop id _)
  | destroying id =>
      exact does top (beq_self_eq_true id) (by simp) (.connectDestroyed loop id _)
  | forceClosing listed =>
      exact joins _ (.inl rfl) (fun _ => rfl) (stopPool_stops false _)
        ⟨false, stopPool false _, by simp⟩
  | destructing listed =>
      exact joins _ (.inl rfl) (fun _ => rfl) (stopPool_stops true _)
        ⟨true, stopPool true _, fun _ => ⟨listed, rfl⟩⟩
  | removed =>
      rcases finishRemoval (server.onThread loop Thread.pop) with same | ⟨joined, stopped, drained⟩
      · exact popped _ same
      · exact joins _ (.inr ⟨rfl, drained⟩) (fun _ => rfl) stopped ⟨false, joined, by simp⟩
  | joining => exact popped _ rfl

end Evolves

/-- A connection that is listed is known. -/
theorem Sound.listed {frame : Frame} {rest : List Frame} (sound : Sound server)
    (top : server.base = frame :: rest) (some : 0 < frame.listed id) :
    .inserted id ∈ server.trace := by
  by_contra absent
  have none := (sound.ledger.unknown id absent).2
  have top : (server.threads .base).stack = frame :: rest := top
  simp only [outstanding, top, List.map_cons, List.sum_cons] at none
  omega

/-- So is one of the map. -/
theorem Sound.mapped (sound : Sound server) (member : id ∈ server.connections) :
    .inserted id ∈ server.trace := by
  by_contra absent
  have none := (sound.ledger.unknown id absent).2
  have some := List.count_pos_iff.mpr member
  rw [outstanding] at none
  omega

namespace Evolves

/-- The base thread with nothing but what was begun on it. -/
theorem of_idle (idle : server.idle .base = true) : server.base = [] := by
  simp only [TcpServer.idle, Bool.and_eq_true, List.isEmpty_iff] at idle
  exact idle.1

theorem push (frame : Frame) (server : TcpServer) :
    (server.push .base frame).base = frame :: server.base := by
  simp [base, TcpServer.push, onThread, Thread.push]

theorem establish (id : Nat) (server : TcpServer) :
    ∃ frame, frame.isOf id = true ∧ (server.establish .base id).base = frame :: server.base := by
  unfold TcpServer.establish
  split
  · exact ⟨.handshakeStarted id, beq_self_eq_true id, push _ _⟩
  · exact ⟨.connected id, beq_self_eq_true id, push _ _⟩

theorem newConnection {rest : List Frame} (top : server.base = .accepting :: rest)
    (listening : server.listening = true) : Evolves action server server.newConnection := by
  unfold TcpServer.newConnection
  split
  · exact .same rfl
  · dsimp only
    obtain ⟨next, selected⟩ := server.getNextLoop_same
    rw [selected]
    unfold runInLoop
    split
    case h_1 base =>
      obtain ⟨frame, ofId, stack⟩ := establish server.nextConnId
        ({ server with next }.insert server.getNextLoop.1)
      refine .accepted top listening ofId ?_ stack
      simpa [insert, emit] using base
    · exact .same (base_onThread (by simp) _)

theorem listing {frame following : Frame} {rest : List Frame} {functor : Functor}
    {run : TcpServer → TcpServer} {marks : List Mark} (top : server.base = frame :: rest)
    (before : frame.isListing = true) (after : following.isListing = true)
    (done : .established ∉ marks) (known : .inserted id ∈ server.trace)
    (does : Does .base id marks ((server.onThread .base Thread.pop).push .base following)
      (run ((server.onThread .base Thread.pop).push .base following))) :
    Evolves action server (((server.onThread .base Thread.pop).push .base following).runInLoop id functor
      run) := by
  have stack : ((server.onThread .base Thread.pop).push .base following).base = following :: rest := by
    rw [push, pop_base top]
  unfold runInLoop
  split
  case h_1 base =>
    obtain ⟨frames, ofId, grown⟩ := does.stack.2 rfl
    rw [stack] at grown
    have ofId : ∀ frame ∈ frames, frame.isOf id = true ∧ frame ≠ .handshakeStarted id :=
      fun frame member => ⟨(ofId frame member).1, fun same => done ((ofId frame member).2 same)⟩
    exact .listed top before after ofId known (fun _ => base) grown
  case h_2 index _ =>
    have other : Loop.worker index ≠ .base := by simp
    have none : ∀ frame ∈ ([] : List Frame), frame.isOf id = true ∧ frame ≠ .handshakeStarted id :=
      by simp
    exact .listed top before after none known (absurd rfl) ((base_onThread other _).trans stack)

/-- A connection of the map is taken out of it. If it is one of the base thread and was closed,
nothing else is to be done with it at once. -/
theorem removed (idle : server.base = []) (member : id ∈ server.connections) :
    (∃ frames, (∀ frame ∈ frames, frame.isOf id = true ∧ frame ≠ .handshakeStarted id) ∧
      (frames ≠ [] → server.owner id = .base) ∧
      (server.state id = .kDisconnected → frames = []) ∧
      ((server.onThread .base Thread.take).removeConnectionInLoop id).base =
        frames ++ [.removed]) ∧
    ((server.onThread .base Thread.take).removeConnectionInLoop id).desk =
      { server with connections := server.connections.erase id }.desk := by
  have begun : (({ (server.onThread .base Thread.take).emit (.removal id) with
      connections := server.connections.erase id }.emit (.left id true)).push .base
        .removed).base = [.removed] := by
    have taken : (server.onThread .base Thread.take).base = [] := by
      simpa [base, onThread, Thread.take] using idle
    rw [push]
    exact congrArg (List.cons _) taken
  unfold removeConnectionInLoop
  dsimp only
  rw [if_pos (show id ∈ ((server.onThread .base Thread.take).emit (.removal id)).connections from
    member)]
  refine ⟨?_, runInLoop_desk (.connectDestroyed .base id _)⟩
  unfold runInLoop
  split
  case h_1 own =>
    unfold TcpServer.connectDestroyed
    dsimp only
    split
    case isTrue connected =>
      have connected : server.state id = .kConnected := connected
      refine ⟨[.disconnected id false], by simp [Frame.isOf], fun _ => own, ?_, ?_⟩
      · simp [connected]
      · exact (push _ _).trans (congrArg (List.cons _) begun)
    case isFalse => exact ⟨[], by simp, by simp, fun _ => rfl, begun⟩
  case h_2 index _ =>
    have other : Loop.worker index ≠ .base := by simp
    exact ⟨[], by simp, by simp, fun _ => rfl, (base_onThread other _).trans begun⟩

theorem removal (sound : Sound server) (idle : server.base = [])
    (lifetime : server.lifetimeToken = true) {rest : List Functor}
    (queued : (server.threads .base).queue = .removeConnectionInLoop id :: rest) :
    Evolves action server ((server.onThread .base Thread.take).removeConnectionInLoop id) := by
  by_cases member : id ∈ server.connections
  · obtain ⟨⟨frames, ofId, own, closed, stack⟩, desk⟩ := removed idle member
    exact .removing idle ((congrArg lifetimeToken desk :).trans lifetime)
      (queued ▸ List.mem_cons_self) (sound.mapped member) own ofId closed stack
  · refine .same ?_
    unfold removeConnectionInLoop
    dsimp only
    rw [if_neg (show id ∉ ((server.onThread .base Thread.take).emit (.removal id)).connections from
      member)]
    rfl

theorem moves (sound : Sound server) (moves : Moves server action next) :
    Evolves action server next := by
  cases moves with
  | start =>
      unfold TcpServer.start
      split <;> exact .same rfl
  | stop _ callable =>
      unfold TcpServer.stop
      split
      · exact .same rfl
      case isFalse running =>
        have running : server.stopped = false := by simpa using running
        exact .entered callable ⟨rfl, rfl⟩ (.inl ⟨rfl, running, rfl⟩) (push (.forceClosing server.connections) _)
  | stopAfter _ callable =>
      unfold TcpServer.stopAfter
      split
      · exact .same rfl
      · split
        · exact .entered callable ⟨rfl, rfl⟩ (.inr (.inr ⟨rfl, stopPool_stops false _⟩))
            (stopPool false _)
        · exact .same rfl
  | destruct _ callable outside =>
      exact .entered callable ⟨rfl, rfl⟩ (.inr (.inl ⟨rfl, outside⟩))
        (push (.destructing server.connections) _)
  | acceptable idle =>
      refine .began (of_idle idle) (.inl rfl) ?_
      rw [push, of_idle idle]
  | accept top listening => exact newConnection top listening
  | @functor loop functor rest idle queued =>
      have member : functor ∈ (server.threads loop).queue := queued ▸ List.mem_cons_self
      by_cases here : loop = .base
      · subst here
        obtain ⟨id, rfl⟩ := (sound.framed.routed .base functor member).mp rfl
        simp only [Functor.run]
        split
        case isTrue lifetime => exact removal sound (of_idle idle) lifetime queued
        case isFalse => exact .same (by simp [base, onThread, Thread.take])
      · have taken : (server.onThread loop Thread.take).base = server.base := base_onThread here _
        refine .same (Eq.trans ?_ taken)
        cases functor with
        | connectEstablished id => exact (Does.establish loop id _).stack.1 here
        | forceClose id => exact (Does.forceClose loop id _).stack.1 here
        | destroy id => exact (Does.destroyConnection loop id _).stack.1 here
        | connectDestroyed id => exact (Does.connectDestroyed loop id _).stack.1 here
        | removeConnectionInLoop id =>
            exact absurd ((sound.framed.routed loop _ member).mpr ⟨id, rfl⟩) here
  | expired idle =>
      unfold TcpServer.onDrainTimeout
      split
      · exact .same rfl
      case isFalse draining =>
        have draining : server.draining = true := by simpa using draining
        have begun : ∀ middle : TcpServer, middle.base = [] →
            middle.forceCloseAllConnections.base = [.forceClosing middle.connections] := by
          intro middle empty
          exact (push _ _).trans (congrArg (List.cons _) empty)
        exact .began (of_idle idle) (.inr ⟨rfl, draining, rfl, rfl⟩) (begun _ (of_idle idle))
  | outlived => exact .same rfl
  | @close loop id callable own =>
      by_cases here : loop = .base
      · subst here
        obtain ⟨frames, acts, closes⟩ := Acts.forceCloseInLoop .base id server
        refine .closed callable (fun frame member => (closes frame member).1) (fun some => ⟨?_, own⟩) ?_
        · obtain ⟨frame, member⟩ := List.exists_mem_of_ne_nil _ some
          by_contra absent
          exact (closes frame member).2.2 (sound.connecting absent)
        · rw [base, base, acts.threads, Function.update_self]
      · exact .same ((Does.forceCloseInLoop loop id server).stack.1 here)
  | @abort loop id callable own _ hooked =>
      by_cases here : loop = .base
      · subst here
        exact .closed callable (fun frame member => List.mem_singleton.mp member)
          (fun _ => ⟨sound.hooked hooked, own⟩) (push (.disconnected id true) _)
      · exact .same (base_onThread here _)
  | shutdown => exact .same rfl
  | noShutdown => exact .same rfl
  | @forceClose id listed rest top member =>
      have known := sound.listed top (List.count_pos_iff.mpr member)
      exact listing top rfl rfl (by simp) known (.forceClose .base id _)
  | @destroy id listed rest top member =>
      have known := sound.listed top (List.count_pos_iff.mpr member)
      exact listing top rfl rfl (by simp) known (.destroyConnection .base id _)
  | @resume loop frame rest top =>
      refine resume top ?_
      by_cases here : loop = .base
      · exact .inl here
      · exact .inr (sound.framed.workers loop here frame (top ▸ List.mem_cons_self))
  | @exit loop =>
      refine .same ?_
      rw [base, onThread_threads]
      split
      case isTrue here =>
        subst here
        rfl
      case isFalse => rfl

end Evolves

end MiniTrantor.Net.TcpServer
