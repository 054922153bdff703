import MiniTrantor.Net.Server.Ledger

/-!
# States of the connections of a server

A connection that is not closed before it is established leaves `kConnecting` only when it
is established, which happens once, so a connection that was closed stays closed. A removal
that was posted is therefore that of a closed connection.
-/

set_option autoImplicit false

namespace MiniTrantor.Net.TcpServer

variable {before after server next : TcpServer} {loop : Loop} {id other : Nat}

def state (server : TcpServer) (id : Nat) : StateE := (server.conns id).state

/-- How often a connection was established. -/
def opened (server : TcpServer) (id : Nat) : Nat :=
  (server.recorded id).countP fun mark => mark.1 == .established

/-- What becomes of the state of a connection. -/
inductive Turn (before after : TcpServer) (id : Nat) : Prop where
  | kept (connecting : after.state id = .kConnecting ↔ before.state id = .kConnecting)
      (closed : before.state id = .kDisconnected → after.state id = .kDisconnected)
      (opened : after.opened id = before.opened id)
  | opened (connected : after.state id ≠ .kConnecting) (opened : before.opened id < after.opened id)

namespace Turn

theorem same (state : after.state id = before.state id)
    (recorded : after.recorded id = before.recorded id) : Turn before after id := by
  refine .kept (by rw [state]) (fun closed => state.trans closed) ?_
  rw [TcpServer.opened, TcpServer.opened, recorded]

theorem trans {middle : TcpServer} (first : Turn before middle id) (second : Turn middle after id) :
    Turn before after id := by
  cases first with
  | kept connecting closed opened =>
      cases second with
      | kept connecting' closed' opened' =>
          exact .kept (connecting'.trans connecting) (fun shut => closed' (closed shut))
            (opened'.trans opened)
      | opened connected more => exact .opened connected (opened ▸ more)
  | opened connected more =>
      cases second with
      | kept connecting' closed' opened' =>
          exact .opened (fun again => connected (connecting'.mp again)) (opened' ▸ more)
      | opened connected' more' => exact .opened connected' (more.trans more')

theorem does {marks : List Mark} (does : Does loop id marks before after) (other : Nat) :
    Turn before after other := by
  obtain ⟨frames, events, acts, _, onLoop, _⟩ := does
  have history : ∀ other, after.recorded other = before.recorded other ++
      events.flatMap (Event.marks other) := by
    intro other
    rw [recorded, recorded, acts.trace, List.flatMap_append]
  by_cases same : other = id
  · subst same
    by_cases done : .connectEstablished other loop ∈ events
    · refine .opened (acts.opened done) ?_
      rw [TcpServer.opened, TcpServer.opened, history, List.countP_append, Nat.lt_add_right_iff_pos,
        List.countP_pos_iff]
      refine ⟨(.established, loop), ?_, rfl⟩
      rw [List.mem_flatMap]
      exact ⟨_, done, by simp [Event.marks, markIf]⟩
    · obtain ⟨connecting, closed⟩ := acts.kept done
      refine .kept connecting closed ?_
      rw [TcpServer.opened, TcpServer.opened, history, List.countP_append, Nat.add_eq_left,
        List.countP_eq_zero]
      intro mark member
      obtain ⟨event, held, marked⟩ := List.mem_flatMap.mp member
      rcases onLoop event held with rfl | rfl
      · exact absurd held done
      · simp only [Event.marks, markIf, if_true, List.map_cons, List.map_nil,
          List.mem_singleton] at marked
        simp [marked]
  · have unmarked : events.flatMap (Event.marks other) = [] := by
      rw [List.flatMap_eq_nil_iff]
      intro event member
      have none : ∀ mark, markIf other id mark = [] := fun mark => if_neg (Ne.symm same)
      rcases onLoop event member with same | same <;> simp [same, Event.marks, none]
    refine .same ?_ (by rw [history, unmarked, List.append_nil])
    rw [state, state, acts.others other same]

/-- Steps of the server itself leave the connections alone. -/
theorem of_server (conns : after.conns = before.conns) {events : List Event}
    (trace : after.trace = before.trace ++ events)
    (unmarked : ∀ event ∈ events, ∀ id, event.marks id = []) : Turn before after id := by
  refine .same (by rw [state, state, conns]) ?_
  have none : events.flatMap (Event.marks id) = [] := by
    rw [List.flatMap_eq_nil_iff]
    exact fun event member => unmarked event member id
  rw [recorded, recorded, trace, List.flatMap_append, none, List.append_nil]

theorem refl (server : TcpServer) : Turn server server id := .same rfl rfl

theorem stopPool (destructor : Bool) (server : TcpServer) :
    Turn server (server.stopPool destructor) id :=
  .of_server rfl rfl (by simp [Event.marks])

theorem fields (conns : after.conns = before.conns) (trace : after.trace = before.trace) :
    Turn before after id :=
  .of_server conns (trace.trans (List.append_nil _).symm) (by simp)

theorem emit {event : Event} (unmarked : ∀ id, event.marks id = []) (server : TcpServer) :
    Turn server (server.emit event) id :=
  .of_server rfl rfl (by simp [unmarked])

theorem stop (server : TcpServer) : Turn server server.stop id := by
  unfold TcpServer.stop
  split
  · exact .refl server
  · exact .of_server rfl rfl (by simp [Event.marks])

theorem stopAfter (server : TcpServer) : Turn server server.stopAfter id := by
  unfold TcpServer.stopAfter
  split
  · exact .refl server
  · split
    · exact .of_server rfl (List.append_assoc ..) (by simp [Event.marks])
    · exact .fields rfl rfl

theorem onDrainTimeout (server : TcpServer) : Turn server server.onDrainTimeout id := by
  unfold TcpServer.onDrainTimeout
  split
  · exact .fields rfl rfl
  · exact .of_server rfl (List.append_assoc ..) (by simp [Event.marks])

theorem finishRemoval (server : TcpServer) : Turn server server.finishRemoval id := by
  unfold TcpServer.finishRemoval
  split
  · exact .of_server rfl (List.append_assoc ..) (by simp [Event.marks])
  · exact .refl server

theorem notifyClose (id : Nat) (server : TcpServer) :
    Turn server (server.notifyClose id) other := by
  unfold TcpServer.notifyClose
  split
  · have told : Turn server (server.emit (.closed id)) other := .emit (fun _ => rfl) server
    refine told.trans ?_
    unfold queueInBase
    split
    · exact .refl _
    · exact .fields rfl rfl
  · exact .refl server

theorem runInLoop {functor : Functor} {run : TcpServer → TcpServer} {marks : List Mark}
    (inline : Does .base id marks server (run server)) :
    Turn server (server.runInLoop id functor run) other := by
  unfold TcpServer.runInLoop
  split
  · exact .does inline other
  · exact .fields rfl rfl

theorem functor (functor : Functor) (loop : Loop) (server : TcpServer) :
    Turn server (functor.run loop server) id := by
  cases functor with
  | connectEstablished other => exact .does (.establish loop other server) id
  | forceClose other => exact .does (.forceClose loop other server) id
  | destroy other => exact .does (.destroyConnection loop other server) id
  | connectDestroyed other => exact .does (.connectDestroyed loop other server) id
  | removeConnectionInLoop other =>
      simp only [Functor.run]
      split
      · have touched : Turn server (server.emit (.removal other)) id :=
          .emit (fun _ => rfl) server
        unfold removeConnectionInLoop
        dsimp only
        split
        · refine .trans ?_ (.runInLoop (.connectDestroyed .base other _))
          exact .of_server rfl (List.append_assoc ..) (by simp [Event.marks])
        · exact touched
      · exact .refl server

theorem resume (frame : Frame) (loop : Loop) (server : TcpServer) :
    Turn server (frame.resume loop server) id := by
  cases frame with
  | accepting | connected => exact .refl server
  | handshakeStarted other => exact .does (.connectEstablished loop other server) id
  | disconnected other notifies =>
      simp only [Frame.resume]
      split
      · exact .notifyClose other server
      · exact .refl server
  | forceClosed other => exact .does (.closeAndDestroy loop other server) id
  | destroying other => exact .does (.connectDestroyed loop other server) id
  | forceClosing => exact .stopPool false server
  | destructing => exact .stopPool true server
  | removed => exact .finishRemoval server
  | joining => exact .fields rfl rfl

theorem newConnection (fresh : server.state server.nextConnId = .kConnecting) :
    Turn server server.newConnection id := by
  unfold TcpServer.newConnection
  split
  · exact .refl server
  · dsimp only
    obtain ⟨next, selected⟩ := server.getNextLoop_same
    rw [selected]
    refine .trans ?_ (.runInLoop (.establish .base server.nextConnId _))
    refine .same ?_ ?_
    · by_cases same : id = server.nextConnId
      · subst same
        rw [fresh]
        simp [state, insert, TcpServer.emit]
      · simp [state, insert, TcpServer.emit, Function.update_of_ne same]
    · simp [recorded, insert, TcpServer.emit, Event.marks]

end Turn

/-- A connection is closed in its TLS event hook, before it is established. -/
inductive Aborts (server : TcpServer) : Action → TcpServer → Prop where
  | close {loop : Loop} {id : Nat} (early : server.state id = .kConnecting)
      (hooked : .handshakeStarted id ∈ (server.threads loop).stack) :
      Aborts server (.close loop id) (server.runCloseSequence loop id true)

theorem Moves.turns {action : Action} (fresh : server.state server.nextConnId = .kConnecting)
    (moves : Moves server action next) : (∀ id, Turn server next id) ∨ Aborts server action next := by
  cases moves with
  | start =>
      refine .inl fun id => ?_
      unfold TcpServer.start
      split
      · exact .refl server
      · exact .fields rfl rfl
  | stop => exact .inl fun _ => .stop server
  | stopAfter => exact .inl fun _ => .stopAfter server
  | destruct => exact .inl fun _ => .of_server rfl (List.append_assoc ..) (by simp [Event.marks])
  | acceptable => exact .inl fun _ => .fields rfl rfl
  | accept => exact .inl fun _ => .newConnection fresh
  | functor =>
      refine .inl fun _ => .trans ?_ (.functor _ _ _)
      exact .fields rfl rfl
  | expired =>
      refine .inl fun _ => .trans ?_ (.onDrainTimeout _)
      exact .fields rfl rfl
  | outlived => exact .inl fun _ => .fields rfl rfl
  | @close loop other => exact .inl fun id => .does (.forceCloseInLoop loop other server) id
  | abort _ _ early hooked => exact .inr (.close early hooked)
  | shutdown connected => exact .inl fun id => .does (.shutdown .base connected) id
  | noShutdown => exact .inl fun _ => .refl server
  | @forceClose other =>
      refine .inl fun _ => .trans ?_ (.runInLoop (.forceClose .base other _))
      exact .fields rfl rfl
  | @destroy other =>
      refine .inl fun _ => .trans ?_ (.runInLoop (.destroyConnection .base other _))
      exact .fields rfl rfl
  | resume =>
      refine .inl fun _ => .trans ?_ (.resume _ _ _)
      exact .fields rfl rfl
  | exit => exact .inl fun _ => .fields rfl rfl

theorem onThread_threads (changed : Loop) (change : Thread Frame Functor → Thread Frame Functor)
    (server : TcpServer) (loop : Loop) :
    (server.onThread changed change).threads loop =
      if loop = changed then change (server.threads changed) else server.threads loop :=
  Function.update_apply ..

/-- Where the frames and functors of a state come from: from the state before, or they are
frames of the server on the base thread, or posted to a worker. -/
structure Kept (server middle : TcpServer) : Prop where
  stack : ∀ loop, ∀ frame ∈ (middle.threads loop).stack,
    frame ∈ (server.threads loop).stack ∨ loop = .base ∧ ∀ id, frame.isOf id = false
  queue : ∀ loop, ∀ functor ∈ (middle.threads loop).queue,
    functor ∈ (server.threads loop).queue ∨
      loop ≠ .base ∧ ∀ id, functor ≠ .removeConnectionInLoop id

namespace Kept

theorem same (threads : after.threads = before.threads) : Kept before after :=
  ⟨fun _ _ member => .inl (threads ▸ member), fun _ _ member => .inl (threads ▸ member)⟩

theorem trans {middle : TcpServer} (first : Kept before middle) (second : Kept middle after) :
    Kept before after := by
  refine ⟨fun loop frame member => ?_, fun loop functor member => ?_⟩
  · rcases second.stack loop frame member with old | new
    · exact first.stack loop frame old
    · exact .inr new
  · rcases second.queue loop functor member with old | new
    · exact first.queue loop functor old
    · exact .inr new

theorem onThread {change : Thread Frame Functor → Thread Frame Functor}
    (stack : ∀ frame ∈ (change (server.threads loop)).stack,
      frame ∈ (server.threads loop).stack ∨ loop = .base ∧ ∀ id, frame.isOf id = false)
    (queue : ∀ functor ∈ (change (server.threads loop)).queue,
      functor ∈ (server.threads loop).queue ∨
        loop ≠ .base ∧ ∀ id, functor ≠ .removeConnectionInLoop id) :
    Kept server (server.onThread loop change) := by
  refine ⟨fun other frame member => ?_, fun other functor member => ?_⟩
  · by_cases here : other = loop
    · subst here
      simp only [TcpServer.onThread, Function.update_self] at member
      exact stack frame member
    · simp only [TcpServer.onThread, Function.update_of_ne here] at member
      exact .inl member
  · by_cases here : other = loop
    · subst here
      simp only [TcpServer.onThread, Function.update_self] at member
      exact queue functor member
    · simp only [TcpServer.onThread, Function.update_of_ne here] at member
      exact .inl member

theorem push {frame : Frame} (server : TcpServer) (ofServer : ∀ id, frame.isOf id = false) :
    Kept server (server.push .base frame) :=
  .onThread (fun other member => by
    rcases List.mem_cons.mp member with rfl | old
    · exact .inr ⟨rfl, ofServer⟩
    · exact .inl old) fun _ member => .inl member

theorem pop (loop : Loop) (server : TcpServer) : Kept server (server.onThread loop Thread.pop) :=
  .onThread (fun _ member => .inl (List.mem_of_mem_tail member)) fun _ member => .inl member

theorem take (loop : Loop) (server : TcpServer) : Kept server (server.onThread loop Thread.take) :=
  .onThread (fun _ member => .inl member) fun _ member => .inl (List.mem_of_mem_tail member)

theorem post {index : Nat} {functor : Functor} (server : TcpServer)
    (other : ∀ id, functor ≠ .removeConnectionInLoop id) :
    Kept server (server.onThread (.worker index) (Thread.post functor)) :=
  .onThread (fun _ member => .inl member) (fun posted member => by
    rcases List.mem_append.mp member with old | new
    · exact .inl old
    · rw [List.mem_singleton.mp new]
      exact .inr ⟨by simp, other⟩)

end Kept

/-- What is known of the threads. -/
structure Framed (server : TcpServer) : Prop where
  routed : Routed server
  workers : ∀ loop, loop ≠ .base → ∀ frame ∈ (server.threads loop).stack,
    ∃ id, frame.isOf id = true
  removal : ∀ id, .removeConnectionInLoop id ∈ (server.threads .base).queue →
    .closed id ∈ server.trace
  known : ∀ id, server.state id ≠ .kConnecting → .inserted id ∈ server.trace

/-- What is known of the states of connections when none is closed before it is
established. -/
structure Shut (server : TcpServer) : Prop where
  closing : ∀ loop id, .disconnected id true ∈ (server.threads loop).stack →
    server.state id = .kDisconnected
  removal : ∀ id, .removeConnectionInLoop id ∈ (server.threads .base).queue →
    server.state id = .kDisconnected
  established : ∀ id, server.state id ≠ .kConnecting → 0 < server.opened id

/-- A connection that was closed stays closed: it would have to be established again. -/
theorem Shut.closed (shut : Shut server) (ledger : Ledger next) (turn : Turn server next id)
    (closed : server.state id = .kDisconnected) : next.state id = .kDisconnected := by
  cases turn with
  | kept _ stays _ => exact stays closed
  | opened _ more =>
      have before := shut.established id (by simp [closed])
      have twice : 2 ≤ (next.recorded id).countP fun mark => mark.1 == .established := by
        have more : server.opened id < (next.recorded id).countP _ := more
        omega
      have some : (next.recorded id).countP (fun mark => mark.1 == .established) ≤
          (next.script [] id).countP fun mark => mark.1 == .established := by
        rw [script, List.countP_append]
        exact Nat.le_add_right ..
      by_cases inserted : .inserted id ∈ next.trace
      · have once := ledger.once id inserted
        omega
      · rw [(ledger.unknown id inserted).1, List.countP_nil] at some
        omega

/-- Where the frames and functors after a step come from. -/
structure Sources (server next : TcpServer) : Prop where
  stack : ∀ loop, ∀ frame ∈ (next.threads loop).stack,
    frame ∈ (server.threads loop).stack ∨ (loop = .base ∧ ∀ id, frame.isOf id = false) ∨
      ∃ id, frame.isOf id = true ∧
        ∀ notifies, frame = .disconnected id notifies → next.state id = .kDisconnected
  queue : ∀ loop, ∀ functor ∈ (next.threads loop).queue,
    functor ∈ (server.threads loop).queue ∨
      (loop ≠ .base ∧ ∀ id, functor ≠ .removeConnectionInLoop id) ∨
      loop = .base ∧ ∃ id, functor = .removeConnectionInLoop id ∧ .closed id ∈ next.trace ∧
        ∃ other, .disconnected id true ∈ (server.threads other).stack
  trace : server.trace <+: next.trace

namespace Sources

theorem kept (kept : Kept server next) (trace : server.trace <+: next.trace) :
    Sources server next :=
  ⟨fun loop frame member => (kept.stack loop frame member).imp_right .inl,
    fun loop functor member => (kept.queue loop functor member).imp_right .inl, trace⟩

theorem does {middle : TcpServer} {marks : List Mark} (kept : Kept server middle)
    (trace : server.trace <+: middle.trace) (does : Does loop id marks middle next) :
    Sources server next := by
  obtain ⟨frames, events, acts, ofId, _, _, closing⟩ := does
  refine ⟨fun other frame member => ?_, fun other functor member => ?_, ?_⟩
  · by_cases here : other = loop
    · subst here
      rw [acts.threads, Function.update_self] at member
      rcases List.mem_append.mp member with new | old
      · refine .inr (.inr ⟨id, ofId frame new, ?_⟩)
        rintro notifies rfl
        exact closing notifies new
      · exact (kept.stack other frame old).imp_right .inl
    · rw [acts.threads, Function.update_of_ne here] at member
      exact (kept.stack other frame member).imp_right .inl
  · refine (kept.queue other functor ?_).imp_right .inl
    by_cases here : other = loop
    · subst here
      rw [acts.threads, Function.update_self] at member
      exact member
    · rw [acts.threads, Function.update_of_ne here] at member
      exact member
  · rw [acts.trace]
    exact trace.trans (List.prefix_append ..)

/-- A posted removal comes from the close sequence of a connection. -/
theorem notifyClose (top : .disconnected id true ∈ (server.threads loop).stack) :
    Sources server ((server.onThread loop Thread.pop).notifyClose id) := by
  have popped := Kept.pop loop server
  unfold TcpServer.notifyClose
  split
  · have told : Kept server ((server.onThread loop Thread.pop).emit (.closed id)) :=
      popped.trans (.same rfl)
    unfold queueInBase
    split
    · exact .kept told (List.prefix_append ..)
    · refine ⟨fun other frame member => ?_, fun other functor member => ?_, List.prefix_append ..⟩
      · refine (told.stack other frame ?_).imp_right .inl
        rw [onThread_threads] at member
        split at member
        case isTrue base =>
          subst base
          exact member
        case isFalse => exact member
      · rw [onThread_threads] at member
        split at member
        case isTrue base =>
          subst base
          rcases List.mem_append.mp member with old | new
          · exact (told.queue .base functor old).imp_right .inl
          · refine .inr (.inr ⟨rfl, id, List.mem_singleton.mp new, ?_, loop, top⟩)
            exact List.mem_append_right _ List.mem_cons_self
        case isFalse => exact (told.queue other functor member).imp_right .inl
  · exact .kept popped (List.prefix_refl _)

theorem runInLoop {middle : TcpServer} {functor : Functor} {run : TcpServer → TcpServer}
    {marks : List Mark} (kept : Kept server middle) (trace : server.trace <+: middle.trace)
    (other : ∀ id, functor ≠ .removeConnectionInLoop id)
    (inline : Does .base id marks middle (run middle)) :
    Sources server (middle.runInLoop id functor run) := by
  unfold TcpServer.runInLoop
  split
  · exact .does kept trace inline
  · exact .kept (kept.trans (.post middle other)) trace

theorem stopPool {middle : TcpServer} (destructor : Bool) (kept : Kept server middle)
    (trace : server.trace <+: middle.trace) : Sources server (middle.stopPool destructor) := by
  have asked : Kept server ({ middle with
      threadPool := middle.threadPool.requestStop }.emit .poolStop) := kept.trans (.same rfl)
  exact .kept (asked.trans (.push _ fun _ => rfl)) (trace.trans (List.prefix_append ..))

theorem moveOut {middle : TcpServer} {frame : Frame} (kept : Kept server middle)
    (trace : server.trace <+: middle.trace) (ofServer : ∀ id, frame.isOf id = false) :
    Sources server (middle.moveOut.push .base frame) := by
  have moved : Kept server middle.moveOut := kept.trans (.same rfl)
  exact .kept (moved.trans (.push _ ofServer)) (trace.trans (List.prefix_append ..))

theorem functor {functor : Functor} {rest : List Functor}
    (queued : (server.threads loop).queue = functor :: rest) :
    Sources server (functor.run loop (server.onThread loop Thread.take)) := by
  have taken := Kept.take loop server
  have grows : server.trace <+: (server.onThread loop Thread.take).trace := List.prefix_refl _
  cases functor with
  | connectEstablished id => exact .does taken grows (.establish loop id _)
  | forceClose id => exact .does taken grows (.forceClose loop id _)
  | destroy id => exact .does taken grows (.destroyConnection loop id _)
  | connectDestroyed id => exact .does taken grows (.connectDestroyed loop id _)
  | removeConnectionInLoop id =>
      have touched : Kept server ((server.onThread loop Thread.take).emit (.removal id)) :=
        taken.trans (.same rfl)
      simp only [Functor.run]
      split
      · unfold removeConnectionInLoop
        dsimp only
        split
        · refine .runInLoop ?_ ?_ (by simp) (.connectDestroyed .base id _)
          · have left : Kept server ({ (server.onThread loop Thread.take).emit (.removal id) with
                connections := server.connections.erase id }.emit (.left id true)) :=
              touched.trans (.same rfl)
            exact left.trans (.push _ fun _ => rfl)
          · exact (List.prefix_append ..).trans (List.prefix_append ..)
        · exact .kept touched (List.prefix_append ..)
      · exact .kept taken grows

theorem resume {frame : Frame} {rest : List Frame}
    (top : (server.threads loop).stack = frame :: rest) :
    Sources server (frame.resume loop (server.onThread loop Thread.pop)) := by
  have popped := Kept.pop loop server
  have grows : server.trace <+: (server.onThread loop Thread.pop).trace := List.prefix_refl _
  cases frame with
  | accepting | connected => exact .kept popped grows
  | handshakeStarted id => exact .does popped grows (.connectEstablished loop id _)
  | disconnected id notifies =>
      cases notifies with
      | true => exact notifyClose (top ▸ List.mem_cons_self)
      | false => exact .kept popped grows
  | forceClosed id => exact .does popped grows (.closeAndDestroy loop id _)
  | destroying id => exact .does popped grows (.connectDestroyed loop id _)
  | forceClosing => exact stopPool false popped grows
  | destructing => exact stopPool true popped grows
  | removed =>
      simp only [Frame.resume, finishRemoval]
      split
      · refine stopPool false (popped.trans (.same rfl)) (List.prefix_append ..)
      · exact .kept popped grows
  | joining => exact .kept (popped.trans (.same rfl)) (List.prefix_refl _)

theorem newConnection (server : TcpServer) : Sources server server.newConnection := by
  unfold TcpServer.newConnection
  split
  · exact .kept (.same rfl) (List.prefix_refl _)
  · dsimp only
    obtain ⟨next, selected⟩ := server.getNextLoop_same
    rw [selected]
    exact .runInLoop (.same rfl) (List.prefix_append ..) (by simp)
      (.establish .base server.nextConnId _)

theorem runCloseSequence (notifies : Bool) (server : TcpServer) :
    Sources server (server.runCloseSequence loop id notifies) := by
  have pushed : ∀ other, (server.runCloseSequence loop id notifies).threads other =
      if other = loop then (server.threads loop).push (.disconnected id notifies)
      else server.threads other := onThread_threads loop _ _
  refine ⟨fun other frame member => ?_, fun other functor member => .inl ?_, List.prefix_refl _⟩
  · rw [pushed] at member
    split at member
    case isTrue here =>
      subst here
      rcases List.mem_cons.mp member with rfl | old
      · exact .inr (.inr ⟨id, beq_self_eq_true id, fun _ _ =>
          Acts.runCloseSequence_state notifies server⟩)
      · exact .inl old
    case isFalse => exact .inl member
  · rw [pushed] at member
    split at member
    case isTrue here =>
      subst here
      exact member
    case isFalse => exact member

theorem moves {action : Action} (moves : Moves server action next) : Sources server next := by
  cases moves with
  | start =>
      unfold TcpServer.start
      split
      · exact .kept (.same rfl) (List.prefix_refl _)
      · exact .kept (.same rfl) (List.prefix_refl _)
  | stop =>
      unfold TcpServer.stop
      split
      · exact .kept (.same rfl) (List.prefix_refl _)
      · exact moveOut (.same rfl) (List.prefix_refl _) fun _ => rfl
  | stopAfter =>
      unfold TcpServer.stopAfter
      split
      · exact .kept (.same rfl) (List.prefix_refl _)
      · split
        · exact stopPool false (.same rfl) (List.prefix_append ..)
        · exact .kept (.same rfl) (List.prefix_refl _)
  | destruct => exact moveOut (.same rfl) (List.prefix_append ..) fun _ => rfl
  | acceptable => exact .kept (.push _ fun _ => rfl) (List.prefix_refl _)
  | accept => exact newConnection server
  | functor _ queued => exact .functor queued
  | expired =>
      unfold TcpServer.onDrainTimeout
      split
      · exact .kept (.same rfl) (List.prefix_refl _)
      · exact moveOut (.same rfl) (List.prefix_append ..) fun _ => rfl
  | outlived => exact .kept (.same rfl) (List.prefix_refl _)
  | close => exact .does (.same rfl) (List.prefix_refl _) (.forceCloseInLoop _ _ server)
  | abort => exact .runCloseSequence true server
  | shutdown connected => exact .does (.same rfl) (List.prefix_refl _) (.shutdown .base connected)
  | noShutdown => exact .kept (.same rfl) (List.prefix_refl _)
  | @forceClose id =>
      exact .runInLoop ((Kept.pop .base server).trans (.push _ fun _ => rfl)) (List.prefix_refl _)
        (by simp) (.forceClose .base id _)
  | @destroy id =>
      exact .runInLoop ((Kept.pop .base server).trans (.push _ fun _ => rfl)) (List.prefix_refl _)
        (by simp) (.destroyConnection .base id _)
  | resume top => exact .resume top
  | exit => exact .kept (.onThread (fun _ => .inl) fun _ => .inl) (List.prefix_refl _)

end Sources

/-- A step keeps what is known of threads. -/
theorem Framed.sources (framed : Framed server) (sources : Sources server next)
    (known : ∀ id, next.state id ≠ .kConnecting → .inserted id ∈ next.trace) : Framed next := by
  refine ⟨fun loop functor member => ?_, fun loop other frame member => ?_,
    fun id member => ?_, known⟩
  · rcases sources.queue loop functor member with old | ⟨other, posted⟩ | ⟨base, id, removal, _⟩
    · exact framed.routed loop functor old
    · exact ⟨fun base => absurd base other, fun ⟨id, same⟩ => absurd same (posted id)⟩
    · exact ⟨fun _ => ⟨id, removal⟩, fun _ => base⟩
  · rcases sources.stack loop frame member with old | ⟨base, _⟩ | ⟨id, own, _⟩
    · exact framed.workers loop other frame old
    · exact absurd base other
    · exact ⟨id, own⟩
  · rcases sources.queue .base _ member with old | ⟨other, _⟩ | ⟨_, other, same, told, _⟩
    · exact sources.trace.subset (framed.removal id old)
    · exact absurd rfl other
    · cases same
      exact told

theorem Shut.sources (shut : Shut server) (ledger : Ledger next) (sources : Sources server next)
    (turns : ∀ id, Turn server next id) : Shut next := by
  have closed : ∀ id, server.state id = .kDisconnected → next.state id = .kDisconnected :=
    fun id => shut.closed ledger (turns id)
  refine ⟨fun loop id member => ?_, fun id member => ?_, fun id left => ?_⟩
  · rcases sources.stack loop _ member with old | ⟨_, ofServer⟩ | ⟨other, own, begun⟩
    · exact closed id (shut.closing loop id old)
    · have own := ofServer id
      simp [Frame.isOf] at own
    · have same : id = other := by simpa [Frame.isOf] using own
      subst same
      exact begun true rfl
  · rcases sources.queue .base _ member with old | ⟨other, _⟩ | ⟨_, other, same, _, loop, top⟩
    · exact closed id (shut.removal id old)
    · exact absurd rfl other
    · cases same
      exact closed id (shut.closing loop id top)
  · cases turns id with
    | kept connecting _ opened =>
        have before := shut.established id fun connects => left (connecting.mpr connects)
        omega
    | opened _ more => omega

/-- What holds in every state. -/
structure Sound (server : TcpServer) : Prop where
  ledger : Ledger server
  framed : Framed server

namespace Sound

/-- Nothing is known of the next connection. -/
theorem fresh (sound : Sound server) : .inserted server.nextConnId ∉ server.trace :=
  fun inserted => Nat.lt_irrefl _ (sound.ledger.known _ inserted)

theorem connecting (sound : Sound server) (absent : .inserted id ∉ server.trace) :
    server.state id = .kConnecting := by
  by_contra left
  exact absent (sound.framed.known id left)

/-- A connection in its TLS event hook is in the map or was. -/
theorem hooked (sound : Sound server)
    (hooked : .handshakeStarted id ∈ (server.threads loop).stack) : .inserted id ∈ server.trace := by
  by_contra absent
  have none := sound.ledger.unmarked absent loop
  rw [marksOn, Thread.marks, List.append_eq_nil_iff, List.flatMap_eq_nil_iff] at none
  have unmarked := none.1 _ hooked
  simp [Frame.marks, markIf] at unmarked

/-- Whatever has left `kConnecting` was inserted. -/
theorem known {action : Action} (sound : Sound server) (ledger : Ledger next)
    (moves : Moves server action next) (left : next.state id ≠ .kConnecting) :
    .inserted id ∈ next.trace := by
  have grows := (Sources.moves moves).trace
  rcases moves.turns (sound.connecting sound.fresh) with turns | aborts
  · cases turns id with
    | kept connecting _ _ =>
        exact grows.subset (sound.framed.known id fun connects => left (connecting.mpr connects))
    | opened _ more =>
        by_contra absent
        have none := (ledger.unknown id absent).1
        rw [script, List.append_eq_nil_iff] at none
        rw [opened, opened, none.1] at more
        cases more
  · obtain @⟨loop, other, early, hooked⟩ := aborts
    by_cases same : id = other
    · subst same
      exact sound.hooked hooked
    · refine sound.framed.known id fun connects => left (Eq.trans ?_ connects)
      exact congrArg Connection.state (Function.update_of_ne same _ _)

theorem moves {action : Action} (sound : Sound server) (moves : Moves server action next) :
    Sound next := by
  have ledger := sound.ledger.books (moves.books sound.ledger.placed sound.framed.routed
    (sound.ledger.unmarked sound.fresh))
  exact ⟨ledger, sound.framed.sources (.moves moves) fun _ => sound.known ledger moves⟩

theorem create (numThreads : Nat) (tlsContext : Bool) : Sound (create numThreads tlsContext) := by
  refine ⟨⟨?_, ?_, ?_, ?_⟩, ⟨?_, ?_, ?_, ?_⟩⟩ <;>
    simp [TcpServer.create, Placed, marksOn, Thread.marks, script, recorded, outstanding, Routed,
      state]

end Sound

end MiniTrantor.Net.TcpServer
