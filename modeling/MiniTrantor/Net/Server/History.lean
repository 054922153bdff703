import MiniTrantor.Net.Server.Drain
import MiniTrantor.Trace

/-!
# What a server has recorded

A connection leaves the map once, after its close callback if a posted removal takes it
out, and no posted removal finds a server that was destroyed.
-/

set_option autoImplicit false

namespace MiniTrantor.Net.TcpServer

variable {server middle next : TcpServer} {loop : Loop} {id : Nat}

/-- Events that tell nothing of the map. -/
def Event.isPlain : Event → Bool
  | .connectEstablished _ _ | .connectDestroyed _ _ | .closed _ | .drained _ | .poolStop => true
  | _ => false

def Event.leaves (id : Nat) : Event → Bool
  | .left other _ => other == id
  | _ => false

def Event.isRemoval : Event → Bool
  | .removal _ => true
  | _ => false

/-- What a step records, and what it does to the map. -/
inductive Tells (server next : TcpServer) : Prop where
  | plain {events : List Event} (trace : next.trace = server.trace ++ events)
      (plain : ∀ event ∈ events, event.isPlain = true)
      (connections : next.connections = server.connections)
  | inserted {events : List Event}
      (trace : next.trace = server.trace ++ .inserted server.nextConnId :: events)
      (plain : ∀ event ∈ events, event.isPlain = true)
      (connections : next.connections = server.nextConnId :: server.connections)
  | movedOut {event : Option Event}
      (trace : next.trace =
        server.trace ++ event.toList ++ server.connections.map fun id => .left id false)
      (first : ∀ event' ∈ event, event'.isPlain = true ∨ event' = .destructor)
      (destroyed : .destructor ∈ event → next.lifetimeToken = false)
      (connections : next.connections = [])
  | removal {id : Nat} (trace : next.trace = server.trace ++ [.removal id])
      (lifetime : server.lifetimeToken = true) (connections : next.connections = server.connections)
  | removed {id : Nat} {events : List Event}
      (trace : next.trace = server.trace ++ .removal id :: .left id true :: events)
      (lifetime : server.lifetimeToken = true) (closed : .closed id ∈ server.trace)
      (member : id ∈ server.connections) (plain : ∀ event ∈ events, event.isPlain = true)
      (connections : next.connections = server.connections.erase id)

theorem Does.plain {marks : List Mark} (does : Does loop id marks middle next) :
    ∃ events, next.trace = middle.trace ++ events ∧ ∀ event ∈ events, event.isPlain = true := by
  obtain ⟨_, events, acts, _, onLoop, _⟩ := does
  refine ⟨events, acts.trace, fun event member => ?_⟩
  rcases onLoop event member with rfl | rfl <;> rfl

theorem runInLoop_plain {functor : Functor} {run : TcpServer → TcpServer} {marks : List Mark}
    (does : Does .base id marks middle (run middle)) :
    ∃ events, (middle.runInLoop id functor run).trace = middle.trace ++ events ∧
      ∀ event ∈ events, event.isPlain = true := by
  unfold runInLoop
  split
  · exact does.plain
  · exact ⟨[], (List.append_nil _).symm, by simp⟩

namespace Tells

theorem silent (trace : next.trace = server.trace) (connections : next.connections = server.connections) :
    Tells server next :=
  .plain (trace.trans (List.append_nil _).symm) (by simp) connections

theorem does {marks : List Mark} (does : Does loop id marks middle next)
    (trace : middle.trace = server.trace) (connections : middle.connections = server.connections) :
    Tells server next := by
  obtain ⟨events, told, plain⟩ := does.plain
  have same : next.connections = middle.connections := (congrArg TcpServer.connections does.desk :)
  exact .plain (trace ▸ told) plain (same.trans connections)

theorem runInLoop {functor : Functor} {run : TcpServer → TcpServer} {marks : List Mark}
    (does : Does .base id marks middle (run middle)) (trace : middle.trace = server.trace)
    (connections : middle.connections = server.connections) :
    Tells server (middle.runInLoop id functor run) := by
  obtain ⟨events, told, plain⟩ := runInLoop_plain does
  have same : (middle.runInLoop id functor run).connections = middle.connections :=
    (congrArg TcpServer.connections (runInLoop_desk does) :)
  exact .plain (told.trans (congrArg (· ++ events) trace)) plain (same.trans connections)

theorem stopPool (destructor : Bool) {events : List Event} (trace : middle.trace = server.trace ++ events)
    (plain : ∀ event ∈ events, event.isPlain = true)
    (connections : middle.connections = server.connections) :
    Tells server (middle.stopPool destructor) := by
  refine @Tells.plain server (middle.stopPool destructor) (events ++ [.poolStop]) ?_ ?_ connections
  · rw [← List.append_assoc, ← trace]
    rfl
  · intro event member
    rcases List.mem_append.mp member with earlier | last
    · exact plain event earlier
    · rw [List.mem_singleton.mp last]
      rfl

theorem newConnection (server : TcpServer) : Tells server server.newConnection := by
  unfold TcpServer.newConnection
  split
  · exact .silent rfl rfl
  · dsimp only
    obtain ⟨selected, counted⟩ := server.getNextLoop_same
    rw [counted]
    have does := Does.establish .base server.nextConnId
      ({ server with next := selected }.insert server.getNextLoop.1)
    obtain ⟨events, told, plain⟩ :=
      @runInLoop_plain _ _ (.connectEstablished server.nextConnId) _ _ does
    have desk := @runInLoop_desk _ _ (.connectEstablished server.nextConnId) _ _ does
    refine .inserted (told.trans ?_) plain (congrArg TcpServer.connections desk :)
    exact List.append_assoc server.trace [_] events

theorem posted {rest : List Functor} (sound : Sound server)
    (queued : (server.threads .base).queue = .removeConnectionInLoop id :: rest)
    (lifetime : server.lifetimeToken = true) :
    Tells server ((server.onThread .base Thread.take).removeConnectionInLoop id) := by
  have closed := sound.framed.removal id (queued ▸ List.mem_cons_self)
  unfold removeConnectionInLoop
  dsimp only
  split
  case isTrue member =>
    have does := Does.connectDestroyed .base id (({ (server.onThread .base Thread.take).emit
      (.removal id) with connections := server.connections.erase id }.emit (.left id true)).push
        .base .removed)
    obtain ⟨events, told, plain⟩ := @runInLoop_plain _ _ (.connectDestroyed id) _ _ does
    have desk := @runInLoop_desk _ _ (.connectDestroyed id) _ _ does
    refine .removed (told.trans ?_) lifetime closed member plain (congrArg TcpServer.connections desk :)
    simp [TcpServer.push, onThread, emit]
  case isFalse => exact .removal rfl lifetime rfl

theorem functor {functor : Functor} {rest : List Functor} (sound : Sound server)
    (queued : (server.threads loop).queue = functor :: rest) :
    Tells server (functor.run loop (server.onThread loop Thread.take)) := by
  cases functor with
  | connectEstablished id => exact does (.establish loop id _) rfl rfl
  | forceClose id => exact does (.forceClose loop id _) rfl rfl
  | destroy id => exact does (.destroyConnection loop id _) rfl rfl
  | connectDestroyed id => exact does (.connectDestroyed loop id _) rfl rfl
  | removeConnectionInLoop id =>
      have here := (sound.framed.routed loop _ (queued ▸ List.mem_cons_self)).mpr ⟨id, rfl⟩
      subst here
      simp only [Functor.run]
      split
      case isTrue lifetime => exact posted sound queued lifetime
      case isFalse => exact .silent rfl rfl

theorem resume (frame : Frame) (loop : Loop) (server : TcpServer) :
    Tells server (frame.resume loop (server.onThread loop Thread.pop)) := by
  cases frame with
  | accepting | connected => exact .silent rfl rfl
  | handshakeStarted id => exact does (.connectEstablished loop id _) rfl rfl
  | disconnected id notifies =>
      simp only [Frame.resume]
      split
      · have told : ∀ next : TcpServer, next.trace = server.trace ++ [.closed id] →
            next.connections = server.connections → Tells server next :=
          fun _ trace connections => .plain trace (by simp [Event.isPlain]) connections
        unfold TcpServer.notifyClose queueInBase
        split
        · split <;> exact told _ rfl rfl
        · exact .silent rfl rfl
      · exact .silent rfl rfl
  | forceClosed id => exact does (.closeAndDestroy loop id _) rfl rfl
  | destroying id => exact does (.connectDestroyed loop id _) rfl rfl
  | forceClosing => exact stopPool false (List.append_nil _).symm (by simp) rfl
  | destructing => exact stopPool true (List.append_nil _).symm (by simp) rfl
  | removed =>
      simp only [Frame.resume, finishRemoval]
      split
      · exact stopPool false rfl (by simp [Event.isPlain]) rfl
      · exact .silent rfl rfl
  | joining => exact .silent rfl rfl

theorem moves {action : Action} (sound : Sound server) (moves : Moves server action next) :
    Tells server next := by
  cases moves with
  | start =>
      unfold TcpServer.start
      split <;> exact .silent rfl rfl
  | stop =>
      unfold TcpServer.stop
      split
      · exact .silent rfl rfl
      · exact @Tells.movedOut _ _ none (by simp [forceCloseAllConnections, moveOut, TcpServer.push, onThread])
          (by simp) (by simp) rfl
  | stopAfter =>
      unfold TcpServer.stopAfter
      split
      · exact .silent rfl rfl
      · split
        · exact stopPool false rfl (by simp [Event.isPlain]) rfl
        · exact .silent rfl rfl
  | destruct =>
      exact @Tells.movedOut _ _ (some .destructor) rfl (by simp) (fun _ => rfl) rfl
  | acceptable => exact .silent rfl rfl
  | accept => exact newConnection server
  | functor _ queued => exact functor sound queued
  | expired =>
      unfold TcpServer.onDrainTimeout
      split
      · exact .silent rfl rfl
      · exact @Tells.movedOut _ _ (some (.drained .timeout)) rfl (by simp [Event.isPlain]) (by simp) rfl
  | outlived => exact .silent rfl rfl
  | close => exact does (.forceCloseInLoop _ _ server) rfl rfl
  | abort | shutdown | noShutdown => exact .silent rfl rfl
  | @forceClose id => exact runInLoop (.forceClose .base id _) rfl rfl
  | @destroy id => exact runInLoop (.destroyConnection .base id _) rfl rfl
  | @resume loop frame => exact resume frame loop server
  | exit => exact .silent rfl rfl

end Tells

/-- How often a connection left the map. -/
def departures (server : TcpServer) (id : Nat) : Nat := server.trace.countP (Event.leaves id)

/-- What holds of all that was recorded. -/
structure History (server : TcpServer) : Prop where
  listed : ∀ id, server.trace.count (.inserted id) =
    server.connections.count id + server.departures id
  once : ∀ id, server.trace.count (.inserted id) ≤ 1
  closed : ∀ id, Trace.Follows (· == .closed id) (· == .left id true) server.trace
  destroyed : .destructor ∈ server.trace → server.lifetimeToken = false
  untouched : Trace.NeverAfter (· == .destructor) Event.isRemoval server.trace

namespace History

theorem create (numThreads : Nat) (tlsContext : Bool) : History (create numThreads tlsContext) := by
  refine ⟨fun _ => rfl, fun _ => Nat.zero_le 1, fun _ => .of_none (by simp [TcpServer.create]), ?_,
    List.Pairwise.nil⟩
  simp [TcpServer.create]

/-- Plain events count for nothing. -/
theorem plain_count {events : List Event} (plain : ∀ event ∈ events, event.isPlain = true) (id : Nat) :
    events.count (.inserted id) = 0 ∧ events.countP (Event.leaves id) = 0 ∧
      (∀ event ∈ events, (event == .left id true) = false) ∧ .destructor ∉ events ∧
      ∀ event ∈ events, event.isRemoval = false := by
  refine ⟨?_, ?_, fun event member => ?_, fun member => ?_, fun event member => ?_⟩
  · rw [List.count_eq_zero]
    intro member
    cases plain _ member
  · rw [List.countP_eq_zero]
    intro event member
    have plain := plain event member
    cases event <;> simp_all [Event.isPlain, Event.leaves]
  · have plain := plain event member
    cases event <;> simp_all [Event.isPlain]
  · cases plain _ member
  · have plain := plain event member
    cases event <;> simp_all [Event.isPlain, Event.isRemoval]

/-- A connection leaves with the posted removal of a closed one, or with the whole map. -/
theorem adds {events : List Event} (history : History server)
    (trace : next.trace = server.trace ++ events)
    (listed : ∀ id, events.count (.inserted id) + server.connections.count id =
      next.connections.count id + events.countP (Event.leaves id))
    (once : ∀ id, server.trace.count (.inserted id) + events.count (.inserted id) ≤ 1)
    (closed : ∀ id, .left id true ∈ events → .closed id ∈ server.trace)
    (destroyed : .destructor ∈ server.trace ++ events → next.lifetimeToken = false)
    (apart : .destructor ∉ events ∨ ∀ event ∈ events, event.isRemoval = false)
    (alive : ∀ event ∈ events, event.isRemoval = true → server.lifetimeToken = true) :
    History next := by
  refine ⟨fun id => ?_, fun id => ?_, fun id => ?_, trace ▸ destroyed, ?_⟩
  · have before := history.listed id
    have step := listed id
    rw [departures] at before
    rw [departures, trace, List.count_append, List.countP_append]
    omega
  · rw [trace, List.count_append]
    exact once id
  · rw [trace]
    refine (history.closed id).append fun event member left => ⟨.closed id, ?_, beq_self_eq_true _⟩
    exact closed id (beq_iff_eq.mp left ▸ member)
  · rw [trace]
    refine history.untouched.append ?_ fun event member removal earlier old => ?_
    · rcases apart with none | none
      · refine List.pairwise_of_forall_mem_list fun event member _ _ destructor => ?_
        exact absurd (beq_iff_eq.mp destructor ▸ member) none
      · exact .silent none
    · by_contra destructor
      have destructor : earlier = .destructor := by simpa using destructor
      have dead := history.destroyed (destructor ▸ old)
      cases dead.symm.trans (alive event member removal)

theorem count_left (id : Nat) (connections : List Nat) :
    (connections.map fun id => Event.left id false).countP (Event.leaves id) =
      connections.count id := by
  rw [List.countP_map, List.count]
  rfl

theorem left_plain {event : Event} {connections : List Nat}
    (member : event ∈ connections.map fun id => Event.left id false) :
    (∀ id, event ≠ .inserted id) ∧ event ≠ .destructor ∧ (∀ id, event ≠ .left id true) ∧
      event.isRemoval = false := by
  obtain ⟨id, _, rfl⟩ := List.mem_map.mp member
  simp [Event.isRemoval]

theorem plain {events : List Event} (history : History server)
    (before : .destructor ∈ server.trace → next.lifetimeToken = false)
    (trace : next.trace = server.trace ++ events) (plain : ∀ event ∈ events, event.isPlain = true)
    (connections : next.connections = server.connections) : History next := by
  refine history.adds trace (fun id => ?_) (fun id => ?_) (fun id left => ?_) (fun member => ?_)
    (.inl (plain_count plain 0).2.2.2.1) fun event member removal => ?_
  · obtain ⟨none, stays, _⟩ := plain_count plain id
    rw [none, stays, connections, Nat.zero_add]
    rfl
  · rw [(plain_count plain id).1]
    exact history.once id
  · cases plain _ left
  · exact (List.mem_append.mp member).elim before fun new => by cases plain _ new
  · cases ((plain_count plain 0).2.2.2.2 event member).symm.trans removal

theorem inserted {events : List Event} (history : History server) (ledger : Ledger server)
    (before : .destructor ∈ server.trace → next.lifetimeToken = false)
    (trace : next.trace = server.trace ++ .inserted server.nextConnId :: events)
    (plain : ∀ event ∈ events, event.isPlain = true)
    (connections : next.connections = server.nextConnId :: server.connections) :
    History next := by
  have fresh : .inserted server.nextConnId ∉ server.trace := fun earlier =>
    Nat.lt_irrefl _ (ledger.known _ earlier)
  refine history.adds trace (fun id => ?_) (fun id => ?_) (fun id left => ?_) (fun member => ?_)
    (.inl fun member => ?_) fun event member removal => ?_
  · obtain ⟨none, stays, _⟩ := plain_count plain id
    rw [List.count_cons, none, List.countP_cons, stays, connections, List.count_cons]
    by_cases same : server.nextConnId = id <;> simp [same, Event.leaves, Nat.add_comm]
  · rw [List.count_cons, (plain_count plain id).1]
    by_cases same : server.nextConnId = id
    · rw [← same, List.count_eq_zero.mpr fresh]
      simp
    · simpa [same] using history.once id
  · cases plain _ ((List.mem_cons.mp left).resolve_left (by simp))
  · rcases List.mem_append.mp member with old | new
    · exact before old
    · cases plain _ ((List.mem_cons.mp new).resolve_left (by simp))
  · cases plain _ ((List.mem_cons.mp member).resolve_left (by simp))
  · rcases List.mem_cons.mp member with rfl | new
    · cases removal
    · cases ((plain_count plain 0).2.2.2.2 event new).symm.trans removal

/-- All connections leave the map at once. -/
theorem movedOut {event : Option Event} (history : History server)
    (before : .destructor ∈ server.trace → next.lifetimeToken = false)
    (trace : next.trace =
      server.trace ++ event.toList ++ server.connections.map fun id => .left id false)
    (first : ∀ event' ∈ event, event'.isPlain = true ∨ event' = .destructor)
    (destroyed : .destructor ∈ event → next.lifetimeToken = false)
    (connections : next.connections = []) : History next := by
  rw [List.append_assoc] at trace
  have given : ∀ event' ∈ event.toList, event'.isPlain = true ∨ event' = .destructor :=
    fun event' member => first event' (Option.mem_toList.mp member)
  have uncounted : ∀ id, event.toList.count (.inserted id) = 0 ∧
      event.toList.countP (Event.leaves id) = 0 := by
    intro id
    rw [List.count_eq_zero, List.countP_eq_zero]
    refine ⟨fun member => ?_, fun event' member => ?_⟩
    · rcases given _ member with plain | same
      · cases plain
      · cases same
    · rcases given _ member with plain | rfl
      · cases event' <;> simp_all [Event.isPlain, Event.leaves]
      · simp [Event.leaves]
  have quiet : ∀ event' ∈ event.toList ++ server.connections.map fun id => Event.left id false,
      event'.isRemoval = false := by
    intro event' member
    rcases List.mem_append.mp member with early | late
    · rcases given _ early with plain | rfl
      · cases event' <;> simp_all [Event.isPlain, Event.isRemoval]
      · rfl
    · exact (left_plain late).2.2.2
  have uninserted : ∀ id, (server.connections.map fun id => Event.left id false).count
      (.inserted id) = 0 := by
    intro id
    rw [List.count_eq_zero]
    exact fun member => (left_plain member).1 id rfl
  refine history.adds trace (fun id => ?_) (fun id => ?_) (fun id left => ?_) (fun member => ?_)
    (.inr quiet) fun event' member removal => ?_
  · rw [List.count_append, List.countP_append, (uncounted id).1, (uncounted id).2, uninserted,
      count_left, connections, List.count_nil, Nat.add_zero, Nat.zero_add, Nat.zero_add]
  · rw [List.count_append, (uncounted id).1, uninserted]
    exact history.once id
  · rcases List.mem_append.mp left with early | late
    · rcases given _ early with plain | same
      · cases plain
      · cases same
    · exact absurd rfl ((left_plain late).2.2.1 id)
  · rcases List.mem_append.mp member with old | new
    · exact before old
    · rcases List.mem_append.mp new with early | late
      · exact destroyed (Option.mem_toList.mp early)
      · exact absurd rfl (left_plain late).2.1
  · cases (quiet event' member).symm.trans removal

theorem removed {other : Nat} {events : List Event} (history : History server)
    (before : .destructor ∈ server.trace → next.lifetimeToken = false)
    (trace : next.trace = server.trace ++ .removal other :: .left other true :: events)
    (lifetime : server.lifetimeToken = true) (closed : .closed other ∈ server.trace)
    (member : other ∈ server.connections) (plain : ∀ event ∈ events, event.isPlain = true)
    (connections : next.connections = server.connections.erase other) : History next := by
  have some := List.count_pos_iff.mpr member
  refine history.adds trace (fun id => ?_) (fun id => ?_) (fun id left => ?_) (fun destructor => ?_)
    (.inl fun destructor => ?_) fun _ _ _ => lifetime
  · obtain ⟨none, stays, _⟩ := plain_count plain id
    simp only [List.count_cons, none, List.countP_cons, stays, connections]
    by_cases same : other = id
    · subst same
      rw [List.count_erase_self]
      simp [Event.leaves]
      omega
    · rw [List.count_erase_of_ne (Ne.symm same)]
      simp [same, Event.leaves]
  · simpa [(plain_count plain id).1] using history.once id
  · simp only [List.mem_cons] at left
    rcases left with same | same | new
    · cases same
    · cases same
      exact closed
    · cases plain _ new
  · rcases List.mem_append.mp destructor with old | new
    · exact before old
    · simp only [List.mem_cons, reduceCtorEq, false_or] at new
      cases plain _ new
  · simp only [List.mem_cons, reduceCtorEq, false_or] at destructor
    cases plain _ destructor

theorem tells (history : History server) (ledger : Ledger server) (tells : Tells server next)
    (living : next.lifetimeToken = true → server.lifetimeToken = true) : History next := by
  have before : .destructor ∈ server.trace → next.lifetimeToken = false := by
    intro member
    by_contra alive
    cases (history.destroyed member).symm.trans (living (by simpa using alive))
  cases tells with
  | plain trace plain connections => exact history.plain before trace plain connections
  | inserted trace plain connections =>
      exact history.inserted ledger before trace plain connections
  | movedOut trace first destroyed connections =>
      exact history.movedOut before trace first destroyed connections
  | @removal other trace lifetime connections =>
      refine history.adds trace (fun id => ?_) (fun id => ?_) (by simp) (fun member => ?_)
        (.inl (by simp)) fun _ _ _ => lifetime
      · rw [connections]
        simp [Event.leaves]
      · simpa using history.once id
      · exact (List.mem_append.mp member).elim before (by simp)
  | removed trace lifetime closed member plain connections =>
      exact history.removed before trace lifetime closed member plain connections

end History

end MiniTrantor.Net.TcpServer
