import MiniTrantor.Net.Server.TcpServer

/-!
# The books of a server

For every connection there is a script: what was done with it and what its owner loop
is still to do, in order. A step of the system moves what is to be done to what was
done, and adds to the script only when the connection is handed over by the server.
-/

set_option autoImplicit false

namespace MiniTrantor.Net.TcpServer

variable {before after server next : TcpServer} {loop : Loop} {id other : Nat}

/-- What is done with every connection. -/
inductive Mark where
  | established
  | destroyed
  deriving DecidableEq, Repr

def markIf (id other : Nat) (mark : Mark) : List Mark := if other = id then [mark] else []

def Frame.marks (id : Nat) : Frame → List Mark
  | .handshakeStarted other => markIf id other .established
  | .forceClosed other | .destroying other => markIf id other .destroyed
  | _ => []

def Functor.marks (id : Nat) : Functor → List Mark
  | .connectEstablished other => markIf id other .established
  | .forceClose other | .destroy other | .connectDestroyed other => markIf id other .destroyed
  | .removeConnectionInLoop _ => []

/-- With the loop on which it was done. -/
def Event.marks (id : Nat) : Event → List (Mark × Loop)
  | .connectEstablished other loop => (markIf id other .established).map fun mark => (mark, loop)
  | .connectDestroyed other loop => (markIf id other .destroyed).map fun mark => (mark, loop)
  | _ => []

def owner (server : TcpServer) (id : Nat) : Loop := (server.conns id).loop

/-- What a thread is to do with a connection. -/
def marksOn (server : TcpServer) (loop : Loop) (id : Nat) : List Mark :=
  (server.threads loop).marks (Frame.marks id) (Functor.marks id)

/-- What was done with a connection. -/
def recorded (server : TcpServer) (id : Nat) : List (Mark × Loop) :=
  server.trace.flatMap (Event.marks id)

/-- The script of a connection, with what is being done just now. -/
def script (now : List Mark) (server : TcpServer) (id : Nat) : List (Mark × Loop) :=
  server.recorded id ++
    (now ++ server.marksOn (server.owner id) id).map fun mark => (mark, server.owner id)

/-- How often a connection is listed by the loops over connections. -/
def Frame.listed (id : Nat) : Frame → Nat
  | .forceClosing rest | .destructing rest => rest.count id
  | _ => 0

/-- How often the server is still to hand a connection over. -/
def outstanding (server : TcpServer) (id : Nat) : Nat :=
  server.connections.count id + ((server.threads .base).stack.map (Frame.listed id)).sum

/-- The server without its connections, its threads and its history. -/
def desk (server : TcpServer) : TcpServer :=
  { server with conns := fun _ => {}, threads := fun _ => {}, trace := [] }

/-- What is done with one connection on a thread: frames that are pushed and events that
are recorded. -/
structure Acts (loop : Loop) (id : Nat) (frames : List Frame) (events : List Event)
    (before after : TcpServer) : Prop where
  desk : after.desk = before.desk
  threads : after.threads = Function.update before.threads loop
    { before.threads loop with stack := frames ++ (before.threads loop).stack }
  trace : after.trace = before.trace ++ events
  others : ∀ other, other ≠ id → after.conns other = before.conns other
  owner : (after.conns id).loop = (before.conns id).loop
  kept : .connectEstablished id loop ∉ events →
    ((after.conns id).state = .kConnecting ↔ (before.conns id).state = .kConnecting) ∧
      ((before.conns id).state = .kDisconnected → (after.conns id).state = .kDisconnected)
  opened : .connectEstablished id loop ∈ events → (after.conns id).state ≠ .kConnecting

namespace Acts

variable {frames more : List Frame} {events later : List Event}

theorem refl (loop : Loop) (id : Nat) (server : TcpServer) : Acts loop id [] [] server server :=
  ⟨rfl, (Function.update_eq_self loop server.threads).symm, (List.append_nil _).symm,
    fun _ _ => rfl, rfl, fun _ => ⟨Iff.rfl, fun closed => closed⟩, by simp⟩

theorem trans {middle : TcpServer} (first : Acts loop id frames events before middle)
    (second : Acts loop id more later middle after) :
    Acts loop id (more ++ frames) (events ++ later) before after := by
  refine ⟨second.desk.trans first.desk, ?_, ?_, ?_, second.owner.trans first.owner, ?_, ?_⟩
  · rw [second.threads, first.threads]
    simp
  · rw [second.trace, first.trace, List.append_assoc]
  · exact fun other differs => (second.others other differs).trans (first.others other differs)
  · intro none
    simp only [List.mem_append, not_or] at none
    obtain ⟨connecting, closed⟩ := first.kept none.1
    obtain ⟨connecting', closed'⟩ := second.kept none.2
    exact ⟨connecting'.trans connecting, fun disconnected => closed' (closed disconnected)⟩
  · intro done
    by_cases last : .connectEstablished id loop ∈ later
    · exact second.opened last
    · have earlier := (List.mem_append.mp done).resolve_right last
      exact fun connecting => first.opened earlier ((second.kept last).1.mp connecting)

theorem push (frame : Frame) (server : TcpServer) :
    Acts loop id [frame] [] server (server.push loop frame) :=
  ⟨rfl, rfl, (List.append_nil _).symm, fun _ _ => rfl, rfl,
    fun _ => ⟨Iff.rfl, fun closed => closed⟩, by simp⟩

theorem emit {event : Event} (other : event ≠ .connectEstablished id loop) (server : TcpServer) :
    Acts loop id [] [event] server (server.emit event) :=
  ⟨rfl, (Function.update_eq_self loop server.threads).symm, rfl, fun _ _ => rfl, rfl,
    fun _ => ⟨Iff.rfl, fun closed => closed⟩,
    fun done => absurd (List.mem_singleton.mp done).symm other⟩

theorem clearCloseCallback (server : TcpServer) :
    Acts loop id [] [] server (server.clearCloseCallback id) := by
  refine ⟨rfl, (Function.update_eq_self loop server.threads).symm, (List.append_nil _).symm,
    fun other differs => Function.update_of_ne differs _ _, ?_, ?_, by simp⟩
  · simp [TcpServer.clearCloseCallback, onConn]
  · simp [TcpServer.clearCloseCallback, onConn]

/-- A connection that was established is shut down or closed. -/
theorem setState {state : StateE} (was : (server.conns id).state ≠ .kConnecting)
    (becomes : state ≠ .kConnecting)
    (closed : (server.conns id).state = .kDisconnected → state = .kDisconnected) :
    Acts loop id [] [] server (server.setState id state) := by
  refine ⟨rfl, (Function.update_eq_self loop server.threads).symm, (List.append_nil _).symm,
    fun other differs => Function.update_of_ne differs _ _, ?_, fun _ => ?_, by simp⟩
  · simp [TcpServer.setState, onConn]
  · simpa [TcpServer.setState, onConn, was, becomes] using closed

theorem runCloseSequence (notifies : Bool) (opened : (server.conns id).state ≠ .kConnecting) :
    Acts loop id [.disconnected id notifies] [] server
      (server.runCloseSequence loop id notifies) :=
  (setState opened (by simp) (fun _ => rfl)).trans (.push _ _)

theorem runCloseSequence_state (notifies : Bool) (server : TcpServer) :
    ((server.runCloseSequence loop id notifies).conns id).state = .kDisconnected := by
  simp [TcpServer.runCloseSequence, TcpServer.push, onThread, TcpServer.setState, onConn]

theorem forceCloseInLoop (loop : Loop) (id : Nat) (server : TcpServer) :
    ∃ frames, Acts loop id frames [] server (server.forceCloseInLoop loop id) ∧
      ∀ frame ∈ frames, frame = .disconnected id true ∧
        ((server.forceCloseInLoop loop id).conns id).state = .kDisconnected ∧
        (server.conns id).state ≠ .kConnecting := by
  unfold TcpServer.forceCloseInLoop
  split
  case isTrue opened =>
    have opened : (server.conns id).state ≠ .kConnecting := by
      rcases opened with connected | disconnecting
      · simp [connected]
      · simp [disconnecting]
    refine ⟨_, runCloseSequence true opened, fun frame member => ?_⟩
    exact ⟨List.mem_singleton.mp member, runCloseSequence_state true server, opened⟩
  case isFalse => exact ⟨[], .refl loop id server, by simp⟩

theorem connectEstablished (loop : Loop) (id : Nat) (server : TcpServer) :
    Acts loop id [.connected id] [.connectEstablished id loop] server
      (server.connectEstablished loop id) := by
  refine ⟨rfl, rfl, rfl, fun other differs => Function.update_of_ne differs _ _, ?_, by simp, ?_⟩
  · simp [TcpServer.connectEstablished, TcpServer.push, onThread, TcpServer.setState, onConn,
      TcpServer.emit]
  · simp [TcpServer.connectEstablished, TcpServer.push, onThread, TcpServer.setState, onConn]

end Acts

/-- Frames of a connection. -/
def Frame.isOf (id : Nat) : Frame → Bool
  | .handshakeStarted other | .connected other | .disconnected other _ | .forceClosed other
  | .destroying other => other == id
  | _ => false

/-- What was to be done is done, or is done next. -/
structure Does (loop : Loop) (id : Nat) (marks : List Mark) (before after : TcpServer) :
    Prop where
  acts : ∃ frames events, Acts loop id frames events before after ∧
    (∀ frame ∈ frames, frame.isOf id = true) ∧
    (∀ event ∈ events, event = .connectEstablished id loop ∨ event = .connectDestroyed id loop) ∧
    events.flatMap (Event.marks id) ++
        (frames.flatMap (Frame.marks id)).map (fun mark => (mark, loop)) =
      marks.map (fun mark => (mark, loop)) ∧
    ∀ notifies, .disconnected id notifies ∈ frames → (after.conns id).state = .kDisconnected

namespace Does

theorem of_acts {marks : List Mark} {frames : List Frame} {events : List Event}
    (acts : Acts loop id frames events before after)
    (ofId : ∀ frame ∈ frames, frame.isOf id = true)
    (onLoop : ∀ event ∈ events,
      event = .connectEstablished id loop ∨ event = .connectDestroyed id loop)
    (conserved : events.flatMap (Event.marks id) ++
        (frames.flatMap (Frame.marks id)).map (fun mark => (mark, loop)) =
      marks.map fun mark => (mark, loop))
    (closing : ∀ notifies, .disconnected id notifies ∈ frames →
      (after.conns id).state = .kDisconnected) : Does loop id marks before after :=
  ⟨frames, events, acts, ofId, onLoop, conserved, closing⟩

theorem connectEstablished (loop : Loop) (id : Nat) (server : TcpServer) :
    Does loop id [.established] server (server.connectEstablished loop id) :=
  .of_acts (.connectEstablished loop id server) (by simp [Frame.isOf]) (by simp)
    (by simp [Event.marks, Frame.marks, markIf]) (by simp)

theorem establish (loop : Loop) (id : Nat) (server : TcpServer) :
    Does loop id [.established] server (server.establish loop id) := by
  unfold TcpServer.establish
  split
  · exact .of_acts (.push (.handshakeStarted id) server) (by simp [Frame.isOf]) (by simp)
      (by simp [Frame.marks, markIf]) (by simp)
  · exact connectEstablished loop id server

theorem unmarked {frames : List Frame} {other : Prop}
    (closes : ∀ frame ∈ frames, frame = .disconnected id true ∧ other) :
    frames.flatMap (Frame.marks id) = [] := by
  rw [List.flatMap_eq_nil_iff]
  intro frame member
  rw [(closes frame member).1]
  rfl

theorem forceCloseInLoop (loop : Loop) (id : Nat) (server : TcpServer) :
    Does loop id [] server (server.forceCloseInLoop loop id) := by
  obtain ⟨frames, acts, closes⟩ := Acts.forceCloseInLoop loop id server
  refine .of_acts acts (fun frame member => ?_) (by simp) (by simp [unmarked closes])
    fun _ member => (closes _ member).2.1
  simp [(closes frame member).1, Frame.isOf]

theorem shutdown (loop : Loop) (connected : (server.conns id).state = .kConnected) :
    Does loop id [] server (server.setState id .kDisconnecting) :=
  .of_acts (.setState (by simp [connected]) (by simp) (by simp [connected])) (by simp) (by simp)
    rfl (by simp)

theorem connectDestroyed (loop : Loop) (id : Nat) (server : TcpServer) :
    Does loop id [.destroyed] server (server.connectDestroyed loop id) := by
  have recorded := @Acts.emit loop id (.connectDestroyed id loop) (by simp) server
  unfold TcpServer.connectDestroyed
  dsimp only
  split
  case isTrue connected =>
    exact .of_acts (recorded.trans (.runCloseSequence false (by simp [connected])))
      (by simp [Frame.isOf]) (by simp) (by simp [Event.marks, Frame.marks, markIf])
      fun _ _ => Acts.runCloseSequence_state false _
  case isFalse =>
    exact .of_acts recorded (by simp) (by simp) (by simp [Event.marks, markIf]) (by simp)

theorem closeAndDestroy (loop : Loop) (id : Nat) (server : TcpServer) :
    Does loop id [.destroyed] server (server.closeAndDestroy loop id) := by
  obtain ⟨frames, acts, closes⟩ :=
    Acts.forceCloseInLoop loop id (server.push loop (.destroying id))
  refine .of_acts ((Acts.push (.destroying id) server).trans acts) (fun frame member => ?_)
    (by simp) (by simp [unmarked closes, Frame.marks, markIf]) fun notifies member => ?_
  · rcases List.mem_append.mp member with closing | destroying
    · simp [(closes frame closing).1, Frame.isOf]
    · simp [List.mem_singleton.mp destroying, Frame.isOf]
  · exact (closes _ ((List.mem_append.mp member).resolve_right (by simp))).2.1

/-- What is set aside before does not count. -/
theorem after_clear {marks : List Mark} (does : Does loop id marks (server.clearCloseCallback id)
    after) : Does loop id marks server after := by
  obtain ⟨frames, events, acts, ofId, onLoop, conserved, closing⟩ := does
  have cleared := (Acts.clearCloseCallback server).trans acts
  rw [List.append_nil, List.nil_append] at cleared
  exact ⟨frames, events, cleared, ofId, onLoop, conserved, closing⟩

theorem forceClose (loop : Loop) (id : Nat) (server : TcpServer) :
    Does loop id [.destroyed] server (server.forceClose loop id) := by
  refine after_clear ?_
  unfold TcpServer.forceClose
  dsimp only
  split
  · exact .of_acts (.push (.forceClosed id) _) (by simp [Frame.isOf]) (by simp)
      (by simp [Frame.marks, markIf]) (by simp)
  · exact closeAndDestroy loop id _

theorem destroyConnection (loop : Loop) (id : Nat) (server : TcpServer) :
    Does loop id [.destroyed] server (server.destroyConnection loop id) :=
  after_clear (connectDestroyed loop id _)

end Does

/-- Marks of a connection are only on the thread of its owner. -/
def Placed (server : TcpServer) : Prop :=
  ∀ loop id, server.marksOn loop id ≠ [] → server.owner id = loop

theorem Frame.isOf_marks {frame : Frame} (ofId : frame.isOf id = true) (differs : other ≠ id) :
    frame.marks other = [] := by
  have unmarked : ∀ mark, markIf other id mark = [] := fun mark => if_neg (Ne.symm differs)
  cases frame <;> simp_all [Frame.isOf, Frame.marks]

theorem Frame.isOf_listed {frame : Frame} (ofId : frame.isOf id = true) (other : Nat) :
    frame.listed other = 0 := by
  cases frame <;> simp_all [Frame.isOf, Frame.listed]

namespace Does

variable {marks : List Mark}

theorem desk (does : Does loop id marks before after) : after.desk = before.desk := by
  obtain ⟨frames, events, acts, -⟩ := does
  exact acts.desk

theorem owner (does : Does loop id marks before after) (other : Nat) :
    after.owner other = before.owner other := by
  obtain ⟨frames, events, acts, -⟩ := does
  by_cases same : other = id
  · subst same
    exact acts.owner
  · rw [TcpServer.owner, TcpServer.owner, acts.others other same]

theorem script (does : Does loop id marks before after) (own : before.owner id = loop)
    (other : Nat) :
    after.script [] other = before.script (if other = id then marks else []) other := by
  have owners := does.owner other
  obtain ⟨frames, events, acts, ofId, onLoop, conserved, -⟩ := does
  have history : after.recorded other = before.recorded other ++
      events.flatMap (Event.marks other) := by
    rw [recorded, recorded, acts.trace, List.flatMap_append]
  unfold TcpServer.script
  rw [history, owners]
  split
  case isTrue same =>
    subst same
    have pushed : after.marksOn (before.owner other) other =
        frames.flatMap (Frame.marks other) ++ before.marksOn (before.owner other) other := by
      simp [marksOn, acts.threads, own, Thread.marks]
    rw [pushed, List.append_assoc, own]
    simp only [List.nil_append, List.map_append, ← conserved, List.append_assoc]
  case isFalse differs =>
    have unmarked : events.flatMap (Event.marks other) = [] := by
      rw [List.flatMap_eq_nil_iff]
      intro event member
      have none : ∀ mark, markIf other id mark = [] := fun mark => if_neg (Ne.symm differs)
      rcases onLoop event member with same | same <;> simp [same, Event.marks, none]
    have unpushed : frames.flatMap (Frame.marks other) = [] := by
      rw [List.flatMap_eq_nil_iff]
      exact fun frame member => Frame.isOf_marks (ofId frame member) differs
    have same : after.marksOn (before.owner other) other =
        before.marksOn (before.owner other) other := by
      rw [marksOn, marksOn, acts.threads]
      by_cases here : before.owner other = loop
      · simp [here, Thread.marks, unpushed]
      · rw [Function.update_of_ne here]
    rw [unmarked, same, List.append_nil]

end Does

/-- The books are kept: what was being done on a thread is done or to be done. -/
structure Passes (now later : Nat → List Mark) (before after : TcpServer) : Prop where
  script : ∀ id, after.script (later id) id = before.script (now id) id
  outstanding : ∀ id, after.outstanding id = before.outstanding id
  owner : ∀ id, after.owner id = before.owner id
  inserted : ∀ id, .inserted id ∈ after.trace ↔ .inserted id ∈ before.trace
  counter : after.nextConnId = before.nextConnId
  placed : Placed before → Placed after

/-- Nothing is being done. -/
def nothing : Nat → List Mark := fun _ => []

/-- Something is being done with one connection. -/
def only (id : Nat) (marks : List Mark) (other : Nat) : List Mark :=
  if other = id then marks else []

namespace Passes

variable {now later middle : Nat → List Mark}

theorem trans {between : TcpServer} (first : Passes now middle before between)
    (second : Passes middle later between after) : Passes now later before after :=
  ⟨fun id => (second.script id).trans (first.script id),
    fun id => (second.outstanding id).trans (first.outstanding id),
    fun id => (second.owner id).trans (first.owner id),
    fun id => (second.inserted id).trans (first.inserted id),
    second.counter.trans first.counter, fun placed => second.placed (first.placed placed)⟩

/-- Nothing of what the books say was changed. -/
theorem of_same (threads : after.threads = before.threads)
    (recorded : ∀ id, after.recorded id = before.recorded id)
    (owner : ∀ id, after.owner id = before.owner id)
    (connections : after.connections = before.connections)
    (inserted : ∀ id, .inserted id ∈ after.trace ↔ .inserted id ∈ before.trace)
    (counter : after.nextConnId = before.nextConnId) : Passes now now before after := by
  have marks : ∀ loop id, after.marksOn loop id = before.marksOn loop id := by
    intro loop id
    rw [marksOn, marksOn, threads]
  refine ⟨fun id => ?_, fun id => ?_, owner, inserted, counter, fun placed loop id some => ?_⟩
  · rw [TcpServer.script, TcpServer.script, recorded, owner, marks]
  · rw [TcpServer.outstanding, TcpServer.outstanding, connections, threads]
  · rw [owner]
    exact placed loop id (marks loop id ▸ some)

theorem refl (server : TcpServer) : Passes now now server server :=
  .of_same rfl (fun _ => rfl) (fun _ => rfl) rfl (fun _ => Iff.rfl) rfl

theorem emit {event : Event} (unmarked : ∀ id, event.marks id = [])
    (other : ∀ id, event ≠ .inserted id) (server : TcpServer) :
    Passes now now server (server.emit event) := by
  refine .of_same rfl (fun id => ?_) (fun _ => rfl) rfl (fun id => ?_) rfl
  · simp [TcpServer.recorded, TcpServer.emit, unmarked]
  · simp only [TcpServer.emit, List.mem_append, List.mem_singleton, or_iff_left_iff_imp]
    exact fun same => absurd same.symm (other id)

/-- A frame of the server that lists nothing. -/
theorem push {frame : Frame} (unmarked : ∀ id, frame.marks id = [])
    (unlisted : ∀ id, frame.listed id = 0) (loop : Loop) (server : TcpServer) :
    Passes now now server (server.push loop frame) := by
  have marks : ∀ other id, (server.push loop frame).marksOn other id = server.marksOn other id := by
    intro other id
    by_cases same : other = loop
    · subst same
      simp [marksOn, TcpServer.push, onThread, unmarked]
    · simp [marksOn, TcpServer.push, onThread, Function.update_of_ne same]
  refine ⟨fun id => ?_, fun id => ?_, fun _ => rfl, fun _ => Iff.rfl, rfl,
    fun placed other id some => placed other id (marks other id ▸ some)⟩
  · show server.recorded id ++ List.map _ (_ ++ (server.push loop frame).marksOn _ _) = _
    rw [marks]
    rfl
  · by_cases same : Loop.base = loop
    · subst same
      simp [TcpServer.outstanding, TcpServer.push, onThread, Thread.push, unlisted]
    · simp [TcpServer.outstanding, TcpServer.push, onThread, Function.update_of_ne same]

/-- A thread takes up what it is to do first. -/
theorem release {change : Thread Frame Functor → Thread Frame Functor} (placed : Placed server)
    (here : ∀ id, server.marksOn loop id =
      now id ++ (server.onThread loop change).marksOn loop id)
    (listed : ∀ id, ((change (server.threads loop)).stack.map (Frame.listed id)).sum =
      ((server.threads loop).stack.map (Frame.listed id)).sum) :
    Passes nothing now server (server.onThread loop change) := by
  have elsewhere : ∀ other id, other ≠ loop →
      (server.onThread loop change).marksOn other id = server.marksOn other id := by
    intro other id differs
    simp [marksOn, onThread, Function.update_of_ne differs]
  refine ⟨fun id => ?_, fun id => ?_, fun _ => rfl, fun _ => Iff.rfl, rfl,
    fun placed other id some => ?_⟩
  · show server.recorded id ++ List.map _ (now id ++
      (server.onThread loop change).marksOn (server.owner id) id) = _
    by_cases own : server.owner id = loop
    · rw [own, ← here, ← own]
      rfl
    · have unmarked : now id = [] := by
        by_contra some
        exact own (placed loop id fun none => some (List.append_eq_nil_iff.mp (here id ▸ none)).1)
      rw [elsewhere _ _ own, unmarked]
      rfl
  · by_cases base : Loop.base = loop
    · subst base
      simp [TcpServer.outstanding, onThread, listed]
    · simp [TcpServer.outstanding, onThread, Function.update_of_ne base]
  · by_cases same : other = loop
    · subst same
      refine placed other id fun none => some ?_
      rw [here] at none
      exact (List.append_eq_nil_iff.mp none).2
    · exact placed other id (elsewhere other id same ▸ some)

theorem pop {frame : Frame} {rest : List Frame} (placed : Placed server)
    (top : (server.threads loop).stack = frame :: rest) (unlisted : ∀ id, frame.listed id = 0) :
    Passes nothing (fun id => frame.marks id) server (server.onThread loop Thread.pop) := by
  refine .release placed (fun id => ?_) fun id => ?_
  · rw [marksOn, Thread.marks_pop top]
    simp [marksOn, onThread]
  · simp [Thread.pop, top, unlisted]

theorem take {functor : Functor} {rest : List Functor} (placed : Placed server)
    (idle : (server.threads loop).stack = [])
    (queued : (server.threads loop).queue = functor :: rest) :
    Passes nothing (fun id => functor.marks id) server (server.onThread loop Thread.take) := by
  refine .release placed (fun id => ?_) fun id => rfl
  rw [marksOn, Thread.marks_take idle queued]
  simp [marksOn, onThread]

theorem does {marks : List Mark} (does : Does loop id marks before after)
    (own : before.owner id = loop) : Passes (only id marks) nothing before after := by
  have scripts := does.script own
  have owners := does.owner
  have counter := congrArg TcpServer.nextConnId does.desk
  have connections := congrArg TcpServer.connections does.desk
  obtain ⟨frames, events, acts, ofId, onLoop, -⟩ := does
  have unlisted : ∀ other, (frames.map (Frame.listed other)).sum = 0 := by
    intro other
    rw [List.sum_eq_zero]
    intro count member
    obtain ⟨frame, pushed, rfl⟩ := List.mem_map.mp member
    exact Frame.isOf_listed (ofId frame pushed) other
  refine ⟨scripts, fun other => ?_, owners, fun other => ?_, counter,
    fun placed other known some => ?_⟩
  · have connections : after.connections = before.connections := connections
    rw [TcpServer.outstanding, TcpServer.outstanding, connections, acts.threads]
    by_cases base : Loop.base = loop
    · subst base
      simp [unlisted]
    · rw [Function.update_of_ne base]
  · rw [acts.trace, List.mem_append, or_iff_left_iff_imp]
    intro member
    rcases onLoop _ member with same | same <;> cases same
  · rw [owners]
    by_cases here : other = loop
    · subst here
      by_cases same : known = id
      · rw [same]
        exact own
      · refine placed other known fun none => some ?_
        have unpushed : frames.flatMap (Frame.marks known) = [] := by
          rw [List.flatMap_eq_nil_iff]
          exact fun frame member => Frame.isOf_marks (ofId frame member) same
        rw [← none]
        simp [marksOn, acts.threads, Thread.marks, unpushed]
    · refine placed other known fun none => some ?_
      rw [← none, marksOn, marksOn, acts.threads, Function.update_of_ne here]

end Passes

theorem markIf_only (id : Nat) (mark : Mark) : (fun other => markIf other id mark) = only id [mark] := by
  funext other
  simp [markIf, only, eq_comm]

theorem script_of {now marks : List Mark} (recorded : after.recorded id = before.recorded id)
    (owner : after.owner id = before.owner id)
    (held : after.marksOn (before.owner id) id = marks) :
    after.script now id =
      before.recorded id ++ (now ++ marks).map fun mark => (mark, before.owner id) := by
  rw [script, recorded, owner, held]

/-- The books after a functor was posted to a worker for a connection of its own. -/
theorem post_marksOn {functor : Functor} {index : Nat} {marks : List Mark}
    (marked : (fun other => functor.marks other) = only id marks) (loop : Loop) (other : Nat) :
    (server.onThread (.worker index) (Thread.post functor)).marksOn loop other =
      server.marksOn loop other ++
        if loop = .worker index ∧ other = id then marks else [] := by
  have marked : ∀ other, functor.marks other = only id marks other := congrFun marked
  by_cases here : loop = .worker index
  · subst here
    simp [marksOn, onThread, marked, only]
  · simp [marksOn, onThread, here]

theorem post_placed {functor : Functor} {index : Nat} {marks : List Mark} (placed : Placed server)
    (own : server.owner id = .worker index)
    (marked : (fun other => functor.marks other) = only id marks) :
    Placed (server.onThread (.worker index) (Thread.post functor)) := by
  intro loop other some
  rw [post_marksOn marked] at some
  by_cases here : loop = .worker index ∧ other = id
  · obtain ⟨rfl, rfl⟩ := here
    exact own
  · rw [if_neg here, List.append_nil] at some
    exact placed loop other some

theorem post_script {functor : Functor} {index : Nat} {marks : List Mark}
    (own : server.owner id = .worker index)
    (marked : (fun other => functor.marks other) = only id marks) (other : Nat) :
    (server.onThread (.worker index) (Thread.post functor)).script [] other =
      server.script [] other ++ (only id marks other).map fun mark => (mark, server.owner id) := by
  have history : (server.onThread (.worker index) (Thread.post functor)).recorded other =
      server.recorded other := rfl
  rw [script_of history rfl (post_marksOn marked _ _), script, List.append_assoc]
  by_cases same : other = id
  · subst same
    simp [own, only]
  · simp [same, only]

/-- What becomes of the books of one connection: it is inserted, it is handed over to
its loop, or it is taken up on the base thread itself. -/
inductive Entry (server next : TcpServer) (id : Nat) : Prop where
  | same (script : next.script [] id = server.script [] id)
      (outstanding : next.outstanding id = server.outstanding id)
      (owner : next.owner id = server.owner id)
      (inserted : .inserted id ∈ next.trace ↔ .inserted id ∈ server.trace)
  | inserted (listening : server.listening = true) (fresh : id = server.nextConnId)
      (counter : next.nextConnId = server.nextConnId + 1)
      (script : (∀ loop, server.marksOn loop id = []) →
        next.script [] id = server.recorded id ++ [(.established, next.owner id)])
      (outstanding : next.outstanding id = server.outstanding id + 1)
      (owner : next.owner id = server.getNextLoop.1) (inserted : .inserted id ∈ next.trace)
  | handed (script : next.script [] id = server.script [] id ++ [(.destroyed, server.owner id)])
      (outstanding : server.outstanding id = next.outstanding id + 1)
      (owner : next.owner id = server.owner id)
      (inserted : .inserted id ∈ next.trace ↔ .inserted id ∈ server.trace)
  | inline (script : next.script [] id = server.script [.destroyed] id)
      (outstanding : server.outstanding id = next.outstanding id + 1)
      (owner : next.owner id = server.owner id) (base : server.owner id = .base)
      (inserted : .inserted id ∈ next.trace ↔ .inserted id ∈ server.trace)
      (listed : 0 < ((server.threads .base).stack.map (Frame.listed id)).sum)

/-- What a step makes of the books. -/
structure Books (server next : TcpServer) : Prop where
  placed : Placed next
  counter : server.nextConnId ≤ next.nextConnId
  entry : ∀ id, Entry server next id

theorem Books.of_passes (placed : Placed server) (passes : Passes nothing nothing server next) :
    Books server next :=
  ⟨passes.placed placed, passes.counter.ge, fun id => .same (passes.script id)
    (passes.outstanding id) (passes.owner id) (passes.inserted id)⟩

/-- The server no longer lists a connection, and is about to hand it over. -/
structure Unlists (id : Nat) (server middle : TcpServer) : Prop where
  script : ∀ now other, middle.script now other = server.script now other
  outstanding : server.outstanding id = middle.outstanding id + 1
  others : ∀ other, other ≠ id → middle.outstanding other = server.outstanding other
  owner : ∀ other, middle.owner other = server.owner other
  inserted : ∀ other, .inserted other ∈ middle.trace ↔ .inserted other ∈ server.trace
  counter : middle.nextConnId = server.nextConnId
  placed : Placed middle

/-- Everything of the books but what is outstanding. -/
theorem Entry.same_of {middle : TcpServer} (unlists : Unlists id server middle)
    (differs : other ≠ id) (script : next.script [] other = middle.script [] other)
    (outstanding : next.outstanding other = middle.outstanding other)
    (owner : next.owner other = middle.owner other)
    (inserted : .inserted other ∈ next.trace ↔ .inserted other ∈ middle.trace) :
    Entry server next other :=
  .same (script.trans (unlists.script [] other)) (outstanding.trans (unlists.others other differs))
    (owner.trans (unlists.owner other)) (inserted.trans (unlists.inserted other))

/-- A connection that the server has taken out of its lists is handed over. -/
theorem Unlists.books {middle : TcpServer} (unlists : Unlists id server middle)
    {functor : Functor} {run : TcpServer → TcpServer}
    (marked : (fun other => functor.marks other) = only id [.destroyed])
    (does : Does .base id [.destroyed] middle (run middle))
    (inline : server.owner id = .base →
      0 < ((server.threads .base).stack.map (Frame.listed id)).sum ∨ server.marksOn .base id = []) :
    Books server (middle.runInLoop id functor run) := by
  unfold runInLoop
  split
  case h_1 base =>
    have base : middle.owner id = .base := base
    have passes := Passes.does does base
    have base' : server.owner id = .base := (unlists.owner id).symm.trans base
    refine ⟨passes.placed unlists.placed, (passes.counter.trans unlists.counter).ge, fun other => ?_⟩
    by_cases same : other = id
    · subst same
      have script : (run middle).script [] other = server.script [.destroyed] other := by
        have moved := passes.script other
        rw [only, if_pos rfl, unlists.script] at moved
        exact moved
      have outstanding : server.outstanding other = (run middle).outstanding other + 1 := by
        rw [passes.outstanding, unlists.outstanding]
      have owner := (passes.owner other).trans (unlists.owner other)
      have inserted := (passes.inserted other).trans (unlists.inserted other)
      rcases inline base' with listed | unmarked
      · exact .inline script outstanding owner base' inserted listed
      · refine .handed ?_ outstanding owner inserted
        rw [script, TcpServer.script, TcpServer.script, base', unmarked]
        simp
    · refine .same_of unlists same ?_ (passes.outstanding other) (passes.owner other)
        (passes.inserted other)
      have moved := passes.script other
      rw [only, if_neg same] at moved
      exact moved
  case h_2 index worker =>
    have own : middle.owner id = .worker index := worker
    refine ⟨post_placed unlists.placed own marked, unlists.counter.ge, fun other => ?_⟩
    have posted := post_script own marked other
    have outstanding : (middle.onThread (.worker index) (Thread.post functor)).outstanding other =
        middle.outstanding other := by
      simp [TcpServer.outstanding, onThread]
    by_cases same : other = id
    · subst same
      rw [unlists.script, only, if_pos rfl, unlists.owner] at posted
      refine .handed posted ?_ (unlists.owner other) (unlists.inserted other)
      rw [outstanding, unlists.outstanding]
    · rw [only, if_neg same, List.map_nil, List.append_nil] at posted
      exact .same_of unlists same posted outstanding rfl Iff.rfl

end MiniTrantor.Net.TcpServer
