import MiniTrantor.Net.Server.Books
import MiniTrantor.Reachability

/-!
# Every step keeps the books

Each step of the system is one entry in the books of each connection. That
connections are established once follows for every run.
-/

set_option autoImplicit false

namespace MiniTrantor.Net.TcpServer

variable {before after server next : TcpServer} {loop : Loop} {id other : Nat}

/-- The base loop is posted removals, and the other loops are not. -/
def Routed (server : TcpServer) : Prop :=
  ∀ loop, ∀ functor ∈ (server.threads loop).queue,
    loop = .base ↔ ∃ id, functor = .removeConnectionInLoop id

/-- All connections move from the map to the list of a loop over them. -/
theorem Passes.moveOut {frame : Frame} {now : Nat → List Mark}
    (unmarked : ∀ id, frame.marks id = [])
    (listed : ∀ id, frame.listed id = server.connections.count id) :
    Passes now now server (server.moveOut.push .base frame) := by
  have marks : ∀ loop id, (server.moveOut.push .base frame).marksOn loop id =
      server.marksOn loop id := by
    intro loop id
    by_cases base : loop = .base
    · subst base
      simp [marksOn, TcpServer.push, onThread, unmarked, TcpServer.moveOut]
    · simp [marksOn, TcpServer.push, onThread, TcpServer.moveOut, base]
  have history : ∀ id, (server.moveOut.push .base frame).recorded id = server.recorded id := by
    intro id
    have none : (server.connections.map fun id => Event.left id false).flatMap (Event.marks id) =
        [] := by
      simp [List.flatMap_eq_nil_iff, Event.marks]
    simp [recorded, TcpServer.push, onThread, TcpServer.moveOut, none]
  refine ⟨fun id => ?_, fun id => ?_, fun _ => rfl, fun id => ?_, rfl,
    fun placed loop id some => placed loop id (marks loop id ▸ some)⟩
  · rw [script_of (history id) rfl (marks _ _), TcpServer.script]
  · simp only [TcpServer.outstanding, TcpServer.push, onThread, TcpServer.moveOut, Thread.push,
      Function.update_self, List.map_cons, List.sum_cons, listed, List.count_nil]
    omega
  · simp [TcpServer.push, onThread, TcpServer.moveOut]

/-- Fields that the books do not depend on. -/
theorem Passes.fields {now : Nat → List Mark} (threads : after.threads = before.threads)
    (trace : after.trace = before.trace) (conns : after.conns = before.conns)
    (connections : after.connections = before.connections)
    (counter : after.nextConnId = before.nextConnId) : Passes now now before after :=
  .of_same threads (fun id => by rw [recorded, recorded, trace])
    (fun id => by rw [TcpServer.owner, TcpServer.owner, conns]) connections (fun id => by rw [trace]) counter

theorem Passes.stopPool {now : Nat → List Mark} (destructor : Bool) (server : TcpServer) :
    Passes now now server (server.stopPool destructor) := by
  have asked : Passes now now server { server with threadPool := server.threadPool.requestStop } :=
    .fields rfl rfl rfl rfl rfl
  exact (asked.trans (.emit (fun _ => rfl) (by simp) _)).trans
    (.push (fun _ => rfl) (fun _ => rfl) .base _)

theorem Passes.start {now : Nat → List Mark} (server : TcpServer) :
    Passes now now server server.start := by
  unfold TcpServer.start
  split
  · exact .refl server
  · exact .fields rfl rfl rfl rfl rfl

theorem Passes.stop {now : Nat → List Mark} (server : TcpServer) :
    Passes now now server server.stop := by
  unfold TcpServer.stop
  split
  · exact .refl server
  · have marked : Passes now now server
        { server with stopped := true, draining := false, listening := false } :=
      .fields rfl rfl rfl rfl rfl
    exact marked.trans (.moveOut (fun _ => rfl) fun _ => rfl)

theorem Passes.stopAfter {now : Nat → List Mark} (server : TcpServer) :
    Passes now now server server.stopAfter := by
  unfold TcpServer.stopAfter
  split
  · exact .refl server
  · split
    · have marked : Passes now now server
          { server with stopped := true, draining := false, listening := false } :=
        .fields rfl rfl rfl rfl rfl
      exact (marked.trans (.emit (fun _ => rfl) (by simp) _)).trans (.stopPool false _)
    · exact .fields rfl rfl rfl rfl rfl

theorem Passes.onDrainTimeout {now : Nat → List Mark} (server : TcpServer) :
    Passes now now server server.onDrainTimeout := by
  unfold TcpServer.onDrainTimeout
  split
  · exact .fields rfl rfl rfl rfl rfl
  · have marked : Passes now now server { server with drainTimerId := none, draining := false } :=
      .fields rfl rfl rfl rfl rfl
    exact (marked.trans (.emit (fun _ => rfl) (by simp) _)).trans
      (.moveOut (fun _ => rfl) fun _ => rfl)

theorem Passes.destruct {now : Nat → List Mark} (server : TcpServer) :
    Passes now now server server.destruct := by
  have marked : Passes now now server { server with
      stopped := true
      draining := false
      lifetimeToken := false
      listening := false
      timers := cancel server.drainTimerId server.timers } := .fields rfl rfl rfl rfl rfl
  exact (marked.trans (.emit (fun _ => rfl) (by simp) _)).trans
    (.moveOut (fun _ => rfl) fun _ => rfl)

theorem Passes.finishRemoval {now : Nat → List Mark} (server : TcpServer) :
    Passes now now server server.finishRemoval := by
  unfold TcpServer.finishRemoval
  split
  · have marked : Passes now now server { server with
        draining := false
        timers := cancel server.drainTimerId server.timers
        drainTimerId := none } := .fields rfl rfl rfl rfl rfl
    exact (marked.trans (.emit (fun _ => rfl) (by simp) _)).trans (.stopPool false _)
  · exact .refl server

/-- A close leaves nothing to do that the books are kept of. -/
theorem Passes.runCloseSequence {now : Nat → List Mark} (notifies : Bool) (server : TcpServer) :
    Passes now now server (server.runCloseSequence loop id notifies) := by
  have closed : Passes now now server (server.setState id .kDisconnected) := by
    refine .of_same rfl (fun _ => rfl) (fun other => ?_) rfl (fun _ => Iff.rfl) rfl
    by_cases same : other = id
    · subst same
      simp [TcpServer.owner, setState, onConn]
    · simp [TcpServer.owner, setState, onConn, Function.update_of_ne same]
  exact closed.trans (.push (fun _ => rfl) (fun _ => rfl) loop _)

/-- A thread that changes neither its marks nor its stack. -/
theorem Passes.onThread {now : Nat → List Mark}
    {change : Thread Frame Functor → Thread Frame Functor}
    (stack : (change (server.threads loop)).stack = (server.threads loop).stack)
    (queue : ∀ id, (change (server.threads loop)).queue.flatMap (Functor.marks id) =
      (server.threads loop).queue.flatMap (Functor.marks id)) :
    Passes now now server (server.onThread loop change) := by
  have marks : ∀ other id, (server.onThread loop change).marksOn other id =
      server.marksOn other id := by
    intro other id
    by_cases here : other = loop
    · subst here
      simp [marksOn, TcpServer.onThread, Thread.marks, stack, queue]
    · simp [marksOn, TcpServer.onThread, here]
  have history : ∀ id, (server.onThread loop change).recorded id = server.recorded id :=
    fun _ => rfl
  refine ⟨fun id => ?_, fun id => ?_, fun _ => rfl, fun _ => Iff.rfl, rfl,
    fun placed other id some => placed other id (marks other id ▸ some)⟩
  · rw [script_of (history id) rfl (marks _ _), TcpServer.script]
  · by_cases base : Loop.base = loop
    · subst base
      simp [TcpServer.outstanding, TcpServer.onThread, stack]
    · simp [TcpServer.outstanding, TcpServer.onThread, base]

theorem Passes.notifyClose {now : Nat → List Mark} (id : Nat) (server : TcpServer) :
    Passes now now server (server.notifyClose id) := by
  unfold TcpServer.notifyClose
  split
  · have told : Passes now now server (server.emit (.closed id)) :=
      .emit (fun _ => rfl) (by simp) server
    refine told.trans ?_
    unfold queueInBase
    split
    · exact .refl _
    · exact .onThread rfl fun id => by simp [Thread.post, Functor.marks]
  · exact .refl server

namespace Unlists

theorem between {first second : TcpServer} (earlier : ∀ now, Passes now now server first)
    (unlists : Unlists id first second) (later : ∀ now, Passes now now second next) :
    Unlists id server next := by
  have passes := earlier nothing
  have passes' := later nothing
  refine ⟨fun now other => ?_, ?_, fun other differs => ?_, fun other => ?_, fun other => ?_, ?_,
    passes'.placed unlists.placed⟩
  · exact ((later fun _ => now).script other).trans
      ((unlists.script now other).trans ((earlier fun _ => now).script other))
  · rw [passes'.outstanding, ← unlists.outstanding, passes.outstanding]
  · rw [passes'.outstanding, unlists.others other differs, passes.outstanding]
  · rw [passes'.owner, unlists.owner, passes.owner]
  · rw [passes'.inserted, unlists.inserted, passes.inserted]
  · rw [passes'.counter, unlists.counter, passes.counter]

/-- The connection is taken out of the map. -/
theorem erase (placed : Placed server) (member : id ∈ server.connections) :
    Unlists id server { server with connections := server.connections.erase id } := by
  have some := List.count_pos_iff.mpr member
  refine ⟨fun _ _ => rfl, ?_, fun other differs => ?_, fun _ => rfl, fun _ => Iff.rfl, rfl, placed⟩
  · simp only [TcpServer.outstanding, List.count_erase_self]
    omega
  · rw [TcpServer.outstanding, TcpServer.outstanding, List.count_erase_of_ne differs]

theorem removal {rest : List Functor} (placed : Placed server)
    (queued : (server.threads .base).queue = .removeConnectionInLoop id :: rest)
    (member : id ∈ server.connections) :
    Unlists id server ((({ (server.onThread .base Thread.take).emit (.removal id) with
      connections := server.connections.erase id }.emit (.left id true)).push .base .removed)) := by
  have taken : ∀ now, Passes now now server
      ((server.onThread .base Thread.take).emit (.removal id)) := by
    intro now
    have first : Passes now now server (server.onThread .base Thread.take) :=
      .onThread rfl fun other => by simp [Thread.take, queued, Functor.marks]
    exact first.trans (.emit (fun _ => rfl) (by simp) _)
  have erased := @erase ((server.onThread .base Thread.take).emit (.removal id)) id
    ((taken nothing).placed placed) member
  refine .between taken erased fun now => ?_
  exact (Passes.emit (fun _ => rfl) (by simp) _).trans (.push (fun _ => rfl) (fun _ => rfl) .base _)

/-- A loop over connections goes on to its next one. -/
theorem listed {frame following : Frame} {rest : List Frame} (placed : Placed server)
    (top : (server.threads .base).stack = frame :: rest) (marks : ∀ id, frame.marks id = [])
    (marks' : ∀ id, following.marks id = []) (one : frame.listed id = following.listed id + 1)
    (others : ∀ other, other ≠ id → following.listed other = frame.listed other) :
    Unlists id server ((server.onThread .base Thread.pop).push .base following) := by
  have same : ∀ loop other, ((server.onThread .base Thread.pop).push .base following).marksOn loop
      other = server.marksOn loop other := by
    intro loop other
    by_cases base : loop = .base
    · subst base
      simp [marksOn, TcpServer.push, onThread, marks', Thread.marks_pop top, marks]
    · simp [marksOn, TcpServer.push, onThread, base]
  have history : ∀ other, ((server.onThread .base Thread.pop).push .base following).recorded other =
      server.recorded other := fun _ => rfl
  have counted : ∀ other, ((server.onThread .base Thread.pop).push .base following).outstanding
      other + frame.listed other = server.outstanding other + following.listed other := by
    intro other
    simp only [TcpServer.outstanding, TcpServer.push, onThread, Function.update_self, Thread.push,
      Thread.pop, top, List.tail_cons, List.map_cons, List.sum_cons]
    omega
  refine ⟨fun now other => ?_, ?_, fun other differs => ?_, fun _ => rfl, fun _ => Iff.rfl, rfl, ?_⟩
  · rw [script_of (history other) rfl (same _ _), TcpServer.script]
  · have counted := counted id
    omega
  · have counted := counted other
    have same := others other differs
    omega
  · exact fun loop other some => placed loop other (same loop other ▸ some)

end Unlists

/-- What is done by a functor, on the thread of its connection. -/
theorem Books.functor {functor : Functor} {rest : List Functor} (placed : Placed server)
    (routed : Routed server) (idle : server.idle loop = true)
    (queued : (server.threads loop).queue = functor :: rest) :
    Books server (functor.run loop (server.onThread loop Thread.take)) := by
  have empty : (server.threads loop).stack = [] := by
    simp only [TcpServer.idle, Bool.and_eq_true, List.isEmpty_iff] at idle
    exact idle.1
  have passes := Passes.take placed empty queued
  have done : ∀ {id mark next}, (fun other => functor.marks other) = only id [mark] →
      Does loop id [mark] (server.onThread loop Thread.take) next → Books server next := by
    intro id mark next marked does
    have own : server.owner id = loop := by
      refine placed loop id fun none => ?_
      rw [marksOn, Thread.marks_take empty queued, congrFun marked id] at none
      simp [only] at none
    rw [marked] at passes
    exact .of_passes placed (passes.trans (.does does own))
  cases functor with
  | connectEstablished id => exact done (markIf_only id _) (.establish loop id _)
  | forceClose id => exact done (markIf_only id _) (.forceClose loop id _)
  | destroy id => exact done (markIf_only id _) (.destroyConnection loop id _)
  | connectDestroyed id => exact done (markIf_only id _) (.connectDestroyed loop id _)
  | removeConnectionInLoop id =>
      have base : loop = .base := (routed loop _ (queued ▸ List.mem_cons_self)).mpr ⟨id, rfl⟩
      subst base
      have taken : Passes nothing nothing server (server.onThread .base Thread.take) := passes
      simp only [Functor.run]
      split
      · unfold removeConnectionInLoop
        dsimp only
        split
        case isTrue member =>
          refine (Unlists.removal placed queued member).books (markIf_only id _)
            (.connectDestroyed .base id _) fun _ => .inr ?_
          rw [marksOn, Thread.marks, empty, List.flatMap_nil, List.nil_append,
            List.flatMap_eq_nil_iff]
          intro functor posted
          obtain ⟨other, rfl⟩ := (routed .base functor posted).mp rfl
          rfl
        case isFalse =>
          exact .of_passes placed (taken.trans (.emit (fun _ => rfl) (by simp) _))
      · exact .of_passes placed taken

theorem Books.resume {frame : Frame} {rest : List Frame} (placed : Placed server)
    (top : (server.threads loop).stack = frame :: rest) (ready : server.ready frame = true) :
    Books server (frame.resume loop (server.onThread loop Thread.pop)) := by
  have unlisted : ∀ id, frame.listed id = 0 := by
    cases frame with
    | forceClosing listed | destructing listed =>
        have none : listed = [] := by simpa [TcpServer.ready] using ready
        simp [none, Frame.listed]
    | _ => exact fun _ => rfl
  have passes := Passes.pop placed top unlisted
  have done : ∀ {id mark next}, (fun other => frame.marks other) = only id [mark] →
      Does loop id [mark] (server.onThread loop Thread.pop) next → Books server next := by
    intro id mark next marked does
    have own : server.owner id = loop := by
      refine placed loop id fun none => ?_
      rw [marksOn, Thread.marks_pop top, congrFun marked id] at none
      simp [only] at none
    rw [marked] at passes
    exact .of_passes placed (passes.trans (.does does own))
  cases frame with
  | accepting | connected => exact .of_passes placed passes
  | handshakeStarted id => exact done (markIf_only id _) (.connectEstablished loop id _)
  | disconnected id notifies =>
      have popped : Passes nothing nothing server (server.onThread loop Thread.pop) := passes
      simp only [Frame.resume]
      split
      · exact .of_passes placed (popped.trans (.notifyClose id _))
      · exact .of_passes placed popped
  | forceClosed id => exact done (markIf_only id _) (.closeAndDestroy loop id _)
  | destroying id => exact done (markIf_only id _) (.connectDestroyed loop id _)
  | forceClosing => exact .of_passes placed (passes.trans (.stopPool false _))
  | destructing => exact .of_passes placed (passes.trans (.stopPool true _))
  | removed => exact .of_passes placed (passes.trans (.finishRemoval _))
  | joining destructor =>
      have popped : Passes nothing nothing server (server.onThread loop Thread.pop) := passes
      exact .of_passes placed (popped.trans (.fields rfl rfl rfl rfl rfl))

section Insert

variable (unmarked : ∀ loop, server.marksOn loop server.nextConnId = [])

include unmarked

theorem insert_placed (placed : Placed server) (loop : Loop) : Placed (server.insert loop) := by
  intro other id some
  have some : server.marksOn other id ≠ [] := some
  by_cases same : id = server.nextConnId
  · rw [same] at some
    exact absurd (unmarked other) some
  · have owner : (server.insert loop).owner id = server.owner id := by
      simp [TcpServer.owner, insert, TcpServer.emit, Function.update_of_ne same]
    rw [owner]
    exact placed other id some

/-- It is established at once or posted to its loop. -/
theorem insert_passes (loop : Loop) :
    Passes (only server.nextConnId [.established]) nothing (server.insert loop)
      ((server.insert loop).runInLoop server.nextConnId
        (.connectEstablished server.nextConnId) (establish .base server.nextConnId)) := by
  unfold runInLoop
  split
  case h_1 base => exact .does (.establish .base server.nextConnId _) base
  case h_2 index worker =>
    have own : (server.insert loop).owner server.nextConnId = .worker index := worker
    refine ⟨fun id => ?_, fun id => ?_, fun _ => rfl, fun _ => Iff.rfl, rfl,
      fun placed => post_placed placed own (markIf_only _ _)⟩
    · have posted := @post_script _ _ (.connectEstablished server.nextConnId) _ _ own
        (markIf_only _ _) id
      rw [nothing, posted]
      by_cases same : id = server.nextConnId
      · have none : (server.insert loop).marksOn (.worker index) server.nextConnId = [] :=
          unmarked _
        subst same
        simp [only, script, own, none]
      · simp [only, same]
    · simp [TcpServer.outstanding, onThread]

theorem Books.inserted (listening : server.listening = true) (placed : Placed server) (next : Nat) :
    Books server (({ server with next }.insert server.getNextLoop.1).runInLoop server.nextConnId
      (.connectEstablished server.nextConnId) (establish .base server.nextConnId)) := by
  have passes := @insert_passes { server with next } unmarked server.getNextLoop.1
  generalize after : ({ server with next }.insert server.getNextLoop.1).runInLoop server.nextConnId
    (.connectEstablished server.nextConnId) (establish .base server.nextConnId) = later at passes
  have history : ∀ id, ({ server with next }.insert server.getNextLoop.1).recorded id =
      server.recorded id := by
    intro id
    simp [recorded, insert, TcpServer.emit, Event.marks]
  refine ⟨passes.placed (@insert_placed { server with next } unmarked placed _), ?_, fun id => ?_⟩
  · rw [passes.counter]
    exact Nat.le_succ _
  · have script := passes.script id
    have outstanding := passes.outstanding id
    have inserted := passes.inserted id
    by_cases same : id = server.nextConnId
    · subst same
      have owner : ({ server with next }.insert server.getNextLoop.1).owner server.nextConnId =
          server.getNextLoop.1 := by
        simp [TcpServer.owner, insert, TcpServer.emit]
      refine .inserted listening rfl passes.counter (fun _ => ?_) ?_ ((passes.owner _).trans owner) ?_
      · have none : ∀ loop', ({ server with next }.insert server.getNextLoop.1).marksOn loop'
            server.nextConnId = [] := unmarked
        have now : only ({ server with next } : TcpServer).nextConnId [.established]
            server.nextConnId = [.established] := if_pos rfl
        rw [nothing, now, TcpServer.script, TcpServer.script, none, history] at script
        rw [TcpServer.script, script, passes.owner]
        rfl
      · rw [outstanding]
        simp only [TcpServer.outstanding, insert, TcpServer.emit, List.count_cons_self]
        omega
      · rw [inserted]
        simp [insert, TcpServer.emit]
    · have owner : ({ server with next }.insert server.getNextLoop.1).owner id = server.owner id := by
        simp [TcpServer.owner, insert, TcpServer.emit, Function.update_of_ne same]
      have now : only ({ server with next } : TcpServer).nextConnId [.established] id = [] :=
        if_neg same
      refine .same ?_ ?_ ((passes.owner id).trans owner) ?_
      · rw [nothing, now, script_of (history id) owner rfl] at script
        exact script
      · rw [outstanding]
        simp [TcpServer.outstanding, insert, TcpServer.emit, List.count_cons_of_ne (Ne.symm same)]
      · rw [inserted]
        simp [insert, TcpServer.emit, same]

end Insert

theorem Books.newConnection (listening : server.listening = true) (placed : Placed server)
    (unmarked : ∀ loop, server.marksOn loop server.nextConnId = []) :
    Books server server.newConnection := by
  unfold TcpServer.newConnection
  split
  · exact .of_passes placed (.refl server)
  · dsimp only
    obtain ⟨next, selected⟩ := server.getNextLoop_same
    rw [selected]
    exact .inserted unmarked listening placed next

theorem runInLoop_desk {functor : Functor} {run : TcpServer → TcpServer} {marks : List Mark}
    (inline : Does .base id marks server (run server)) :
    (server.runInLoop id functor run).desk = server.desk := by
  unfold runInLoop
  split
  · exact inline.desk
  · rfl

theorem listed_erase {listed : List Nat} (member : id ∈ listed) :
    listed.count id = (listed.erase id).count id + 1 ∧
      (∀ other, other ≠ id → (listed.erase id).count other = listed.count other) ∧
      0 < listed.count id := by
  have some := List.count_pos_iff.mpr member
  rw [List.count_erase_self]
  exact ⟨by omega, fun other differs => List.count_erase_of_ne differs, some⟩

theorem Moves.books {action : Action} (placed : Placed server) (routed : Routed server)
    (unmarked : ∀ loop, server.marksOn loop server.nextConnId = [])
    (moves : Moves server action next) : Books server next := by
  have none : ∀ id, only id [] = nothing := by
    intro id
    funext other
    simp [only, nothing]
  cases moves with
  | start => exact .of_passes placed (.start server)
  | stop => exact .of_passes placed (.stop server)
  | stopAfter => exact .of_passes placed (.stopAfter server)
  | destruct => exact .of_passes placed (.destruct server)
  | acceptable => exact .of_passes placed (.push (fun _ => rfl) (fun _ => rfl) .base server)
  | accept _ listening => exact .newConnection listening placed unmarked
  | functor idle queued => exact .functor placed routed idle queued
  | expired =>
      have fired : ∀ timers, Passes nothing nothing server { server with timers } :=
        fun _ => .fields rfl rfl rfl rfl rfl
      exact .of_passes placed ((fired _).trans (.onDrainTimeout _))
  | outlived => exact .of_passes placed (.fields rfl rfl rfl rfl rfl)
  | @close loop id _ own =>
      exact .of_passes placed (none id ▸ .does (.forceCloseInLoop loop id server) own)
  | abort => exact .of_passes placed (.runCloseSequence true server)
  | @shutdown id connected => exact .of_passes placed (none id ▸ .does (.shutdown _ connected) rfl)
  | noShutdown => exact .of_passes placed (.refl server)
  | @forceClose id listed rest top member =>
      obtain ⟨one, others, some⟩ := listed_erase member
      have unlists : Unlists id server ((server.onThread .base Thread.pop).push .base
          (.forceClosing (listed.erase id))) :=
        .listed placed top (fun _ => rfl) (fun _ => rfl) one others
      refine unlists.books (markIf_only id _) (.forceClose .base id _) fun _ => .inl ?_
      rw [top, List.map_cons, List.sum_cons]
      exact Nat.add_pos_left some _
  | @destroy id listed rest top member =>
      obtain ⟨one, others, some⟩ := listed_erase member
      have unlists : Unlists id server ((server.onThread .base Thread.pop).push .base
          (.destructing (listed.erase id))) :=
        .listed placed top (fun _ => rfl) (fun _ => rfl) one others
      refine unlists.books (markIf_only id _) (.destroyConnection .base id _) fun _ => .inl ?_
      rw [top, List.map_cons, List.sum_cons]
      exact Nat.add_pos_left some _
  | resume top ready => exact .resume placed top ready
  | exit => exact .of_passes placed (.onThread rfl fun _ => rfl)

/-- Where the marks of a connection are, and that each is established once. -/
structure Ledger (server : TcpServer) : Prop where
  placed : Placed server
  known : ∀ id, .inserted id ∈ server.trace → id < server.nextConnId
  unknown : ∀ id, .inserted id ∉ server.trace →
    server.script [] id = [] ∧ server.outstanding id = 0
  once : ∀ id, .inserted id ∈ server.trace →
    (server.script [] id).countP (fun mark => mark.1 == .established) = 1

namespace Ledger

theorem unmarked (ledger : Ledger server) (absent : .inserted id ∉ server.trace) (loop : Loop) :
    server.marksOn loop id = [] := by
  by_contra some
  have own := ledger.placed loop id some
  have none := (ledger.unknown id absent).1
  rw [script, own, List.append_eq_nil_iff, List.map_eq_nil_iff] at none
  exact some none.2

theorem books (ledger : Ledger server) (books : Books server next) : Ledger next := by
  refine ⟨books.placed, fun id inserted => ?_, fun id absent => ?_, fun id inserted => ?_⟩
  · cases books.entry id with
    | same _ _ _ same | handed _ _ _ same | inline _ _ _ _ same =>
        exact Nat.lt_of_lt_of_le (ledger.known id (same.mp inserted)) books.counter
    | inserted _ fresh counter => omega
  · cases books.entry id with
    | same script outstanding _ inserted =>
        have before := ledger.unknown id fun earlier => absent (inserted.mpr earlier)
        exact ⟨script.trans before.1, outstanding.trans before.2⟩
    | inserted _ _ _ _ _ _ inserted => exact absurd inserted absent
    | handed _ outstanding _ inserted | inline _ outstanding _ _ inserted =>
        have before := ledger.unknown id fun earlier => absent (inserted.mpr earlier)
        omega
  · cases books.entry id with
    | same script _ _ same =>
        rw [script]
        exact ledger.once id (same.mp inserted)
    | inserted _ fresh _ script _ _ _ =>
        have absent : .inserted id ∉ server.trace := fun earlier => by
          have before := ledger.known id earlier
          omega
        have none := (ledger.unknown id absent).1
        rw [TcpServer.script, List.append_eq_nil_iff] at none
        rw [script (ledger.unmarked absent), none.1]
        rfl
    | handed script _ _ same =>
        rw [script, List.countP_append, ledger.once id (same.mp inserted)]
        rfl
    | inline script _ _ _ same =>
        have before := ledger.once id (same.mp inserted)
        rw [TcpServer.script] at before
        rw [script, TcpServer.script]
        simpa using before

end Ledger

end MiniTrantor.Net.TcpServer
