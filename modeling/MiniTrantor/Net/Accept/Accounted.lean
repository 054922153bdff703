import MiniTrantor.Net.Accept.Accept
import MiniTrantor.Reachability

/-!
# Every accepted descriptor is accounted for

A descriptor is closed once, or belongs to a connection that is in the map or was given to
its owner loop, unless an exception leaves `newConnection` before a `Socket` has it: the
selection of a loop throws, or one of the first allocations.
-/

set_option autoImplicit false

namespace MiniTrantor.Net

namespace Accept

open Holdings (Sound Passes)

variable {server before middle after : TcpServer} {sockfd : SocketFd}
  {map front back : List SocketFd}

/-- A connection that is not given to its loop is held by the map alone. -/
def Placed (map : List SocketFd) (server : TcpServer) : Prop :=
  ∀ sockfd, server.holdings.holders sockfd ≠ [] → sockfd ∈ server.handed ∨
    server.holdings.holders sockfd = [.connections] ∧ sockfd ∈ map

/-- What code that makes no connection keeps, given the map as it finds and as it leaves it. -/
structure Kept (front back : List SocketFd) (before after : TcpServer) : Prop where
  passes : Passes before.holdings after.holdings
  placed : Placed front before → Placed back after
  handed : before.handed ⊆ after.handed
  accepted : after.accepted = before.accepted

namespace Kept

theorem refl (map : List SocketFd) (server : TcpServer) : Kept map map server server :=
  ⟨.refl _, id, List.Subset.refl _, rfl⟩

theorem trans {between : List SocketFd} (first : Kept front between before middle)
    (second : Kept between back middle after) : Kept front back before after where
  passes := first.passes.trans second.passes
  placed := second.placed ∘ first.placed
  handed := List.Subset.trans first.handed second.handed
  accepted := second.accepted.trans first.accepted

/-- Other fields change. -/
theorem same (holdings : after.holdings = before.holdings) (handed : after.handed = before.handed)
    (accepted : after.accepted = before.accepted) : Kept map map before after := by
  refine ⟨holdings ▸ .refl _, fun placed sockfd => ?_, handed ▸ List.Subset.refl _, accepted⟩
  rw [holdings, handed]
  exact placed sockfd

theorem handOver (map : List SocketFd) (sockfd : SocketFd) (server : TcpServer) :
    Kept map map server (server.handOver sockfd) := by
  refine ⟨.refl _, fun placed other held => ?_, List.subset_cons_self _ _, rfl⟩
  rcases placed other held with handed | placed
  · exact .inl (List.mem_cons_of_mem _ handed)
  · exact .inr placed

/-- The pointers to a connection that was given to its loop change. -/
theorem handedOver (handed : sockfd ∈ server.handed)
    {change : Holdings SocketFd Holder → Holdings SocketFd Holder}
    (passes : ∀ holdings, Passes holdings (change holdings))
    (others : ∀ other, other ≠ sockfd →
      (change server.holdings).holders other = server.holdings.holders other)
    (entries : ∀ other ∈ front, other ≠ sockfd → other ∈ back) :
    Kept front back server (server.hold change) := by
  refine ⟨passes _, fun placed other held => ?_, List.Subset.refl _, rfl⟩
  by_cases same : other = sockfd
  · subst same
    exact .inl handed
  · simp only [TcpServer.hold, others other same] at held ⊢
    rcases placed other held with handed | ⟨alone, found⟩
    · exact .inl handed
    · exact .inr ⟨alone, entries other found same⟩

/-- A pointer is dropped that a connection in the map does not need. -/
theorem drop {holder : Holder} (spare : holder ≠ .connections) (map : List SocketFd)
    (sockfd : SocketFd) (server : TcpServer) :
    Kept map map server (server.hold fun holdings => holdings.drop sockfd holder) := by
  refine ⟨Passes.drop .., fun placed other held => ?_, List.Subset.refl _, rfl⟩
  by_cases same : other = sockfd
  · subst same
    rcases placed other (fun none => held ((Passes.drop ..).gone other none)) with handed | ⟨alone, found⟩
    · exact .inl handed
    · refine .inr ⟨?_, found⟩
      simp only [TcpServer.hold, Holdings.drop_holders, Function.update_self, alone]
      rw [List.erase_of_not_mem (by simpa using spare)]
  · simp only [TcpServer.hold, Holdings.drop_holders, Function.update_of_ne same] at held ⊢
    exact placed other held

/-- The entry of a connection in the map is destroyed. -/
theorem dropEntry (map : List SocketFd) (sockfd : SocketFd) (server : TcpServer) :
    Kept (sockfd :: map) map server
      (server.hold fun holdings => holdings.drop sockfd .connections) := by
  refine ⟨Passes.drop .., fun placed other held => ?_, List.Subset.refl _, rfl⟩
  by_cases same : other = sockfd
  · subst same
    rcases placed other (fun none => held ((Passes.drop ..).gone other none)) with handed | ⟨alone, _⟩
    · exact .inl handed
    · refine absurd ?_ held
      simp only [TcpServer.hold, Holdings.drop_holders, Function.update_self, alone]
      rfl
  · simp only [TcpServer.hold, Holdings.drop_holders, Function.update_of_ne same] at held ⊢
    rcases placed other held with handed | ⟨alone, found⟩
    · exact .inl handed
    · exact .inr ⟨alone, (List.mem_cons.mp found).resolve_left same⟩

theorem pointer (handed : sockfd ∈ server.handed) (map : List SocketFd) (pointer : Pointer) :
    Kept map map server (server.pointer sockfd pointer) := by
  cases pointer with
  | copy =>
      exact handedOver handed (Passes.copy sockfd Holder.user)
        (fun _ different => Holdings.copy_holders_ne different) fun _ found _ => found
  | reset other => exact drop (by decide) map other server

theorem pointers (handed : sockfd ∈ server.handed) (map : List SocketFd) (pointers : List Pointer) :
    Kept map map server (server.pointers sockfd pointers) := by
  induction pointers generalizing server with
  | nil => exact refl map server
  | cons first rest ih =>
      have changed := pointer handed map first
      exact changed.trans (ih (changed.handed handed))

theorem dropFunctors (map queued : List SocketFd) (server : TcpServer) :
    Kept map map server (server.hold fun holdings =>
      queued.foldl (fun holdings sockfd => holdings.drop sockfd .functor) holdings) := by
  induction queued generalizing server with
  | nil => exact refl map server
  | cons sockfd queued ih => exact (drop (by decide) map sockfd server).trans (ih _)

theorem dropAll (map entries : List SocketFd) (server : TcpServer) :
    Kept (entries ++ map) map server (server.dropAll entries) := by
  induction entries generalizing server with
  | nil => exact refl map server
  | cons sockfd entries ih => exact (dropEntry (entries ++ map) sockfd server).trans (ih _)

theorem stopPool (map : List SocketFd) (server : TcpServer) :
    Kept map map server server.stopPool.1 := by
  unfold TcpServer.stopPool
  split
  · exact refl map server
  · exact (dropFunctors map server.queued server).trans (.same rfl rfl rfl)

end Kept

namespace Kept

theorem elsewhere (placed : Placed map server) (act : Elsewhere) :
    Kept map map server (server.elsewhere act) := by
  have handed : ∀ {sockfd : SocketFd} {holder : Holder}, holder ≠ .connections →
      holder ∈ server.holdings.holders sockfd → sockfd ∈ server.handed := by
    intro sockfd holder spare held
    rcases placed sockfd (List.ne_nil_of_mem held) with handed | ⟨alone, _⟩
    · exact handed
    · rw [alone] at held
      exact absurd (List.mem_singleton.mp held) spare
  cases act with
  | quit index => exact .same rfl rfl rfl
  | ran sockfd calls =>
      simp only [TcpServer.elsewhere]
      split
      case isTrue held =>
        have ran := pointers (handed (by decide) held) map calls
        have taken : Kept map map (server.pointers sockfd calls)
            { server.pointers sockfd calls with queued := server.queued.erase sockfd } :=
          .same rfl rfl rfl
        exact (ran.trans taken).trans (drop (by decide) map sockfd _)
      case isFalse => exact refl map server
  | copied sockfd =>
      simp only [TcpServer.elsewhere]
      split
      case isTrue held => exact pointer (handed (by decide) held) map .copy
      case isFalse => exact refl map server
  | reset sockfd => exact drop (by decide) map sockfd server

theorem meanwhile (placed : Placed map server) (acts : List Elsewhere) :
    Kept map map server (acts.foldl TcpServer.elsewhere server) := by
  induction acts generalizing server with
  | nil => exact refl map server
  | cons act acts ih =>
      have first := elsewhere placed act
      exact first.trans (ih (first.placed placed))

theorem forceCloseEach (entries : List SocketFd) (hooks : List Hook) (server : TcpServer) :
    Kept entries [] server (server.forceCloseEach entries hooks).1 := by
  induction entries generalizing hooks server with
  | nil => exact refl [] server
  | cons sockfd rest ih =>
      have given := handOver (sockfd :: rest) sockfd server
      have handed : sockfd ∈ (server.handOver sockfd).handed := List.mem_cons_self
      simp only [TcpServer.forceCloseEach]
      split
      · have hooked := given.trans ((pointers handed (sockfd :: rest) (hooks.headD {}).pointers).trans
          (dropEntry rest sockfd _))
        split
        · have left := dropAll [] rest
          rw [List.append_nil] at left
          exact hooked.trans (left _)
        · exact hooked.trans (ih _ _)
      · split
        · have left := dropAll [] (sockfd :: rest)
          rw [List.append_nil] at left
          exact given.trans (left _)
        · have moved : Kept (sockfd :: rest) rest (server.handOver sockfd)
              ((server.handOver sockfd).hold fun holdings =>
                holdings.move sockfd .connections .functor) := by
            refine handedOver handed (Passes.move sockfd Holder.connections .functor)
              (fun _ different => Holdings.move_holders_ne different) fun other found different => ?_
            exact (List.mem_cons.mp found).resolve_left different
          have queued : Kept (sockfd :: rest) rest (server.handOver sockfd)
              { server.handOver sockfd with
                queued := sockfd :: (server.handOver sockfd).queued
                holdings := (server.handOver sockfd).holdings.move sockfd .connections .functor } :=
            moved.trans (.same rfl rfl rfl)
          exact (given.trans queued).trans (ih _ _)

end Kept

theorem pointers_connections (pointers : List Pointer) (server : TcpServer) :
    (server.pointers sockfd pointers).connections = server.connections := by
  induction pointers generalizing server with
  | nil => rfl
  | cons pointer rest ih =>
      have first : (server.pointer sockfd pointer).connections = server.connections := by
        cases pointer <;> rfl
      exact (ih _).trans first

theorem forceCloseEach_connections (entries : List SocketFd) (hooks : List Hook)
    (server : TcpServer) :
    (server.forceCloseEach entries hooks).1.connections = server.connections := by
  induction entries generalizing hooks server with
  | nil => rfl
  | cons sockfd rest ih =>
      simp only [TcpServer.forceCloseEach]
      split
      · have hooked := @pointers_connections sockfd (hooks.headD {}).pointers (server.handOver sockfd)
        split
        · exact hooked
        · exact (ih _ _).trans hooked
      · split
        · rfl
        · exact ih _ _

theorem elsewhere_connections (act : Elsewhere) (server : TcpServer) :
    (server.elsewhere act).connections = server.connections := by
  cases act with
  | quit index => rfl
  | ran sockfd calls =>
      simp only [TcpServer.elsewhere]
      split
      · exact pointers_connections calls server
      · rfl
  | copied sockfd =>
      simp only [TcpServer.elsewhere]
      split <;> rfl
  | reset sockfd => rfl

theorem meanwhile_connections (acts : List Elsewhere) (server : TcpServer) :
    (acts.foldl TcpServer.elsewhere server).connections = server.connections := by
  induction acts generalizing server with
  | nil => rfl
  | cons act acts ih => exact (ih _).trans (elsewhere_connections act server)

namespace Kept

theorem forceCloseAllConnections (hooks : List Hook) (server : TcpServer) :
    Kept server.connections [] server (server.forceCloseAllConnections hooks).1 := by
  have cleared : Kept server.connections server.connections server
      { server with connections := [] } := same rfl rfl rfl
  exact cleared.trans (forceCloseEach server.connections hooks _)

theorem stopAccepting (map : List SocketFd) (server : TcpServer) :
    Kept map map server server.stopAccepting := by
  unfold TcpServer.stopAccepting
  split
  · exact .same rfl rfl rfl
  · exact .refl map server

end Kept

theorem stopAccepting_connections (server : TcpServer) :
    server.stopAccepting.connections = server.connections := by
  unfold TcpServer.stopAccepting
  split <;> rfl

theorem stopPool_connections (server : TcpServer) :
    server.stopPool.1.connections = server.connections := by
  unfold TcpServer.stopPool
  split <;> rfl

namespace Kept

/-- The connections are closed and the workers are joined. -/
theorem shutDown (hooks : List Hook) {server : TcpServer} {after : TcpServer × Bool}
    (closed : after = server.forceCloseAllConnections hooks ∨
      after = (server.forceCloseAllConnections hooks).1.stopPool) :
    Kept server.connections after.1.connections server after.1 := by
  have kept := forceCloseAllConnections hooks server
  have empty : (server.forceCloseAllConnections hooks).1.connections = [] :=
    forceCloseEach_connections server.connections hooks { server with connections := [] }
  rcases closed with rfl | rfl
  · rw [empty]
    exact kept
  · rw [stopPool_connections, empty]
    exact kept.trans (stopPool [] _)

/-- The server refuses connections from here on. -/
theorem refuse (draining : Bool) (server : TcpServer) :
    Kept server.connections server.connections server
      (TcpServer.stopAccepting { server with stopped := true, draining }) := by
  have marked : Kept server.connections server.connections server
      { server with stopped := true, draining } := same rfl rfl rfl
  exact marked.trans (stopAccepting _ _)

theorem stop (hooks : List Hook) (server : TcpServer) :
    Kept server.connections (server.stop hooks).1.connections server (server.stop hooks).1 := by
  simp only [TcpServer.stop]
  split
  · exact refl _ server
  · have refused := refuse false server
    have same := stopAccepting_connections { server with stopped := true, draining := false }
    dsimp only at same
    generalize TcpServer.stopAccepting { server with stopped := true, draining := false } = quit
      at refused same ⊢
    have joined : ∀ {after : TcpServer × Bool}, after = quit.forceCloseAllConnections hooks ∨
        after = (quit.forceCloseAllConnections hooks).1.stopPool →
        Kept server.connections after.1.connections server after.1 := by
      intro after done
      have shut := shutDown hooks done
      rw [same] at shut
      exact refused.trans shut
    split
    case h_1 after threw => exact joined (.inl threw.symm)
    case h_2 after closed => exact joined (.inr (by rw [closed]))

theorem stopDraining (server : TcpServer) :
    Kept server.connections server.stopDraining.1.connections server server.stopDraining.1 := by
  simp only [TcpServer.stopDraining]
  split
  · exact refl _ server
  · have refused := refuse true server
    have same := stopAccepting_connections { server with stopped := true, draining := true }
    dsimp only at same
    generalize TcpServer.stopAccepting { server with stopped := true, draining := true } = quit
      at refused same ⊢
    split
    · have undrained : Kept server.connections server.connections quit
          { quit with draining := false } := .same rfl rfl rfl
      have joined := (refused.trans undrained).trans
        (stopPool server.connections { quit with draining := false })
      rw [← same] at joined ⊢
      rw [stopPool_connections]
      exact joined
    · change Kept _ quit.connections _ _
      rw [same]
      exact refused

/-- User code in the callbacks of a connection. -/
theorem runUser (calls : List UserCall) {server : TcpServer} (handed : sockfd ∈ server.handed) :
    Kept server.connections (server.runUser sockfd calls).1.connections server
      (server.runUser sockfd calls).1 := by
  induction calls generalizing server with
  | nil => exact refl _ server
  | cons call rest ih =>
      cases call with
      | pointer pointer =>
          have changed := Kept.pointer handed server.connections pointer
          have same : (server.pointer sockfd pointer).connections = server.connections := by
            cases pointer <;> rfl
          have later := ih (changed.handed handed)
          rw [same] at later
          exact changed.trans later
      | stop hooks =>
          have stopped := stop hooks server
          simp only [TcpServer.runUser]
          split
          case h_1 after threw =>
            rw [threw] at stopped
            exact stopped
          case h_2 after done =>
            rw [done] at stopped
            exact stopped.trans (ih (stopped.handed handed))
      | stopDraining =>
          have stopped := stopDraining server
          simp only [TcpServer.runUser]
          split
          case h_1 after threw =>
            rw [threw] at stopped
            exact stopped
          case h_2 after done =>
            rw [done] at stopped
            exact stopped.trans (ih (stopped.handed handed))
      | throw => exact refl _ server

end Kept

/-! ## A new connection -/

/-- As `Placed`, but for one connection. -/
def PlacedApart (sockfd : SocketFd) (map : List SocketFd) (server : TcpServer) : Prop :=
  ∀ other, other ≠ sockfd → server.holdings.holders other ≠ [] → other ∈ server.handed ∨
    server.holdings.holders other = [.connections] ∧ other ∈ map

theorem PlacedApart.placed (sockfd : SocketFd) (apart : PlacedApart sockfd map server)
    (own : server.holdings.holders sockfd ≠ [] → sockfd ∈ server.handed ∨
      server.holdings.holders sockfd = [.connections] ∧ sockfd ∈ map) : Placed map server := by
  intro other held
  by_cases same : other = sockfd
  · subst same
    exact own held
  · exact apart other same held

/-- What the construction of a connection does, whether an exception leaves it or not. -/
structure Built (sockfd : SocketFd) (before after : TcpServer) : Prop where
  sound : Sound after.holdings
  total : ∀ other, after.holdings.total other =
    before.holdings.total other + if other = sockfd then 1 else 0
  gone : ∀ other, other ≠ sockfd → before.holdings.holders other = [] →
    after.holdings.holders other = []
  placed : Placed after.connections after
  accepted : after.accepted = before.accepted

/-- From the object on, pointers are only passed on. -/
theorem Built.of_passes (sound : Sound before.holdings) (none : before.holdings.holders sockfd = [])
    (passes : Passes (before.holdings.take sockfd .newConnection) after.holdings)
    (placed : Placed after.connections after) (accepted : after.accepted = before.accepted) :
    Built sockfd before after := by
  have taken : Sound (before.holdings.take sockfd .newConnection) := sound.take none
  refine ⟨passes.sound taken, fun other => ?_, fun other different nothing => ?_, placed, accepted⟩
  · rw [passes.total taken other, Holdings.total_take]
  · refine passes.gone other ?_
    rw [Holdings.take_holders none, Function.update_of_ne different, nothing]

/-- A connection that is given to its loop may be held by anyone. -/
theorem establish_placed (user : List UserCall) (apart : PlacedApart sockfd server.connections server) :
    Passes server.holdings (server.establish sockfd user).1.holdings ∧
      Placed (server.establish sockfd user).1.connections (server.establish sockfd user).1 ∧
      (server.establish sockfd user).1.accepted = server.accepted := by
  have handed : sockfd ∈ (server.handOver sockfd).handed := List.mem_cons_self
  have placed : Placed server.connections (server.handOver sockfd) := by
    refine PlacedApart.placed sockfd (fun other different held => ?_)
      fun _ => .inl handed
    rcases apart other different held with handed | placed
    · exact .inl (List.mem_cons_of_mem _ handed)
    · exact .inr placed
  simp only [TcpServer.establish]
  split
  · have ran := Kept.runUser user handed
    exact ⟨ran.passes, ran.placed placed, ran.accepted⟩
  · have copied : Kept server.connections server.connections (server.handOver sockfd)
        ((server.handOver sockfd).hold fun holdings => holdings.copy sockfd .functor) :=
      .handedOver handed (Passes.copy sockfd Holder.functor)
        (fun _ different => Holdings.copy_holders_ne different) fun _ found _ => found
    exact ⟨copied.passes, copied.placed placed, rfl⟩

theorem construct_built (circumstances : Circumstances) (sound : Sound server.holdings)
    (placed : Placed server.connections server) (none : server.holdings.holders sockfd = []) :
    Built sockfd server (server.construct sockfd circumstances).1 := by
  have holders := @Holdings.take_holders _ _ server.holdings sockfd Holder.newConnection _ none
  have listed : ((server.holdings.take sockfd .newConnection).copy sockfd .connections).holders =
      Function.update server.holdings.holders sockfd [.connections, .newConnection] := by
    simp [Holdings.copy, holders]
  have dropped : ∀ {holdings : Holdings SocketFd Holder} {other : SocketFd}, other ≠ sockfd →
      (holdings.drop sockfd .newConnection).holders other = holdings.holders other := by
    intro holdings other different
    rw [Holdings.drop_holders, Function.update_of_ne different]
  -- an exception while the object is built destroys what there is of it
  have unbuilt : Placed server.connections
      ((server.hold fun holdings => holdings.take sockfd .newConnection).hold fun holdings =>
        holdings.drop sockfd .newConnection) := by
    refine PlacedApart.placed sockfd (fun other different held => ?_)
      fun held => absurd ?_ held
    · simp only [TcpServer.hold, dropped different, holders, Function.update_of_ne different] at held ⊢
      exact placed other held
    · simp [TcpServer.hold, Holdings.drop_holders, holders]
  simp only [TcpServer.construct]
  split
  · exact .of_passes sound none (Passes.drop ..) unbuilt rfl
  · exact .of_passes sound none (Passes.drop ..) unbuilt rfl
  · have copied := Passes.copy sockfd Holder.connections (server.holdings.take sockfd .newConnection)
    split
    · refine .of_passes sound none (copied.trans (Passes.drop ..)) ?_ rfl
      refine PlacedApart.placed sockfd (fun other different held => ?_)
        fun _ => .inr ⟨?_, List.mem_cons_self⟩
      · simp only [TcpServer.hold, dropped different, listed, Function.update_of_ne different]
          at held ⊢
        rcases placed other held with handed | ⟨alone, found⟩
        · exact .inl handed
        · exact .inr ⟨alone, List.mem_cons_of_mem _ found⟩
      · simp only [TcpServer.hold, Holdings.drop_holders, listed, Function.update_self]
        rfl
    · have built : ∀ entered : TcpServer, entered.handed = server.handed →
          entered.connections = sockfd :: server.connections →
          entered.holdings = (server.holdings.take sockfd .newConnection).copy sockfd .connections →
          entered.accepted = server.accepted →
          Built sockfd server ((entered.establish sockfd circumstances.user).1.hold fun holdings =>
            holdings.drop sockfd .newConnection) := by
        intro entered handed connections holdings accepted
        have apart : PlacedApart sockfd entered.connections entered := by
          intro other different held
          rw [holdings, listed, Function.update_of_ne different] at held ⊢
          rw [handed, connections]
          rcases placed other held with given | ⟨alone, found⟩
          · exact .inl given
          · exact .inr ⟨alone, List.mem_cons_of_mem _ found⟩
        obtain ⟨passes, kept, same⟩ := establish_placed circumstances.user apart
        rw [holdings] at passes
        have left := Kept.drop (by decide : Holder.newConnection ≠ .connections)
          (entered.establish sockfd circumstances.user).1.connections sockfd
          (entered.establish sockfd circumstances.user).1
        exact .of_passes sound none ((copied.trans passes).trans left.passes) (left.placed kept)
          (same.trans accepted)
      exact built _ rfl rfl rfl rfl

/-! ## The accept loop -/

/-- The calls of `newConnection` in `handleRead`, by the state they find. -/
def TcpServer.newConnections : List AcceptResult → TcpServer → List (TcpServer × Circumstances)
  | [], _ => []
  | result :: rest, server =>
      if !server.listening then []
      else
        match result with
        | .accepted circumstances =>
            let server := circumstances.meanwhile.foldl elsewhere server
            let connfd := server.accepted
            let server := { server with accepted := server.accepted + 1 }
            if server.newConnectionCallback then
              (server, circumstances) ::
                match server.newConnection connfd circumstances with
                | (_, true) => []
                | (server, false) => newConnections rest server
            else newConnections rest (server.hold fun holdings => holdings.close connfd)
        | .interrupted => newConnections rest server
        | .wouldBlock | .failed => []

/-- The server takes connections, and an exception leaves `newConnection` before a
`Socket` has the descriptor. -/
def Leaks (call : TcpServer × Circumstances) : Prop :=
  call.1.stopped = false ∧
    ((∃ error, call.1.threadPool.getNextLoop = .error error) ∨
      call.2.failure.any Place.isEarly = true)

/-- What the code between two iterations of the accept loop keeps. -/
structure Balanced (server : TcpServer) : Prop where
  sound : Sound server.holdings
  placed : Placed server.connections server
  fresh : ∀ sockfd, server.accepted ≤ sockfd →
    server.holdings.holders sockfd = [] ∧ server.holdings.closes sockfd = 0

theorem Balanced.total (balanced : Balanced server) (unused : server.accepted ≤ sockfd) :
    server.holdings.total sockfd = 0 := by
  obtain ⟨none, unclosed⟩ := balanced.fresh sockfd unused
  rw [Holdings.total, balanced.sound, if_pos none, unclosed]

/-- The server once it has accepted another descriptor. -/
def TcpServer.opened (server : TcpServer) : TcpServer :=
  { server with accepted := server.accepted + 1 }

theorem Balanced.kept (balanced : Balanced server)
    (kept : Kept server.connections after.connections server after) : Balanced after := by
  have sound := kept.passes.sound balanced.sound
  refine ⟨sound, kept.placed balanced.placed, fun sockfd unused => ?_⟩
  rw [kept.accepted] at unused
  have none := kept.passes.gone sockfd (balanced.fresh sockfd unused).1
  have total := kept.passes.total balanced.sound sockfd
  rw [balanced.total unused, Holdings.total] at total
  exact ⟨none, by omega⟩

/-- What has become of a descriptor that was accepted: it is accounted for, or it is not. -/
structure Disposed (gain : Nat) (server after : TcpServer) : Prop where
  balanced : Balanced after
  accepted : after.accepted = server.accepted + 1
  total : ∀ other, after.holdings.total other =
    server.holdings.total other + if other = server.accepted then gain else 0

namespace Disposed

/-- No one closes it, and no one has it. -/
theorem lost (balanced : Balanced server) (holdings : after.holdings = server.holdings)
    (handed : after.handed = server.handed) (connections : after.connections = server.connections)
    (accepted : after.accepted = server.accepted + 1) : Disposed 0 server after := by
  refine ⟨⟨holdings ▸ balanced.sound, fun other held => ?_, fun other unused => ?_⟩, accepted,
    fun other => by simp [holdings]⟩
  · rw [holdings] at held ⊢
    rw [handed, connections]
    exact balanced.placed other held
  · rw [holdings]
    exact balanced.fresh other (by omega)

theorem closed (balanced : Balanced server) :
    Disposed 1 server (server.opened.hold fun holdings => holdings.close server.accepted) := by
  refine ⟨⟨balanced.sound, balanced.placed, fun other unused => ?_⟩, rfl,
    fun other => Holdings.total_close⟩
  have later : server.accepted + 1 ≤ other := unused
  obtain ⟨none, unclosed⟩ := balanced.fresh other (Nat.le_of_succ_le later)
  refine ⟨none, ?_⟩
  simp only [TcpServer.hold, TcpServer.opened, Holdings.close]
  rw [Function.update_of_ne (Nat.ne_of_gt later), unclosed]

theorem built (balanced : Balanced server) {entered : TcpServer}
    (holdings : entered.holdings = server.holdings)
    (accepted : entered.accepted = server.accepted + 1)
    (built : Built server.accepted entered after) : Disposed 1 server after := by
  have total := built.total
  rw [holdings] at total
  refine ⟨⟨built.sound, built.placed, fun other unused => ?_⟩, built.accepted.trans accepted, total⟩
  rw [built.accepted, accepted] at unused
  have different : other ≠ server.accepted := Nat.ne_of_gt unused
  have same := total other
  rw [balanced.total (Nat.le_of_succ_le unused), if_neg different, Holdings.total] at same
  refine ⟨built.gone other different ?_, by omega⟩
  rw [holdings]
  exact (balanced.fresh other (Nat.le_of_succ_le unused)).1

end Disposed

theorem newConnection_disposed (balanced : Balanced server) (circumstances : Circumstances) :
    (Leaks (server.opened, circumstances) ∧
        (server.opened.newConnection server.accepted circumstances).2 = true ∧
        Disposed 0 server (server.opened.newConnection server.accepted circumstances).1) ∨
      (¬Leaks (server.opened, circumstances) ∧
        Disposed 1 server (server.opened.newConnection server.accepted circumstances).1) := by
  simp only [TcpServer.newConnection]
  split
  case isTrue stopped =>
    exact .inr ⟨fun leaks => absurd (leaks.1.symm.trans stopped) (by decide), .closed balanced⟩
  case isFalse running =>
    have serving : server.opened.stopped = false := by simpa using running
    split
    case h_1 error refused =>
      exact .inl ⟨⟨serving, .inl ⟨error, refused⟩⟩, rfl, .lost balanced rfl rfl rfl rfl⟩
    case h_2 ioLoop threadPool selected =>
      split
      case isTrue early =>
        exact .inl ⟨⟨serving, .inr early⟩, rfl, .lost balanced rfl rfl rfl rfl⟩
      case isFalse late =>
        have none := (balanced.fresh server.accepted (Nat.le_refl _)).1
        refine .inr ⟨?_, @Disposed.built server _ balanced
          { server.opened with
            threadPool
            nextConnId := server.opened.nextConnId + 1
            ioLoop := Function.update server.opened.ioLoop server.accepted ioLoop }
          rfl rfl (construct_built circumstances balanced.sound balanced.placed none)⟩
        rintro ⟨_, ⟨error, refused⟩ | early⟩
        · cases selected.symm.trans refused
        · exact late early

/-- What other threads do between two iterations. -/
structure Met (server found : TcpServer) : Prop where
  balanced : Balanced found
  accepted : found.accepted = server.accepted
  total : ∀ other, found.holdings.total other = server.holdings.total other

theorem Met.meanwhile (balanced : Balanced server) (acts : List Elsewhere) :
    Met server (acts.foldl TcpServer.elsewhere server) := by
  have kept := Kept.meanwhile balanced.placed acts
  refine ⟨balanced.kept ?_, kept.accepted, kept.passes.total balanced.sound⟩
  rw [meanwhile_connections]
  exact kept

theorem Disposed.since {gain : Nat} {found : TcpServer} (met : Met server found)
    (disposed : Disposed gain found after) : Disposed gain server after := by
  refine ⟨disposed.balanced, ?_, fun other => ?_⟩
  · rw [disposed.accepted, met.accepted]
  · rw [disposed.total, met.total, met.accepted]

/-- What `handleRead` has done with the descriptors that it accepted. -/
structure Handled (results : List AcceptResult) (server : TcpServer) : Prop where
  balanced : Balanced (server.handleRead results).1
  accepted : server.accepted ≤ (server.handleRead results).1.accepted
  earlier : ∀ sockfd < server.accepted,
    (server.handleRead results).1.holdings.total sockfd = server.holdings.total sockfd
  kept : (∀ sockfd, server.accepted ≤ sockfd → sockfd < (server.handleRead results).1.accepted →
      (server.handleRead results).1.holdings.total sockfd = 1) ↔
    ∀ call ∈ server.newConnections results, ¬Leaks call

namespace Handled

/-- No descriptor was accepted. -/
theorem none (balanced : Balanced server) {results : List AcceptResult}
    (none : server.handleRead results = (server, false))
    (calls : server.newConnections results = []) : Handled results server := by
  refine ⟨?_, ?_, fun _ _ => ?_, ?_⟩
  · rw [none]
    exact balanced
  · rw [none]
  · rw [none]
  · simp only [none, calls]
    refine ⟨fun _ call member => absurd member (List.not_mem_nil), fun _ sockfd lower upper => ?_⟩
    exact absurd upper (Nat.not_lt.mpr lower)

/-- A descriptor was accepted, and the loop goes on. -/
theorem cons {results rest : List AcceptResult} (balanced : Balanced server)
    (disposed : Disposed 1 server after) (later : Handled rest after) {calls : List (TcpServer × Circumstances)}
    (sound : ∀ call ∈ calls, ¬Leaks call)
    (same : (server.handleRead results).1 = (after.handleRead rest).1)
    (next : server.newConnections results = calls ++ after.newConnections rest) :
    Handled results server := by
  have more := later.accepted
  rw [disposed.accepted] at more
  refine ⟨?_, ?_, fun sockfd early => ?_, ?_⟩
  · rw [same]
    exact later.balanced
  · rw [same]
    exact Nat.le_of_succ_le more
  · have earlier : sockfd < after.accepted := by
      rw [disposed.accepted]
      exact Nat.lt_succ_of_lt early
    rw [same, later.earlier sockfd earlier, disposed.total, if_neg (Nat.ne_of_lt early)]
    rfl
  · rw [same, next]
    constructor
    · intro accounted call member
      refine (List.mem_append.mp member).elim (sound call) (later.kept.mp ?_ call)
      intro sockfd lower
      rw [disposed.accepted] at lower
      exact accounted sockfd (Nat.le_of_succ_le lower)
    · intro clean sockfd lower upper
      rcases Nat.eq_or_lt_of_le lower with rfl | lower
      · have first : server.accepted < after.accepted := by
          rw [disposed.accepted]
          exact Nat.lt_succ_self _
        rw [later.earlier server.accepted first, disposed.total, if_pos rfl,
          balanced.total (Nat.le_refl _)]
      · refine later.kept.mpr (fun call member => clean call (List.mem_append_right _ member))
          sockfd ?_ upper
        rw [disposed.accepted]
        exact lower

/-- A descriptor was lost, and the exception ends the loop. -/
theorem lost {results : List AcceptResult} (balanced : Balanced server)
    (disposed : Disposed 0 server after) (same : (server.handleRead results).1 = after)
    {call : TcpServer × Circumstances} (leaks : Leaks call)
    (member : call ∈ server.newConnections results) : Handled results server := by
  subst same
  have next := disposed.accepted
  refine ⟨disposed.balanced, by omega, fun sockfd early => ?_, ?_⟩
  · rw [disposed.total, if_neg (Nat.ne_of_lt early)]
    rfl
  · have total := disposed.total server.accepted
    rw [if_pos rfl, balanced.total (Nat.le_refl _)] at total
    constructor
    · intro accounted
      have first := accounted server.accepted (Nat.le_refl _) (by omega)
      omega
    · intro clean
      exact absurd leaks (clean call member)

end Handled

theorem accepted_handled (circumstances : Circumstances) (rest : List AcceptResult)
    (listening : server.listening = true) (balanced : Balanced server)
    (ih : ∀ after, Balanced after → Handled rest after) :
    Handled (.accepted circumstances :: rest) server := by
  obtain ⟨found, same⟩ :
      ∃ found, circumstances.meanwhile.foldl TcpServer.elsewhere server = found := ⟨_, rfl⟩
  have met : Met server found := same ▸ .meanwhile balanced circumstances.meanwhile
  have opened : ¬(!server.listening) = true := by simp [listening]
  have read : server.handleRead (.accepted circumstances :: rest) =
      if found.newConnectionCallback then
        match found.opened.newConnection found.accepted circumstances with
        | (after, true) => (after, true)
        | (after, false) => after.handleRead rest
      else (found.opened.hold fun holdings => holdings.close found.accepted).handleRead rest := by
    rw [TcpServer.handleRead, if_neg opened, ← same]
    rfl
  have calls : server.newConnections (.accepted circumstances :: rest) =
      if found.newConnectionCallback then
        (found.opened, circumstances) ::
          match found.opened.newConnection found.accepted circumstances with
          | (_, true) => []
          | (after, false) => after.newConnections rest
      else
        (found.opened.hold fun holdings => holdings.close found.accepted).newConnections rest := by
    rw [TcpServer.newConnections, if_neg opened, ← same]
    rfl
  split at read
  case isFalse unset =>
    rw [if_neg unset] at calls
    have closed := (Disposed.closed met.balanced).since met
    exact .cons balanced closed (ih _ closed.balanced)
      (fun call member => absurd member (List.not_mem_nil)) (congrArg Prod.fst read) calls
  case isTrue set =>
    rw [if_pos set] at calls
    have disposed := newConnection_disposed met.balanced circumstances
    generalize found.opened.newConnection found.accepted circumstances = outcome
      at disposed read calls
    obtain ⟨after, threw⟩ := outcome
    rcases disposed with ⟨leaks, rfl, disposed⟩ | ⟨clean, disposed⟩
    · exact .lost balanced (disposed.since met) (congrArg Prod.fst read) leaks (by simp [calls])
    · have sound : ∀ call ∈ [(found.opened, circumstances)], ¬Leaks call := by
        intro call member
        rw [List.mem_singleton.mp member]
        exact clean
      cases threw with
      | true =>
          have ended : Handled [] after := .none disposed.balanced rfl rfl
          refine .cons balanced (disposed.since met) ended sound ?_ calls
          rw [read]
          rfl
      | false =>
          exact .cons balanced (disposed.since met) (ih after disposed.balanced) sound
            (congrArg Prod.fst read) calls

theorem handleRead_handled (results : List AcceptResult) (balanced : Balanced server) :
    Handled results server := by
  induction results generalizing server with
  | nil => exact .none balanced rfl rfl
  | cons result rest ih =>
      cases listening : server.listening with
      | false =>
          exact .none balanced (by simp [TcpServer.handleRead, listening])
            (by simp [TcpServer.newConnections, listening])
      | true =>
          cases result with
          | wouldBlock | failed =>
              exact .none balanced (by simp [TcpServer.handleRead, listening])
                (by simp [TcpServer.newConnections, listening])
          | interrupted =>
              have later := ih balanced
              have same : server.handleRead (.interrupted :: rest) = server.handleRead rest := by
                simp [TcpServer.handleRead, listening]
              have next : server.newConnections (.interrupted :: rest) =
                  server.newConnections rest := by
                simp [TcpServer.newConnections, listening]
              refine ⟨?_, ?_, ?_, ?_⟩
              · exact same ▸ later.balanced
              · exact same ▸ later.accepted
              · exact same ▸ later.earlier
              · rw [same, next]
                exact later.kept
          | accepted circumstances =>
              exact accepted_handled circumstances rest listening balanced fun _ => ih

/-! ## Runs of the server -/

theorem Kept.start (workers : Option Nat) (server : TcpServer) :
    Kept server.connections (server.start workers).1.connections server (server.start workers).1 := by
  simp only [TcpServer.start]
  split
  · exact refl _ server
  · have entered : Kept server.connections server.connections server
        { server with started := true, stopped := false } := .same rfl rfl rfl
    split
    · exact .same rfl rfl rfl
    · have joined := entered.trans (stopPool server.connections _)
      have same := stopPool_connections { server with started := true, stopped := false }
      dsimp only at same ⊢
      rw [same]
      exact joined.trans (.same rfl rfl rfl)
    · exact entered

theorem Kept.onDrainTimeout (hooks : List Hook) (server : TcpServer) :
    Kept server.connections (server.onDrainTimeout hooks).1.connections server
      (server.onDrainTimeout hooks).1 := by
  have ended : Kept server.connections server.connections server
      { server with draining := false } := .same rfl rfl rfl
  simp only [TcpServer.onDrainTimeout]
  split
  · exact refl _ server
  · split
    case h_1 after threw => exact ended.trans (shutDown hooks (.inl threw.symm))
    case h_2 after closed => exact ended.trans (shutDown hooks (.inr (by rw [closed])))

theorem Kept.finishDraining (entries : server.connections = map) :
    Kept map server.finishDraining.1.connections server server.finishDraining.1 := by
  subst entries
  unfold TcpServer.finishDraining
  split
  · have ended : Kept server.connections server.connections server
        { server with draining := false } := .same rfl rfl rfl
    have same := stopPool_connections { server with draining := false }
    dsimp only at same
    rw [same]
    exact ended.trans (stopPool server.connections _)
  · exact refl _ server

/-- The entry of a connection leaves the map, and its loop gets the connection. -/
theorem Kept.removeConnectionInLoop (sockfd : SocketFd) (user : List UserCall) (server : TcpServer) :
    Kept server.connections (server.removeConnectionInLoop sockfd user).1.connections server
      (server.removeConnectionInLoop sockfd user).1 := by
  simp only [TcpServer.removeConnectionInLoop]
  split
  · have extracted : Kept server.connections (server.connections.erase sockfd) server
        (TcpServer.handOver sockfd
          { server with connections := server.connections.erase sockfd }) := by
      refine ⟨.refl _, fun placed other held => ?_, List.subset_cons_self _ _, rfl⟩
      by_cases same : other = sockfd
      · exact .inl (same ▸ List.mem_cons_self)
      · rcases placed other held with handed | ⟨alone, found⟩
        · exact .inl (List.mem_cons_of_mem _ handed)
        · exact .inr ⟨alone, (List.mem_erase_of_ne same).mpr found⟩
    have handed : sockfd ∈ (TcpServer.handOver sockfd
        { server with connections := server.connections.erase sockfd }).handed :=
      List.mem_cons_self
    have entries : (TcpServer.handOver sockfd
        { server with connections := server.connections.erase sockfd }).connections =
          server.connections.erase sockfd := rfl
    generalize TcpServer.handOver sockfd
      { server with connections := server.connections.erase sockfd } = entered
        at extracted handed entries ⊢
    rw [← entries] at extracted
    split
    · have ran := runUser user handed
      generalize entered.runUser sockfd user = result at ran ⊢
      have left : Kept result.1.connections result.1.connections result.1
          (result.1.hold fun holdings => holdings.drop sockfd .connections) :=
        handedOver (ran.handed handed) (Passes.drop sockfd Holder.connections)
          (fun other different => by rw [Holdings.drop_holders, Function.update_of_ne different])
          fun _ found _ => found
      have destroyed := extracted.trans (ran.trans left)
      split
      · exact destroyed
      · exact destroyed.trans (finishDraining rfl)
    · have moved : Kept entered.connections entered.connections entered
          (entered.hold fun holdings => holdings.move sockfd .connections .functor) :=
        handedOver handed (Passes.move sockfd Holder.connections .functor)
          (fun _ different => Holdings.move_holders_ne different) fun _ found _ => found
      have queued : Kept entered.connections entered.connections entered
          { entered with
            queued := sockfd :: entered.queued
            holdings := entered.holdings.move sockfd .connections .functor } :=
        moved.trans (.same rfl rfl rfl)
      exact (extracted.trans queued).trans (finishDraining rfl)
  · exact refl _ server

/-- Every state that the server reaches is balanced. -/
theorem Balanced.step (balanced : Balanced server) (action : TcpServer.Action) :
    Balanced (server.step action) := by
  cases action with
  | start workers => exact balanced.kept (.start workers server)
  | handleRead results => exact (handleRead_handled results balanced).balanced
  | stop hooks => exact balanced.kept (.stop hooks server)
  | stopDraining => exact balanced.kept (.stopDraining server)
  | onDrainTimeout hooks => exact balanced.kept (.onDrainTimeout hooks server)
  | removeConnectionInLoop sockfd user =>
      exact balanced.kept (.removeConnectionInLoop sockfd user server)
  | elsewhere act => exact (Met.meanwhile balanced [act]).balanced

theorem Balanced.initial : Balanced {} :=
  ⟨fun _ => rfl, fun _ held => absurd rfl held, fun _ _ => ⟨rfl, rfl⟩⟩

theorem reach_balanced
    (reach : Reach (fun server action => some (TcpServer.step server action)) (fun _ _ => True) {}
      server) : Balanced server := by
  refine reach.invariant .initial fun server next action balanced _ stepped => ?_
  cases stepped
  exact balanced.step action

/-- Closed once, or owned by one connection that is in the map or was given to its owner
loop. -/
def Accounted (sockfd : SocketFd) (server : TcpServer) : Prop :=
  (server.holdings.closes sockfd = 1 ∧ server.holdings.objects sockfd = 0) ∨
    (server.holdings.closes sockfd = 0 ∧ server.holdings.objects sockfd = 1 ∧
      (sockfd ∈ server.connections ∨ sockfd ∈ server.handed))

theorem Balanced.accounted_iff (balanced : Balanced server) (sockfd : SocketFd) :
    Accounted sockfd server ↔ server.holdings.total sockfd = 1 := by
  unfold Accounted Holdings.total
  constructor
  · rintro (⟨closed, gone⟩ | ⟨unclosed, owned, _⟩) <;> omega
  · intro total
    have owned := balanced.sound sockfd
    split at owned
    case isTrue => exact .inl (by omega)
    case isFalse held =>
      refine .inr ⟨by omega, owned, ?_⟩
      rcases balanced.placed sockfd held with handed | ⟨_, found⟩
      · exact .inr handed
      · exact .inl found

/-- `handleRead` accounts for what it accepts, unless a call of `newConnection` leaks. -/
theorem handleRead_accounted (balanced : Balanced server) (results : List AcceptResult) :
    (∀ sockfd, server.accepted ≤ sockfd → sockfd < (server.handleRead results).1.accepted →
      Accounted sockfd (server.handleRead results).1) ↔
      ∀ call ∈ server.newConnections results, ¬Leaks call := by
  have handled := handleRead_handled results balanced
  rw [← handled.kept]
  simp only [handled.balanced.accounted_iff]

theorem handleRead_accounted_of_start :
    let server := TcpServer.step {} (.start (some 1))
    let after := (server.handleRead [.accepted {}, .interrupted, .accepted {}, .wouldBlock]).1
    after.accepted = 2 ∧ Accounted 0 after ∧ Accounted 1 after := by
  have ran : run (fun server action => some (TcpServer.step server action)) {}
      [.start (some 1)] = some (TcpServer.step {} (.start (some 1))) := rfl
  have balanced := reach_balanced (Reach.start.run (fun _ _ _ => trivial) ran)
  have accounted := (handleRead_accounted balanced
    [.accepted {}, .interrupted, .accepted {}, .wouldBlock]).mpr ?_
  · exact ⟨rfl, accounted 0 (by decide) (by decide), accounted 1 (by decide) (by decide)⟩
  · intro call member leaks
    have calls : ∀ call ∈ TcpServer.newConnections
        [.accepted {}, .interrupted, .accepted {}, .wouldBlock]
        (TcpServer.step {} (.start (some 1))),
        call.1.threadPool.getNextLoop.isOk = true ∧ call.2.failure = none := by
      decide
    obtain ⟨selected, alive⟩ := calls call member
    rcases leaks.2 with ⟨error, refused⟩ | early
    · rw [refused] at selected
      cases selected
    · rw [alive] at early
      cases early

/-- The worker that is selected has stopped dispatching. -/
theorem accepted_leaks :
    ∃ server results sockfd,
      Reach (fun server action => some (TcpServer.step server action)) (fun _ _ => True) {} server ∧
        server.accepted ≤ sockfd ∧ sockfd < (server.handleRead results).1.accepted ∧
        (server.handleRead results).2 = true ∧ ¬Accounted sockfd (server.handleRead results).1 := by
  have ran : run (fun server action => some (TcpServer.step server action)) {}
      [.start (some 1), .elsewhere (.quit 0)] =
        some (TcpServer.step (TcpServer.step {} (.start (some 1))) (.elsewhere (.quit 0))) := rfl
  refine ⟨_, [.accepted {}], 0, Reach.start.run (fun _ _ _ => trivial) ran, ?_⟩
  refine ⟨by decide, by decide, by decide, ?_⟩
  rintro (⟨closed, _⟩ | ⟨_, owned, _⟩)
  · exact absurd closed (by decide)
  · exact absurd owned (by decide)

end Accept

end MiniTrantor.Net
