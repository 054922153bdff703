import MiniTrantor.Net.Connection.Run

/-!
# What the code can do to a connection

Every operation, functor and handler is a sequence of the moves listed here,
interleaved with user code that is such a sequence itself. Invariants are proved
once over the moves. A move is a stretch of code in which no user code and no
other thread runs, with the tests that guard it.
-/

set_option autoImplicit false

namespace MiniTrantor.Net

open ConnectionAwaiterRegistry ConnectionBackpressureController TcpConnection

/-- Functors that the owner pushes in the course of its own work. -/
def Functor.isNotice : Functor → Bool
  | .cancelWaiter _ | .resumeWaiter _ | .writeComplete | .highWaterMark _ | .user _ => true
  | _ => false

/-- Functors that another thread pushes without reading or changing shared data. -/
def Functor.isRequest : Functor → Bool
  | .forceCloseInLoop | .setBackpressurePolicyInLoop .. | .connectDestroyed | .user _ => true
  | _ => false

/-- Callbacks that carry no notification of the connection itself. -/
def Callback.isRoutine : Callback → Bool
  | .writeComplete | .highWaterMark _ | .backpressure .. | .functor _ => true
  | _ => false

/-- Callbacks that only channel dispatch and establishment enter. -/
def Callback.isDispatched : Callback → Bool
  | .message | .connected | .tls _ => true
  | _ => false

/-- Events that record something and change nothing. -/
def Event.isNote : Event → Bool
  | .loggedError _ | .checkpoint .. | .arming .. | .awaitThrew .. => true
  | .callback entered => entered.isRoutine
  | _ => false

/-- The state change of `queueResume`, before its push. -/
def markQueued (waiter : WaiterId) (conn : Conn) : Conn :=
  (conn.setWaiter waiter { conn.waiters waiter with phase := .queued }).emit
    (.resumeQueued waiter (conn.waiters waiter).outcome)

/-- The state change of a coroutine's resumption, up to its own code. -/
def completeWaiter (waiter : WaiterId) (conn : Conn) : Conn :=
  CancellationToken.resetRegistration waiter
    (conn.setWaiter waiter { conn.waiters waiter with phase := .completed, handle := none })

def finishAwait (waiter : WaiterId) (awaitable : Awaitable) (conn : Conn) : Conn :=
  let finished := awaitResume waiter awaitable (completeWaiter waiter conn)
  (finished.2.emit (.awaitFinished waiter awaitable finished.2.state finished.1)).emit
    (.callback (.resumed waiter finished.1))

def queueIf (ready : Bool) (waiter : WaiterId) (conn : Conn) : Conn :=
  if ready then markQueued waiter conn else conn

def awaitPending (waiter : WaiterId) (awaitable : Awaitable) (conn : Conn) : Conn :=
  conn.setWaiter waiter { conn.waiters waiter with handle := some awaitable, phase := .pending }

def noteDisconnected (conn : Conn) : Conn :=
  conn.emit (.callback .disconnected)

def noteClosed (notified : Bool) (conn : Conn) : Conn :=
  if notified then conn.emit (.callback .close) else conn

/-- The end of `handleWrite`, once the output buffer is empty. -/
def settle (conn : Conn) : Conn :=
  if conn.outputBuffer.isEmpty then
    (conn.emit (.checkpoint .drained conn.state)).updateChannel Channel.disableWriting
  else conn

/-- Why a pending waiter is queued for resumption with the outcome it has. -/
inductive Wakes (conn : Conn) (waiter : WaiterId) : Prop where
  | closed : conn.state = .kDisconnected → Wakes conn waiter
  | readable : conn.registry.readWaiter = some waiter →
      conn.registry.minReadBytes ≤ conn.inputBuffer.length → Wakes conn waiter
  | written : conn.registry.writeWaiter = some waiter → conn.outputBuffer = [] → Wakes conn waiter

/-- How a payload arrives at `sendInLoop`. -/
inductive Arrives : Origin → Bytes → Conn → Conn → Prop where
  | ownerSend {data conn} : conn.state = .kConnected →
      Arrives .ownerSend data conn (conn.emit (.accepted data))
  | queuedSend {data conn rest} : conn.queue = .sendInLoop data :: rest →
      Arrives .queuedSend data conn { conn with queue := rest }
  | waiter {waiter awaitable conn} : (conn.waiters waiter).phase = .pending →
      (conn.waiters waiter).handle = some awaitable → awaitable.kind = .write →
      awaitable.data ≠ [] →
      (∀ incumbent, conn.registry.writeWaiter = some incumbent → incumbent = waiter) →
      (∃ past readable, conn.trace = past ++ [.arming waiter awaitable conn.state readable]) →
      Arrives (.waiter waiter) awaitable.data conn (occupyWrite waiter conn)

/-- Buffer what is left of a payload, if anything is left. -/
def appendRest (rest : Bytes) (conn : Conn) : Conn :=
  if rest.isEmpty then conn else appendOutput rest conn

/-- `sendInLoop` up to its first continuation, when the transport reports no error. -/
inductive Submits (world : World) (origin : Origin) (data : Bytes) (conn : Conn) : Conn → Prop where
  | direct {result written} : conn.channel.isWriting = false → conn.outputBuffer = [] →
      ConnectionTransport.writeRaw world data (conn.emit (.submitted origin data)) =
        (result, written) →
      result.status ≠ .kError →
      Submits world origin data conn (appendRest (data.drop result.bytes) written)
  | buffered : ¬(conn.channel.isWriting = false ∧ conn.outputBuffer = []) →
      Submits world origin data conn (appendRest data (conn.emit (.submitted origin data)))

inductive Move (world : World) : Conn → Conn → Prop where
  | enqueue {conn functor} : functor.isNotice = true →
      Move world conn { conn with queue := conn.queue ++ [functor] }
  | dequeue {conn functor rest} : conn.queue = functor :: rest →
      (functor = .shutdownInLoop → conn.channel.isWriting = true) →
      (∀ waiter awaitable, functor ≠ .armWaiter waiter awaitable) →
      (∀ data, functor = .sendInLoop data → conn.state = .kDisconnected) →
      Move world conn { conn with queue := rest }
  | dequeueShutdown {conn rest} : conn.queue = .shutdownInLoop :: rest →
      conn.channel.isWriting = false →
      Move world conn (ConnectionTransport.shutdownWrite { conn with queue := rest })
  | request {conn thread functor} : functor.isRequest = true →
      Move world conn (Remote.begin thread functor conn)
  | accept {conn thread data} : conn.state = .kConnected →
      Move world conn (Remote.begin thread (.sendInLoop data) (conn.emit (.accepted data)))
  | push {conn entry} : entry ∈ conn.inflight →
      Move world conn
        { conn with inflight := conn.inflight.erase entry, queue := conn.queue ++ [entry.2] }
  | claims {conn} (tokens : TokenId → TokenState) (claimed : List WaiterId) :
      Move world conn { conn with tokens, claimed }
  | note {conn event} : event.isNote = true → Move world conn (conn.emit event)
  | callbacks {conn callbacks} : Move world conn { conn with callbacks }
  | policy {conn} {high low : Nat} :
      Move world conn
        { conn with backpressure :=
            { conn.backpressure with highWaterMark := high, lowWaterMark := low } }
  | reading {conn enabled} : conn.backpressure.active = true →
      Move world conn (setReading enabled conn)
  | modifyInput {conn contents} :
      Move world conn
        ({ conn with inputBuffer := contents }.emit (.inputModified conn.registry.readWaiter.isSome))
  | error {conn errno} : conn.state = .kDisconnected →
      Move world conn (markError world errno conn)
  | beginShutdown {conn} : conn.state = .kConnected →
      Move world conn (conn.setState .kDisconnecting)
  | requestShutdown {conn thread} : conn.state = .kConnected →
      Move world conn (Remote.begin thread .shutdownInLoop (conn.setState .kDisconnecting))
  | shutdownWrite {conn} : conn.state = .kDisconnecting → conn.channel.isWriting = false →
      Move world conn (ConnectionTransport.shutdownWrite conn)
  | submit {origin data conn arrived submitted} : Arrives origin data conn arrived →
      conn.state ≠ .kDisconnected → Submits world origin data arrived submitted →
      Move world conn submitted
  | requestAwait {conn thread waiter awaitable} : (conn.waiters waiter).phase = .unarmed →
      Move world conn
        (Remote.begin thread (.armWaiter waiter awaitable) (awaitPending waiter awaitable conn))
  | register {conn waiter registration tokens} :
      Move world conn
        { conn.setWaiter waiter { conn.waiters waiter with registration } with tokens }
  | cancelled {conn waiter} : (conn.waiters waiter).phase = .pending →
      Move world conn (markQueued waiter
        (conn.setWaiter waiter { conn.waiters waiter with outcome := .cancelled }))
  | failed {conn waiter message} : (conn.waiters waiter).phase = .pending →
      Move world conn (markQueued waiter
        (conn.setWaiter waiter
          { conn.waiters waiter with failure := some message, outcome := .failed }))
  | queued {conn waiter} : (conn.waiters waiter).phase = .pending → Wakes conn waiter →
      Move world conn (markQueued waiter conn)
  | armRead {conn waiter awaitable ready} : (conn.waiters waiter).phase = .pending →
      (conn.waiters waiter).handle = some awaitable → awaitable.kind = .read →
      conn.registry.readWaiter = none →
      .arming waiter awaitable conn.state conn.inputBuffer.length ∈ conn.trace →
      ready = canReadImmediately awaitable.minBytes conn →
      Move world conn (queueIf ready waiter (occupyRead waiter awaitable.minBytes conn))
  | armWriteReady {conn waiter awaitable} : (conn.waiters waiter).phase = .pending →
      (conn.waiters waiter).handle = some awaitable → awaitable.kind = .write →
      conn.registry.writeWaiter = none → awaitable.data = [] ∨ conn.state = .kDisconnected →
      Move world conn (markQueued waiter (occupyWrite waiter conn))
  | armClose {conn waiter awaitable ready} : (conn.waiters waiter).phase = .pending →
      (conn.waiters waiter).handle = some awaitable → awaitable.kind = .close →
      conn.registry.closeWaiter = none → ready = decide (conn.state = .kDisconnected) →
      Move world conn (queueIf ready waiter (occupyClose waiter conn))
  | unregister {conn waiter} :
      (conn.waiters waiter).phase = .pending ∨ (conn.waiters waiter).phase = .queued →
      Move world conn ((unregisterWaiter waiter conn).emit (.abandoned waiter))
  | unregisterChannel {conn} :
      (conn.state = .kDisconnected ∨ ∃ found, .checkpoint .connectDestroyed found ∈ conn.trace ∧
        found ≠ .kConnected ∧ found ≠ .kDisconnected) →
      Move world conn (unregisterChannel conn)
  | destroyed {conn found} :
      conn.state = (if found = .kConnected then .kDisconnected else found) →
      Move world conn (conn.emit (.destroyed found conn.state conn.waiting))

/-- The waiter's arm step starts: it is awaited on the owner thread, or the
functor that another thread pushed for it is next. -/
inductive Takes (waiter : WaiterId) (awaitable : Awaitable) (conn : Conn) : Conn → Prop where
  | await : (conn.waiters waiter).phase = .unarmed →
      Takes waiter awaitable conn (awaitPending waiter awaitable conn)
  | dequeue {rest} : conn.queue = .armWaiter waiter awaitable :: rest →
      Takes waiter awaitable conn { conn with queue := rest }

/-- The waiter occupies one of the three slots. -/
def Registry.holds (waiter : WaiterId) (registry : Registry) : Prop :=
  registry.readWaiter = some waiter ∨ registry.writeWaiter = some waiter ∨
    registry.closeWaiter = some waiter

/-- A waiter whose arm step is over waits only in a slot. -/
def Settled (waiter : WaiterId) (conn : Conn) : Prop :=
  (conn.waiters waiter).phase = .pending → conn.registry.holds waiter

/-- The functor that `queueResume` pushed finds its waiter still queued. -/
inductive Finishes (waiter : WaiterId) (conn : Conn) : Conn → Prop where
  | complete : (conn.waiters waiter).phase = .queued → (conn.waiters waiter).handle = none →
      Finishes waiter conn (completeWaiter waiter conn)
  | finish {awaitable} : (conn.waiters waiter).phase = .queued →
      (conn.waiters waiter).handle = some awaitable →
      Finishes waiter conn (finishAwait waiter awaitable conn)

/-- A closed connection gets here only past one of the given places, with the
connection closed already. -/
def Conn.Unchecked (places : List Checkpoint) (conn : Conn) : Prop :=
  conn.state = .kDisconnected → ∃ place ∈ places, .checkpoint place .kDisconnected ∈ conn.trace

/-- Moves that only channel dispatch and establishment make. -/
inductive DispatchMove : Conn → Conn → Prop where
  | receive {conn data} : DispatchMove conn (ConnectionTransport.appendInput data conn)
  | dispatch {conn callback} : callback.isDispatched = true →
      (callback = .connected → conn.transport.ssl = true ∨ .callback .connected ∉ conn.trace) →
      conn.Unchecked [.handleRead, .handshake, .notifyConnected] →
      DispatchMove conn (conn.emit (.callback callback))
  | established {conn} :
      DispatchMove conn
        { conn with transport := { conn.transport with tlsState := .kTlsEstablished } }
  | interest {conn} {change : Channel → Channel} : conn.transport.ssl = true →
      conn.Unchecked [.handleRead, .handshake] ∨ conn.channel.isWriting = true →
      change = Channel.enableReading ∨ change = Channel.enableWriting ∨
        change = Channel.disableWriting →
      DispatchMove conn (conn.updateChannel change)
  | draining {conn} : conn.channel.isWriting = true →
      DispatchMove conn (conn.emit (.draining conn.outputBuffer.length))

/-- `writeFromBuffer` as far as it made progress. -/
inductive Drains (conn : Conn) : Conn → Prop where
  | first {count} : conn.channel.isWriting = true →
      Drains conn (ConnectionTransport.retrieveWritten count conn)
  | more {drained count} : Drains conn drained →
      Drains conn (ConnectionTransport.retrieveWritten count drained)
  | wantRead {drained} : Drains conn drained → drained.transport.ssl = true →
      Drains conn (drained.updateChannel Channel.enableReading)

/-- What precedes `runCloseSequence`: the reason is recorded, after a failed
direct write or an error or neither. -/
inductive Fails (world : World) (conn : Conn) : Conn → Prop where
  | close : Fails world conn (markPeerClosed conn)
  | error {errno : Nat} : Fails world conn (markPeerClosed (markError world errno conn))
  | send {origin data errno arrived} : Arrives origin data conn arrived →
      Fails world conn
        (markPeerClosed (markError world errno (arrived.emit (.submitted origin data))))

/-- On whose behalf the owner loop runs. -/
inductive Scope where
  | user
  | dispatch
  | resume (waiter : WaiterId)
  deriving DecidableEq

/-- On whose behalf a functor runs. -/
def Functor.scope : Functor → Scope
  | .resumeWaiter waiter => .resume waiter
  | _ => .user

/-- Sequences of moves, with those that the scope allows. Three stretches enclose
user code: an arm step, the drain of the output buffer, and the close sequence,
whose connection callback may be followed by the close callback. -/
inductive Ran (world : World) : Scope → Conn → Conn → Prop where
  | refl {scope conn} : Ran world scope conn conn
  | step {scope first second third} : Ran world scope first second →
      Move world second third → Ran world scope first third
  | arm {scope first second taken third waiter awaitable} : Ran world scope first second →
      Takes waiter awaitable second taken → Ran world .user taken third → Settled waiter third →
      Ran world scope first third
  | resumed {waiter first second third} : Ran world (.resume waiter) first second →
      Finishes waiter second third → Ran world (.resume waiter) first third
  | dispatched {first second third} : Ran world .dispatch first second →
      DispatchMove second third → Ran world .dispatch first third
  | drain {first second retrieved third} : Ran world .dispatch first second →
      Drains second retrieved → Ran world .user retrieved third →
      Ran world .dispatch first (settle third)
  | closing {scope first second failed third} (notified : Bool) : Ran world scope first second →
      second.state ≠ .kDisconnected → Fails world second failed →
      Ran world .user (shutChannel failed) (beginClose world failed) →
      Ran world .user (noteDisconnected (beginClose world failed)) third →
      Ran world scope first (noteClosed notified third)

namespace Ran

variable {world : World} {scope : Scope} {first second third : Conn}

theorem single (move : Move world first second) : Ran world scope first second :=
  .step .refl move

theorem trans (before : Ran world scope first second) (after : Ran world scope second third) :
    Ran world scope first third := by
  induction after with
  | refl => exact before
  | step _ move ih => exact .step (ih before) move
  | arm _ takes inner settled ih _ => exact .arm (ih before) takes inner settled
  | resumed _ finishes ih => exact .resumed (ih before) finishes
  | dispatched _ move ih => exact .dispatched (ih before) move
  | drain _ drains inner ih _ => exact .drain (ih before) drains inner
  | closing notified _ opened fails resumed inner ih _ _ =>
      exact .closing notified (ih before) opened fails resumed inner

/-- User code makes only moves that every scope allows. -/
theorem mono (ran : Ran world .user first second) : Ran world scope first second := by
  generalize user : Scope.user = inner at ran
  induction ran with
  | refl => exact .refl
  | step _ move ih => exact .step (ih user) move
  | arm _ takes enclosed settled ih _ => exact .arm (ih user) takes enclosed settled
  | resumed _ _ _ => cases user
  | dispatched _ _ _ => cases user
  | drain _ _ _ _ _ => cases user
  | closing notified _ opened fails resumed enclosed ih _ _ =>
      exact .closing notified (ih user) opened fails resumed enclosed

end Ran

end MiniTrantor.Net
