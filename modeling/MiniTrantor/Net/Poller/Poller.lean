import MiniTrantor.Net.Channel

/-!
# Pollers

The channels of a loop, what its poller keeps of them and, for epoll, what is registered
with the kernel. A channel is known by its address, at which another may be created when
it was destroyed. The select poller is that of Windows.
-/

set_option autoImplicit false

namespace MiniTrantor.Net.Polling

abbrev SocketFd := Int

/-- `index_`, for the poller that the channel is registered with. -/
inductive Index where
  | kNew
  | kAdded
  | kDeleted
  deriving DecidableEq, Repr

/-- A channel and its descriptor. -/
structure Object where
  fd : SocketFd
  channel : Channel := {}
  index : Index := .kNew
  deriving DecidableEq, Repr

/-- What a poller keeps, and the channels that it borrows. -/
structure Poller (Address : Type) where
  objects : Address → Option Object := fun _ => none
  /-- `channels_` -/
  channels : SocketFd → Option Address := fun _ => none

/-- Operations of a channel that lead to its poller. -/
inductive Operation where
  | enableReading
  | disableReading
  | enableWriting
  | disableWriting
  | disableAll
  deriving DecidableEq, Repr

def Operation.perform : Operation → Channel → Channel
  | .enableReading => Channel.enableReading
  | .disableReading => Channel.disableReading
  | .enableWriting => Channel.enableWriting
  | .disableWriting => Channel.disableWriting
  | .disableAll => Channel.disableAll

inductive Failure where
  | runtimeError (message : String)
  /-- `LOG_SYSFATAL` -/
  | epollDie (call : String)
  /-- `LOG_FATAL` -/
  | fatal (message : String)
  deriving DecidableEq, Repr

/-- What is done with the channels of a loop. -/
inductive Action (Address : Type) where
  | create (address : Address) (fd : SocketFd)
  | destroy (address : Address)
  | operate (address : Address) (operation : Operation)
  | remove (address : Address)
  deriving DecidableEq, Repr

variable {Address : Type} [DecidableEq Address]

namespace Poller

def set (address : Address) (object : Option Object) (poller : Poller Address) : Poller Address :=
  { poller with objects := Function.update poller.objects address object }

/-- `channels_[fd] = channel` -/
def add (fd : SocketFd) (address : Address) (poller : Poller Address) : Poller Address :=
  { poller with channels := Function.update poller.channels fd (some address) }

/-- `channels_.erase(fd)` -/
def erase (fd : SocketFd) (poller : Poller Address) : Poller Address :=
  { poller with channels := Function.update poller.channels fd none }

@[simp] theorem set_objects (address : Address) (object : Option Object)
    (poller : Poller Address) :
    (poller.set address object).objects = Function.update poller.objects address object := rfl

@[simp] theorem set_channels (address : Address) (object : Option Object)
    (poller : Poller Address) : (poller.set address object).channels = poller.channels := rfl

omit [DecidableEq Address] in
@[simp] theorem add_objects (fd : SocketFd) (address : Address) (poller : Poller Address) :
    (poller.add fd address).objects = poller.objects := rfl

omit [DecidableEq Address] in
@[simp] theorem add_channels (fd : SocketFd) (address : Address) (poller : Poller Address) :
    (poller.add fd address).channels = Function.update poller.channels fd (some address) := rfl

omit [DecidableEq Address] in
@[simp] theorem erase_objects (fd : SocketFd) (poller : Poller Address) :
    (poller.erase fd).objects = poller.objects := rfl

omit [DecidableEq Address] in
@[simp] theorem erase_channels (fd : SocketFd) (poller : Poller Address) :
    (poller.erase fd).channels = Function.update poller.channels fd none := rfl

end Poller

/-! ## Epoll -/

structure EpollEvents where
  epollin : Bool := false
  epollpri : Bool := false
  epollout : Bool := false
  deriving DecidableEq, Repr

def toEpollEvents (events : EventMask) : EpollEvents :=
  { epollin := events.read, epollpri := events.read, epollout := events.write }

inductive EpollCtl where
  | add
  | mod
  | del
  deriving DecidableEq, Repr

/-- The descriptors that are registered, with the mask and the channel of each. -/
abbrev Kernel (Address : Type) := SocketFd → Option (EpollEvents × Address)

def epollCtl (operation : EpollCtl) (fd : SocketFd) (event : EpollEvents × Address)
    (kernel : Kernel Address) : Option (Kernel Address) :=
  match operation, kernel fd with
  | .add, none | .mod, some _ => some (Function.update kernel fd (some event))
  | .del, some _ => some (Function.update kernel fd none)
  | _, _ => none

structure EPollPoller (Address : Type) extends Poller Address where
  kernel : Kernel Address := fun _ => none

namespace EPollPoller

def set (address : Address) (object : Object) (poller : EPollPoller Address) :
    EPollPoller Address :=
  { poller with toPoller := poller.toPoller.set address (some object) }

def update (operation : EpollCtl) (address : Address) (object : Object)
    (poller : EPollPoller Address) : Except Failure (EPollPoller Address) :=
  match epollCtl operation object.fd (toEpollEvents object.channel.events, address)
      poller.kernel with
  | some kernel => .ok { poller with kernel }
  | none => .error (.epollDie "epoll_ctl")

/-- The channel was changed to what is passed. -/
def updateChannel (address : Address) (object : Object) (poller : EPollPoller Address) :
    Except Failure (EPollPoller Address) :=
  match object.index with
  | .kNew =>
      let poller := { poller with toPoller := poller.toPoller.add object.fd address }
      (poller.set address { object with index := .kAdded }).update .add address object
  | .kDeleted => (poller.set address { object with index := .kAdded }).update .add address object
  | .kAdded =>
      if object.channel.isNoneEvent then
        (poller.set address { object with index := .kDeleted }).update .del address object
      else (poller.set address object).update .mod address object

def removeChannel (address : Address) (object : Object) (poller : EPollPoller Address) :
    Except Failure (EPollPoller Address) :=
  let poller := { poller with toPoller := poller.toPoller.erase object.fd }
  let poller := poller.set address { object with index := .kNew }
  if object.index = .kAdded then poller.update .del address object else .ok poller

/-- The descriptors that `epoll_wait` reports on, be it a hang-up only. -/
def waits (poller : EPollPoller Address) (fd : SocketFd) : Bool := (poller.kernel fd).isSome

end EPollPoller

/-! ## Select -/

structure SelectPoller (Address : Type) extends Poller Address

namespace SelectPoller

def set (address : Address) (object : Object) (poller : SelectPoller Address) :
    SelectPoller Address :=
  { toPoller := poller.toPoller.set address (some object) }

def updateChannel (address : Address) (object : Object) (poller : SelectPoller Address) :
    SelectPoller Address :=
  let poller :=
    if object.index = .kNew then
      { poller with toPoller := poller.toPoller.add object.fd address }
    else poller
  if object.channel.isNoneEvent then poller.set address { object with index := .kDeleted }
  else poller.set address { object with index := .kAdded }

def removeChannel (address : Address) (object : Object) (poller : SelectPoller Address) :
    SelectPoller Address :=
  let poller := { poller with toPoller := poller.toPoller.erase object.fd }
  poller.set address { object with index := .kNew }

/-- The descriptors that `poll` passes to `select`. -/
def waits (poller : SelectPoller Address) (fd : SocketFd) : Bool :=
  match poller.channels fd with
  | none => false
  | some address =>
      match poller.objects address with
      | none => false
      | some object => object.index = .kAdded && !object.channel.isNoneEvent

end SelectPoller

/-! ## Channels of a loop -/

/-- What a backend does with an update and a removal. -/
structure Backend (Address State : Type) where
  poller : State → Poller Address
  withPoller : Poller Address → State → State
  updateChannel : Address → Object → State → Except Failure State
  removeChannel : Address → Object → State → Except Failure State

def epoll : Backend Address (EPollPoller Address) where
  poller := EPollPoller.toPoller
  withPoller poller state := { state with toPoller := poller }
  updateChannel := EPollPoller.updateChannel
  removeChannel := EPollPoller.removeChannel

def select : Backend Address (SelectPoller Address) where
  poller := SelectPoller.toPoller
  withPoller poller _ := { toPoller := poller }
  updateChannel address object state := .ok (state.updateChannel address object)
  removeChannel address object state := .ok (state.removeChannel address object)

namespace Backend

variable {State : Type} (backend : Backend Address State)

/-- One operation with a channel, for any backend. An operation with no channel is none
of a program. -/
def act (state : State) : Action Address → Option (Except Failure State)
  | .create address fd =>
      match (backend.poller state).objects address with
      | none => some (.ok (backend.withPoller
          ((backend.poller state).set address (some { fd })) state))
      | some _ => none
  | .destroy address =>
      ((backend.poller state).objects address).map fun object =>
        if object.channel.addedToLoop then
          .error (.fatal "Channel destroyed without remove-before-destroy")
        else .ok (backend.withPoller ((backend.poller state).set address none) state)
  | .operate address operation =>
      ((backend.poller state).objects address).map fun object =>
        backend.updateChannel address
          { object with channel := operation.perform object.channel } state
  | .remove address =>
      ((backend.poller state).objects address).map fun object =>
        match object.channel.remove with
        | .error message => .error (.runtimeError message)
        | .ok channel => backend.removeChannel address { object with channel } state

/-- A step of a program that catches exceptions. -/
def step (state : State) (action : Action Address) : Option State :=
  match backend.act state action with
  | some (.ok next) => some next
  | some (.error (.runtimeError _)) => some state
  | _ => none

theorem step_eq {state next : State} {action : Action Address}
    (ran : backend.step state action = some next) :
    backend.act state action = some (.ok next) ∨
      (∃ message, backend.act state action = some (.error (.runtimeError message))) ∧
        next = state := by
  unfold step at ran
  split at ran
  · cases ran
    exact .inl ‹_›
  · cases ran
    exact .inr ⟨⟨_, ‹_›⟩, rfl⟩
  · cases ran

end Backend

/-- No other channel in the loop has the descriptor. -/
def Sole (poller : Poller Address) (address : Address) (object : Object) : Prop :=
  ∀ other found, poller.objects other = some found → other ≠ address →
    found.channel.addedToLoop = true → found.fd ≠ object.fd

omit [DecidableEq Address] in
theorem Sole.alone {poller : Poller Address} {address : Address} {object : Object}
    (nobody : ∀ other ≠ address, poller.objects other = none) : Sole poller address object := by
  intro other found holds differs
  rw [nobody other differs] at holds
  cases holds

/-- Channels that are in the loop at the same time have different descriptors. One that was
removed may share its own with the next. -/
def Distinct (poller : Poller Address) : Action Address → Prop
  | .operate address _ | .remove address =>
      ∀ object, poller.objects address = some object → Sole poller address object
  | _ => True

end MiniTrantor.Net.Polling
