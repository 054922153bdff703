import Mathlib

/-!
# Channel

The interest mask of one descriptor and its registration with the owner loop.
Only the four bits that `Channel.h` names are ever set, so a mask is four flags.
-/

set_option autoImplicit false

namespace MiniTrantor.Net

structure EventMask where
  read : Bool := false
  write : Bool := false
  error : Bool := false
  close : Bool := false
  deriving DecidableEq, Repr

/-- `kNoneEvent`. -/
def EventMask.none : EventMask := {}

structure Channel where
  events : EventMask := .none
  addedToLoop : Bool := false
  deriving DecidableEq, Repr

namespace Channel

def isNoneEvent (channel : Channel) : Bool := channel.events == .none

def isWriting (channel : Channel) : Bool := channel.events.write

def isReading (channel : Channel) : Bool := channel.events.read

/-- `Channel::update` after the mask was set to `events`. -/
def update (channel : Channel) (events : EventMask) : Channel :=
  { channel with events, addedToLoop := true }

def enableReading (channel : Channel) : Channel :=
  channel.update { channel.events with read := true }

def disableReading (channel : Channel) : Channel :=
  channel.update { channel.events with read := false }

def enableWriting (channel : Channel) : Channel :=
  channel.update { channel.events with write := true }

def disableWriting (channel : Channel) : Channel :=
  channel.update { channel.events with write := false }

def disableAll (channel : Channel) : Channel :=
  channel.update .none

def remove (channel : Channel) : Except String Channel :=
  if channel.isNoneEvent then .ok { channel with addedToLoop := false }
  else .error "Channel::remove requires disableAll() first"

@[simp] theorem isWriting_enableReading (channel : Channel) :
    channel.enableReading.isWriting = channel.isWriting := rfl

@[simp] theorem isWriting_disableReading (channel : Channel) :
    channel.disableReading.isWriting = channel.isWriting := rfl

@[simp] theorem isWriting_enableWriting (channel : Channel) :
    channel.enableWriting.isWriting = true := rfl

@[simp] theorem isWriting_disableWriting (channel : Channel) :
    channel.disableWriting.isWriting = false := rfl

@[simp] theorem events_disableAll (channel : Channel) :
    channel.disableAll.events = .none := rfl

@[simp] theorem isWriting_disableAll (channel : Channel) :
    channel.disableAll.isWriting = false := rfl

end Channel

end MiniTrantor.Net
