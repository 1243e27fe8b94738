/-! # The termination channel

Termination is asked for over a channel with a single sender. Each signal raises the
version of the channel, whatever value it carries, and a receiver remembers the
version that it has seen. When the sender is gone, the channel is closed: a version
not seen yet can still be caught, but to ask whether there is one fails.
-/

namespace ClusterLaunch

/-- What can happen to the channel. -/
inductive Signal where
  | send (value : Bool)
  | close
  deriving Repr, DecidableEq

structure Channel where
  /-- How many values have been sent. -/
  version : Nat
  /-- Is the sender still there? -/
  isOpen : Bool
  deriving Repr, DecidableEq

namespace Channel

def fresh : Channel := ⟨0, true⟩

/-- The channel after a signal; a closed channel stays as it is. -/
def apply (channel : Channel) : Signal → Channel
  | .send _ => if channel.isOpen then { channel with version := channel.version + 1 } else channel
  | .close => { channel with isOpen := false }

def applyAll (channel : Channel) (signals : List Signal) : Channel :=
  signals.foldl apply channel

end Channel

/-- What is said of a value sent on a channel that nobody receives from. -/
def Channel.unreceivedMessage : String := "channel closed"

/-- A receiver, by the version that it has seen. -/
structure Receiver where
  seen : Nat
  deriving Repr, DecidableEq

/-- What a receiver that waits for a change finds. -/
inductive Wake where
  /-- There is a version it has not seen. -/
  | change
  /-- There is none, and there never will be. -/
  | closed
  /-- There is none yet. -/
  | pending
  deriving Repr, DecidableEq

namespace Receiver

def fresh : Receiver := ⟨0⟩

/-- Is there a version that the receiver has not seen? -/
def hasUnseen (receiver : Receiver) (channel : Channel) : Bool :=
  receiver.seen != channel.version

/-- Ask whether there is a version not seen; a closed channel gives no answer. -/
def hasChanged? (receiver : Receiver) (channel : Channel) : Option Bool :=
  if channel.isOpen then some (receiver.hasUnseen channel) else none

/-- What the receiver finds at this moment when it waits for a change. -/
def poll (receiver : Receiver) (channel : Channel) : Wake :=
  if receiver.hasUnseen channel then .change
  else if channel.isOpen then .pending
  else .closed

def markSeen (_receiver : Receiver) (channel : Channel) : Receiver :=
  ⟨channel.version⟩

end Receiver

end ClusterLaunch
