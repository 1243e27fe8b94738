import ClusterLaunch.Signal.Channel

/-! # Time and scheduled signals

A scene is the clock, the termination channel and the signals that are due later.
Signals that fall due are applied to the channel only while something waits; time
passes only then. Who waits looks at the channel first, and has no need to wait if
there is something to see. Then all signals due at one moment take effect one
after another before the next look. A wait that comes to its end leaves the signals
of that very moment to the next one.
-/

namespace ClusterLaunch

structure Timer where
  due : Nat
  signal : Signal
  deriving Repr, DecidableEq

/-- The clock in milliseconds, the channel, and the signals to come in the order
    in which they are due. -/
structure Scene where
  clock : Nat
  channel : Channel
  agenda : List Timer
  deriving Repr, DecidableEq

namespace Scene

/-- Time zero, with nothing sent and nothing scheduled. -/
def fresh : Scene := ⟨0, .fresh, []⟩

def signal (scene : Scene) (signal : Signal) : Scene :=
  { scene with channel := scene.channel.apply signal }

def insertTimer (timer : Timer) : List Timer → List Timer
  | [] => [timer]
  | first :: rest =>
      if first.due ≤ timer.due then first :: insertTimer timer rest else timer :: first :: rest

def timeAfter (scene : Scene) (delay : Nat) : Nat :=
  scene.clock + delay

/-- Schedule a signal for some time after now. -/
def schedule (scene : Scene) (delay : Nat) (signal : Signal) : Scene :=
  { scene with agenda := insertTimer ⟨scene.timeAfter delay, signal⟩ scene.agenda }

/-- The channel and agenda left when all that is due before `time` has been applied. -/
def settle (time : Nat) (channel : Channel) : List Timer → Channel × List Timer
  | [] => (channel, [])
  | first :: rest =>
      if first.due < time then settle time (channel.apply first.signal) rest
      else (channel, first :: rest)

/-- Let time pass until `time`, whatever happens on the channel. -/
def advanceTo (scene : Scene) (time : Nat) : Scene :=
  let (channel, agenda) := settle time scene.channel scene.agenda
  ⟨time, channel, agenda⟩

def sleep (scene : Scene) (delay : Nat) : Scene :=
  scene.advanceTo (scene.timeAfter delay)

/-- Apply what is due at `clock`, and then wait until a receiver finds a change or a
    closed channel, but not beyond `limit`; the answer tells what it found last. -/
def waitUntil (receiver : Receiver) (limit clock : Nat) (channel : Channel) :
    List Timer → Wake × Scene
  | [] =>
      match receiver.poll channel with
      | .pending => (.pending, ⟨limit, channel, []⟩)
      | wake => (wake, ⟨clock, channel, []⟩)
  | first :: rest =>
      if first.due ≤ clock then
        waitUntil receiver limit clock (channel.apply first.signal) rest
      else
        match receiver.poll channel with
        | .pending =>
            if first.due < limit then
              waitUntil receiver limit first.due (channel.apply first.signal) rest
            else (.pending, ⟨limit, channel, first :: rest⟩)
        | wake => (wake, ⟨clock, channel, first :: rest⟩)

/-- Wait for a change for at most some delay. -/
def wait (scene : Scene) (receiver : Receiver) (patience : Nat) : Wake × Scene :=
  match receiver.poll scene.channel with
  | .pending =>
      waitUntil receiver (scene.timeAfter patience) scene.clock scene.channel scene.agenda
  | wake => (wake, scene)

end Scene

end ClusterLaunch
