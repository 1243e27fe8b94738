import ClusterLaunch.Launcher.Run

/-! # Rehearsals

A rehearsal is a row of steps with a launcher, over any spawner, and every step reports
what it did. It needs no process: a scripted spawner gives each replica its number
as handle, fails where the script says so, and sends scripted signals while it
starts a replica.
-/

namespace ClusterLaunch

/-- How a scripted spawner behaves. -/
structure Script where
  failStart : List ReplicaId
  failStop : List ReplicaId
  /-- Signals that arrive while a replica is started, in order. -/
  onStart : List (ReplicaId × Signal)
  deriving Repr, DecidableEq

def scriptedSpawner : Spawner Script ReplicaId where
  start id _ _ script :=
    { signals := (script.onStart.filter fun (hooked, _) => hooked == id).map Prod.snd
      outcome :=
        if script.failStart.contains id then .error s!"cannot spawn {id.toNat}" else .ok id
      state := script }
  stop id _ script :=
    { logs := []
      outcome :=
        if script.failStop.contains id then .error s!"cannot terminate {id.toNat}" else .ok ()
      state := script }

/-- One step of a rehearsal over a spawner with state `σ`. -/
inductive RehearsalStep (σ : Type) where
  | launch
  | run
  | terminateAll
  | signal (signal : Signal)
  | sleep (ms : Nat)
  | after (ms : Nat) (signal : Signal)
  /-- Give the spawner another state. -/
  | prepare (spawner : σ)
  deriving Repr, DecidableEq

inductive StepAnswer where
  | launched (result : Except LaunchError Bool)
  | ran (ending : Launcher.RunEnd)
  | nothing

structure StepReport (η : Type) where
  answer : StepAnswer
  launched : Nat
  time : Nat
  events : List (Event η)
  logs : List LogRecord

/-- A launcher in its world, between two steps. -/
structure Rehearsal (σ η : Type) where
  launcher : Launcher η
  receiver : Receiver
  world : World σ η

namespace Rehearsal

variable {σ η : Type}

/-- How long a run may wait before it is given up. -/
def patience : Nat := 10000000000

def start (launcher : Launcher η) (spawner : σ) : Rehearsal σ η :=
  ⟨launcher, .fresh, .fresh .fresh spawner⟩

/-- Perform one step. A run works on a copy of the receiver. -/
def perform (spawner : Spawner σ η) (rehearsal : Rehearsal σ η) :
    RehearsalStep σ → StepAnswer × Rehearsal σ η
  | .launch =>
      let outcome := rehearsal.launcher.launch spawner rehearsal.receiver rehearsal.world
      (.launched outcome.result, ⟨outcome.launcher, outcome.receiver, outcome.world⟩)
  | .run =>
      let (ending, launcher, world) :=
        rehearsal.launcher.run spawner rehearsal.receiver patience rehearsal.world
      (.ran ending, { rehearsal with launcher, world })
  | .terminateAll =>
      let (launcher, world) := rehearsal.launcher.terminateAll spawner rehearsal.world
      (.nothing, { rehearsal with launcher, world })
  | .signal signal =>
      let scene := rehearsal.world.scene.signal signal
      (.nothing, { rehearsal with world := { rehearsal.world with scene } })
  | .sleep ms =>
      let scene := rehearsal.world.scene.sleep ms
      (.nothing, { rehearsal with world := { rehearsal.world with scene } })
  | .after ms signal =>
      let scene := rehearsal.world.scene.schedule ms signal
      (.nothing, { rehearsal with world := { rehearsal.world with scene } })
  | .prepare state =>
      (.nothing, { rehearsal with world := { rehearsal.world with spawner := state } })

/-- Perform one step and report only what this step did. -/
def step (spawner : Spawner σ η) (rehearsal : Rehearsal σ η) (step : RehearsalStep σ) :
    StepReport η × Rehearsal σ η :=
  let world := { rehearsal.world with events := [], logs := [] }
  let (answer, after) := { rehearsal with world }.perform spawner step
  (⟨answer, after.launcher.launched, after.world.scene.clock, after.world.events,
    after.world.logs⟩, after)

def runSteps (spawner : Spawner σ η) (rehearsal : Rehearsal σ η) :
    List (RehearsalStep σ) → List (StepReport η)
  | [] => []
  | step :: rest =>
      let (report, rehearsal) := rehearsal.step spawner step
      report :: rehearsal.runSteps spawner rest

end Rehearsal

end ClusterLaunch
