import ClusterLaunch.Launcher.Plan
import ClusterLaunch.Launcher.World

/-! # Running a cluster

A launcher starts the replicas of its blueprint in ascending order with a pause
between any two. A failed start stops those already started; a termination signal
cuts the launch short. After a complete launch the launcher waits for a signal, and
then releases its replicas.
-/

namespace ClusterLaunch

/-- A blueprint with the handles of the replicas that run, in start order. -/
structure Launcher (η : Type) where
  blueprint : Blueprint
  children : List (ReplicaId × η)

inductive LaunchError where
  | alreadyLaunched
  | startFailed (id : ReplicaId) (addresses : ReplicaAddresses) (cause : String)
  deriving Repr, DecidableEq

def LaunchError.message : LaunchError → String
  | alreadyLaunched => "cluster already launched"
  | startFailed id addresses cause =>
      s!"replica {id.toNat} ({addresses}) failed to start: {cause}"

/-- How the starting of the replicas ends. -/
inductive StartsEnd where
  /-- Every replica was started. -/
  | complete
  /-- A signal came before the last start. -/
  | interrupted
  /-- The start of this plan failed. -/
  | failed (plan : LaunchPlan) (cause : String)
  deriving Repr, DecidableEq

namespace Launcher

variable {σ η : Type}

def ofBlueprint (blueprint : Blueprint) : Launcher η := ⟨blueprint, []⟩

/-- A launcher for a request, if the request is sound. -/
def setup (settings : Settings) (population : UInt8) (failRate : Option Binary64) :
    Except SetupError (Launcher η) :=
  (Blueprint.ofRequest settings population failRate).map ofBlueprint

def launched (launcher : Launcher η) : Nat :=
  launcher.children.length

/-- Stop replicas in the given order. A failure is logged and changes nothing else. -/
def stopAll (spawner : Spawner σ η) : List (ReplicaId × η) → World σ η → World σ η
  | [], world => world
  | (id, handle) :: rest, world =>
      let world := world.log .info s!"terminating replica {id.toNat}"
      let (outcome, world) := world.stop spawner id handle
      let world :=
        match outcome with
        | .ok () => world
        | .error cause =>
            world.log .error s!"error terminating replica {id.toNat}: {cause}"
      stopAll spawner rest world

/-- Stop every started replica, the most recent first. -/
def terminateAll (launcher : Launcher η) (spawner : Spawner σ η) (world : World σ η) :
    Launcher η × World σ η :=
  ({ launcher with children := [] }, stopAll spawner launcher.children.reverse world)

/-- Let go of the started replicas on exit; they are stopped only if the settings
    say so. -/
def release (launcher : Launcher η) (spawner : Spawner σ η) (world : World σ η) :
    Launcher η × World σ η :=
  if launcher.blueprint.settings.reapOnExit then
    launcher.terminateAll spawner world
  else
    ({ launcher with children := [] },
      world.log .info s!"leaving {launcher.launched} replicas running")

/-- The pause before a start. A signal not seen yet ends it at once and counts as
    seen; a closed channel does not shorten it. -/
def pause (stagger : Nat) (receiver : Receiver) (world : World σ η) :
    Bool × Receiver × World σ η :=
  match world.scene.wait receiver stagger with
  | (.change, scene) => (true, receiver.markSeen scene.channel, { world with scene })
  | (.closed, scene) =>
      (false, receiver,
        { world with scene := scene.advanceTo (world.scene.timeAfter stagger) })
  | (.pending, scene) => (false, receiver, { world with scene })

def startOne (spawner : Spawner σ η) (executable : String) (plan : LaunchPlan)
    (world : World σ η) : Except String η × World σ η :=
  let world := world.log .info s!"starting {plan}"
  let world := world.log .debug s!"  {plan.commandLine executable}"
  world.start spawner plan.id executable plan.arguments

/-- Start the replicas of the plans left, pausing before each but the very first.
    A signal not seen yet keeps a start from being made. -/
def startAll (spawner : Spawner σ η) (settings : Settings) :
    (first : Bool) → List LaunchPlan → List (ReplicaId × η) → Receiver → World σ η →
      StartsEnd × List (ReplicaId × η) × Receiver × World σ η
  | _, [], children, receiver, world => (.complete, children, receiver, world)
  | first, plan :: rest, children, receiver, world =>
      let stagger := settings.staggerMs.toNat
      let (caught, receiver, world) :=
        if first || stagger == 0 then (false, receiver, world)
        else pause stagger receiver world
      if caught || (receiver.hasChanged? world.scene.channel).getD false then
        (.interrupted, children, receiver, world)
      else
        match startOne spawner settings.serverExecutable plan world with
        | (.ok handle, world) =>
            startAll spawner settings false rest (children ++ [(plan.id, handle)]) receiver world
        | (.error cause, world) => (.failed plan cause, children, receiver, world)

def logged (world : World σ η) (error : LaunchError) :
    Except LaunchError Bool × World σ η :=
  (.error error, world.log .error error.message)

/-- What a launch leaves behind. -/
structure Outcome (σ η : Type) where
  /-- `true` if every replica was started, `false` if a signal cut the launch short. -/
  result : Except LaunchError Bool
  launcher : Launcher η
  receiver : Receiver
  world : World σ η

/-- Start every replica of the blueprint, unless some are started already. -/
def launch (launcher : Launcher η) (spawner : Spawner σ η) (receiver : Receiver)
    (world : World σ η) : Outcome σ η :=
  if !launcher.children.isEmpty then
    let (result, world) := logged world .alreadyLaunched
    ⟨result, launcher, receiver, world⟩
  else
    let blueprint := launcher.blueprint
    let (ending, children, receiver, world) :=
      startAll spawner blueprint.settings true blueprint.plans [] receiver world
    let launcher := { launcher with children }
    match ending with
    | .failed plan cause =>
        let (launcher, world) := launcher.terminateAll spawner world
        let (result, world) := logged world (.startFailed plan.id plan.addresses cause)
        ⟨result, launcher, receiver, world⟩
    | .interrupted =>
        let world := world.log .warn (s!"launcher caught termination signal after " ++
          s!"{launcher.launched} of {blueprint.plans.length} starts")
        let (launcher, world) := launcher.release spawner world
        ⟨.ok false, launcher, receiver, world⟩
    | .complete =>
        let clients :=
          " ".intercalate (blueprint.topology.entries.map fun entry => toString entry.client)
        let world := world.log .info
          s!"all {launcher.launched} replicas launched, client addrs: {clients}"
        ⟨.ok true, launcher, receiver, world⟩

/-- Has a run come to its end? -/
inductive RunEnd where
  | done
  /-- It was still waiting when its caller gave up. -/
  | parked
  deriving Repr, DecidableEq

/-- Wait for a signal or the end of the channel, then release the replicas. The
    caller waits for `patience` milliseconds at most, and nothing is done if that
    is too short. -/
def run (launcher : Launcher η) (spawner : Spawner σ η) (receiver : Receiver)
    (patience : Nat) (world : World σ η) : RunEnd × Launcher η × World σ η :=
  match world.scene.wait receiver patience with
  | (.pending, scene) => (.parked, launcher, { world with scene })
  | (.change, scene) =>
      let world := { world with scene }.log .warn "launcher caught termination signal"
      (.done, launcher.release spawner world)
  | (.closed, scene) =>
      let world := { world with scene }.log .warn "termination channel closed"
      (.done, launcher.release spawner world)

end Launcher

end ClusterLaunch
