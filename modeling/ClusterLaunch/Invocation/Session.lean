import ClusterLaunch.Invocation.Request
import ClusterLaunch.Launcher.Run
import ClusterLaunch.Launcher.System

/-! # Sessions

A session is everything that happens because of one invocation: the request is checked
and planned, and then either shown or launched. Nothing is started before all of
the planning has succeeded, so a rehearsal without starts fails exactly where the
launch would fail before its first start.
-/

namespace ClusterLaunch

inductive SessionError where
  | request (error : RequestError)
  | setup (error : SetupError)
  /-- The system refuses what a launch needs. -/
  | system (cause : String)
  | launch (error : LaunchError)
  deriving Repr, DecidableEq

def SessionError.message : SessionError → String
  | request error => error.message
  | setup error => error.message
  | system cause => cause
  | launch error => error.message

inductive SessionEnd where
  | exited (code : UInt8)
  /-- Every replica runs, and nothing has asked for their end yet. -/
  | waiting
  deriving Repr, DecidableEq

structure Session (σ η : Type) where
  ending : SessionEnd
  world : World σ η

namespace Session

variable {σ η : Type}

def prepare (invocation : Invocation) : Except SessionError (Launcher η) := do
  let request ← (LaunchRequest.ofInvocation invocation).mapError .request
  (Launcher.setup request.settings request.population request.failRate).mapError .setup

def failed (error : SessionError) (world : World σ η) : Session σ η :=
  ⟨.exited 1, world.log .error s!"launcher_main exited: {error.message}"⟩

/-- Log every plan with its command line, in order. -/
def showPlans (executable : String) (world : World σ η) : List LaunchPlan → World σ η
  | [] => world
  | plan :: rest =>
      showPlans executable (world.log .info s!"{plan}: {plan.commandLine executable}") rest

/-- Launch all replicas and wait for a signal, for `patience` milliseconds at most. -/
def launch (launcher : Launcher η) (spawner : Spawner σ η) (patience : Nat)
    (world : World σ η) : Session σ η :=
  let outcome := launcher.launch spawner .fresh world
  match outcome.result with
  | .error error => failed (.launch error) outcome.world
  | .ok false => ⟨.exited 0, outcome.world⟩
  | .ok true =>
      match outcome.launcher.run spawner outcome.receiver patience outcome.world with
      | (.done, _, world) => ⟨.exited 0, world⟩
      | (.parked, _, world) => ⟨.waiting, world⟩

/-- The session of an invocation in a world. A dry run asks nothing of the system. -/
def ofInvocation (invocation : Invocation) (facilities : Facilities) (spawner : Spawner σ η)
    (patience : Nat) (world : World σ η) : Session σ η :=
  match prepare invocation with
  | .error error => failed error world
  | .ok launcher =>
      if invocation.dryRun then
        let blueprint := launcher.blueprint
        ⟨.exited 0, showPlans blueprint.settings.serverExecutable world blueprint.plans⟩
      else
        match facilities.granted with
        | .error cause => failed (.system cause) world
        | .ok () => launch launcher spawner patience world

end Session

end ClusterLaunch
