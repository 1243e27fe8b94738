import ClusterLaunch.Launcher.World

/-! # Replicas as processes

The operating system is whatever answers as one: what it refuses and how its processes end are
taken as they come.
-/

namespace ClusterLaunch

/-- What a launch needs before its first start, in the order in which it is asked for: a handler
    for termination signals and a runtime. A refusal says why. -/
structure Facilities where
  handler : Except String Unit
  runtime : Except String Unit

def Facilities.granted (facilities : Facilities) : Except String Unit := do
  facilities.handler
  facilities.runtime

structure System (σ η : Type) where
  facilities : Facilities
  /-- Start a process from an executable with arguments, without waiting for it. -/
  start : String → List String → σ → Started σ η
  /-- The ending of a process in words, if it has ended. -/
  ended? : η → σ → Except String (Option String) × σ
  kill : η → σ → Except String Unit × σ

/-- Start processes, and kill those that have not ended by themselves. -/
def System.spawner {σ η : Type} (system : System σ η) : Spawner σ η where
  start _ := system.start
  stop id process state :=
    match system.ended? process state with
    | (.error cause, state) => { logs := [], outcome := .error cause, state }
    | (.ok (some ending), state) =>
        { logs := [⟨.debug, s!"replica {id.toNat} already exited with {ending}"⟩]
          outcome := .ok ()
          state }
    | (.ok none, state) =>
        let (outcome, state) := system.kill process state
        { logs := [], outcome, state }

end ClusterLaunch
