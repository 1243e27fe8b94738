import ClusterLaunch.Topology
import ClusterLaunch.Log
import ClusterLaunch.Signal.Scene

/-! # What a launcher acts on

A spawner starts and stops replicas; either may fail, and signals may arrive while it
starts one. The world is the scene, the spawner's own state, and the two records
that are kept of everything done: what was asked of the spawner, and what was
logged.
-/

namespace ClusterLaunch

/-- The answer to a start. -/
structure Started (σ η : Type) where
  /-- Signals that arrive during the start, in order. -/
  signals : List Signal
  /-- A handle to the replica, or what went wrong. -/
  outcome : Except String η
  state : σ

/-- The answer to a stop. -/
structure Stopped (σ : Type) where
  /-- Records that the spawner logs. -/
  logs : List LogRecord
  outcome : Except String Unit
  state : σ

/-- How replicas are started and stopped, over a state `σ`, with handles `η`. -/
structure Spawner (σ η : Type) where
  start : ReplicaId → String → List String → σ → Started σ η
  stop : ReplicaId → η → σ → Stopped σ

/-- What was asked of the spawner. -/
inductive Event (η : Type) where
  | start (id : ReplicaId) (executable : String) (arguments : List String) (time : Nat)
      (outcome : Except String η)
  | stop (id : ReplicaId) (handle : η) (outcome : Except String Unit)

/-- The scene, the spawner's state, and the records of everything done. -/
structure World (σ η : Type) where
  scene : Scene
  spawner : σ
  events : List (Event η)
  logs : List LogRecord

namespace World

variable {σ η : Type}

def fresh (scene : Scene) (spawner : σ) : World σ η := ⟨scene, spawner, [], []⟩

def log (world : World σ η) (level : LogLevel) (message : String) : World σ η :=
  { world with logs := world.logs ++ [⟨level, message⟩] }

def start (world : World σ η) (spawner : Spawner σ η) (id : ReplicaId) (executable : String)
    (arguments : List String) : Except String η × World σ η :=
  let started := spawner.start id executable arguments world.spawner
  let scene := { world.scene with channel := world.scene.channel.applyAll started.signals }
  let event := Event.start id executable arguments world.scene.clock started.outcome
  (started.outcome,
    { world with scene, spawner := started.state, events := world.events ++ [event] })

def stop (world : World σ η) (spawner : Spawner σ η) (id : ReplicaId) (handle : η) :
    Except String Unit × World σ η :=
  let stopped := spawner.stop id handle world.spawner
  let event := Event.stop id handle stopped.outcome
  (stopped.outcome,
    { world with
      spawner := stopped.state
      events := world.events ++ [event]
      logs := world.logs ++ stopped.logs })

end World

end ClusterLaunch
