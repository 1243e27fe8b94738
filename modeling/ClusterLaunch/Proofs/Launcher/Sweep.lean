import ClusterLaunch.Launcher.Run

/-! # Sweeps

A sweep asks for one stop after the other. What it records and what it logs is made up of what it
does for each replica, and a stop that fails changes nothing but its own part. The clock and the
channel stay as they are.
-/

namespace ClusterLaunch

variable {σ η : Type}

/-- A request to stop a replica, with the spawner's answer. -/
structure Dismissal (σ η : Type) where
  id : ReplicaId
  handle : η
  answer : Stopped σ

namespace Dismissal

def entry (dismissal : Dismissal σ η) : ReplicaId × η :=
  (dismissal.id, dismissal.handle)

def event (dismissal : Dismissal σ η) : Event η :=
  .stop dismissal.id dismissal.handle dismissal.answer.outcome

/-- What is logged of the request. The records of the spawner come before the word of a failure. -/
def records (dismissal : Dismissal σ η) : List LogRecord :=
  ⟨.info, s!"terminating replica {dismissal.id.toNat}"⟩ :: dismissal.answer.logs ++
    match dismissal.answer.outcome with
    | .ok () => []
    | .error cause => [⟨.error, s!"error terminating replica {dismissal.id.toNat}: {cause}"⟩]

end Dismissal

def World.dismissed (world : World σ η) (dismissal : Dismissal σ η) : World σ η :=
  { world with
    spawner := dismissal.answer.state
    events := world.events ++ [dismissal.event]
    logs := world.logs ++ dismissal.records }

/-- A spawner dismisses replicas in the given order, beginning in some state. -/
def Spawner.dismissals (spawner : Spawner σ η) : List (ReplicaId × η) → σ → List (Dismissal σ η)
  | [], _ => []
  | (id, handle) :: rest, state =>
      let answer := spawner.stop id handle state
      ⟨id, handle, answer⟩ :: spawner.dismissals rest answer.state

theorem Spawner.dismissals_entry (spawner : Spawner σ η) (entries : List (ReplicaId × η))
    (state : σ) : (spawner.dismissals entries state).map Dismissal.entry = entries := by
  induction entries generalizing state with
  | nil => rfl
  | cons entry rest ih =>
      obtain ⟨id, handle⟩ := entry
      rw [dismissals, List.map_cons, ih]
      rfl

namespace Launcher

theorem stopAll_cons (spawner : Spawner σ η) (id : ReplicaId) (handle : η)
    (rest : List (ReplicaId × η)) (world : World σ η) :
    stopAll spawner ((id, handle) :: rest) world =
      stopAll spawner rest
        (world.dismissed ⟨id, handle, spawner.stop id handle world.spawner⟩) := by
  rw [stopAll]
  simp only [World.log, World.stop, World.dismissed, Dismissal.event, Dismissal.records]
  cases (spawner.stop id handle world.spawner).outcome <;> simp

theorem stopAll_scene (spawner : Spawner σ η) (entries : List (ReplicaId × η))
    (world : World σ η) : (stopAll spawner entries world).scene = world.scene := by
  induction entries generalizing world with
  | nil => rfl
  | cons entry rest ih =>
      obtain ⟨id, handle⟩ := entry
      rw [stopAll_cons, ih]
      rfl

theorem stopAll_logs (spawner : Spawner σ η) (entries : List (ReplicaId × η))
    (world : World σ η) :
    (stopAll spawner entries world).logs =
      world.logs ++ (spawner.dismissals entries world.spawner).flatMap Dismissal.records := by
  induction entries generalizing world with
  | nil => simp [stopAll, Spawner.dismissals]
  | cons entry rest ih =>
      obtain ⟨id, handle⟩ := entry
      rw [stopAll_cons, ih]
      simp [World.dismissed, Spawner.dismissals]

theorem release_of_reaps (launcher : Launcher η)
    (reaps : launcher.blueprint.settings.reapOnExit = true) (spawner : Spawner σ η)
    (world : World σ η) :
    (launcher.release spawner world).2 = stopAll spawner launcher.children.reverse world := by
  rw [release, if_pos reaps]
  rfl

theorem release_of_keeps (launcher : Launcher η)
    (keeps : launcher.blueprint.settings.reapOnExit = false) (spawner : Spawner σ η)
    (world : World σ η) :
    (launcher.release spawner world).2 =
      world.log .info s!"leaving {launcher.children.length} replicas running" := by
  rw [release, keeps]
  rfl

end Launcher

end ClusterLaunch
