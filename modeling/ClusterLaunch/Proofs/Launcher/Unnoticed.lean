import ClusterLaunch.Proofs.Launcher.Starting

/-! # Changes that go unnoticed

To compare two launches, the worlds of one are changed into those of the other. If neither
logging nor stopping notices such a change, a sweep and a release do not notice it either. A
launch then has the same end in both worlds as soon as the starting of its replicas has.
-/

namespace ClusterLaunch

variable {σ η : Type}

/-- Logging and stopping answer the same in a changed world, perhaps with another spawner, and
    leave the world behind that they would have left, changed in the same way. -/
structure Unnoticed (spawner spawner' : Spawner σ η) (change : World σ η → World σ η) : Prop where
  log : ∀ world level message,
    (change world).log level message = change (world.log level message)
  stop : ∀ world id handle, (change world).stop spawner' id handle =
    ((world.stop spawner id handle).1, change (world.stop spawner id handle).2)

def Launcher.Outcome.changed (change : World σ η → World σ η) (outcome : Launcher.Outcome σ η) :
    Launcher.Outcome σ η :=
  { outcome with world := change outcome.world }

namespace Unnoticed

variable {spawner spawner' : Spawner σ η} {change : World σ η → World σ η}

theorem stopAll (h : Unnoticed spawner spawner' change) (entries : List (ReplicaId × η))
    (world : World σ η) :
    Launcher.stopAll spawner' entries (change world) =
      change (Launcher.stopAll spawner entries world) := by
  induction entries generalizing world with
  | nil => rfl
  | cons entry rest ih =>
      obtain ⟨id, handle⟩ := entry
      simp only [Launcher.stopAll, h.log, h.stop]
      rw [← ih]
      split <;> rfl

theorem release (h : Unnoticed spawner spawner' change) (launcher : Launcher η)
    (world : World σ η) :
    launcher.release spawner' (change world) =
      ((launcher.release spawner world).1, change (launcher.release spawner world).2) := by
  unfold Launcher.release Launcher.terminateAll
  split
  · rw [h.stopAll]
  · rw [h.log]

theorem launch (h : Unnoticed spawner spawner' change) (launcher : Launcher η)
    (receiver : Receiver) (world : World σ η)
    (starts : Launcher.startAll spawner' launcher.blueprint.settings true launcher.blueprint.plans
        [] receiver (change world) =
      match Launcher.startAll spawner launcher.blueprint.settings true launcher.blueprint.plans []
        receiver world with
      | (ending, children, receiver, world) => (ending, children, receiver, change world)) :
    launcher.launch spawner' receiver (change world) =
      (launcher.launch spawner receiver world).changed change := by
  unfold Launcher.launch
  split
  · simp only [Launcher.logged, h.log]
    rfl
  · dsimp only
    rw [starts]
    rcases Launcher.startAll spawner launcher.blueprint.settings true launcher.blueprint.plans []
      receiver world with ⟨ending, children, receiver', world'⟩
    cases ending with
    | complete =>
        simp only [h.log]
        rfl
    | interrupted =>
        simp only [h.log, h.release]
        rfl
    | failed plan cause =>
        simp only [Launcher.terminateAll, Launcher.logged, h.stopAll, h.log]
        rfl

end Unnoticed

end ClusterLaunch
