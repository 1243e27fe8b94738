import ClusterLaunch.Proofs.Launcher.History
import ClusterLaunch.Proofs.Launcher.Unnoticed

/-! # Emptied launchers

What a launch does depends on the scene and on the spawner's state, and not on what was asked
or logged before: longer records in front of a world stay in front of all that follows. The
blueprint stays the same through every history. So a launcher that holds no replica launches
just as one that was set up anew.
-/

namespace ClusterLaunch

variable {σ η : Type}

namespace World

/-- The world with the records of another one in front of its own. -/
def behind (past world : World σ η) : World σ η :=
  { world with
    events := past.events ++ world.events
    logs := past.logs ++ world.logs }

theorem log_behind (past world : World σ η) (level : LogLevel) (message : String) :
    (past.behind world).log level message = past.behind (world.log level message) := by
  simp [behind, log]

private theorem start_behind (past world : World σ η) (spawner : Spawner σ η) (id : ReplicaId)
    (executable : String) (arguments : List String) :
    (past.behind world).start spawner id executable arguments =
      ((world.start spawner id executable arguments).1,
        past.behind (world.start spawner id executable arguments).2) := by
  simp [behind, start]

private theorem unnoticed_behind (past : World σ η) (spawner : Spawner σ η) :
    Unnoticed spawner spawner past.behind :=
  ⟨past.log_behind, fun _ _ _ => by simp [behind, stop]⟩

/-- Scene and state without any records. -/
def bare (world : World σ η) : World σ η :=
  .fresh world.scene world.spawner

theorem behind_bare (world : World σ η) : world.behind world.bare = world := by
  simp [behind, bare, fresh]

end World

namespace Launcher

private theorem turn_behind (past : World σ η) (settings : Settings) (first : Bool)
    (receiver : Receiver) (world : World σ η) :
    turn settings first receiver (past.behind world) =
      ((turn settings first receiver world).1, (turn settings first receiver world).2.1,
        past.behind (turn settings first receiver world).2.2) := by
  have scene : (past.behind world).scene = world.scene := rfl
  unfold turn pause
  rw [scene]
  split
  · rfl
  · split <;> rfl

private theorem startOne_behind (past : World σ η) (spawner : Spawner σ η) (executable : String)
    (plan : LaunchPlan) (world : World σ η) :
    startOne spawner executable plan (past.behind world) =
      ((startOne spawner executable plan world).1,
        past.behind (startOne spawner executable plan world).2) := by
  simp only [startOne, World.log_behind, World.start_behind]

theorem startAll_behind (past : World σ η) (spawner : Spawner σ η) (settings : Settings)
    (first : Bool) (plans : List LaunchPlan) (children : List (ReplicaId × η))
    (receiver : Receiver) (world : World σ η) :
    startAll spawner settings first plans children receiver (past.behind world) =
      match startAll spawner settings first plans children receiver world with
      | (ending, children, receiver, world) => (ending, children, receiver, past.behind world) := by
  induction plans generalizing first children receiver world with
  | nil => rfl
  | cons plan rest ih =>
      rw [startAll_cons, startAll_cons, turn_behind]
      rcases turn settings first receiver world with ⟨caught, receiver', due⟩
      dsimp only
      have scene : (past.behind due).scene = due.scene := rfl
      rw [scene]
      split
      · rfl
      · rw [startOne_behind]
        rcases startOne spawner settings.serverExecutable plan due with ⟨outcome, after⟩
        cases outcome with
        | ok handle => exact ih false (children ++ [(plan.id, handle)]) receiver' after
        | error cause => rfl

theorem launch_behind (past : World σ η) (launcher : Launcher η) (spawner : Spawner σ η)
    (receiver : Receiver) (world : World σ η) :
    launcher.launch spawner receiver (past.behind world) =
      (launcher.launch spawner receiver world).changed past.behind :=
  (past.unnoticed_behind spawner).launch launcher receiver world (startAll_behind ..)

end Launcher

/-- All that a launch can notice agrees: the clock, the channel, the signals to come, and the
    spawner's state. -/
structure World.SameEnvironment (world world' : World σ η) : Prop where
  scene : world.scene = world'.scene
  spawner : world.spawner = world'.spawner

namespace Launcher

/-- Two launches, each from a world of its own, do and log the same and end alike. -/
structure Repeats (world world' : World σ η) (outcome outcome' : Outcome σ η) : Prop where
  result : outcome.result = outcome'.result
  launcher : outcome.launcher = outcome'.launcher
  receiver : outcome.receiver = outcome'.receiver
  environment : outcome.world.SameEnvironment outcome'.world
  events : ∃ events, outcome.world.events = world.events ++ events ∧
    outcome'.world.events = world'.events ++ events
  logs : ∃ logs, outcome.world.logs = world.logs ++ logs ∧
    outcome'.world.logs = world'.logs ++ logs

theorem launch_repeats (launcher : Launcher η) (spawner : Spawner σ η) (receiver : Receiver)
    {world world' : World σ η} (same : world.SameEnvironment world') :
    Repeats world world' (launcher.launch spawner receiver world)
      (launcher.launch spawner receiver world') := by
  have bare : world.bare = world'.bare := by
    unfold World.bare
    rw [same.scene, same.spawner]
  -- Both launches are that of the bare world, each with its own records in front.
  have launched : launcher.launch spawner receiver world =
      (launcher.launch spawner receiver world.bare).changed world.behind := by
    rw [← launch_behind, world.behind_bare]
  have launched' : launcher.launch spawner receiver world' =
      (launcher.launch spawner receiver world.bare).changed world'.behind := by
    rw [← launch_behind, bare, world'.behind_bare]
  rw [launched, launched']
  exact ⟨rfl, rfl, rfl, ⟨rfl, rfl⟩, ⟨_, rfl, rfl⟩, ⟨_, rfl, rfl⟩⟩

/-- The launcher has the blueprint of its request, and once it holds no replica, it launches as
    a launcher does that was set up anew for this request. -/
structure AsGoodAsNew (settings : Settings) (population : UInt8) (failRate : Option Binary64)
    (spawner : Spawner σ η) (launcher : Launcher η) : Prop where
  planned : Blueprint.ofRequest settings population failRate = .ok launcher.blueprint
  configured : launcher.blueprint.settings = settings
  relaunch : launcher.launched = 0 →
    ∀ fresh, setup settings population failRate = .ok fresh →
    ∀ receiver (world world' : World σ η), world.SameEnvironment world' →
      Repeats world world' (launcher.launch spawner receiver world)
        (fresh.launch spawner receiver world')

/-- A launcher from a checked request is as good as new after every history. -/
theorem asGoodAsNew_after {settings : Settings} {population : UInt8}
    {failRate : Option Binary64} {launcher : Launcher η}
    (checked : setup settings population failRate = .ok launcher) (spawner : Spawner σ η)
    (receiver : Receiver) (world : World σ η) (history : List (Move σ)) :
    AsGoodAsNew settings population failRate spawner
      (Rehearsal.after spawner ⟨launcher, receiver, world⟩ history).launcher := by
  obtain ⟨blueprint, request, rfl⟩ := map_eq_ok_iff.1 checked
  let start : Rehearsal σ η := ⟨ofBlueprint blueprint, receiver, world⟩
  have same : (start.after spawner history).launcher.blueprint = blueprint :=
    start.after_blueprint spawner history
  change AsGoodAsNew settings population failRate spawner (start.after spawner history).launcher
  generalize (start.after spawner history).launcher = now at same ⊢
  obtain rfl := same
  refine ⟨request, Blueprint.ofRequest_settings request, ?_⟩
  intro emptied fresh setUp receiver world world' environment
  rw [checked, Except.ok.injEq] at setUp
  obtain ⟨blueprint, children⟩ := now
  obtain rfl : children = [] := List.eq_nil_of_length_eq_zero emptied
  rw [← setUp]
  exact launch_repeats _ spawner receiver environment

/-- Three replicas: a launch in which the last one fails to start and the first to stop, a
    launch that a signal cuts short, and a complete one with a run behind it. -/
theorem asGoodAsNew_three_replicas :
    ∃ launcher : Launcher ReplicaId, setup Settings.standard 3 none = .ok launcher ∧
      let world : World Script ReplicaId := .fresh .fresh ⟨[2], [0], []⟩
      let history : List (Move Script) := [.step .launch, .step (.prepare ⟨[], [], []⟩),
        .step (.after 3000 (.send true)), .step .launch, .step .launch, .step (.signal .close),
        .step .run]
      let now := Rehearsal.after scriptedSpawner ⟨launcher, .fresh, world⟩ history
      now.launcher.launched = 0 ∧
        AsGoodAsNew Settings.standard 3 none scriptedSpawner now.launcher := by
  let world : World Script ReplicaId := .fresh .fresh ⟨[2], [0], []⟩
  let history : List (Move Script) := [.step .launch, .step (.prepare ⟨[], [], []⟩),
    .step (.after 3000 (.send true)), .step .launch, .step .launch, .step (.signal .close),
    .step .run]
  obtain ⟨launcher, checked, emptied⟩ : ∃ launcher : Launcher ReplicaId,
      setup Settings.standard 3 none = .ok launcher ∧
        ((Rehearsal.after scriptedSpawner ⟨launcher, .fresh, world⟩ history).launcher.launched ==
          0) = true := exists_of_any (by decide)
  exact ⟨launcher, checked, beq_iff_eq.1 emptied,
    asGoodAsNew_after checked scriptedSpawner .fresh world history⟩

end Launcher

end ClusterLaunch
