import ClusterLaunch.Launcher.Rehearsal
import ClusterLaunch.Proofs.Launcher.Planning
import ClusterLaunch.Proofs.Launcher.Starting

/-! # Histories of a launcher

A history is any row of moves with one launcher, over any spawner: launches, runs and
sweeps, with signals and time between them. The main result is that a launcher never
rests half started: between two moves it holds no replica at all, or every one of its
replicas in the order of their numbers.
-/

namespace ClusterLaunch

variable {σ η : Type}

/-- One move in the history of a launcher. -/
inductive Move (σ : Type) where
  /-- A step as rehearsals know it. -/
  | step (step : RehearsalStep σ)
  /-- A run that is given up, if it still waits, after some milliseconds. -/
  | runFor (patience : Nat)
  /-- The caller goes on with another receiver of the same channel. -/
  | receive (receiver : Receiver)
  deriving Repr, DecidableEq

namespace Rehearsal

def move (spawner : Spawner σ η) (rehearsal : Rehearsal σ η) : Move σ → Rehearsal σ η
  | .step step => (rehearsal.perform spawner step).2
  | .runFor patience =>
      let (_, launcher, world) :=
        rehearsal.launcher.run spawner rehearsal.receiver patience rehearsal.world
      { rehearsal with launcher, world }
  | .receive receiver => { rehearsal with receiver }

/-- Make the moves of a history in order. -/
def after (spawner : Spawner σ η) (rehearsal : Rehearsal σ η) (history : List (Move σ)) :
    Rehearsal σ η :=
  history.foldl (move spawner) rehearsal

@[simp]
theorem after_nil (spawner : Spawner σ η) (rehearsal : Rehearsal σ η) :
    rehearsal.after spawner [] = rehearsal := rfl

@[simp]
theorem after_cons (spawner : Spawner σ η) (rehearsal : Rehearsal σ η) (move : Move σ)
    (history : List (Move σ)) :
    rehearsal.after spawner (move :: history) =
      (rehearsal.move spawner move).after spawner history := rfl

/-- A property of the launcher holds after every history if a launch, a run and a
    sweep keep it; whatever else happens leaves the launcher alone. -/
theorem after_launcher {spawner : Spawner σ η} (holds : Launcher η → Prop)
    (launch : ∀ launcher receiver (world : World σ η), holds launcher →
      holds (launcher.launch spawner receiver world).launcher)
    (run : ∀ launcher receiver patience (world : World σ η), holds launcher →
      holds (launcher.run spawner receiver patience world).2.1)
    (sweep : ∀ launcher (world : World σ η), holds launcher →
      holds (launcher.terminateAll spawner world).1)
    {rehearsal : Rehearsal σ η} (start : holds rehearsal.launcher) (history : List (Move σ)) :
    holds (rehearsal.after spawner history).launcher := by
  induction history generalizing rehearsal with
  | nil => exact start
  | cons move rest ih =>
      rw [after_cons]
      apply ih
      cases move with
      | receive receiver => exact start
      | runFor patience => exact run _ _ _ rehearsal.world start
      | step step =>
          cases step with
          | launch => exact launch _ _ _ start
          | run => exact run _ _ _ rehearsal.world start
          | terminateAll => exact sweep _ rehearsal.world start
          | signal | sleep | after | prepare => exact start

theorem after_blueprint (spawner : Spawner σ η) (rehearsal : Rehearsal σ η)
    (history : List (Move σ)) :
    (rehearsal.after spawner history).launcher.blueprint = rehearsal.launcher.blueprint := by
  refine after_launcher (fun launcher => launcher.blueprint = rehearsal.launcher.blueprint)
    ?_ ?_ (fun _ _ same => same) rfl history
  · intro launcher receiver world same
    have rules := launcher.launch_launching spawner receiver world
    generalize launcher.launch spawner receiver world = outcome at rules ⊢
    cases rules <;> exact same
  · intro launcher receiver patience world same
    have rules := launcher.run_running spawner receiver patience world
    generalize launcher.run spawner receiver patience world = ended at rules ⊢
    cases rules <;> exact same

end Rehearsal

namespace Launcher

/-- Every replica below the population is started, in ascending order. -/
def Full (population : UInt8) (launcher : Launcher η) : Prop :=
  launcher.children.map Prod.fst = replicaIds population

/-- No replica is started, or every one. -/
def EmptyOrFull (population : UInt8) (launcher : Launcher η) : Prop :=
  launcher.children = [] ∨ launcher.Full population

/-- The plans are for the replicas below the population, of which there is one at least,
    and none of them is started unless all are. -/
structure Settled (population : UInt8) (launcher : Launcher η) : Prop where
  populated : 0 < population.toNat
  planned : launcher.blueprint.plans.map LaunchPlan.id = replicaIds population
  shape : launcher.EmptyOrFull population

theorem settled_of_setup {settings : Settings} {population : UInt8}
    {failRate : Option Binary64} {launcher : Launcher η}
    (h : setup settings population failRate = .ok launcher) : launcher.Settled population := by
  obtain ⟨blueprint, request, rfl⟩ := map_eq_ok_iff.1 h
  exact ⟨Blueprint.ofRequest_populated request, Blueprint.ofRequest_ids request, .inl rfl⟩

theorem Settled.emptied {population : UInt8} {launcher : Launcher η}
    (h : launcher.Settled population) :
    ({ launcher with children := [] } : Launcher η).Settled population :=
  ⟨h.populated, h.planned, .inl rfl⟩

theorem Settled.full_iff {population : UInt8} {launcher : Launcher η}
    (h : launcher.Settled population) : launcher.Full population ↔ launcher.children ≠ [] := by
  constructor
  · intro full none
    have count := congrArg List.length full
    simp only [none, List.map_nil, List.length_nil, length_replicaIds] at count
    have := h.populated
    omega
  · intro busy
    exact h.shape.resolve_left busy

theorem EmptyOrFull.launched {population : UInt8} {launcher : Launcher η}
    (h : launcher.EmptyOrFull population) :
    launcher.launched = 0 ∨ launcher.launched = population.toNat := by
  unfold Launcher.launched
  rcases h with none | full
  · left
    rw [none, List.length_nil]
  · right
    have count := congrArg List.length full
    simpa only [List.length_map, length_replicaIds] using count

/-- What a launch owes to its caller, from the launcher, receiver and world before it. -/
structure LaunchAccount (population : UInt8) (launcher : Launcher η) (receiver : Receiver)
    (world : World σ η) (outcome : Outcome σ η) : Prop where
  complete : outcome.result = .ok true →
    launcher.children = [] ∧ outcome.launcher.Full population
  interrupted : outcome.result = .ok false → outcome.launcher.children = []
  failed : ∀ id addresses cause, outcome.result = .error (.startFailed id addresses cause) →
    outcome.launcher.children = []
  refused : outcome.result = .error .alreadyLaunched ↔ launcher.Full population
  untouched : outcome.result = .error .alreadyLaunched →
    outcome.launcher = launcher ∧ outcome.receiver = receiver ∧
      outcome.world = world.log .error "cluster already launched"

theorem launch_account {population : UInt8} {launcher : Launcher η}
    (h : launcher.Settled population) (spawner : Spawner σ η) (receiver : Receiver)
    (world : World σ η) :
    LaunchAccount population launcher receiver world (launcher.launch spawner receiver world) := by
  have full := h.full_iff
  have rules := launch_launching launcher spawner receiver world
  generalize launcher.launch spawner receiver world = outcome at rules ⊢
  cases rules with
  | refused busy =>
      exact ⟨nofun, nofun, nofun, by simpa using full.2 busy, fun _ => ⟨rfl, rfl, rfl⟩⟩
  | failed idle =>
      exact ⟨nofun, nofun, fun _ _ _ _ => rfl, by simpa using fun busy => full.1 busy idle, nofun⟩
  | interrupted idle =>
      exact ⟨nofun, fun _ => rfl, nofun, by simpa using fun busy => full.1 busy idle, nofun⟩
  | complete idle starting =>
      have ids := starting.ids_of_complete.trans h.planned
      exact ⟨fun _ => ⟨idle, ids⟩, nofun, nofun, by simpa using fun busy => full.1 busy idle, nofun⟩

theorem Settled.launch {population : UInt8} {launcher : Launcher η}
    (h : launcher.Settled population) (spawner : Spawner σ η) (receiver : Receiver)
    (world : World σ η) : (launcher.launch spawner receiver world).launcher.Settled population := by
  have rules := launch_launching launcher spawner receiver world
  generalize launcher.launch spawner receiver world = outcome at rules ⊢
  cases rules with
  | refused => exact h
  | failed | interrupted => exact h.emptied
  | complete _ starting =>
      exact ⟨h.populated, h.planned, .inr (starting.ids_of_complete.trans h.planned)⟩

theorem Settled.run {population : UInt8} {launcher : Launcher η}
    (h : launcher.Settled population) (spawner : Spawner σ η) (receiver : Receiver)
    (patience : Nat) (world : World σ η) :
    (launcher.run spawner receiver patience world).2.1.Settled population := by
  have rules := run_running launcher spawner receiver patience world
  generalize launcher.run spawner receiver patience world = ended at rules ⊢
  cases rules with
  | parked => exact h
  | caught | closed => exact h.emptied

theorem Settled.after {population : UInt8} {rehearsal : Rehearsal σ η}
    (h : rehearsal.launcher.Settled population) (spawner : Spawner σ η)
    (history : List (Move σ)) :
    (rehearsal.after spawner history).launcher.Settled population :=
  Rehearsal.after_launcher (Settled population)
    (fun _ receiver world settled => settled.launch spawner receiver world)
    (fun _ receiver patience world settled => settled.run spawner receiver patience world)
    (fun _ _ settled => settled.emptied) h history

/-- What holds of a launcher at rest, and of every operation that can come next. -/
structure AllOrNothing (population : UInt8) (spawner : Spawner σ η)
    (now : Rehearsal σ η) : Prop where
  shape : now.launcher.EmptyOrFull population
  launched : now.launcher.launched = 0 ∨ now.launcher.launched = population.toNat
  launch : ∀ receiver, LaunchAccount population now.launcher receiver now.world
    (now.launcher.launch spawner receiver now.world)
  run : ∀ receiver patience,
    match now.launcher.run spawner receiver patience now.world with
    | (.done, launcher, _) => launcher.children = []
    | (.parked, launcher, _) => launcher = now.launcher
  terminateAll : (now.launcher.terminateAll spawner now.world).1.children = []

/-- A launcher from a checked request is never half started between two moves: this holds
    after every history, so it holds before and after each of its moves. -/
theorem allOrNothing_after {settings : Settings} {population : UInt8}
    {failRate : Option Binary64} {launcher : Launcher η}
    (checked : setup settings population failRate = .ok launcher) (spawner : Spawner σ η)
    (receiver : Receiver) (world : World σ η) (history : List (Move σ)) :
    AllOrNothing population spawner
      (Rehearsal.after spawner ⟨launcher, receiver, world⟩ history) := by
  let start : Rehearsal σ η := ⟨launcher, receiver, world⟩
  have settled : (start.after spawner history).launcher.Settled population :=
    (settled_of_setup checked : start.launcher.Settled population).after spawner history
  change AllOrNothing population spawner (start.after spawner history)
  generalize start.after spawner history = now at settled ⊢
  refine ⟨settled.shape, settled.shape.launched, fun receiver => launch_account settled _ _ _,
    ?_, rfl⟩
  intro receiver patience
  have rules := run_running now.launcher spawner receiver patience now.world
  generalize now.launcher.run spawner receiver patience now.world = ended at rules ⊢
  cases rules <;> rfl

/-- A launcher of three replicas, one of which fails to start at first and to stop later. -/
theorem allOrNothing_three_replicas :
    ∃ launcher : Launcher ReplicaId, setup Settings.standard 3 none = .ok launcher ∧
      AllOrNothing 3 scriptedSpawner
        (Rehearsal.after scriptedSpawner ⟨launcher, .fresh, .fresh .fresh ⟨[2], [0], []⟩⟩
          [.step .launch, .step (.prepare ⟨[], [0], []⟩), .step .launch, .runFor 5,
            .step (.signal (.send false)), .step .run]) := by
  obtain ⟨launcher, checked⟩ : ∃ launcher : Launcher ReplicaId,
      setup Settings.standard 3 none = .ok launcher := exists_of_isOk (by decide)
  exact ⟨launcher, checked, allOrNothing_after checked _ _ _ _⟩

end Launcher

end ClusterLaunch
