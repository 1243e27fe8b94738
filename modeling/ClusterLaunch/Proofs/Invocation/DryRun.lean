import ClusterLaunch.Invocation.Console
import ClusterLaunch.Launcher.Rehearsal
import ClusterLaunch.Proofs.Invocation.Composition
import ClusterLaunch.Proofs.Launcher.Planning
import ClusterLaunch.Proofs.Launcher.Record
import ClusterLaunch.Proofs.Shell.Line

/-! # Dry runs

A dry run shows the plans that a launch of the same invocation would hand to its spawner, and
starts nothing. Whatever is wrong with an invocation is found before the two part, so a dry run
succeeds just if the launch comes to its first start.
-/

namespace ClusterLaunch

variable {σ η : Type}

namespace Session

theorem launch_swept (launcher : Launcher η) (spawner : Spawner σ η) (patience : Nat)
    (world : World σ η) :
    ∃ entries, Swept spawner (launcher.launch spawner .fresh world).world
      (launch launcher spawner patience world).world entries := by
  unfold launch
  generalize launcher.launch spawner .fresh world = outcome
  obtain ⟨result, launched, receiver, world⟩ := outcome
  cases result with
  | error error => exact ⟨[], .nothing rfl rfl⟩
  | ok whole =>
      cases whole with
      | false => exact ⟨[], .nothing rfl rfl⟩
      | true =>
          have rules := Launcher.run_running launched spawner receiver patience world
          dsimp only
          generalize launched.run spawner receiver patience world = ended at rules ⊢
          cases rules with
          | parked => exact ⟨[], .nothing rfl rfl⟩
          | caught | closed =>
              exact ⟨_, (Launcher.release_swept launched spawner _).later rfl rfl⟩

end Session

/-- The record by which a dry run shows a plan. -/
def LaunchPlan.shown (plan : LaunchPlan) (executable : String) : LogRecord :=
  ⟨.info, s!"{plan}: {plan.commandLine executable}"⟩

namespace Session

theorem showPlans_eq (executable : String) (world : World σ η) (plans : List LaunchPlan) :
    showPlans executable world plans =
      { world with logs := world.logs ++ plans.map (·.shown executable) } := by
  induction plans generalizing world with
  | nil => simp [showPlans]
  | cons plan rest ih =>
      rw [showPlans, ih]
      simp [World.log, LaunchPlan.shown]

private theorem prepare_dryRun (invocation : Invocation) (dryRun : Bool) :
    (prepare { invocation with dryRun } : Except SessionError (Launcher η)) =
      prepare invocation := rfl

private theorem prepare_of_refused {invocation : Invocation} {error : RequestError}
    (refused : LaunchRequest.ofInvocation invocation = .error error) :
    (prepare invocation : Except SessionError (Launcher η)) = .error (.request error) := by
  rw [prepare, refused]
  rfl

theorem prepare_of_request {invocation : Invocation} {request : LaunchRequest}
    (accepted : LaunchRequest.ofInvocation invocation = .ok request) :
    (prepare invocation : Except SessionError (Launcher η)) =
      (Launcher.setup request.settings request.population request.failRate).mapError .setup := by
  rw [prepare, accepted]
  rfl

theorem ofInvocation_of_error {invocation : Invocation} {error : SessionError}
    (fault : (prepare invocation : Except SessionError (Launcher η)) = .error error)
    (dryRun : Bool) (facilities : Facilities) (spawner : Spawner σ η) (patience : Nat)
    (world : World σ η) :
    ofInvocation { invocation with dryRun } facilities spawner patience world =
      failed error world := by
  rw [ofInvocation, prepare_dryRun, fault]

theorem ofInvocation_dry {invocation : Invocation} {launcher : Launcher η}
    (prepared : prepare invocation = .ok launcher) (facilities : Facilities)
    (spawner : Spawner σ η) (patience : Nat) (world : World σ η) :
    ofInvocation { invocation with dryRun := true } facilities spawner patience world =
      ⟨.exited 0, { world with logs := world.logs ++
        launcher.blueprint.plans.map (·.shown launcher.blueprint.settings.serverExecutable) }⟩ := by
  rw [ofInvocation, prepare_dryRun, prepared, ← showPlans_eq]
  rfl

theorem ofInvocation_granted {invocation : Invocation} {launcher : Launcher η}
    (prepared : prepare invocation = .ok launcher) {facilities : Facilities}
    (granted : facilities.granted = .ok ()) (spawner : Spawner σ η) (patience : Nat)
    (world : World σ η) :
    ofInvocation { invocation with dryRun := false } facilities spawner patience world =
      launch launcher spawner patience world := by
  rw [ofInvocation, prepare_dryRun, prepared]
  simp [granted]

theorem ofInvocation_denied {invocation : Invocation} {launcher : Launcher η}
    (prepared : prepare invocation = .ok launcher) {facilities : Facilities} {cause : String}
    (denied : facilities.granted = .error cause) (spawner : Spawner σ η) (patience : Nat)
    (world : World σ η) :
    ofInvocation { invocation with dryRun := false } facilities spawner patience world =
      failed (.system cause) world := by
  rw [ofInvocation, prepare_dryRun, prepared]
  simp [denied]

/-- The session is over before anything is started, and its one record carries the error. -/
structure Fails (arguments : List String) (invocation : Invocation) (facilities : Facilities)
    (spawner : Spawner σ η) (patience : Nat) (world : World σ η) (message : String) : Prop where
  session : ∀ dryRun,
    ofInvocation { invocation with dryRun } facilities spawner patience world =
      ⟨.exited 1, world.log .error s!"launcher_main exited: {message}"⟩
  transcript : ∀ {σ η : Type} (system : System σ η) (scene : Scene) (state : σ),
    Console.transcript (.ofSetting none) arguments system patience scene state =
      ⟨some 1, "", LogRecord.written ⟨.error, s!"launcher_main exited: {message}"⟩
        Console.identity⟩

/-- The dry run shows every replica just as a launch would hand it over, and does no more. -/
structure Shows (arguments : List String) (invocation : Invocation) (request : LaunchRequest)
    (launcher : Launcher η) (facilities : Facilities) (spawner : Spawner σ η) (patience : Nat)
    (world : World σ η) : Prop where
  population : (request.population.toNat : Int) = invocation.replicas
  ids : launcher.blueprint.plans.map LaunchPlan.id = replicaIds request.population
  session : ofInvocation { invocation with dryRun := true } facilities spawner patience world =
    ⟨.exited 0, { world with logs := world.logs ++
      launcher.blueprint.plans.map (·.shown request.settings.serverExecutable) }⟩
  transcript : invocation.dryRun = true →
    ∀ {σ η : Type} (system : System σ η) (scene : Scene) (state : σ),
    Console.transcript (.ofSetting none) arguments system patience scene state =
      ⟨some 0, "", String.join (launcher.blueprint.plans.map fun plan =>
        (plan.shown request.settings.serverExecutable).written Console.identity)⟩
  /-- A command line has just one reading, as the executable and the arguments. -/
  words : ∀ plan ∈ launcher.blueprint.plans, ∃ found,
    (∀ reading, Shell.LineSpelled
      (plan.commandLine request.settings.serverExecutable).toList reading ↔ reading = found) ∧
    found.map Shell.Word.text =
      (request.settings.serverExecutable :: plan.arguments).map String.toList
  /-- Whenever the launcher launches, its attempts are for the first plans, with their numbers
      and arguments, and for all of them if the launch is complete. -/
  handed : ∀ (receiver : Receiver) (before : World σ η), ∃ made : List (Attempt σ η),
    Attempted spawner before (launcher.launch spawner receiver before).world
      (made.map (Attempt.event request.settings.serverExecutable)) ∧
    made.map Attempt.plan <+: launcher.blueprint.plans ∧
    ((launcher.launch spawner receiver before).result = .ok true →
      made.map Attempt.plan = launcher.blueprint.plans)
  /-- What a spawner keeps of such a launch are the same executables and arguments. -/
  noted : ∀ (receiver : Receiver) (before : World (σ × List Order) η), ∃ orders,
    (launcher.launch spawner.noting receiver before).world.spawner.2 =
      before.spawner.2 ++ orders ∧
    orders <+: launcher.blueprint.plans.map (·.order request.settings.serverExecutable) ∧
    ((launcher.launch spawner.noting receiver before).result = .ok true →
      orders = launcher.blueprint.plans.map (·.order request.settings.serverExecutable))

/-- What a dry run has to do with the launch of the same invocation. -/
structure Faithful (arguments : List String) (invocation : Invocation) (facilities : Facilities)
    (spawner : Spawner σ η) (patience : Nat) (world : World σ η) : Prop where
  refused : ∀ error, LaunchRequest.ofInvocation invocation = .error error →
    Fails arguments invocation facilities spawner patience world error.message
  unplanned : ∀ request error, LaunchRequest.ofInvocation invocation = .ok request →
    (Launcher.setup request.settings request.population request.failRate :
      Except SetupError (Launcher η)) = .error error →
    Fails arguments invocation facilities spawner patience world error.message
  planned : ∀ request launcher, LaunchRequest.ofInvocation invocation = .ok request →
    Launcher.setup request.settings request.population request.failRate = .ok launcher →
    Shows arguments invocation request launcher facilities spawner patience world
  /-- On a system that grants what a launch needs and without a signal, the launch comes to a
      start just if the dry run succeeds. -/
  starts_iff : facilities.granted = .ok () → Receiver.fresh.hasUnseen world.scene.channel = false →
    ((ofInvocation { invocation with dryRun := true } facilities spawner patience world).ending =
        .exited 0 ↔
      ∃ attempts, attempts ≠ [] ∧ Attempted spawner world
        (ofInvocation { invocation with dryRun := false } facilities spawner patience world).world
          attempts)
  /-- On a system that does not, the launch says why and starts nothing. -/
  denied : ∀ cause, facilities.granted = .error cause →
    (ofInvocation { invocation with dryRun := true } facilities spawner patience world).ending =
      .exited 0 →
    ofInvocation { invocation with dryRun := false } facilities spawner patience world =
      ⟨.exited 1, world.log .error s!"launcher_main exited: {cause}"⟩

section

variable {arguments : List String} {invocation : Invocation}

theorem transcript_of_accepted (accepted : Invocation.ofArguments arguments = .ok invocation)
    {dryRun : Bool} (same : invocation.dryRun = dryRun) (filter : LogFilter)
    (system : System σ η) (patience : Nat) (scene : Scene) (state : σ) :
    Console.transcript filter arguments system patience scene state =
      Console.ofSession filter (ofInvocation { invocation with dryRun } system.facilities
        system.spawner patience (World.fresh scene state)) := by
  rw [Console.transcript, accepted, ← same]

private theorem logText_shown (executable : String) (plans : List LaunchPlan) :
    Console.logText (.ofSetting none) (plans.map (·.shown executable)) =
      String.join (plans.map fun plan => (plan.shown executable).written Console.identity) := by
  have shows : (plans.map (·.shown executable)).filter
      (fun record => LogFilter.shows (.ofSetting none) record.level) =
        plans.map (·.shown executable) := by
    refine List.filter_eq_self.2 ?_
    intro record member
    obtain ⟨plan, -, rfl⟩ := List.mem_map.1 member
    rfl
  rw [Console.logText, shows, List.map_map]
  rfl

theorem fails_of_error {error : SessionError}
    (accepted : Invocation.ofArguments arguments = .ok invocation)
    (fault : ∀ η : Type, (prepare invocation : Except SessionError (Launcher η)) = .error error)
    (facilities : Facilities) (spawner : Spawner σ η) (patience : Nat) (world : World σ η) :
    Fails arguments invocation facilities spawner patience world error.message := by
  refine ⟨fun dryRun => ofInvocation_of_error (fault η) dryRun facilities spawner patience world,
    ?_⟩
  intro σ' η' system scene state
  rw [transcript_of_accepted accepted rfl, ofInvocation_of_error (fault η')]
  simp [Console.ofSession, Console.logText, failed, World.log, World.fresh, LogFilter.ofSetting,
    LogFilter.shows, LogLevel.detail, String.join]

theorem setup_eq_error_iff {settings : Settings} {population : UInt8}
    {failRate : Option Binary64} {error : SetupError} :
    (Launcher.setup settings population failRate : Except SetupError (Launcher η)) =
        .error error ↔ Blueprint.ofRequest settings population failRate = .error error :=
  map_eq_error_iff

private theorem shows_of_ok {request : LaunchRequest} {launcher : Launcher η}
    (accepted : Invocation.ofArguments arguments = .ok invocation)
    (sound : LaunchRequest.ofInvocation invocation = .ok request)
    (planned : Launcher.setup request.settings request.population request.failRate =
      .ok launcher) (facilities : Facilities) (spawner : Spawner σ η) (patience : Nat)
    (world : World σ η) :
    Shows arguments invocation request launcher facilities spawner patience world := by
  obtain ⟨blueprint, checked, rfl⟩ := map_eq_ok_iff.1 planned
  have same := Blueprint.ofRequest_settings checked
  have prepared (η : Type) :
      prepare invocation = .ok (Launcher.ofBlueprint blueprint : Launcher η) := by
    rw [prepare_of_request sound, Launcher.setup, checked]
    rfl
  have composes := LaunchRequest.ofInvocation_eq_ok_iff.1 sound
  refine ⟨composes.population, Blueprint.ofRequest_ids checked, ?_, ?_, ?_, ?_, ?_⟩
  · rw [ofInvocation_dry (prepared η), ← same]
    rfl
  · intro dry σ' η' system scene state
    rw [transcript_of_accepted accepted dry, ofInvocation_dry (prepared η'), ← same]
    exact congrArg (Transcript.mk (some 0) "") (logText_shown _ _)
  · intro plan _
    exact ⟨_, fun _ => (plan.commandLine_spelled _).reading_iff, Shell.map_text_letters _⟩
  · intro receiver before
    obtain ⟨made, attempted, first, all, -⟩ :=
      (Launcher.ofBlueprint blueprint).launch_orders rfl spawner receiver before
    rw [← same]
    exact ⟨made, attempted, first, all⟩
  · intro receiver before
    obtain ⟨made, attempted, first, all, -⟩ :=
      (Launcher.ofBlueprint blueprint).launch_orders rfl spawner.noting receiver before
    rw [← same]
    refine ⟨_, attempted.noted, first.map _, ?_⟩
    intro complete
    exact congrArg _ (all complete)

private theorem launcher_of_prepare {launcher : Launcher η}
    (prepared : prepare invocation = .ok launcher) :
    launcher.children = [] ∧ launcher.blueprint.plans ≠ [] := by
  obtain ⟨request, -, h⟩ := bind_eq_ok_iff.1 prepared
  obtain ⟨blueprint, checked, rfl⟩ := map_eq_ok_iff.1 (mapError_eq_ok_iff.1 h)
  exact ⟨rfl, Blueprint.plans_ne_nil checked⟩

private theorem starts_iff_of_prepare {facilities : Facilities}
    (granted : facilities.granted = .ok ())
    (spawner : Spawner σ η) (patience : Nat) {world : World σ η}
    (nothing : Receiver.fresh.hasUnseen world.scene.channel = false) :
    (ofInvocation { invocation with dryRun := true } facilities spawner patience world).ending =
        .exited 0 ↔
      ∃ attempts, attempts ≠ [] ∧ Attempted spawner world
        (ofInvocation { invocation with dryRun := false } facilities spawner patience world).world
          attempts := by
  cases prepared : (prepare invocation : Except SessionError (Launcher η)) with
  | error error =>
      rw [ofInvocation_of_error prepared, ofInvocation_of_error prepared]
      refine iff_of_false nofun ?_
      rintro ⟨attempts, some, attempted⟩
      exact some (attempted.unique (.nothing rfl rfl))
  | ok launcher =>
      rw [ofInvocation_dry prepared, ofInvocation_granted prepared granted]
      obtain ⟨idle, planned⟩ := launcher_of_prepare prepared
      obtain ⟨made, attempted, -, -, started⟩ :=
        launcher.launch_orders idle spawner .fresh world
      obtain ⟨entries, swept⟩ := launch_swept launcher spawner patience world
      refine iff_of_true rfl ⟨_, ?_, attempted.swept swept⟩
      simpa using started planned nothing

private theorem denied_of_prepare {facilities : Facilities} {cause : String}
    (denied : facilities.granted = .error cause) (spawner : Spawner σ η) (patience : Nat)
    {world : World σ η}
    (shown : (ofInvocation { invocation with dryRun := true } facilities spawner patience
      world).ending = .exited 0) :
    ofInvocation { invocation with dryRun := false } facilities spawner patience world =
      failed (.system cause) world := by
  cases prepared : (prepare invocation : Except SessionError (Launcher η)) with
  | error error =>
      rw [ofInvocation_of_error prepared] at shown
      exact nomatch shown
  | ok launcher => exact ofInvocation_denied prepared denied spawner patience world

/-- A dry run is faithful to the launch of the same invocation, whatever the command line and
    the system. -/
theorem dryRun_faithful (accepted : Invocation.ofArguments arguments = .ok invocation)
    (facilities : Facilities) (spawner : Spawner σ η) (patience : Nat) (world : World σ η) :
    Faithful arguments invocation facilities spawner patience world := by
  refine ⟨?_, ?_, ?_, fun granted => starts_iff_of_prepare granted spawner patience,
    fun cause denied => denied_of_prepare denied spawner patience⟩
  · intro error refused
    exact fails_of_error accepted (fun _ => prepare_of_refused refused) facilities spawner
      patience world
  · intro request error sound fault
    have unplanned (η : Type) :
        (prepare invocation : Except SessionError (Launcher η)) = .error (.setup error) := by
      rw [prepare_of_request sound, setup_eq_error_iff.2 (setup_eq_error_iff.1 fault)]
      rfl
    exact fails_of_error accepted unplanned facilities spawner patience world
  · intro request launcher sound planned
    exact shows_of_ok accepted sound planned facilities spawner patience world

/-- Three replicas, the second of which would fail to start. -/
theorem dryRun_faithful_three_replicas :
    ∃ invocation, Invocation.ofArguments ["3", "--dry-run"] = .ok invocation ∧
      (prepare invocation : Except SessionError (Launcher ReplicaId)).isOk = true ∧
      Faithful ["3", "--dry-run"] invocation ⟨.ok (), .ok ()⟩ scriptedSpawner 0
        (.fresh .fresh ⟨[1], [], []⟩) := by
  obtain ⟨invocation, accepted, prepared⟩ : ∃ invocation,
      Invocation.ofArguments ["3", "--dry-run"] = .ok invocation ∧
        (prepare invocation : Except SessionError (Launcher ReplicaId)).isOk = true :=
    exists_of_any (by decide)
  exact ⟨invocation, accepted, prepared,
    dryRun_faithful accepted ⟨.ok (), .ok ()⟩ scriptedSpawner 0 _⟩

end

end Session

end ClusterLaunch
