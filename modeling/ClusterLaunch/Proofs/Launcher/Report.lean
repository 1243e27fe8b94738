import ClusterLaunch.Proofs.Launcher.Course
import ClusterLaunch.Proofs.Launcher.Handles

/-! # What is logged of a launch

The log of a launch goes along with its record: two lines for each start attempt, then its last
words, and within them the lines of the dismissals. The numbers in the last words count what the
record shows, although by then no child may be left.
-/

namespace ClusterLaunch

variable {σ η : Type}

namespace Attempt

/-- What is logged before the attempt is made. -/
def records (executable : String) (attempt : Attempt σ η) : List LogRecord :=
  [⟨.info, s!"starting {attempt.plan}"⟩,
    ⟨.debug, s!"  {attempt.plan.commandLine executable}"⟩]

/-- The replica that the attempt has started, if it went well. -/
def started? (attempt : Attempt σ η) : Option (ReplicaId × η) :=
  attempt.outcome.toOption.map fun handle => (attempt.plan.id, handle)

private theorem started?_event (executable : String) (attempt : Attempt σ η) :
    (attempt.event executable).started? = attempt.started? := by
  unfold event started?
  cases attempt.outcome <;> rfl

end Attempt

/-- The replicas that some attempts have started, in order. -/
def startedBy (made : List (Attempt σ η)) : List (ReplicaId × η) :=
  made.filterMap Attempt.started?

private theorem startedIn_events (executable : String) (made : List (Attempt σ η)) :
    startedIn (made.map (Attempt.event executable)) = startedBy made := by
  unfold startedIn startedBy
  rw [List.filterMap_map]
  refine List.filterMap_congr ?_
  intro attempt _
  exact attempt.started?_event executable

theorem length_startedBy {made : List (Attempt σ η)}
    (whole : ∀ attempt ∈ made, ∃ handle, attempt.outcome = .ok handle) :
    (startedBy made).length = made.length := by
  induction made with
  | nil => rfl
  | cons attempt rest ih =>
      obtain ⟨⟨handle, outcome⟩, others⟩ := List.forall_mem_cons.1 whole
      have first : attempt.started? = some (attempt.plan.id, handle) := by
        rw [Attempt.started?, outcome]
        rfl
      rw [startedBy, List.filterMap_cons_some first, List.length_cons, List.length_cons]
      exact congrArg Nat.succ (ih others)

namespace Launcher

section

variable {spawner : Spawner σ η} {settings : Settings} {receiver receiver' : Receiver}
  {first : Bool} {plans : List LaunchPlan} {world world' : World σ η}
  {made : List (Attempt σ η)} {ending : StartsEnd}

theorem nextAttempt_logs (spawner : Spawner σ η) (settings : Settings) (first : Bool)
    (plan : LaunchPlan) (world : World σ η) :
    (nextAttempt spawner settings first plan world).after.logs =
      world.logs ++
        (nextAttempt spawner settings first plan world).records settings.serverExecutable := by
  have due : (dueWorld settings first world).logs = world.logs := by
    unfold dueWorld
    split <;> rfl
  rw [← due, Attempt.records, List.append_cons]
  rfl

theorem Trail.logs
    (h : Trail spawner settings receiver first plans world made ending receiver' world') :
    world'.logs = world.logs ++ made.flatMap (Attempt.records settings.serverExecutable) := by
  induction h with
  | complete | checked | caught => simp
  | failed => rw [nextAttempt_logs, List.flatMap_singleton]
  | started _ _ _ ih => rw [ih, nextAttempt_logs, List.flatMap_cons, List.append_assoc]

theorem Trail.spawner_eq
    (h : Trail spawner settings receiver first plans world made ending receiver' world') :
    world'.spawner = (worldAfter world made).spawner := by
  induction h with
  | complete | checked | caught | failed => rfl
  | started _ _ _ ih => exact ih

theorem Starting.attempts {started : List (ReplicaId × η)}
    (h : Starting spawner settings first plans receiver world ending started receiver' world') :
    ∃ made, Trail spawner settings receiver first plans world made ending receiver' world' ∧
      startedBy made = started := by
  obtain ⟨made, trail⟩ := h.trail
  obtain ⟨events, record, same, -⟩ := h.record
  rw [trail.asked.record] at record
  refine ⟨made, trail, ?_⟩
  rw [← same, ← List.append_cancel_left record, startedIn_events]

end

/-- The last words of a launch after the attempts that it has made, by its result, with the
    dismissals that they report. -/
inductive LastWords (spawner : Spawner σ η) (blueprint : Blueprint) (world : World σ η)
    (made : List (Attempt σ η)) :
    Except LaunchError Bool → List (Dismissal σ η) → List LogRecord → Prop where
  /-- The error is the last word, and it is what the launch gives back. -/
  | failed {last : Attempt σ η} {cause : String} {error : LaunchError}
      {stops : List (Dismissal σ η)} (final : made.getLast? = some last)
      (failure : last.outcome = .error cause)
      (same : error = .startFailed last.plan.id last.plan.addresses cause)
      (swept : stops =
        spawner.dismissals (startedBy made).reverse (worldAfter world made).spawner) :
      LastWords spawner blueprint world made (.error error) stops
        (stops.flatMap Dismissal.records ++ [⟨.error, error.message⟩])
  /-- The replicas started are dismissed, the one started last first. -/
  | reaped {stops : List (Dismissal σ η)} (reaps : blueprint.settings.reapOnExit = true)
      (whole : ∀ attempt ∈ made, ∃ handle, attempt.outcome = .ok handle)
      (swept : stops =
        spawner.dismissals (startedBy made).reverse (worldAfter world made).spawner) :
      LastWords spawner blueprint world made (.ok false) stops
        (⟨.warn, s!"launcher caught termination signal after " ++
          s!"{made.length} of {blueprint.plans.length} starts"⟩ :: stops.flatMap Dismissal.records)
  | left (keeps : blueprint.settings.reapOnExit = false)
      (whole : ∀ attempt ∈ made, ∃ handle, attempt.outcome = .ok handle) :
      LastWords spawner blueprint world made (.ok false) []
        [⟨.warn, s!"launcher caught termination signal after " ++
          s!"{made.length} of {blueprint.plans.length} starts"⟩,
        ⟨.info, s!"leaving {made.length} replicas running"⟩]
  | complete (whole : ∀ attempt ∈ made, ∃ handle, attempt.outcome = .ok handle)
      (all : made.map Attempt.plan = blueprint.plans) :
      LastWords spawner blueprint world made (.ok true) []
        [⟨.info, s!"all {blueprint.plans.length} replicas launched, client addrs: " ++
          " ".intercalate (blueprint.plans.map fun plan => toString plan.addresses.client)⟩]

/-- What a launch has recorded and logged, by its attempts and the dismissals behind them. -/
structure Reports (launcher : Launcher η) (spawner : Spawner σ η) (world : World σ η)
    (outcome : Outcome σ η) (made : List (Attempt σ η)) (stops : List (Dismissal σ η))
    (words : List LogRecord) : Prop where
  course : made <+: launcher.course spawner world
  ordered : made.map Attempt.plan <+: launcher.blueprint.plans
  asked : Asked spawner world
    (made.map (Attempt.event launcher.blueprint.settings.serverExecutable) ++
      stops.map Dismissal.event) outcome.world
  logs : outcome.world.logs = world.logs ++
    (made.flatMap (Attempt.records launcher.blueprint.settings.serverExecutable) ++ words)
  words : LastWords spawner launcher.blueprint world made outcome.result stops words

section

variable {launcher : Launcher η} {spawner : Spawner σ η} {receiver receiver' : Receiver}
  {world world' : World σ η} {made : List (Attempt σ η)} {ending : StartsEnd}

theorem Trail.reports {stops : List (Dismissal σ η)} {words : List LogRecord}
    {outcome : Outcome σ η}
    (h : Trail spawner launcher.blueprint.settings receiver true launcher.blueprint.plans world
      made ending receiver' world')
    (asked : Asked spawner world' (stops.map Dismissal.event) outcome.world)
    (logs : outcome.world.logs = world'.logs ++ words)
    (last : LastWords spawner launcher.blueprint world made outcome.result stops words) :
    Reports launcher spawner world outcome made stops words := by
  refine ⟨h.prefix_course, h.prefix_plans, h.asked.trans asked, ?_, last⟩
  rw [logs, h.logs, List.append_assoc]

/-- After the warning, the replicas are let go of in the way that the settings ask for. -/
theorem Trail.released
    (h : Trail spawner launcher.blueprint.settings receiver true launcher.blueprint.plans world
      made .interrupted receiver' world') :
    let warned := world'.log .warn (s!"launcher caught termination signal after " ++
      s!"{(startedBy made).length} of {launcher.blueprint.plans.length} starts")
    let left := (release { launcher with children := startedBy made } spawner warned).2
    ∃ stops words, Asked spawner world' (stops.map Dismissal.event) left ∧
      left.logs = world'.logs ++ words ∧
      LastWords spawner launcher.blueprint world made (.ok false) stops words := by
  intro warned left
  have whole := h.outcomes
  have count : (startedBy made).length = made.length := length_startedBy whole
  have same : warned.spawner = (worldAfter world made).spawner := h.spawner_eq
  cases reaps : launcher.blueprint.settings.reapOnExit with
  | true =>
      have swept : left = stopAll spawner (startedBy made).reverse warned :=
        release_of_reaps { launcher with children := startedBy made } reaps spawner warned
      have asked := stopAll_asked spawner (startedBy made).reverse warned
      have logs := stopAll_logs spawner (startedBy made).reverse warned
      rw [same] at asked logs
      refine ⟨_, _, ?_, ?_, .reaped reaps whole rfl⟩
      · rw [swept]
        exact asked.later rfl rfl
      · rw [swept, logs, List.append_cons, ← count]
        rfl
  | false =>
      have kept : left = warned.log .info s!"leaving {(startedBy made).length} replicas running" :=
        release_of_keeps { launcher with children := startedBy made } reaps spawner warned
      refine ⟨[], _, ?_, ?_, .left reaps whole⟩
      · rw [kept]
        exact .nothing rfl rfl
      · rw [kept, List.append_cons, ← count]
        rfl

end

end Launcher

end ClusterLaunch
