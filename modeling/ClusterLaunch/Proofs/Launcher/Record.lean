import ClusterLaunch.Proofs.Launcher.Course
import ClusterLaunch.Proofs.Launcher.Handles

/-! # What the record shows of a launch

The record of a launch shows the attempts of its trail, and behind them the stops of one sweep
at most. A sweep, a release and the last words of a launch leave the clock and the channel as
they are.
-/

namespace ClusterLaunch

variable {σ η : Type}

namespace Event

def isStart : Event η → Bool
  | start .. => true
  | stop .. => false

end Event

/-- The start attempts that the spawner is asked for between two worlds, with its answers. -/
def Attempted (spawner : Spawner σ η) (world world' : World σ η) (attempts : List (Event η)) :
    Prop :=
  ∃ events, Asked spawner world events world' ∧ events.filter Event.isStart = attempts

/-- Between two worlds the spawner is asked to stop these replicas, and to start none. -/
def Swept (spawner : Spawner σ η) (world world' : World σ η) (entries : List (ReplicaId × η)) :
    Prop :=
  ∃ stops, Asked spawner world stops world' ∧ stops.filter Event.isStart = [] ∧
    stoppedIn stops = entries

section

variable {spawner : Spawner σ η} {world between world' : World σ η}
  {attempts attempts' : List (Event η)} {entries : List (ReplicaId × η)}

theorem Attempted.unique (h : Attempted spawner world world' attempts)
    (h' : Attempted spawner world world' attempts') : attempts = attempts' := by
  obtain ⟨events, asked, rfl⟩ := h
  obtain ⟨events', asked', rfl⟩ := h'
  rw [asked.unique asked']

theorem Swept.nothing (record : world'.events = world.events)
    (state : world'.spawner = world.spawner) : Swept spawner world world' [] :=
  ⟨[], .nothing record state, rfl, rfl⟩

theorem Swept.later (h : Swept spawner between world' entries)
    (record : between.events = world.events) (state : between.spawner = world.spawner) :
    Swept spawner world world' entries := by
  obtain ⟨stops, asked, none, same⟩ := h
  exact ⟨stops, asked.later record state, none, same⟩

theorem Swept.log (h : Swept spawner world world' entries) (level : LogLevel)
    (message : String) : Swept spawner world (world'.log level message) entries := by
  obtain ⟨stops, asked, none, same⟩ := h
  exact ⟨stops, asked.log level message, none, same⟩

theorem Attempted.nothing (record : world'.events = world.events)
    (state : world'.spawner = world.spawner) : Attempted spawner world world' [] :=
  ⟨[], .nothing record state, rfl⟩

theorem Attempted.swept (h : Attempted spawner world between attempts)
    (sweep : Swept spawner between world' entries) : Attempted spawner world world' attempts := by
  obtain ⟨events, asked, rfl⟩ := h
  obtain ⟨stops, asked', none, -⟩ := sweep
  exact ⟨events ++ stops, asked.trans asked', by simp [none]⟩

end

private theorem stopsOnly_dismissals (stops : List (Dismissal σ η)) :
    (stops.map Dismissal.event).filter Event.isStart = [] ∧
      stoppedIn (stops.map Dismissal.event) = stops.map Dismissal.entry := by
  induction stops with
  | nil => exact ⟨rfl, rfl⟩
  | cons stop rest ih => exact ⟨ih.1, congrArg (stop.entry :: ·) ih.2⟩

private theorem orders_of_starts (events : List (Event η)) :
    (events.filter Event.isStart).filterMap Event.order? = events.filterMap Event.order? := by
  induction events with
  | nil => rfl
  | cons event rest ih =>
      cases event with
      | start id executable arguments =>
          exact congrArg (Order.mk id executable arguments :: ·) ih
      | stop => exact ih

theorem Attempted.noted {spawner : Spawner σ η} {world world' : World (σ × List Order) η}
    {made : List (Attempt (σ × List Order) η)} {executable : String}
    (h : Attempted spawner.noting world world' (made.map (Attempt.event executable))) :
    world'.spawner.2 =
      world.spawner.2 ++ (made.map Attempt.plan).map fun plan => plan.order executable := by
  obtain ⟨events, asked, starts⟩ := h
  rw [asked.replays.noted, ← orders_of_starts, starts, List.filterMap_map, List.map_map]
  exact congrArg (world.spawner.2 ++ ·) (congrFun List.filterMap_eq_map made)

namespace Launcher

theorem stopAll_swept (spawner : Spawner σ η) (entries : List (ReplicaId × η))
    (world : World σ η) : Swept spawner world (stopAll spawner entries world) entries := by
  obtain ⟨none, stopped⟩ := stopsOnly_dismissals (spawner.dismissals entries world.spawner)
  exact ⟨_, stopAll_asked spawner entries world, none, stopped.trans (spawner.dismissals_entry ..)⟩

theorem release_swept (launcher : Launcher η) (spawner : Spawner σ η) (world : World σ η) :
    Swept spawner world (launcher.release spawner world).2
      (if launcher.blueprint.settings.reapOnExit then launcher.children.reverse else []) := by
  unfold release
  split
  · exact stopAll_swept spawner launcher.children.reverse world
  · exact .nothing rfl rfl

theorem release_scene (launcher : Launcher η) (spawner : Spawner σ η) (world : World σ η) :
    (launcher.release spawner world).2.scene = world.scene := by
  unfold release
  split
  · exact stopAll_scene spawner launcher.children.reverse world
  · rfl

end Launcher

/-- What a launch answers when its starting has ended. -/
def StartsEnd.result : StartsEnd → Except LaunchError Bool
  | .complete => .ok true
  | .interrupted => .ok false
  | .failed plan cause => .error (.startFailed plan.id plan.addresses cause)

theorem StartsEnd.result_eq_true_iff {ending : StartsEnd} :
    ending.result = .ok true ↔ ending = .complete := by
  cases ending <;> simp [result]

theorem StartsEnd.result_eq_false_iff {ending : StartsEnd} :
    ending.result = .ok false ↔ ending = .interrupted := by
  cases ending <;> simp [result]

namespace Launcher

theorem Trail.attempted {spawner : Spawner σ η} {settings : Settings}
    {receiver receiver' : Receiver} {first : Bool} {plans : List LaunchPlan}
    {world world' : World σ η} {made : List (Attempt σ η)} {ending : StartsEnd}
    (h : Trail spawner settings receiver first plans world made ending receiver' world') :
    Attempted spawner world world' (made.map (Attempt.event settings.serverExecutable)) := by
  refine ⟨_, h.asked, List.filter_eq_self.2 ?_⟩
  intro event member
  obtain ⟨attempt, -, rfl⟩ := List.mem_map.1 member
  rfl

theorem launch_ends {launcher : Launcher η} {spawner : Spawner σ η}
    {receiver receiver' : Receiver} {world world' : World σ η} {ending : StartsEnd}
    {children : List (ReplicaId × η)} (idle : launcher.children = [])
    (run : startAll spawner launcher.blueprint.settings true launcher.blueprint.plans [] receiver
      world = (ending, children, receiver', world')) :
    (launcher.launch spawner receiver world).result = ending.result ∧
      (launcher.launch spawner receiver world).receiver = receiver' ∧
      (launcher.launch spawner receiver world).world.scene = world'.scene ∧
      ∃ entries, Swept spawner world' (launcher.launch spawner receiver world).world entries := by
  unfold launch
  simp only [idle, run, List.isEmpty_nil, Bool.not_true, Bool.false_eq_true, if_false]
  cases ending with
  | complete => exact ⟨rfl, rfl, rfl, [], .nothing rfl rfl⟩
  | interrupted =>
      have released := release_swept { launcher with children } spawner
        (world'.log .warn (s!"launcher caught termination signal after " ++
          s!"{children.length} of {launcher.blueprint.plans.length} starts"))
      exact ⟨rfl, rfl, release_scene .., _, released.later rfl rfl⟩
  | failed plan cause =>
      have swept := stopAll_swept spawner children.reverse world'
      exact ⟨rfl, rfl, stopAll_scene .., _, swept.log _ _⟩

/-- How the starting of a launcher without children ends. -/
def starting (launcher : Launcher η) (spawner : Spawner σ η) (receiver : Receiver)
    (world : World σ η) : StartsEnd × List (ReplicaId × η) × Receiver × World σ η :=
  startAll spawner launcher.blueprint.settings true launcher.blueprint.plans [] receiver world

theorem launch_of_starting (launcher : Launcher η) (idle : launcher.children = [])
    (spawner : Spawner σ η) (receiver : Receiver) (world : World σ η) :
    ∃ made, Trail spawner launcher.blueprint.settings receiver true launcher.blueprint.plans world
        made (launcher.starting spawner receiver world).1
        (launcher.starting spawner receiver world).2.2.1
        (launcher.starting spawner receiver world).2.2.2 ∧
      (launcher.launch spawner receiver world).receiver =
        (launcher.starting spawner receiver world).2.2.1 ∧
      (launcher.launch spawner receiver world).world.scene =
        (launcher.starting spawner receiver world).2.2.2.scene ∧
      Attempted spawner world (launcher.launch spawner receiver world).world
        (made.map (Attempt.event launcher.blueprint.settings.serverExecutable)) ∧
      (launcher.launch spawner receiver world).result =
        (launcher.starting spawner receiver world).1.result := by
  obtain ⟨ending, started, receiver', world', run, starting⟩ :=
    startAll_starting spawner launcher.blueprint.settings true launcher.blueprint.plans []
      receiver world
  obtain ⟨made, trail⟩ := starting.trail
  obtain ⟨result, seen, scene, entries, swept⟩ := launch_ends idle run
  rw [Launcher.starting, run]
  exact ⟨made, trail, seen, scene, trail.attempted.swept swept, result⟩

theorem launch_trail {launcher : Launcher η} (idle : launcher.children = [])
    (spawner : Spawner σ η) (receiver : Receiver) (world : World σ η) :
    ∃ made ending world', Trail spawner launcher.blueprint.settings receiver true
        launcher.blueprint.plans world made ending
        (launcher.launch spawner receiver world).receiver world' ∧
      (launcher.launch spawner receiver world).world.scene = world'.scene ∧
      Attempted spawner world (launcher.launch spawner receiver world).world
        (made.map (Attempt.event launcher.blueprint.settings.serverExecutable)) ∧
      (launcher.launch spawner receiver world).result = ending.result := by
  obtain ⟨made, trail, seen, scene, attempted, result⟩ :=
    launch_of_starting launcher idle spawner receiver world
  rw [← seen] at trail
  exact ⟨made, _, _, trail, scene, attempted, result⟩

theorem Trail.made_ne_nil {spawner : Spawner σ η} {settings : Settings}
    {receiver receiver' : Receiver} {plans : List LaunchPlan} {world world' : World σ η}
    {made : List (Attempt σ η)} {ending : StartsEnd}
    (h : Trail spawner settings receiver true plans world made ending receiver' world')
    (planned : plans ≠ []) (nothing : receiver.hasUnseen world.scene.channel = false) :
    made ≠ [] := by
  cases h with
  | complete => exact absurd rfl planned
  | checked _ _ unseen => rw [nothing] at unseen; cases unseen
  | failed | started => exact List.cons_ne_nil _ _

theorem launch_orders (launcher : Launcher η) (idle : launcher.children = [])
    (spawner : Spawner σ η) (receiver : Receiver) (world : World σ η) :
    ∃ made : List (Attempt σ η),
      Attempted spawner world (launcher.launch spawner receiver world).world
        (made.map (Attempt.event launcher.blueprint.settings.serverExecutable)) ∧
      made.map Attempt.plan <+: launcher.blueprint.plans ∧
      ((launcher.launch spawner receiver world).result = .ok true →
        made.map Attempt.plan = launcher.blueprint.plans) ∧
      (launcher.blueprint.plans ≠ [] → receiver.hasUnseen world.scene.channel = false →
        made ≠ []) := by
  obtain ⟨made, ending, world', trail, -, attempted, result⟩ :=
    launch_trail idle spawner receiver world
  refine ⟨made, attempted, trail.prefix_plans, ?_, trail.made_ne_nil⟩
  intro complete
  obtain rfl := StartsEnd.result_eq_true_iff.1 (result.symm.trans complete)
  exact trail.plans_of_complete

end Launcher

end ClusterLaunch
