import ClusterLaunch.Proofs.Launcher.Sweep

/-! # The ways a launch can go

The starting of replicas is a loop with four exits. Here each way in which one plan
can be dealt with is a rule of a relation, and each way in which a launch or a run can
end is a rule of another. Everything that is said of whole launches is derived from
these rules; the loop is opened only here.
-/

namespace ClusterLaunch

variable {σ η : Type}

namespace World

@[simp]
theorem log_events (world : World σ η) (level : LogLevel) (message : String) :
    (world.log level message).events = world.events := rfl

end World

namespace Launcher

@[simp]
theorem release_launcher (launcher : Launcher η) (spawner : Spawner σ η) (world : World σ η) :
    (launcher.release spawner world).1 = { launcher with children := [] } := by
  unfold release
  split <;> rfl

/-- What comes before a start: the pause, unless it is the very first start or there are
    no pauses. The answer tells whether a signal ended the pause. -/
def turn (settings : Settings) (first : Bool) (receiver : Receiver) (world : World σ η) :
    Bool × Receiver × World σ η :=
  if first || settings.staggerMs.toNat == 0 then (false, receiver, world)
  else pause settings.staggerMs.toNat receiver world

/-- Is the start after a turn kept from being made? -/
def isCut (caught : Bool) (receiver : Receiver) (channel : Channel) : Bool :=
  caught || (receiver.hasChanged? channel).getD false

/-- A turn lets time pass and may see a signal, but nothing else happens. -/
theorem turn_world (settings : Settings) (first : Bool) (receiver : Receiver)
    (world : World σ η) :
    (turn settings first receiver world).2.2 =
      { world with scene := (turn settings first receiver world).2.2.scene } := by
  unfold turn pause
  split
  · rfl
  · split <;> rfl

theorem startOne_events (spawner : Spawner σ η) (executable : String) (plan : LaunchPlan)
    (world : World σ η) :
    (startOne spawner executable plan world).2.events =
      world.events ++ [.start plan.id executable plan.arguments world.scene.clock
        (startOne spawner executable plan world).1] := rfl

/-- How the plans left are dealt with, from a receiver and a world to the end of the
    starting, the replicas started, and the receiver and the world afterwards. -/
inductive Starting (spawner : Spawner σ η) (settings : Settings) :
    (first : Bool) → List LaunchPlan → Receiver → World σ η →
      StartsEnd → List (ReplicaId × η) → Receiver → World σ η → Prop where
  | complete {first : Bool} {receiver : Receiver} {world : World σ η} :
      Starting spawner settings first [] receiver world .complete [] receiver world
  | interrupted {first caught : Bool} {plan : LaunchPlan} {rest : List LaunchPlan}
      {receiver receiver' : Receiver} {world : World σ η} {scene : Scene}
      (took : turn settings first receiver world = (caught, receiver', { world with scene }))
      (cut : isCut caught receiver' scene.channel = true) :
      Starting spawner settings first (plan :: rest) receiver world
        .interrupted [] receiver' { world with scene }
  | failed {first caught : Bool} {plan : LaunchPlan} {rest : List LaunchPlan}
      {receiver receiver' : Receiver} {world after : World σ η} {scene : Scene} {cause : String}
      (took : turn settings first receiver world = (caught, receiver', { world with scene }))
      (clear : isCut caught receiver' scene.channel = false)
      (start : startOne spawner settings.serverExecutable plan { world with scene } =
        (.error cause, after)) :
      Starting spawner settings first (plan :: rest) receiver world
        (.failed plan cause) [] receiver' after
  | started {first caught : Bool} {plan : LaunchPlan} {rest : List LaunchPlan}
      {receiver receiver' receiver'' : Receiver} {world after final : World σ η} {scene : Scene}
      {handle : η} {ending : StartsEnd} {more : List (ReplicaId × η)}
      (took : turn settings first receiver world = (caught, receiver', { world with scene }))
      (clear : isCut caught receiver' scene.channel = false)
      (start : startOne spawner settings.serverExecutable plan { world with scene } =
        (.ok handle, after))
      (others : Starting spawner settings false rest receiver' after ending more receiver'' final) :
      Starting spawner settings first (plan :: rest) receiver world
        ending ((plan.id, handle) :: more) receiver'' final

theorem startAll_cons (spawner : Spawner σ η) (settings : Settings) (first : Bool)
    (plan : LaunchPlan) (rest : List LaunchPlan) (children : List (ReplicaId × η))
    (receiver : Receiver) (world : World σ η) :
    startAll spawner settings first (plan :: rest) children receiver world =
      match turn settings first receiver world with
      | (caught, receiver, world) =>
        if isCut caught receiver world.scene.channel then
          (.interrupted, children, receiver, world)
        else
          match startOne spawner settings.serverExecutable plan world with
          | (.ok handle, world) =>
              startAll spawner settings false rest (children ++ [(plan.id, handle)]) receiver world
          | (.error cause, world) => (.failed plan cause, children, receiver, world) := rfl

theorem startAll_starting (spawner : Spawner σ η) (settings : Settings) (first : Bool)
    (plans : List LaunchPlan) (children : List (ReplicaId × η)) (receiver : Receiver)
    (world : World σ η) :
    ∃ ending started receiver' world',
      startAll spawner settings first plans children receiver world =
        (ending, children ++ started, receiver', world') ∧
      Starting spawner settings first plans receiver world ending started receiver' world' := by
  induction plans generalizing first children receiver world with
  | nil => exact ⟨.complete, [], receiver, world, by simp [startAll], .complete⟩
  | cons plan rest ih =>
      rw [startAll_cons]
      have frame := turn_world settings first receiver world
      rcases took : turn settings first receiver world with ⟨caught, receiver', world'⟩
      rw [took] at frame
      obtain ⟨scene, rfl⟩ : ∃ scene, world' = { world with scene } := ⟨_, frame⟩
      cases cut : isCut caught receiver' scene.channel with
      | true =>
          exact ⟨.interrupted, [], receiver', _, by simp [cut], .interrupted took cut⟩
      | false =>
          rcases start : startOne spawner settings.serverExecutable plan { world with scene } with
            ⟨outcome, after⟩
          cases outcome with
          | error cause =>
              exact ⟨.failed plan cause, [], receiver', after, by simp [cut, start],
                .failed took cut start⟩
          | ok handle =>
              obtain ⟨ending, more, receiver'', final, run, others⟩ :=
                ih false (children ++ [(plan.id, handle)]) receiver' after
              exact ⟨ending, (plan.id, handle) :: more, receiver'', final, by simp [cut, start, run],
                .started took cut start others⟩

theorem Starting.ids_of_complete {spawner : Spawner σ η} {settings : Settings} {first : Bool}
    {plans : List LaunchPlan} {receiver receiver' : Receiver} {world world' : World σ η}
    {started : List (ReplicaId × η)}
    (h : Starting spawner settings first plans receiver world .complete started receiver' world') :
    started.map Prod.fst = plans.map LaunchPlan.id := by
  generalize hending : StartsEnd.complete = ending at h
  induction h with
  | complete => rfl
  | interrupted | failed => cases hending
  | started _ _ _ _ ih => simp [ih hending]

/-- What a launch can come to. -/
inductive Launching (spawner : Spawner σ η) (launcher : Launcher η) (receiver : Receiver)
    (world : World σ η) : Outcome σ η → Prop where
  | refused (busy : launcher.children ≠ []) :
      Launching spawner launcher receiver world
        ⟨.error .alreadyLaunched, launcher, receiver,
          world.log .error LaunchError.alreadyLaunched.message⟩
  | failed {plan : LaunchPlan} {cause : String} {started : List (ReplicaId × η)}
      {receiver' : Receiver} {world' : World σ η} (idle : launcher.children = [])
      (starting : Starting spawner launcher.blueprint.settings true launcher.blueprint.plans
        receiver world (.failed plan cause) started receiver' world') :
      Launching spawner launcher receiver world
        ⟨.error (.startFailed plan.id plan.addresses cause), { launcher with children := [] },
          receiver', (stopAll spawner started.reverse world').log .error
            (LaunchError.startFailed plan.id plan.addresses cause).message⟩
  | interrupted {started : List (ReplicaId × η)} {receiver' : Receiver} {world' : World σ η}
      (idle : launcher.children = [])
      (starting : Starting spawner launcher.blueprint.settings true launcher.blueprint.plans
        receiver world .interrupted started receiver' world') :
      Launching spawner launcher receiver world
        ⟨.ok false, { launcher with children := [] }, receiver',
          (release { launcher with children := started } spawner
            (world'.log .warn (s!"launcher caught termination signal after " ++
              s!"{started.length} of {launcher.blueprint.plans.length} starts"))).2⟩
  | complete {started : List (ReplicaId × η)} {receiver' : Receiver} {world' : World σ η}
      (idle : launcher.children = [])
      (starting : Starting spawner launcher.blueprint.settings true launcher.blueprint.plans
        receiver world .complete started receiver' world') :
      Launching spawner launcher receiver world
        ⟨.ok true, { launcher with children := started }, receiver',
          world'.log .info (s!"all {started.length} replicas launched, client addrs: " ++
            " ".intercalate (launcher.blueprint.topology.entries.map fun entry =>
              toString entry.client))⟩

theorem launch_launching (launcher : Launcher η) (spawner : Spawner σ η) (receiver : Receiver)
    (world : World σ η) :
    Launching spawner launcher receiver world (launcher.launch spawner receiver world) := by
  unfold launch
  by_cases idle : launcher.children = []
  · simp only [idle, List.isEmpty_nil, Bool.not_true, Bool.false_eq_true, if_false]
    obtain ⟨ending, started, receiver', world', run, starting⟩ :=
      startAll_starting spawner launcher.blueprint.settings true launcher.blueprint.plans []
        receiver world
    rw [run]
    cases ending with
    | complete => exact .complete idle starting
    | interrupted =>
        simp only [release_launcher, List.nil_append]
        exact .interrupted idle starting
    | failed plan cause => exact .failed idle starting
  · have busy : (!launcher.children.isEmpty) = true := by simpa using idle
    rw [if_pos busy]
    exact .refused idle

theorem launch_of_busy (launcher : Launcher η) (busy : launcher.children ≠ [])
    (spawner : Spawner σ η) (receiver : Receiver) (world : World σ η) :
    launcher.launch spawner receiver world =
      ⟨.error .alreadyLaunched, launcher, receiver,
        world.log .error LaunchError.alreadyLaunched.message⟩ := by
  rw [launch, if_pos (by simpa using busy)]
  rfl

theorem release_eq (launcher : Launcher η) (spawner : Spawner σ η) (world : World σ η) :
    launcher.release spawner world =
      ({ launcher with children := [] }, (launcher.release spawner world).2) :=
  Prod.ext (release_launcher launcher spawner world) rfl

/-- What a run can come to. -/
inductive Running (spawner : Spawner σ η) (launcher : Launcher η) (receiver : Receiver)
    (patience : Nat) (world : World σ η) : RunEnd × Launcher η × World σ η → Prop where
  | parked {scene : Scene} (waited : world.scene.wait receiver patience = (.pending, scene)) :
      Running spawner launcher receiver patience world (.parked, launcher, { world with scene })
  | caught {scene : Scene} (waited : world.scene.wait receiver patience = (.change, scene)) :
      Running spawner launcher receiver patience world
        (.done, { launcher with children := [] }, (launcher.release spawner
          ({ world with scene }.log .warn "launcher caught termination signal")).2)
  | closed {scene : Scene} (waited : world.scene.wait receiver patience = (.closed, scene)) :
      Running spawner launcher receiver patience world
        (.done, { launcher with children := [] }, (launcher.release spawner
          ({ world with scene }.log .warn "termination channel closed")).2)

theorem run_running (launcher : Launcher η) (spawner : Spawner σ η) (receiver : Receiver)
    (patience : Nat) (world : World σ η) :
    Running spawner launcher receiver patience world
      (launcher.run spawner receiver patience world) := by
  unfold run
  rcases waited : world.scene.wait receiver patience with ⟨wake, scene⟩
  cases wake with
  | pending => exact .parked waited
  | change =>
      dsimp only
      rw [release_eq]
      exact .caught waited
  | closed =>
      dsimp only
      rw [release_eq]
      exact .closed waited

end Launcher

end ClusterLaunch
