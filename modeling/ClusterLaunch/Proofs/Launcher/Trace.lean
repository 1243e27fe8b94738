import ClusterLaunch.Proofs.Launcher.Record

/-! # The whole trace of a launch

Every start attempt and every stop request of one launch, in order. The attempts are for the
first plans, each made once. A failed attempt is the last one, and behind it the replicas that
were started are stopped, newest first; a launch that a signal cuts short stops them only if the
settings have it so; a complete launch stops none.
-/

namespace ClusterLaunch

variable {σ η : Type}

/-- Each plan has been started, once and with success, in this order. -/
def StartsFor (executable : String) : List LaunchPlan → List (Event η) → Prop :=
  List.Forall₂ fun plan event =>
    ∃ time handle, event = .start plan.id executable plan.arguments time (.ok handle)

/-- Each replica has been asked to stop, once, in this order; the request may have failed. -/
def StopsFor : List (ReplicaId × η) → List (Event η) → Prop :=
  List.Forall₂ fun entry event => ∃ answer, event = .stop entry.1 entry.2 answer

theorem StartsFor.cons {executable : String} {plans : List LaunchPlan} {starts : List (Event η)}
    (h : StartsFor executable plans starts) (plan : LaunchPlan) (time : Nat) (handle : η) :
    StartsFor executable (plan :: plans)
      (.start plan.id executable plan.arguments time (.ok handle) :: starts) :=
  List.Forall₂.cons ⟨time, handle, rfl⟩ h

private theorem stopsFor_stoppedIn {events : List (Event η)}
    (none : events.filter Event.isStart = []) :
    StopsFor (stoppedIn events) events := by
  induction events with
  | nil => exact .nil
  | cons event rest ih =>
      cases event with
      | start => simp [Event.isStart] at none
      | stop id handle answer => exact .cons ⟨answer, rfl⟩ (ih none)

theorem Swept.stops {spawner : Spawner σ η} {world world' : World σ η}
    {entries : List (ReplicaId × η)} (h : Swept spawner world world' entries) :
    ∃ stops, Asked spawner world stops world' ∧ StopsFor entries stops := by
  obtain ⟨stops, asked, none, rfl⟩ := h
  exact ⟨stops, asked, stopsFor_stoppedIn none⟩

namespace Launcher

/-- After so many starts, the starting of some plans ends with these events. -/
inductive Halt (executable : String) (plans : List LaunchPlan) :
    Nat → StartsEnd → List (Event η) → Prop where
  | complete {k : Nat} (all : k = plans.length) : Halt executable plans k .complete []
  | interrupted {k : Nat} (inside : k < plans.length) : Halt executable plans k .interrupted []
  | failed {k : Nat} {plan : LaunchPlan} {cause : String} (next : plans[k]? = some plan)
      (time : Nat) :
      Halt executable plans k (.failed plan cause)
        [.start plan.id executable plan.arguments time (.error cause)]

theorem Halt.later {executable : String} {plans : List LaunchPlan} {k : Nat} {ending : StartsEnd}
    {events : List (Event η)} (h : Halt executable plans k ending events) (plan : LaunchPlan) :
    Halt executable (plan :: plans) (k + 1) ending events := by
  cases h with
  | complete all => exact .complete (congrArg Nat.succ all)
  | interrupted inside => exact .interrupted (Nat.succ_lt_succ inside)
  | failed next time => exact .failed (List.getElem?_cons_succ.trans next) time

/-- The record of a starting: one successful start for each of the first plans, and then the
    events with which it ends. -/
theorem Starting.rows {spawner : Spawner σ η} {settings : Settings} {first : Bool}
    {plans : List LaunchPlan} {receiver receiver' : Receiver} {world world' : World σ η}
    {ending : StartsEnd} {started : List (ReplicaId × η)}
    (h : Starting spawner settings first plans receiver world ending started receiver' world') :
    ∃ starts last, world'.events = world.events ++ (starts ++ last) ∧
      startedIn starts = started ∧
      StartsFor settings.serverExecutable (plans.take starts.length) starts ∧
      Halt settings.serverExecutable plans starts.length ending last := by
  induction h with
  | complete => exact ⟨[], [], by simp, rfl, .nil, .complete rfl⟩
  | interrupted => exact ⟨[], [], by simp, rfl, .nil, .interrupted (Nat.succ_pos _)⟩
  | @failed first caught plan rest _ _ world after scene cause _ _ start =>
      have record := startOne_events spawner settings.serverExecutable plan { world with scene }
      rw [start] at record
      exact ⟨[], _, record, rfl, .nil, .failed rfl scene.clock⟩
  | @started first caught plan rest _ _ _ world after final scene handle ending more _ _ start
      _ ih =>
      have record := startOne_events spawner settings.serverExecutable plan { world with scene }
      rw [start] at record
      obtain ⟨starts, last, record', rfl, row, halt⟩ := ih
      refine ⟨_ :: starts, last, ?_, ?_, row.cons plan scene.clock handle, halt.later plan⟩
      · rw [record', record, List.append_assoc]
        rfl
      · rfl

theorem Trail.unseen {spawner : Spawner σ η} {settings : Settings} {receiver receiver' : Receiver}
    {first : Bool} {plans : List LaunchPlan} {world world' : World σ η}
    {made : List (Attempt σ η)}
    (h : Trail spawner settings receiver first plans world made .interrupted receiver' world') :
    receiver.hasUnseen world'.scene.channel = true := by
  generalize ended : StartsEnd.interrupted = ending at h
  induction h with
  | complete | failed => cases ended
  | checked _ _ unseen => exact unseen
  | @caught _ _ world scene _ waited =>
      have found := world.scene.wait_poll receiver settings.staggerMs.toNat
      rw [waited] at found
      exact Receiver.poll_eq_change_iff.1 found
  | started _ _ _ ih => exact ih ended

/-- The events of a launch of an idle launcher, its result, and the replicas that run
    afterwards. -/
inductive Trace (blueprint : Blueprint) :
    List (Event η) → Except LaunchError Bool → List (ReplicaId × η) → Prop where
  /-- The first start that fails is the last, and whatever the settings say, the replicas
      started before are stopped. -/
  | failed {plan : LaunchPlan} {starts stops : List (Event η)} {cause : String} (time : Nat)
      (started : StartsFor blueprint.settings.serverExecutable
        (blueprint.plans.take starts.length) starts)
      (next : blueprint.plans[starts.length]? = some plan)
      (stopped : StopsFor (startedIn starts).reverse stops) :
      Trace blueprint
        (starts ++ .start plan.id blueprint.settings.serverExecutable plan.arguments time
          (.error cause) :: stops)
        (.error (.startFailed plan.id plan.addresses cause)) []
  /-- A signal keeps the next start from being made. -/
  | cut {starts stops : List (Event η)}
      (started : StartsFor blueprint.settings.serverExecutable
        (blueprint.plans.take starts.length) starts)
      (more : starts.length < blueprint.plans.length)
      (stopped : StopsFor
        (if blueprint.settings.reapOnExit then (startedIn starts).reverse else []) stops) :
      Trace blueprint (starts ++ stops) (.ok false) []
  | complete {starts : List (Event η)}
      (started : StartsFor blueprint.settings.serverExecutable blueprint.plans starts) :
      Trace blueprint starts (.ok true) (startedIn starts)

theorem launch_trace {launcher : Launcher η} (idle : launcher.children = [])
    (spawner : Spawner σ η) (receiver : Receiver) (world : World σ η) :
    ∃ events, Asked spawner world events (launcher.launch spawner receiver world).world ∧
      Trace launcher.blueprint events (launcher.launch spawner receiver world).result
        (launcher.launch spawner receiver world).launcher.children := by
  have rules := launch_launching launcher spawner receiver world
  generalize launcher.launch spawner receiver world = outcome at rules ⊢
  cases rules with
  | refused busy => exact absurd idle busy
  | @failed plan cause started receiver' world' _ starting =>
      obtain ⟨starts, last, record, rfl, row, halt⟩ := starting.rows
      obtain ⟨_, asked⟩ := starting.asked
      obtain ⟨stops, swept, stopped⟩ :=
        (stopAll_swept spawner (startedIn starts).reverse world').stops
      cases halt with
      | failed next time =>
          refine ⟨_, ?_, .failed time row next stopped⟩
          simpa using ((asked.of_record record).trans swept).log .error
            (LaunchError.startFailed plan.id plan.addresses cause).message
  | @interrupted started receiver' world' _ starting =>
      obtain ⟨starts, last, record, rfl, row, halt⟩ := starting.rows
      obtain ⟨_, asked⟩ := starting.asked
      obtain ⟨stops, swept, stopped⟩ :=
        (release_swept { launcher with children := startedIn starts } spawner
          (world'.log .warn (s!"launcher caught termination signal after " ++
            s!"{(startedIn starts).length} of {launcher.blueprint.plans.length} starts"))).stops
      cases halt with
      | interrupted inside =>
          refine ⟨_, ?_, .cut row inside stopped⟩
          rw [List.append_nil] at record
          exact ((asked.of_record record).log _ _).trans swept
  | @complete started receiver' world' _ starting =>
      obtain ⟨starts, last, record, rfl, row, halt⟩ := starting.rows
      obtain ⟨_, asked⟩ := starting.asked
      cases halt with
      | complete all =>
          rw [all, List.take_length] at row
          rw [List.append_nil] at record
          exact ⟨starts, (asked.of_record record).log _ _, .complete row⟩

theorem launch_signalled {launcher : Launcher η} (idle : launcher.children = [])
    (spawner : Spawner σ η) {receiver : Receiver} {world : World σ η}
    (cut : (launcher.launch spawner receiver world).result = .ok false) :
    receiver.hasUnseen (launcher.launch spawner receiver world).world.scene.channel = true := by
  obtain ⟨made, ending, world', trail, scene, -, result⟩ :=
    launch_trail idle spawner receiver world
  obtain rfl := StartsEnd.result_eq_false_iff.1 (result.symm.trans cut)
  rw [scene]
  exact trail.unseen

/-- What the spawner is asked in a launch of an idle launcher. -/
structure Traced (settings : Settings) (population : UInt8) (launcher : Launcher η)
    (spawner : Spawner σ η) (receiver : Receiver) (world : World σ η) (outcome : Outcome σ η) :
    Prop where
  configured : launcher.blueprint.settings = settings
  count : launcher.blueprint.plans.length = population.toNat
  /-- The plan at a place is for the replica of that number, with its endpoints. -/
  replica : ∀ (k : Nat) (plan : LaunchPlan), launcher.blueprint.plans[k]? = some plan →
    plan.id.toNat = k ∧ launcher.blueprint.topology.entries[k]? = some plan.addresses
  /-- The outcome of every event is the spawner's own answer, so the cause in an error is too. -/
  trace : ∃ events, Asked spawner world events outcome.world ∧
    Trace launcher.blueprint events outcome.result outcome.launcher.children
  /-- Only a version that the receiver has not seen cuts a launch short. -/
  signalled : outcome.result = .ok false →
    receiver.hasUnseen outcome.world.scene.channel = true

/-- The trace of every launch that begins without children, with plans from a checked
    request. -/
theorem launch_traced {settings : Settings} {population : UInt8} {failRate : Option Binary64}
    {launcher : Launcher η}
    (request : Blueprint.ofRequest settings population failRate = .ok launcher.blueprint)
    (idle : launcher.children = []) (spawner : Spawner σ η) (receiver : Receiver)
    (world : World σ η) :
    Traced settings population launcher spawner receiver world
      (launcher.launch spawner receiver world) :=
  ⟨Blueprint.ofRequest_settings request, Blueprint.length_plans request,
    fun _ _ => Blueprint.ofRequest_plan request, launch_trace idle spawner receiver world,
    launch_signalled idle spawner⟩

/-- Three replicas, the last of which fails to start while a signal arrives; then the first
    one fails to stop. -/
theorem launch_traced_failing_start :
    ∃ launcher : Launcher ReplicaId,
      Blueprint.ofRequest Settings.standard 3 none = .ok launcher.blueprint ∧
      launcher.children = [] ∧
      let world : World Script ReplicaId := .fresh .fresh ⟨[2], [0], [(2, .send true)]⟩
      Traced Settings.standard 3 launcher scriptedSpawner .fresh world
        (launcher.launch scriptedSpawner .fresh world) := by
  obtain ⟨blueprint, request⟩ : ∃ blueprint,
      Blueprint.ofRequest Settings.standard 3 none = .ok blueprint := exists_of_isOk (by decide)
  let launcher : Launcher ReplicaId := .ofBlueprint blueprint
  exact ⟨launcher, request, rfl, launch_traced request rfl scriptedSpawner _ _⟩

end Launcher

end ClusterLaunch
