import ClusterLaunch.Proofs.Launcher.Pacing
import ClusterLaunch.Proofs.Launcher.Trace

/-! # The times of a launch

A launch lets time pass only in its pauses, of which there is one before each start but the
first. So the time of a start is known from its place, whatever is signalled before it, and a
launch that comes to its last start returns at the time of this start. The sender has a part in
this only by what it sends: while the receiver has seen everything, a launch goes on as if the
sender stayed and sent nothing.
-/

namespace ClusterLaunch

variable {σ η : Type}

namespace Launcher

variable {spawner : Spawner σ η} {settings : Settings} {receiver receiver' : Receiver}
  {first : Bool} {plans : List LaunchPlan} {world world' : World σ η}
  {made : List (Attempt σ η)} {ending : StartsEnd}

/-- How many pauses there are before the start at some place. -/
def pausesBefore (first : Bool) (place : Nat) : Nat :=
  if first then place else place + 1

private theorem pausesBefore_succ (first : Bool) (place : Nat) :
    pausesBefore first (place + 1) = pausesBefore first 0 + pausesBefore false place := by
  cases first
  · exact Nat.add_comm _ _
  · exact (Nat.zero_add _).symm

private theorem dueWorld_clock (settings : Settings) (first : Bool) (world : World σ η) :
    (dueWorld settings first world).scene.clock =
      world.scene.clock + pausesBefore first 0 * settings.staggerMs.toNat := by
  unfold pausesBefore
  cases first with
  | true => simp [dueWorld]
  | false =>
      by_cases instant : settings.staggerMs.toNat = 0
      · rw [dueWorld_of_instant instant, instant]
        rfl
      · simp [dueWorld, instant, Scene.sleep, Scene.advanceTo, Scene.timeAfter]

/-- The start at some place begins after all pauses up to it, and takes no time itself. -/
theorem courseFrom_clock {i : Nat} {attempt : Attempt σ η}
    (h : (courseFrom spawner settings first plans world)[i]? = some attempt) :
    attempt.before.scene.clock =
        world.scene.clock + pausesBefore first i * settings.staggerMs.toNat ∧
      attempt.after.scene.clock = attempt.before.scene.clock := by
  induction plans generalizing first world i with
  | nil => cases h
  | cons plan rest ih =>
      have due := dueWorld_clock settings first world
      rw [courseFrom_cons] at h
      cases i with
      | zero =>
          cases h
          exact ⟨due, rfl⟩
      | succ i =>
          rw [List.getElem?_cons_succ] at h
          split at h
          · obtain ⟨begins, ends⟩ := ih h
            refine ⟨?_, ends⟩
            have now : (nextAttempt spawner settings first plan world).after.scene.clock =
                (dueWorld settings first world).scene.clock := rfl
            rw [begins, now, due, pausesBefore_succ, Nat.add_mul, Nat.add_assoc]
          · cases h

theorem Trail.clock_of_instant
    (h : Trail spawner settings receiver first plans world made ending receiver' world')
    (instant : settings.staggerMs.toNat = 0) : world'.scene.clock = world.scene.clock := by
  induction h with
  | complete | checked => rfl
  | caught positive => omega
  | @failed first _ _ world =>
      exact congrArg (·.scene.clock) (dueWorld_of_instant instant first world)
  | @started first _ _ world _ _ _ _ _ _ _ _ ih =>
      exact ih.trans (congrArg (·.scene.clock) (dueWorld_of_instant instant first world))

theorem Trail.clock
    (h : Trail spawner settings receiver true plans world made ending receiver' world')
    {i : Nat} {attempt : Attempt σ η} (found : made[i]? = some attempt) :
    attempt.before.scene.clock = world.scene.clock + i * settings.staggerMs.toNat ∧
      attempt.after.scene.clock = attempt.before.scene.clock := by
  obtain ⟨inside, rfl⟩ := List.getElem?_eq_some_iff.1 found
  exact courseFrom_clock (List.prefix_iff_getElem?.1 h.prefix_course i inside)

theorem Trail.plan
    (h : Trail spawner settings receiver first plans world made ending receiver' world')
    {i : Nat} {attempt : Attempt σ η} (found : made[i]? = some attempt) :
    plans[i]? = some attempt.plan := by
  obtain ⟨inside, rfl⟩ := List.getElem?_eq_some_iff.1 found
  have place := List.prefix_iff_getElem?.1 h.prefix_plans i (by simpa using inside)
  rwa [List.getElem_map] at place

theorem Trail.clock_of_uncut
    (h : Trail spawner settings receiver true plans world made ending receiver' world')
    (uncut : ending ≠ .interrupted) (planned : plans ≠ []) :
    ∃ earlier last, made = earlier ++ [last] ∧ world'.scene.clock =
      world.scene.clock + earlier.length * settings.staggerMs.toNat := by
  have after := h.worldAfter_eq uncut
  rcases List.eq_nil_or_concat' made with rfl | ⟨earlier, last, rfl⟩
  · cases h with
    | complete => exact absurd rfl planned
    | checked => exact absurd rfl uncut
  · obtain ⟨begins, ends⟩ := h.clock List.getElem?_concat_length
    refine ⟨earlier, last, rfl, ?_⟩
    rw [← begins, ← ends, ← after, worldAfter, List.foldl_append]
    rfl

end Launcher

/-- The spawner, with no signal during a start. -/
def Spawner.hushed (spawner : Spawner σ η) : Spawner σ η :=
  { spawner with
    start id executable arguments state :=
      { spawner.start id executable arguments state with signals := [] } }

namespace World

/-- The world with a sender that stays and sends nothing, and of which the receiver has seen
    everything. -/
def hushed (receiver : Receiver) (world : World σ η) : World σ η :=
  { world with scene := ⟨world.scene.clock, ⟨receiver.seen, true⟩, []⟩ }

private theorem unnoticed_hushed (receiver : Receiver) (spawner : Spawner σ η) :
    Unnoticed spawner spawner.hushed (hushed receiver) :=
  ⟨fun _ _ _ => rfl, fun _ _ _ => rfl⟩

private theorem hasUnseen_hushed (receiver : Receiver) (world : World σ η) :
    receiver.hasUnseen (world.hushed receiver).scene.channel = false :=
  bne_self_eq_false receiver.seen

end World

namespace Launcher

variable {spawner : Spawner σ η} {settings : Settings} {receiver receiver' : Receiver}
  {first : Bool} {plans : List LaunchPlan} {world world' : World σ η} {ending : StartsEnd}

private theorem startOne_hushed (receiver : Receiver) (spawner : Spawner σ η) (executable : String)
    (plan : LaunchPlan) (world : World σ η) :
    startOne spawner.hushed executable plan (world.hushed receiver) =
      ((startOne spawner executable plan world).1,
        (startOne spawner executable plan world).2.hushed receiver) := rfl

private theorem dueWorld_hushed (receiver : Receiver) (settings : Settings) (first : Bool)
    (world : World σ η) :
    dueWorld settings first (world.hushed receiver) =
      (dueWorld settings first world).hushed receiver := by
  unfold dueWorld
  split <;> rfl

theorem startAll_hushed {plan : LaunchPlan} {outcome : Except String η} {after : World σ η}
    (start : startOne spawner settings.serverExecutable plan (dueWorld settings first world) =
      (outcome, after)) (rest : List LaunchPlan) (children : List (ReplicaId × η)) :
    startAll spawner.hushed settings first (plan :: rest) children receiver
        (world.hushed receiver) =
      match outcome with
      | .ok handle => startAll spawner.hushed settings false rest
          (children ++ [(plan.id, handle)]) receiver (after.hushed receiver)
      | .error cause => (.failed plan cause, children, receiver, after.hushed receiver) := by
  have nothing (world : World σ η) := world.hasUnseen_hushed receiver
  have took := turn_of_quiet settings first (by rfl) (nothing world)
  rw [dueWorld_hushed] at took
  have clear : isCut false receiver
      ((dueWorld settings first world).hushed receiver).scene.channel = false := by
    rw [isCut_uncaught, nothing, Bool.and_false]
  have start' := startOne_hushed receiver spawner settings.serverExecutable plan
    (dueWorld settings first world)
  rw [start] at start'
  cases outcome <;> exact startAll_clear took clear start' rest children

/-- A starting that is not cut short goes the same way if nothing is ever signalled. -/
theorem Starting.hushed {started : List (ReplicaId × η)}
    (h : Starting spawner settings first plans receiver world ending started receiver' world')
    (uncut : ending ≠ .interrupted) (children : List (ReplicaId × η)) :
    startAll spawner.hushed settings first plans children receiver (world.hushed receiver) =
      (ending, children ++ started, receiver', world'.hushed receiver) := by
  induction h generalizing children with
  | complete => rw [List.append_nil]; rfl
  | interrupted => exact absurd rfl uncut
  | failed took clear start =>
      obtain ⟨rfl, -, start⟩ := startOne_due took clear start
      rw [startAll_hushed start, List.append_nil]
  | started took clear start _ ih =>
      obtain ⟨rfl, -, start⟩ := startOne_due took clear start
      rw [startAll_hushed start, List.append_cons]
      exact ih uncut _

/-- A launch that ends with nothing unseen has gone as if the sender stayed and sent nothing. -/
theorem launch_hushed {launcher : Launcher η} (idle : launcher.children = [])
    (nothing : receiver.hasUnseen (launcher.launch spawner receiver world).world.scene.channel =
      false) :
    launcher.launch spawner.hushed receiver (world.hushed receiver) =
      (launcher.launch spawner receiver world).changed (World.hushed receiver) := by
  obtain ⟨ending, started, receiver', world', run, starting⟩ :=
    startAll_starting spawner launcher.blueprint.settings true launcher.blueprint.plans []
      receiver world
  have result := (launch_ends idle run).1
  -- What cuts a launch short is still unseen when it returns.
  have uncut : ending ≠ .interrupted := by
    rintro rfl
    rw [launch_signalled idle spawner result] at nothing
    cases nothing
  refine (World.unnoticed_hushed receiver spawner).launch launcher receiver world ?_
  rw [run, starting.hushed uncut]

/-- When the starts of a launch take place, and when it returns. -/
structure Timed (settings : Settings) (population : UInt8) (launcher : Launcher η)
    (spawner : Spawner σ η) (receiver : Receiver) (world : World σ η) (outcome : Outcome σ η)
    (attempts : List (Event η)) : Prop where
  attempted : Attempted spawner world outcome.world attempts
  each : ∀ (i : Nat) (event : Event η), attempts[i]? = some event →
    ∃ plan answer, launcher.blueprint.plans[i]? = some plan ∧ plan.id.toNat = i ∧
      event = .start plan.id settings.serverExecutable plan.arguments
        (world.scene.clock + i * settings.staggerMs.toNat) answer
  /-- A launch that is not cut short returns with its last attempt. -/
  returned : outcome.result ≠ .ok false → ∃ earlier last, attempts = earlier ++ [last] ∧
    outcome.world.scene.clock =
      world.scene.clock + earlier.length * settings.staggerMs.toNat
  complete : outcome.result = .ok true → attempts.length = population.toNat ∧
    outcome.world.scene.clock =
      world.scene.clock + (population.toNat - 1) * settings.staggerMs.toNat
  instant : settings.staggerMs = 0 → outcome.world.scene.clock = world.scene.clock
  /-- As long as the receiver has seen everything, it makes no difference whether the sender is
      there. -/
  hushed : receiver.hasUnseen outcome.world.scene.channel = false →
    launcher.launch spawner.hushed receiver (world.hushed receiver) =
      outcome.changed (World.hushed receiver)

/-- The times of every launch that begins without children, with plans from a checked request. -/
theorem launch_timed {settings : Settings} {population : UInt8} {failRate : Option Binary64}
    {launcher : Launcher η}
    (request : Blueprint.ofRequest settings population failRate = .ok launcher.blueprint)
    (idle : launcher.children = []) (spawner : Spawner σ η) (receiver : Receiver)
    (world : World σ η) :
    ∃ attempts, Timed settings population launcher spawner receiver world
      (launcher.launch spawner receiver world) attempts := by
  obtain ⟨made, ending, world', trail, scene, attempted, result⟩ :=
    launch_trail idle spawner receiver world
  have count := Blueprint.length_plans request
  rw [Blueprint.ofRequest_settings request] at trail attempted
  have planned := Blueprint.plans_ne_nil request
  refine ⟨_, attempted, ?_, ?_, ?_, ?_, launch_hushed idle⟩
  · intro i event found
    rw [List.getElem?_map, Option.map_eq_some_iff] at found
    obtain ⟨attempt, place, rfl⟩ := found
    have plan := trail.plan place
    refine ⟨attempt.plan, attempt.outcome, plan, (Blueprint.ofRequest_plan request plan).1, ?_⟩
    rw [← (trail.clock place).1]
    rfl
  · intro uncut
    rw [result, ne_eq, StartsEnd.result_eq_false_iff] at uncut
    obtain ⟨earlier, last, rfl, clock⟩ := trail.clock_of_uncut uncut planned
    refine ⟨earlier.map (Attempt.event settings.serverExecutable), _, List.map_append, ?_⟩
    rw [scene, clock, List.length_map]
  · intro complete
    obtain rfl := StartsEnd.result_eq_true_iff.1 (result.symm.trans complete)
    obtain ⟨earlier, last, rfl, clock⟩ := trail.clock_of_uncut nofun planned
    have all := congrArg List.length trail.plans_of_complete
    rw [count, List.length_map, List.length_append, List.length_singleton] at all
    refine ⟨by simpa using all, ?_⟩
    rw [scene, clock, ← all, Nat.add_sub_cancel]
  · intro instant
    rw [scene]
    exact trail.clock_of_instant (congrArg UInt64.toNat instant)

/-- Three replicas: the first start is at 250 milliseconds, and the sender goes away in the first
    pause. -/
theorem launch_timed_sender_lost :
    ∃ launcher : Launcher ReplicaId,
      Blueprint.ofRequest Settings.standard 3 none = .ok launcher.blueprint ∧
      launcher.children = [] ∧
      let world : World Script ReplicaId := .fresh ⟨250, .fresh, [⟨700, .close⟩]⟩ ⟨[], [], []⟩
      let outcome := launcher.launch scriptedSpawner .fresh world
      (∃ attempts, Timed Settings.standard 3 launcher scriptedSpawner .fresh world outcome
        attempts) ∧
      outcome.result = .ok true ∧
      Receiver.fresh.hasUnseen outcome.world.scene.channel = false := by
  let world : World Script ReplicaId := .fresh ⟨250, .fresh, [⟨700, .close⟩]⟩ ⟨[], [], []⟩
  obtain ⟨blueprint, request, ended⟩ : ∃ blueprint,
      Blueprint.ofRequest Settings.standard 3 none = .ok blueprint ∧
        (let outcome := (Launcher.ofBlueprint blueprint).launch scriptedSpawner .fresh world
        outcome.result.toOption == some true &&
          Receiver.fresh.hasUnseen outcome.world.scene.channel == false) = true :=
    exists_of_any (by decide)
  obtain ⟨complete, nothing⟩ := Bool.and_eq_true_iff.1 ended
  let launcher : Launcher ReplicaId := .ofBlueprint blueprint
  exact ⟨launcher, request, rfl, launch_timed request rfl scriptedSpawner .fresh world,
    eq_ok_of_toOption (beq_iff_eq.1 complete), beq_iff_eq.1 nothing⟩

end Launcher

end ClusterLaunch
