import Mathlib.Data.List.TakeWhile
import ClusterLaunch.Proofs.Launcher.Record
import ClusterLaunch.Proofs.Launcher.Unnoticed

/-! # Launches with and without pauses

The look before a start and the wait in a pause go by different rules. A closed channel gives the
look no answer, which counts as no signal; the wait still finds a version that was sent before
the channel was closed. So two launches whose signals all arrive before the launch or in a start
are alike but for the times, unless some start after the first begins with such a version left
on a closed channel. Before the first such start the launch with pauses is cut short, and the
launch without them goes on.
-/

namespace ClusterLaunch

variable {σ η : Type}

def Event.untimed : Event η → Event η
  | start id executable arguments _ outcome => .start id executable arguments 0 outcome
  | stop id handle outcome => .stop id handle outcome

namespace World

def untimed (world : World σ η) : World σ η :=
  { world with
    scene := { world.scene with clock := 0 }
    events := world.events.map Event.untimed }

theorem log_untimed (world : World σ η) (level : LogLevel) (message : String) :
    (world.log level message).untimed = world.untimed.log level message := rfl

private theorem stop_untimed (world : World σ η) (spawner : Spawner σ η) (id : ReplicaId)
    (handle : η) :
    world.untimed.stop spawner id handle =
      ((world.stop spawner id handle).1, (world.stop spawner id handle).2.untimed) := by
  simp [stop, untimed, Event.untimed]

theorem unnoticed_untimed (spawner : Spawner σ η) : Unnoticed spawner spawner untimed :=
  ⟨fun _ _ _ => rfl, fun world => world.stop_untimed spawner⟩

end World

namespace Launcher

theorem startOne_untimed (spawner : Spawner σ η) (executable : String) (plan : LaunchPlan)
    (world : World σ η) :
    startOne spawner executable plan world.untimed =
      ((startOne spawner executable plan world).1,
        (startOne spawner executable plan world).2.untimed) := by
  simp [startOne, World.start, World.log, World.untimed, Event.untimed]

theorem stopAll_untimed (spawner : Spawner σ η) (entries : List (ReplicaId × η))
    (world : World σ η) :
    (stopAll spawner entries world).untimed = stopAll spawner entries world.untimed :=
  (World.unnoticed_untimed spawner).stopAll entries world |>.symm

private theorem release_untimed (launcher : Launcher η) (spawner : Spawner σ η)
    (world : World σ η) :
    (launcher.release spawner world).2.untimed =
      (launcher.release spawner world.untimed).2 := by
  rw [(World.unnoticed_untimed spawner).release]

theorem startOne_quiet {spawner : Spawner σ η} {executable : String} {plan : LaunchPlan}
    {world after : World σ η} {outcome : Except String η}
    (start : startOne spawner executable plan world = (outcome, after))
    (quiet : world.scene.agenda = []) : after.scene.agenda = [] :=
  (congrArg (·.2.scene.agenda) start).symm.trans quiet

private theorem startOne_alike {spawner : Spawner σ η} {executable : String} {plan : LaunchPlan}
    {world world' after : World σ η} {outcome : Except String η}
    (alike : world'.untimed = world.untimed)
    (start : startOne spawner executable plan world = (outcome, after)) :
    ∃ after', startOne spawner executable plan world' = (outcome, after') ∧
      after'.untimed = after.untimed := by
  have same := startOne_untimed spawner executable plan world'
  rw [alike, startOne_untimed, start] at same
  obtain ⟨answer, later⟩ := Prod.mk.inj same
  exact ⟨(startOne spawner executable plan world').2, Prod.ext answer.symm rfl, later.symm⟩

end Launcher

private theorem Scene.Elapses.channel_of_quiet {limit : Nat} {scene later : Scene}
    (h : scene.Elapses limit later) (quiet : scene.agenda = []) :
    later.channel = scene.channel := by
  obtain ⟨past, agenda, -, same⟩ := h
  obtain ⟨rfl, -⟩ := List.append_eq_nil_iff.1 (agenda.symm.trans quiet)
  exact same

def Settings.paced (settings : Settings) (stagger : UInt64) : Settings :=
  { settings with staggerMs := stagger }

namespace Launcher

/-- The launcher with pauses of this many milliseconds. -/
def paced (launcher : Launcher η) (stagger : UInt64) : Launcher η :=
  { launcher with
    blueprint := { launcher.blueprint with
      settings := launcher.blueprint.settings.paced stagger } }

theorem release_paced (launcher : Launcher η) (stagger : UInt64) (spawner : Spawner σ η)
    (world : World σ η) :
    ((launcher.paced stagger).release spawner world).2 =
      (launcher.release spawner world).2 := by
  unfold release
  cases reap : launcher.blueprint.settings.reapOnExit <;>
    simp only [paced, Settings.paced, reap] <;> rfl

theorem turn_unpaused (settings : Settings) (first : Bool) (receiver : Receiver)
    (world : World σ η) :
    turn (settings.paced 0) first receiver world = (false, receiver, world) := by
  simp [turn, Settings.paced]

theorem dueWorld_unpaused (settings : Settings) (first : Bool) (world : World σ η) :
    dueWorld (settings.paced 0) first world = world :=
  dueWorld_of_instant rfl first world

private theorem dueWorld_untimed (settings : Settings) (first : Bool) {world : World σ η}
    (quiet : world.scene.agenda = []) :
    (dueWorld settings first world).untimed = world.untimed := by
  obtain ⟨⟨clock, channel, agenda⟩, state, events, logs⟩ := world
  obtain rfl : agenda = [] := quiet
  unfold dueWorld
  split <;> rfl

private theorem turn_of_unseen (settings : Settings) (positive : 0 < settings.staggerMs.toNat)
    {receiver : Receiver} {world : World σ η}
    (unseen : receiver.hasUnseen world.scene.channel = true) :
    turn settings false receiver world =
      (true, receiver.markSeen world.scene.channel, world) := by
  rw [turn, if_neg (by simpa using Nat.ne_of_gt positive), pause, Scene.wait_of_unseen _ unseen]

/-- With no signal to come, a pause is cut short only by a version that is there already. -/
theorem turn_of_quiet (settings : Settings) (first : Bool) {receiver : Receiver}
    {world : World σ η} (quiet : world.scene.agenda = [])
    (nothing : receiver.hasUnseen world.scene.channel = false) :
    turn settings first receiver world = (false, receiver, dueWorld settings first world) := by
  cases caught : (turn settings first receiver world).1 with
  | false => exact turn_uncaught caught
  | true =>
      obtain ⟨-, positive, scene, waited, -⟩ := turn_caught caught
      have elapsed := world.scene.wait_elapses receiver positive
      have found := world.scene.wait_poll receiver settings.staggerMs.toNat
      rw [waited] at elapsed found
      rw [elapsed.channel_of_quiet quiet, Receiver.poll_eq_change_iff, nothing] at found
      cases found

end Launcher

namespace Attempt

/-- Does the attempt begin when the sender is gone and has left a version that the receiver has
    not seen? -/
def isStale (receiver : Receiver) (attempt : Attempt σ η) : Bool :=
  !attempt.before.scene.channel.isOpen && attempt.isLate receiver

end Attempt

namespace Launcher

/-- The attempts of a course before the first look that finds a version. -/
def overlooked (receiver : Receiver) (course : List (Attempt σ η)) : List (Attempt σ η) :=
  course.takeWhile fun attempt => !isCut false receiver attempt.before.scene.channel

/-- How the starting with pauses follows the starting without them, by the attempts of the
    latter. -/
inductive Follows (receiver : Receiver) (made : List (Attempt σ η))
    (unpaused paced : StartsEnd × List (ReplicaId × η) × Receiver × World σ η) : Prop where
  | through (fresh : ∀ attempt ∈ made, attempt.isStale receiver = false)
      (ending : paced.1 = unpaused.1) (children : paced.2.1 = unpaused.2.1)
      (world : paced.2.2.2.untimed = unpaused.2.2.2.untimed)
  | apart {earlier later : List (Attempt σ η)} {stale : Attempt σ η}
      (split : made = earlier ++ stale :: later)
      (fresh : ∀ attempt ∈ earlier, attempt.isStale receiver = false)
      (lost : stale.isStale receiver = true) (goesOn : unpaused.1 ≠ .interrupted)
      (ending : paced.1 = .interrupted) (world : paced.2.2.2.untimed = stale.before.untimed)

theorem Follows.cons {receiver : Receiver} {made : List (Attempt σ η)} {attempt : Attempt σ η}
    {unpaused paced : StartsEnd × List (ReplicaId × η) × Receiver × World σ η}
    (fresh : attempt.isStale receiver = false) (h : Follows receiver made unpaused paced) :
    Follows receiver (attempt :: made) unpaused paced := by
  cases h with
  | through others ending children world =>
      exact .through (List.forall_mem_cons.2 ⟨fresh, others⟩) ending children world
  | @apart earlier later stale split others lost goesOn ending world =>
      exact .apart (congrArg (attempt :: ·) split) (List.forall_mem_cons.2 ⟨fresh, others⟩) lost
        goesOn ending world

section

variable {spawner : Spawner σ η} {settings : Settings}

/-- Without pauses, a starting is not cut short once the channel is closed. -/
theorem startAll_of_closed (first : Bool) (plans : List LaunchPlan)
    (children : List (ReplicaId × η)) (receiver : Receiver) {world : World σ η}
    (closed : world.scene.channel.isOpen = false) :
    (startAll spawner (settings.paced 0) first plans children receiver world).1 ≠
      .interrupted := by
  intro interrupted
  obtain ⟨ending, started, receiver', world', run, starting⟩ :=
    startAll_starting spawner (settings.paced 0) first plans children receiver world
  rw [run] at interrupted
  obtain rfl : ending = .interrupted := interrupted
  obtain ⟨made, trail⟩ := starting.trail
  have reaches := trail.reaches
  have last := trail.cut
  generalize worldAfter world made = before, (first && made.isEmpty) = first',
    plans.drop made.length = rest at last
  cases last with
  | checked _ opened => rw [reaches.isOpen opened] at closed; cases closed
  | caught positive => cases positive

theorem startAll_cut {first caught : Bool} {plan : LaunchPlan} {receiver receiver' : Receiver}
    {world due : World σ η} (took : turn settings first receiver world = (caught, receiver', due))
    (cut : isCut caught receiver' due.scene.channel = true) (rest : List LaunchPlan)
    (children : List (ReplicaId × η)) :
    startAll spawner settings first (plan :: rest) children receiver world =
      (.interrupted, children, receiver', due) := by
  rw [startAll_cons, took]
  exact if_pos cut

theorem startAll_clear {first : Bool} {plan : LaunchPlan} {receiver receiver' : Receiver}
    {world due after : World σ η} {outcome : Except String η}
    (took : turn settings first receiver world = (false, receiver', due))
    (clear : isCut false receiver' due.scene.channel = false)
    (start : startOne spawner settings.serverExecutable plan due = (outcome, after))
    (rest : List LaunchPlan) (children : List (ReplicaId × η)) :
    startAll spawner settings first (plan :: rest) children receiver world =
      match outcome with
      | .ok handle =>
          startAll spawner settings false rest (children ++ [(plan.id, handle)]) receiver' after
      | .error cause => (.failed plan cause, children, receiver', after) := by
  rw [startAll_cons, took]
  simp only [clear, start, Bool.false_eq_true, if_false]
  cases outcome <;> rfl

theorem nextAttempt_unpaused {plan : LaunchPlan} {world after : World σ η}
    {outcome : Except String η}
    (start : startOne spawner settings.serverExecutable plan world = (outcome, after))
    (first : Bool) :
    nextAttempt spawner (settings.paced 0) first plan world = ⟨plan, world, outcome, after⟩ := by
  unfold nextAttempt
  rw [dueWorld_unpaused]
  exact congrArg (fun answer => Attempt.mk plan world answer.1 answer.2) start

theorem overlooked_cons {receiver : Receiver} {attempt : Attempt σ η}
    {course : List (Attempt σ η)} :
    overlooked receiver (attempt :: course) =
      if isCut false receiver attempt.before.scene.channel then []
      else attempt :: overlooked receiver course := by
  unfold overlooked
  rw [List.takeWhile_cons]
  cases isCut false receiver attempt.before.scene.channel <;> rfl

/-- A pause catches what the receiver has not seen; a look finds it only while the sender is
    there. -/
theorem startAll_part {stagger : UInt64} (positive : 0 < stagger.toNat) (plan : LaunchPlan)
    (rest : List LaunchPlan) (children : List (ReplicaId × η)) {receiver : Receiver}
    {world world' : World σ η} (alike : world'.untimed = world.untimed)
    (unseen : receiver.hasUnseen world.scene.channel = true) :
    Follows receiver
      (overlooked receiver (courseFrom spawner (settings.paced 0) false (plan :: rest) world))
      (startAll spawner (settings.paced 0) false (plan :: rest) children receiver world)
      (startAll spawner (settings.paced stagger) false (plan :: rest) children receiver
        world') := by
  have channel : world'.scene.channel = world.scene.channel := congrArg (·.scene.channel) alike
  have before : (nextAttempt spawner (settings.paced 0) false plan world).before = world :=
    dueWorld_unpaused settings false world
  have looked := turn_unpaused settings false receiver world
  have took := turn_of_unseen (settings.paced stagger) positive (channel.symm ▸ unseen)
  rw [courseFrom_cons, overlooked_cons, before, startAll_cut took rfl]
  cases cut : isCut false receiver world.scene.channel with
  | true =>
      rw [startAll_cut looked cut, if_pos rfl]
      exact .through (List.forall_mem_nil _) rfl rfl alike
  | false =>
      have closed : world.scene.channel.isOpen = false := by
        rw [isCut_uncaught, unseen, Bool.and_true] at cut
        exact cut
      rw [if_neg Bool.false_ne_true]
      refine .apart (List.nil_append _).symm (List.forall_mem_nil _) ?_
        (startAll_of_closed false _ children receiver closed) rfl ?_
      · rw [Attempt.isStale, Attempt.isLate, before, closed, unseen]
        rfl
      · rw [before, alike]

/-- Behind the first start, the launches follow each other start by start. -/
theorem startAll_follows {stagger : UInt64} (positive : 0 < stagger.toNat)
    (plans : List LaunchPlan) (children : List (ReplicaId × η)) (receiver : Receiver)
    {world world' : World σ η} (quiet : world.scene.agenda = [])
    (alike : world'.untimed = world.untimed) :
    Follows receiver
      (overlooked receiver (courseFrom spawner (settings.paced 0) false plans world))
      (startAll spawner (settings.paced 0) false plans children receiver world)
      (startAll spawner (settings.paced stagger) false plans children receiver world') := by
  induction plans generalizing children world world' with
  | nil => exact .through (List.forall_mem_nil _) rfl rfl alike
  | cons plan rest ih =>
      cases unseen : receiver.hasUnseen world.scene.channel with
      | true => exact startAll_part positive plan rest children alike unseen
      | false =>
          have quiet' : world'.scene.agenda = [] := (congrArg (·.scene.agenda) alike).trans quiet
          have due := dueWorld_untimed (settings.paced stagger) false quiet'
          have channel : world'.scene.channel = world.scene.channel :=
            congrArg (·.scene.channel) alike
          have still : (dueWorld (settings.paced stagger) false world').scene.channel =
              world.scene.channel := (congrArg (·.scene.channel) due).trans channel
          have clear : isCut false receiver world.scene.channel = false := by
            rw [isCut_uncaught, unseen, Bool.and_false]
          have looked := turn_unpaused settings false receiver world
          have took := turn_of_quiet (settings.paced stagger) false quiet' (channel.symm ▸ unseen)
          rcases start : startOne spawner settings.serverExecutable plan world with
            ⟨outcome, after⟩
          obtain ⟨after', start', alike'⟩ := startOne_alike (due.trans alike) start
          have attempt : nextAttempt spawner (settings.paced 0) false plan world =
              ⟨plan, world, outcome, after⟩ := nextAttempt_unpaused start false
          have fresh : Attempt.isStale receiver ⟨plan, world, outcome, after⟩ = false := by
            rw [Attempt.isStale, Attempt.isLate, unseen, Bool.and_false]
          rw [courseFrom_cons, overlooked_cons, attempt, clear, if_neg Bool.false_ne_true,
            startAll_clear looked clear start, startAll_clear took (still ▸ clear) start']
          cases outcome with
          | error cause => exact .through (List.forall_mem_singleton.2 fresh) rfl rfl alike'
          | ok handle => exact (ih _ (startOne_quiet start quiet) alike').cons fresh

/-- There is no pause before the first start, so a version left on a closed channel does not keep
    it from being made. -/
theorem startAll_follows_first (settings : Settings) {stagger : UInt64}
    (positive : 0 < stagger.toNat) (plans : List LaunchPlan) (children : List (ReplicaId × η))
    (receiver : Receiver) {world : World σ η} (quiet : world.scene.agenda = []) :
    Follows receiver
      (overlooked receiver (courseFrom spawner (settings.paced 0) true plans world)).tail
      (startAll spawner (settings.paced 0) true plans children receiver world)
      (startAll spawner (settings.paced stagger) true plans children receiver world) := by
  cases plans with
  | nil => exact .through (List.forall_mem_nil _) rfl rfl rfl
  | cons plan rest =>
      rcases start : startOne spawner settings.serverExecutable plan world with ⟨outcome, after⟩
      have looked (stagger : UInt64) :
          turn (settings.paced stagger) true receiver world = (false, receiver, world) := rfl
      rw [courseFrom_cons, overlooked_cons, nextAttempt_unpaused start true]
      cases cut : isCut false receiver world.scene.channel with
      | true =>
          rw [startAll_cut (looked 0) cut, startAll_cut (looked stagger) cut, if_pos rfl]
          exact .through (List.forall_mem_nil _) rfl rfl rfl
      | false =>
          rw [startAll_clear (looked 0) cut start, startAll_clear (looked stagger) cut start,
            if_neg Bool.false_ne_true]
          cases outcome with
          | error cause => exact .through (List.forall_mem_nil _) rfl rfl rfl
          | ok handle =>
              exact startAll_follows positive rest _ receiver (startOne_quiet start quiet) rfl

private theorem Trail.eq_overlooked {receiver receiver' : Receiver} {first : Bool}
    {plans : List LaunchPlan} {world world' : World σ η} {made : List (Attempt σ η)}
    {ending : StartsEnd}
    (h : Trail spawner (settings.paced 0) receiver first plans world made ending receiver' world') :
    made = overlooked receiver (courseFrom spawner (settings.paced 0) first plans world) := by
  induction h with
  | complete => rfl
  | @checked first plan rest world _ opened unseen =>
      rw [courseFrom_cons, overlooked_cons, nextAttempt_before, dueWorld_unpaused, isCut_uncaught,
        opened, unseen]
      rfl
  | caught positive => cases positive
  | failed clear outcome =>
      rw [courseFrom_of_error outcome, overlooked_cons, nextAttempt_before, clear]
      rfl
  | started clear outcome _ ih =>
      rw [courseFrom_of_ok outcome, overlooked_cons, nextAttempt_before, clear, ← ih]
      rfl

theorem courseFrom_asked {first : Bool} {plans : List LaunchPlan} {world : World σ η}
    {earlier later : List (Attempt σ η)} {attempt : Attempt σ η}
    (h : courseFrom spawner settings first plans world = earlier ++ attempt :: later) :
    Asked spawner world (earlier.map (Attempt.event settings.serverExecutable))
      attempt.before := by
  induction plans generalizing first world earlier with
  | nil => simp [courseFrom] at h
  | cons plan rest ih =>
      rw [courseFrom_cons] at h
      cases earlier with
      | nil =>
          obtain ⟨rfl, -⟩ := List.cons.inj h
          exact dueWorld_asked spawner settings first world
      | cons _ earlier =>
          obtain ⟨rfl, others⟩ := List.cons.inj h
          split at others
          · exact (nextAttempt_asked ..).trans (ih others)
          · cases earlier <;> cases others

end

/-- The outcomes are alike but for the times. -/
structure Alike (outcome outcome' : Outcome σ η) : Prop where
  result : outcome.result = outcome'.result
  children : outcome.launcher.children = outcome'.launcher.children
  world : outcome.world.untimed = outcome'.world.untimed

theorem launch_alike {launcher : Launcher η} {stagger : UInt64} {spawner : Spawner σ η}
    {receiver : Receiver} {world : World σ η} (idle : launcher.children = [])
    (ending : ((launcher.paced stagger).starting spawner receiver world).1 =
      ((launcher.paced 0).starting spawner receiver world).1)
    (children : ((launcher.paced stagger).starting spawner receiver world).2.1 =
      ((launcher.paced 0).starting spawner receiver world).2.1)
    (alike : ((launcher.paced stagger).starting spawner receiver world).2.2.2.untimed =
      ((launcher.paced 0).starting spawner receiver world).2.2.2.untimed) :
    Alike ((launcher.paced stagger).launch spawner receiver world)
      ((launcher.paced 0).launch spawner receiver world) := by
  simp only [starting, paced] at ending children alike
  simp only [launch, paced, idle, List.isEmpty_nil, Bool.not_true, Bool.false_eq_true, if_false]
  generalize startAll spawner (launcher.blueprint.settings.paced 0) true
    launcher.blueprint.plans [] receiver world = unpaused at *
  generalize startAll spawner (launcher.blueprint.settings.paced stagger) true
    launcher.blueprint.plans [] receiver world = paused at *
  obtain ⟨ended, started, receiver₀, world₀⟩ := unpaused
  obtain ⟨ended', started', receiver₁, world₁⟩ := paused
  obtain rfl : ended' = ended := ending
  obtain rfl : started' = started := children
  cases ended' with
  | complete =>
      refine ⟨rfl, rfl, ?_⟩
      simp only [World.log_untimed, alike]
      rfl
  | interrupted =>
      refine ⟨rfl, by simp only [release_launcher], ?_⟩
      simp only [release_untimed, World.log_untimed, alike]
      exact (release_paced { launcher with children := started' } stagger spawner _).trans
        (release_paced { launcher with children := started' } 0 spawner _).symm
  | failed plan cause =>
      refine ⟨rfl, rfl, ?_⟩
      simp only [logged, terminateAll, World.log_untimed, stopAll_untimed, alike]

/-- The attempts of the launch without pauses, which looks for a version before each. -/
def unpausedAttempts (launcher : Launcher η) (spawner : Spawner σ η) (receiver : Receiver)
    (world : World σ η) : List (Attempt σ η) :=
  if launcher.children.isEmpty then
    overlooked receiver ((launcher.paced 0).course spawner world)
  else []

/-- The very first attempt, and those behind it before the first that begins stale. -/
def beforeStale (receiver : Receiver) : List (Attempt σ η) → List (Attempt σ η)
  | [] => []
  | first :: rest => first :: rest.takeWhile fun attempt => !attempt.isStale receiver

/-- What pauses change in a launch, by the attempts of the launch without them. -/
structure Paced (executable : String) (spawner : Spawner σ η) (receiver : Receiver)
    (world : World σ η) (made : List (Attempt σ η)) (unpaused paced : Outcome σ η) : Prop where
  attempts : Attempted spawner world unpaused.world (made.map (Attempt.event executable))
  /-- Apart from the times, the launch with pauses makes the first of these attempts. -/
  paced_attempts : ∃ attempts, Attempted spawner world paced.world attempts ∧
    attempts.map Event.untimed =
      (beforeStale receiver made).map fun attempt => (attempt.event executable).untimed
  alike_iff : Alike paced unpaused ↔ ∀ attempt ∈ made.tail, attempt.isStale receiver = false
  cut : (∃ attempt ∈ made.tail, attempt.isStale receiver = true) →
    paced.result = .ok false ∧ unpaused.result ≠ .ok false

private theorem beforeStale_of_fresh {receiver : Receiver} {made : List (Attempt σ η)}
    (fresh : ∀ attempt ∈ made.tail, attempt.isStale receiver = false) :
    beforeStale receiver made = made := by
  cases made with
  | nil => rfl
  | cons first rest =>
      rw [beforeStale, List.takeWhile_eq_self_iff.2]
      intro attempt member
      rw [fresh attempt member]
      rfl

private theorem beforeStale_of_split {receiver : Receiver} {first stale : Attempt σ η}
    {earlier later : List (Attempt σ η)}
    (fresh : ∀ attempt ∈ earlier, attempt.isStale receiver = false)
    (lost : stale.isStale receiver = true) :
    beforeStale receiver (first :: (earlier ++ stale :: later)) = first :: earlier := by
  rw [beforeStale, List.takeWhile_append_of_pos, List.takeWhile_cons, lost]
  · simp
  · intro attempt member
    rw [fresh attempt member]
    rfl

/-- Worlds alike but for the times have alike records behind the same beginning. -/
theorem rows_alike {world world' world'' : World σ η} {row row' : List (Event η)}
    (alike : world''.untimed = world'.untimed) (record : world'.events = world.events ++ row)
    (record' : world''.events = world.events ++ row') :
    row'.map Event.untimed = row.map Event.untimed := by
  have same : world''.events.map Event.untimed = world'.events.map Event.untimed :=
    congrArg World.events alike
  rw [record, record', List.map_append, List.map_append] at same
  exact List.append_cancel_left same

/-- The launch with pauses makes the attempts of the other up to where they part. -/
theorem Follows.attempts {spawner : Spawner σ η} {settings : Settings} {receiver : Receiver}
    {plans : List LaunchPlan} {world : World σ η} {made : List (Attempt σ η)}
    {unpaused paced : StartsEnd × List (ReplicaId × η) × Receiver × World σ η}
    {row : List (Event η)} (h : Follows receiver made.tail unpaused paced)
    (begins : made <+: courseFrom spawner settings true plans world)
    (record : unpaused.2.2.2.events =
      world.events ++ made.map (Attempt.event settings.serverExecutable))
    (record' : paced.2.2.2.events = world.events ++ row) :
    row.map Event.untimed = (beforeStale receiver made).map fun attempt =>
      (attempt.event settings.serverExecutable).untimed := by
  cases h with
  | through fresh _ _ alike =>
      rw [beforeStale_of_fresh fresh, rows_alike alike record record', List.map_map]
      rfl
  | @apart earlier later stale split fresh lost _ _ alike =>
      cases made with
      | nil => simp at split
      | cons first rest =>
          obtain rfl : rest = earlier ++ stale :: later := split
          obtain ⟨others, prefixed⟩ := begins
          have reached : courseFrom spawner settings true plans world =
              (first :: earlier) ++ stale :: (later ++ others) := by
            simp [← prefixed]
          rw [beforeStale_of_split fresh lost,
            rows_alike alike (courseFrom_asked reached).record record', List.map_map]
          rfl

theorem Follows.outcomes {receiver : Receiver} {made : List (Attempt σ η)}
    {starting starting' : StartsEnd × List (ReplicaId × η) × Receiver × World σ η}
    {unpaused paced : Outcome σ η} (h : Follows receiver made starting starting')
    (alike : starting'.1 = starting.1 → starting'.2.1 = starting.2.1 →
      starting'.2.2.2.untimed = starting.2.2.2.untimed → Alike paced unpaused)
    (result : unpaused.result = starting.1.result)
    (result' : paced.result = starting'.1.result) :
    (Alike paced unpaused ↔ ∀ attempt ∈ made, attempt.isStale receiver = false) ∧
      ((∃ attempt ∈ made, attempt.isStale receiver = true) →
        paced.result = .ok false ∧ unpaused.result ≠ .ok false) := by
  cases h with
  | through fresh ending children world =>
      refine ⟨iff_of_true (alike ending children world) fresh, ?_⟩
      rintro ⟨stale, member, lost⟩
      rw [fresh stale member] at lost
      cases lost
  | @apart earlier later stale split fresh lost goesOn ending world =>
      have cut : paced.result = .ok false := by
        rw [result', ending]
        rfl
      have missed : unpaused.result ≠ .ok false := by
        rw [result, Ne, StartsEnd.result_eq_false_iff]
        exact goesOn
      refine ⟨iff_of_false ?_ ?_, fun _ => ⟨cut, missed⟩⟩
      · intro same
        exact missed (same.result.symm.trans cut)
      · intro none
        have member : stale ∈ made := by simp [split]
        rw [none stale member] at lost
        cases lost

private theorem paced_of_busy {launcher : Launcher η} (busy : launcher.children ≠ [])
    (stagger : UInt64) (spawner : Spawner σ η) (receiver : Receiver) (world : World σ η) :
    Paced launcher.blueprint.settings.serverExecutable spawner receiver world
      (launcher.unpausedAttempts spawner receiver world)
      ((launcher.paced 0).launch spawner receiver world)
      ((launcher.paced stagger).launch spawner receiver world) := by
  have none : launcher.unpausedAttempts spawner receiver world = [] := by
    rw [unpausedAttempts, if_neg (by simpa using busy)]
  have refused (stagger : UInt64) :=
    launch_of_busy (launcher.paced stagger) busy spawner receiver world
  rw [none, refused, refused]
  refine ⟨.nothing rfl rfl, ⟨[], .nothing rfl rfl, rfl⟩,
    iff_of_true ⟨rfl, rfl, rfl⟩ (List.forall_mem_nil _), ?_⟩
  rintro ⟨attempt, member, -⟩
  cases member

/-- Pauses change nothing but the times, unless a start after the first begins when the sender
    is gone and has left a version behind: there a launch with pauses is cut short. -/
theorem launch_paced (launcher : Launcher η) {stagger : UInt64} (positive : 0 < stagger)
    (spawner : Spawner σ η) (receiver : Receiver) {world : World σ η}
    (quiet : world.scene.agenda = []) :
    Paced launcher.blueprint.settings.serverExecutable spawner receiver world
      (launcher.unpausedAttempts spawner receiver world)
      ((launcher.paced 0).launch spawner receiver world)
      ((launcher.paced stagger).launch spawner receiver world) := by
  by_cases idle : launcher.children = []
  · have course : launcher.unpausedAttempts spawner receiver world =
        overlooked receiver ((launcher.paced 0).course spawner world) := by
      rw [unpausedAttempts, idle, List.isEmpty_nil, if_pos rfl]
    obtain ⟨made, trail, -, -, attempted, result⟩ :=
      launch_of_starting (launcher.paced 0) idle spawner receiver world
    obtain ⟨made', trail', -, -, attempted', result'⟩ :=
      launch_of_starting (launcher.paced stagger) idle spawner receiver world
    have whole : made = overlooked receiver ((launcher.paced 0).course spawner world) :=
      trail.eq_overlooked
    have follows : Follows receiver made.tail ((launcher.paced 0).starting spawner receiver world)
        ((launcher.paced stagger).starting spawner receiver world) :=
      whole ▸ startAll_follows_first launcher.blueprint.settings
        (UInt64.lt_iff_toNat_lt.1 positive) launcher.blueprint.plans [] receiver quiet
    obtain ⟨alike_iff, cut⟩ := follows.outcomes (launch_alike idle) result result'
    have rows := follows.attempts trail.prefix_course trail.asked.record trail'.asked.record
    rw [course, ← whole]
    exact ⟨attempted, ⟨_, attempted', rows⟩, alike_iff, cut⟩
  · exact paced_of_busy idle stagger spawner receiver world

/-- A version is sent, and the sender goes away, while the first of three replicas is started:
    the launch without pauses starts the other two, and the launch with pauses does not. -/
theorem launch_paced_sender_lost :
    ∃ launcher : Launcher ReplicaId, setup Settings.standard 3 none = .ok launcher ∧
      let world : World Script ReplicaId :=
        .fresh .fresh ⟨[], [], [(0, .send true), (0, .close)]⟩
      let unpaused := (launcher.paced 0).launch scriptedSpawner .fresh world
      let paced := (launcher.paced 2000).launch scriptedSpawner .fresh world
      Paced launcher.blueprint.settings.serverExecutable scriptedSpawner .fresh world
        (launcher.unpausedAttempts scriptedSpawner .fresh world) unpaused paced ∧
      unpaused.result = .ok true ∧ paced.result = .ok false := by
  let world : World Script ReplicaId := .fresh .fresh ⟨[], [], [(0, .send true), (0, .close)]⟩
  obtain ⟨launcher, checked, results⟩ : ∃ launcher : Launcher ReplicaId,
      setup Settings.standard 3 none = .ok launcher ∧
        (((launcher.paced 0).launch scriptedSpawner .fresh world).result.toOption == some true &&
          ((launcher.paced 2000).launch scriptedSpawner .fresh world).result.toOption ==
            some false) = true :=
    exists_of_any (by decide)
  obtain ⟨complete, cut⟩ := Bool.and_eq_true_iff.1 results
  have positive : (0 : UInt64) < 2000 := by decide
  refine ⟨launcher, checked, launch_paced launcher positive scriptedSpawner .fresh rfl, ?_, ?_⟩
  · exact eq_ok_of_toOption (beq_iff_eq.1 complete)
  · exact eq_ok_of_toOption (beq_iff_eq.1 cut)

end Launcher

end ClusterLaunch
