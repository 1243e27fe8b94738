import ClusterLaunch.Proofs.Launcher.Replay
import ClusterLaunch.Proofs.Signal.Waiting

/-! # The course of a launch

A launch that no signal cuts short takes a course that is known beforehand: one start attempt
after the other, each after a full pause, up to the first that fails. The course asks no
receiver. A launch with a receiver makes the first attempts of this course, and the rules of
its trail say where it leaves off and what has been seen by then.
-/

namespace ClusterLaunch

variable {σ η : Type}

/-- A start attempt: the world in which it begins, how it goes, and the world it leaves. -/
structure Attempt (σ η : Type) where
  plan : LaunchPlan
  before : World σ η
  outcome : Except String η
  after : World σ η

namespace Attempt

def event (executable : String) (attempt : Attempt σ η) : Event η :=
  .start attempt.plan.id executable attempt.plan.arguments attempt.before.scene.clock
    attempt.outcome

/-- Does the attempt begin when there is a version that the receiver has not seen? -/
def isLate (receiver : Receiver) (attempt : Attempt σ η) : Bool :=
  receiver.hasUnseen attempt.before.scene.channel

end Attempt

/-- The attempt goes as the spawner answers it, and what it signals meanwhile has arrived. -/
structure Attempt.Answered (spawner : Spawner σ η) (executable : String)
    (attempt : Attempt σ η) : Prop where
  outcome : attempt.outcome = (spawner.start attempt.plan.id executable attempt.plan.arguments
    attempt.before.spawner).outcome
  channel : attempt.after.scene.channel = attempt.before.scene.channel.applyAll
    (spawner.start attempt.plan.id executable attempt.plan.arguments
      attempt.before.spawner).signals
  state : attempt.after.spawner = (spawner.start attempt.plan.id executable
    attempt.plan.arguments attempt.before.spawner).state

namespace Launcher

/-- The world in which the next start is due: a full pause has passed, unless it is the very
    first start or there are no pauses. -/
def dueWorld (settings : Settings) (first : Bool) (world : World σ η) : World σ η :=
  if first || settings.staggerMs.toNat == 0 then world
  else { world with scene := world.scene.sleep settings.staggerMs.toNat }

def nextAttempt (spawner : Spawner σ η) (settings : Settings) (first : Bool) (plan : LaunchPlan)
    (world : World σ η) : Attempt σ η :=
  let before := dueWorld settings first world
  let (outcome, after) := startOne spawner settings.serverExecutable plan before
  ⟨plan, before, outcome, after⟩

/-- The attempts for the plans left if nothing cuts them short, up to the first that fails. -/
def courseFrom (spawner : Spawner σ η) (settings : Settings) :
    (first : Bool) → List LaunchPlan → World σ η → List (Attempt σ η)
  | _, [], _ => []
  | first, plan :: rest, world =>
      let attempt := nextAttempt spawner settings first plan world
      attempt ::
        match attempt.outcome with
        | .ok _ => courseFrom spawner settings false rest attempt.after
        | .error _ => []

/-- The attempts of a launch that nothing cuts short. -/
def course (launcher : Launcher η) (spawner : Spawner σ η) (world : World σ η) :
    List (Attempt σ η) :=
  courseFrom spawner launcher.blueprint.settings true launcher.blueprint.plans world

/-- The world after some attempts. -/
def worldAfter (world : World σ η) (made : List (Attempt σ η)) : World σ η :=
  made.foldl (fun _ attempt => attempt.after) world

theorem dueWorld_of_atOnce {settings : Settings} {first : Bool}
    (atOnce : (first || settings.staggerMs.toNat == 0) = true) (world : World σ η) :
    dueWorld settings first world = world :=
  if_pos atOnce

theorem dueWorld_of_instant {settings : Settings} (instant : settings.staggerMs.toNat = 0)
    (first : Bool) (world : World σ η) : dueWorld settings first world = world := by
  apply dueWorld_of_atOnce
  rw [instant, beq_self_eq_true, Bool.or_true]

theorem dueWorld_reaches (settings : Settings) (first : Bool) (world : World σ η) :
    world.scene.channel.Reaches (dueWorld settings first world).scene.channel := by
  unfold dueWorld
  split
  · exact .refl _
  · exact world.scene.sleep_reaches _

theorem dueWorld_asked (spawner : Spawner σ η) (settings : Settings) (first : Bool)
    (world : World σ η) : Asked spawner world [] (dueWorld settings first world) := by
  unfold dueWorld
  split <;> exact .nothing rfl rfl

theorem nextAttempt_before (spawner : Spawner σ η) (settings : Settings) (first : Bool)
    (plan : LaunchPlan) (world : World σ η) :
    (nextAttempt spawner settings first plan world).before = dueWorld settings first world := rfl

theorem nextAttempt_reaches (spawner : Spawner σ η) (settings : Settings) (first : Bool)
    (plan : LaunchPlan) (world : World σ η) :
    (dueWorld settings first world).scene.channel.Reaches
      (nextAttempt spawner settings first plan world).after.scene.channel := ⟨_, rfl⟩

theorem reaches_nextAttempt (spawner : Spawner σ η) (settings : Settings) (first : Bool)
    (plan : LaunchPlan) (world : World σ η) :
    world.scene.channel.Reaches
      (nextAttempt spawner settings first plan world).after.scene.channel :=
  (dueWorld_reaches settings first world).trans
    (nextAttempt_reaches spawner settings first plan world)

theorem nextAttempt_asked (spawner : Spawner σ η) (settings : Settings) (first : Bool)
    (plan : LaunchPlan) (world : World σ η) :
    Asked spawner world
      [(nextAttempt spawner settings first plan world).event settings.serverExecutable]
      (nextAttempt spawner settings first plan world).after :=
  (dueWorld_asked spawner settings first world).trans
    (startOne_asked spawner settings.serverExecutable plan (dueWorld settings first world))

theorem stagger_pos {settings : Settings} {first : Bool}
    (h : ¬(first || settings.staggerMs.toNat == 0) = true) :
    first = false ∧ 0 < settings.staggerMs.toNat := by
  simp only [Bool.or_eq_true, beq_iff_eq, not_or, Bool.not_eq_true] at h
  exact ⟨h.1, Nat.pos_of_ne_zero h.2⟩

/-- A turn that catches nothing has let the full pause pass, even on a closed channel. -/
theorem turn_uncaught {settings : Settings} {first : Bool} {receiver : Receiver}
    {world : World σ η} (h : (turn settings first receiver world).1 = false) :
    turn settings first receiver world = (false, receiver, dueWorld settings first world) := by
  unfold turn pause dueWorld at *
  split
  · rfl
  · next paused =>
    obtain ⟨-, positive⟩ := stagger_pos paused
    rw [if_neg paused] at h
    rcases waited : world.scene.wait receiver settings.staggerMs.toNat with ⟨wake, scene⟩
    rw [waited] at h
    cases wake with
    | change => cases h
    | closed => simp only [Scene.wait_closed positive waited]
    | pending => simp only [Scene.wait_pending positive waited]

theorem turn_caught {settings : Settings} {first : Bool} {receiver : Receiver}
    {world : World σ η} (h : (turn settings first receiver world).1 = true) :
    first = false ∧ 0 < settings.staggerMs.toNat ∧ ∃ scene,
      world.scene.wait receiver settings.staggerMs.toNat = (.change, scene) ∧
      turn settings first receiver world =
        (true, receiver.markSeen scene.channel, { world with scene }) := by
  unfold turn pause at *
  split at h
  · cases h
  · next paused =>
    obtain ⟨later, positive⟩ := stagger_pos paused
    refine ⟨later, positive, ?_⟩
    rw [if_neg paused]
    rcases waited : world.scene.wait receiver settings.staggerMs.toNat with ⟨wake, scene⟩
    rw [waited] at h
    cases wake with
    | change => exact ⟨scene, rfl, rfl⟩
    | closed | pending => cases h

/-- How a launch follows its course with a receiver: the attempts that it makes, how the
    starting ends, and the receiver and the world at its end. The receiver stays as it is until
    a pause is cut short. -/
inductive Trail (spawner : Spawner σ η) (settings : Settings) (receiver : Receiver) :
    (first : Bool) → List LaunchPlan → World σ η → List (Attempt σ η) → StartsEnd → Receiver →
      World σ η → Prop where
  | complete {first : Bool} {world : World σ η} :
      Trail spawner settings receiver first [] world [] .complete receiver world
  /-- There is no pause, and the look before the start finds a version. -/
  | checked {first : Bool} {plan : LaunchPlan} {rest : List LaunchPlan} {world : World σ η}
      (atOnce : (first || settings.staggerMs.toNat == 0) = true)
      (opened : world.scene.channel.isOpen = true)
      (unseen : receiver.hasUnseen world.scene.channel = true) :
      Trail spawner settings receiver first (plan :: rest) world [] .interrupted receiver world
  /-- The pause is cut short by a version, which is seen thereby. -/
  | caught {plan : LaunchPlan} {rest : List LaunchPlan} {world : World σ η} {scene : Scene}
      (positive : 0 < settings.staggerMs.toNat)
      (waited : world.scene.wait receiver settings.staggerMs.toNat = (.change, scene)) :
      Trail spawner settings receiver false (plan :: rest) world [] .interrupted
        (receiver.markSeen scene.channel) { world with scene }
  | failed {first : Bool} {plan : LaunchPlan} {rest : List LaunchPlan} {world : World σ η}
      {cause : String}
      (clear : isCut false receiver (dueWorld settings first world).scene.channel = false)
      (outcome : (nextAttempt spawner settings first plan world).outcome = .error cause) :
      Trail spawner settings receiver first (plan :: rest) world
        [nextAttempt spawner settings first plan world] (.failed plan cause) receiver
        (nextAttempt spawner settings first plan world).after
  | started {first : Bool} {plan : LaunchPlan} {rest : List LaunchPlan}
      {world final : World σ η} {handle : η} {made : List (Attempt σ η)} {ending : StartsEnd}
      {receiver' : Receiver}
      (clear : isCut false receiver (dueWorld settings first world).scene.channel = false)
      (outcome : (nextAttempt spawner settings first plan world).outcome = .ok handle)
      (others : Trail spawner settings receiver false rest
        (nextAttempt spawner settings first plan world).after made ending receiver' final) :
      Trail spawner settings receiver first (plan :: rest) world
        (nextAttempt spawner settings first plan world :: made) ending receiver' final

theorem isCut_uncaught (receiver : Receiver) (channel : Channel) :
    isCut false receiver channel = (channel.isOpen && receiver.hasUnseen channel) := by
  unfold isCut Receiver.hasChanged?
  cases channel.isOpen <;> rfl

/-- After a pause that caught nothing there is nothing to find: a version would have ended it. -/
theorem isCut_of_paused {settings : Settings} {first : Bool} {receiver : Receiver}
    {world : World σ η} (paused : ¬(first || settings.staggerMs.toNat == 0) = true)
    (uncaught : (turn settings first receiver world).1 = false) :
    isCut false receiver (dueWorld settings first world).scene.channel = false := by
  obtain ⟨-, positive⟩ := stagger_pos paused
  rw [isCut_uncaught, dueWorld, if_neg paused]
  rw [turn, if_neg paused, pause] at uncaught
  have found := world.scene.wait_poll receiver settings.staggerMs.toNat
  rcases waited : world.scene.wait receiver settings.staggerMs.toNat with ⟨wake, scene⟩
  rw [waited] at uncaught found
  cases wake with
  | change => cases uncaught
  -- Without a version the channel is open and shows none, or it is closed and is not asked.
  | pending =>
      obtain ⟨nothing, -⟩ := Receiver.poll_eq_pending_iff.1 found
      rw [← Scene.wait_pending positive waited, nothing, Bool.and_false]
  | closed =>
      obtain ⟨nothing, closed⟩ := Receiver.poll_eq_closed_iff.1 found
      have elapsed := scene.advanceTo_elapses (world.scene.timeAfter settings.staggerMs.toNat)
      have same := elapsed.reaches.eq_of_closed closed
      rw [Scene.wait_closed positive waited] at same
      rw [same, nothing, Bool.and_false]

private theorem due_of_turn {settings : Settings} {first : Bool} {receiver receiver' : Receiver}
    {world : World σ η} {scene : Scene}
    (took : turn settings first receiver world = (false, receiver', { world with scene })) :
    receiver' = receiver ∧ scene = (dueWorld settings first world).scene ∧
      { world with scene } = dueWorld settings first world := by
  have same := took.symm.trans (turn_uncaught (congrArg Prod.fst took))
  simp only [Prod.mk.injEq, true_and] at same
  exact ⟨same.1, congrArg World.scene same.2, same.2⟩

private theorem uncaught_of_clear {caught : Bool} {receiver : Receiver} {channel : Channel}
    (clear : isCut caught receiver channel = false) : caught = false :=
  (Bool.or_eq_false_iff.1 clear).1

/-- A start that is made behind a turn is made when it is due, with the receiver as it was. -/
theorem startOne_due {spawner : Spawner σ η} {settings : Settings} {first caught : Bool}
    {plan : LaunchPlan} {receiver receiver' : Receiver} {world after : World σ η} {scene : Scene}
    {answer : Except String η}
    (took : turn settings first receiver world = (caught, receiver', { world with scene }))
    (clear : isCut caught receiver' scene.channel = false)
    (start : startOne spawner settings.serverExecutable plan { world with scene } =
      (answer, after)) :
    receiver' = receiver ∧
      isCut false receiver (dueWorld settings first world).scene.channel = false ∧
      startOne spawner settings.serverExecutable plan (dueWorld settings first world) =
        (answer, after) := by
  obtain rfl := uncaught_of_clear clear
  obtain ⟨rfl, rfl, due⟩ := due_of_turn took
  exact ⟨rfl, clear, due ▸ start⟩

theorem Starting.trail {spawner : Spawner σ η} {settings : Settings} {first : Bool}
    {plans : List LaunchPlan} {receiver receiver' : Receiver} {world world' : World σ η}
    {ending : StartsEnd} {started : List (ReplicaId × η)}
    (h : Starting spawner settings first plans receiver world ending started receiver' world') :
    ∃ made, Trail spawner settings receiver first plans world made ending receiver' world' := by
  induction h with
  | complete => exact ⟨[], .complete⟩
  -- What cuts a start short was caught in its pause, or there was no pause before the look.
  | @interrupted first caught plan rest receiver receiver' world scene took cut =>
      cases caught with
      | true =>
          obtain ⟨rfl, positive, scene', waited, same⟩ := turn_caught (congrArg Prod.fst took)
          cases took.symm.trans same
          exact ⟨[], .caught positive waited⟩
      | false =>
          obtain ⟨rfl, rfl, due⟩ := due_of_turn took
          by_cases atOnce : (first || settings.staggerMs.toNat == 0) = true
          · have same := dueWorld_of_atOnce atOnce world
            rw [same, isCut_uncaught, Bool.and_eq_true] at cut
            rw [due, same]
            exact ⟨[], .checked atOnce cut.1 cut.2⟩
          · have clear := isCut_of_paused atOnce (congrArg Prod.fst took)
            rw [clear] at cut
            cases cut
  | @failed first caught plan rest receiver receiver' world after scene cause took clear start =>
      obtain ⟨rfl, clear, start⟩ := startOne_due took clear start
      obtain rfl : (nextAttempt spawner settings first plan world).after = after :=
        congrArg Prod.snd start
      exact ⟨_, .failed clear (congrArg Prod.fst start)⟩
  | @started first caught plan rest receiver receiver' _ world after final scene handle ending more
      took clear start _ ih =>
      obtain ⟨rfl, clear, start⟩ := startOne_due took clear start
      obtain rfl : (nextAttempt spawner settings first plan world).after = after :=
        congrArg Prod.snd start
      obtain ⟨made, others⟩ := ih
      exact ⟨_, .started clear (congrArg Prod.fst start) others⟩

section

variable {spawner : Spawner σ η} {settings : Settings} {receiver receiver' : Receiver}
  {first : Bool} {plans : List LaunchPlan} {world world' : World σ η}
  {made : List (Attempt σ η)} {ending : StartsEnd}

theorem courseFrom_cons (spawner : Spawner σ η) (settings : Settings) (first : Bool)
    (plan : LaunchPlan) (rest : List LaunchPlan) (world : World σ η) :
    courseFrom spawner settings first (plan :: rest) world =
      nextAttempt spawner settings first plan world ::
        match (nextAttempt spawner settings first plan world).outcome with
        | .ok _ => courseFrom spawner settings false rest
            (nextAttempt spawner settings first plan world).after
        | .error _ => [] := rfl

theorem courseFrom_of_ok {plan : LaunchPlan} {rest : List LaunchPlan} {handle : η}
    (outcome : (nextAttempt spawner settings first plan world).outcome = .ok handle) :
    courseFrom spawner settings first (plan :: rest) world =
      nextAttempt spawner settings first plan world ::
        courseFrom spawner settings false rest
          (nextAttempt spawner settings first plan world).after := by
  rw [courseFrom_cons, outcome]

theorem courseFrom_of_error {plan : LaunchPlan} {rest : List LaunchPlan} {cause : String}
    (outcome : (nextAttempt spawner settings first plan world).outcome = .error cause) :
    courseFrom spawner settings first (plan :: rest) world =
      [nextAttempt spawner settings first plan world] := by
  rw [courseFrom_cons, outcome]

theorem nextAttempt_answered (spawner : Spawner σ η) (settings : Settings) (first : Bool)
    (plan : LaunchPlan) (world : World σ η) :
    (nextAttempt spawner settings first plan world).Answered spawner settings.serverExecutable :=
  ⟨rfl, rfl, rfl⟩

theorem courseFrom_answered {attempt : Attempt σ η}
    (h : attempt ∈ courseFrom spawner settings first plans world) :
    attempt.Answered spawner settings.serverExecutable := by
  induction plans generalizing first world with
  | nil => cases h
  | cons plan rest ih =>
      rw [courseFrom_cons] at h
      rcases List.mem_cons.1 h with rfl | member
      · exact nextAttempt_answered ..
      · split at member
        · exact ih member
        · cases member

private theorem courseFrom_plans (spawner : Spawner σ η) (settings : Settings) (first : Bool)
    (plans : List LaunchPlan) (world : World σ η) :
    (courseFrom spawner settings first plans world).map Attempt.plan <+: plans := by
  induction plans generalizing first world with
  | nil => exact List.nil_prefix
  | cons plan rest ih =>
      rw [courseFrom_cons, List.map_cons]
      refine (List.prefix_cons_inj plan).2 ?_
      split
      · exact ih false _
      · exact List.nil_prefix

theorem Trail.asked
    (h : Trail spawner settings receiver first plans world made ending receiver' world') :
    Asked spawner world (made.map (Attempt.event settings.serverExecutable)) world' := by
  induction h with
  | complete | checked | caught => exact .nothing rfl rfl
  | failed => exact nextAttempt_asked ..
  | started _ _ _ ih => exact (nextAttempt_asked ..).trans ih

theorem Trail.prefix_course
    (h : Trail spawner settings receiver first plans world made ending receiver' world') :
    made <+: courseFrom spawner settings first plans world := by
  induction h with
  | complete | checked | caught => exact List.nil_prefix
  | failed _ outcome => exact courseFrom_of_error outcome ▸ List.prefix_rfl
  | started _ outcome _ ih =>
      rw [courseFrom_of_ok outcome]
      exact (List.prefix_cons_inj _).2 ih

theorem Trail.prefix_plans
    (h : Trail spawner settings receiver first plans world made ending receiver' world') :
    made.map Attempt.plan <+: plans :=
  (h.prefix_course.map Attempt.plan).trans (courseFrom_plans ..)

theorem Trail.eq_course
    (h : Trail spawner settings receiver first plans world made ending receiver' world')
    (uncut : ending ≠ .interrupted) : made = courseFrom spawner settings first plans world := by
  induction h with
  | complete => rfl
  | checked | caught => exact absurd rfl uncut
  | failed _ outcome => rw [courseFrom_of_error outcome]
  | started _ outcome _ ih => rw [courseFrom_of_ok outcome, ih uncut]

theorem Trail.plans_of_complete
    (h : Trail spawner settings receiver first plans world made .complete receiver' world') :
    made.map Attempt.plan = plans := by
  generalize ended : StartsEnd.complete = ending at h
  induction h with
  | complete => rfl
  | checked | caught | failed => cases ended
  | started _ _ _ ih => exact congrArg (_ :: ·) (ih ended)

theorem Trail.outcomes
    (h : Trail spawner settings receiver first plans world made ending receiver' world') :
    match ending with
    | .failed plan cause => ∃ earlier last, made = earlier ++ [last] ∧ last.plan = plan ∧
        last.outcome = .error cause
    | _ => ∀ attempt ∈ made, ∃ handle, attempt.outcome = .ok handle := by
  induction h with
  | complete | checked | caught => exact List.forall_mem_nil _
  | failed _ outcome => exact ⟨[], _, rfl, rfl, outcome⟩
  | @started _ _ _ _ _ handle made ending _ _ outcome _ ih =>
      cases ending with
      | failed plan cause =>
          obtain ⟨earlier, last, rfl, same, failure⟩ := ih
          exact ⟨_ :: earlier, last, rfl, same, failure⟩
      | complete | interrupted => exact List.forall_mem_cons.2 ⟨⟨handle, outcome⟩, ih⟩

theorem Trail.receiver_eq
    (h : Trail spawner settings receiver first plans world made ending receiver' world')
    (uncut : ending ≠ .interrupted) : receiver' = receiver := by
  induction h with
  | complete | failed => rfl
  | checked | caught => exact absurd rfl uncut
  | started _ _ _ ih => exact ih uncut

theorem Trail.worldAfter_eq
    (h : Trail spawner settings receiver first plans world made ending receiver' world')
    (uncut : ending ≠ .interrupted) : worldAfter world made = world' := by
  induction h with
  | complete | failed => rfl
  | checked | caught => exact absurd rfl uncut
  | started _ _ _ ih => exact ih uncut

/-- Where a launch is cut short, it stands in the world that its attempts have left. -/
theorem Trail.cut
    (h : Trail spawner settings receiver first plans world made .interrupted receiver' world') :
    Trail spawner settings receiver (first && made.isEmpty) (plans.drop made.length)
      (worldAfter world made) [] .interrupted receiver' world' := by
  generalize ended : StartsEnd.interrupted = ending at h
  induction h with
  | complete | failed => cases ended
  | @checked first _ _ _ atOnce opened unseen =>
      rw [List.isEmpty_nil, Bool.and_true]
      exact .checked atOnce opened unseen
  | caught positive waited => exact .caught positive waited
  | @started first _ _ _ _ _ _ _ _ _ _ _ ih =>
      rw [List.isEmpty_cons, Bool.and_false]
      exact ih ended

theorem Trail.reaches
    (h : Trail spawner settings receiver first plans world made ending receiver' world') :
    world.scene.channel.Reaches world'.scene.channel := by
  induction h with
  | complete | checked => exact .refl _
  | @caught _ _ world scene positive waited =>
      have elapsed := world.scene.wait_elapses receiver positive
      rw [waited] at elapsed
      exact elapsed.reaches
  | failed => exact reaches_nextAttempt ..
  | started _ _ _ ih => exact (reaches_nextAttempt ..).trans ih

theorem behind_nextAttempt (spawner : Spawner σ η) (settings : Settings) (first : Bool)
    (plan : LaunchPlan) (behind : receiver.seen ≤ world.scene.channel.version) :
    receiver.seen ≤
      (nextAttempt spawner settings first plan world).after.scene.channel.version :=
  Nat.le_trans behind (reaches_nextAttempt spawner settings first plan world).version_le

theorem not_isLate_of_clear {plan : LaunchPlan} {final : Channel}
    (reaches : (nextAttempt spawner settings first plan world).after.scene.channel.Reaches final)
    (opened : final.isOpen = true)
    (clear : isCut false receiver (dueWorld settings first world).scene.channel = false) :
    (nextAttempt spawner settings first plan world).isLate receiver = false := by
  have wasOpen := ((nextAttempt_reaches spawner settings first plan world).trans reaches).isOpen
    opened
  rw [isCut_uncaught, wasOpen, Bool.true_and] at clear
  exact clear

theorem isLate_of_checked {plan : LaunchPlan}
    (atOnce : (first || settings.staggerMs.toNat == 0) = true)
    (unseen : receiver.hasUnseen world.scene.channel = true) :
    (nextAttempt spawner settings first plan world).isLate receiver = true := by
  unfold Attempt.isLate
  rw [nextAttempt_before, dueWorld_of_atOnce atOnce]
  exact unseen

theorem isLate_of_waited {plan : LaunchPlan} {scene : Scene}
    (behind : receiver.seen ≤ world.scene.channel.version)
    (positive : 0 < settings.staggerMs.toNat)
    (waited : world.scene.wait receiver settings.staggerMs.toNat = (.change, scene)) :
    (nextAttempt spawner settings false plan world).isLate receiver = true := by
  have later := (Scene.wait_change positive behind waited).2
  have due : (nextAttempt spawner settings false plan world).before =
      { world with scene := world.scene.sleep settings.staggerMs.toNat } := by
    rw [nextAttempt_before, dueWorld, if_neg (by simpa using Nat.ne_of_gt positive)]
  unfold Attempt.isLate
  rw [due]
  exact later

/-- With the sender alive, just those attempts are made that begin in time. -/
theorem Trail.eq_takeWhile
    (h : Trail spawner settings receiver first plans world made ending receiver' world')
    (behind : receiver.seen ≤ world.scene.channel.version)
    (opened : world'.scene.channel.isOpen = true) :
    made = (courseFrom spawner settings first plans world).takeWhile
      fun attempt => !attempt.isLate receiver := by
  induction h with
  | complete => rfl
  | @checked first plan rest world atOnce _ unseen =>
      rw [courseFrom_cons, List.takeWhile_cons, isLate_of_checked atOnce unseen]
      rfl
  | @caught plan rest world scene positive waited =>
      rw [courseFrom_cons, List.takeWhile_cons, isLate_of_waited behind positive waited]
      rfl
  | failed clear outcome =>
      rw [courseFrom_of_error outcome, List.takeWhile_cons,
        not_isLate_of_clear (.refl _) opened clear]
      rfl
  | started clear outcome others ih =>
      rw [courseFrom_of_ok outcome, List.takeWhile_cons,
        not_isLate_of_clear others.reaches opened clear,
        ← ih (behind_nextAttempt _ _ _ _ behind) opened]
      rfl

theorem Trail.exists_late
    (h : Trail spawner settings receiver first plans world made .interrupted receiver' world')
    (behind : receiver.seen ≤ world.scene.channel.version) :
    ∃ attempt ∈ courseFrom spawner settings first plans world,
      attempt.isLate receiver = true := by
  generalize ended : StartsEnd.interrupted = ending at h
  induction h with
  | complete | failed => cases ended
  | checked atOnce _ unseen => exact ⟨_, List.mem_cons_self .., isLate_of_checked atOnce unseen⟩
  | caught positive waited =>
      exact ⟨_, List.mem_cons_self .., isLate_of_waited behind positive waited⟩
  | started _ outcome _ ih =>
      obtain ⟨attempt, member, late⟩ := ih (behind_nextAttempt _ _ _ _ behind) ended
      rw [courseFrom_of_ok outcome]
      exact ⟨attempt, List.mem_cons_of_mem _ member, late⟩

end

end Launcher

end ClusterLaunch
