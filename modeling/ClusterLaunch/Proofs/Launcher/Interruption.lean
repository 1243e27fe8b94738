import Mathlib.Data.List.TakeWhile
import ClusterLaunch.Proofs.Launcher.Record

/-! # Launches and termination signals

A launch that keeps its sender makes just those attempts of its course that begin before there
is a version that the receiver has not seen. Only a signal that arrives in a pause counts as
seen, and the launch that it cuts short is over at that instant. Any other signal is left to
the run that follows, and the run finds it at once.
-/

namespace ClusterLaunch

variable {σ η : Type}

namespace Launcher

section

variable {spawner : Spawner σ η} {settings : Settings} {receiver receiver' : Receiver}
  {first : Bool} {plans : List LaunchPlan} {world world' : World σ η}
  {made : List (Attempt σ η)} {ending : StartsEnd}

private theorem Trail.still_of_unseen
    (h : Trail spawner settings receiver first plans world [] .interrupted receiver' world')
    (unseen : receiver.hasUnseen world.scene.channel = true) : world'.scene = world.scene := by
  cases h with
  | checked => rfl
  | caught _ waited =>
      rw [Scene.wait_of_unseen _ unseen] at waited
      exact (congrArg Prod.snd waited).symm

private theorem Trail.send_of_seen
    (h : Trail spawner settings receiver first plans world [] .interrupted receiver' world')
    (nothing : receiver.hasUnseen world.scene.channel = false)
    (opened : world'.scene.channel.isOpen = true) :
    ∃ due value rest, world.scene.agenda = ⟨due, .send value⟩ :: rest ∧
      due < world.scene.timeAfter settings.staggerMs.toNat ∧
      world'.scene.clock = max world.scene.clock due := by
  cases h with
  | checked _ _ unseen => rw [nothing] at unseen; cases unseen
  | caught positive waited => exact Scene.wait_send positive nothing waited opened

theorem Trail.receiver_ne_iff
    (h : Trail spawner settings receiver first plans world made .interrupted receiver' world') :
    receiver' ≠ receiver ↔
      (first && made.isEmpty) = false ∧ 0 < settings.staggerMs.toNat ∧
        (worldAfter world made).scene.wait receiver settings.staggerMs.toNat =
          (.change, world'.scene) := by
  have last := h.cut
  generalize (first && made.isEmpty) = first', plans.drop made.length = rest,
    worldAfter world made = before at last
  cases last with
  | checked atOnce =>
      refine iff_of_false (fun moved => moved rfl) ?_
      rintro ⟨rfl, positive, -⟩
      exact Nat.ne_of_gt positive (by simpa using atOnce)
  | caught positive waited =>
      refine iff_of_true ?_ ⟨rfl, positive, waited⟩
      have found := before.scene.wait_poll receiver settings.staggerMs.toNat
      rw [waited, Receiver.poll_eq_change_iff, Receiver.hasUnseen_iff] at found
      intro same
      exact found (congrArg Receiver.seen same).symm

/-- The channel at the end of an attempt is the one that the next attempt finds, but for what
    arrives in between. -/
theorem courseFrom_chain {earlier later : List (Attempt σ η)} {attempt next : Attempt σ η}
    (h : courseFrom spawner settings first plans world = earlier ++ attempt :: next :: later) :
    attempt.after.scene.channel.Reaches next.before.scene.channel := by
  induction plans generalizing first world earlier with
  | nil => simp [courseFrom] at h
  | cons plan rest ih =>
      rw [courseFrom_cons] at h
      split at h
      · cases earlier with
        | cons _ earlier => exact ih (List.cons.inj h).2
        | nil =>
            obtain ⟨rfl, others⟩ := List.cons.inj h
            cases rest with
            | nil => cases others
            | cons following rest =>
                rw [courseFrom_cons] at others
                obtain ⟨rfl, -⟩ := List.cons.inj others
                exact dueWorld_reaches settings false _
      · cases earlier with
        | cons _ earlier => cases earlier <;> cases (List.cons.inj h).2
        | nil => cases (List.cons.inj h).2

theorem courseFrom_reaches {attempt : Attempt σ η}
    (h : attempt ∈ courseFrom spawner settings first plans world) :
    world.scene.channel.Reaches attempt.before.scene.channel ∧
      attempt.before.scene.channel.Reaches attempt.after.scene.channel := by
  induction plans generalizing first world with
  | nil => cases h
  | cons plan rest ih =>
      rw [courseFrom_cons] at h
      rcases List.mem_cons.1 h with rfl | member
      · exact ⟨dueWorld_reaches settings first world, nextAttempt_reaches ..⟩
      · split at member
        · obtain ⟨before, after⟩ := ih member
          exact ⟨(reaches_nextAttempt ..).trans before, after⟩
        · cases member

end

/-- The attempts of a course that begin before there is a version that the receiver has not
    seen. -/
def timely (receiver : Receiver) (course : List (Attempt σ η)) : List (Attempt σ η) :=
  course.takeWhile fun attempt => !attempt.isLate receiver

theorem timely_begins_course (receiver : Receiver) (course : List (Attempt σ η)) :
    timely receiver course <+: course := List.takeWhile_prefix _

theorem not_isLate_of_timely {receiver : Receiver} {course : List (Attempt σ η)}
    {attempt : Attempt σ η} (member : attempt ∈ timely receiver course) :
    attempt.isLate receiver = false := by
  simpa using List.mem_takeWhile_imp member

section

variable {spawner : Spawner σ η} {settings : Settings} {receiver : Receiver} {first : Bool}
  {plans : List LaunchPlan} {world : World σ η}

private theorem timely_of_unseen (behind : receiver.seen ≤ world.scene.channel.version)
    (unseen : receiver.hasUnseen world.scene.channel = true) :
    timely receiver (courseFrom spawner settings first plans world) = [] := by
  refine List.eq_nil_iff_forall_not_mem.2 ?_
  intro attempt member
  have reaches := (courseFrom_reaches ((timely_begins_course ..).subset member)).1
  have late : attempt.isLate receiver = true :=
    Receiver.hasUnseen_of_reaches reaches behind unseen
  rw [not_isLate_of_timely member] at late
  cases late

private theorem timely_last (behind : receiver.seen ≤ world.scene.channel.version)
    {earlier later : List (Attempt σ η)} {attempt : Attempt σ η}
    (split : timely receiver (courseFrom spawner settings first plans world) =
      earlier ++ attempt :: later)
    (unseen : receiver.hasUnseen attempt.after.scene.channel = true) : later = [] := by
  cases later with
  | nil => rfl
  | cons next later =>
      -- The next attempt would begin behind the signal, and yet in time.
      have prefixed := timely_begins_course receiver (courseFrom spawner settings first plans world)
      have mem_split : ∀ {made : Attempt σ η}, made ∈ earlier ++ attempt :: next :: later →
          made ∈ timely receiver (courseFrom spawner settings first plans world) := by
        intro made member
        rw [split]
        exact member
      obtain ⟨before, after⟩ := courseFrom_reaches (prefixed.subset
        (mem_split (by simp : attempt ∈ _)))
      have late : next.isLate receiver = true := by
        obtain ⟨rest, whole⟩ := prefixed
        rw [split, List.append_assoc] at whole
        exact Receiver.hasUnseen_of_reaches (courseFrom_chain whole.symm)
          (Nat.le_trans behind (before.trans after).version_le) unseen
      rw [not_isLate_of_timely (mem_split (by simp : next ∈ _))] at late
      cases late

/-- With the sender alive, a launch is cut short just if an attempt of its course is late. -/
theorem Trail.interrupted_iff {receiver' : Receiver} {world' : World σ η}
    {made : List (Attempt σ η)} {ending : StartsEnd}
    (h : Trail spawner settings receiver first plans world made ending receiver' world')
    (behind : receiver.seen ≤ world.scene.channel.version)
    (opened : world'.scene.channel.isOpen = true) :
    ending = .interrupted ↔ ∃ attempt ∈ courseFrom spawner settings first plans world,
      attempt.isLate receiver = true := by
  constructor
  · rintro rfl
    exact h.exists_late behind
  · rintro ⟨attempt, member, late⟩
    by_contra uncut
    -- Uncut, the launch has made its whole course, so all of it begins in time.
    rw [← h.eq_course uncut, h.eq_takeWhile behind opened] at member
    rw [not_isLate_of_timely member] at late
    cases late

end

/-- What signals do to a launch whose sender stays, by the course that it would take without
    them. -/
structure Punctual (launcher : Launcher η) (spawner : Spawner σ η) (receiver : Receiver)
    (world : World σ η) (course : List (Attempt σ η)) (outcome : Outcome σ η) : Prop where
  answered : ∀ attempt ∈ course,
    attempt.Answered spawner launcher.blueprint.settings.serverExecutable
  /-- Just those attempts are made that begin in time. -/
  attempts : Attempted spawner world outcome.world ((timely receiver course).map
    (Attempt.event launcher.blueprint.settings.serverExecutable))
  pending : receiver.hasUnseen world.scene.channel = true → timely receiver course = []
  /-- An attempt during which a signal arrives is the last. -/
  last : ∀ earlier attempt later, timely receiver course = earlier ++ attempt :: later →
    receiver.hasUnseen attempt.after.scene.channel = true → later = []
  cut : outcome.result = .ok false ↔ ∃ attempt ∈ course, attempt.isLate receiver = true
  started : outcome.result = .ok false →
    ∀ attempt ∈ timely receiver course, ∃ handle, attempt.outcome = .ok handle
  /-- Nothing is waited for but the signal. -/
  instant : outcome.result = .ok false →
    let scene := (worldAfter world (timely receiver course)).scene
    if receiver.hasUnseen scene.channel then outcome.world.scene = scene
    else ∃ due value rest, scene.agenda = ⟨due, .send value⟩ :: rest ∧
      due < scene.timeAfter launcher.blueprint.settings.staggerMs.toNat ∧
      outcome.world.scene.clock = max scene.clock due
  uncut : (∀ attempt ∈ course, attempt.isLate receiver = false) →
    timely receiver course = course ∧ outcome.world.scene = (worldAfter world course).scene ∧
      ((outcome.result = .ok true ∧ course.map Attempt.plan = launcher.blueprint.plans ∧
          ∀ attempt ∈ course, ∃ handle, attempt.outcome = .ok handle) ∨
        ∃ earlier last cause, course = earlier ++ [last] ∧ last.outcome = .error cause ∧
          outcome.result = .error (.startFailed last.plan.id last.plan.addresses cause))

/-- A launch from no children is punctual if its sender stays. The receiver has seen no more
    than was sent. -/
theorem launch_punctual {launcher : Launcher η} (idle : launcher.children = [])
    (spawner : Spawner σ η) {receiver : Receiver} {world : World σ η}
    (behind : receiver.seen ≤ world.scene.channel.version)
    (alive : (launcher.launch spawner receiver world).world.scene.channel.isOpen = true) :
    Punctual launcher spawner receiver world (launcher.course spawner world)
      (launcher.launch spawner receiver world) := by
  obtain ⟨made, ending, world', trail, scene, attempted, result⟩ :=
    launch_trail idle spawner receiver world
  generalize launcher.launch spawner receiver world = outcome at *
  rw [scene] at alive
  obtain rfl : made = timely receiver (launcher.course spawner world) :=
    trail.eq_takeWhile behind alive
  have cut : outcome.result = .ok false ↔
      ∃ attempt ∈ launcher.course spawner world, attempt.isLate receiver = true := by
    rw [result, StartsEnd.result_eq_false_iff]
    exact trail.interrupted_iff behind alive
  refine ⟨fun _ => courseFrom_answered, attempted, timely_of_unseen behind,
    fun _ _ _ => timely_last behind, cut, ?_, ?_, ?_⟩
  · intro interrupted
    obtain rfl := StartsEnd.result_eq_false_iff.1 (result.symm.trans interrupted)
    exact trail.outcomes
  · intro interrupted
    obtain rfl := StartsEnd.result_eq_false_iff.1 (result.symm.trans interrupted)
    simp only [scene]
    split
    · next unseen => exact trail.cut.still_of_unseen unseen
    · next nothing => exact trail.cut.send_of_seen (Bool.not_eq_true _ ▸ nothing) alive
  · intro inTime
    have uncut : ending ≠ .interrupted := by
      rintro rfl
      obtain ⟨attempt, member, late⟩ := cut.1 result
      rw [inTime attempt member] at late
      cases late
    have whole : timely receiver (launcher.course spawner world) = launcher.course spawner world :=
      trail.eq_course uncut
    rw [whole] at trail
    refine ⟨whole, ?_, ?_⟩
    · rw [trail.worldAfter_eq uncut, scene]
    · cases ending with
      | interrupted => exact absurd rfl uncut
      | complete => exact .inl ⟨result, trail.plans_of_complete, trail.outcomes⟩
      | failed plan cause =>
          obtain ⟨earlier, last, split, rfl, failure⟩ := trail.outcomes
          exact .inr ⟨earlier, last, cause, split, failure, result⟩

/-- A signal that arrives in the second of two pauses, with a launcher of three replicas. -/
theorem launch_punctual_between_starts :
    ∃ launcher : Launcher ReplicaId, setup Settings.standard 3 none = .ok launcher ∧
      let world : World Script ReplicaId :=
        .fresh (Scene.fresh.schedule 2500 (.send false)) ⟨[], [], []⟩
      Punctual launcher scriptedSpawner .fresh world (launcher.course scriptedSpawner world)
        (launcher.launch scriptedSpawner .fresh world) := by
  let world : World Script ReplicaId :=
    .fresh (Scene.fresh.schedule 2500 (.send false)) ⟨[], [], []⟩
  obtain ⟨launcher, checked, start⟩ : ∃ launcher : Launcher ReplicaId,
      setup Settings.standard 3 none = .ok launcher ∧ (launcher.children.isEmpty &&
        (launcher.launch scriptedSpawner .fresh world).world.scene.channel.isOpen) = true :=
    exists_of_any (by decide)
  obtain ⟨idle, alive⟩ := Bool.and_eq_true_iff.1 start
  exact ⟨launcher, checked, launch_punctual (List.isEmpty_iff.1 idle) scriptedSpawner
    (Nat.le_refl 0) alive⟩

/-- The launch was cut short in a pause, by a wait that found a version not seen. -/
structure CutInPause (launcher : Launcher η) (spawner : Spawner σ η) (receiver : Receiver)
    (world : World σ η) (outcome : Outcome σ η) : Prop where
  result : outcome.result = .ok false
  positive : 0 < launcher.blueprint.settings.staggerMs.toNat
  /-- The attempts made, one at least, end with the world in which the pause begins. -/
  caught : ∃ made, made ≠ [] ∧ made <+: launcher.course spawner world ∧
    Attempted spawner world outcome.world
      (made.map (Attempt.event launcher.blueprint.settings.serverExecutable)) ∧
    (worldAfter world made).scene.wait receiver launcher.blueprint.settings.staggerMs.toNat =
      (.change, outcome.world.scene)

/-- The run comes to its end at once, for a signal, and lets all replicas go. -/
structure RunCatches (launcher : Launcher η) (spawner : Spawner σ η) (world : World σ η)
    (ended : RunEnd × Launcher η × World σ η) : Prop where
  released : ended =
    (.done, launcher.release spawner (world.log .warn "launcher caught termination signal"))
  emptied : ended.2.1.children = []
  still : ended.2.2.scene = world.scene
  swept : Swept spawner world ended.2.2
    (if launcher.blueprint.settings.reapOnExit then launcher.children.reverse else [])

/-- What a launch owes to the run that follows with the same receiver. -/
structure LeavesSignals (launcher : Launcher η) (spawner : Spawner σ η) (receiver : Receiver)
    (world : World σ η) (outcome : Outcome σ η) : Prop where
  seen : outcome.receiver ≠ receiver ↔ CutInPause launcher spawner receiver world outcome
  full : outcome.result = .ok true →
    outcome.launcher.children.map Prod.fst = launcher.blueprint.plans.map LaunchPlan.id
  /-- The run may begin in any later world in which there is a version not seen. -/
  caught : outcome.result = .ok true → ∀ later patience,
    receiver.hasUnseen later.scene.channel = true →
    RunCatches outcome.launcher spawner later
      (outcome.launcher.run spawner outcome.receiver patience later)

theorem run_catches (launcher : Launcher η) (spawner : Spawner σ η) {receiver : Receiver}
    {world : World σ η} (unseen : receiver.hasUnseen world.scene.channel = true)
    (patience : Nat) :
    RunCatches launcher spawner world (launcher.run spawner receiver patience world) := by
  have same : launcher.run spawner receiver patience world =
      (.done, launcher.release spawner (world.log .warn "launcher caught termination signal")) := by
    rw [run, Scene.wait_of_unseen patience unseen]
  refine ⟨same, ?_, ?_, ?_⟩
  · rw [same, release_launcher]
  · rw [same, release_scene]
    rfl
  · rw [same]
    exact (release_swept launcher spawner
      (world.log .warn "launcher caught termination signal")).later rfl rfl

private theorem eq_of_attempted {spawner : Spawner σ η} {course made made' : List (Attempt σ η)}
    {world world' : World σ η} {executable : String} (first : made <+: course)
    (second : made' <+: course)
    (attempted : Attempted spawner world world' (made.map (Attempt.event executable)))
    (attempted' : Attempted spawner world world' (made'.map (Attempt.event executable))) :
    made = made' := by
  have count := congrArg List.length (attempted.unique attempted')
  rw [List.length_map, List.length_map] at count
  rw [List.prefix_iff_eq_take.1 first, List.prefix_iff_eq_take.1 second, count]

/-- Only a pause that is cut short makes the launch see a signal. -/
theorem launch_seen_iff (launcher : Launcher η) (spawner : Spawner σ η) (receiver : Receiver)
    (world : World σ η) :
    (launcher.launch spawner receiver world).receiver ≠ receiver ↔
      CutInPause launcher spawner receiver world (launcher.launch spawner receiver world) := by
  by_cases idle : launcher.children = []
  · obtain ⟨made, ending, world', trail, scene, attempted, result⟩ :=
      launch_trail idle spawner receiver world
    generalize launcher.launch spawner receiver world = outcome at *
    have prefixed : made <+: launcher.course spawner world := trail.prefix_course
    constructor
    · intro moved
      obtain rfl : ending = .interrupted := by
        by_contra uncut
        exact moved (trail.receiver_eq uncut)
      obtain ⟨later, positive, waited⟩ := trail.receiver_ne_iff.1 moved
      refine ⟨result, positive, made, by simpa using later, prefixed, attempted, ?_⟩
      rw [scene]
      exact waited
    · -- The record tells which attempts were made, so the pause is the one behind them.
      rintro ⟨interrupted, positive, made', some, prefixed', attempted', waited⟩
      obtain rfl := StartsEnd.result_eq_false_iff.1 (result.symm.trans interrupted)
      obtain rfl := eq_of_attempted prefixed prefixed' attempted attempted'
      rw [scene] at waited
      exact trail.receiver_ne_iff.2 ⟨by simpa using some, positive, waited⟩
  · rw [launch_of_busy launcher idle]
    exact iff_of_false (fun moved => moved rfl) fun cut => nomatch cut.result

/-- A launch loses no signal: what it has not seen is caught by the run that follows. -/
theorem launch_leavesSignals (launcher : Launcher η) (spawner : Spawner σ η)
    (receiver : Receiver) (world : World σ η) :
    LeavesSignals launcher spawner receiver world
      (launcher.launch spawner receiver world) := by
  have seen := launch_seen_iff launcher spawner receiver world
  have rules := launch_launching launcher spawner receiver world
  generalize launcher.launch spawner receiver world = outcome at *
  refine ⟨seen, ?_, ?_⟩
  · intro complete
    cases rules with
    | complete _ starting => exact starting.ids_of_complete
    | refused | failed | interrupted => cases complete
  · intro complete later patience unseen
    have same : outcome.receiver = receiver := by
      by_contra moved
      have interrupted := (seen.1 moved).result
      rw [complete] at interrupted
      cases interrupted
    rw [same]
    exact run_catches outcome.launcher spawner unseen patience

/-- A signal that arrives in the last start, after which the sender goes away. -/
theorem launch_leavesSignals_last_start :
    ∃ launcher : Launcher ReplicaId, setup Settings.standard 3 none = .ok launcher ∧
      let world : World Script ReplicaId :=
        .fresh .fresh ⟨[], [], [(2, .send true), (2, .close)]⟩
      let outcome := launcher.launch scriptedSpawner .fresh world
      RunCatches outcome.launcher scriptedSpawner outcome.world
        (outcome.launcher.run scriptedSpawner outcome.receiver 0 outcome.world) := by
  let world : World Script ReplicaId := .fresh .fresh ⟨[], [], [(2, .send true), (2, .close)]⟩
  obtain ⟨launcher, checked, ended⟩ : ∃ launcher : Launcher ReplicaId,
      setup Settings.standard 3 none = .ok launcher ∧
        ((launcher.launch scriptedSpawner .fresh world).result.toOption == some true &&
          Receiver.fresh.hasUnseen
            (launcher.launch scriptedSpawner .fresh world).world.scene.channel) = true :=
    exists_of_any (by decide)
  obtain ⟨complete, unseen⟩ := Bool.and_eq_true_iff.1 ended
  refine ⟨launcher, checked, ?_⟩
  refine (launch_leavesSignals launcher scriptedSpawner .fresh world).caught ?_ _ _ unseen
  generalize (launcher.launch scriptedSpawner .fresh world).result = result at complete
  cases result with
  | error fault => cases complete
  | ok whole => cases whole with
    | true => rfl
    | false => cases complete

end Launcher

end ClusterLaunch
