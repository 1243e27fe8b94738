import ClusterLaunch.Proofs.Launcher.Custody

/-! # No handle is lost and none is used twice

Each move of a history is followed through the record: what it starts, what it stops and
what it lets go of without a stop. The main result is a conservation law over whole
histories, with the two facts that make it more than a count: stops are asked for the
replica held last, and with reaping a number is started again only after one stop.
-/

namespace ClusterLaunch

variable {σ η : Type}

/-- What the spawner is asked between two worlds takes the replicas held from one list to
    another. -/
def Handed (spawner : Spawner σ η) (held : List (ReplicaId × η)) (world : World σ η)
    (left : List (ReplicaId × η)) (world' : World σ η) : Prop :=
  ∃ events, Asked spawner world events world' ∧ Custody held events left

namespace Handed

variable {spawner : Spawner σ η} {held between left : List (ReplicaId × η)}
  {world world' world'' : World σ η}

theorem still (record : world'.events = world.events) (state : world'.spawner = world.spawner) :
    Handed spawner held world held world' :=
  ⟨[], .nothing record state, .rest⟩

theorem trans (first : Handed spawner held world between world')
    (second : Handed spawner between world' left world'') :
    Handed spawner held world left world'' := by
  obtain ⟨events, asked, taken⟩ := first
  obtain ⟨more, asked', taken'⟩ := second
  exact ⟨events ++ more, asked.trans asked', taken.append taken'⟩

theorem log (h : Handed spawner held world left world') (level : LogLevel) (message : String) :
    Handed spawner held world left (world'.log level message) := by
  obtain ⟨events, asked, taken⟩ := h
  exact ⟨events, asked.log level message, taken⟩

end Handed

namespace Launcher

/-- A sweep asks for one stop for each replica held, the one held last first. -/
theorem handed_stopAll (spawner : Spawner σ η) (entries : List (ReplicaId × η))
    (world : World σ η) :
    Handed spawner entries.reverse world [] (stopAll spawner entries world) := by
  refine ⟨_, stopAll_asked spawner entries world, ?_⟩
  generalize world.spawner = state
  induction entries generalizing state with
  | nil => exact .rest
  | cons entry rest ih =>
      obtain ⟨id, handle⟩ := entry
      rw [List.reverse_cons]
      exact .stopped (ih _)

theorem handed_terminateAll (launcher : Launcher η) (spawner : Spawner σ η)
    (world : World σ η) :
    Handed spawner launcher.children world [] (launcher.terminateAll spawner world).2 := by
  simpa [terminateAll] using handed_stopAll spawner launcher.children.reverse world

theorem handed_release (launcher : Launcher η) (spawner : Spawner σ η) (world : World σ η) :
    Handed spawner launcher.children world
      (if launcher.blueprint.settings.reapOnExit then [] else launcher.children)
      (launcher.release spawner world).2 := by
  unfold release
  split
  · exact handed_terminateAll launcher spawner world
  · exact .still rfl rfl

/-- The record of the starting shows just the replicas that were started, and each was put
    on top of those held before. -/
theorem Starting.record {spawner : Spawner σ η} {settings : Settings} {first : Bool}
    {plans : List LaunchPlan} {receiver receiver' : Receiver} {world world' : World σ η}
    {ending : StartsEnd} {started : List (ReplicaId × η)}
    (h : Starting spawner settings first plans receiver world ending started receiver' world') :
    ∃ events, world'.events = world.events ++ events ∧ startedIn events = started ∧
      ∀ held : List (ReplicaId × η), (held.map Prod.fst ++ plans.map LaunchPlan.id).Nodup →
        Custody held events (held ++ started) := by
  induction h with
  | complete | interrupted =>
      refine ⟨[], by simp, rfl, ?_⟩
      intro held _
      simpa using Custody.rest
  | @failed first caught plan rest _ _ world after scene cause _ _ start =>
      have record := startOne_events spawner settings.serverExecutable plan { world with scene }
      rw [start] at record
      refine ⟨_, record, rfl, ?_⟩
      intro held _
      simpa using Custody.refused .rest
  | @started first caught plan rest _ _ _ world after final scene handle ending more _ _ start
      _ ih =>
      have record := startOne_events spawner settings.serverExecutable plan { world with scene }
      rw [start] at record
      obtain ⟨events, record', others, custody⟩ := ih
      refine ⟨.start plan.id settings.serverExecutable plan.arguments scene.clock (.ok handle) ::
        events, ?_, ?_, ?_⟩
      · rw [record', record, List.append_assoc]
        rfl
      · rw [← others]
        rfl
      · intro held distinct
        have unheld : plan.id ∉ held.map Prod.fst := by
          intro member
          exact List.disjoint_of_nodup_append distinct member (by simp)
        have rest := custody (held ++ [(plan.id, handle)]) (by simpa using distinct)
        rw [← List.append_cons] at rest
        exact .started unheld rest

theorem Starting.handed {spawner : Spawner σ η} {settings : Settings} {first : Bool}
    {plans : List LaunchPlan} {receiver receiver' : Receiver} {world world' : World σ η}
    {ending : StartsEnd} {started : List (ReplicaId × η)}
    (h : Starting spawner settings first plans receiver world ending started receiver' world')
    (distinct : (([] : List (ReplicaId × η)).map Prod.fst ++ plans.map LaunchPlan.id).Nodup) :
    Handed spawner [] world started world' := by
  obtain ⟨_, asked⟩ := h.asked
  obtain ⟨events, record, -, custody⟩ := h.record
  exact ⟨events, asked.of_record record, custody [] distinct⟩

end Launcher

namespace Rehearsal

/-- The replicas that a launch lets go of: those it started, if it was cut short. -/
def letGoByLaunch (spawner : Spawner σ η) (now : Rehearsal σ η) : List (ReplicaId × η) :=
  let outcome := now.launcher.launch spawner now.receiver now.world
  match outcome.result with
  | .ok false => startedIn (outcome.world.events.drop now.world.events.length)
  | _ => []

/-- The replicas that a run lets go of: all there are, if it came to its end. -/
def letGoByRun (spawner : Spawner σ η) (now : Rehearsal σ η) (patience : Nat) :
    List (ReplicaId × η) :=
  match (now.launcher.run spawner now.receiver patience now.world).1 with
  | .done => now.launcher.children
  | .parked => []

/-- The replicas that a move lets go of without a stop; a launcher that reaps lets go
    of none. -/
def letGo (spawner : Spawner σ η) (now : Rehearsal σ η) (move : Move σ) :
    List (ReplicaId × η) :=
  if now.launcher.blueprint.settings.reapOnExit then []
  else
    match move with
    | .step .launch => now.letGoByLaunch spawner
    | .step .run => now.letGoByRun spawner patience
    | .runFor patience => now.letGoByRun spawner patience
    | .step _ | .receive _ => []

/-- The replicas that a history lets go of without a stop. -/
def letGoIn (spawner : Spawner σ η) (now : Rehearsal σ η) : List (Move σ) → List (ReplicaId × η)
  | [] => []
  | move :: rest => now.letGo spawner move ++ (now.move spawner move).letGoIn spawner rest

theorem letGo_of_reaps {now : Rehearsal σ η}
    (reaps : now.launcher.blueprint.settings.reapOnExit = true) (spawner : Spawner σ η)
    (move : Move σ) : now.letGo spawner move = [] := by
  unfold letGo
  rw [if_pos reaps]

private theorem handed_launch {population : UInt8} {now : Rehearsal σ η}
    (settled : now.launcher.Settled population) (spawner : Spawner σ η) :
    Handed spawner now.launcher.children now.world
      ((now.launcher.launch spawner now.receiver now.world).launcher.children ++
        now.letGo spawner (.step .launch))
      (now.launcher.launch spawner now.receiver now.world).world := by
  have distinct : (([] : List (ReplicaId × η)).map Prod.fst ++
      now.launcher.blueprint.plans.map LaunchPlan.id).Nodup := by
    simpa [settled.planned] using nodup_replicaIds population
  have rules := Launcher.launch_launching now.launcher spawner now.receiver now.world
  unfold letGo letGoByLaunch
  generalize now.launcher.launch spawner now.receiver now.world = outcome at rules ⊢
  cases rules with
  | refused =>
      simp only [ite_self, List.append_nil]
      exact .still rfl rfl
  | complete idle starting =>
      simp only [ite_self, List.append_nil, idle]
      exact (starting.handed distinct).log _ _
  | @failed plan cause started _ world' idle starting =>
      have swept := Launcher.handed_stopAll spawner started.reverse world'
      rw [List.reverse_reverse] at swept
      simp only [ite_self, List.append_nil, idle]
      exact ((starting.handed distinct).trans swept).log _ _
  | @interrupted started _ world' idle starting =>
      obtain ⟨events, record, same, -⟩ := starting.record
      have released := ((starting.handed distinct).log _ _).trans
        (Launcher.handed_release { now.launcher with children := started } spawner
          (world'.log .warn (s!"launcher caught termination signal after " ++
            s!"{started.length} of {now.launcher.blueprint.plans.length} starts")))
      cases reaps : now.launcher.blueprint.settings.reapOnExit with
      | true => simpa [idle, reaps] using released
      | false =>
          simp only [Launcher.release, reaps, Bool.false_eq_true, if_false, List.nil_append,
            idle, World.log_events, record, List.drop_left, same] at released ⊢
          exact released

theorem handed_run (spawner : Spawner σ η) (now : Rehearsal σ η) (patience : Nat) :
    Handed spawner now.launcher.children now.world
      ((now.move spawner (.runFor patience)).launcher.children ++
        now.letGo spawner (.runFor patience))
      (now.move spawner (.runFor patience)).world := by
  have rules := Launcher.run_running now.launcher spawner now.receiver patience now.world
  unfold letGo letGoByRun
  simp only [move]
  generalize now.launcher.run spawner now.receiver patience now.world = ended at rules ⊢
  cases rules with
  | parked =>
      simp only [ite_self, List.append_nil]
      exact .still rfl rfl
  | caught | closed =>
      obtain ⟨events, asked, custody⟩ := Launcher.handed_release now.launcher spawner _
      exact ⟨events, asked.later rfl rfl, custody⟩

/-- What a move does to the replicas held is what the record shows, up to those let go. -/
theorem handed_move {population : UInt8} {now : Rehearsal σ η}
    (settled : now.launcher.Settled population) (spawner : Spawner σ η) (move : Move σ) :
    Handed spawner now.launcher.children (now.world.preparedFor move)
      ((now.move spawner move).launcher.children ++ now.letGo spawner move)
      (now.move spawner move).world := by
  cases move with
  | runFor patience => exact handed_run spawner now patience
  | receive receiver =>
      unfold letGo
      simp only [ite_self, List.append_nil]
      exact .still rfl rfl
  | step step =>
      cases step with
      | launch => exact handed_launch settled spawner
      | run => exact handed_run spawner now patience
      | terminateAll =>
          unfold letGo
          simp only [ite_self, List.append_nil]
          exact Launcher.handed_terminateAll now.launcher spawner now.world
      | signal | sleep | after | prepare =>
          unfold letGo
          simp only [ite_self, List.append_nil]
          exact .still rfl rfl

/-- If the record balances before a history, it balances afterwards, with what the history
    has let go. -/
theorem conserved_after {population : UInt8} {now : Rehearsal σ η}
    (settled : now.launcher.Settled population) (spawner : Spawner σ η)
    (history : List (Move σ)) (gone : List (ReplicaId × η))
    (balanced : (startedIn now.world.events).Perm
      (now.launcher.children ++ stoppedIn now.world.events ++ gone)) :
    (startedIn (now.after spawner history).world.events).Perm
      ((now.after spawner history).launcher.children ++
        stoppedIn (now.after spawner history).world.events ++
          (gone ++ now.letGoIn spawner history)) := by
  induction history generalizing now gone with
  | nil => simpa [letGoIn] using balanced
  | cons move rest ih =>
      have next : (now.move spawner move).launcher.Settled population :=
        settled.after spawner [move]
      rw [after_cons, letGoIn, ← List.append_assoc gone]
      apply ih next (gone ++ now.letGo spawner move)
      obtain ⟨events, asked, custody⟩ := handed_move settled spawner move
      have moved := custody.conserved
      rw [asked.record, World.preparedFor_events, startedIn_append, stoppedIn_append]
      -- Both balances count every entry, so their sum does.
      classical
      rw [List.perm_iff_count] at balanced moved ⊢
      intro entry
      have before := balanced entry
      have step := moved entry
      simp only [List.count_append] at before step ⊢
      omega

theorem custody_after {population : UInt8} {now : Rehearsal σ η}
    (settled : now.launcher.Settled population)
    (reaps : now.launcher.blueprint.settings.reapOnExit = true) (spawner : Spawner σ η)
    (history : List (Move σ))
    (held : Custody [] now.world.events now.launcher.children) :
    Custody [] (now.after spawner history).world.events
      (now.after spawner history).launcher.children := by
  induction history generalizing now with
  | nil => exact held
  | cons move rest ih =>
      have next : (now.move spawner move).launcher.Settled population :=
        settled.after spawner [move]
      have same := now.after_blueprint spawner [move]
      rw [after_cons, after_nil] at same
      obtain ⟨events, asked, custody⟩ := handed_move settled spawner move
      rw [letGo_of_reaps reaps, List.append_nil] at custody
      rw [after_cons]
      apply ih next
      · rw [same]
        exact reaps
      · rw [asked.record]
        exact held.append custody

private theorem letGoIn_of_reaps {now : Rehearsal σ η}
    (reaps : now.launcher.blueprint.settings.reapOnExit = true) (spawner : Spawner σ η)
    (history : List (Move σ)) : now.letGoIn spawner history = [] := by
  induction history generalizing now with
  | nil => rfl
  | cons move rest ih =>
      have same := now.after_blueprint spawner [move]
      rw [after_cons, after_nil] at same
      rw [letGoIn, letGo_of_reaps reaps, ih (by rw [same]; exact reaps), List.append_nil]

end Rehearsal

/-- The handle occurs once in a list, together with the number of its entry. -/
def OccursOnce (entry : ReplicaId × η) (entries : List (ReplicaId × η)) : Prop :=
  ∃ before behind, entries = before ++ entry :: behind ∧
    entry.2 ∉ before.map Prod.snd ∧ entry.2 ∉ behind.map Prod.snd

/-- The handle does not occur in a list under any number. -/
def Absent (entry : ReplicaId × η) (entries : List (ReplicaId × η)) : Prop :=
  entry.2 ∉ entries.map Prod.snd

/-- The handle of a started replica is in exactly one of three lists. -/
def InOnePlace (entry : ReplicaId × η) (held stopped gone : List (ReplicaId × η)) : Prop :=
  (OccursOnce entry held ∧ Absent entry stopped ∧ Absent entry gone) ∨
  (Absent entry held ∧ OccursOnce entry stopped ∧ Absent entry gone) ∨
  (Absent entry held ∧ Absent entry stopped ∧ OccursOnce entry gone)

theorem occursOnce_of_nodup {entry : ReplicaId × η} {entries : List (ReplicaId × η)}
    (member : entry ∈ entries) (distinct : (entries.map Prod.snd).Nodup) :
    OccursOnce entry entries := by
  obtain ⟨before, behind, rfl⟩ := List.append_of_mem member
  rw [List.map_append, List.map_cons, List.nodup_middle, List.nodup_cons, List.mem_append,
    not_or] at distinct
  exact ⟨before, behind, rfl, distinct.1⟩

theorem inOnePlace_of_perm {entries held stopped gone : List (ReplicaId × η)}
    (balanced : entries.Perm (held ++ stopped ++ gone))
    (distinct : (entries.map Prod.snd).Nodup) {entry : ReplicaId × η} (member : entry ∈ entries) :
    InOnePlace entry held stopped gone := by
  have all : ((held ++ stopped ++ gone).map Prod.snd).Nodup :=
    (balanced.map Prod.snd).nodup distinct
  simp only [List.map_append] at all
  obtain ⟨first, onlyGone, apart⟩ := List.nodup_append'.1 all
  obtain ⟨onlyHeld, onlyStopped, apart'⟩ := List.nodup_append'.1 first
  have placed := balanced.mem_iff.1 member
  simp only [List.mem_append] at placed
  rcases placed with (placed | placed) | placed
  all_goals have handle : entry.2 ∈ _ := List.mem_map_of_mem placed
  · exact .inl ⟨occursOnce_of_nodup placed onlyHeld, apart' handle,
      apart (List.mem_append_left _ handle)⟩
  · exact .inr (.inl ⟨fun there => apart' there handle, occursOnce_of_nodup placed onlyStopped,
      apart (List.mem_append_right _ handle)⟩)
  · exact .inr (.inr ⟨fun there => apart (List.mem_append_left _ there) handle,
      fun there => apart (List.mem_append_right _ there) handle,
      occursOnce_of_nodup placed onlyGone⟩)

/-- The account of all handles after a history that began in some state of the spawner, with
    those let go so far: every start is balanced by a replica still held under its number, a
    stop, or a letting go, each once. -/
structure HandlesAccounted (spawner : Spawner σ η) (state : σ) (history : List (Move σ))
    (now : Rehearsal σ η) (gone : List (ReplicaId × η)) : Prop where
  /-- The record shows all handles that the spawner has returned, and all that it was given. -/
  answered : ReplaysHistory spawner state history now.world.events now.world.spawner
  balanced : (startedIn now.world.events).Perm
    (now.launcher.children ++ stoppedIn now.world.events ++ gone)
  /-- Handles that differ are told apart, so each is in one of the three places only. -/
  inOnePlace : ((startedIn now.world.events).map Prod.snd).Nodup →
    ∀ entry ∈ startedIn now.world.events,
      InOnePlace entry now.launcher.children (stoppedIn now.world.events) gone
  /-- The next move asks for stops only of what is held, the last one first. -/
  next : ∀ move, Handed spawner now.launcher.children (now.world.preparedFor move)
    ((now.move spawner move).launcher.children ++ now.letGo spawner move)
    (now.move spawner move).world
  /-- Where a move leaves nothing behind and lets nothing go, all that was held and started
      is asked to stop once, however the stops go. -/
  swept : ∀ move, (now.move spawner move).launcher.children = [] →
    now.letGo spawner move = [] →
    ∃ events, Asked spawner (now.world.preparedFor move) events (now.move spawner move).world ∧
      (now.launcher.children ++ startedIn events).Perm (stoppedIn events)
  gone_of_reaps : now.launcher.blueprint.settings.reapOnExit = true → gone = []
  /-- With reaping, two starts of one number have one stop more between them than starts;
      two successive ones have just one stop. -/
  restarted : now.launcher.blueprint.settings.reapOnExit = true →
    ∀ earlier between later id executable executable' arguments arguments' time time' handle
      handle',
      now.world.events = earlier ++ .start id executable arguments time (.ok handle) ::
        (between ++ .start id executable' arguments' time' (.ok handle') :: later) →
      occurrences id (stoppedIn between) = occurrences id (startedIn between) + 1

namespace Launcher

/-- No history of a launcher from a checked request loses a handle or stops one twice. -/
theorem handlesAccounted_after {settings : Settings} {population : UInt8}
    {failRate : Option Binary64} {launcher : Launcher η}
    (checked : setup settings population failRate = .ok launcher) (spawner : Spawner σ η)
    (receiver : Receiver) (scene : Scene) (state : σ) (history : List (Move σ)) :
    HandlesAccounted spawner state history
      (Rehearsal.after spawner ⟨launcher, receiver, .fresh scene state⟩ history)
      (Rehearsal.letGoIn spawner ⟨launcher, receiver, .fresh scene state⟩ history) := by
  obtain ⟨blueprint, -, rfl⟩ := map_eq_ok_iff.1 checked
  have settled := settled_of_setup checked
  let start : Rehearsal σ η := ⟨ofBlueprint blueprint, receiver, .fresh scene state⟩
  have now : (start.after spawner history).launcher.Settled population :=
    (show start.launcher.Settled population from settled).after spawner history
  have same := start.after_blueprint spawner history
  have balanced := start.conserved_after settled spawner history [] (.refl _)
  obtain ⟨events, record, replays⟩ := start.after_replays spawner history
  rw [← record.trans (List.nil_append _)] at replays
  refine ⟨replays, balanced, fun distinct entry member => inOnePlace_of_perm balanced distinct member,
    fun move => Rehearsal.handed_move now spawner move, ?_, ?_, ?_⟩
  · intro move nothing none
    obtain ⟨events, asked, custody⟩ := Rehearsal.handed_move now spawner move
    rw [nothing, none, List.append_nil] at custody
    exact ⟨events, asked, by simpa using custody.conserved⟩
  · intro reaps
    rw [same] at reaps
    exact Rehearsal.letGoIn_of_reaps reaps spawner history
  · intro reaps earlier between later id _ _ _ _ _ _ _ _ record
    rw [same] at reaps
    have custody := start.custody_after settled reaps spawner history .rest
    rw [record] at custody
    exact custody.stops_between

/-- A launcher of three replicas that does not reap: a launch that a signal cuts short, a
    sweep in which a stop fails, and a run that lets all replicas go. -/
theorem handlesAccounted_three_replicas :
    ∃ launcher : Launcher ReplicaId,
      setup { Settings.standard with reapOnExit := false } 3 none = .ok launcher ∧
      let state : Script := ⟨[], [1], [(1, .send true)]⟩
      let start : Rehearsal Script ReplicaId := ⟨launcher, .fresh, .fresh .fresh state⟩
      let history : List (Move Script) :=
        [.step .launch, .step (.prepare ⟨[], [1], []⟩), .receive ⟨1⟩, .step .launch,
          .step .terminateAll, .step .launch, .step (.signal .close), .step .run]
      HandlesAccounted scriptedSpawner state history (start.after scriptedSpawner history)
        (start.letGoIn scriptedSpawner history) := by
  obtain ⟨launcher, checked⟩ : ∃ launcher : Launcher ReplicaId,
      setup { Settings.standard with reapOnExit := false } 3 none = .ok launcher :=
    exists_of_isOk (by decide)
  exact ⟨launcher, checked, handlesAccounted_after checked _ _ _ _ _⟩

end Launcher

end ClusterLaunch
