import ClusterLaunch.Proofs.Launcher.Trace
import ClusterLaunch.Proofs.Signal.Moment

/-! # Waiting for the end

A run waits for the first signal, a send or the end of the sender, and then lets go of all
replicas at once. Until then nothing in the launcher changes, however long it takes. Whoever
passes on a copy of a receiver has seen no more afterwards than before.
-/

namespace ClusterLaunch

variable {σ η : Type}

namespace Launcher

/-- What a run does when its wait is over. -/
def afterWait (launcher : Launcher η) (spawner : Spawner σ η) (world : World σ η) :
    Wake × Scene → RunEnd × Launcher η × World σ η
  | (.pending, scene) => (.parked, launcher, { world with scene })
  | (.change, scene) =>
      (.done, launcher.release spawner
        ({ world with scene }.log .warn "launcher caught termination signal"))
  | (.closed, scene) =>
      (.done, launcher.release spawner
        ({ world with scene }.log .warn "termination channel closed"))

/-- A run that is given up at some time on the clock, however late. -/
def runTo (launcher : Launcher η) (spawner : Spawner σ η) (receiver : Receiver) (limit : Nat)
    (world : World σ η) : RunEnd × Launcher η × World σ η :=
  launcher.afterWait spawner world (world.scene.waitTo receiver limit)

theorem run_eq_runTo (launcher : Launcher η) (spawner : Spawner σ η) (receiver : Receiver)
    (patience : Nat) (world : World σ η) :
    launcher.run spawner receiver patience world =
      launcher.runTo spawner receiver (world.scene.timeAfter patience) world := by
  rw [run, runTo, Scene.wait_eq_waitTo]
  rcases world.scene.waitTo receiver (world.scene.timeAfter patience) with ⟨wake, scene⟩
  cases wake <;> rfl

private theorem release_logs (launcher : Launcher η) (spawner : Spawner σ η) (world : World σ η) :
    world.logs <+: (launcher.release spawner world).2.logs := by
  unfold release
  split
  · exact ⟨_, (stopAll_logs spawner launcher.children.reverse world).symm⟩
  · exact List.prefix_append _ _

/-- What a run says has woken it up. -/
def wakeRecord (receiver : Receiver) (channel : Channel) : LogRecord :=
  ⟨.warn, if receiver.hasUnseen channel then "launcher caught termination signal"
    else "termination channel closed"⟩

/-- The run is over, in some scene, and all replicas are let go. -/
structure Returned (launcher : Launcher η) (spawner : Spawner σ η) (receiver : Receiver)
    (world : World σ η) (scene : Scene) (ended : RunEnd × Launcher η × World σ η) : Prop where
  done : ended.1 = .done
  emptied : ended.2.1 = { launcher with children := [] }
  moment : ended.2.2.scene = scene
  woken : receiver.hasUnseen scene.channel = true ∨ scene.channel.isOpen = false
  report : world.logs ++ [wakeRecord receiver scene.channel] <+: ended.2.2.logs
  /-- Whichever stops fail, each replica is asked once, or none is asked at all. -/
  stops : ∃ stops, Asked spawner world stops ended.2.2 ∧
    StopsFor (if launcher.blueprint.settings.reapOnExit then launcher.children.reverse else [])
      stops

theorem returned_of_release (launcher : Launcher η) (spawner : Spawner σ η)
    {receiver : Receiver} {world : World σ η} {scene : Scene}
    (woken : receiver.hasUnseen scene.channel = true ∨ scene.channel.isOpen = false)
    {message : String} (report : wakeRecord receiver scene.channel = ⟨.warn, message⟩) :
    Returned launcher spawner receiver world scene
      (.done, launcher.release spawner ({ world with scene }.log .warn message)) := by
  obtain ⟨stops, asked, stopped⟩ :=
    (release_swept launcher spawner ({ world with scene }.log .warn message)).stops
  refine ⟨rfl, release_launcher .., release_scene .., woken, ?_, stops, asked.later rfl rfl,
    stopped⟩
  rw [report]
  exact release_logs launcher spawner ({ world with scene }.log .warn message)

theorem afterWait_of_ready (launcher : Launcher η) (spawner : Spawner σ η) {receiver : Receiver}
    {world : World σ η} {scene : Scene} (ready : receiver.poll scene.channel ≠ .pending) :
    Returned launcher spawner receiver world scene
      (launcher.afterWait spawner world (receiver.poll scene.channel, scene)) := by
  cases found : receiver.poll scene.channel with
  | pending => exact absurd found ready
  | change =>
      have unseen := Receiver.poll_eq_change_iff.1 found
      exact returned_of_release launcher spawner (.inl unseen) (by rw [wakeRecord, if_pos unseen])
  | closed =>
      obtain ⟨seen, closed⟩ := Receiver.poll_eq_closed_iff.1 found
      exact returned_of_release launcher spawner (.inr closed) (by simp [wakeRecord, seen])

theorem turn_scheduled (settings : Settings) (first : Bool) (receiver : Receiver)
    {world : World σ η} (scheduled : world.scene.Scheduled) :
    (turn settings first receiver world).2.2.scene.Scheduled := by
  unfold turn pause
  split
  · exact scheduled
  · have waited := scheduled.wait receiver settings.staggerMs.toNat
    split
    · next found => rwa [found] at waited
    · next found =>
      rw [found] at waited
      exact waited.advanceTo _
    · next found => rwa [found] at waited

theorem startOne_scheduled (spawner : Spawner σ η) (executable : String) (plan : LaunchPlan)
    {world : World σ η} (scheduled : world.scene.Scheduled) :
    (startOne spawner executable plan world).2.scene.Scheduled :=
  ⟨scheduled.ahead, scheduled.ordered⟩

theorem Starting.scheduled {spawner : Spawner σ η} {settings : Settings} {first : Bool}
    {plans : List LaunchPlan} {receiver receiver' : Receiver} {world world' : World σ η}
    {ending : StartsEnd} {started : List (ReplicaId × η)}
    (h : Starting spawner settings first plans receiver world ending started receiver' world')
    (scheduled : world.scene.Scheduled) : world'.scene.Scheduled := by
  induction h with
  | complete => exact scheduled
  | @interrupted first _ _ _ receiver _ world _ took _ =>
      have turned := turn_scheduled settings first receiver scheduled
      rwa [took] at turned
  | @failed first _ plan _ receiver _ world _ scene _ took _ start =>
      have turned := turn_scheduled settings first receiver scheduled
      rw [took] at turned
      have begun := startOne_scheduled spawner settings.serverExecutable plan turned
      rwa [start] at begun
  | @started first _ plan _ receiver _ _ world _ _ scene _ _ _ took _ start _ ih =>
      have turned := turn_scheduled settings first receiver scheduled
      rw [took] at turned
      have begun := startOne_scheduled spawner settings.serverExecutable plan turned
      rw [start] at begun
      exact ih begun

theorem launch_scheduled (launcher : Launcher η) (spawner : Spawner σ η) (receiver : Receiver)
    {world : World σ η} (scheduled : world.scene.Scheduled) :
    (launcher.launch spawner receiver world).world.scene.Scheduled := by
  have rules := launch_launching launcher spawner receiver world
  generalize launcher.launch spawner receiver world = outcome at rules ⊢
  cases rules with
  | refused => exact scheduled
  | complete _ starting => exact starting.scheduled scheduled
  | @failed _ _ started _ world' _ starting =>
      have swept := stopAll_scene spawner started.reverse world'
      exact swept.symm ▸ starting.scheduled scheduled
  | interrupted _ starting =>
      rw [release_scene]
      exact starting.scheduled scheduled

theorem run_scheduled (launcher : Launcher η) (spawner : Spawner σ η) (receiver : Receiver)
    (patience : Nat) {world : World σ η} (scheduled : world.scene.Scheduled) :
    (launcher.run spawner receiver patience world).2.2.scene.Scheduled := by
  have waited := scheduled.wait receiver patience
  have rules := run_running launcher spawner receiver patience world
  generalize launcher.run spawner receiver patience world = ended at rules ⊢
  cases rules with
  | parked found => rwa [found] at waited
  | caught found | closed found =>
      rw [release_scene]
      rwa [found] at waited

end Launcher

namespace Rehearsal

theorem scheduled_after {now : Rehearsal σ η} (scheduled : now.world.scene.Scheduled)
    (spawner : Spawner σ η) (history : List (Move σ)) :
    (now.after spawner history).world.scene.Scheduled := by
  induction history generalizing now with
  | nil => exact scheduled
  | cons move rest ih =>
      rw [after_cons]
      apply ih
      cases move with
      | receive receiver => exact scheduled
      | runFor patience => exact Launcher.run_scheduled _ spawner _ patience scheduled
      | step step =>
          cases step with
          | launch => exact Launcher.launch_scheduled _ spawner _ scheduled
          | run => exact Launcher.run_scheduled _ spawner _ patience scheduled
          | terminateAll =>
              have swept := Launcher.stopAll_scene spawner now.launcher.children.reverse now.world
              exact swept.symm ▸ scheduled
          | signal signal => exact ⟨scheduled.ahead, scheduled.ordered⟩
          | sleep ms => exact scheduled.advanceTo _
          | after ms signal => exact scheduled.schedule ms signal
          | prepare state => exact scheduled

end Rehearsal

namespace Launcher

/-- When a run returns, and what has happened by then. -/
structure Awaits (launcher : Launcher η) (spawner : Spawner σ η) (receiver : Receiver)
    (world : World σ η) : Prop where
  /-- No patience lasts for ever, but the time at which a run is given up may be any. -/
  patience : ∀ patience, launcher.run spawner receiver patience world =
    launcher.runTo spawner receiver (world.scene.timeAfter patience) world
  atOnce : receiver.hasUnseen world.scene.channel = true ∨ world.scene.channel.isOpen = false →
    ∀ limit, Returned launcher spawner receiver world world.scene
      (launcher.runTo spawner receiver limit world)
  /-- Otherwise it returns with the first signal, when all that is due with it has arrived. -/
  first : receiver.hasUnseen world.scene.channel = false → world.scene.channel.isOpen = true →
    ∀ first ∈ world.scene.agenda, (∀ timer ∈ world.scene.agenda, first.due ≤ timer.due) →
    ∀ limit, first.due < limit → Returned launcher spawner receiver world
      (world.scene.atMoment first.due) (launcher.runTo spawner receiver limit world)
  parked : receiver.hasUnseen world.scene.channel = false → world.scene.channel.isOpen = true →
    ∀ limit, world.scene.clock < limit → (∀ timer ∈ world.scene.agenda, limit ≤ timer.due) →
    launcher.runTo spawner receiver limit world =
      (.parked, launcher, { world with scene := { world.scene with clock := limit } })
  /-- A run works on a copy, and the receiver of its caller stays as it is. -/
  caller : ∀ patience, (Rehearsal.move spawner ⟨launcher, receiver, world⟩
    (.runFor patience)).receiver = receiver

/-- A run waits for the first signal and for nothing else. -/
theorem run_awaits (launcher : Launcher η) (spawner : Spawner σ η) (receiver : Receiver)
    {world : World σ η} (scheduled : world.scene.Scheduled) :
    Awaits launcher spawner receiver world := by
  refine ⟨fun patience => run_eq_runTo .., ?_, ?_, ?_, fun _ => rfl⟩
  · intro woken limit
    have ready : receiver.poll world.scene.channel ≠ .pending := by
      intro pending
      obtain ⟨seen, opened⟩ := Receiver.poll_eq_pending_iff.1 pending
      rcases woken with unseen | closed
      · rw [seen] at unseen; cases unseen
      · rw [opened] at closed; cases closed
    rw [runTo, Scene.waitTo_of_ready ready]
    exact afterWait_of_ready launcher spawner ready
  · intro seen opened first member least limit inside
    have nothing := Receiver.poll_eq_pending_iff.2 ⟨seen, opened⟩
    obtain ⟨waited, ready⟩ := Scene.waitTo_first scheduled nothing member least inside
    rw [runTo, waited]
    exact afterWait_of_ready launcher spawner ready
  · intro seen opened limit early ahead
    have nothing := Receiver.poll_eq_pending_iff.2 ⟨seen, opened⟩
    rw [runTo, Scene.waitTo_parked nothing early ahead]
    rfl

/-- The signals due at 4040 end the run of three replicas: a send after which the sender goes
    away. One replica fails to stop. -/
theorem run_awaits_three_replicas :
    ∃ launcher : Launcher ReplicaId, setup Settings.standard 3 none = .ok launcher ∧
      let now := (Rehearsal.start launcher ⟨[], [1], []⟩).after scriptedSpawner
        [.step .launch, .step (.after 90 (.send false)), .step (.after 40 (.send true)),
          .step (.after 40 .close)]
      now.world.scene.Scheduled ∧
      Awaits now.launcher scriptedSpawner now.receiver now.world ∧
      Returned now.launcher scriptedSpawner now.receiver now.world (now.world.scene.atMoment 4040)
        (now.launcher.run scriptedSpawner now.receiver 100 now.world) := by
  let history : List (Move Script) :=
    [.step .launch, .step (.after 90 (.send false)), .step (.after 40 (.send true)),
      .step (.after 40 .close)]
  let after (launcher : Launcher ReplicaId) :=
    (Rehearsal.start launcher ⟨[], [1], []⟩).after scriptedSpawner history
  obtain ⟨launcher, checked, now⟩ : ∃ launcher : Launcher ReplicaId,
      setup Settings.standard 3 none = .ok launcher ∧
        decide ((after launcher).world.scene =
          ⟨4000, .fresh, [⟨4040, .send true⟩, ⟨4040, .close⟩, ⟨4090, .send false⟩]⟩ ∧
            (after launcher).receiver = .fresh) = true :=
    exists_of_any (by decide)
  obtain ⟨scene, receiver⟩ := of_decide_eq_true now
  have scheduled : (after launcher).world.scene.Scheduled :=
    Rehearsal.scheduled_after Scene.scheduled_fresh scriptedSpawner history
  have awaits := run_awaits (after launcher).launcher scriptedSpawner (after launcher).receiver
    scheduled
  refine ⟨launcher, checked, scheduled, awaits, ?_⟩
  have returned := awaits.first (by rw [scene, receiver]; rfl) (by rw [scene]; rfl)
    ⟨4040, .send true⟩ (by rw [scene]; decide) (by rw [scene]; decide)
  have given := awaits.patience 100
  rw [scene] at given
  exact given ▸ returned _ (by decide)

end Launcher

end ClusterLaunch
