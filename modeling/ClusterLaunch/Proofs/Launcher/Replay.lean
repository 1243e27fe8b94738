import ClusterLaunch.Proofs.Launcher.History

/-! # What the spawner is asked and what it answers

A world keeps the record, and its spawner knows nothing of it. To replay a record is to ask the
spawner for each of its events again, in the state in which it was asked then. Every operation of
a launcher leaves a record that replays to the spawner's state afterwards: whatever the record
shows is just what the spawner was called with and what it gave back, and it was called for
nothing else.
-/

namespace ClusterLaunch

variable {σ η : Type}

/-- Asked for these events in order, the spawner gives the outcomes that they show, and goes from
    one state to another. -/
inductive Replays (spawner : Spawner σ η) : σ → List (Event η) → σ → Prop where
  | rest {state : σ} : Replays spawner state [] state
  | start {state left : σ} {events : List (Event η)} {id : ReplicaId} {executable : String}
      {arguments : List String} {time : Nat}
      (more : Replays spawner (spawner.start id executable arguments state).state events left) :
      Replays spawner state
        (.start id executable arguments time
          (spawner.start id executable arguments state).outcome :: events) left
  | stop {state left : σ} {events : List (Event η)} {id : ReplicaId} {handle : η}
      (more : Replays spawner (spawner.stop id handle state).state events left) :
      Replays spawner state
        (.stop id handle (spawner.stop id handle state).outcome :: events) left

theorem Replays.append {spawner : Spawner σ η} {state between left : σ}
    {events more : List (Event η)} (first : Replays spawner state events between)
    (second : Replays spawner between more left) : Replays spawner state (events ++ more) left := by
  induction first with
  | rest => exact second
  | start _ ih => exact .start (ih second)
  | stop _ ih => exact .stop (ih second)

/-- From one world to another the spawner is asked for these events and for no others. -/
structure Asked (spawner : Spawner σ η) (world : World σ η) (events : List (Event η))
    (world' : World σ η) : Prop where
  record : world'.events = world.events ++ events
  replays : Replays spawner world.spawner events world'.spawner

namespace Asked

variable {spawner : Spawner σ η} {world between world' : World σ η}
  {events more : List (Event η)}

theorem nothing (record : world'.events = world.events)
    (state : world'.spawner = world.spawner) : Asked spawner world [] world' :=
  ⟨record.trans (List.append_nil _).symm, state ▸ .rest⟩

theorem trans (first : Asked spawner world events between)
    (second : Asked spawner between more world') : Asked spawner world (events ++ more) world' :=
  ⟨by rw [second.record, first.record, List.append_assoc], first.replays.append second.replays⟩

theorem later (h : Asked spawner between events world') (record : between.events = world.events)
    (state : between.spawner = world.spawner) : Asked spawner world events world' :=
  ⟨record ▸ h.record, state ▸ h.replays⟩

theorem log (h : Asked spawner world events world') (level : LogLevel) (message : String) :
    Asked spawner world events (world'.log level message) :=
  ⟨h.record, h.replays⟩

theorem of_record (h : Asked spawner world events world')
    (record : world'.events = world.events ++ more) : Asked spawner world more world' := by
  obtain rfl := List.append_cancel_left (h.record.symm.trans record)
  exact h

theorem unique (h : Asked spawner world events world') (h' : Asked spawner world more world') :
    events = more :=
  List.append_cancel_left (h.record.symm.trans h'.record)

end Asked

/-- What a spawner is given when it is called for a start. -/
structure Order where
  id : ReplicaId
  executable : String
  arguments : List String
  deriving Repr, DecidableEq

def LaunchPlan.order (plan : LaunchPlan) (executable : String) : Order :=
  ⟨plan.id, executable, plan.arguments⟩

def Event.order? : Event η → Option Order
  | start id executable arguments _ _ => some ⟨id, executable, arguments⟩
  | stop _ _ _ => none

/-- The spawner that also keeps, in its own state, what every call for a start has given it. -/
def Spawner.noting (spawner : Spawner σ η) : Spawner (σ × List Order) η where
  start id executable arguments state :=
    let started := spawner.start id executable arguments state.1
    { signals := started.signals
      outcome := started.outcome
      state := (started.state, state.2 ++ [⟨id, executable, arguments⟩]) }
  stop id handle state :=
    let stopped := spawner.stop id handle state.1
    { logs := stopped.logs, outcome := stopped.outcome, state := (stopped.state, state.2) }

theorem Replays.noted {spawner : Spawner σ η} {state left : σ × List Order}
    {events : List (Event η)} (h : Replays spawner.noting state events left) :
    left.2 = state.2 ++ events.filterMap Event.order? := by
  induction h with
  | rest => exact (List.append_nil _).symm
  | start _ ih =>
      rw [ih, Spawner.noting, List.append_assoc]
      rfl
  | stop _ ih => exact ih

theorem World.start_asked (world : World σ η) (spawner : Spawner σ η) (id : ReplicaId)
    (executable : String) (arguments : List String) :
    Asked spawner world
      [.start id executable arguments world.scene.clock
        (world.start spawner id executable arguments).1]
      (world.start spawner id executable arguments).2 :=
  ⟨rfl, .start .rest⟩

theorem World.stop_asked (world : World σ η) (spawner : Spawner σ η) (id : ReplicaId)
    (handle : η) :
    Asked spawner world [.stop id handle (world.stop spawner id handle).1]
      (world.stop spawner id handle).2 :=
  ⟨rfl, .stop .rest⟩

namespace Launcher

theorem startOne_asked (spawner : Spawner σ η) (executable : String) (plan : LaunchPlan)
    (world : World σ η) :
    Asked spawner world
      [.start plan.id executable plan.arguments world.scene.clock
        (startOne spawner executable plan world).1]
      (startOne spawner executable plan world).2 :=
  let logged := (world.log .info s!"starting {plan}").log .debug
    s!"  {plan.commandLine executable}"
  (logged.start_asked spawner plan.id executable plan.arguments).later rfl rfl

theorem stopAll_asked (spawner : Spawner σ η) (entries : List (ReplicaId × η))
    (world : World σ η) :
    Asked spawner world ((spawner.dismissals entries world.spawner).map Dismissal.event)
      (stopAll spawner entries world) := by
  induction entries generalizing world with
  | nil => exact .nothing rfl rfl
  | cons entry rest ih =>
      obtain ⟨id, handle⟩ := entry
      let dismissal : Dismissal σ η := ⟨id, handle, spawner.stop id handle world.spawner⟩
      have call := world.stop_asked spawner id handle
      have first : Asked spawner world [dismissal.event] (world.dismissed dismissal) :=
        ⟨call.record, call.replays⟩
      rw [stopAll_cons]
      exact first.trans (ih _)

theorem release_asked (launcher : Launcher η) (spawner : Spawner σ η) (world : World σ η) :
    ∃ events, Asked spawner world events (launcher.release spawner world).2 := by
  unfold release
  split
  · exact ⟨_, stopAll_asked spawner launcher.children.reverse world⟩
  · exact ⟨[], .nothing rfl rfl⟩

theorem Starting.asked {spawner : Spawner σ η} {settings : Settings} {first : Bool}
    {plans : List LaunchPlan} {receiver receiver' : Receiver} {world world' : World σ η}
    {ending : StartsEnd} {started : List (ReplicaId × η)}
    (h : Starting spawner settings first plans receiver world ending started receiver' world') :
    ∃ events, Asked spawner world events world' := by
  induction h with
  | complete | interrupted => exact ⟨[], .nothing rfl rfl⟩
  | @failed _ _ plan _ _ _ world _ scene _ _ _ start =>
      have call := startOne_asked spawner settings.serverExecutable plan { world with scene }
      rw [start] at call
      exact ⟨_, call.later rfl rfl⟩
  | @started _ _ plan _ _ _ _ world _ _ scene _ _ _ _ _ start _ ih =>
      have call := startOne_asked spawner settings.serverExecutable plan { world with scene }
      rw [start] at call
      obtain ⟨events, others⟩ := ih
      exact ⟨_, (call.trans others).later rfl rfl⟩

theorem launch_asked (launcher : Launcher η) (spawner : Spawner σ η) (receiver : Receiver)
    (world : World σ η) :
    ∃ events, Asked spawner world events (launcher.launch spawner receiver world).world := by
  have rules := launch_launching launcher spawner receiver world
  generalize launcher.launch spawner receiver world = outcome at rules ⊢
  cases rules with
  | refused => exact ⟨[], .nothing rfl rfl⟩
  | complete _ starting =>
      obtain ⟨events, started⟩ := starting.asked
      exact ⟨events, started.log _ _⟩
  | @failed _ _ started _ world' _ starting =>
      obtain ⟨events, attempts⟩ := starting.asked
      have swept := stopAll_asked spawner started.reverse world'
      exact ⟨_, (attempts.trans swept).log _ _⟩
  | @interrupted started _ world' _ starting =>
      obtain ⟨events, attempts⟩ := starting.asked
      obtain ⟨stops, released⟩ := release_asked { launcher with children := started } spawner
        (world'.log .warn (s!"launcher caught termination signal after " ++
          s!"{started.length} of {launcher.blueprint.plans.length} starts"))
      exact ⟨_, (attempts.log _ _).trans released⟩

theorem run_asked (launcher : Launcher η) (spawner : Spawner σ η) (receiver : Receiver)
    (patience : Nat) (world : World σ η) :
    ∃ events, Asked spawner world events (launcher.run spawner receiver patience world).2.2 := by
  have rules := run_running launcher spawner receiver patience world
  generalize launcher.run spawner receiver patience world = ended at rules ⊢
  cases rules with
  | parked => exact ⟨[], .nothing rfl rfl⟩
  | caught | closed =>
      obtain ⟨events, released⟩ := release_asked launcher spawner _
      exact ⟨events, released.later rfl rfl⟩

end Launcher

/-- The spawner's state when the asking begins: only a move that prepares the spawner sets it. -/
def Move.prepared (move : Move σ) (state : σ) : σ :=
  match move with
  | .step (.prepare state) => state
  | .step _ | .runFor _ | .receive _ => state

/-- The world in which a move does its asking. -/
def World.preparedFor (world : World σ η) (move : Move σ) : World σ η :=
  { world with spawner := move.prepared world.spawner }

@[simp]
theorem World.preparedFor_events (world : World σ η) (move : Move σ) :
    (world.preparedFor move).events = world.events := rfl

/-- The events of a history, move by move, as the spawner answers them. -/
inductive ReplaysHistory (spawner : Spawner σ η) :
    σ → List (Move σ) → List (Event η) → σ → Prop where
  | rest {state : σ} : ReplaysHistory spawner state [] [] state
  | move {state between left : σ} {move : Move σ} {history : List (Move σ)}
      {events more : List (Event η)} (first : Replays spawner (move.prepared state) events between)
      (others : ReplaysHistory spawner between history more left) :
      ReplaysHistory spawner state (move :: history) (events ++ more) left

namespace Rehearsal

theorem move_asked (spawner : Spawner σ η) (now : Rehearsal σ η) (move : Move σ) :
    ∃ events, Asked spawner (now.world.preparedFor move) events (now.move spawner move).world := by
  cases move with
  | runFor patience => exact Launcher.run_asked now.launcher spawner now.receiver patience now.world
  | receive => exact ⟨[], .nothing rfl rfl⟩
  | step step =>
      cases step with
      | launch => exact Launcher.launch_asked now.launcher spawner now.receiver now.world
      | run => exact Launcher.run_asked now.launcher spawner now.receiver patience now.world
      | terminateAll =>
          exact ⟨_, Launcher.stopAll_asked spawner now.launcher.children.reverse now.world⟩
      | signal | sleep | after | prepare => exact ⟨[], .nothing rfl rfl⟩

/-- The record of every history replays, from the spawner's state before it to the one behind. -/
theorem after_replays (spawner : Spawner σ η) (now : Rehearsal σ η) (history : List (Move σ)) :
    ∃ events, (now.after spawner history).world.events = now.world.events ++ events ∧
      ReplaysHistory spawner now.world.spawner history events
        (now.after spawner history).world.spawner := by
  induction history generalizing now with
  | nil => exact ⟨[], (List.append_nil _).symm, .rest⟩
  | cons move rest ih =>
      obtain ⟨events, asked⟩ := now.move_asked spawner move
      obtain ⟨more, record, others⟩ := ih (now.move spawner move)
      refine ⟨events ++ more, ?_, .move asked.replays others⟩
      rw [after_cons, record, asked.record, List.append_assoc]
      rfl

end Rehearsal

end ClusterLaunch
