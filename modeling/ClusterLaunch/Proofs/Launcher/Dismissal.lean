import ClusterLaunch.Proofs.Launcher.Handles

/-! # Everyone is dismissed, the newest first

The stops of a sweep are read off its record. There is one for each child, under the number and with
the handle it was stored with, and their order is settled before any of them is answered. It is the
reverse of the order of starts, since the children of a launcher are at all times the replicas that
its record shows as started last.
-/

namespace ClusterLaunch

variable {σ η : Type}

namespace Dismissal

def failed (dismissal : Dismissal σ η) : Bool :=
  !dismissal.answer.outcome.isOk

end Dismissal

def LogRecord.isError (record : LogRecord) : Bool :=
  decide (record.level = .error)

/-- Of the records of a dismissal, only the word of its failure is an error, but for what the
    spawner logs itself. -/
theorem Dismissal.countP_records (dismissal : Dismissal σ η) :
    dismissal.records.countP LogRecord.isError =
      (if dismissal.failed then 1 else 0) + dismissal.answer.logs.countP LogRecord.isError := by
  unfold records failed
  cases dismissal.answer.outcome with
  | ok => simp [LogRecord.isError, Except.isOk, Except.toBool]
  | error cause => simp [LogRecord.isError, Except.isOk, Except.toBool, Nat.add_comm]

private theorem countP_flatMap_records (stops : List (Dismissal σ η)) :
    (stops.flatMap Dismissal.records).countP LogRecord.isError =
      stops.countP Dismissal.failed +
        (stops.flatMap fun stop => stop.answer.logs).countP LogRecord.isError := by
  induction stops with
  | nil => rfl
  | cons stop rest ih =>
      simp only [List.flatMap_cons, List.countP_append, List.countP_cons, ih,
        Dismissal.countP_records]
      omega

namespace Rehearsal

/-- The children are the replicas started last, in the order of their starts. -/
def HoldsLast (now : Rehearsal σ η) : Prop :=
  now.launcher.children <:+ startedIn now.world.events

theorem HoldsLast.of_empty {now : Rehearsal σ η} (empty : now.launcher.children = []) :
    now.HoldsLast := by
  unfold HoldsLast
  rw [empty]
  exact List.nil_suffix

theorem HoldsLast.launch {now : Rehearsal σ η} (holds : now.HoldsLast) (spawner : Spawner σ η) :
    (now.move spawner (.step .launch)).HoldsLast := by
  simp only [move, perform]
  have rules := now.launcher.launch_launching spawner now.receiver now.world
  generalize now.launcher.launch spawner now.receiver now.world = outcome at rules ⊢
  cases rules with
  | refused => exact holds
  | failed | interrupted => exact .of_empty rfl
  | complete _ starting =>
      obtain ⟨events, record, started, -⟩ := starting.record
      unfold HoldsLast
      rw [World.log_events, record, startedIn_append, started]
      exact List.suffix_append ..

theorem HoldsLast.run {now : Rehearsal σ η} (holds : now.HoldsLast) (spawner : Spawner σ η)
    (patience : Nat) : (now.move spawner (.runFor patience)).HoldsLast := by
  simp only [move]
  have rules := now.launcher.run_running spawner now.receiver patience now.world
  generalize now.launcher.run spawner now.receiver patience now.world = ended at rules ⊢
  cases rules with
  | parked => exact holds
  | caught | closed => exact .of_empty rfl

theorem HoldsLast.move {now : Rehearsal σ η} (holds : now.HoldsLast) (spawner : Spawner σ η)
    (move : Move σ) : (now.move spawner move).HoldsLast := by
  cases move with
  | runFor patience => exact holds.run spawner patience
  | receive => exact holds
  | step step =>
      cases step with
      | launch => exact holds.launch spawner
      | run => exact holds.run spawner patience
      | terminateAll => exact .of_empty rfl
      | signal | sleep | after | prepare => exact holds

theorem HoldsLast.after {now : Rehearsal σ η} (holds : now.HoldsLast) (spawner : Spawner σ η)
    (history : List (Move σ)) : (now.after spawner history).HoldsLast := by
  induction history generalizing now with
  | nil => exact holds
  | cons move rest ih =>
      rw [after_cons]
      exact ih (holds.move spawner move)

end Rehearsal

namespace Launcher

/-- What a sweep through all children owes to its caller. -/
structure Dismisses (launcher : Launcher η) (spawner : Spawner σ η) (world : World σ η)
    (stops : List (Dismissal σ η)) (after : Launcher η × World σ η) : Prop where
  asked : stops.map Dismissal.entry = launcher.children.reverse
  /-- Nothing but these stops is asked of the spawner. -/
  calls : Asked spawner world (stops.map Dismissal.event) after.2
  logs : after.2.logs = world.logs ++ stops.flatMap Dismissal.records
  errors : (stops.flatMap Dismissal.records).countP LogRecord.isError =
    stops.countP Dismissal.failed +
      (stops.flatMap fun stop => stop.answer.logs).countP LogRecord.isError
  emptied : after.1 = { launcher with children := [] }
  scene : after.2.scene = world.scene
  /-- Any spawner is asked for the same stops, so it does not matter which of them fail. -/
  whichever : ∀ {τ : Type} (other : Spawner τ η) (world' : World τ η),
    ∃ stops' : List (Dismissal τ η), stops'.map Dismissal.entry = stops.map Dismissal.entry ∧
      Asked other world' (stops'.map Dismissal.event) (launcher.terminateAll other world').2
  /-- In a history that began without children, the stops are asked for the replicas started
      last, the newest first. -/
  newest : ∀ (start : Rehearsal σ η) (earlier : Spawner σ η) (history : List (Move σ))
    (receiver : Receiver), start.launcher.children = [] →
    start.after earlier history = ⟨launcher, receiver, world⟩ →
    stops.map Dismissal.entry <+: (startedIn world.events).reverse
  /-- Another sweep finds nothing to do. -/
  again : ∀ other : Spawner σ η, after.1.terminateAll other after.2 = after

/-- Every sweep asks each child to stop once, the newest first, and leaves none behind, however the
    stops go. -/
theorem terminateAll_dismisses (launcher : Launcher η) (spawner : Spawner σ η)
    (world : World σ η) :
    Dismisses launcher spawner world
      (spawner.dismissals launcher.children.reverse world.spawner)
      (launcher.terminateAll spawner world) := by
  have asked := spawner.dismissals_entry launcher.children.reverse world.spawner
  have calls := stopAll_asked spawner launcher.children.reverse world
  have logs := stopAll_logs spawner launcher.children.reverse world
  refine ⟨asked, calls, logs, countP_flatMap_records _, rfl, stopAll_scene .., ?_, ?_,
    fun _ => rfl⟩
  · intro τ other world'
    refine ⟨other.dismissals launcher.children.reverse world'.spawner, ?_, ?_⟩
    · rw [asked]
      exact other.dismissals_entry ..
    · exact stopAll_asked other launcher.children.reverse world'
  · intro start earlier history receiver empty reached
    have holds := (Rehearsal.HoldsLast.of_empty empty).after earlier history
    rw [reached] at holds
    rw [asked]
    exact List.reverse_prefix.2 holds

end Launcher

end ClusterLaunch
