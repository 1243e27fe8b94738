import ClusterLaunch.Proofs.Launcher.Replay

/-! # Custody of the handles

Every handle that the spawner gives out is in one place only: among the children, or
with the stopped ones, or with those let go on exit. The account is drawn up from the
record of what was asked of the spawner, which is read as a stack: a started replica is
put on top, and only the top one can be stopped.
-/

namespace ClusterLaunch

variable {σ η : Type}

namespace Event

def started? : Event η → Option (ReplicaId × η)
  | start id _ _ _ (.ok handle) => some (id, handle)
  | start _ _ _ _ (.error _) => none
  | stop _ _ _ => none

/-- The replica that an event asked to stop, with the handle that was passed on. -/
def stopped? : Event η → Option (ReplicaId × η)
  | start _ _ _ _ _ => none
  | stop id handle _ => some (id, handle)

end Event

/-- The replicas started in a row of events, in order. -/
def startedIn (events : List (Event η)) : List (ReplicaId × η) :=
  events.filterMap Event.started?

/-- The replicas asked to stop in a row of events, in order. -/
def stoppedIn (events : List (Event η)) : List (ReplicaId × η) :=
  events.filterMap Event.stopped?

@[simp]
theorem startedIn_append (events more : List (Event η)) :
    startedIn (events ++ more) = startedIn events ++ startedIn more :=
  List.filterMap_append

@[simp]
theorem stoppedIn_append (events more : List (Event η)) :
    stoppedIn (events ++ more) = stoppedIn events ++ stoppedIn more :=
  List.filterMap_append

/-- How often a replica number occurs. -/
def occurrences (id : ReplicaId) (entries : List (ReplicaId × η)) : Nat :=
  (entries.map Prod.fst).count id

@[simp]
theorem occurrences_append (id : ReplicaId) (entries more : List (ReplicaId × η)) :
    occurrences id (entries ++ more) = occurrences id entries + occurrences id more := by
  simp [occurrences]

/-- A row of events takes the replicas held from one list to another. A replica is
    started while none of its number is held, and a stop is asked for the one held last,
    with its own number and handle, however the stop goes. -/
inductive Custody : List (ReplicaId × η) → List (Event η) → List (ReplicaId × η) → Prop where
  | rest {held : List (ReplicaId × η)} : Custody held [] held
  | refused {held left : List (ReplicaId × η)} {events : List (Event η)} {id : ReplicaId}
      {executable : String} {arguments : List String} {time : Nat} {cause : String}
      (more : Custody held events left) :
      Custody held (.start id executable arguments time (.error cause) :: events) left
  | started {held left : List (ReplicaId × η)} {events : List (Event η)} {id : ReplicaId}
      {executable : String} {arguments : List String} {time : Nat} {handle : η}
      (unheld : id ∉ held.map Prod.fst)
      (more : Custody (held ++ [(id, handle)]) events left) :
      Custody held (.start id executable arguments time (.ok handle) :: events) left
  | stopped {held left : List (ReplicaId × η)} {events : List (Event η)} {id : ReplicaId}
      {handle : η} {outcome : Except String Unit} (more : Custody held events left) :
      Custody (held ++ [(id, handle)]) (.stop id handle outcome :: events) left

namespace Custody

theorem append {held between left : List (ReplicaId × η)} {events more : List (Event η)}
    (first : Custody held events between) (second : Custody between more left) :
    Custody held (events ++ more) left := by
  induction first with
  | rest => exact second
  | refused _ ih => exact .refused (ih second)
  | started unheld _ ih => exact .started unheld (ih second)
  | stopped _ ih => exact .stopped (ih second)

theorem split {held left : List (ReplicaId × η)} {events more : List (Event η)}
    (h : Custody held (events ++ more) left) :
    ∃ between, Custody held events between ∧ Custody between more left := by
  induction events generalizing held with
  | nil => exact ⟨held, .rest, h⟩
  | cons event events ih =>
      cases h with
      | refused tail =>
          obtain ⟨between, first, second⟩ := ih tail
          exact ⟨between, .refused first, second⟩
      | started unheld tail =>
          obtain ⟨between, first, second⟩ := ih tail
          exact ⟨between, .started unheld first, second⟩
      | stopped tail =>
          obtain ⟨between, first, second⟩ := ih tail
          exact ⟨between, .stopped first, second⟩

theorem conserved {held left : List (ReplicaId × η)} {events : List (Event η)}
    (h : Custody held events left) :
    (held ++ startedIn events).Perm (left ++ stoppedIn events) := by
  induction h with
  | rest => exact .refl _
  | refused _ ih => exact ih
  | @started held left events id _ _ _ handle _ _ ih =>
      have same : held ++ (id, handle) :: startedIn events =
          held ++ [(id, handle)] ++ startedIn events := by simp
      exact same ▸ ih
  | @stopped held left events id handle _ _ ih =>
      change (held ++ [(id, handle)] ++ startedIn events).Perm
        (left ++ (id, handle) :: stoppedIn events)
      calc
        (held ++ [(id, handle)] ++ startedIn events).Perm
            ((id, handle) :: (held ++ startedIn events)) := by
          simp
        _ |>.Perm ((id, handle) :: (left ++ stoppedIn events)) := ih.cons _
        _ |>.Perm (left ++ (id, handle) :: stoppedIn events) := List.perm_middle.symm

/-- After a start of a replica number and before another one of that number, there is one
    stop more than there are starts. -/
theorem stops_between {left : List (ReplicaId × η)} {earlier between later : List (Event η)}
    {id : ReplicaId} {executable executable' : String} {arguments arguments' : List String}
    {time time' : Nat} {handle handle' : η}
    (h : Custody [] (earlier ++ .start id executable arguments time (.ok handle) ::
      (between ++ .start id executable' arguments' time' (.ok handle') :: later)) left) :
    occurrences id (stoppedIn between) = occurrences id (startedIn between) + 1 := by
  obtain ⟨held, -, first⟩ := h.split
  cases first with
  | started unheld tail =>
      obtain ⟨held', span, second⟩ := tail.split
      cases second with
      | started unheld' _ =>
          have before : occurrences id held = 0 := List.count_eq_zero.2 unheld
          have behind : occurrences id held' = 0 := List.count_eq_zero.2 unheld'
          have count := (span.conserved.map Prod.fst).count_eq id
          change occurrences id (held ++ [(id, handle)] ++ startedIn between) =
            occurrences id (held' ++ stoppedIn between) at count
          have one : occurrences id [(id, handle)] = 1 := by simp [occurrences]
          simp only [occurrences_append] at count
          omega

end Custody

end ClusterLaunch
