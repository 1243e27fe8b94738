import ClusterLaunch.Proofs.Signal.Waiting

/-! # The moment at which a wait ends

Signals lie ahead in the order in which they are due. A receiver that has seen everything sent
on an open channel waits for the first of them, whatever it is, and looks when all that is due
at that moment has taken effect. A wait that must end before finds things as they were.
-/

namespace ClusterLaunch

namespace Receiver

theorem poll_apply_ne_pending {receiver : Receiver} {channel : Channel}
    (behind : receiver.seen ≤ channel.version) (ready : receiver.poll channel ≠ .pending)
    (signal : Signal) : receiver.poll (channel.apply signal) ≠ .pending := by
  intro pending
  obtain ⟨seen, opened⟩ := poll_eq_pending_iff.1 pending
  apply ready
  apply poll_eq_pending_iff.2
  refine ⟨?_, Channel.isOpen_of_apply opened⟩
  have gained := channel.version_le_apply signal
  simp only [hasUnseen, bne_eq_false_iff_eq] at seen ⊢
  omega

private theorem poll_apply_of_pending {receiver : Receiver} {channel : Channel}
    (nothing : receiver.poll channel = .pending) (signal : Signal) :
    receiver.poll (channel.apply signal) ≠ .pending := by
  obtain ⟨seen, opened⟩ := poll_eq_pending_iff.1 nothing
  intro pending
  obtain ⟨seen', opened'⟩ := poll_eq_pending_iff.1 pending
  simp only [hasUnseen, bne_eq_false_iff_eq] at seen seen'
  cases signal with
  | close => cases opened'
  | send value =>
      simp only [Channel.apply, opened, if_true] at seen'
      omega

theorem seen_le_apply {receiver : Receiver} {channel : Channel}
    (behind : receiver.seen ≤ channel.version) (signal : Signal) :
    receiver.seen ≤ (channel.apply signal).version :=
  Nat.le_trans behind (channel.version_le_apply signal)

private theorem seen_of_pending {receiver : Receiver} {channel : Channel}
    (nothing : receiver.poll channel = .pending) : receiver.seen = channel.version := by
  have seen := (poll_eq_pending_iff.1 nothing).1
  simpa [hasUnseen] using seen

private theorem poll_applyAll_ne_pending {receiver : Receiver} {channel : Channel}
    (behind : receiver.seen ≤ channel.version) (ready : receiver.poll channel ≠ .pending)
    (signals : List Signal) : receiver.poll (channel.applyAll signals) ≠ .pending := by
  induction signals generalizing channel with
  | nil => exact ready
  | cons signal rest ih =>
      exact ih (seen_le_apply behind signal) (poll_apply_ne_pending behind ready signal)

end Receiver

namespace Scene

/-- No signal is overdue, and the signals are listed in the order in which they are due. -/
structure Scheduled (scene : Scene) : Prop where
  ahead : ∀ timer ∈ scene.agenda, scene.clock ≤ timer.due
  ordered : scene.agenda.Pairwise fun first second => first.due ≤ second.due

/-- The scene at a later moment, if all that is due by then takes effect. -/
def atMoment (scene : Scene) (time : Nat) : Scene where
  clock := time
  channel := scene.channel.applyAll
    ((scene.agenda.filter fun timer => timer.due ≤ time).map Timer.signal)
  agenda := scene.agenda.filter fun timer => time < timer.due

theorem atMoment_cons {clock time : Nat} {channel : Channel} {first : Timer} {rest : List Timer}
    (due : first.due ≤ time) :
    atMoment ⟨clock, channel, first :: rest⟩ time =
      atMoment ⟨clock, channel.apply first.signal, rest⟩ time := by
  have past : ¬time < first.due := Nat.not_lt.2 due
  simp [atMoment, due, past, Channel.applyAll]

theorem atMoment_of_ahead {clock time : Nat} {channel : Channel} {agenda : List Timer}
    (ahead : ∀ timer ∈ agenda, time < timer.due) :
    atMoment ⟨clock, channel, agenda⟩ time = ⟨time, channel, agenda⟩ := by
  have none : agenda.filter (fun timer => timer.due ≤ time) = [] := by
    rw [List.filter_eq_nil_iff]
    intro timer member
    simpa using ahead timer member
  have all : agenda.filter (fun timer => time < timer.due) = agenda := by
    rw [List.filter_eq_self]
    intro timer member
    simpa using ahead timer member
  simp [atMoment, none, all, Channel.applyAll]

/-- Wait for a change, but not beyond a limit on the clock. -/
def waitTo (scene : Scene) (receiver : Receiver) (limit : Nat) : Wake × Scene :=
  match receiver.poll scene.channel with
  | .pending => waitUntil receiver limit scene.clock scene.channel scene.agenda
  | wake => (wake, scene)

theorem wait_eq_waitTo (scene : Scene) (receiver : Receiver) (patience : Nat) :
    scene.wait receiver patience = scene.waitTo receiver (scene.timeAfter patience) := rfl

theorem waitTo_of_ready {scene : Scene} {receiver : Receiver}
    (ready : receiver.poll scene.channel ≠ .pending) (limit : Nat) :
    scene.waitTo receiver limit = (receiver.poll scene.channel, scene) := by
  unfold waitTo
  split
  · next pending => exact absurd pending ready
  · rfl

/-- Who has something to see still lets everything of this moment take effect. -/
theorem waitUntil_of_ready {receiver : Receiver} {limit clock : Nat} {channel : Channel}
    {agenda : List Timer} (ordered : agenda.Pairwise fun first second => first.due ≤ second.due)
    (behind : receiver.seen ≤ channel.version) (ready : receiver.poll channel ≠ .pending) :
    waitUntil receiver limit clock channel agenda =
      (receiver.poll (atMoment ⟨clock, channel, agenda⟩ clock).channel,
        atMoment ⟨clock, channel, agenda⟩ clock) := by
  induction agenda generalizing channel with
  | nil =>
      rw [waitUntil, atMoment_of_ahead (List.forall_mem_nil _)]
      split
      · next pending => exact absurd pending ready
      · rfl
  | cons first rest ih =>
      obtain ⟨others, ordered⟩ := List.pairwise_cons.1 ordered
      rw [waitUntil]
      split
      · next due =>
        rw [atMoment_cons due]
        exact ih ordered (Receiver.seen_le_apply behind first.signal)
          (Receiver.poll_apply_ne_pending behind ready first.signal)
      · next late =>
        rw [Nat.not_le] at late
        rw [atMoment_of_ahead (List.forall_mem_cons.2
          ⟨late, fun timer member => Nat.lt_of_lt_of_le late (others timer member)⟩)]
        split
        · next pending => exact absurd pending ready
        · rfl

section

variable {scene : Scene} {receiver : Receiver} {limit : Nat}

/-- With nothing to see, a wait ends at the first signal of the agenda, and the receiver finds
    something then. -/
theorem waitTo_first (scheduled : scene.Scheduled)
    (nothing : receiver.poll scene.channel = .pending) {first : Timer}
    (member : first ∈ scene.agenda) (least : ∀ timer ∈ scene.agenda, first.due ≤ timer.due)
    (inside : first.due < limit) :
    scene.waitTo receiver limit =
        (receiver.poll (scene.atMoment first.due).channel, scene.atMoment first.due) ∧
      receiver.poll (scene.atMoment first.due).channel ≠ .pending := by
  obtain ⟨ahead, ordered⟩ := scheduled
  obtain ⟨clock, channel, agenda⟩ := scene
  cases agenda with
  | nil => cases member
  | cons head rest =>
      obtain ⟨others, ordered⟩ := List.pairwise_cons.1 ordered
      -- The head of the agenda is due no later than any other, so it may stand for the first.
      have same : first.due = head.due := by
        apply Nat.le_antisymm (least head (List.mem_cons_self ..))
        rcases List.mem_cons.1 member with rfl | further
        · exact Nat.le_refl _
        · exact others first further
      have now : clock ≤ head.due := ahead head (List.mem_cons_self ..)
      rw [same] at inside ⊢
      have behind := Receiver.seen_le_apply (Nat.le_of_eq (Receiver.seen_of_pending nothing))
        head.signal
      have ready := Receiver.poll_apply_of_pending nothing head.signal
      have found : atMoment ⟨clock, channel, head :: rest⟩ head.due =
          atMoment ⟨head.due, channel.apply head.signal, rest⟩ head.due :=
        atMoment_cons (Nat.le_refl _)
      rw [found]
      refine ⟨?_, Receiver.poll_applyAll_ne_pending behind ready _⟩
      rw [waitTo, nothing]
      dsimp only
      rw [waitUntil_cons (Nat.lt_of_le_of_lt now inside) nothing, if_pos inside,
        Nat.max_eq_right now, waitUntil_of_ready ordered behind ready]

/-- A wait that must end before the first signal changes nothing but the time. -/
theorem waitTo_parked (nothing : receiver.poll scene.channel = .pending)
    (early : scene.clock < limit) (ahead : ∀ timer ∈ scene.agenda, limit ≤ timer.due) :
    scene.waitTo receiver limit = (.pending, { scene with clock := limit }) := by
  obtain ⟨clock, channel, agenda⟩ := scene
  rw [waitTo, nothing]
  dsimp only
  cases agenda with
  | nil => simp [waitUntil, nothing]
  | cons first rest =>
      rw [waitUntil_cons early nothing, if_neg]
      exact Nat.not_lt.2 (ahead first (List.mem_cons_self ..))

end

theorem scheduled_fresh : fresh.Scheduled := ⟨nofun, .nil⟩

theorem ahead_of_head {time : Nat} {first : Timer} {rest : List Timer}
    (ordered : (first :: rest).Pairwise fun first second => first.due ≤ second.due)
    (head : time ≤ first.due) : ∀ timer ∈ first :: rest, time ≤ timer.due := by
  intro timer member
  rcases List.mem_cons.1 member with rfl | further
  · exact head
  · exact Nat.le_trans head ((List.pairwise_cons.1 ordered).1 timer further)

theorem mem_insertTimer {timer other : Timer} {agenda : List Timer} :
    other ∈ insertTimer timer agenda ↔ other = timer ∨ other ∈ agenda := by
  induction agenda with
  | nil => simp [insertTimer]
  | cons first rest ih =>
      unfold insertTimer
      split
      · simp only [List.mem_cons, ih]
        exact or_left_comm
      · exact List.mem_cons

theorem insertTimer_ordered {timer : Timer} {agenda : List Timer}
    (ordered : agenda.Pairwise fun first second => first.due ≤ second.due) :
    (insertTimer timer agenda).Pairwise fun first second => first.due ≤ second.due := by
  induction agenda with
  | nil => exact List.pairwise_singleton _ _
  | cons first rest ih =>
      obtain ⟨others, tail⟩ := List.pairwise_cons.1 ordered
      unfold insertTimer
      split
      · next before =>
        refine List.pairwise_cons.2 ⟨?_, ih tail⟩
        intro other member
        rcases mem_insertTimer.1 member with rfl | further
        · exact before
        · exact others other further
      · next behind =>
        have ahead : ∀ other ∈ first :: rest, timer.due ≤ other.due :=
          ahead_of_head ordered (Nat.le_of_not_le behind)
        exact List.pairwise_cons.2 ⟨ahead, ordered⟩

theorem Scheduled.schedule {scene : Scene} (h : scene.Scheduled) (delay : Nat) (signal : Signal) :
    (scene.schedule delay signal).Scheduled := by
  refine ⟨?_, insertTimer_ordered h.ordered⟩
  intro timer member
  rcases mem_insertTimer.1 member with rfl | further
  · exact Nat.le_add_right ..
  · exact h.ahead timer further

theorem Scheduled.advanceTo {scene : Scene} (h : scene.Scheduled) (time : Nat) :
    (scene.advanceTo time).Scheduled := by
  obtain ⟨clock, channel, agenda⟩ := scene
  have ordered := h.ordered
  clear h
  unfold Scene.advanceTo
  dsimp only at ordered ⊢
  induction agenda generalizing channel with
  | nil => exact ⟨nofun, .nil⟩
  | cons first rest ih =>
      unfold settle
      split
      · exact ih (channel.apply first.signal) (List.pairwise_cons.1 ordered).2
      · next late => exact ⟨ahead_of_head ordered (Nat.not_lt.1 late), ordered⟩

theorem waitUntil_scheduled {receiver : Receiver} {limit clock : Nat} {channel : Channel}
    {agenda : List Timer} (ordered : agenda.Pairwise fun first second => first.due ≤ second.due) :
    (waitUntil receiver limit clock channel agenda).2.Scheduled := by
  fun_induction waitUntil receiver limit clock channel agenda with
  | case1 | case2 =>
      refine ⟨?_, .nil⟩
      intro timer member
      cases member
  | case3 _ _ _ _ _ ih => exact ih (List.pairwise_cons.1 ordered).2
  | case4 _ _ _ _ _ _ _ ih => exact ih (List.pairwise_cons.1 ordered).2
  | case5 _ _ _ _ _ _ outside => exact ⟨ahead_of_head ordered (Nat.not_lt.1 outside), ordered⟩
  | case6 _ _ _ _ late => exact ⟨ahead_of_head ordered (Nat.le_of_not_le late), ordered⟩

theorem Scheduled.wait {scene : Scene} (h : scene.Scheduled) (receiver : Receiver)
    (patience : Nat) : (scene.wait receiver patience).2.Scheduled := by
  unfold Scene.wait
  split
  · exact waitUntil_scheduled h.ordered
  · exact h

end Scene

end ClusterLaunch
