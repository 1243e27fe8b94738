import ClusterLaunch.Signal.Scene

/-! # What waiting does

A channel only ever gains versions and only ever closes, so a version that a receiver has
not seen stays unseen while signals arrive. A wait lets the first timers of the agenda take
effect, all due before its limit, and its answer tells what the receiver finds at its end. If
nothing was to be seen, the whole delay has passed. A wait that a send ends lasts until just
that send.
-/

namespace ClusterLaunch

namespace Channel

/-- The later channel comes from the earlier one by signals. -/
def Reaches (channel later : Channel) : Prop :=
  ∃ signals, later = channel.applyAll signals

theorem Reaches.refl (channel : Channel) : channel.Reaches channel := ⟨[], rfl⟩

theorem Reaches.trans {channel between later : Channel} (first : channel.Reaches between)
    (second : between.Reaches later) : channel.Reaches later := by
  obtain ⟨signals, rfl⟩ := first
  obtain ⟨more, rfl⟩ := second
  exact ⟨signals ++ more, by simp [applyAll]⟩

theorem version_le_apply (channel : Channel) (signal : Signal) :
    channel.version ≤ (channel.apply signal).version := by
  cases signal with
  | close => exact Nat.le_refl _
  | send value => cases opened : channel.isOpen <;> simp [apply, opened]

theorem isOpen_of_apply {channel : Channel} {signal : Signal}
    (h : (channel.apply signal).isOpen = true) : channel.isOpen = true := by
  cases signal with
  | close => cases h
  | send value => cases opened : channel.isOpen <;> simp_all [apply]

private theorem apply_of_closed {channel : Channel} (closed : channel.isOpen = false)
    (signal : Signal) :
    channel.apply signal = channel := by
  cases signal with
  | send value => simp [apply, closed]
  | close => simp [apply, ← closed]

theorem Reaches.version_le {channel later : Channel} (h : channel.Reaches later) :
    channel.version ≤ later.version := by
  obtain ⟨signals, rfl⟩ := h
  induction signals generalizing channel with
  | nil => exact Nat.le_refl _
  | cons signal rest ih => exact Nat.le_trans (channel.version_le_apply signal) ih

theorem Reaches.isOpen {channel later : Channel} (h : channel.Reaches later)
    (opened : later.isOpen = true) : channel.isOpen = true := by
  obtain ⟨signals, rfl⟩ := h
  induction signals generalizing channel with
  | nil => exact opened
  | cons signal rest ih => exact isOpen_of_apply (ih opened)

theorem Reaches.eq_of_closed {channel later : Channel} (h : channel.Reaches later)
    (closed : channel.isOpen = false) : later = channel := by
  obtain ⟨signals, rfl⟩ := h
  induction signals with
  | nil => rfl
  | cons signal rest ih =>
      calc
        channel.applyAll (signal :: rest) = (channel.apply signal).applyAll rest := rfl
        _ = channel.applyAll rest := by rw [apply_of_closed closed]
        _ = channel := ih

end Channel

namespace Receiver

theorem hasUnseen_iff {receiver : Receiver} {channel : Channel} :
    receiver.hasUnseen channel = true ↔ receiver.seen ≠ channel.version := by
  simp [hasUnseen]

theorem hasUnseen_of_reaches {receiver : Receiver} {channel later : Channel}
    (reaches : channel.Reaches later) (behind : receiver.seen ≤ channel.version)
    (unseen : receiver.hasUnseen channel = true) : receiver.hasUnseen later = true := by
  rw [hasUnseen_iff] at unseen ⊢
  have gained := reaches.version_le
  omega

theorem poll_eq_change_iff {receiver : Receiver} {channel : Channel} :
    receiver.poll channel = .change ↔ receiver.hasUnseen channel = true := by
  unfold poll
  cases receiver.hasUnseen channel <;> cases channel.isOpen <;> simp

theorem poll_eq_pending_iff {receiver : Receiver} {channel : Channel} :
    receiver.poll channel = .pending ↔
      receiver.hasUnseen channel = false ∧ channel.isOpen = true := by
  unfold poll
  cases receiver.hasUnseen channel <;> cases channel.isOpen <;> simp

theorem poll_eq_closed_iff {receiver : Receiver} {channel : Channel} :
    receiver.poll channel = .closed ↔
      receiver.hasUnseen channel = false ∧ channel.isOpen = false := by
  unfold poll
  cases receiver.hasUnseen channel <;> cases channel.isOpen <;> simp

end Receiver

namespace Scene

/-- The later scene comes from the earlier one when some first timers take effect, all of
    them due before the limit. -/
def Elapses (limit : Nat) (scene later : Scene) : Prop :=
  ∃ past, scene.agenda = past ++ later.agenda ∧ (∀ timer ∈ past, timer.due < limit) ∧
    later.channel = scene.channel.applyAll (past.map Timer.signal)

theorem Elapses.still {limit : Nat} {scene later : Scene} (agenda : later.agenda = scene.agenda)
    (channel : later.channel = scene.channel) : Elapses limit scene later :=
  ⟨[], agenda.symm, List.forall_mem_nil _, channel⟩

theorem Elapses.timer {limit clock clock' : Nat} {channel : Channel} {first : Timer}
    {rest : List Timer} {later : Scene} (early : first.due < limit)
    (more : Elapses limit ⟨clock', channel.apply first.signal, rest⟩ later) :
    Elapses limit ⟨clock, channel, first :: rest⟩ later := by
  obtain ⟨past, agenda, due, same⟩ := more
  exact ⟨first :: past, congrArg (first :: ·) agenda, List.forall_mem_cons.2 ⟨early, due⟩, same⟩

theorem Elapses.reaches {limit : Nat} {scene later : Scene} (h : Elapses limit scene later) :
    scene.channel.Reaches later.channel := by
  obtain ⟨past, -, -, same⟩ := h
  exact ⟨past.map Timer.signal, same⟩

theorem settle_append {time : Nat} {past : List Timer} (due : ∀ timer ∈ past, timer.due < time)
    (channel : Channel) (rest : List Timer) :
    settle time channel (past ++ rest) =
      settle time (channel.applyAll (past.map Timer.signal)) rest := by
  induction past generalizing channel with
  | nil => rfl
  | cons first past ih =>
      obtain ⟨early, others⟩ := List.forall_mem_cons.1 due
      rw [List.cons_append, settle, if_pos early, ih others]
      rfl

/-- Who has waited for a part of the time up to the limit finds the same at the limit. -/
theorem Elapses.advanceTo {limit : Nat} {scene later : Scene} (h : Elapses limit scene later) :
    later.advanceTo limit = scene.advanceTo limit := by
  obtain ⟨past, agenda, due, same⟩ := h
  simp only [Scene.advanceTo, agenda, same, settle_append due]

private theorem settle_elapses (time clock : Nat) (channel : Channel) (agenda : List Timer) :
    Elapses time ⟨clock, channel, agenda⟩
      ⟨time, (settle time channel agenda).1, (settle time channel agenda).2⟩ := by
  induction agenda generalizing channel with
  | nil => exact .still rfl rfl
  | cons first rest ih =>
      unfold settle
      split
      · next early => exact .timer early (ih _)
      · exact .still rfl rfl

theorem advanceTo_elapses (scene : Scene) (time : Nat) :
    Elapses time scene (scene.advanceTo time) :=
  settle_elapses time scene.clock scene.channel scene.agenda

theorem sleep_reaches (scene : Scene) (delay : Nat) :
    scene.channel.Reaches (scene.sleep delay).channel :=
  (scene.advanceTo_elapses _).reaches

theorem waitUntil_elapses (receiver : Receiver) {limit clock : Nat} (early : clock < limit)
    (channel : Channel) (agenda : List Timer) :
    Elapses limit ⟨clock, channel, agenda⟩
      (waitUntil receiver limit clock channel agenda).2 := by
  fun_induction waitUntil receiver limit clock channel agenda with
  | case1 | case2 | case5 | case6 => exact .still rfl rfl
  | case3 clock channel first rest overdue ih =>
      exact .timer (Nat.lt_of_le_of_lt overdue early) (ih early)
  | case4 clock channel first rest _ _ inside ih => exact .timer inside (ih inside)

theorem waitUntil_poll (receiver : Receiver) (limit clock : Nat) (channel : Channel)
    (agenda : List Timer) :
    receiver.poll (waitUntil receiver limit clock channel agenda).2.channel =
      (waitUntil receiver limit clock channel agenda).1 := by
  fun_induction waitUntil receiver limit clock channel agenda with
  | case1 _ _ found => exact found
  | case2 => rfl
  | case3 _ _ _ _ _ ih => exact ih
  | case4 _ _ _ _ _ _ _ ih => exact ih
  | case5 _ _ _ _ _ found => exact found
  | case6 => rfl

/-- A wait that finds nothing lasts until its limit and leaves no timer due before. -/
theorem waitUntil_pending {receiver : Receiver} {limit clock : Nat} {channel : Channel}
    {agenda : List Timer} (h : (waitUntil receiver limit clock channel agenda).1 = .pending) :
    (waitUntil receiver limit clock channel agenda).2.clock = limit ∧
      ∀ timer ∈ (waitUntil receiver limit clock channel agenda).2.agenda.head?,
        limit ≤ timer.due := by
  fun_induction waitUntil receiver limit clock channel agenda with
  | case1 => exact ⟨rfl, nofun⟩
  | case2 _ _ found => exact absurd h found
  | case3 _ _ _ _ _ ih => exact ih h
  | case4 _ _ _ _ _ _ _ ih => exact ih h
  | case5 _ _ _ _ _ _ outside => exact ⟨rfl, by simpa using outside⟩
  | case6 _ _ _ _ _ found => exact absurd h found

private theorem waitUntil_clock_of_unseen {receiver : Receiver} {limit clock : Nat}
    {channel : Channel} {agenda : List Timer} (unseen : receiver.seen < channel.version) :
    (waitUntil receiver limit clock channel agenda).2.clock = clock := by
  -- A version that is ahead of the receiver stays ahead, whatever arrives at this moment.
  have found : ∀ channel : Channel, receiver.seen < channel.version →
      receiver.poll channel ≠ .pending := by
    intro channel unseen pending
    have nothing := (Receiver.poll_eq_pending_iff.1 pending).1
    rw [Receiver.hasUnseen_iff.2 (Nat.ne_of_lt unseen)] at nothing
    cases nothing
  fun_induction waitUntil receiver limit clock channel agenda with
  | case1 _ _ pending => exact absurd pending (found _ unseen)
  | case2 => rfl
  | case3 _ channel first _ _ ih =>
      exact ih (Nat.lt_of_lt_of_le unseen (channel.version_le_apply first.signal))
  | case4 _ _ _ _ _ pending => exact absurd pending (found _ unseen)
  | case5 _ _ _ _ _ pending => exact absurd pending (found _ unseen)
  | case6 => rfl

/-- With nothing to see, the first timer sets the time, if it is due before the limit. -/
theorem waitUntil_cons {receiver : Receiver} {limit clock : Nat} {channel : Channel}
    (early : clock < limit) (nothing : receiver.poll channel = .pending) (first : Timer)
    (rest : List Timer) :
    waitUntil receiver limit clock channel (first :: rest) =
      if first.due < limit then
        waitUntil receiver limit (max clock first.due) (channel.apply first.signal) rest
      else (.pending, ⟨limit, channel, first :: rest⟩) := by
  rw [waitUntil]
  split
  · next overdue =>
    rw [if_pos (Nat.lt_of_le_of_lt overdue early), Nat.max_eq_left overdue]
  · next ahead =>
    simp only [nothing, Nat.max_eq_right (Nat.le_of_not_le ahead)]

/-- A wait that begins with nothing to see and finds a version on an open channel was ended
    by a send: the first timer is that send, and it sets the time. -/
theorem waitUntil_send {receiver : Receiver} {limit clock : Nat} {channel : Channel}
    {agenda : List Timer} (early : clock < limit) (nothing : receiver.poll channel = .pending)
    (found : (waitUntil receiver limit clock channel agenda).1 = .change)
    (opened : (waitUntil receiver limit clock channel agenda).2.channel.isOpen = true) :
    ∃ due value rest, agenda = ⟨due, .send value⟩ :: rest ∧ due < limit ∧
      (waitUntil receiver limit clock channel agenda).2.clock = max clock due := by
  obtain ⟨none, wasOpen⟩ := Receiver.poll_eq_pending_iff.1 nothing
  cases agenda with
  | nil => simp [waitUntil, nothing] at found
  | cons first rest =>
      obtain ⟨due, signal⟩ := first
      rw [waitUntil_cons early nothing] at found opened ⊢
      split at found
      · next inside =>
        rw [if_pos inside] at opened ⊢
        have more := waitUntil_elapses receiver (Nat.max_lt.2 ⟨early, inside⟩)
          (channel.apply signal) rest
        cases signal with
        | close => cases more.reaches.isOpen opened
        | send value =>
            refine ⟨due, value, rest, rfl, inside, waitUntil_clock_of_unseen ?_⟩
            have seen : receiver.seen = channel.version := by
              simpa [Receiver.hasUnseen] using none
            simp [Channel.apply, wasOpen, seen]
      · cases found

private theorem advanceTo_self {scene : Scene} {time : Nat} (now : scene.clock = time)
    (ahead : ∀ timer ∈ scene.agenda.head?, time ≤ timer.due) : scene.advanceTo time = scene := by
  obtain ⟨clock, channel, agenda⟩ := scene
  subst now
  cases agenda with
  | nil => rfl
  | cons first rest =>
      have late : ¬first.due < clock := Nat.not_lt.2 (ahead first rfl)
      simp [Scene.advanceTo, settle, late]

theorem lt_timeAfter (scene : Scene) {delay : Nat} (positive : 0 < delay) :
    scene.clock < scene.timeAfter delay :=
  Nat.lt_add_of_pos_right positive

theorem wait_of_unseen {scene : Scene} {receiver : Receiver} (delay : Nat)
    (unseen : receiver.hasUnseen scene.channel = true) :
    scene.wait receiver delay = (.change, scene) := by
  simp [wait, Receiver.poll_eq_change_iff.2 unseen]

theorem wait_of_pending {scene : Scene} {receiver : Receiver} (delay : Nat)
    (nothing : receiver.poll scene.channel = .pending) :
    scene.wait receiver delay =
      waitUntil receiver (scene.timeAfter delay) scene.clock scene.channel scene.agenda := by
  simp [wait, nothing]

theorem wait_elapses (scene : Scene) (receiver : Receiver) {delay : Nat} (positive : 0 < delay) :
    Elapses (scene.timeAfter delay) scene (scene.wait receiver delay).2 := by
  unfold wait
  split
  · exact waitUntil_elapses receiver (scene.lt_timeAfter positive) scene.channel scene.agenda
  · exact .still rfl rfl

theorem wait_poll (scene : Scene) (receiver : Receiver) (delay : Nat) :
    receiver.poll (scene.wait receiver delay).2.channel = (scene.wait receiver delay).1 := by
  unfold wait
  split
  · exact waitUntil_poll receiver _ scene.clock scene.channel scene.agenda
  · rfl

private theorem poll_eq_pending_of_wait {scene later : Scene} {receiver : Receiver} {delay : Nat}
    (h : scene.wait receiver delay = (.pending, later)) :
    receiver.poll scene.channel = .pending := by
  cases found : receiver.poll scene.channel with
  | pending => rfl
  | change | closed => simp [wait, found] at h

theorem wait_pending {scene later : Scene} {receiver : Receiver} {delay : Nat}
    (positive : 0 < delay) (h : scene.wait receiver delay = (.pending, later)) :
    later = scene.sleep delay := by
  have elapsed := scene.wait_elapses receiver positive
  have waited := wait_of_pending delay (poll_eq_pending_of_wait h)
  obtain ⟨now, ahead⟩ := waitUntil_pending (congrArg Prod.fst (waited.symm.trans h))
  rw [← waited, h] at now ahead
  rw [h] at elapsed
  rw [sleep, ← elapsed.advanceTo, advanceTo_self now ahead]

/-- A wait that finds a closed channel may go on for the rest of the delay. -/
theorem wait_closed {scene later : Scene} {receiver : Receiver} {delay : Nat}
    (positive : 0 < delay) (h : scene.wait receiver delay = (.closed, later)) :
    later.advanceTo (scene.timeAfter delay) = scene.sleep delay := by
  have elapsed := scene.wait_elapses receiver positive
  rw [h] at elapsed
  exact elapsed.advanceTo

/-- What a wait finds is there to see, and still is when the whole delay has passed. -/
theorem wait_change {scene later : Scene} {receiver : Receiver} {delay : Nat}
    (positive : 0 < delay) (behind : receiver.seen ≤ scene.channel.version)
    (h : scene.wait receiver delay = (.change, later)) :
    receiver.hasUnseen later.channel = true ∧
      receiver.hasUnseen (scene.sleep delay).channel = true := by
  have elapsed := scene.wait_elapses receiver positive
  have found := scene.wait_poll receiver delay
  rw [h] at elapsed found
  have unseen := Receiver.poll_eq_change_iff.1 found
  refine ⟨unseen, ?_⟩
  rw [sleep, ← elapsed.advanceTo]
  exact Receiver.hasUnseen_of_reaches (later.advanceTo_elapses _).reaches
    (Nat.le_trans behind elapsed.reaches.version_le) unseen

/-- A send that ends a wait is the first timer, due before the delay is over. -/
theorem wait_send {scene later : Scene} {receiver : Receiver} {delay : Nat} (positive : 0 < delay)
    (nothing : receiver.hasUnseen scene.channel = false)
    (h : scene.wait receiver delay = (.change, later)) (opened : later.channel.isOpen = true) :
    ∃ due value rest, scene.agenda = ⟨due, .send value⟩ :: rest ∧ due < scene.timeAfter delay ∧
      later.clock = max scene.clock due := by
  have reaches : scene.channel.Reaches later.channel := by
    have elapsed := scene.wait_elapses receiver positive
    rw [h] at elapsed
    exact elapsed.reaches
  have pending := Receiver.poll_eq_pending_iff.2 ⟨nothing, reaches.isOpen opened⟩
  have waited := (wait_of_pending delay pending).symm.trans h
  have sent := waitUntil_send (scene.lt_timeAfter positive) pending
    (congrArg Prod.fst waited) (by rw [waited]; exact opened)
  rwa [waited] at sent

end Scene

end ClusterLaunch
