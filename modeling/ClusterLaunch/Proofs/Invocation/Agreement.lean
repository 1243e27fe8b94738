import ClusterLaunch.Proofs.Invocation.DryRun
import ClusterLaunch.Proofs.Launcher.Admission

/-! # The two checks of an invocation

An invocation is checked before it becomes a request, and the request is checked again when it
is planned. The two overlap in the number of replicas and in the range of the rate, and there
the first check leaves nothing for the second to find: what it passes on is refused only for
the executable, for a rate that the format has no place for, or for the ports.
-/

namespace ClusterLaunch

variable {σ η : Type}

namespace Topology

variable {population : UInt8} {host : Host} {clientBase peerBase : UInt16}

theorem allocate_ne_noReplicas (populated : 1 ≤ population.toNat) :
    allocate population host clientBase peerBase ≠ .error .noReplicas := by
  have some : population ≠ 0 := by
    rintro rfl
    exact absurd populated (by decide)
  unfold allocate
  dsimp only
  rw [if_neg some]
  repeat' split
  all_goals nofun

/-- What can be wrong with the ports of some replicas. -/
inductive Misplaced (population : UInt8) (clientBase peerBase : UInt16) : Prop where
  | privileged (low : clientBase.toNat ≤ 1024 ∨ peerBase.toNat ≤ 1024)
  | overflow (i : Nat) (small : i < population.toNat)
      (behind : 65535 < clientBase.toNat + i ∨ 65535 < peerBase.toNat + i)
  | overlap (i j : Nat) (small : i < population.toNat) (small' : j < population.toNat)
      (shared : clientBase.toNat + i = peerBase.toNat + j)

private theorem not_isOk_allocate_iff (populated : 1 ≤ population.toNat) :
    ¬(allocate population host clientBase peerBase).isOk = true ↔
      Misplaced population clientBase peerBase := by
  constructor
  · intro refused
    by_contra fine
    have clients : 1024 < clientBase.toNat := by
      by_contra low
      exact fine (.privileged (.inl (Nat.not_lt.1 low)))
    have peers : 1024 < peerBase.toNat := by
      by_contra low
      exact fine (.privileged (.inr (Nat.not_lt.1 low)))
    have clientsFit : clientBase.toNat + population.toNat ≤ 65536 := by
      by_contra behind
      exact fine (.overflow (population.toNat - 1) (by omega) (.inl (by omega)))
    have peersFit : peerBase.toNat + population.toNat ≤ 65536 := by
      by_contra behind
      exact fine (.overflow (population.toNat - 1) (by omega) (.inr (by omega)))
    have apart : Apart clientBase.toNat peerBase.toNat population.toNat := by
      unfold Apart
      by_contra together
      -- Of two ranges that meet, one holds the first port of the other.
      rcases Nat.le_total clientBase.toNat peerBase.toNat with le | le
      · exact fine (.overlap (peerBase.toNat - clientBase.toNat) 0 (by omega) populated (by omega))
      · exact fine (.overlap 0 (clientBase.toNat - peerBase.toNat) populated (by omega) (by omega))
    have allocated : allocate population host clientBase peerBase =
        .ok ⟨(List.range population.toNat).map (entryAt host clientBase peerBase)⟩ :=
      allocate_eq_ok_iff.2 ⟨populated, clients, peers, clientsFit, peersFit, apart, rfl⟩
    rw [allocated] at refused
    exact refused rfl
  · intro misplaced accepted
    obtain ⟨topology, allocated⟩ := exists_of_isOk accepted
    obtain ⟨-, clients, peers, clientsFit, peersFit, apart, -⟩ := allocate_eq_ok_iff.1 allocated
    unfold Apart at apart
    unfold lastPort at clientsFit peersFit
    unfold lastPrivilegedPort at clients peers
    rcases misplaced with low | ⟨i, small, behind⟩ | ⟨i, j, small, small', shared⟩ <;> omega

end Topology

namespace Blueprint

/-- What can be wrong with a request whose rate is a probability. -/
inductive Unplannable (settings : Settings) (population : UInt8) (failRate : Option Binary64) :
    Prop where
  | unnamed (empty : settings.serverExecutable = "")
  | uncarried (given : failRate.isSome = true) (positional : settings.payloadFormat = .positional)
  | misplaced (ports : Topology.Misplaced population settings.clientPortBase settings.peerPortBase)

variable {settings : Settings} {population : UInt8} {failRate : Option Binary64}

private theorem rateFits_iff (inside : ∀ rate, failRate = some rate → rate.InUnitInterval) :
    RateFits settings failRate ↔
      ¬(failRate.isSome = true ∧ settings.payloadFormat = .positional) := by
  constructor
  · rintro fits ⟨given, positional⟩
    obtain ⟨rate, same⟩ := Option.isSome_iff_exists.1 given
    exact (fits rate same).2 positional
  · intro carried rate given
    refine ⟨inside rate given, ?_⟩
    intro positional
    exact carried ⟨Option.isSome_iff_exists.2 ⟨rate, given⟩, positional⟩

theorem not_admissible_iff (populated : 1 ≤ population.toNat)
    (inside : ∀ rate, failRate = some rate → rate.InUnitInterval) :
    ¬Admissible settings population failRate ↔ Unplannable settings population failRate := by
  have fits : RateFits settings failRate ↔ _ := rateFits_iff inside
  have ports : ¬(Topology.allocate population settings.bindHost settings.clientPortBase
      settings.peerPortBase).isOk = true ↔ _ := Topology.not_isOk_allocate_iff populated
  constructor
  · intro refused
    by_contra fine
    refine refused ⟨?_, fits.2 ?_, ?_⟩
    · intro empty
      exact fine (.unnamed empty)
    · rintro ⟨given, positional⟩
      exact fine (.uncarried given positional)
    · by_contra unallocated
      exact fine (.misplaced (ports.1 unallocated))
  · intro unplannable admissible
    cases unplannable with
    | unnamed empty => exact admissible.named empty
    | uncarried given positional => exact fits.1 admissible.rate ⟨given, positional⟩
    | misplaced misplaced => exact ports.2 misplaced admissible.ports

end Blueprint

namespace LaunchRequest

variable {invocation : Invocation}

/-- What the first check has found out about the request that it passes on. -/
structure Checked (invocation : Invocation) (request : LaunchRequest) : Prop where
  least : 1 ≤ invocation.replicas
  most : invocation.replicas ≤ 255
  population : (request.population.toNat : Int) = invocation.replicas
  failRate : request.failRate = invocation.failRate
  inside : ∀ rate, invocation.failRate = some rate → rate.InUnitInterval

theorem checked_of_ofInvocation {request : LaunchRequest}
    (accepted : ofInvocation invocation = .ok request) : Checked invocation request := by
  obtain ⟨counted, likely, population, failRate, -⟩ := ofInvocation_eq_ok_iff.1 accepted
  exact ⟨counted.1, counted.2, population, failRate, likely⟩

theorem Checked.populated {request : LaunchRequest} (checked : Checked invocation request) :
    1 ≤ request.population.toNat := by
  have population := checked.population
  have least := checked.least
  omega

/-- How the check of an invocation and the one that plans its request fit together, whatever
    spawner the launcher is given. -/
structure Agrees (η : Type) (invocation : Invocation) (state : σ) : Prop where
  checked : ∀ request, ofInvocation invocation = .ok request → Checked invocation request
  /-- Neither the number of replicas nor the range of the rate is refused later. -/
  settled : ∀ request error, ofInvocation invocation = .ok request →
    (Rehearsal.ofRequest request.settings request.population invocation.failRate state :
      Except SetupError (Rehearsal σ η)) = .error error →
    error ≠ .topology .noReplicas ∧ ∀ rate, error ≠ .rateOutOfRange rate
  refused_iff : ∀ request, ofInvocation invocation = .ok request →
    ((∃ error, (Rehearsal.ofRequest request.settings request.population invocation.failRate state :
        Except SetupError (Rehearsal σ η)) = .error error) ↔
      Blueprint.Unplannable request.settings request.population invocation.failRate)
  /-- Both are refused at first, whatever else the invocation holds. -/
  replicas : ¬(1 ≤ invocation.replicas ∧ invocation.replicas ≤ 255) →
    ofInvocation invocation = .error (.replicasOutOfRange invocation.replicas)
  rate : ∀ rate, invocation.failRate = some rate → ¬rate.InUnitInterval →
    ofInvocation invocation = .error
      (if 1 ≤ invocation.replicas ∧ invocation.replicas ≤ 255 then .rateOutOfRange rate
      else .replicasOutOfRange invocation.replicas)

theorem ofInvocation_agrees (invocation : Invocation) (state : σ) :
    Agrees η invocation state := by
  refine ⟨fun request => checked_of_ofInvocation, ?_, ?_, fun outside => ?_, ?_⟩
  · intro request error accepted refused
    have checked := checked_of_ofInvocation accepted
    have reason := ((Rehearsal.ofRequest_admits (η := η) request.settings request.population
      invocation.failRate state).refused error).1 refused
    constructor
    · rintro rfl
      cases reason with
      | topology _ _ collides => exact Topology.allocate_ne_noReplicas checked.populated collides
    · rintro rate rfl
      cases reason with
      | rateOutOfRange _ given outside => exact outside (checked.inside rate given)
  · intro request accepted
    have checked := checked_of_ofInvocation accepted
    have admits := Rehearsal.ofRequest_admits (η := η) request.settings request.population
      invocation.failRate state
    rw [← Blueprint.not_admissible_iff checked.populated checked.inside, ← admits.accepted]
    cases Rehearsal.ofRequest (η := η) request.settings request.population invocation.failRate
      state <;> simp [Except.isOk, Except.toBool]
  · exact ofInvocation_eq_error_iff.2 (.replicas outside)
  · intro rate given outside
    rw [ofInvocation_eq_error_iff]
    split
    · next within => exact .rate within given outside
    · next without => exact .replicas without

end LaunchRequest

end ClusterLaunch
