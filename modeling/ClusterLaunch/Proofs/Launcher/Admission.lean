import ClusterLaunch.Launcher.Rehearsal
import ClusterLaunch.Proofs.Binary64.Value
import ClusterLaunch.Proofs.Launcher.View

/-! # Which requests are planned

A request is refused for the first of its conditions that is violated, and for nothing else.
Where all of them hold, each replica can be planned: its topology knows it, and its
configuration can be encoded. So a fault of a single plan never comes up.
-/

namespace ClusterLaunch

variable {σ η : Type}

namespace Topology

variable {population : UInt8} {host : Host} {clientBase peerBase : UInt16}

private theorem allocate_ne_unknownReplica {id : ReplicaId} {count : Nat} :
    allocate population host clientBase peerBase ≠ .error (.unknownReplica id count) := by
  unfold allocate
  dsimp only
  repeat' split
  all_goals nofun

theorem peers_eq_error {topology : Topology} {id : ReplicaId} {policy : PeerPolicy}
    {fault : TopologyError} (h : topology.peers id policy = .error fault) :
    fault = .unknownReplica id topology.population := by
  unfold peers addresses at h
  rw [map_eq_error_iff] at h
  split at h <;> cases h
  rfl

end Topology

namespace Blueprint

variable {settings : Settings} {population : UInt8} {failRate : Option Binary64}

/-- The rate, if there is one, is a probability, and the format has a place for it. -/
def RateFits (settings : Settings) (failRate : Option Binary64) : Prop :=
  ∀ rate, failRate = some rate → rate.InUnitInterval ∧ settings.payloadFormat ≠ .positional

theorem checkRate_eq_ok_iff :
    checkRate settings failRate = .ok () ↔ RateFits settings failRate := by
  unfold checkRate RateFits
  cases failRate with
  | none => simp
  | some rate =>
      simp only [Option.some.injEq, forall_eq', ← Binary64.inUnitInterval_iff]
      cases rate.inUnitInterval <;> by_cases format : settings.payloadFormat = .positional <;>
        simp [format]

theorem checkRate_eq_error_iff {error : SetupError} :
    checkRate settings failRate = .error error ↔ ∃ rate, failRate = some rate ∧
      (¬rate.InUnitInterval ∧ error = .rateOutOfRange rate ∨
        rate.InUnitInterval ∧ settings.payloadFormat = .positional ∧
          error = .rateNotCarried rate .positional) := by
  unfold checkRate
  cases failRate with
  | none => simp
  | some rate =>
      simp only [Option.some.injEq, exists_eq_left', ← Binary64.inUnitInterval_iff]
      cases rate.inUnitInterval <;> by_cases format : settings.payloadFormat = .positional <;>
        simp [format, eq_comm]

/-- Every replica of an allocated topology can be planned when the rate fits. -/
theorem exists_planReplica {topology : Topology} (small : topology.entries.length ≤ 256)
    (fits : RateFits settings failRate) {entry : ReplicaId × ReplicaAddresses}
    (member : entry ∈ topology.numbered) :
    ∃ plan, planReplica settings topology failRate entry = .ok plan := by
  obtain ⟨⟨addresses, i⟩, zipped, rfl⟩ := List.mem_map.1 member
  have inside : i < topology.entries.length := by
    simpa using List.snd_lt_of_mem_zipIdx zipped
  let config : ReplicaConfig := ⟨addresses.client, addresses.peer, failRate,
    Topology.told settings.peerPolicy (topology.entries.map ReplicaAddresses.peer) i⟩
  cases encoded : config.toArguments settings.payloadFormat with
  | ok arguments =>
      exact ⟨⟨UInt8.ofNat i, addresses, config, arguments⟩, planReplica_eq_ok_iff.2
        ⟨rfl, rfl, Topology.peers_eq_told small inside settings.peerPolicy, rfl, encoded⟩⟩
  | error fault =>
      obtain ⟨positional, rate, given, -⟩ := ReplicaConfig.toArguments_eq_error_iff.1 encoded
      exact absurd positional (fits rate given).2

/-- What a request must meet. -/
structure Admissible (settings : Settings) (population : UInt8) (failRate : Option Binary64) :
    Prop where
  named : settings.serverExecutable ≠ ""
  rate : RateFits settings failRate
  ports : (Topology.allocate population settings.bindHost settings.clientPortBase
    settings.peerPortBase).isOk = true

/-- The error of the first condition that a request does not meet. -/
inductive Refused (settings : Settings) (population : UInt8) (failRate : Option Binary64) :
    SetupError → Prop where
  | noExecutable (unnamed : settings.serverExecutable = "") :
      Refused settings population failRate .noExecutable
  | rateOutOfRange {rate : Binary64} (named : settings.serverExecutable ≠ "")
      (given : failRate = some rate) (outside : ¬rate.InUnitInterval) :
      Refused settings population failRate (.rateOutOfRange rate)
  | rateNotCarried {rate : Binary64} (named : settings.serverExecutable ≠ "")
      (given : failRate = some rate) (inside : rate.InUnitInterval)
      (positional : settings.payloadFormat = .positional) :
      Refused settings population failRate (.rateNotCarried rate .positional)
  | topology {fault : TopologyError} (named : settings.serverExecutable ≠ "")
      (rate : RateFits settings failRate)
      (collides : Topology.allocate population settings.bindHost settings.clientPortBase
        settings.peerPortBase = .error fault) :
      Refused settings population failRate (.topology fault)

theorem admissible_or_refused (settings : Settings) (population : UInt8)
    (failRate : Option Binary64) :
    Admissible settings population failRate ∨
      ∃ error, Refused settings population failRate error := by
  by_cases named : settings.serverExecutable = ""
  · exact .inr ⟨_, .noExecutable named⟩
  cases rate : checkRate settings failRate with
  | error error =>
      obtain ⟨rate, given, ⟨outside, -⟩ | ⟨inside, positional, -⟩⟩ := checkRate_eq_error_iff.1 rate
      · exact .inr ⟨_, .rateOutOfRange named given outside⟩
      · exact .inr ⟨_, .rateNotCarried named given inside positional⟩
  | ok =>
      have fits := checkRate_eq_ok_iff.1 rate
      cases ports : Topology.allocate population settings.bindHost settings.clientPortBase
        settings.peerPortBase with
      | error fault => exact .inr ⟨_, .topology named fits ports⟩
      | ok topology => exact .inl ⟨named, fits, by rw [ports]; rfl⟩

theorem ofRequest_of_admissible (h : Admissible settings population failRate) :
    ∃ blueprint, ofRequest settings population failRate = .ok blueprint := by
  obtain ⟨topology, allocated⟩ := exists_of_isOk h.ports
  have small := Topology.entries_le (Topology.length_entries allocated)
  obtain ⟨plans, planned⟩ := exists_mapM fun _ member =>
    exists_planReplica small h.rate member
  exact ⟨⟨settings, topology, plans⟩, ofRequest_eq_ok_iff.2
    ⟨by simpa using h.named, checkRate_eq_ok_iff.2 h.rate, allocated, planned, rfl⟩⟩

theorem ofRequest_of_refused {error : SetupError} (h : Refused settings population failRate error) :
    ofRequest settings population failRate = .error error := by
  unfold ofRequest
  cases h with
  | noExecutable unnamed => simp [unnamed, bind, Except.bind]
  | rateOutOfRange named given outside =>
      have unfit : checkRate settings failRate = .error (.rateOutOfRange _) :=
        checkRate_eq_error_iff.2 ⟨_, given, .inl ⟨outside, rfl⟩⟩
      simp [named, unfit, bind, Except.bind]
  | rateNotCarried named given inside positional =>
      have unfit : checkRate settings failRate = .error (.rateNotCarried _ .positional) :=
        checkRate_eq_error_iff.2 ⟨_, given, .inr ⟨inside, positional, rfl⟩⟩
      simp [named, unfit, bind, Except.bind]
  | topology named fits collides =>
      simp [named, checkRate_eq_ok_iff.2 fits, collides, bind, Except.bind, Except.mapError]

theorem isOk_ofRequest_iff :
    (ofRequest settings population failRate).isOk = true ↔
      Admissible settings population failRate := by
  constructor
  · intro accepted
    refine (admissible_or_refused settings population failRate).resolve_right ?_
    rintro ⟨error, refused⟩
    rw [ofRequest_of_refused refused] at accepted
    cases accepted
  · intro admissible
    obtain ⟨blueprint, planned⟩ := ofRequest_of_admissible admissible
    rw [planned]
    rfl

theorem ofRequest_eq_error_iff {error : SetupError} :
    ofRequest settings population failRate = .error error ↔
      Refused settings population failRate error := by
  refine ⟨fun h => ?_, ofRequest_of_refused⟩
  rcases admissible_or_refused settings population failRate with admissible | ⟨first, refused⟩
  · obtain ⟨blueprint, planned⟩ := ofRequest_of_admissible admissible
    rw [planned] at h
    cases h
  · rw [ofRequest_of_refused refused, Except.error.injEq] at h
    exact h ▸ refused

/-- Of three conditions that are violated, the first is reported. -/
example : ofRequest { Settings.standard with payloadFormat := .positional } 0 (some .nan) =
    .error (.rateOutOfRange .nan) := by
  decide

/-- An error is never that of a single plan. -/
theorem Refused.ne_payload {error : SetupError} (h : Refused settings population failRate error)
    (fault : PayloadError) : error ≠ .payload fault := by
  rintro rfl
  cases h

private theorem Refused.ne_unknownReplica {error : SetupError}
    (h : Refused settings population failRate error) (id : ReplicaId) (count : Nat) :
    error ≠ .topology (.unknownReplica id count) := by
  rintro rfl
  cases h with
  | topology _ _ collides => exact Topology.allocate_ne_unknownReplica collides

end Blueprint

namespace Rehearsal

/-- Set a launcher up with a spawner in some state. -/
def ofRequest (settings : Settings) (population : UInt8) (failRate : Option Binary64)
    (state : σ) : Except SetupError (Rehearsal σ η) :=
  (Launcher.setup settings population failRate).map (start · state)

/-- What an attempt to set a launcher up comes to. -/
structure Admits (settings : Settings) (population : UInt8) (failRate : Option Binary64)
    (state : σ) (attempt : Except SetupError (Rehearsal σ η)) : Prop where
  accepted : attempt.isOk = true ↔ Blueprint.Admissible settings population failRate
  refused : ∀ error, attempt = .error error ↔
    Blueprint.Refused settings population failRate error
  /-- No error comes from telling a replica of its peers. -/
  told : ∀ error, attempt = .error error → ∀ (topology : Topology) (id : ReplicaId)
    (policy : PeerPolicy) (fault : TopologyError), topology.peers id policy = .error fault →
      error ≠ .topology fault
  /-- No error comes from encoding a configuration. -/
  encoded : ∀ error, attempt = .error error → ∀ (config : ReplicaConfig)
    (format : PayloadFormat) (fault : PayloadError), config.toArguments format = .error fault →
      error ≠ .payload fault
  /-- Nothing is started, and nothing has been asked of the spawner. -/
  idle : ∀ now, attempt = .ok now →
    now.launcher.launched = 0 ∧ now.world.events = [] ∧ now.world.spawner = state

theorem ofRequest_admits (settings : Settings) (population : UInt8)
    (failRate : Option Binary64) (state : σ) :
    Admits settings population failRate state
      (ofRequest settings population failRate state : Except SetupError (Rehearsal σ η)) := by
  have refused : ∀ error, (ofRequest settings population failRate state :
      Except SetupError (Rehearsal σ η)) = .error error ↔
        Blueprint.Refused settings population failRate error := by
    intro error
    rw [ofRequest, map_eq_error_iff, Launcher.setup, map_eq_error_iff,
      Blueprint.ofRequest_eq_error_iff]
  refine ⟨?_, refused, ?_, ?_, ?_⟩
  · rw [ofRequest, isOk_map, Launcher.setup, isOk_map, Blueprint.isOk_ofRequest_iff]
  · intro error h topology id policy fault unknown same
    rw [Topology.peers_eq_error unknown] at same
    exact ((refused error).1 h).ne_unknownReplica id topology.population same
  · intro error h config format fault _
    exact ((refused error).1 h).ne_payload fault
  · intro now h
    obtain ⟨launcher, made, rfl⟩ := map_eq_ok_iff.1 h
    obtain ⟨blueprint, -, rfl⟩ := map_eq_ok_iff.1 made
    exact ⟨rfl, rfl, rfl⟩

end Rehearsal

end ClusterLaunch
