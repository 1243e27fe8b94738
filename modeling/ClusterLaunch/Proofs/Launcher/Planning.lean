import Mathlib.Data.List.Nodup
import ClusterLaunch.Launcher.Run
import ClusterLaunch.Proofs.Attempt
import ClusterLaunch.Proofs.Topology

/-! # What a checked request holds

A blueprint comes only out of a request that passed every check. It keeps the
settings as they were given, and it has one plan for each replica number below the
population, in ascending order.
-/

namespace ClusterLaunch

namespace Topology

private theorem numbered_ids (topology : Topology) :
    topology.numbered.map Prod.fst = (List.range topology.entries.length).map UInt8.ofNat := by
  unfold numbered
  rw [List.map_map, List.range_eq_range', ← List.zipIdx_map_snd 0 topology.entries, List.map_map]
  rfl

private theorem numbered_entries (topology : Topology) :
    topology.numbered.map Prod.snd = topology.entries := by
  unfold numbered
  rw [List.map_map]
  exact List.zipIdx_map_fst 0 topology.entries

end Topology

/-- The replica numbers below a population, in ascending order. -/
def replicaIds (population : UInt8) : List ReplicaId :=
  (List.range population.toNat).map UInt8.ofNat

theorem length_replicaIds (population : UInt8) :
    (replicaIds population).length = population.toNat := by
  simp [replicaIds]

theorem nodup_replicaIds (population : UInt8) : (replicaIds population).Nodup := by
  unfold replicaIds
  refine List.Nodup.map_on ?_ List.nodup_range
  intro i hi j hj same
  have bound := population.toNat_lt
  rw [List.mem_range] at hi hj
  exact (Topology.ofNat_inj (by omega) (by omega)).1 same

namespace Blueprint

variable {settings : Settings} {population : UInt8} {failRate : Option Binary64}
  {blueprint : Blueprint}

theorem planReplica_eq_ok_iff {topology : Topology} {id : ReplicaId} {entry : ReplicaAddresses}
    {plan : LaunchPlan} :
    planReplica settings topology failRate (id, entry) = .ok plan ↔
      plan.id = id ∧ plan.addresses = entry ∧
      topology.peers id settings.peerPolicy = .ok plan.config.replicas ∧
      plan.config = ⟨entry.client, entry.peer, failRate, plan.config.replicas⟩ ∧
      plan.config.toArguments settings.payloadFormat = .ok plan.arguments := by
  unfold planReplica
  simp only [bind_eq_ok_iff, mapError_eq_ok_iff]
  constructor
  · rintro ⟨replicas, known, arguments, encoded, made⟩
    cases made
    exact ⟨rfl, rfl, known, rfl, encoded⟩
  · obtain ⟨_, _, config, arguments⟩ := plan
    rintro ⟨rfl, rfl, known, same, encoded⟩
    refine ⟨config.replicas, known, arguments, ?_, ?_⟩
    · rw [← same]
      exact encoded
    · rw [← same]
      rfl

private theorem planReplica_entry {topology : Topology} {entry : ReplicaId × ReplicaAddresses}
    {plan : LaunchPlan} (h : planReplica settings topology failRate entry = .ok plan) :
    (plan.id, plan.addresses) = entry := by
  obtain ⟨id, addresses⟩ := entry
  obtain ⟨rfl, rfl, -⟩ := planReplica_eq_ok_iff.1 h
  rfl

theorem ofRequest_eq_ok_iff :
    ofRequest settings population failRate = .ok blueprint ↔
      settings.serverExecutable.isEmpty = false ∧
      checkRate settings failRate = .ok () ∧
      Topology.allocate population settings.bindHost settings.clientPortBase
        settings.peerPortBase = .ok blueprint.topology ∧
      blueprint.topology.numbered.mapM (planReplica settings blueprint.topology failRate) =
        .ok blueprint.plans ∧
      blueprint.settings = settings := by
  unfold ofRequest
  cases named : settings.serverExecutable.isEmpty with
  | true => simp [bind, Except.bind]
  | false =>
      simp only [Bool.false_eq_true, if_false, bind_eq_ok_iff, mapError_eq_ok_iff, true_and]
      constructor
      · rintro ⟨⟨⟩, rate, topology, allocated, plans, planned, made⟩
        cases made
        exact ⟨rate, allocated, planned, rfl⟩
      · rintro ⟨rate, allocated, planned, rfl⟩
        exact ⟨(), rate, blueprint.topology, allocated, blueprint.plans, planned, rfl⟩

theorem ofRequest_settings (h : ofRequest settings population failRate = .ok blueprint) :
    blueprint.settings = settings := by
  obtain ⟨-, -, -, -, same⟩ := ofRequest_eq_ok_iff.1 h
  exact same

theorem ofRequest_numbered (h : ofRequest settings population failRate = .ok blueprint) :
    (blueprint.plans.map fun plan => (plan.id, plan.addresses)) = blueprint.topology.numbered := by
  obtain ⟨-, -, -, planned, -⟩ := ofRequest_eq_ok_iff.1 h
  have pairs := mapM_eq_ok_iff.1 planned
  generalize blueprint.plans = plans, blueprint.topology.numbered = entries at pairs
  induction pairs with
  | nil => rfl
  | cons first _ ih => rw [List.map_cons, planReplica_entry first, ih]

theorem ofRequest_ids (h : ofRequest settings population failRate = .ok blueprint) :
    blueprint.plans.map LaunchPlan.id = replicaIds population := by
  obtain ⟨-, -, allocated, -, -⟩ := ofRequest_eq_ok_iff.1 h
  have ids := congrArg (List.map Prod.fst) (ofRequest_numbered h)
  rw [List.map_map, Topology.numbered_ids, Topology.length_entries allocated] at ids
  exact ids

theorem ofRequest_addresses (h : ofRequest settings population failRate = .ok blueprint) :
    blueprint.plans.map LaunchPlan.addresses = blueprint.topology.entries := by
  have entries := congrArg (List.map Prod.snd) (ofRequest_numbered h)
  rw [List.map_map, Topology.numbered_entries] at entries
  exact entries

theorem length_plans (h : ofRequest settings population failRate = .ok blueprint) :
    blueprint.plans.length = population.toNat := by
  rw [← length_replicaIds, ← ofRequest_ids h, List.length_map]

theorem ofRequest_populated (h : ofRequest settings population failRate = .ok blueprint) :
    0 < population.toNat := by
  obtain ⟨-, -, allocated, -, -⟩ := ofRequest_eq_ok_iff.1 h
  exact (Topology.allocate_eq_ok_iff.1 allocated).1

theorem plans_ne_nil (h : ofRequest settings population failRate = .ok blueprint) :
    blueprint.plans ≠ [] := by
  refine List.ne_nil_of_length_pos ?_
  rw [length_plans h]
  exact ofRequest_populated h

theorem ofRequest_plan (h : ofRequest settings population failRate = .ok blueprint)
    {k : Nat} {plan : LaunchPlan} (found : blueprint.plans[k]? = some plan) :
    plan.id.toNat = k ∧ blueprint.topology.entries[k]? = some plan.addresses := by
  have inside : k < blueprint.plans.length := (List.getElem?_eq_some_iff.1 found).1
  have same := congrArg (·[k]?) (ofRequest_numbered h)
  simp only [Topology.numbered, List.getElem?_map, List.getElem?_zipIdx, found, Nat.zero_add,
    Option.map_some] at same
  obtain ⟨_, zipped, pair⟩ := Option.map_eq_some_iff.1 same.symm
  obtain ⟨entry, there, rfl⟩ := Option.map_eq_some_iff.1 zipped
  obtain ⟨number, addresses⟩ := Prod.mk.inj pair
  rw [length_plans h] at inside
  refine ⟨?_, addresses ▸ there⟩
  rw [← number, UInt8.toNat_ofNat_of_lt' (Nat.lt_trans inside population.toNat_lt)]

end Blueprint

end ClusterLaunch
