import ClusterLaunch.Proofs.Launcher.Admission

/-! # Clusters of different sizes

What is accepted for some replicas is accepted for fewer as well, and the smaller cluster is the
front of the larger one. The replicas that are in both keep their endpoints, and in the larger one
each of them is told of the newcomers behind everything that it is told in the smaller one.
-/

namespace ClusterLaunch

variable {η : Type} {settings : Settings} {m n : UInt8} {failRate : Option Binary64}

namespace Topology

variable {host : Host} {clientBase peerBase : UInt16} {large : Topology}

private theorem Apart.of_le {client peer count count' : Nat} (apart : Apart client peer count)
    (fewer : count' ≤ count) : Apart client peer count' := by
  unfold Apart at *
  omega

theorem allocate_of_le (populated : 1 ≤ m.toNat) (fewer : m.toNat ≤ n.toNat)
    (accepted : allocate n host clientBase peerBase = .ok large) :
    allocate m host clientBase peerBase = .ok ⟨large.entries.take m.toNat⟩ := by
  obtain ⟨-, clients, peers, clientsFit, peersFit, apart, entries⟩ := allocate_eq_ok_iff.1 accepted
  refine allocate_eq_ok_iff.2 ⟨populated, clients, peers, ?_, ?_, apart.of_le fewer, ?_⟩
  · omega
  · omega
  · rw [entries, ← List.map_take, List.take_range, Nat.min_eq_left fewer]

private theorem told_append {peers : List Endpoint} {i : Nat} (inside : i < peers.length)
    (policy : PeerPolicy) (newcomers : List Endpoint) :
    told policy (peers ++ newcomers) i = told policy peers i ++ newcomers := by
  cases policy with
  | includeSelf => rfl
  | excludeSelf => exact List.eraseIdx_append_of_lt_length inside newcomers

end Topology

namespace Blueprint

variable {blueprint small large : Blueprint}

theorem ofRequest_peers (h : ofRequest settings n failRate = .ok blueprint) :
    blueprint.topology.entries.map ReplicaAddresses.peer =
      blueprint.plans.map fun plan => plan.addresses.peer := by
  rw [← ofRequest_addresses h, List.map_map]
  rfl

theorem ofRequest_replicas (h : ofRequest settings n failRate = .ok blueprint) {i : Nat}
    {plan : LaunchPlan} (planned : blueprint.plans[i]? = some plan) :
    plan.config.replicas = Topology.told settings.peerPolicy
      (blueprint.plans.map fun plan => plan.addresses.peer) i := by
  obtain ⟨views, -⟩ := ofRequest_views h
  have view := congrArg (·[i]?) views
  simp only [List.getElem?_map, planned, List.getElem?_mapIdx, Option.map_some] at view
  obtain ⟨entry, -, same⟩ := Option.map_eq_some_iff.1 view.symm
  rw [← same, ← ofRequest_peers h]
  rfl

/-- The larger blueprint plans the replicas of the smaller one where they are, and some more. -/
structure Extends (m n : UInt8) (small large : Blueprint) : Prop where
  /-- A replica of both is told of the newcomers behind the peers that it has already. -/
  kept : ∀ i < m.toNat, ∃ plan plan', small.plans[i]? = some plan ∧ large.plans[i]? = some plan' ∧
    plan.id.toNat = i ∧ plan'.id.toNat = i ∧ plan.addresses = plan'.addresses ∧
    plan'.config.replicas = plan.config.replicas ++
      (large.plans.drop m.toNat).map fun newcomer => newcomer.addresses.peer
  newcomers : ((large.plans.drop m.toNat).map fun newcomer => newcomer.id.toNat) =
    List.range' m.toNat (n.toNat - m.toNat)

/-- Where a request is accepted, one for fewer replicas is accepted for the first of the same
    endpoints. -/
theorem ofRequest_of_le (populated : 1 ≤ m.toNat) (fewer : m.toNat ≤ n.toNat)
    (accepted : ofRequest settings n failRate = .ok large) :
    ∃ small, ofRequest settings m failRate = .ok small ∧
      small.topology.entries = large.topology.entries.take m.toNat := by
  obtain ⟨-, -, allocated, -, -⟩ := ofRequest_eq_ok_iff.1 accepted
  have allocated' := Topology.allocate_of_le populated fewer allocated
  obtain ⟨named, rate, -⟩ : Admissible settings n failRate := by
    rw [← isOk_ofRequest_iff, accepted]
    rfl
  have admissible : Admissible settings m failRate := ⟨named, rate, by rw [allocated']; rfl⟩
  obtain ⟨small, smaller⟩ := ofRequest_of_admissible admissible
  refine ⟨small, smaller, ?_⟩
  obtain ⟨-, -, found, -, -⟩ := ofRequest_eq_ok_iff.1 smaller
  rw [Except.ok.inj (found.symm.trans allocated')]

private theorem peers_of_take (smaller : ofRequest settings m failRate = .ok small)
    (larger : ofRequest settings n failRate = .ok large)
    (front : small.topology.entries = large.topology.entries.take m.toNat) :
    (large.plans.map fun plan => plan.addresses.peer) =
      (small.plans.map fun plan => plan.addresses.peer) ++
        (large.plans.drop m.toNat).map fun newcomer => newcomer.addresses.peer := by
  rw [← ofRequest_peers smaller, front, List.map_take, ofRequest_peers larger, List.map_drop,
    List.take_append_drop]

private theorem newcomer_ids (larger : ofRequest settings n failRate = .ok large) :
    ((large.plans.drop m.toNat).map fun newcomer => newcomer.id.toNat) =
      List.range' m.toNat (n.toNat - m.toNat) := by
  refine List.ext_getElem ?_ ?_
  · rw [List.length_map, List.length_drop, length_plans larger, List.length_range']
  · intro i inside _
    have below : m.toNat + i < large.plans.length := by
      rw [List.length_map, List.length_drop] at inside
      omega
    obtain ⟨number, -⟩ := ofRequest_plan larger (List.getElem?_eq_getElem below)
    simp only [List.getElem_map, List.getElem_drop, List.getElem_range', number, Nat.one_mul]

private theorem extends_of_take (smaller : ofRequest settings m failRate = .ok small)
    (larger : ofRequest settings n failRate = .ok large) (fewer : m.toNat ≤ n.toNat)
    (front : small.topology.entries = large.topology.entries.take m.toNat) :
    Extends m n small large := by
  refine ⟨?_, newcomer_ids larger⟩
  intro i inside
  have below : i < small.plans.length := by rwa [length_plans smaller]
  have below' : i < large.plans.length := by
    rw [length_plans larger]
    omega
  have planned : small.plans[i]? = some small.plans[i] := List.getElem?_eq_getElem below
  have planned' : large.plans[i]? = some large.plans[i] := List.getElem?_eq_getElem below'
  obtain ⟨number, place⟩ := ofRequest_plan smaller planned
  obtain ⟨number', place'⟩ := ofRequest_plan larger planned'
  refine ⟨_, _, planned, planned', number, number', ?_, ?_⟩
  · rw [front, List.getElem?_take_of_lt inside, place'] at place
    exact (Option.some.inj place).symm
  · rw [ofRequest_replicas smaller planned, ofRequest_replicas larger planned',
      peers_of_take smaller larger front]
    apply Topology.told_append
    rwa [List.length_map]

end Blueprint

namespace Launcher

/-- A launcher for more replicas can be set up for fewer, and they stay as they are. -/
theorem setup_extends (populated : 1 ≤ m.toNat) (fewer : m.toNat ≤ n.toNat) {large : Launcher η}
    (accepted : setup settings n failRate = .ok large) :
    ∃ small : Launcher η, setup settings m failRate = .ok small ∧
      Blueprint.Extends m n small.blueprint large.blueprint := by
  obtain ⟨blueprint, larger, rfl⟩ := map_eq_ok_iff.1 accepted
  obtain ⟨blueprint', smaller, front⟩ := Blueprint.ofRequest_of_le populated fewer larger
  exact ⟨ofBlueprint blueprint', map_eq_ok_iff.2 ⟨blueprint', smaller, rfl⟩,
    Blueprint.extends_of_take smaller larger fewer front⟩

/-- Two of five replicas that are not told of themselves; the five fill the client ports up to the
    last one. -/
theorem setup_extends_two_of_five :
    let settings := { Settings.standard with peerPolicy := .excludeSelf, clientPortBase := 65531 }
    ∃ large : Launcher ReplicaId, setup settings 5 none = .ok large ∧
      ∃ small : Launcher ReplicaId, setup settings 2 none = .ok small ∧
        Blueprint.Extends 2 5 small.blueprint large.blueprint := by
  intro settings
  obtain ⟨large, accepted⟩ : ∃ large : Launcher ReplicaId, setup settings 5 none = .ok large :=
    exists_of_isOk (by decide)
  exact ⟨large, accepted, setup_extends (by decide) (by decide) accepted⟩

end Launcher

end ClusterLaunch
