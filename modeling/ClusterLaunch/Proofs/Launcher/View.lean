import ClusterLaunch.Proofs.Launcher.Record
import ClusterLaunch.Proofs.Payload.RoundTrip
import ClusterLaunch.Proofs.Topology

/-! # How the replicas see their cluster

Each replica learns of the cluster from its own command line only. The views that are read back
from the arguments of all plans agree with the topology and with each other, and a launch hands
over these arguments and no others.
-/

namespace ClusterLaunch

variable {σ η : Type} {settings : Settings} {population : UInt8} {failRate : Option Binary64}

namespace Topology

/-- What replica `i` of a topology is to know of its cluster. -/
def viewOf (topology : Topology) (settings : Settings) (failRate : Option Binary64) (i : Nat)
    (entry : ReplicaAddresses) : ReplicaConfig where
  client := entry.client
  peer := entry.peer
  failRate := failRate
  replicas := told settings.peerPolicy (topology.entries.map ReplicaAddresses.peer) i

end Topology

namespace Blueprint

/-- The plans of a blueprint hold what each replica is to know, in arguments that say so. -/
theorem ofRequest_views {blueprint : Blueprint}
    (h : ofRequest settings population failRate = .ok blueprint) :
    blueprint.plans.map LaunchPlan.config =
      blueprint.topology.entries.mapIdx (blueprint.topology.viewOf settings failRate) ∧
    ∀ plan ∈ blueprint.plans,
      plan.config.toArguments settings.payloadFormat = .ok plan.arguments := by
  obtain ⟨-, -, allocated, planned, -⟩ := ofRequest_eq_ok_iff.1 h
  have count := Topology.length_entries allocated
  have pairs := mapM_eq_ok_iff.1 planned
  have small := Topology.entries_le count
  have length : blueprint.plans.length = blueprint.topology.entries.length := by
    rw [← pairs.length_eq, Topology.numbered, List.length_map, List.length_zipIdx]
  have each : ∀ i (inside : i < blueprint.plans.length),
      blueprint.plans[i].config = blueprint.topology.viewOf settings failRate i
        blueprint.topology.entries[i] ∧
      blueprint.plans[i].config.toArguments settings.payloadFormat =
        .ok blueprint.plans[i].arguments := by
    intro i inside
    have below : i < blueprint.topology.entries.length := length ▸ inside
    have plan := pairs.get (pairs.length_eq ▸ inside) inside
    simp only [List.get_eq_getElem, Topology.numbered, List.getElem_map, List.getElem_zipIdx,
      Nat.zero_add] at plan
    obtain ⟨-, -, known, config, encoded⟩ := planReplica_eq_ok_iff.1 plan
    rw [Topology.peers_eq_told small below] at known
    refine ⟨?_, encoded⟩
    rw [config, ← Except.ok.inj known]
    rfl
  refine ⟨?_, ?_⟩
  · refine List.ext_getElem (by simpa using length) ?_
    intro i inside _
    simp only [List.getElem_map, List.getElem_mapIdx]
    exact (each i _).1
  · intro plan member
    obtain ⟨i, inside, rfl⟩ := List.getElem_of_mem member
    exact (each i inside).2

end Blueprint

/-- What the views of all replicas of a cluster have to do with its topology and with each
    other. -/
structure Consistent (settings : Settings) (failRate : Option Binary64) (topology : Topology)
    (views : List ReplicaConfig) : Prop where
  client : views.map ReplicaConfig.client = topology.entries.map ReplicaAddresses.client
  peer : views.map ReplicaConfig.peer = topology.entries.map ReplicaAddresses.peer
  rate : ∀ view ∈ views, view.failRate = failRate
  /-- A view has the peers of all views in their order, but not its own if it is excluded. -/
  replicas : ∀ (i : Nat) (view : ReplicaConfig), views[i]? = some view →
    view.replicas = match settings.peerPolicy with
      | .includeSelf => views.map ReplicaConfig.peer
      | .excludeSelf => (views.map ReplicaConfig.peer).eraseIdx i
  own : ∀ (i : Nat) (view : ReplicaConfig), views[i]? = some view →
    (view.peer ∈ view.replicas ↔ settings.peerPolicy = .includeSelf) ∧
      (settings.peerPolicy = .includeSelf → view.replicas[i]? = some view.peer)
  once : ∀ (i j : Nat) (view other : ReplicaConfig), views[i]? = some view →
    views[j]? = some other → i ≠ j → view.replicas.count other.peer = 1
  clientless : ∀ view ∈ views, ∀ other ∈ views, other.client ∉ view.replicas

theorem mapIdx_field {α β γ : Type} {f : Nat → α → β} {field : β → γ} {field' : α → γ}
    (same : ∀ i a, field (f i a) = field' a) (xs : List α) :
    (xs.mapIdx f).map field = xs.map field' := by
  refine List.ext_getElem? ?_
  intro i
  rw [List.getElem?_map, List.getElem?_mapIdx, Option.map_map, List.getElem?_map]
  exact Option.map_congr fun a _ => same i a

private theorem consistent_viewOf {topology : Topology} (distinct : topology.endpoints.Nodup) :
    Consistent settings failRate topology
      (topology.entries.mapIdx (topology.viewOf settings failRate)) := by
  let views := topology.entries.mapIdx (topology.viewOf settings failRate)
  have client : views.map ReplicaConfig.client = topology.entries.map ReplicaAddresses.client := by
    apply mapIdx_field
    intros
    rfl
  have peer : views.map ReplicaConfig.peer = topology.entries.map ReplicaAddresses.peer := by
    apply mapIdx_field
    intros
    rfl
  obtain ⟨-, distinctPeers, apart⟩ := List.nodup_append'.1 distinct
  -- Every view is told what its own number asks for, of the peers that the views have.
  have told_at : ∀ {i : Nat} {view : ReplicaConfig}, views[i]? = some view →
      view.failRate = failRate ∧
        view.replicas = Topology.told settings.peerPolicy (views.map ReplicaConfig.peer) i := by
    intro i view found
    rw [peer]
    obtain ⟨entry, -, rfl⟩ := Option.map_eq_some_iff.1 (List.getElem?_mapIdx.symm.trans found)
    exact ⟨rfl, rfl⟩
  have peer_at : ∀ {i : Nat} {view : ReplicaConfig}, views[i]? = some view →
      (views.map ReplicaConfig.peer)[i]? = some view.peer := by
    intro i view found
    rw [List.getElem?_map, found]
    rfl
  rw [← peer] at distinctPeers
  refine ⟨client, peer, ?_, ?_, ?_, ?_, ?_⟩
  · intro view member
    obtain ⟨i, found⟩ := List.mem_iff_getElem?.1 member
    exact (told_at found).1
  · intro i view found
    exact (told_at found).2
  · intro i view found
    rw [(told_at found).2]
    refine ⟨Topology.mem_told_self_iff distinctPeers (peer_at found), ?_⟩
    intro included
    rw [included]
    exact peer_at found
  · intro i j view other found found' distinctIds
    rw [(told_at found).2]
    exact List.count_eq_one_of_mem (Topology.nodup_told distinctPeers _ _)
      (Topology.mem_told_of_ne (peer_at found') distinctIds _)
  · intro view member other member' there
    obtain ⟨i, found⟩ := List.mem_iff_getElem?.1 member
    rw [(told_at found).2] at there
    refine apart ?_ (peer ▸ Topology.mem_of_told there)
    rw [← client]
    exact List.mem_map_of_mem member'

namespace Launcher

theorem launch_hands_over (launcher : Launcher η) (spawner : Spawner σ η) (receiver : Receiver)
    (world : World σ η) :
    ∃ made : List (Attempt σ η),
      Attempted spawner world (launcher.launch spawner receiver world).world
        (made.map (Attempt.event launcher.blueprint.settings.serverExecutable)) ∧
      made.map Attempt.plan <+: launcher.blueprint.plans := by
  by_cases idle : launcher.children = []
  · obtain ⟨made, attempted, first, -, -⟩ := launcher.launch_orders idle spawner receiver world
    exact ⟨made, attempted, first⟩
  · rw [launch_of_busy launcher idle]
    exact ⟨[], .nothing rfl rfl, List.nil_prefix⟩

/-- Every replica is planned in order, and what it is handed gives a view that is consistent
    with all others. -/
structure Informs (settings : Settings) (population : UInt8) (failRate : Option Binary64)
    (spawner : Spawner σ η) (blueprint : Blueprint) (views : List ReplicaConfig) : Prop where
  ids : blueprint.plans.map LaunchPlan.id = replicaIds population
  entries : blueprint.topology.entries.length = population.toNat
  decoded : (blueprint.plans.mapM fun plan =>
    ReplicaConfig.ofArguments settings.payloadFormat plan.arguments) = .ok views
  consistent : Consistent settings failRate blueprint.topology views
  /-- Whenever a launcher of this blueprint launches, its start attempts are those of some
      first plans, with their numbers and arguments. -/
  handed : ∀ (launcher : Launcher η) (receiver : Receiver) (world : World σ η),
    launcher.blueprint = blueprint →
    ∃ made : List (Attempt σ η),
      Attempted spawner world (launcher.launch spawner receiver world).world
        (made.map (Attempt.event settings.serverExecutable)) ∧
      made.map Attempt.plan <+: blueprint.plans

/-- The replicas of a launcher from a checked request have consistent views. -/
theorem setup_informs {launcher : Launcher η}
    (checked : setup settings population failRate = .ok launcher) (spawner : Spawner σ η) :
    ∃ views, Informs settings population failRate spawner launcher.blueprint views := by
  obtain ⟨blueprint, request, rfl⟩ := map_eq_ok_iff.1 checked
  obtain ⟨-, -, allocated, -, same⟩ := Blueprint.ofRequest_eq_ok_iff.1 request
  obtain ⟨views, encoded⟩ := Blueprint.ofRequest_views request
  refine ⟨blueprint.plans.map LaunchPlan.config, Blueprint.ofRequest_ids request,
    Topology.length_entries allocated, ?_, ?_, ?_⟩
  · refine mapM_eq_ok_iff.2 (List.forall₂_map_right_iff.2 (List.forall₂_same.2 ?_))
    intro plan member
    exact ReplicaConfig.ofArguments_toArguments (encoded plan member)
  · rw [views]
    exact consistent_viewOf (Topology.nodup_endpoints allocated)
  · rintro launcher receiver world rfl
    have handed := launcher.launch_hands_over spawner receiver world
    rw [same] at handed
    exact handed

/-- Five replicas that fail every other time, each told about the four others. -/
theorem setup_informs_five_replicas :
    let settings := { Settings.standard with peerPolicy := .excludeSelf }
    let rate : Binary64 := .number false ⟨0x3FE0000000000000, by decide⟩
    ∃ launcher : Launcher ReplicaId, setup settings 5 (some rate) = .ok launcher ∧
      ∃ views, Informs settings 5 (some rate) scriptedSpawner launcher.blueprint views := by
  intro settings rate
  have accepted : (setup settings 5 (some rate) : Except SetupError (Launcher ReplicaId)).isOk =
      true := by decide
  obtain ⟨launcher, checked⟩ := exists_of_isOk accepted
  exact ⟨launcher, checked, setup_informs checked scriptedSpawner⟩

end Launcher

end ClusterLaunch
