import ClusterLaunch.Proofs.Topology

/-! # Whom a replica is told about

A replica that is told about itself gets all peer endpoints, each at the place of its number. One
that is not gets all others, and its own is missing from just the place of its own number. No
endpoint is told twice, and no endpoint for clients is told at all.
-/

namespace ClusterLaunch

namespace Topology

variable {population : UInt8} {host : Host} {clientBase peerBase : UInt16} {topology : Topology}
  {id : ReplicaId}

theorem peers_of_lt (small : topology.entries.length ≤ 256)
    (inside : id.toNat < topology.entries.length) (policy : PeerPolicy) :
    topology.peers id policy =
      .ok (told policy (topology.entries.map ReplicaAddresses.peer) id.toNat) := by
  have known := peers_eq_told small inside policy
  rwa [UInt8.ofNat_toNat] at known

theorem peers_of_le (outside : topology.entries.length ≤ id.toNat) (policy : PeerPolicy) :
    topology.peers id policy = .error (.unknownReplica id topology.entries.length) := by
  rw [peers, addresses_of_le outside]
  rfl

/-- The peer endpoints are those that the table gives for one number after the other. -/
theorem entries_peer (small : topology.entries.length ≤ 256) :
    (topology.entries.map ReplicaAddresses.peer).map Except.ok =
      (List.range topology.entries.length).map fun i =>
        (topology.addresses (UInt8.ofNat i)).map ReplicaAddresses.peer := by
  refine List.ext_getElem (by simp) ?_
  intro i inside _
  have below : i < topology.entries.length := by simpa using inside
  simp only [List.getElem_map, List.getElem_range, addresses_ofNat small below]
  rfl

private theorem mem_entries_of_addresses {entry : ReplicaAddresses}
    (known : topology.addresses id = .ok entry) : topology.entries[id.toNat]? = some entry := by
  unfold addresses at known
  split at known
  · next found => rwa [Except.ok.inj known] at found
  · cases known

/-- The lists that replica `id` may get, in a topology of some replicas: `everyone` if it is told
    about itself, and else `others`. -/
structure PeerLists (population : UInt8) (topology : Topology) (id : ReplicaId)
    (everyone others : List Endpoint) : Prop where
  included : topology.peers id .includeSelf = .ok everyone
  excluded : topology.peers id .excludeSelf = .ok others
  ordered : everyone.map Except.ok = (List.range population.toNat).map fun i =>
    (topology.addresses (UInt8.ofNat i)).map ReplicaAddresses.peer
  count : everyone.length = population.toNat ∧ others.length = population.toNat - 1
  restored : ∃ own, topology.addresses id = .ok own ∧ own.peer ∉ others ∧
    others.insertIdx id.toNat own.peer = everyone
  distinct : everyone.Nodup ∧ others.Nodup
  clientless : ∀ (other : ReplicaId) (entry : ReplicaAddresses),
    topology.addresses other = .ok entry → entry.client ∉ everyone ∧ entry.client ∉ others

private theorem peerLists_of_lt (count : topology.entries.length = population.toNat)
    (apart : topology.endpoints.Nodup) (inside : id.toNat < topology.entries.length) :
    PeerLists population topology id (topology.entries.map ReplicaAddresses.peer)
      ((topology.entries.map ReplicaAddresses.peer).eraseIdx id.toNat) := by
  have small := entries_le count
  obtain ⟨-, distinct, clientless⟩ := List.nodup_append'.1 apart
  have own : topology.entries[id.toNat]? = some topology.entries[id.toNat] :=
    List.getElem?_eq_getElem inside
  have place : (topology.entries.map ReplicaAddresses.peer)[id.toNat]? =
      some topology.entries[id.toNat].peer := by
    rw [List.getElem?_map, own]
    rfl
  refine ⟨peers_of_lt small inside .includeSelf, peers_of_lt small inside .excludeSelf, ?_, ?_, ?_,
    ⟨distinct, distinct.eraseIdx id.toNat⟩, ?_⟩
  · rw [← count]
    exact entries_peer small
  · rw [← count, List.length_eraseIdx_of_lt (by simpa using inside), List.length_map]
    exact ⟨rfl, rfl⟩
  · refine ⟨topology.entries[id.toNat], ?_, ?_, ?_⟩
    · unfold addresses
      rw [own]
    · change _ ∉ told .excludeSelf _ _
      rw [mem_told_self_iff distinct place]
      nofun
    · obtain ⟨below, same⟩ := List.getElem?_eq_some_iff.1 place
      rw [← same]
      exact List.insertIdx_eraseIdx_getElem below
  · intro other entry known
    have member : entry.client ∈ topology.entries.map ReplicaAddresses.client :=
      List.mem_map_of_mem (List.mem_of_getElem? (mem_entries_of_addresses known))
    have absent := clientless member
    exact ⟨absent, fun told => absent (List.mem_of_mem_eraseIdx told)⟩

/-- How a topology answers when it is asked for peers: for every replica that there is with its
    lists, and for nobody else. -/
structure Acquaints (population : UInt8) (topology : Topology) : Prop where
  refused : ∀ (id : ReplicaId) (policy : PeerPolicy) (fault : TopologyError),
    topology.peers id policy = .error fault ↔
      population.toNat ≤ id.toNat ∧ fault = .unknownReplica id population.toNat
  known : ∀ id : ReplicaId, id.toNat < population.toNat →
    ∃ everyone others, PeerLists population topology id everyone others

/-- Every topology that is allocated acquaints its replicas with each other. -/
theorem allocate_acquaints (h : allocate population host clientBase peerBase = .ok topology) :
    Acquaints population topology := by
  have count := length_entries h
  have apart := nodup_endpoints h
  refine ⟨?_, ?_⟩
  · intro id policy fault
    rw [← count]
    by_cases inside : id.toNat < topology.entries.length
    · rw [peers_of_lt (entries_le count) inside]
      constructor
      · intro refused
        cases refused
      · rintro ⟨outside, -⟩
        omega
    · have outside : topology.entries.length ≤ id.toNat := by omega
      rw [peers_of_le outside, Except.error.injEq, eq_comm]
      simp [outside]
  · intro id inside
    rw [← count] at inside
    exact ⟨_, _, peerLists_of_lt count apart inside⟩

/-- The last replica of three, on ranges that touch each other and the last port. -/
theorem allocate_acquaints_last_port :
    ∃ topology, allocate 3 (.v4 .unspecified) 65530 65533 = .ok topology ∧
      Acquaints 3 topology ∧ ∃ everyone others, PeerLists 3 topology 2 everyone others := by
  obtain ⟨topology, allocated⟩ : ∃ topology,
      allocate 3 (.v4 .unspecified) 65530 65533 = .ok topology := exists_of_isOk rfl
  have acquaints := allocate_acquaints allocated
  exact ⟨topology, allocated, acquaints, acquaints.known 2 (by decide)⟩

end Topology

end ClusterLaunch
