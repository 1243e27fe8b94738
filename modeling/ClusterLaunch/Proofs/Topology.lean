import Mathlib.Data.List.InsertIdx
import Mathlib.Data.List.Nodup
import ClusterLaunch.Proofs.Attempt
import ClusterLaunch.Topology

/-! # What an allocated topology holds

A request is accepted just if the ports that it asks for exist and are all different, and then
every one of them is given out once, so no two endpoints are the same. A replica is told about
its peers in the order of their numbers, and about itself only if the policy has it so.
-/

namespace ClusterLaunch

namespace Topology

variable {population : UInt8} {host : Host} {clientBase peerBase : UInt16} {topology : Topology}

/-- The ranges of `count` ports from two bases have no port in common. -/
def Apart (client peer count : Nat) : Prop :=
  peer + count ≤ client ∨ client + count ≤ peer

theorem toNat_add_population (base : UInt16) (population : UInt8) :
    (base.toUInt32 + population.toUInt32).toNat = base.toNat + population.toNat := by
  have baseBound := base.toNat_lt
  have countBound := population.toNat_lt
  rw [UInt32.toNat_add, UInt16.toNat_toUInt32, UInt8.toNat_toUInt32]
  omega

theorem toNat_last_port {base : UInt16} {population : UInt8} (populated : 0 < population.toNat) :
    (base.toUInt32 + population.toUInt32 - 1).toNat = base.toNat + population.toNat - 1 := by
  have whole := toNat_add_population base population
  have one : (1 : UInt32).toNat = 1 := rfl
  rw [UInt32.toNat_sub_of_le, whole, one]
  rw [UInt32.le_iff_toNat_le, whole, one]
  omega

theorem allocate_eq_ok_iff :
    allocate population host clientBase peerBase = .ok topology ↔
      0 < population.toNat ∧
      lastPrivilegedPort < clientBase.toNat ∧ lastPrivilegedPort < peerBase.toNat ∧
      clientBase.toNat + population.toNat ≤ lastPort + 1 ∧
      peerBase.toNat + population.toNat ≤ lastPort + 1 ∧
      Apart clientBase.toNat peerBase.toNat population.toNat ∧
      topology.entries =
        (List.range population.toNat).map (entryAt host clientBase peerBase) := by
  have none : population = 0 ↔ population.toNat = 0 := UInt8.toNat_inj.symm
  unfold allocate Apart
  simp only [none, UInt32.lt_iff_toNat_lt, toNat_add_population, UInt16.toNat_toUInt32]
  constructor
  · intro h
    by_cases populated : population.toNat = 0
    · rw [if_pos populated] at h
      cases h
    · rw [if_neg populated, toNat_last_port (by omega), toNat_last_port (by omega)] at h
      repeat' split at h
      all_goals cases h
      refine ⟨?_, ?_, ?_, ?_, ?_, ?_, rfl⟩ <;> omega
  · rintro ⟨populated, clients, peers, clientsFit, peersFit, apart, same⟩
    rw [toNat_last_port populated, toNat_last_port populated,
      if_neg, if_neg, if_neg, if_neg, if_neg, if_neg]
    · rw [← same]
    all_goals omega

private theorem port_atPort (host : Host) (port : UInt16) :
    (Endpoint.atPort host port).port = port := by
  cases host <;> rfl

theorem toNat_add_ofNat {base : UInt16} {i : Nat} (fits : base.toNat + i ≤ lastPort) :
    (base + UInt16.ofNat i).toNat = base.toNat + i := by
  have small : base.toNat + i < 65536 := Nat.lt_succ_of_le fits
  rw [UInt16.toNat_add, UInt16.toNat_ofNat', Nat.mod_eq_of_lt (by omega : i < 2 ^ 16),
    Nat.mod_eq_of_lt small]

/-- The number of an endpoint's port. -/
def portOf (endpoint : Endpoint) : Nat := endpoint.port.toNat

/-- All endpoints of a topology, those for clients first. -/
def endpoints (topology : Topology) : List Endpoint :=
  topology.entries.map ReplicaAddresses.client ++ topology.entries.map ReplicaAddresses.peer

theorem ports_range {base : UInt16} {count : Nat} (fits : base.toNat + count ≤ lastPort + 1)
    (host : Host) :
    ((List.range count).map fun i => portOf (.atPort host (base + UInt16.ofNat i))) =
      (List.range count).map (base.toNat + ·) := by
  refine List.map_congr_left ?_
  intro i member
  have inside := List.mem_range.1 member
  rw [portOf, port_atPort, toNat_add_ofNat (by omega)]

theorem ports_of_allocate (h : allocate population host clientBase peerBase = .ok topology) :
    topology.endpoints.map portOf =
      (List.range population.toNat).map (clientBase.toNat + ·) ++
        (List.range population.toNat).map (peerBase.toNat + ·) := by
  obtain ⟨-, -, -, clientsFit, peersFit, -, entries⟩ := allocate_eq_ok_iff.1 h
  rw [endpoints, entries, List.map_append, List.map_map, List.map_map, List.map_map, List.map_map,
    ← ports_range clientsFit host, ← ports_range peersFit host]
  rfl

theorem nodup_ports {client peer count : Nat} (apart : Apart client peer count) :
    ((List.range count).map (client + ·) ++ (List.range count).map (peer + ·)).Nodup := by
  have each : ∀ base, ((List.range count).map (base + ·)).Nodup := fun base =>
    List.nodup_range.map fun _ _ => Nat.add_left_cancel
  refine List.nodup_append.2 ⟨each client, each peer, ?_⟩
  intro port isClient other isPeer same
  obtain ⟨i, small, rfl⟩ := List.mem_map.1 isClient
  obtain ⟨j, small', rfl⟩ := List.mem_map.1 isPeer
  simp only [List.mem_range] at small small'
  unfold Apart at apart
  omega

theorem nodup_endpoints (h : allocate population host clientBase peerBase = .ok topology) :
    topology.endpoints.Nodup := by
  obtain ⟨-, -, -, -, -, apart, -⟩ := allocate_eq_ok_iff.1 h
  apply List.Nodup.of_map portOf
  rw [ports_of_allocate h]
  exact nodup_ports apart

theorem length_entries (h : allocate population host clientBase peerBase = .ok topology) :
    topology.entries.length = population.toNat := by
  obtain ⟨-, -, -, -, -, -, entries⟩ := allocate_eq_ok_iff.1 h
  rw [entries, List.length_map, List.length_range]

/-- The numbers of the ports that a request asks for, those for clients first. -/
def requestedPorts (population : UInt8) (clientBase peerBase : UInt16) : List Nat :=
  (List.range population.toNat).map (clientBase.toNat + ·) ++
    (List.range population.toNat).map (peerBase.toNat + ·)

theorem ports_le_iff {base count : Nat} (populated : 0 < count) :
    (∀ port ∈ (List.range count).map (base + ·), port ≤ lastPort) ↔
      base + count ≤ lastPort + 1 := by
  constructor
  · intro fit
    have last : base + (count - 1) ≤ lastPort :=
      fit _ (List.mem_map_of_mem (List.mem_range.2 (by omega)))
    omega
  · intro fits port member
    obtain ⟨i, small, rfl⟩ := List.mem_map.1 member
    have := List.mem_range.1 small
    omega

private theorem apart_of_nodup {client peer count : Nat} (populated : 0 < count)
    (distinct : ((List.range count).map (client + ·) ++ (List.range count).map (peer + ·)).Nodup) :
    Apart client peer count := by
  obtain ⟨-, -, disjoint⟩ := List.nodup_append'.1 distinct
  unfold Apart
  by_contra together
  -- Of two ranges that meet, one holds the first port of the other.
  rcases Nat.le_total client peer with le | le
  · have inClients : peer ∈ (List.range count).map (client + ·) :=
      List.mem_map.2 ⟨peer - client, List.mem_range.2 (by omega), by omega⟩
    exact disjoint inClients (List.mem_map.2 ⟨0, List.mem_range.2 populated, rfl⟩)
  · have inPeers : client ∈ (List.range count).map (peer + ·) :=
      List.mem_map.2 ⟨client - peer, List.mem_range.2 (by omega), by omega⟩
    exact disjoint (List.mem_map.2 ⟨0, List.mem_range.2 populated, rfl⟩) inPeers

/-- The request is for a replica at least, for unprivileged ranges, and for ports that exist
    and are all different. -/
structure Sound (population : UInt8) (clientBase peerBase : UInt16) : Prop where
  populated : 1 ≤ population.toNat
  clients : 1024 < clientBase.toNat
  peers : 1024 < peerBase.toNat
  exist : ∀ port ∈ requestedPorts population clientBase peerBase, port ≤ 65535
  distinct : (requestedPorts population clientBase peerBase).Nodup

theorem isOk_allocate_iff :
    (allocate population host clientBase peerBase).isOk = true ↔
      Sound population clientBase peerBase := by
  constructor
  · intro accepted
    obtain ⟨topology, allocated⟩ := exists_of_isOk accepted
    obtain ⟨populated, clients, peers, clientsFit, peersFit, apart, -⟩ :=
      allocate_eq_ok_iff.1 allocated
    refine ⟨populated, clients, peers, ?_, nodup_ports apart⟩
    exact List.forall_mem_append.2
      ⟨(ports_le_iff populated).2 clientsFit, (ports_le_iff populated).2 peersFit⟩
  · rintro ⟨populated, clients, peers, exist, distinct⟩
    obtain ⟨clientsExist, peersExist⟩ := List.forall_mem_append.1 exist
    have allocated : allocate population host clientBase peerBase =
        .ok ⟨(List.range population.toNat).map (entryAt host clientBase peerBase)⟩ :=
      allocate_eq_ok_iff.2 ⟨populated, clients, peers, (ports_le_iff populated).1 clientsExist,
        (ports_le_iff populated).1 peersExist, apart_of_nodup populated distinct, rfl⟩
    rw [allocated]
    rfl

theorem addresses_of_allocate (h : allocate population host clientBase peerBase = .ok topology)
    {id : ReplicaId} (inside : id.toNat < population.toNat) :
    topology.addresses id = .ok (entryAt host clientBase peerBase id.toNat) := by
  obtain ⟨-, -, -, -, -, -, entries⟩ := allocate_eq_ok_iff.1 h
  unfold addresses
  rw [entries, List.getElem?_map, List.getElem?_range inside]
  rfl

theorem addresses_of_le {id : ReplicaId} (outside : topology.entries.length ≤ id.toNat) :
    topology.addresses id = .error (.unknownReplica id topology.entries.length) := by
  unfold addresses
  rw [List.getElem?_eq_none outside]
  rfl

private theorem entryAt_ports (h : allocate population host clientBase peerBase = .ok topology)
    {i : Nat}
    (inside : i < population.toNat) :
    (clientBase + UInt16.ofNat i).toNat = clientBase.toNat + i ∧
      (peerBase + UInt16.ofNat i).toNat = peerBase.toNat + i := by
  obtain ⟨-, -, -, clientsFit, peersFit, -, -⟩ := allocate_eq_ok_iff.1 h
  exact ⟨toNat_add_ofNat (by omega), toNat_add_ofNat (by omega)⟩

theorem entries_le (count : topology.entries.length = population.toNat) :
    topology.entries.length ≤ 256 := by
  rw [count]
  exact Nat.le_of_lt population.toNat_lt

theorem addresses_ofNat {i : Nat} (small : topology.entries.length ≤ 256)
    (inside : i < topology.entries.length) :
    topology.addresses (UInt8.ofNat i) = .ok topology.entries[i] := by
  unfold addresses
  rw [UInt8.toNat_ofNat_of_lt' (Nat.lt_of_lt_of_le inside small), List.getElem?_eq_getElem inside]

private theorem numbered_addresses (small : topology.entries.length ≤ 256) :
    (topology.numbered.map fun (id, entry) => (id.toNat, Except.ok entry)) =
      (List.range topology.entries.length).map fun i =>
        (i, topology.addresses (UInt8.ofNat i)) := by
  refine List.ext_getElem (by simp [numbered]) ?_
  intro i inside _
  have below : i < topology.entries.length := by simpa [numbered] using inside
  have number := UInt8.toNat_ofNat_of_lt' (Nat.lt_of_lt_of_le below small)
  simp only [numbered, List.getElem_map, List.getElem_zipIdx, List.getElem_range, Nat.zero_add,
    number, addresses_ofNat small below]

/-- The topology has an entry for each replica and for nobody else, with the ports that were
    asked for, as plain sums, on the host. -/
structure LaidOut (population : UInt8) (host : Host) (clientBase peerBase : UInt16)
    (topology : Topology) : Prop where
  length : topology.entries.length = population.toNat
  counted : topology.population = population.toNat ∧ UInt8.ofNat topology.population = population
  known : ∀ id : ReplicaId, id.toNat < population.toNat → ∃ clientPort peerPort,
    topology.addresses id = .ok ⟨.atPort host clientPort, .atPort host peerPort⟩ ∧
    clientPort.toNat = clientBase.toNat + id.toNat ∧ peerPort.toNat = peerBase.toNat + id.toNat
  unknown : ∀ id : ReplicaId, population.toNat ≤ id.toNat →
    topology.addresses id = .error (.unknownReplica id population.toNat)
  numbered : (topology.numbered.map fun (id, entry) => (id.toNat, Except.ok entry)) =
    (List.range population.toNat).map fun i => (i, topology.addresses (UInt8.ofNat i))
  distinct : topology.endpoints.Nodup

theorem laidOut_of_allocate (h : allocate population host clientBase peerBase = .ok topology) :
    LaidOut population host clientBase peerBase topology := by
  have count := length_entries h
  refine ⟨count, ⟨count, ?_⟩, ?_, ?_, ?_, nodup_endpoints h⟩
  · unfold Topology.population
    rw [count, UInt8.ofNat_toNat]
  · intro id inside
    obtain ⟨client, peer⟩ := entryAt_ports h inside
    exact ⟨_, _, addresses_of_allocate h inside, client, peer⟩
  · intro id outside
    rw [← count] at outside ⊢
    exact addresses_of_le outside
  · rw [← count]
    exact numbered_addresses (entries_le count)

/-- Which requests an attempt to allocate accepts, and what it gives then. -/
structure Allocates (population : UInt8) (host : Host) (clientBase peerBase : UInt16)
    (attempt : Except TopologyError Topology) : Prop where
  accepted : attempt.isOk = true ↔ Sound population clientBase peerBase
  laidOut : ∀ topology, attempt = .ok topology →
    LaidOut population host clientBase peerBase topology

/-- Just the requests without a collision are accepted, whatever the host. -/
theorem allocate_allocates (population : UInt8) (host : Host) (clientBase peerBase : UInt16) :
    Allocates population host clientBase peerBase
      (allocate population host clientBase peerBase) :=
  ⟨isOk_allocate_iff, fun _ => laidOut_of_allocate⟩

/-- Two ranges that touch, the second of them up to the last port. -/
example : (allocate 3 host 65530 65533).isOk = true := rfl

/-- The endpoints that replica `i` is told about, when all have the peer endpoints given. -/
def told (policy : PeerPolicy) (peers : List Endpoint) (i : Nat) : List Endpoint :=
  match policy with
  | .includeSelf => peers
  | .excludeSelf => peers.eraseIdx i

theorem mem_of_told {policy : PeerPolicy} {peers : List Endpoint} {i : Nat} {endpoint : Endpoint}
    (h : endpoint ∈ told policy peers i) : endpoint ∈ peers := by
  cases policy with
  | includeSelf => exact h
  | excludeSelf => exact List.mem_of_mem_eraseIdx h

theorem nodup_told {peers : List Endpoint} (distinct : peers.Nodup) (policy : PeerPolicy)
    (i : Nat) : (told policy peers i).Nodup := by
  cases policy with
  | includeSelf => exact distinct
  | excludeSelf => exact distinct.eraseIdx i

theorem mem_told_of_ne {peers : List Endpoint} {i j : Nat} {endpoint : Endpoint}
    (other : peers[j]? = some endpoint) (apart : i ≠ j) (policy : PeerPolicy) :
    endpoint ∈ told policy peers i := by
  cases policy with
  | includeSelf => exact List.mem_of_getElem? other
  | excludeSelf => exact List.mem_eraseIdx_iff_getElem?.2 ⟨j, apart.symm, other⟩

theorem mem_told_self_iff {peers : List Endpoint} (distinct : peers.Nodup) {i : Nat}
    {endpoint : Endpoint} (own : peers[i]? = some endpoint) {policy : PeerPolicy} :
    endpoint ∈ told policy peers i ↔ policy = .includeSelf := by
  cases policy with
  | includeSelf => exact iff_of_true (List.mem_of_getElem? own) rfl
  | excludeSelf =>
      refine iff_of_false ?_ nofun
      intro member
      obtain ⟨j, apart, same⟩ := List.mem_eraseIdx_iff_getElem?.1 member
      obtain ⟨hi, atI⟩ := List.getElem?_eq_some_iff.1 own
      obtain ⟨hj, atJ⟩ := List.getElem?_eq_some_iff.1 same
      exact apart (distinct.getElem_inj_iff.1 (atJ.trans atI.symm))

private theorem filter_zipIdx {α : Type} (xs : List α) (start i : Nat) :
    ((xs.zipIdx start).filter fun entry => entry.2 != start + i).map Prod.fst =
      xs.eraseIdx i := by
  induction xs generalizing start i with
  | nil => rfl
  | cons x xs ih =>
      rw [List.zipIdx_cons]
      cases i with
      | succ i =>
          rw [List.filter_cons_of_pos (by simp), List.map_cons, List.eraseIdx_cons_succ,
            ← ih (start + 1) i]
          congr 3
          funext entry
          congr 1
          omega
      | zero =>
          rw [List.filter_cons_of_neg (by simp), List.eraseIdx_cons_zero]
          -- No number behind the head is the one that is left out.
          have all : (xs.zipIdx (start + 1)).filter (fun entry => entry.2 != start + 0) =
              xs.zipIdx (start + 1) := by
            refine List.filter_eq_self.2 ?_
            intro entry member
            have behind := List.le_snd_of_mem_zipIdx member
            simp only [bne_iff_ne]
            omega
          rw [all, List.zipIdx_map_fst]

/-- Different numbers of replicas stay different when they are cut down to a byte. -/
theorem ofNat_inj {i j : Nat} (hi : i < 256) (hj : j < 256) :
    UInt8.ofNat i = UInt8.ofNat j ↔ i = j := by
  constructor
  · intro same
    have values := congrArg UInt8.toNat same
    rwa [UInt8.toNat_ofNat_of_lt' hi, UInt8.toNat_ofNat_of_lt' hj] at values
  · rintro rfl
    rfl

private theorem chosen_eq_told {i : Nat} (small : topology.entries.length ≤ 256) (inside : i < 256)
    (policy : PeerPolicy) :
    ((topology.numbered.filter fun (k, _) => policy == .includeSelf || k != UInt8.ofNat i).map
      fun (_, entry) => entry.peer) =
        told policy (topology.entries.map ReplicaAddresses.peer) i := by
  rw [numbered, List.filter_map, List.map_map]
  cases policy with
  | includeSelf =>
      have all : ∀ entry ∈ topology.entries.zipIdx,
          (PeerPolicy.includeSelf == .includeSelf || UInt8.ofNat entry.2 != UInt8.ofNat i) =
            true := fun _ _ => rfl
      calc
        _ = topology.entries.zipIdx.map (ReplicaAddresses.peer ∘ Prod.fst) := by
          conv => rhs; rw [← List.filter_eq_self.2 all]
          rfl
        _ = topology.entries.map ReplicaAddresses.peer := by
          rw [← List.map_map, List.zipIdx_map_fst]
  | excludeSelf =>
      have others : ∀ entry ∈ topology.entries.zipIdx,
          (UInt8.ofNat entry.2 != UInt8.ofNat i) = (entry.2 != 0 + i) := by
        intro entry member
        have below := List.snd_lt_of_mem_zipIdx member
        rw [Bool.eq_iff_iff, bne_iff_ne, bne_iff_ne, Nat.zero_add, ne_eq,
          ofNat_inj (by omega) inside]
      calc
        _ = (topology.entries.zipIdx.filter fun entry => entry.2 != 0 + i).map
            (ReplicaAddresses.peer ∘ Prod.fst) := by
          rw [← List.filter_congr others]
          rfl
        _ = (topology.entries.eraseIdx i).map ReplicaAddresses.peer := by
          rw [← List.map_map, filter_zipIdx]
        _ = (topology.entries.map ReplicaAddresses.peer).eraseIdx i := by rw [List.eraseIdx_map]

theorem peers_eq_told {i : Nat} (small : topology.entries.length ≤ 256)
    (inside : i < topology.entries.length) (policy : PeerPolicy) :
    topology.peers (UInt8.ofNat i) policy =
      .ok (told policy (topology.entries.map ReplicaAddresses.peer) i) := by
  unfold peers
  rw [addresses_ofNat small inside]
  exact congrArg Except.ok (chosen_eq_told small (Nat.lt_of_lt_of_le inside small) policy)

end Topology

end ClusterLaunch
