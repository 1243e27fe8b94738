import ClusterLaunch.Address.Endpoint

/-! # Cluster topology

Which two endpoints each replica of a cluster gets. Replica `i` takes the port
`base + i` of the client range and of the peer range, all on one host, and a
request is refused unless both ranges are unprivileged, fit under the last port
and stay apart.
-/

namespace ClusterLaunch

/-- A replica's number in its cluster, counted from zero. -/
abbrev ReplicaId := UInt8

/-- Which peer endpoints a replica is told about. -/
inductive PeerPolicy where
  /-- All but the replica's own. -/
  | excludeSelf
  /-- All, the replica's own among them. -/
  | includeSelf
  deriving Repr, DecidableEq

namespace PeerPolicy

def ofName? : String → Option PeerPolicy
  | "exclude_self" | "ExcludeSelf" => some excludeSelf
  | "include_self" | "IncludeSelf" => some includeSelf
  | _ => none

def name : PeerPolicy → String
  | excludeSelf => "exclude_self"
  | includeSelf => "include_self"

theorem ofName?_name (policy : PeerPolicy) : ofName? policy.name = some policy := by
  cases policy <;> rfl

end PeerPolicy

structure ReplicaAddresses where
  client : Endpoint
  peer : Endpoint
  deriving Repr, DecidableEq

instance : ToString ReplicaAddresses :=
  ⟨fun addresses => s!"client {addresses.client} peer {addresses.peer}"⟩

inductive PortRole where
  | client
  | peer
  deriving Repr, DecidableEq

def PortRole.name : PortRole → String
  | client => "client"
  | peer => "peer"

inductive TopologyError where
  | noReplicas
  | privileged (role : PortRole) (base : UInt16)
  | overflow (role : PortRole) (base : UInt16) (population : UInt8)
  | overlap (clientBase peerBase : UInt16) (population : UInt8)
  | unknownReplica (id : ReplicaId) (population : Nat)
  deriving Repr, DecidableEq

/-- The ports from `base` on for `population` replicas, the end excluded. -/
def portSpan (base : UInt16) (population : UInt8) : String :=
  s!"{base.toNat}..{base.toNat + population.toNat}"

def TopologyError.message : TopologyError → String
  | noReplicas => "invalid population 0"
  | privileged role base => s!"invalid {role.name}_port_base {base.toNat}"
  | overflow role base population =>
      s!"{role.name} ports {portSpan base population} overflow the port range"
  | overlap clientBase peerBase population =>
      s!"client ports {portSpan clientBase population} overlap " ++
        s!"peer ports {portSpan peerBase population}"
  | unknownReplica id population => s!"replica ID {id.toNat} out of population {population}"

/-- The endpoints of every replica of a cluster, in the order of their numbers. -/
structure Topology where
  entries : List ReplicaAddresses
  deriving Repr, DecidableEq

namespace Topology

def lastPrivilegedPort : Nat := 1024

def lastPort : Nat := 65535

/-- The endpoints of replica `i`. -/
def entryAt (host : Host) (clientBase peerBase : UInt16) (i : Nat) : ReplicaAddresses where
  client := .atPort host (clientBase + UInt16.ofNat i)
  peer := .atPort host (peerBase + UInt16.ofNat i)

/-- Give each of `population` replicas its endpoints on `host`. A range may end behind the
    last port, so the ends are worked out in 32 bits. -/
def allocate (population : UInt8) (host : Host) (clientBase peerBase : UInt16) :
    Except TopologyError Topology :=
  let n := population.toUInt32
  let client := clientBase.toUInt32
  let peer := peerBase.toUInt32
  if population = 0 then .error .noReplicas
  else if clientBase.toNat ≤ lastPrivilegedPort then .error (.privileged .client clientBase)
  else if peerBase.toNat ≤ lastPrivilegedPort then .error (.privileged .peer peerBase)
  else if lastPort < (client + n - 1).toNat then
    .error (.overflow .client clientBase population)
  else if lastPort < (peer + n - 1).toNat then .error (.overflow .peer peerBase population)
  else if client < peer + n ∧ peer < client + n then
    .error (.overlap clientBase peerBase population)
  else .ok ⟨(List.range population.toNat).map (entryAt host clientBase peerBase)⟩

def population (topology : Topology) : Nat :=
  topology.entries.length

def addresses (topology : Topology) (id : ReplicaId) : Except TopologyError ReplicaAddresses :=
  match topology.entries[id.toNat]? with
  | some entry => .ok entry
  | none => .error (.unknownReplica id topology.population)

def numbered (topology : Topology) : List (ReplicaId × ReplicaAddresses) :=
  topology.entries.zipIdx.map fun (entry, i) => (UInt8.ofNat i, entry)

/-- The peer endpoints that replica `id` is told about, in ascending order. -/
def peers (topology : Topology) (id : ReplicaId) (policy : PeerPolicy) :
    Except TopologyError (List Endpoint) :=
  (topology.addresses id).map fun _ =>
    (topology.numbered.filter fun (i, _) => policy == .includeSelf || i != id).map
      fun (_, entry) => entry.peer

end Topology

end ClusterLaunch
