import ClusterLaunch.Payload.Arguments
import ClusterLaunch.Settings
import ClusterLaunch.Shell.Word

/-! # Launch plans

A request is checked completely, and the command line of every replica is worked
out, before any replica is started. What comes out is a blueprint that no launch
changes.
-/

namespace ClusterLaunch

/-- Everything needed to start one replica. -/
structure LaunchPlan where
  id : ReplicaId
  addresses : ReplicaAddresses
  config : ReplicaConfig
  /-- The arguments that carry the configuration, without the executable. -/
  arguments : List String
  deriving Repr, DecidableEq

instance : ToString LaunchPlan :=
  ⟨fun plan => s!"replica {plan.id.toNat} ({plan.addresses})"⟩

namespace LaunchPlan

/-- The command that starts the replica, ready to be pasted into a shell. -/
def commandLine (plan : LaunchPlan) (executable : String) : String :=
  Shell.commandLine executable plan.arguments

end LaunchPlan

inductive SetupError where
  | noExecutable
  | rateOutOfRange (rate : Binary64)
  /-- The format has no place for the rate. -/
  | rateNotCarried (rate : Binary64) (format : PayloadFormat)
  | topology (error : TopologyError)
  | payload (error : PayloadError)
  deriving Repr, DecidableEq

def SetupError.message : SetupError → String
  | noExecutable => "server_exe must not be empty"
  | rateOutOfRange rate => s!"invalid fail_rate {rate}, must be within [0, 1]"
  | rateNotCarried rate format => s!"fail_rate {rate} given but payload_format is {format.name}"
  | topology error => error.message
  | payload error => error.message

/-- A checked launch request: the settings, every replica's endpoints and every
    replica's plan in the order of their numbers. -/
structure Blueprint where
  settings : Settings
  topology : Topology
  plans : List LaunchPlan
  deriving Repr, DecidableEq

namespace Blueprint

def checkRate (settings : Settings) : Option Binary64 → Except SetupError Unit
  | none => .ok ()
  | some rate =>
      if !rate.inUnitInterval then .error (.rateOutOfRange rate)
      else if settings.payloadFormat = .positional then
        .error (.rateNotCarried rate settings.payloadFormat)
      else .ok ()

def planReplica (settings : Settings) (topology : Topology) (failRate : Option Binary64) :
    ReplicaId × ReplicaAddresses → Except SetupError LaunchPlan
  | (id, addresses) => do
      let replicas ← (topology.peers id settings.peerPolicy).mapError .topology
      let config : ReplicaConfig := {
        client := addresses.client
        peer := addresses.peer
        failRate := failRate
        replicas := replicas }
      let arguments ← (config.toArguments settings.payloadFormat).mapError .payload
      return ⟨id, addresses, config, arguments⟩

/-- Check a launch request and plan every replica. -/
def ofRequest (settings : Settings) (population : UInt8) (failRate : Option Binary64) :
    Except SetupError Blueprint := do
  if settings.serverExecutable.isEmpty then .error .noExecutable
  checkRate settings failRate
  let topology ←
    (Topology.allocate population settings.bindHost settings.clientPortBase
      settings.peerPortBase).mapError .topology
  let plans ← topology.numbered.mapM (planReplica settings topology failRate)
  return ⟨settings, topology, plans⟩

end Blueprint

end ClusterLaunch
