import ClusterLaunch.Topology
import ClusterLaunch.Binary64.Text

/-! # What a replica is told

The configuration that one replica receives on its command line, and the two
formats in which it can be put there.
-/

namespace ClusterLaunch

/-- How a configuration is put on a replica's command line. -/
inductive PayloadFormat where
  /-- One argument for each endpoint; there is no place for a rate. -/
  | positional
  /-- A single argument of labelled fields. -/
  | textFormat
  deriving Repr, DecidableEq

namespace PayloadFormat

def ofName? : String → Option PayloadFormat
  | "positional" | "Positional" => some positional
  | "text_format" | "TextFormat" => some textFormat
  | _ => none

def name : PayloadFormat → String
  | positional => "positional"
  | textFormat => "text_format"

theorem ofName?_name (format : PayloadFormat) : ofName? format.name = some format := by
  cases format <;> rfl

end PayloadFormat

/-- What one replica is told when it is started. -/
structure ReplicaConfig where
  client : Endpoint
  peer : Endpoint
  /-- How often it injects a failure; without a rate it injects none. -/
  failRate : Option Binary64
  /-- The peers to connect to, in order. -/
  replicas : List Endpoint
  deriving Repr, DecidableEq

end ClusterLaunch
