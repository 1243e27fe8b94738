import ClusterLaunch.Payload.Text

/-! # Payload arguments

The arguments that carry a configuration in either format, and the configuration
that given arguments carry. The positional format has no place for a rate, and
that is the only reason for which encoding fails.
-/

namespace ClusterLaunch

/-- Why a configuration cannot be put into arguments, or arguments hold none. -/
inductive PayloadError where
  /-- The positional format has no place for the rate. -/
  | rateRefused (rate : Binary64)
  /-- The two endpoints of the replica are not both there. -/
  | tooFewArguments (count : Nat)
  /-- The text format takes a single argument. -/
  | oneArgumentExpected (count : Nat)
  | endpoint
  | text (fault : TextFault)
  deriving Repr, DecidableEq

def PayloadError.message : PayloadError → String
  | rateRefused rate => s!"positional payload cannot carry fail_rate {rate}"
  | tooFewArguments count => s!"positional payload needs at least 2 args, got {count}"
  | oneArgumentExpected count => s!"text_format payload needs exactly 1 arg, got {count}"
  | endpoint => Endpoint.syntaxMessage
  | text fault => fault.message

namespace ReplicaConfig

def toArguments (config : ReplicaConfig) : PayloadFormat → Except PayloadError (List String)
  | .textFormat => .ok [config.toText]
  | .positional =>
      match config.failRate with
      | some rate => .error (.rateRefused rate)
      | none => .ok ((config.client :: config.peer :: config.replicas).map toString)

def endpointArgument (argument : String) : Except PayloadError Endpoint :=
  match Endpoint.parse? argument with
  | some endpoint => .ok endpoint
  | none => .error .endpoint

def ofArguments : PayloadFormat → List String → Except PayloadError ReplicaConfig
  | .textFormat, [argument] => (ofText argument.toList).mapError .text
  | .textFormat, arguments => .error (.oneArgumentExpected arguments.length)
  | .positional, client :: peer :: replicas => do
      return {
        client := ← endpointArgument client
        peer := ← endpointArgument peer
        failRate := none
        replicas := ← replicas.mapM endpointArgument }
  | .positional, arguments => .error (.tooFewArguments arguments.length)

end ReplicaConfig

end ClusterLaunch
