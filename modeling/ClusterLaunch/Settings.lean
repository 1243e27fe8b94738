import ClusterLaunch.Payload.Basic

/-! # Launcher settings

Everything about a launch that does not depend on how many replicas are asked for.
-/

namespace ClusterLaunch

structure Settings where
  serverExecutable : String
  bindHost : Host
  /-- The client port of replica zero. -/
  clientPortBase : UInt16
  /-- The peer port of replica zero. -/
  peerPortBase : UInt16
  /-- The pause between two starts, in milliseconds. -/
  staggerMs : UInt64
  payloadFormat : PayloadFormat
  peerPolicy : PeerPolicy
  /-- Are the started replicas stopped when the launcher exits? -/
  reapOnExit : Bool
  deriving Repr, DecidableEq

namespace Settings

/-- The settings where nothing else is asked for. -/
def standard : Settings where
  serverExecutable := "./server"
  bindHost := .v4 .unspecified
  clientPortBase := 8000
  peerPortBase := 9000
  staggerMs := 2000
  payloadFormat := .textFormat
  peerPolicy := .includeSelf
  reapOnExit := true

end Settings

end ClusterLaunch
