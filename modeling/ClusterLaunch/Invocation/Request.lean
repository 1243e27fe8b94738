import ClusterLaunch.Invocation
import ClusterLaunch.Settings.Document
import ClusterLaunch.Text.Blank

/-! # Launch requests

An invocation is checked as far as that is possible without planning the launch. The
checks are made in a fixed order and the first that fails decides; the options come
last, so none of them hides a fault of the configuration document.
-/

namespace ClusterLaunch

structure LaunchRequest where
  population : UInt8
  failRate : Option Binary64
  settings : Settings
  deriving Repr, DecidableEq

inductive RequestError where
  | replicasOutOfRange (replicas : Int)
  | rateOutOfRange (rate : Binary64)
  | settings (error : SettingsError)
  | unknownPolicy (name : String)
  | unknownFormat (name : String)
  deriving Repr, DecidableEq

def RequestError.message : RequestError → String
  | replicasOutOfRange replicas =>
      s!"invalid number of replicas {replicas}, must be within [1, 255]"
  | rateOutOfRange rate => s!"invalid fail_rate {rate}"
  | settings error => error.message
  | unknownPolicy name => s!"peer policy '{name}' unrecognized"
  | unknownFormat name => s!"payload format '{name}' unrecognized"

namespace LaunchRequest

def populationOf (replicas : Int) : Except RequestError UInt8 :=
  if 1 ≤ replicas ∧ replicas ≤ 255 then .ok (UInt8.ofNat replicas.toNat)
  else .error (.replicasOutOfRange replicas)

def checkRate : Option Binary64 → Except RequestError Unit
  | none => .ok ()
  | some rate => if rate.inUnitInterval then .ok () else .error (.rateOutOfRange rate)

/-- A configuration document from its form on one line, where a plus sign stands
    for a newline. Blanks alone are no document. -/
def documentOf (config : String) : Option String :=
  let document := config.toList.map fun c => if c = '+' then '\n' else c
  if Text.allBlank document then none else some (String.ofList document)

def overridePolicy (settings : Settings) : Option String → Except RequestError Settings
  | none => .ok settings
  | some name =>
      match PeerPolicy.ofName? name with
      | some policy => .ok { settings with peerPolicy := policy }
      | none => .error (.unknownPolicy name)

def overrideFormat (settings : Settings) : Option String → Except RequestError Settings
  | none => .ok settings
  | some name =>
      match PayloadFormat.ofName? name with
      | some format => .ok { settings with payloadFormat := format }
      | none => .error (.unknownFormat name)

def ofInvocation (invocation : Invocation) : Except RequestError LaunchRequest := do
  let population ← populationOf invocation.replicas
  checkRate invocation.failRate
  let settings ← (Settings.ofDocument (documentOf invocation.config)).mapError .settings
  let settings ← overridePolicy settings invocation.peerPolicy
  let settings ← overrideFormat settings invocation.payloadFormat
  return ⟨population, invocation.failRate, settings⟩

end LaunchRequest

end ClusterLaunch
