import ClusterLaunch.Settings
import ClusterLaunch.Settings.Conversion
import ClusterLaunch.Toml.Document

/-! # Settings from a document

A configuration document overrides the standard settings field by field. The fields
are converted in a fixed order, whatever their order in the document, and only when
all of them convert is a key refused that is none of them.
-/

namespace ClusterLaunch

inductive SettingsError where
  | syntaxError
  | conversion (error : ConversionError)
  /-- The least key that is no field. -/
  | unknownField (name : String)
  deriving Repr, DecidableEq

/-- The wording of each error. The exact fault of a document that is no TOML is not
    told. -/
def SettingsError.message : SettingsError → String
  | syntaxError => "TomlSyntax"
  | conversion error => error.message
  | unknownField name => s!"invalid field name '{name}' in config"

inductive SettingsField where
  | serverExecutable
  | bindHost
  | clientPortBase
  | peerPortBase
  | staggerMs
  | payloadFormat
  | peerPolicy
  | reapOnExit
  deriving Repr, DecidableEq

namespace SettingsField

def all : List SettingsField :=
  [serverExecutable, bindHost, clientPortBase, peerPortBase, staggerMs, payloadFormat,
    peerPolicy, reapOnExit]

def key : SettingsField → String
  | serverExecutable => "server_exe"
  | bindHost => "bind_host"
  | clientPortBase => "client_port_base"
  | peerPortBase => "peer_port_base"
  | staggerMs => "stagger_ms"
  | payloadFormat => "payload_format"
  | peerPolicy => "peer_policy"
  | reapOnExit => "reap_on_exit"

def set (value : Toml.Value) (settings : Settings) :
    SettingsField → Except ConversionError Settings
  | serverExecutable => return { settings with serverExecutable := ← value.toPlainString }
  | bindHost => return { settings with bindHost := ← value.toHost }
  | clientPortBase => return { settings with clientPortBase := ← value.toUInt16 }
  | peerPortBase => return { settings with peerPortBase := ← value.toUInt16 }
  | staggerMs => return { settings with staggerMs := ← value.toUInt64 }
  | payloadFormat => do
      let formats := [PayloadFormat.positional, .textFormat].map fun format => (format.name, format)
      return { settings with payloadFormat := ← value.toVariant formats }
  | peerPolicy => do
      let policies := [PeerPolicy.excludeSelf, .includeSelf].map fun policy => (policy.name, policy)
      return { settings with peerPolicy := ← value.toVariant policies }
  | reapOnExit => return { settings with reapOnExit := ← value.toBoolean }

end SettingsField

namespace Settings

def override (table : Toml.Table) (settings : Settings) :
    List SettingsField → Except ConversionError Settings
  | [] => .ok settings
  | field :: rest =>
      match table.get? field.key with
      | none => override table settings rest
      | some value => do
          let settings ← field.set value settings
          override table settings rest

def least? : List String → Option String
  | [] => none
  | first :: rest => some (rest.foldl (fun least name => if name < least then name else least) first)

def ofTable (table : Toml.Table) : Except SettingsError Settings :=
  match override table standard SettingsField.all with
  | .error error => .error (.conversion error)
  | .ok settings =>
      match least? (table.keysBeside (SettingsField.all.map SettingsField.key)) with
      | some name => .error (.unknownField name)
      | none => .ok settings

/-- The standard settings, overridden by a document if there is one. -/
def ofDocument : Option String → Except SettingsError Settings
  | none => .ok standard
  | some document =>
      match Toml.read? document with
      | none => .error .syntaxError
      | some table => ofTable table

end Settings

end ClusterLaunch
