import ClusterLaunch.Payload.Basic
import ClusterLaunch.Payload.Field

/-! # The text payload

A configuration as one text of labelled fields: the two endpoints of the replica,
its failure rate if it has one, and every peer endpoint under its own label. In
reading, the fields may come in any order; each is checked completely before the
next one is looked at, so the first wrong field is the one reported.
-/

namespace ClusterLaunch

open Text

inductive Label where
  | client
  | peer
  | failRate
  | replica
  deriving Repr, DecidableEq

namespace Label

def name : Label → String
  | client => "my_addr"
  | peer => "my_paxos"
  | failRate => "fail_rate"
  | replica => "replica"

def ofName? : String → Option Label
  | "my_addr" => some client
  | "my_paxos" => some peer
  | "fail_rate" => some failRate
  | "replica" => some replica
  | _ => none

theorem ofName?_name (label : Label) : ofName? label.name = some label := by
  cases label <;> rfl

end Label

inductive TextFault where
  /-- A field could not be read at all. -/
  | field (fault : FieldFault)
  | quotesExpected (value : String)
  | quotesRefused (value : String)
  | endpoint
  | rate (fault : Binary64.Fault)
  | duplicate (label : Label)
  | unknown (name : String)
  | missing (label : Label)
  deriving Repr, DecidableEq

def TextFault.message : TextFault → String
  | field fault => fault.message
  | quotesExpected value => s!"expected quoted string: {value}"
  | quotesRefused value => s!"unexpected quoted value: {value}"
  | endpoint => Endpoint.syntaxMessage
  | rate fault => fault.message
  | duplicate label => s!"duplicate field '{label.name}' in text payload"
  | unknown name => s!"unknown field '{name}' in text payload"
  | missing label => s!"missing field '{label.name}' in text payload"

namespace Field

/-- A value in single quotes, with a backslash before each single quote and each
    backslash in it. -/
def quote (value : List Char) : List Char :=
  '\'' :: value.flatMap (fun c => if c = '\'' ∨ c = '\\' then ['\\', c] else [c]) ++ ['\'']

def endpointText (label : Label) (endpoint : Endpoint) : List Char :=
  label.name.toList ++ ':' :: quote endpoint.text

def rateText (rate : Binary64) : List Char :=
  Label.failRate.name.toList ++ ':' :: rate.text

end Field

namespace ReplicaConfig

def fieldTexts (config : ReplicaConfig) : List (List Char) :=
  [Field.endpointText .client config.client, Field.endpointText .peer config.peer] ++
    config.failRate.toList.map Field.rateText ++
    config.replicas.map (Field.endpointText .replica)

/-- A configuration as one text, a space between any two fields. -/
def text (config : ReplicaConfig) : List Char :=
  [' '].intercalate config.fieldTexts

def toText (config : ReplicaConfig) : String :=
  String.ofList config.text

end ReplicaConfig

namespace FieldValue

def endpoint : FieldValue → Except TextFault Endpoint
  | bare text => .error (.quotesExpected text)
  | quoted text =>
      match Endpoint.parse? text with
      | some endpoint => .ok endpoint
      | none => .error .endpoint

def rate : FieldValue → Except TextFault Binary64
  | quoted text => .error (.quotesRefused text)
  | bare text =>
      match Binary64.read text.toList with
      | .ok rate => .ok rate
      | .error fault => .error (.rate fault)

end FieldValue

/-- What the fields read so far have settled. -/
structure ConfigDraft where
  client : Option Endpoint
  peer : Option Endpoint
  failRate : Option Binary64
  replicas : List Endpoint
  deriving Repr, DecidableEq

namespace ConfigDraft

def empty : ConfigDraft := ⟨none, none, none, []⟩

/-- The value for a label that may occur only once. -/
def settleOnce {α : Type} (label : Label) (settled : Option α) (value : α) :
    Except TextFault (Option α) :=
  if settled.isSome then .error (.duplicate label) else .ok (some value)

def add (draft : ConfigDraft) (field : Field) : Except TextFault ConfigDraft :=
  match Label.ofName? field.name with
  | none => .error (.unknown field.name)
  | some .client => do
      let endpoint ← field.value.endpoint
      return { draft with client := ← settleOnce .client draft.client endpoint }
  | some .peer => do
      let endpoint ← field.value.endpoint
      return { draft with peer := ← settleOnce .peer draft.peer endpoint }
  | some .failRate => do
      let rate ← field.value.rate
      return { draft with failRate := ← settleOnce .failRate draft.failRate rate }
  | some .replica => do
      let endpoint ← field.value.endpoint
      return { draft with replicas := draft.replicas ++ [endpoint] }

/-- Take a row of fields into account, up to its first fault. -/
def addAll (draft : ConfigDraft) : List (Except FieldFault Field) → Except TextFault ConfigDraft
  | [] => .ok draft
  | .error fault :: _ => .error (.field fault)
  | .ok field :: rest => do
      let draft ← draft.add field
      draft.addAll rest

def finish (draft : ConfigDraft) : Except TextFault ReplicaConfig :=
  match draft.client, draft.peer with
  | none, _ => .error (.missing .client)
  | some _, none => .error (.missing .peer)
  | some client, some peer => .ok ⟨client, peer, draft.failRate, draft.replicas⟩

end ConfigDraft

namespace ReplicaConfig

def ofText (cs : List Char) : Except TextFault ReplicaConfig := do
  let draft ← ConfigDraft.empty.addAll (Field.row cs)
  draft.finish

end ReplicaConfig

end ClusterLaunch
