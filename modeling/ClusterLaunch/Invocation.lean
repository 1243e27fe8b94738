import ClusterLaunch.Binary64.Text
import ClusterLaunch.Text.Integer
import ClusterLaunch.Invocation.Argument

/-! # Invocations

What a command line asks for: how many replicas, with which failure rate, and the
options. Arguments are read from the left. A value is converted only when the
argument behind it is being taken in, so an unknown option is reported before
a bad value that stands directly in front of it.
-/

namespace ClusterLaunch

/-- What a command line asks for. -/
structure Invocation where
  /-- The number of replicas, not checked yet. -/
  replicas : Int
  failRate : Option Binary64
  /-- A configuration document on one line. -/
  config : String
  /-- The name of a peer policy, not checked yet. -/
  peerPolicy : Option String
  /-- The name of a payload format, not checked yet. -/
  payloadFormat : Option String
  dryRun : Bool
  deriving Repr, DecidableEq

namespace Invocation

/-- Why a command line asks for no launch. -/
inductive Refusal where
  /-- A value is no number of the right kind. -/
  | malformedValue
  | absentValue
  | unknownArgument
  | repeatedOption
  /-- An option that takes no value has one. -/
  | unwantedValue
  | replicasMissing
  | help
  | version
  deriving Repr, DecidableEq

inductive Slot where
  | replicas
  | failRate
  | config
  | peerPolicy
  | payloadFormat
  deriving Repr, DecidableEq

inductive Switch where
  | dryRun
  | help
  | version
  deriving Repr, DecidableEq

inductive LongOption where
  | valued (slot : Slot)
  | switch (switch : Switch)
  deriving Repr, DecidableEq

def LongOption.ofName? (name : List Char) : Option LongOption :=
  match String.ofList name with
  | "config" => some (valued .config)
  | "peer-policy" => some (valued .peerPolicy)
  | "payload-format" => some (valued .payloadFormat)
  | "dry-run" => some (switch .dryRun)
  | "help" => some (switch .help)
  | "version" => some (switch .version)
  | _ => none

def Switch.ofLetter? : Char → Option Switch
  | 'h' => some help
  | 'V' => some version
  | _ => none

/-- What the arguments read so far have settled. -/
structure Draft where
  replicas : Option Int
  failRate : Option Binary64
  config : Option String
  peerPolicy : Option String
  payloadFormat : Option String
  dryRun : Bool
  deriving Repr, DecidableEq

namespace Draft

def empty : Draft := ⟨none, none, none, none, none, false⟩

/-- The text for an option that may be given only once. -/
def settleOnce (settled : Option String) (text : List Char) : Except Refusal (Option String) :=
  if settled.isSome then .error .repeatedOption else .ok (some (String.ofList text))

def fill (draft : Draft) (slot : Slot) (text : List Char) : Except Refusal Draft :=
  match slot with
  | .replicas => do
      let replicas ← (Text.IntegerRange.int64.read text).mapError fun _ => .malformedValue
      return { draft with replicas := some replicas }
  | .failRate => do
      let rate ← (Binary64.read text).mapError fun _ => .malformedValue
      return { draft with failRate := some rate }
  | .config => return { draft with config := ← settleOnce draft.config text }
  | .peerPolicy => return { draft with peerPolicy := ← settleOnce draft.peerPolicy text }
  | .payloadFormat => return { draft with payloadFormat := ← settleOnce draft.payloadFormat text }

def finish (draft : Draft) : Except Refusal Invocation :=
  match draft.replicas with
  | none => .error .replicasMissing
  | some replicas =>
      .ok {
        replicas
        failRate := draft.failRate
        config := draft.config.getD ""
        peerPolicy := draft.peerPolicy
        payloadFormat := draft.payloadFormat
        dryRun := draft.dryRun }

end Draft

/-- Where the reading of a command line stands. -/
structure Reading where
  draft : Draft
  /-- The slot begun last, with its value if that has come, until it is filled. -/
  pending : Option (Slot × Option (List Char))
  /-- The slots for values without an option that are still free. -/
  positions : List Slot
  deriving Repr, DecidableEq

namespace Reading

def start : Reading := ⟨.empty, none, [.replicas, .failRate]⟩

def settle (reading : Reading) : Except Refusal Reading :=
  match reading.pending with
  | none => .ok reading
  | some (_, none) => .error .absentValue
  | some (slot, some text) => do
      let draft ← reading.draft.fill slot text
      return { reading with draft, pending := none }

/-- Take a value into the next free position. -/
def takePosition (reading : Reading) (text : List Char) : Except Refusal Reading :=
  match reading.positions with
  | [] => .error .unknownArgument
  | slot :: positions => do
      let reading ← reading.settle
      return { reading with pending := some (slot, some text), positions }

/-- Does the option begun last still lack its value? -/
def lacksValue (reading : Reading) : Bool :=
  match reading.pending with
  | some (_, none) => true
  | _ => false

/-- Take a value, for the option begun last if that lacks one. -/
def takeValue (reading : Reading) (text : List Char) : Except Refusal Reading :=
  match reading.pending with
  | some (slot, none) => .ok { reading with pending := some (slot, some text) }
  | _ => reading.takePosition text

/-- Take a switch. Help and the version end the reading. -/
def takeSwitch (reading : Reading) (switch : Switch) : Except Refusal Reading := do
  let reading ← reading.settle
  match switch with
  | .help => .error .help
  | .version => .error .version
  | .dryRun =>
      if reading.draft.dryRun then .error .repeatedOption
      else return { reading with draft := { reading.draft with dryRun := true } }

def takeLong (reading : Reading) (name : List Char) (attached : Option (List Char)) :
    Except Refusal Reading :=
  match LongOption.ofName? name, attached with
  | none, _ => .error .unknownArgument
  | some (.valued slot), none => do
      let reading ← reading.settle
      return { reading with pending := some (slot, none) }
  | some (.valued slot), some text => do
      let reading ← reading.settle
      let draft ← reading.draft.fill slot text
      return { reading with draft }
  | some (.switch _), some _ => .error .unwantedValue
  | some (.switch switch), none => reading.takeSwitch switch

/-- Take letters behind one dash: a negative number where a value may stand, and
    otherwise a switch. -/
def takeShort (reading : Reading) (letters : List Char) : Except Refusal Reading :=
  if looksNumeric letters && (reading.lacksValue || !reading.positions.isEmpty) then
    reading.takeValue ('-' :: letters)
  else
    match letters.head?.bind Switch.ofLetter? with
    | some switch => reading.takeSwitch switch
    | none => .error .unknownArgument

/-- Take arguments in order. Behind a separator all of them are for positions. -/
def takeAll (reading : Reading) : List (List Char) → Except Refusal Reading
  | [] => .ok reading
  | text :: rest =>
      match Argument.ofText text with
      | .separator => rest.foldlM takePosition reading
      | .long name attached => do takeAll (← reading.takeLong name attached) rest
      | .short letters => do takeAll (← reading.takeShort letters) rest
      | .plain => do takeAll (← reading.takeValue text) rest

end Reading

/-- Read the arguments behind the program's name. -/
def ofArguments (arguments : List String) : Except Refusal Invocation := do
  let reading ← Reading.start.takeAll (arguments.map String.toList)
  let reading ← reading.settle
  reading.draft.finish

end Invocation

end ClusterLaunch
