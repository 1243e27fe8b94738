import ClusterLaunch.Address.Endpoint
import ClusterLaunch.Text.Quoted
import ClusterLaunch.Binary64.Text
import ClusterLaunch.Toml.Value

/-! # Converting configuration values

How a TOML value becomes the value of a setting, and what is said of one that cannot.
A date or time counts as a string of its text. A choice among variants is a string
that names one, or a table whose only key names one and holds an empty table.
-/

namespace ClusterLaunch

inductive ConversionError where
  /-- The value is of another kind. -/
  | wrongType (found expected : String)
  /-- The value is of the right kind but out of range. -/
  | wrongValue (found expected : String)
  | noHost
  | unknownVariant (name : String) (variants : List String)
  | noVariant
  | severalVariants
  /-- What a variant holds is no table. -/
  | variantTableExpected (kind : String)
  /-- What a variant holds is a table with something in it. -/
  | emptyTableExpected
  deriving Repr, DecidableEq

def alternatives (names : List String) : String :=
  " or ".intercalate (names.map fun name => "`" ++ name ++ "`")

def ConversionError.message : ConversionError → String
  | wrongType found expected => s!"invalid type: {found}, expected {expected}\n"
  | wrongValue found expected => s!"invalid value: {found}, expected {expected}\n"
  | noHost => Host.syntaxMessage ++ "\n"
  | unknownVariant name variants =>
      "unknown variant `" ++ name ++ "`, expected " ++ alternatives variants ++ "\n"
  | noVariant => "wanted exactly 1 element, found 0 elements\n"
  | severalVariants => "wanted exactly 1 element, more than 1 element\n"
  | variantTableExpected kind => s!"expected table, found {kind}\n"
  | emptyTableExpected => "expected empty table\n"

namespace Toml.Value

def description : Toml.Value → String
  | .string text => s!"string {Text.quoteString text}"
  | .moment text => s!"string {Text.quoteString text}"
  | .integer n => "integer `" ++ toString n ++ "`"
  | .float x => "floating point `" ++ String.ofList x.fractionText ++ "`"
  | .boolean b => "boolean `" ++ toString b ++ "`"
  | .array _ => "sequence"
  | .table _ => "map"

def toText (expected : String) : Toml.Value → Except ConversionError String
  | .string text => .ok text
  | .moment text => .ok text
  | value => .error (.wrongType value.description expected)

def toPlainString (value : Toml.Value) : Except ConversionError String :=
  value.toText "a string"

def toHost (value : Toml.Value) : Except ConversionError Host := do
  match Host.parse? (← value.toText "IP address") with
  | some host => return host
  | none => throw .noHost

def toBoolean : Toml.Value → Except ConversionError Bool
  | .boolean b => .ok b
  | value => .error (.wrongType value.description "a boolean")

def toNatural (expected : String) (limit : Nat) : Toml.Value → Except ConversionError Nat
  | .integer n =>
      if 0 ≤ n ∧ n < limit then .ok n.toNat
      else .error (.wrongValue (Toml.Value.integer n).description expected)
  | value => .error (.wrongType value.description expected)

def toUInt16 (value : Toml.Value) : Except ConversionError UInt16 :=
  (value.toNatural "u16" UInt16.size).map UInt16.ofNat

def toUInt64 (value : Toml.Value) : Except ConversionError UInt64 :=
  (value.toNatural "u64" UInt64.size).map UInt64.ofNat

def variantOfName {α : Type} (variants : List (String × α)) (name : String) :
    Except ConversionError α :=
  match variants.lookup name with
  | some variant => .ok variant
  | none => .error (.unknownVariant name (variants.map Prod.fst))

def toVariant {α : Type} (variants : List (String × α)) : Toml.Value → Except ConversionError α
  | .string name => variantOfName variants name
  | .table [] => .error .noVariant
  | .table [(name, held)] => do
      let variant ← variantOfName variants name
      match held with
      | .table [] => return variant
      | .table _ => throw .emptyTableExpected
      | other => throw (.variantTableExpected other.kind)
  | .table _ => .error .severalVariants
  | _ => .error (.wrongType "unit variant" "string only")

end Toml.Value

end ClusterLaunch
