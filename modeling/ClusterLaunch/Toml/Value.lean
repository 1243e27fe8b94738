import ClusterLaunch.Binary64.Basic

/-! # TOML values

What a TOML document holds: scalars, arrays, and tables with their keys in the
order of the document.
-/

namespace ClusterLaunch.Toml

inductive Value where
  | string (text : String)
  | integer (value : Int)
  | float (value : Binary64)
  | boolean (value : Bool)
  /-- A date, a time or both, by its text in normal form. -/
  | moment (text : String)
  | array (items : List Value)
  | table (entries : List (String × Value))

abbrev Table := List (String × Value)

namespace Value

def kind : Value → String
  | string _ => "string"
  | integer _ => "integer"
  | float _ => "float"
  | boolean _ => "boolean"
  | moment _ => "datetime"
  | array _ => "array"
  | table _ => "table"

end Value

namespace Table

def get? (table : Table) (key : String) : Option Value :=
  table.lookup key

def keysBeside (table : Table) (known : List String) : List String :=
  (table.map Prod.fst).filter fun key => !known.contains key

end Table

end ClusterLaunch.Toml
