import ClusterLaunch.Toml.Moment
import ClusterLaunch.Toml.Value

/-! # Moments written as tables

One key is reserved: a table whose first key it is stands for the date or time that
its value, a string, spells out, and whatever else the table holds is passed over.
The table of the document itself is exempt, and so is a table in which the key
comes later.
-/

namespace ClusterLaunch.Toml

def momentKey : String := "$__toml_private_datetime"

def momentOfText? (text : String) : Option Value :=
  match readMoment text.toList with
  | some (moment, []) => some (.moment moment)
  | _ => none

def momentOfValue? : Value → Option Value
  | .string text => momentOfText? text
  | _ => none

mutual

/-- The value in which tables that stand for moments are replaced by them; nothing if
    such a table spells out none. -/
def Value.resolve? : Value → Option Value
  | .array items => (resolveItems? items).map .array
  | .table [] => some (.table [])
  | .table ((key, value) :: rest) =>
      if key = momentKey then momentOfValue? value
      else do
        let value ← value.resolve?
        return .table ((key, value) :: (← resolveEntries? rest))
  | value => some value

def resolveItems? : List Value → Option (List Value)
  | [] => some []
  | value :: rest => do
      let value ← value.resolve?
      return value :: (← resolveItems? rest)

def resolveEntries? : List (String × Value) → Option Table
  | [] => some []
  | (key, value) :: rest => do
      let value ← value.resolve?
      return (key, value) :: (← resolveEntries? rest)

end

end ClusterLaunch.Toml
