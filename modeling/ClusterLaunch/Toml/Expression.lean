import ClusterLaunch.Toml.Moment
import ClusterLaunch.Toml.Number
import ClusterLaunch.Toml.Quotation

/-! # TOML keys and values

A key is a path of names with points between them. Values nest through arrays and
inline tables, but not more than 127 deep.
-/

namespace ClusterLaunch.Toml

def isBareKeyChar (c : Char) : Bool :=
  c.isAlphanum || c == '_' || c == '-'

def readName : Reader String
  | '"' :: rest => (readBasic rest).map fun (name, left) => (String.ofList name, left)
  | '\'' :: rest => (readLiteral rest).map fun (name, left) => (String.ofList name, left)
  | cs =>
      match cs.takeWhile isBareKeyChar with
      | [] => none
      | name => some (String.ofList name, cs.dropWhile isBareKeyChar)

/-- Read the names of a key, blanks around each, as far as the fuel goes. -/
def readNames : (fuel : Nat) → Reader (List String)
  | 0, _ => none
  | fuel + 1, cs => do
      let (name, cs) ← readName (skipGap cs)
      match skipGap cs with
      | '.' :: rest => (readNames fuel rest).map fun (names, left) => (name :: names, left)
      | rest => some ([name], rest)

def maxKeyLength : Nat := 127

def readKey : Reader (List String) :=
  readNames maxKeyLength

/-- Put a value at a path of a table; tables that are missing on the way are
    made. A key cannot get two values, and only tables can be entered. -/
def insertAt : (path : List String) → Value → Table → Option Table
  | [], _, _ => none
  | [name], value, table =>
      if (table.get? name).isSome then none else some (table ++ [(name, value)])
  | name :: rest, value, table =>
      match table.get? name with
      | none => (insertAt rest value []).map fun inner => table ++ [(name, .table inner)]
      | some (.table inner) =>
          (insertAt rest value inner).map fun inner =>
            table.map fun (key, old) => if key = name then (key, .table inner) else (key, old)
      | some _ => none

def tableOfPairs (pairs : List (List String × Value)) : Option Table :=
  pairs.foldlM (fun table (path, value) => insertAt path value table) []

/-- Read the items of an array after its opening bracket or a comma, up to its
    closing bracket. -/
def readItems (item : Reader Value) : (fuel : Nat) → Reader (List Value)
  | 0, _ => none
  | fuel + 1, cs =>
      match skipBetween cs with
      | ']' :: rest => some ([], rest)
      | cs => do
          let (value, cs) ← item cs
          match skipBetween cs with
          | ',' :: rest => (readItems item fuel rest).map fun (values, left) =>
              (value :: values, left)
          | ']' :: rest => some ([value], rest)
          | _ => none

/-- Read the pairs of an inline table after its opening brace or a comma, up to its
    closing brace. -/
def readPairs (item : Reader Value) : (fuel : Nat) → Reader (List (List String × Value))
  | 0, _ => none
  | fuel + 1, cs => do
      let (path, cs) ← readKey cs
      let ((), cs) ← readMark '=' cs
      let (value, cs) ← item (skipGap cs)
      match skipGap cs with
      | ',' :: rest => (readPairs item fuel rest).map fun (pairs, left) =>
          ((path, value) :: pairs, left)
      | '\x7d' :: rest => some ([(path, value)], rest)
      | _ => none

def readInlineTable (item : Reader Value) : Reader Value := fun cs =>
  match skipGap cs with
  | '\x7d' :: rest => some (.table [], rest)
  | _ => do
      let (pairs, left) ← readPairs item cs.length cs
      let table ← tableOfPairs pairs
      return (.table table, left)

/-- Read a value in which arrays and inline tables nest at most `nesting` deep. -/
def readValue (nesting : Nat) : Reader Value
  | '[' :: rest =>
      match nesting with
      | 0 => none
      | inner + 1 =>
          (readItems (readValue inner) rest.length rest).map fun (items, left) =>
            (.array items, left)
  | '\x7b' :: rest =>
      match nesting with
      | 0 => none
      | inner + 1 => readInlineTable (readValue inner) rest
  | 't' :: 'r' :: 'u' :: 'e' :: rest => some (.boolean true, rest)
  | 'f' :: 'a' :: 'l' :: 's' :: 'e' :: rest => some (.boolean false, rest)
  | cs =>
      ((readString cs).map fun (text, left) => (.string text, left)) <|>
        ((readMoment cs).map fun (text, left) => (.moment text, left)) <|> readNumber cs
termination_by nesting

/-- How deep the values of a document may nest. -/
def maxNesting : Nat := 127

end ClusterLaunch.Toml
