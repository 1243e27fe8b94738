import ClusterLaunch.Toml.Expression
import ClusterLaunch.Toml.Reserved

/-! # TOML documents

A document is a row of lines, each a pair of key and value, or the header of a table or of
one more table of an array. Tables that are only passed through on the way to
another may be opened later, but no table may be opened twice, and the tables that a
dotted key makes can be extended by dotted keys of the same table alone.
-/

namespace ClusterLaunch.Toml

/-- A node of the tree that grows while a document is read. -/
inductive Node where
  | value (value : Value)
  /-- A table; `passing` until a header opens it, `dotted` if a dotted key made it. -/
  | table (passing dotted : Bool) (entries : List (String × Node))
  /-- An array of tables, each opened by its own header. -/
  | rows (tables : List (List (String × Node)))

structure Branch where
  passing : Bool
  dotted : Bool
  entries : List (String × Node)

namespace Branch

/-- The table of a document before its first line. -/
def root : Branch := ⟨false, false, []⟩

def get? (branch : Branch) (key : String) : Option Node :=
  branch.entries.lookup key

def set (branch : Branch) (key : String) (node : Node) : Branch :=
  let entries :=
    if (branch.get? key).isSome then
      branch.entries.map fun (name, old) => if name = key then (name, node) else (name, old)
    else branch.entries ++ [(key, node)]
  { branch with entries }

/-- Put a node behind all others, and none in its former place. -/
def moveToEnd (branch : Branch) (key : String) (node : Node) : Branch :=
  { branch with entries := branch.entries.filter (·.1 != key) ++ [(key, node)] }

/-- Change the table that a path leads to. Missing tables on the way are made; an
    array of tables stands for its last one. A dotted path passes through no table
    that a header opened. -/
def change (dotted : Bool) (change : Branch → Option Branch) :
    (path : List String) → Branch → Option Branch
  | [], branch => change branch
  | key :: rest, branch =>
      match branch.get? key with
      | none => do
          let inner ← Branch.change dotted change rest ⟨true, dotted, []⟩
          return branch.set key (.table inner.passing inner.dotted inner.entries)
      | some (.value _) => none
      | some (.rows tables) => do
          let last ← tables.getLast?
          let inner ← Branch.change dotted change rest ⟨false, false, last⟩
          return branch.set key (.rows (tables.dropLast ++ [inner.entries]))
      | some (.table passing wasDotted entries) =>
          if dotted && !passing then none
          else do
            let inner ← Branch.change dotted change rest ⟨passing, wasDotted, entries⟩
            return branch.set key (.table inner.passing inner.dotted inner.entries)

/-- Open a table by its header. A table that was only passed through so far moves to
    the end, where its header stands. -/
def openTable (key : String) (branch : Branch) : Option Branch :=
  match branch.get? key with
  | none => some (branch.set key (.table false false []))
  | some (.table true false entries) => some (branch.moveToEnd key (.table false false entries))
  | some _ => none

def openRow (key : String) (branch : Branch) : Option Branch :=
  match branch.get? key with
  | none => some (branch.set key (.rows [[]]))
  | some (.rows tables) => some (branch.set key (.rows (tables ++ [[]])))
  | some _ => none

/-- Give a key its value. A path of several names must end in a table that dotted
    keys made. -/
def setValue (viaPath : Bool) (key : String) (value : Value) (branch : Branch) :
    Option Branch :=
  if viaPath != branch.dotted || (branch.get? key).isSome then none
  else some (branch.set key (.value value))

end Branch

mutual

def Node.toValue : Node → Value
  | .value value => value
  | .table _ _ entries => .table (tableOfEntries entries)
  | .rows tables => .array (arrayOfRows tables)

def tableOfEntries : List (String × Node) → Table
  | [] => []
  | (key, node) :: rest => (key, node.toValue) :: tableOfEntries rest

def arrayOfRows : List (List (String × Node)) → List Value
  | [] => []
  | entries :: rest => .table (tableOfEntries entries) :: arrayOfRows rest

end

inductive Line where
  | pair (path : List String) (value : Value)
  | header (path : List String)
  | rowHeader (path : List String)

def readPair : Reader Line := fun cs => do
  let (path, cs) ← readKey cs
  let ((), cs) ← readMark '=' cs
  let (value, cs) ← readValue maxNesting (skipGap cs)
  return (.pair path value, ← lineEnd? cs)

def readHeader : Reader Line
  | '[' :: '[' :: cs => do
      let (path, cs) ← readKey cs
      let ((), cs) ← readMark ']' cs
      let ((), cs) ← readMark ']' cs
      return (.rowHeader path, ← lineEnd? cs)
  | '[' :: cs => do
      let (path, cs) ← readKey cs
      let ((), cs) ← readMark ']' cs
      return (.header path, ← lineEnd? cs)
  | _ => none

/-- Read the lines left, as far as the fuel goes. -/
def readLines : (fuel : Nat) → List Char → Option (List Line)
  | 0, _ => none
  | fuel + 1, cs =>
      match skipGap cs with
      | [] => some []
      | '#' :: rest => do
          let cs ← lineEnd? ('#' :: rest)
          readLines fuel cs
      | '[' :: rest => do
          let (line, cs) ← readHeader ('[' :: rest)
          return line :: (← readLines fuel cs)
      | c :: rest =>
          if c = '\n' ∨ c = '\r' then do
            let cs ← newline? (c :: rest)
            readLines fuel cs
          else do
            let (line, cs) ← readPair (c :: rest)
            return line :: (← readLines fuel cs)

/-- Take a line into account, given the table that the last header opened. -/
def addLine : List String × Branch → Line → Option (List String × Branch)
  | (current, root), .pair path value => do
      let key ← path.getLast?
      let owners := path.dropLast
      let root ← root.change false
        (Branch.change true (Branch.setValue (!owners.isEmpty) key value) owners) current
      return (current, root)
  | (_, root), .header path => do
      let key ← path.getLast?
      return (path, ← root.change false (Branch.openTable key) path.dropLast)
  | (_, root), .rowHeader path => do
      let key ← path.getLast?
      return (path, ← root.change false (Branch.openRow key) path.dropLast)

def tableOfLines (lines : List Line) : Option Table := do
  let (_, root) ← lines.foldlM addLine ([], .root)
  return tableOfEntries root.entries

def skipByteOrderMark : List Char → List Char
  | '\ufeff' :: rest => rest
  | cs => cs

/-- Read a whole document; nothing if it is no TOML. -/
def read? (document : String) : Option Table := do
  let cs := skipByteOrderMark document.toList
  resolveEntries? (← tableOfLines (← readLines (cs.length + 1) cs))

end ClusterLaunch.Toml
