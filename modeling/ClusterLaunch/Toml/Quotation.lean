import ClusterLaunch.Toml.Layout

/-! # TOML strings

A basic string is quoted with double quotes and knows escapes, a literal string is quoted
with single quotes and knows none. Either may be a block between three quotes on each
side, which keeps its newlines, drops one right after the opening quotes, and
may hold or end in up to two quotes of its own.
-/

namespace ClusterLaunch.Toml

def hexValue? (c : Char) : Option Nat :=
  if '0' ≤ c ∧ c ≤ '9' then some (c.toNat - '0'.toNat)
  else if 'a' ≤ c ∧ c ≤ 'f' then some (c.toNat - 'a'.toNat + 10)
  else if 'A' ≤ c ∧ c ≤ 'F' then some (c.toNat - 'A'.toNat + 10)
  else none

/-- The character of exactly `width` hexadecimal digits at the front. -/
def hexChar? (width : Nat) (cs : List Char) : Option Char := do
  let digits ← (cs.take width).mapM hexValue?
  let code := digits.foldl (fun n digit => n * 16 + digit) 0
  if digits.length = width ∧ code.isValidChar then some (Char.ofNat code) else none

/-- The character that an escape stands for, and how many characters after the
    backslash spell it. -/
def escape? : List Char → Option (Char × Nat)
  | 'b' :: _ => some ('\x08', 1)
  | 't' :: _ => some ('\t', 1)
  | 'n' :: _ => some ('\n', 1)
  | 'f' :: _ => some ('\x0c', 1)
  | 'r' :: _ => some ('\r', 1)
  | '"' :: _ => some ('"', 1)
  | '\\' :: _ => some ('\\', 1)
  | 'u' :: rest => (hexChar? 4 rest).map fun c => (c, 5)
  | 'U' :: rest => (hexChar? 8 rest).map fun c => (c, 9)
  | _ => none

def prepend (c : Char) (read : Option (List Char × List Char)) : Option (List Char × List Char) :=
  read.map fun (value, left) => (c :: value, left)

/-- Read a basic string after its opening quote. -/
def readBasic (cs : List Char) : Option (List Char × List Char) :=
  match cs with
  | [] => none
  | '"' :: rest => some ([], rest)
  | '\\' :: rest =>
      match escape? rest with
      | some (c, width) => prepend c (readBasic (rest.drop width))
      | none => none
  | c :: rest => if isShown c then prepend c (readBasic rest) else none
termination_by cs.length
decreasing_by all_goals simp only [List.length_cons, List.length_drop]; omega

/-- Read a literal string after its opening quote. -/
def readLiteral : List Char → Option (List Char × List Char)
  | [] => none
  | '\'' :: rest => some ([], rest)
  | c :: rest => if isShown c then prepend c (readLiteral rest) else none

/-- What a run of quotes in a block means: how many of them belong to the value,
    and whether the block ends there. -/
def quotesInBlock (run : Nat) : Nat × Bool :=
  if run < 3 then (run, false) else (min (run - 3) 2, true)

/-- Read a basic block after its opening quotes. A backslash at the end of a line
    joins it with the next text. -/
def readBasicBlock (cs : List Char) : Option (List Char × List Char) :=
  match cs with
  | [] => none
  | '"' :: rest =>
      let run := 1 + (rest.takeWhile (· == '"')).length
      let (kept, ended) := quotesInBlock run
      let quotes := List.replicate kept '"'
      if ended then some (quotes, cs.drop (kept + 3))
      else (readBasicBlock (rest.dropWhile (· == '"'))).map fun (value, left) =>
        (quotes ++ value, left)
  | '\\' :: rest =>
      match newline? (skipGap rest) with
      | some _ => readBasicBlock (skipLines rest)
      | none =>
          match escape? rest with
          | some (c, width) => prepend c (readBasicBlock (rest.drop width))
          | none => none
  | '\r' :: '\n' :: rest => prepend '\n' (readBasicBlock rest)
  | c :: rest =>
      if c = '\n' ∨ isShown c then prepend c (readBasicBlock rest) else none
termination_by cs.length
decreasing_by
  · have := (List.dropWhile_suffix (l := rest) (· == '"')).length_le
    simp only [List.length_cons]
    omega
  · have := length_skipLines_le rest
    simp only [List.length_cons]
    omega
  all_goals simp only [List.length_cons, List.length_drop]; omega

def readLiteralBlock (cs : List Char) : Option (List Char × List Char) :=
  match cs with
  | [] => none
  | '\'' :: rest =>
      let run := 1 + (rest.takeWhile (· == '\'')).length
      let (kept, ended) := quotesInBlock run
      let quotes := List.replicate kept '\''
      if ended then some (quotes, cs.drop (kept + 3))
      else (readLiteralBlock (rest.dropWhile (· == '\''))).map fun (value, left) =>
        (quotes ++ value, left)
  | '\r' :: '\n' :: rest => prepend '\n' (readLiteralBlock rest)
  | c :: rest =>
      if c = '\n' ∨ isShown c then prepend c (readLiteralBlock rest) else none
termination_by cs.length
decreasing_by
  · have := (List.dropWhile_suffix (l := rest) (· == '\'')).length_le
    simp only [List.length_cons]
    omega
  all_goals simp only [List.length_cons]; omega

/-- Skip the newline that may follow the opening quotes of a block. -/
def skipFirstNewline (cs : List Char) : List Char :=
  (newline? cs).getD cs

def readString : Reader String
  | '"' :: '"' :: '"' :: rest =>
      (readBasicBlock (skipFirstNewline rest)).map fun (value, left) => (String.ofList value, left)
  | '"' :: rest => (readBasic rest).map fun (value, left) => (String.ofList value, left)
  | '\'' :: '\'' :: '\'' :: rest =>
      (readLiteralBlock (skipFirstNewline rest)).map fun (value, left) =>
        (String.ofList value, left)
  | '\'' :: rest => (readLiteral rest).map fun (value, left) => (String.ofList value, left)
  | _ => none

end ClusterLaunch.Toml
