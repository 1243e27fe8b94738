import ClusterLaunch.Binary64.Text
import ClusterLaunch.Toml.Layout
import ClusterLaunch.Toml.Value

/-! # TOML numbers

Integers are decimal with an optional sign, or hexadecimal, octal or binary without
one, and must fit 64 bits. A float has a fraction or a power of ten, or is one of
the words for infinity and not-a-number. Digits may be grouped by single
underscores between them.
-/

namespace ClusterLaunch.Toml

/-- Read digits in which single underscores stand between digits; the digits come
    without the underscores. -/
def readDigits (isDigit : Char → Bool) : Reader (List Char)
  | [] => none
  | c :: '_' :: rest =>
      if isDigit c then
        (readDigits isDigit rest).map fun (digits, left) => (c :: digits, left)
      else none
  | c :: rest =>
      if isDigit c then
        match readDigits isDigit rest with
        | some (digits, left) => some (c :: digits, left)
        | none => some ([c], rest)
      else none

/-- The optional sign at the front: is it a minus, and what follows. -/
def readSign : List Char → Bool × List Char
  | '+' :: rest => (false, rest)
  | '-' :: rest => (true, rest)
  | cs => (false, cs)

/-- Read a whole number: a lone zero, or digits that start with another digit. -/
def readWhole : Reader (List Char)
  | '0' :: rest => some (['0'], rest)
  | cs => readDigits Char.isDigit cs

def integer? (n : Int) : Option Value :=
  if -9223372036854775808 ≤ n ∧ n ≤ 9223372036854775807 then some (.integer n) else none

def isBaseDigit (base : Nat) (c : Char) : Bool :=
  if c.isDigit then c.toNat - '0'.toNat < base
  else base == 16 && (('a' ≤ c && c ≤ 'f') || ('A' ≤ c && c ≤ 'F'))

def baseDigit (c : Char) : Nat :=
  if c.isDigit then c.toNat - '0'.toNat else c.toLower.toNat - 'a'.toNat + 10

/-- Read the digits of an integer in a base that its first characters named. -/
def readInBase (base : Nat) : Reader Value := fun cs => do
  let (digits, left) ← readDigits (isBaseDigit base) cs
  let n := digits.foldl (fun n c => n * base + baseDigit c) 0
  let value ← integer? (n : Nat)
  return (value, left)

def readInteger : Reader Value
  | '0' :: 'x' :: rest => readInBase 16 rest
  | '0' :: 'o' :: rest => readInBase 8 rest
  | '0' :: 'b' :: rest => readInBase 2 rest
  | cs => do
      let (negative, unsigned) := readSign cs
      let (digits, left) ← readWhole unsigned
      let n : Int := Nat.ofDigitChars 10 digits 0
      let value ← integer? (if negative then -n else n)
      return (value, left)

def readFraction : Reader (List Char)
  | '.' :: rest => (readDigits Char.isDigit rest).map fun (digits, left) => ('.' :: digits, left)
  | _ => none

def readPower : Reader (List Char)
  | c :: rest =>
      if c = 'e' ∨ c = 'E' then
        let (negative, unsigned) := readSign rest
        (readDigits Char.isDigit unsigned).map fun (digits, left) =>
          (if negative then 'e' :: '-' :: digits else 'e' :: digits, left)
      else none
  | [] => none

/-- Read what makes a number a float: a fraction, a power of ten, or both. -/
def readFloatTail : Reader (List Char) := fun cs =>
  match readFraction cs with
  | some (fraction, rest) =>
      match readPower rest with
      | some (power, left) => some (fraction ++ power, left)
      | none => some (fraction, rest)
  | none => readPower cs

/-- Read a float of digits. One too large to be finite is refused, unless it is
    negative. -/
def readDecimalFloat : Reader Value := fun cs => do
  let (negative, unsigned) := readSign cs
  let (whole, rest) ← readWhole unsigned
  let (tail, left) ← readFloatTail rest
  let value ← Binary64.readUnsigned? negative (whole ++ tail)
  if value = .number false .infinity then none else some (.float value, left)

def readWordFloat : Reader Value := fun cs =>
  let (negative, unsigned) := readSign cs
  match unsigned with
  | 'i' :: 'n' :: 'f' :: rest => some (.float (.number negative .infinity), rest)
  | 'n' :: 'a' :: 'n' :: rest => some (.float .nan, rest)
  | _ => none

def readNumber : Reader Value := fun cs =>
  readDecimalFloat cs <|> readWordFloat cs <|> readInteger cs

end ClusterLaunch.Toml
