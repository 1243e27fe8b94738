import ClusterLaunch.Toml.Layout

/-! # TOML dates and times

A date, a time of day, or a date with a time and perhaps an offset. The text in normal
form has a `T` between date and time, a capital `Z`, and no more digits of a second
than are needed, nine at most.
-/

namespace ClusterLaunch.Toml

/-- Read exactly `width` digits as a number between two bounds. -/
def readField (width least greatest : Nat) : Reader Nat := fun cs =>
  let digits := cs.take width
  let n := Nat.ofDigitChars 10 digits 0
  if digits.length = width ∧ digits.all Char.isDigit ∧ least ≤ n ∧ n ≤ greatest then
    some (n, cs.drop width)
  else none

def readMark (mark : Char) : Reader Unit
  | c :: rest => if c = mark then some ((), rest) else none
  | [] => none

/-- A number with at least `width` digits. -/
def padded (width n : Nat) : List Char :=
  let digits := Nat.toDigits 10 n
  List.replicate (width - digits.length) '0' ++ digits

def daysInMonth (year month : Nat) : Nat :=
  if month = 2 then
    if year % 4 = 0 ∧ (year % 100 ≠ 0 ∨ year % 400 = 0) then 29 else 28
  else if month = 4 ∨ month = 6 ∨ month = 9 ∨ month = 11 then 30
  else 31

/-- Read a date; the day must exist in its month. -/
def readDate : Reader (List Char) := fun cs => do
  let (year, cs) ← readField 4 0 9999 cs
  let ((), cs) ← readMark '-' cs
  let (month, cs) ← readField 2 1 12 cs
  let ((), cs) ← readMark '-' cs
  let (day, cs) ← readField 2 1 (daysInMonth year month) cs
  return (padded 4 year ++ '-' :: padded 2 month ++ '-' :: padded 2 day, cs)

/-- The fraction of a second in normal form: nine digits at most, and no zeros at
    the end. -/
def fractionOfSecond (digits : List Char) : List Char :=
  match ((digits.take 9).reverse.dropWhile (· == '0')).reverse with
  | [] => []
  | kept => '.' :: kept

def readFractionOfSecond : List Char → List Char × List Char
  | '.' :: rest =>
      match rest.takeWhile Char.isDigit with
      | [] => ([], '.' :: rest)
      | digits => (fractionOfSecond digits, rest.dropWhile Char.isDigit)
  | cs => ([], cs)

/-- Read a time of day; a leap second is allowed in any minute. -/
def readTime : Reader (List Char) := fun cs => do
  let (hour, cs) ← readField 2 0 23 cs
  let ((), cs) ← readMark ':' cs
  let (minute, cs) ← readField 2 0 59 cs
  let ((), cs) ← readMark ':' cs
  let (second, cs) ← readField 2 0 60 cs
  let (fraction, cs) := readFractionOfSecond cs
  return (padded 2 hour ++ ':' :: padded 2 minute ++ ':' :: padded 2 second ++ fraction, cs)

/-- Read an offset from universal time. An offset of nothing is never negative. -/
def readOffset : Reader (List Char)
  | c :: cs =>
      if c = 'Z' ∨ c = 'z' then some (['Z'], cs)
      else if c = '+' ∨ c = '-' then do
        let (hours, cs) ← readField 2 0 23 cs
        let ((), cs) ← readMark ':' cs
        let (minutes, cs) ← readField 2 0 59 cs
        let sign := if c = '-' ∧ hours + minutes ≠ 0 then '-' else '+'
        return (sign :: padded 2 hours ++ ':' :: padded 2 minutes, cs)
      else none
  | [] => none

/-- Read the time that follows a date, with its offset if it has one. -/
def readTimeOfDate : Reader (List Char)
  | c :: cs =>
      if c = 'T' ∨ c = 't' ∨ c = ' ' then do
        let (time, cs) ← readTime cs
        match readOffset cs with
        | some (offset, cs) => return ('T' :: time ++ offset, cs)
        | none => return ('T' :: time, cs)
      else none
  | [] => none

/-- Read a date, a time, or both, as its text in normal form. -/
def readMoment : Reader String := fun cs =>
  match readDate cs with
  | some (date, rest) =>
      match readTimeOfDate rest with
      | some (time, left) => some (String.ofList (date ++ time), left)
      | none => some (String.ofList date, rest)
  | none => (readTime cs).map fun (time, left) => (String.ofList time, left)

end ClusterLaunch.Toml
