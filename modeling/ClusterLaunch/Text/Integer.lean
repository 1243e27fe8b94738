/-! # Signed integers as text

Reading a whole text as an integer of a given range. An optional sign is followed
by decimal digits and nothing else; the digits are taken from the left and the
first fault is the one reported, so a number that leaves the range before a bad
character counts as too large or too small.
-/

namespace ClusterLaunch.Text

inductive IntegerFault where
  | empty
  | invalidDigit
  | tooLarge
  | tooSmall
  deriving Repr, DecidableEq

def IntegerFault.message : IntegerFault → String
  | .empty => "cannot parse integer from empty string"
  | .invalidDigit => "invalid digit found in string"
  | .tooLarge => "number too large to fit in target type"
  | .tooSmall => "number too small to fit in target type"

/-- A closed range of integers; one without negative numbers takes no minus sign. -/
structure IntegerRange where
  least : Int
  greatest : Int

namespace IntegerRange

def int64 : IntegerRange := ⟨-9223372036854775808, 9223372036854775807⟩

def uint16 : IntegerRange := ⟨0, 65535⟩

/-- Extend the number read so far by the digits left; `step` adds one digit. -/
def accumulate (range : IntegerRange) (negative : Bool) : Int → List Char → Except IntegerFault Int
  | n, [] => .ok n
  | n, c :: rest =>
      if !c.isDigit then .error .invalidDigit
      else
        let digit : Int := c.toNat - '0'.toNat
        let next := if negative then n * 10 - digit else n * 10 + digit
        if range.greatest < next then .error .tooLarge
        else if next < range.least then .error .tooSmall
        else range.accumulate negative next rest

def read (range : IntegerRange) : List Char → Except IntegerFault Int
  | [] => .error .empty
  | [c] => if c = '+' ∨ c = '-' then .error .invalidDigit else range.accumulate false 0 [c]
  | '+' :: rest => range.accumulate false 0 rest
  | '-' :: rest =>
      if range.least < 0 then range.accumulate true 0 rest
      else range.accumulate false 0 ('-' :: rest)
  | cs => range.accumulate false 0 cs

end IntegerRange

end ClusterLaunch.Text
