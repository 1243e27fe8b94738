/-! # Decimal numbers

A non-negative number written with decimal digits: a whole coefficient and a
power of ten. It is written positionally, never with an exponent, and read with
or without one.
-/

namespace ClusterLaunch

/-- The number `coefficient * 10 ^ exponent`. -/
structure Decimal where
  coefficient : Nat
  exponent : Int
  deriving Repr, DecidableEq

namespace Decimal

def numerator (d : Decimal) : Nat :=
  d.coefficient * Nat.pow 10 d.exponent.toNat

def denominator (d : Decimal) : Nat :=
  Nat.pow 10 (-d.exponent).toNat

/-- How many digits stand before the decimal point; negative if the digits
    start that far behind it. -/
def size (d : Decimal) : Int :=
  (Nat.toDigits 10 d.coefficient).length + d.exponent

/-- The digits in place, with a point only if there is a fraction. -/
def text (d : Decimal) : List Char :=
  let digits := Nat.toDigits 10 d.coefficient
  let places := (-d.exponent).toNat
  if 0 ≤ d.exponent then
    digits ++ List.replicate d.exponent.toNat '0'
  else if places < digits.length then
    digits.take (digits.length - places) ++ '.' :: digits.drop (digits.length - places)
  else
    '0' :: '.' :: (List.replicate (places - digits.length) '0' ++ digits)

/-- Read a power of ten: an optional sign and at least one digit. -/
def readExponent? (cs : List Char) : Option Int :=
  let (negative, digits) :=
    match cs with
    | '-' :: rest => (true, rest)
    | '+' :: rest => (false, rest)
    | _ => (false, cs)
  if digits.isEmpty || !digits.all Char.isDigit then none
  else
    let n : Int := Nat.ofDigitChars 10 digits 0
    some (if negative then -n else n)

/-- Read a whole text: digits with at most one point among them or around them,
    then an optional power of ten. -/
def read? (cs : List Char) : Option Decimal :=
  let whole := cs.takeWhile Char.isDigit
  let afterWhole := cs.dropWhile Char.isDigit
  let (fraction, rest) :=
    match afterWhole with
    | '.' :: more => (more.takeWhile Char.isDigit, more.dropWhile Char.isDigit)
    | _ => ([], afterWhole)
  let digits := whole ++ fraction
  let unscaled : Decimal := ⟨Nat.ofDigitChars 10 digits 0, -(fraction.length : Int)⟩
  if digits.isEmpty then none
  else
    match rest with
    | [] => some unscaled
    | c :: power =>
        if c = 'e' ∨ c = 'E' then
          (readExponent? power).map fun e => ⟨unscaled.coefficient, unscaled.exponent + e⟩
        else none

end Decimal

end ClusterLaunch
