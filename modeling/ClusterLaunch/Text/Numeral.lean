/-! # Numerals

Reading an unsigned number at the front of a text in a given base, as addresses
write them: a bounded or unbounded run of digits, with or without leading zeros,
below a given limit. Nothing is read if the run breaks one of these rules.
-/

namespace ClusterLaunch.Text

/-- The value of a digit of `base`, letters counting from ten in either case. -/
def digitValue? (base : Nat) (c : Char) : Option Nat :=
  let value :=
    if '0' ≤ c ∧ c ≤ '9' then c.toNat - '0'.toNat
    else if 'a' ≤ c ∧ c ≤ 'z' then c.toNat - 'a'.toNat + 10
    else if 'A' ≤ c ∧ c ≤ 'Z' then c.toNat - 'A'.toNat + 10
    else base
  if value < base then some value else none

def isDigitOf (base : Nat) (c : Char) : Bool :=
  (digitValue? base c).isSome

/-- The number that a run of digits spells, most significant first. -/
def ofDigits (base : Nat) (digits : List Char) : Nat :=
  digits.foldl (fun n c => n * base + (digitValue? base c).getD 0) 0

structure NumeralRule where
  base : Nat
  /-- The most digits allowed, if there is a limit. -/
  maxDigits : Option Nat
  /-- May a numeral of more than one digit start with zero? -/
  leadingZeros : Bool
  /-- The first number that is too large. -/
  limit : Nat

def NumeralRule.read (rule : NumeralRule) (cs : List Char) : Option (Nat × List Char) :=
  let digits := cs.takeWhile (isDigitOf rule.base)
  let rest := cs.dropWhile (isDigitOf rule.base)
  let n := ofDigits rule.base digits
  if digits.isEmpty then none
  else if rule.maxDigits.any (· < digits.length) then none
  else if !rule.leadingZeros && digits.head? == some '0' && 1 < digits.length then none
  else if n < rule.limit then some (n, rest)
  else none

end ClusterLaunch.Text
