import ClusterLaunch.Binary64.Basic

/-! # Floating-point numbers as text

A number is written with the fewest digits that read back as the same number, and of
those the digits nearest to it; the point is always in place and there is never an
exponent. Reading rounds correctly.
-/

namespace ClusterLaunch

namespace Magnitude

/-- How many digits a finite magnitude has before the decimal point; not
    positive if it is below one tenth of one. -/
def pointPosition (m : Magnitude) : Int :=
  (Nat.toDigits 10 (m.units * Nat.pow 10 400 / Nat.pow 2 1074)).length - 400

/-- The candidates of `digits` significant digits: the neighbours of the
    magnitude on that decimal grid that read back as it, the nearer first and
    the greater first if they are equally near. -/
def candidates (m : Magnitude) (digits : Nat) : List Decimal :=
  let exponent := m.pointPosition - digits
  let numerator := m.units * Nat.pow 10 (-exponent).toNat
  let denominator := Nat.pow 2 1074 * Nat.pow 10 exponent.toNat
  let below := numerator / denominator
  let low : Decimal := ⟨below, exponent⟩
  let high : Decimal :=
    if below + 1 = Nat.pow 10 digits then ⟨1, exponent + digits⟩ else ⟨below + 1, exponent⟩
  let ordered :=
    if 2 * (numerator % denominator) < denominator then [low, high] else [high, low]
  ordered.filter fun d => nearest d == m

def exact (m : Magnitude) : Decimal :=
  ⟨m.units * Nat.pow 5 1074, -1074⟩

/-- The first candidate of the shortest grid that has one. Seventeen digits are
    always enough. -/
def shortest (m : Magnitude) : Decimal :=
  (((List.range' 1 17).flatMap m.candidates).head?).getD m.exact

end Magnitude

namespace Binary64

def text : Binary64 → List Char
  | nan => ['N', 'a', 'N']
  | number negative m =>
      let magnitude :=
        if m.rank = infinityRank then ['i', 'n', 'f']
        else if m.rank = 0 then ['0']
        else m.shortest.text
      if negative then '-' :: magnitude else magnitude

instance : ToString Binary64 := ⟨fun r => String.ofList r.text⟩

/-- A number as it is written where a whole number must show a fraction. -/
def fractionText (r : Binary64) : List Char :=
  match r with
  | nan => r.text
  | number _ m =>
      if m.rank = infinityRank ∨ r.text.contains '.' then r.text else r.text ++ ['.', '0']

inductive Fault where
  | empty
  | invalid
  deriving Repr, DecidableEq

def Fault.message : Fault → String
  | .empty => "cannot parse float from empty string"
  | .invalid => "invalid float literal"

/-- Read a number without its sign: a word in any case, or a decimal number. -/
def readUnsigned? (negative : Bool) (cs : List Char) : Option Binary64 :=
  match Decimal.read? cs with
  | some d => some (number negative (Magnitude.nearest d))
  | none =>
      let word := cs.map Char.toLower
      if word = ['n', 'a', 'n'] then some nan
      else if word = ['i', 'n', 'f'] ∨ word = ['i', 'n', 'f', 'i', 'n', 'i', 't', 'y'] then
        some (number negative Magnitude.infinity)
      else none

def read (cs : List Char) : Except Fault Binary64 :=
  let (negative, unsigned) :=
    match cs with
    | '-' :: rest => (true, rest)
    | '+' :: rest => (false, rest)
    | _ => (false, cs)
  if cs.isEmpty then .error .empty
  else
    match readUnsigned? negative unsigned with
    | some r => .ok r
    | none => .error .invalid

end Binary64

end ClusterLaunch
