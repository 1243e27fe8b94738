import ClusterLaunch.Binary64.Decimal

/-! # Binary floating-point numbers

Numbers of 64 bits, such as failure rates. A magnitude is given by its rank in the
ascending order of all magnitudes, zero first and infinity last, so that rounding,
comparing and stepping to a neighbour are arithmetic on natural numbers. Every
finite magnitude is a whole number of units of `2 ^ (-1074)`.
-/

namespace ClusterLaunch

/-- How many finite magnitudes there are; the rank of infinity. -/
def infinityRank : Nat := 0x7FF0000000000000

/-- A magnitude, by its place in ascending order. -/
structure Magnitude where
  rank : Nat
  rank_le : rank ≤ infinityRank
  deriving Repr, DecidableEq

namespace Magnitude

def zero : Magnitude := ⟨0, Nat.zero_le _⟩

def infinity : Magnitude := ⟨infinityRank, Nat.le_refl _⟩

def one : Magnitude := ⟨0x3FF0000000000000, by decide⟩

/-- The magnitude of a rank; a rank past the end gives infinity. -/
def ofRank (rank : Nat) : Magnitude :=
  ⟨min rank infinityRank, Nat.min_le_right _ _⟩

/-- A finite magnitude in units of `2 ^ (-1074)`. The ranks fall into blocks of
    `2 ^ 52`; in the first two blocks neighbours are one unit apart, and the
    distance doubles from each block to the next. -/
def units (m : Magnitude) : Nat :=
  let block := m.rank / Nat.pow 2 52
  if block = 0 then m.rank else (Nat.pow 2 52 + m.rank % Nat.pow 2 52) * Nat.pow 2 (block - 1)

/-- The rank nearest to a fraction, where a tie goes to the even rank. -/
def nearestRank (numerator denominator : Nat) : Nat :=
  let scaled := numerator * Nat.pow 2 1074
  let doublings := (scaled / denominator).log2 - 52
  let step := denominator * Nat.pow 2 doublings
  let below := doublings * Nat.pow 2 52 + scaled / step
  let excess := scaled % step
  if 2 * excess < step then below
  else if step < 2 * excess then below + 1
  else below + below % 2

/-- The magnitude nearest to a decimal number. Numbers far outside the range of
    the finite magnitudes are settled by their size alone. -/
def nearest (d : Decimal) : Magnitude :=
  if d.coefficient = 0 ∨ d.size < -330 then zero
  else if 310 < d.size then infinity
  else ofRank (nearestRank d.numerator d.denominator)

end Magnitude

/-- A signed magnitude, or no number at all. -/
inductive Binary64 where
  | nan
  | number (negative : Bool) (magnitude : Magnitude)
  deriving Repr, DecidableEq

namespace Binary64

/-- Does the value lie between zero and one, both included? Negative zero equals
    zero, and what is no number lies nowhere. -/
def inUnitInterval : Binary64 → Bool
  | nan => false
  | number negative m => if negative then m.rank == 0 else m.rank ≤ Magnitude.one.rank

end Binary64

end ClusterLaunch
