import Mathlib.Algebra.Order.Field.Basic
import Mathlib.Algebra.Order.Field.Rat
import Mathlib.Tactic.Linarith
import ClusterLaunch.Proofs.Binary64.Text

/-! # Numbers by their values

A finite number is a multiple of the least magnitude, and the order of ranks is the order of
these multiples. So the check of a rate by its rank decides whether its value lies between zero
and one.
-/

namespace ClusterLaunch

namespace Magnitude

theorem significand_ge {m : Magnitude} (doubled : 0 < m.doublings) : 2 ^ 52 ≤ m.significand := by
  unfold doublings at doubled
  unfold significand
  split <;> omega

theorem units_lt_units {m m' : Magnitude} (less : m.rank < m'.rank) : m.units < m'.units := by
  have below := m.significand_lt
  have rank := m.rank_eq
  have rank' := m'.rank_eq
  rw [units_eq, units_eq]
  rcases Nat.lt_trichotomy m.doublings m'.doublings with fewer | same | more
  · have above := significand_ge (Nat.zero_lt_of_lt fewer)
    calc
      m.significand * 2 ^ m.doublings < 2 ^ 53 * 2 ^ m.doublings :=
        Nat.mul_lt_mul_of_pos_right below (by positivity)
      _ = 2 ^ 52 * 2 ^ (m.doublings + 1) := by ring
      _ ≤ m'.significand * 2 ^ m'.doublings :=
        Nat.mul_le_mul above (Nat.pow_le_pow_right (by decide) fewer)
  · rw [same] at rank ⊢
    exact Nat.mul_lt_mul_of_pos_right (by omega) (by positivity)
  · have above := significand_ge (Nat.zero_lt_of_lt more)
    have below' := m'.significand_lt
    omega

theorem units_le_units_iff {m m' : Magnitude} : m.units ≤ m'.units ↔ m.rank ≤ m'.rank := by
  constructor
  · intro le
    by_contra more
    exact absurd (units_lt_units (Nat.lt_of_not_le more)) (Nat.not_lt.2 le)
  · intro le
    rcases Nat.lt_or_eq_of_le le with less | same
    · exact (units_lt_units less).le
    · rw [ext same]

theorem units_zero : zero.units = 0 := rfl

theorem units_one : one.units = 2 ^ 1074 := by decide +kernel

end Magnitude

namespace Binary64

/-- The value of a number. What is no number has none, and neither have the infinities. -/
def value? : Binary64 → Option ℚ
  | nan => none
  | number negative m =>
      if m.rank = infinityRank then none
      else some ((if negative then -1 else 1) * m.units / 2 ^ 1074)

/-- The value of the rate lies between zero and one, both included. -/
def InUnitInterval (rate : Binary64) : Prop :=
  ∃ value, rate.value? = some value ∧ 0 ≤ value ∧ value ≤ 1

theorem inUnitInterval_iff {rate : Binary64} :
    rate.inUnitInterval = true ↔ rate.InUnitInterval := by
  unfold InUnitInterval
  cases rate with
  | nan => simp [inUnitInterval, value?]
  | number negative m =>
      by_cases infinite : m.rank = infinityRank
      · have large : ¬infinityRank ≤ Magnitude.one.rank := by decide
        have nonzero : infinityRank ≠ 0 := by decide
        cases negative <;> simp [inUnitInterval, value?, infinite, large, nonzero]
      · have count : (0 : ℚ) ≤ m.units := Nat.cast_nonneg _
        have one : (m.units : ℚ) ≤ 2 ^ 1074 ↔ m.rank ≤ Magnitude.one.rank := by
          rw [← Magnitude.units_le_units_iff, Magnitude.units_one]
          norm_cast
        have none : (m.units : ℚ) ≤ 0 ↔ m.rank = 0 := by
          rw [← Nat.cast_zero, Nat.cast_le, ← Magnitude.units_zero, Magnitude.units_le_units_iff]
          exact Nat.le_zero
        have scale : (0 : ℚ) < 2 ^ 1074 := pow_pos two_pos _
        simp only [value?, if_neg infinite, Option.some.injEq, exists_eq_left', inUnitInterval]
        generalize (2 : ℚ) ^ 1074 = scaled at one scale ⊢
        cases negative with
        | false =>
            rw [if_neg Bool.false_ne_true, if_neg Bool.false_ne_true, one_mul, div_le_one scale,
              one, decide_eq_true_iff]
            exact (and_iff_right (div_nonneg count scale.le)).symm
        | true =>
            rw [if_pos rfl, if_pos rfl, le_div_iff₀ scale, div_le_one scale, beq_iff_eq, ← none]
            constructor
            · intro zero
              constructor <;> linarith
            · rintro ⟨least, -⟩
              linarith

end Binary64

end ClusterLaunch
