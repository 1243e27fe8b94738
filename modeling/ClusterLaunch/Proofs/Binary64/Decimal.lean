import Mathlib.Data.List.TakeWhile
import Mathlib.Tactic.Ring
import ClusterLaunch.Binary64.Basic
import ClusterLaunch.Proofs.Text.Numeral

/-! # Decimal numbers read back

The text of a decimal number has no place for a positive power of ten: it is read back with
that power multiplied out, which is the same number.
-/

namespace ClusterLaunch

namespace Decimal

/-- The number with a positive power of ten multiplied out. -/
def placed (d : Decimal) : Decimal :=
  ⟨d.coefficient * 10 ^ d.exponent.toNat, min d.exponent 0⟩

/-- Digits, at least one of them in front of any point, and the number that they spell. -/
inductive Spells : List Char → Decimal → Prop where
  | whole {digits : List Char} {n : Nat} (written : digits ≠ [])
      (decimal : ∀ c ∈ digits, c.isDigit = true) (value : Nat.ofDigitChars 10 digits 0 = n) :
      Spells digits ⟨n, 0⟩
  | point {whole fraction : List Char} {n : Nat} (written : whole ≠ [])
      (decimal : ∀ c ∈ whole ++ fraction, c.isDigit = true)
      (value : Nat.ofDigitChars 10 (whole ++ fraction) 0 = n) :
      Spells (whole ++ '.' :: fraction) ⟨n, -(fraction.length : Int)⟩

theorem Spells.read? {text : List Char} {d : Decimal} (h : Spells text d) :
    read? text = some d := by
  cases h with
  | whole written decimal value =>
      have run : text.takeWhile Char.isDigit = text := List.takeWhile_eq_self_iff.2 decimal
      have behind : text.dropWhile Char.isDigit = [] := List.dropWhile_eq_nil_iff.2 decimal
      simp [Decimal.read?, run, behind, written, value]
  | @point whole fraction n written decimal value =>
      obtain ⟨front, back⟩ := List.forall_mem_append.1 decimal
      have point : ∀ c ∈ ('.' :: fraction).head?, c.isDigit = false := by
        rintro c ⟨⟩
        decide
      obtain ⟨run, behind⟩ := Text.span_run front point
      have run' : fraction.takeWhile Char.isDigit = fraction := List.takeWhile_eq_self_iff.2 back
      have behind' : fraction.dropWhile Char.isDigit = [] := List.dropWhile_eq_nil_iff.2 back
      simp [Decimal.read?, run, behind, run', behind', written, value]

theorem Spells.head {text : List Char} {d : Decimal} (h : Spells text d) :
    ∃ c rest, text = c :: rest ∧ c.isDigit = true := by
  cases h with
  | whole written decimal =>
      obtain ⟨c, rest, rfl⟩ := List.exists_cons_of_ne_nil written
      exact ⟨c, rest, rfl, decimal c (List.mem_cons_self ..)⟩
  | point written decimal =>
      obtain ⟨c, rest, rfl⟩ := List.exists_cons_of_ne_nil written
      exact ⟨c, _, rfl, decimal c (List.mem_cons_self ..)⟩

theorem Spells.inside {text : List Char} {d : Decimal} (h : Spells text d) :
    ∀ c ∈ text, c.isDigit = true ∨ c = '.' := by
  intro c member
  cases h with
  | whole _ decimal => exact .inl (decimal c member)
  | point _ decimal =>
      rcases List.mem_append.1 member with front | back
      · exact .inl (decimal c (List.mem_append_left _ front))
      · rcases List.mem_cons.1 back with rfl | back
        · exact .inr rfl
        · exact .inl (decimal c (List.mem_append_right _ back))

theorem isDigit_of_mem_toDigits {n : Nat} : ∀ c ∈ Nat.toDigits 10 n, c.isDigit = true :=
  fun _ member => Nat.isDigit_of_mem_toDigits (by decide) (by decide) member

theorem isDigit_of_mem_zeros {n : Nat} : ∀ c ∈ List.replicate n '0', c.isDigit = true := by
  intro c member
  obtain ⟨-, rfl⟩ := List.mem_replicate.1 member
  decide

theorem text_spells (d : Decimal) : Spells d.text d.placed := by
  obtain ⟨coefficient, exponent⟩ := d
  have written : Nat.toDigits 10 coefficient ≠ [] := Nat.toDigits_ne_nil
  have value : Nat.ofDigitChars 10 (Nat.toDigits 10 coefficient) 0 = coefficient :=
    Nat.ofDigitChars_ten_toDigits
  have decimal : ∀ c ∈ Nat.toDigits 10 coefficient, c.isDigit = true := isDigit_of_mem_toDigits
  unfold text placed
  dsimp only
  generalize Nat.toDigits 10 coefficient = digits at written value decimal ⊢
  split
  · next upward =>
    rw [min_eq_right upward]
    refine .whole (by simp [written]) ?_ ?_
    · exact List.forall_mem_append.2 ⟨decimal, isDigit_of_mem_zeros⟩
    · rw [Nat.ofDigitChars_append, value, Nat.ofDigitChars_replicate_zero, Nat.mul_comm]
  · next downward =>
    -- As many digits as the number has decimal places stand behind the point.
    have places : exponent = -((-exponent).toNat : Int) := by omega
    have nothing : exponent.toNat = 0 := by omega
    rw [nothing, min_eq_left (by omega), Nat.pow_zero, Nat.mul_one]
    generalize (-exponent).toNat = count at places ⊢
    subst places
    split
    · next inner =>
      have front : digits.take (digits.length - count) ≠ [] := by simp [written]; omega
      have behind : (digits.drop (digits.length - count)).length = count := by simp; omega
      rw [← List.take_append_drop (digits.length - count) digits] at value decimal
      have spelled := Spells.point front decimal value
      rwa [behind] at spelled
    · next outer =>
      have behind : (List.replicate (count - digits.length) '0' ++ digits).length = count := by
        simp; omega
      have inside : ∀ c ∈ ['0'] ++ (List.replicate (count - digits.length) '0' ++ digits),
          c.isDigit = true := by
        simp only [List.forall_mem_append, List.forall_mem_singleton]
        exact ⟨rfl, isDigit_of_mem_zeros, decimal⟩
      have spelled := Spells.point (n := coefficient) (List.cons_ne_nil _ []) inside (by
        simpa [Nat.ofDigitChars_append, Nat.ofDigitChars_cons] using value)
      rwa [behind] at spelled

/-- The text of a number is read as the number with a positive power of ten multiplied out. -/
theorem read?_text (d : Decimal) : read? d.text = some d.placed :=
  d.text_spells.read?

theorem denominator_pos (d : Decimal) : 0 < d.denominator :=
  Nat.pow_pos (by decide)

private theorem toDigits_shift {n : Nat} (positive : 0 < n) (places : Nat) :
    Nat.toDigits 10 (n * 10 ^ places) = Nat.toDigits 10 n ++ List.replicate places '0' := by
  induction places with
  | zero => simp
  | succ places ih =>
      have more : n * 10 ^ (places + 1) = 10 * (n * 10 ^ places) + 0 := by ring
      have larger : 0 < n * 10 ^ places := Nat.mul_pos positive (Nat.pow_pos (by decide))
      rw [more, ← Nat.toDigits_append_toDigits (by decide) larger (by decide), ih,
        Nat.toDigits_zero, List.append_assoc, List.replicate_succ']

theorem size_bounds (d : Decimal) {least most : Nat} (above : 10 ^ least ≤ d.coefficient)
    (below : d.coefficient < 10 ^ most) :
    least + d.exponent < d.size ∧ d.size ≤ most + d.exponent := by
  have many : least < (Nat.toDigits 10 d.coefficient).length := by
    by_contra few
    have positive : 0 < least := Nat.length_toDigits_pos.trans_le (not_lt.1 few)
    have := (Nat.length_toDigits_le_iff (by decide) positive).1 (not_lt.1 few)
    omega
  have few : (Nat.toDigits 10 d.coefficient).length ≤ most := by
    cases most with
    | zero =>
        have := Nat.pow_pos (n := least) (by decide : 0 < 10)
        omega
    | succ most => exact (Nat.length_toDigits_le_iff (by decide) (Nat.succ_pos _)).2 below
  unfold size
  omega

private theorem size_placed {d : Decimal} (positive : d.coefficient ≠ 0) :
    d.placed.size = d.size := by
  unfold size placed
  rw [toDigits_shift (Nat.pos_of_ne_zero positive)]
  simp
  omega

private theorem numerator_placed (d : Decimal) : d.placed.numerator = d.numerator := by
  have nothing : (min d.exponent 0).toNat = 0 := by omega
  simp [numerator, placed, nothing]

private theorem denominator_placed (d : Decimal) : d.placed.denominator = d.denominator := by
  have same : (-min d.exponent 0).toNat = (-d.exponent).toNat := by omega
  simp only [denominator, placed, same]

end Decimal

/-- Multiplying out a power of ten does not change how a number is rounded. -/
theorem Magnitude.nearest_placed (d : Decimal) : nearest d.placed = nearest d := by
  have zero : d.placed.coefficient = 0 ↔ d.coefficient = 0 := by simp [Decimal.placed]
  unfold nearest
  by_cases nothing : d.coefficient = 0
  · simp [nothing, zero]
  · rw [Decimal.size_placed nothing, Decimal.numerator_placed, Decimal.denominator_placed]
    simp only [zero]

end ClusterLaunch
