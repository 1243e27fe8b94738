import ClusterLaunch.Binary64.Text
import ClusterLaunch.Proofs.Binary64.Decimal

/-! # Floating-point numbers read back

All digits of a finite magnitude are rounded to that magnitude, so there are digits that are
and the shortest ones can be chosen. A number is read back from its text; what is no number
and the infinities are read back from their words.
-/

namespace ClusterLaunch

namespace Magnitude

/-- How often the distance between neighbours has doubled up to the magnitude. -/
def doublings (m : Magnitude) : Nat :=
  m.rank / 2 ^ 52 - 1

/-- The digits of the magnitude in base two, at most 53 of them. -/
def significand (m : Magnitude) : Nat :=
  if m.rank < 2 ^ 52 then m.rank else 2 ^ 52 + m.rank % 2 ^ 52

theorem units_eq (m : Magnitude) : m.units = m.significand * 2 ^ m.doublings := by
  unfold units significand doublings
  simp only [Nat.pow_eq]
  by_cases small : m.rank < 2 ^ 52
  · have first : m.rank / 2 ^ 52 = 0 := Nat.div_eq_of_lt small
    rw [if_pos first, if_pos small, first, Nat.zero_sub, Nat.pow_zero, Nat.mul_one]
  · have later : m.rank / 2 ^ 52 ≠ 0 := by omega
    rw [if_neg later, if_neg small]

theorem significand_lt (m : Magnitude) : m.significand < 2 ^ 53 := by
  unfold significand
  split <;> omega

theorem rank_eq (m : Magnitude) : m.doublings * 2 ^ 52 + m.significand = m.rank := by
  unfold significand doublings
  split <;> omega

private theorem log2_units (m : Magnitude) : m.units.log2 - 52 = m.doublings := by
  have below := m.significand_lt
  rw [units_eq]
  by_cases small : m.rank < 2 ^ 52
  · have none : m.doublings = 0 := by
      unfold doublings
      omega
    have same : m.significand = m.rank := if_pos small
    rw [none, same, Nat.pow_zero, Nat.mul_one]
    by_cases zero : m.rank = 0
    · rw [zero, Nat.log2_zero]
    · have := (Nat.log2_lt zero).2 small
      omega
  · have above : 2 ^ 52 ≤ m.significand := by
      unfold significand
      split <;> omega
    have positive : m.significand * 2 ^ m.doublings ≠ 0 := by positivity
    have log : (m.significand * 2 ^ m.doublings).log2 = 52 + m.doublings := by
      rw [Nat.log2_eq_iff positive, Nat.pow_add, Nat.add_right_comm, Nat.pow_add]
      exact ⟨Nat.mul_le_mul_right _ above, Nat.mul_lt_mul_of_pos_right below (by positivity)⟩
    omega

theorem ext {m m' : Magnitude} (same : m.rank = m'.rank) : m = m' := by
  cases m
  cases m'
  simpa using same

private theorem ofRank_rank (m : Magnitude) : ofRank m.rank = m :=
  ext (Nat.min_eq_left m.rank_le)

private theorem nearestRank_units {numerator denominator : Nat} (m : Magnitude)
    (positive : 0 < denominator)
    (same : numerator * Nat.pow 2 1074 = m.units * denominator) :
    nearestRank numerator denominator = m.rank := by
  have step : 0 < denominator * 2 ^ m.doublings := by positivity
  have whole : m.units * denominator = m.significand * (denominator * 2 ^ m.doublings) := by
    rw [units_eq]
    ring
  have quotient : m.units * denominator / (denominator * 2 ^ m.doublings) = m.significand := by
    rw [whole, Nat.mul_div_cancel _ step]
  have excess : m.units * denominator % (denominator * 2 ^ m.doublings) = 0 := by
    rw [whole, Nat.mul_mod_left]
  unfold nearestRank
  dsimp only
  rw [same, Nat.mul_div_cancel _ positive, log2_units]
  simp only [Nat.pow_eq, quotient, excess]
  rw [Nat.mul_zero, if_pos step, rank_eq]

section

variable {m : Magnitude}

private theorem units_pos (positive : m.rank ≠ 0) : 0 < m.units := by
  have := m.rank_eq
  have : 0 < m.significand := by
    unfold significand
    split <;> omega
  rw [units_eq]
  positivity

private theorem units_lt (finite : m.rank ≠ infinityRank) : m.units < 2 ^ 53 * 2 ^ 2045 := by
  have below : m.doublings ≤ 2045 := by
    have := m.rank_le
    unfold infinityRank at *
    unfold doublings
    omega
  rw [units_eq]
  generalize 2045 = most at below ⊢
  have larger : 2 ^ m.doublings ≤ 2 ^ most := Nat.pow_le_pow_right (by decide) below
  exact Nat.mul_lt_mul_of_lt_of_le m.significand_lt larger (by positivity)

variable (positive : m.rank ≠ 0) (finite : m.rank ≠ infinityRank)

include positive finite

private theorem size_exact : -330 ≤ m.exact.size ∧ m.exact.size ≤ 310 := by
  have least : (10 : Nat) ^ 743 ≤ Nat.pow 5 1074 := by decide +kernel
  have most : (2 : Nat) ^ 53 * 2 ^ 2045 * Nat.pow 5 1074 < 10 ^ 1384 := by decide +kernel
  have above : 10 ^ 743 ≤ m.exact.coefficient :=
    least.trans (Nat.le_mul_of_pos_left _ (units_pos positive))
  have below : m.exact.coefficient < 10 ^ 1384 :=
    (Nat.mul_le_mul_right _ (units_lt finite).le).trans_lt most
  have bounds := Decimal.size_bounds m.exact above below
  have exponent : m.exact.exponent = -1074 := rfl
  clear least most above below
  omega

theorem nearest_exact : nearest m.exact = m := by
  obtain ⟨above, below⟩ := size_exact positive finite
  have written : m.exact.coefficient ≠ 0 := by
    intro zero
    have short : m.exact.size = -1073 := by
      unfold Decimal.size
      rw [zero]
      rfl
    omega
  have same : m.exact.numerator * Nat.pow 2 1074 = m.units * m.exact.denominator := by
    have upward : (-1074 : Int).toNat = 0 := rfl
    have downward : (-(-1074 : Int)).toNat = 1074 := rfl
    unfold Decimal.numerator Decimal.denominator exact
    dsimp only
    have one : Nat.pow 10 0 = 1 := rfl
    rw [upward, downward, one, Nat.mul_one, Nat.mul_assoc]
    generalize 1074 = k
    exact congrArg (m.units * ·) (Nat.mul_pow 5 2 k).symm
  unfold nearest
  rw [if_neg (by omega), if_neg (by omega), nearestRank_units m m.exact.denominator_pos same,
    ofRank_rank]

theorem nearest_shortest : nearest m.shortest = m := by
  unfold shortest
  cases first : ((List.range' 1 17).flatMap m.candidates).head? with
  | none => exact nearest_exact positive finite
  | some d =>
      obtain ⟨digits, -, candidate⟩ := List.mem_flatMap.1 (List.mem_of_mem_head? first)
      unfold candidates at candidate
      exact eq_of_beq (List.mem_filter.1 candidate).2

end

end Magnitude

namespace Binary64

def magnitudeText (m : Magnitude) : List Char :=
  if m.rank = infinityRank then ['i', 'n', 'f']
  else if m.rank = 0 then ['0']
  else m.shortest.text

theorem text_number (negative : Bool) (m : Magnitude) :
    text (number negative m) = (if negative then ['-'] else []) ++ magnitudeText m := by
  cases negative <;> rfl

private theorem readUnsigned?_of_decimal {negative : Bool} {text : List Char} {d : Decimal}
    (h : Decimal.read? text = some d) :
    readUnsigned? negative text = some (number negative (Magnitude.nearest d)) := by
  unfold readUnsigned?
  rw [h]

private theorem readUnsigned?_magnitudeText (negative : Bool) (m : Magnitude) :
    readUnsigned? negative (magnitudeText m) = some (number negative m) := by
  unfold magnitudeText
  by_cases infinite : m.rank = infinityRank
  · have same : m = Magnitude.infinity := Magnitude.ext infinite
    rw [if_pos infinite, same]
    rfl
  · rw [if_neg infinite]
    by_cases zero : m.rank = 0
    · have same : m = Magnitude.zero := Magnitude.ext zero
      rw [if_pos zero, same]
      rfl
    · rw [if_neg zero, readUnsigned?_of_decimal (Decimal.read?_text _), Magnitude.nearest_placed,
        Magnitude.nearest_shortest zero infinite]

theorem magnitudeText_head (m : Magnitude) :
    ∃ c rest, magnitudeText m = c :: rest ∧ c.isAlphanum = true := by
  unfold magnitudeText
  split
  · exact ⟨'i', _, rfl, rfl⟩
  · split
    · exact ⟨'0', _, rfl, rfl⟩
    · obtain ⟨c, rest, whole, digit⟩ := m.shortest.text_spells.head
      exact ⟨c, rest, whole, by simp [Char.isAlphanum, digit]⟩

private theorem magnitudeText_inside (m : Magnitude) :
    ∀ c ∈ magnitudeText m, c.isAlphanum = true ∨ c = '.' := by
  intro c member
  unfold magnitudeText at member
  split at member
  · simp only [List.mem_cons, List.not_mem_nil, or_false] at member
    rcases member with rfl | rfl | rfl <;> exact .inl rfl
  · split at member
    · cases List.mem_singleton.1 member
      exact .inl rfl
    · rcases m.shortest.text_spells.inside c member with digit | point
      · exact .inl (by simp [Char.isAlphanum, digit])
      · exact .inr point

theorem text_inside (r : Binary64) : ∀ c ∈ r.text, c.isAlphanum = true ∨ c = '.' ∨ c = '-' := by
  intro c member
  cases r with
  | nan =>
      simp only [text, List.mem_cons, List.not_mem_nil, or_false] at member
      rcases member with rfl | rfl | rfl <;> exact .inl rfl
  | number negative m =>
      rw [text_number] at member
      rcases List.mem_append.1 member with sign | digit
      · cases negative <;> simp_all
      · rcases magnitudeText_inside m c digit with letter | point
        · exact .inl letter
        · exact .inr (.inl point)

theorem text_ne_nil (r : Binary64) : r.text ≠ [] := by
  cases r with
  | nan => exact List.cons_ne_nil _ _
  | number negative m =>
      obtain ⟨c, rest, whole, -⟩ := magnitudeText_head m
      rw [text_number, whole]
      simp

theorem read_text (r : Binary64) : read r.text = .ok r := by
  cases r with
  | nan => rfl
  | number negative m =>
      have unsigned := readUnsigned?_magnitudeText negative m
      obtain ⟨c, rest, whole, letter⟩ := magnitudeText_head m
      rw [text_number]
      cases negative with
      | true => simp [read, unsigned]
      | false =>
          have positive : c ≠ '-' := by
            rintro rfl
            cases letter
          have signless : c ≠ '+' := by
            rintro rfl
            cases letter
          rw [whole] at unsigned ⊢
          simp [read, positive, signless, unsigned]

end Binary64

end ClusterLaunch
