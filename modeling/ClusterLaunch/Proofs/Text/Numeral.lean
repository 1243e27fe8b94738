import Mathlib.Tactic.IntervalCases
import ClusterLaunch.Text.Numeral

/-! # Numerals read back

A number written in a base is read back as itself, with what stands behind it, as long as
no further digit follows and the rules of the numeral admit the number.
-/

namespace ClusterLaunch.Text

theorem span_run {kind : Char → Bool} {run left : List Char}
    (inside : ∀ c ∈ run, kind c = true) (outside : ∀ c ∈ left.head?, kind c = false) :
    (run ++ left).takeWhile kind = run ∧ (run ++ left).dropWhile kind = left := by
  rw [List.takeWhile_append_of_pos inside, List.dropWhile_append_of_pos inside]
  cases left with
  | nil => simp
  | cons c left => simp [outside c rfl]

theorem inside_takeWhile {kind : Char → Bool} {text : List Char} :
    ∀ c ∈ text.takeWhile kind, kind c = true :=
  List.all_eq_true.1 List.all_takeWhile

theorem head_dropWhile {kind : Char → Bool} {text : List Char} :
    ∀ c ∈ (text.dropWhile kind).head?, kind c = false := by
  intro c member
  have := List.head?_dropWhile_not kind text
  rw [member] at this
  simpa using this

theorem digitValue?_digitChar {base d : Nat} (h : d < base) (hex : base ≤ 16) :
    digitValue? base d.digitChar = some d := by
  have small : d < 16 := by omega
  unfold digitValue?
  interval_cases d <;> simp [Nat.digitChar, h]

private theorem digitChar_eq_zero {d : Nat} (small : d < 16) (h : d.digitChar = '0') : d = 0 := by
  interval_cases d <;> first | rfl | cases h

private theorem ofDigits_append_singleton (base : Nat) (digits : List Char) (c : Char) :
    ofDigits base (digits ++ [c]) = ofDigits base digits * base + (digitValue? base c).getD 0 := by
  simp [ofDigits]

section

variable {base : Nat} (two : 1 < base)

include two

theorem digits_induction {motive : Nat → List Char → Prop}
    (single : ∀ d, d < base → motive d [d.digitChar])
    (longer : ∀ n, base ≤ n → motive (n / base) (Nat.toDigits base (n / base)) →
      motive n (Nat.toDigits base (n / base) ++ [(n % base).digitChar]))
    (n : Nat) : motive n (Nat.toDigits base n) := by
  induction n using Nat.strongRecOn with
  | ind n ih =>
      rw [Nat.toDigits_eq_if two]
      split
      · next small => exact single n small
      · next large =>
        have smaller : n / base < n := Nat.div_lt_self (by omega) two
        exact longer n (by omega) (ih _ smaller)

variable (hex : base ≤ 16)

include hex

theorem isDigitOf_toDigits (n : Nat) : ∀ c ∈ Nat.toDigits base n, isDigitOf base c = true := by
  have digit : ∀ d, d < base → isDigitOf base d.digitChar = true := by
    intro d h
    simp [isDigitOf, digitValue?_digitChar h hex]
  apply digits_induction two (motive := fun _ digits => ∀ c ∈ digits, isDigitOf base c = true)
  · intro d h
    simpa using digit d h
  · intro n _ ih c member
    rcases List.mem_append.1 member with member | member
    · exact ih c member
    · rw [List.mem_singleton.1 member]
      exact digit _ (Nat.mod_lt _ (by omega))

private theorem ofDigits_toDigits (n : Nat) : ofDigits base (Nat.toDigits base n) = n := by
  apply digits_induction two (motive := fun n digits => ofDigits base digits = n)
  · intro d h
    simp [ofDigits, digitValue?_digitChar h hex]
  · intro n _ ih
    rw [ofDigits_append_singleton, ih, digitValue?_digitChar (Nat.mod_lt _ (by omega)) hex]
    exact Nat.div_add_mod' n base

private theorem toDigits_head (n : Nat) (zero : (Nat.toDigits base n).head? = some '0') :
    n = 0 := by
  revert zero
  apply digits_induction two (motive := fun n digits => digits.head? = some '0' → n = 0)
  · intro d h zero
    exact digitChar_eq_zero (by omega) (by simpa using zero)
  · intro n large ih zero
    obtain ⟨first, rest, digits⟩ := List.exists_cons_of_ne_nil
      (Nat.toDigits_ne_nil (b := base) (n := n / base))
    rw [digits] at zero ih
    have none : n / base = 0 := ih (by simpa using zero)
    have := Nat.div_pos large (by omega : 0 < base)
    omega

end

theorem NumeralRule.read_toDigits {rule : NumeralRule} (two : 1 < rule.base)
    (hex : rule.base ≤ 16) {n : Nat} (below : n < rule.limit)
    (short : ∀ most ∈ rule.maxDigits, 0 < most ∧ n < rule.base ^ most) {left : List Char}
    (ends : ∀ c ∈ left.head?, isDigitOf rule.base c = false) :
    rule.read (Nat.toDigits rule.base n ++ left) = some (n, left) := by
  obtain ⟨run, behind⟩ := span_run (isDigitOf_toDigits two hex n) ends
  have few : rule.maxDigits.any (· < (Nat.toDigits rule.base n).length) = false := by
    cases h : rule.maxDigits with
    | none => rfl
    | some most =>
        obtain ⟨positive, fits⟩ := short most h
        simpa using (Nat.length_toDigits_le_iff two positive).2 fits
  have noZeros : (!rule.leadingZeros && (Nat.toDigits rule.base n).head? == some '0' &&
      decide (1 < (Nat.toDigits rule.base n).length)) = false := by
    by_cases zero : (Nat.toDigits rule.base n).head? = some '0'
    · rw [toDigits_head two hex n zero, Nat.toDigits_zero]
      simp
    · simp [zero]
  unfold read
  simp only [run, behind, few, noZeros, ofDigits_toDigits two hex n, below, if_true,
    List.isEmpty_iff, Nat.toDigits_ne_nil, Bool.false_eq_true, if_false]

theorem NumeralRule.left_eq_dropWhile {rule : NumeralRule} {text left : List Char} {n : Nat}
    (h : rule.read text = some (n, left)) : left = text.dropWhile (isDigitOf rule.base) := by
  unfold read at h
  dsimp only at h
  repeat' split at h
  all_goals cases h
  rfl

theorem NumeralRule.read_eq_none {rule : NumeralRule} {text : List Char}
    (digitless : ∀ c ∈ text.head?, isDigitOf rule.base c = false) : rule.read text = none := by
  have nothing : text.takeWhile (isDigitOf rule.base) = [] := by
    cases text with
    | nil => rfl
    | cons c rest => simp [digitless c rfl]
  simp [read, nothing]

end ClusterLaunch.Text
