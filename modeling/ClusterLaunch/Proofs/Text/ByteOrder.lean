import Mathlib.Algebra.Ring.Nat

/-! # Strings in the order of their bytes

Strings are compared by their characters, from the left. A comparison of their bytes in UTF-8
comes to the same: where two strings first have different characters, the encodings of the two
differ, and neither is the front of the other.
-/

namespace ClusterLaunch.Text

def bytes (text : String) : List UInt8 :=
  text.toUTF8.data.toList

theorem bytes_eq_flatMap (text : String) :
    bytes text = text.toList.flatMap String.utf8EncodeChar := by
  have encoded : text.toByteArray = text.toList.utf8Encode := by
    rw [← String.toByteArray_ofList, String.ofList_toList]
  rw [bytes, String.toUTF8_eq_toByteArray, encoded, List.utf8Encode, List.data_toByteArray]

/-- Bytes that differ at some place, where the first ones have the lesser byte. -/
inductive Differs : List UInt8 → List UInt8 → Prop where
  | here {byte byte' : UInt8} (less : byte < byte') (rest rest' : List UInt8) :
      Differs (byte :: rest) (byte' :: rest')
  | behind (byte : UInt8) {rest rest' : List UInt8} (more : Differs rest rest') :
      Differs (byte :: rest) (byte :: rest')

private theorem Differs.append_lt {front front' : List UInt8} (differs : Differs front front')
    (rest rest' : List UInt8) : front ++ rest < front' ++ rest' := by
  induction differs with
  | here less => exact .rel less
  | behind byte _ ih => exact .cons ih

theorem differs_of_lt {code code' : Nat} (less : code < code') (small : code' < 256)
    (rest rest' : List UInt8) :
    Differs (UInt8.ofNat code :: rest) (UInt8.ofNat code' :: rest') := by
  refine .here ?_ rest rest'
  rw [UInt8.lt_iff_toNat_lt, UInt8.toNat_ofNat', UInt8.toNat_ofNat']
  omega

/-- The last bytes of a character, which hold six bits of its code each. -/
def continuation : (count code : Nat) → List UInt8
  | 0, _ => []
  | count + 1, code => UInt8.ofNat (code / 64 ^ count % 64 + 128) :: continuation count code

/-- Codes that agree in the bits before the last bytes differ in these. -/
theorem continuation_differs {count code code' : Nat}
    (same : code / 64 ^ count = code' / 64 ^ count) (less : code < code') :
    Differs (continuation count code) (continuation count code') := by
  induction count with
  | zero =>
      rw [Nat.pow_zero, Nat.div_one, Nat.div_one] at same
      exact absurd same (Nat.ne_of_lt less)
  | succ count ih =>
      have le : code / 64 ^ count ≤ code' / 64 ^ count := Nat.div_le_div_right (Nat.le_of_lt less)
      have above : code / 64 ^ count / 64 = code' / 64 ^ count / 64 := by
        rw [Nat.div_div_eq_div_mul, Nat.div_div_eq_div_mul, ← Nat.pow_succ]
        exact same
      unfold continuation
      rcases Nat.lt_or_eq_of_le le with lt | eq
      · exact differs_of_lt (by omega) (by omega) _ _
      · rw [eq]
        exact .behind _ (ih eq)

/-- How many bytes follow the first one of a character, by its code, and what the first is. -/
def Leads (code count lead : Nat) : Prop :=
  (code ≤ 127 ∧ count = 0 ∧ lead = code) ∨
  (127 < code ∧ code ≤ 2047 ∧ count = 1 ∧ lead = code / 64 + 192) ∨
  (2047 < code ∧ code ≤ 65535 ∧ count = 2 ∧ lead = code / 4096 + 224) ∨
  (65535 < code ∧ code < 1114112 ∧ count = 3 ∧ lead = code / 262144 + 240)

theorem exists_leads (c : Char) : ∃ count lead, Leads c.toNat count lead ∧
    String.utf8EncodeChar c = UInt8.ofNat lead :: continuation count c.toNat := by
  have bound : c.toNat < 1114112 := by
    have valid : c.toNat < 55296 ∨ 57343 < c.toNat ∧ c.toNat < 1114112 := c.valid
    omega
  unfold String.utf8EncodeChar Leads
  rw [show c.val.toNat = c.toNat from rfl]
  generalize c.toNat = code at bound ⊢
  dsimp only
  split
  · next most => exact ⟨0, code, by omega, rfl⟩
  · split
    · next most =>
      have lead : code / 64 % 32 = code / 64 := by omega
      refine ⟨1, code / 64 + 192, by omega, ?_⟩
      rw [lead]
      simp only [continuation, Nat.pow_zero, Nat.div_one]
    · split
      · next most =>
        have lead : code / 4096 % 16 = code / 4096 := by omega
        refine ⟨2, code / 4096 + 224, by omega, ?_⟩
        rw [lead]
        simp only [continuation, Nat.pow_zero, Nat.pow_one, Nat.div_one]
      · have lead : code / 262144 % 8 = code / 262144 := by omega
        refine ⟨3, code / 262144 + 240, by omega, ?_⟩
        rw [lead]
        simp only [continuation, Nat.pow_zero, Nat.pow_one, Nat.div_one, Nat.reducePow]

/-- Of two characters, the one with the greater code has no fewer bytes, and its first byte is
    greater if it has more. -/
theorem Leads.differs {code code' count count' lead lead' : Nat} (leads : Leads code count lead)
    (leads' : Leads code' count' lead') (less : code < code') :
    Differs (UInt8.ofNat lead :: continuation count code)
      (UInt8.ofNat lead' :: continuation count' code') := by
  have small : lead' < 256 := by
    unfold Leads at leads'
    omega
  have le : lead ≤ lead' := by
    unfold Leads at leads leads'
    omega
  rcases Nat.lt_or_eq_of_le le with lt | eq
  · exact differs_of_lt lt small _ _
  · have counts : count = count' := by
      unfold Leads at leads leads'
      omega
    subst counts
    have same : code / 64 ^ count = code' / 64 ^ count := by
      unfold Leads at leads'
      rcases leads with ⟨-, rfl, first⟩ | ⟨-, -, rfl, first⟩ | ⟨-, -, rfl, first⟩ |
        ⟨-, -, rfl, first⟩ <;> omega
    rw [eq]
    exact .behind _ (continuation_differs same less)

private theorem encode_differs {c d : Char} (less : c < d) :
    Differs (String.utf8EncodeChar c) (String.utf8EncodeChar d) := by
  obtain ⟨count, lead, leads, encoded⟩ := exists_leads c
  obtain ⟨count', lead', leads', encoded'⟩ := exists_leads d
  rw [encoded, encoded']
  exact leads.differs leads' less

private theorem flatMap_encode_lt {cs ds : List Char} (less : cs < ds) :
    cs.flatMap String.utf8EncodeChar < ds.flatMap String.utf8EncodeChar := by
  induction less with
  | @nil d ds =>
      obtain ⟨count, lead, -, encoded⟩ := exists_leads d
      rw [List.flatMap_cons, encoded]
      exact List.nil_lt_cons _ _
  | rel first => exact (encode_differs first).append_lt _ _
  | cons _ ih => exact List.append_left_lt ih

theorem bytes_lt_iff {text text' : String} : bytes text < bytes text' ↔ text < text' := by
  have mono : ∀ {a b : String}, a < b → bytes a < bytes b := by
    intro a b less
    rw [bytes_eq_flatMap, bytes_eq_flatMap]
    exact flatMap_encode_lt (String.lt_iff.1 less)
  constructor
  · intro less
    by_cases same : text = text'
    · rw [same] at less
      exact absurd less (List.lt_irrefl _)
    · refine Classical.byContradiction fun le => ?_
      have greater : text' < text := by
        refine String.not_le.1 ?_
        intro le'
        exact same (String.le_antisymm le' (String.not_lt.1 le))
      exact List.lt_asymm less (mono greater)
  · exact mono

theorem bytes_le_iff {text text' : String} : bytes text ≤ bytes text' ↔ text ≤ text' := by
  rw [← List.not_lt, ← String.not_lt, bytes_lt_iff]

end ClusterLaunch.Text
