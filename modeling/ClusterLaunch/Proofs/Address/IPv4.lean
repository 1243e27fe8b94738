import ClusterLaunch.Address.IPv4
import ClusterLaunch.Proofs.Text.Numeral

/-! # IPv4 addresses read back

An address is read back from its text, whatever follows but a digit. A numeral that no
point follows is never taken for one.
-/

namespace ClusterLaunch.IPv4

open Text

theorem readOctet_toDigits {n : Nat} (octet : n < 256) {left : List Char}
    (ends : ∀ c ∈ left.head?, isDigitOf 10 c = false) :
    octetRule.read (Nat.toDigits 10 n ++ left) = some (n, left) :=
  NumeralRule.read_toDigits (by decide) (by decide) octet
    (by simp [octetRule]; omega) ends

theorem readNextOctet_toDigits (octet : UInt8) {left : List Char}
    (ends : ∀ c ∈ left.head?, isDigitOf 10 c = false) :
    readNextOctet ('.' :: (Nat.toDigits 10 octet.toNat ++ left)) = some (octet, left) := by
  simp [readNextOctet, readOctet_toDigits octet.toNat_lt ends]

theorem read_text (ip : IPv4) {left : List Char}
    (ends : ∀ c ∈ left.head?, isDigitOf 10 c = false) : read (ip.text ++ left) = some (ip, left) := by
  have point : ∀ more : List Char, ∀ c ∈ ('.' :: more).head?, isDigitOf 10 c = false := by
    intro more c member
    cases member
    decide
  obtain ⟨first, second, third, fourth⟩ := ip
  simp only [text, List.append_assoc, List.cons_append, read]
  rw [readOctet_toDigits first.toNat_lt (point _)]
  simp only [Option.bind_eq_bind, Option.bind_some]
  rw [readNextOctet_toDigits second (point _)]
  simp only [Option.bind_some]
  rw [readNextOctet_toDigits third (point _)]
  simp only [Option.bind_some]
  rw [readNextOctet_toDigits fourth ends]
  simp

theorem text_head (ip : IPv4) : ∃ c rest, ip.text = c :: rest ∧ isDigitOf 10 c = true := by
  obtain ⟨c, rest, digits⟩ := List.exists_cons_of_ne_nil
    (Nat.toDigits_ne_nil (b := 10) (n := ip.first.toNat))
  have digit : ∀ c ∈ Nat.toDigits 10 ip.first.toNat, isDigitOf 10 c = true :=
    isDigitOf_toDigits (by decide) (by decide) _
  rw [digits] at digit
  unfold text
  rw [digits]
  exact ⟨c, _, rfl, digit c (List.mem_cons_self ..)⟩

theorem read_eq_none {text : List Char}
    (pointless : (text.dropWhile (isDigitOf 10)).head? ≠ some '.') : read text = none := by
  unfold read
  cases octet : octetRule.read text with
  | none => rfl
  | some found =>
      obtain ⟨n, left⟩ := found
      have rest : left = text.dropWhile (isDigitOf 10) := NumeralRule.left_eq_dropWhile octet
      simp only [Option.bind_eq_bind, Option.bind_some]
      have : readNextOctet left = none := by
        unfold readNextOctet
        split
        · simp [← rest] at pointless
        · rfl
      rw [this]
      rfl

end ClusterLaunch.IPv4
