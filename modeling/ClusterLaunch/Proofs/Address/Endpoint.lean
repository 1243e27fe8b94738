import ClusterLaunch.Address.Endpoint
import ClusterLaunch.Proofs.Address.IPv6

/-! # Endpoints read back

An endpoint of either family is read back from its text, with its port and its scope.
-/

namespace ClusterLaunch.Endpoint

open Text

theorem readPort?_toDigits (port : UInt16) :
    readPort? (':' :: Nat.toDigits 10 port.toNat) = some port := by
  have digits : portRule.read (Nat.toDigits 10 port.toNat ++ []) = some (port.toNat, []) :=
    NumeralRule.read_toDigits (by decide) (by decide) port.toNat_lt (by simp [portRule]) (by simp)
  rw [List.append_nil] at digits
  simp [readPort?, digits]

theorem readScope?_text (scope : UInt32) (more : List Char) :
    readScope? ((if scope = 0 then [] else '%' :: Nat.toDigits 10 scope.toNat) ++ ']' :: more) =
      some (scope, ']' :: more) := by
  split
  · next zero =>
    subst zero
    rfl
  · have digits : scopeRule.read (Nat.toDigits 10 scope.toNat ++ ']' :: more) =
        some (scope.toNat, ']' :: more) := by
      refine NumeralRule.read_toDigits (by decide) (by decide) scope.toNat_lt (by simp [scopeRule]) ?_
      rintro c ⟨⟩
      decide
    simp [readScope?, digits]

theorem read?_text (endpoint : Endpoint) : read? endpoint.text = some endpoint := by
  cases endpoint with
  | v4 ip port =>
      obtain ⟨c, rest, whole, digit⟩ := ip.text_head
      have unbracketed : c ≠ '[' := by
        rintro rfl
        cases digit
      have address : IPv4.read (ip.text ++ ':' :: Nat.toDigits 10 port.toNat) =
          some (ip, ':' :: Nat.toDigits 10 port.toNat) := by
        apply IPv4.read_text
        rintro c ⟨⟩
        decide
      unfold read?
      split
      · next same =>
        simp only [text, whole, List.cons_append, List.cons.injEq] at same
        exact absurd same.1 unbracketed
      · simp [text, address, readPort?_toDigits]
  | v6 ip scope port =>
      have scopeRead := readScope?_text scope (':' :: Nat.toDigits 10 port.toNat)
      have ends : IPv6.Ends ((if scope = 0 then [] else '%' :: Nat.toDigits 10 scope.toNat) ++
          ']' :: ':' :: Nat.toDigits 10 port.toNat) := by
        intro c member
        split at member <;> cases member <;> decide
      have address := IPv6.read_text ip ends
      simp only [text, read?, List.cons_append, List.append_assoc]
      rw [address]
      simp only [Option.bind_eq_bind, Option.bind_some]
      rw [scopeRead]
      simp [readPort?_toDigits]

theorem parse?_text (endpoint : Endpoint) :
    parse? (String.ofList endpoint.text) = some endpoint := by
  rw [parse?, String.toList_ofList, read?_text]

end ClusterLaunch.Endpoint
