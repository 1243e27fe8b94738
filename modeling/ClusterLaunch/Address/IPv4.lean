import ClusterLaunch.Text.Numeral

/-! # IPv4 addresses

Four octets, written in decimal with points between them. An octet is read from
one to three digits without a leading zero.
-/

namespace ClusterLaunch

structure IPv4 where
  first : UInt8
  second : UInt8
  third : UInt8
  fourth : UInt8
  deriving Repr, DecidableEq

namespace IPv4

/-- The address that stands for every local interface. -/
def unspecified : IPv4 := ⟨0, 0, 0, 0⟩

def text (ip : IPv4) : List Char :=
  Nat.toDigits 10 ip.first.toNat ++ '.' :: Nat.toDigits 10 ip.second.toNat ++
    '.' :: Nat.toDigits 10 ip.third.toNat ++ '.' :: Nat.toDigits 10 ip.fourth.toNat

def octetRule : Text.NumeralRule :=
  { base := 10, maxDigits := some 3, leadingZeros := false, limit := 256 }

def readNextOctet : List Char → Option (UInt8 × List Char)
  | '.' :: rest => (octetRule.read rest).map fun (n, rest) => (UInt8.ofNat n, rest)
  | _ => none

def read (cs : List Char) : Option (IPv4 × List Char) := do
  let (first, cs) ← octetRule.read cs
  let (second, cs) ← readNextOctet cs
  let (third, cs) ← readNextOctet cs
  let (fourth, cs) ← readNextOctet cs
  return (⟨UInt8.ofNat first, second, third, fourth⟩, cs)

end IPv4

end ClusterLaunch
