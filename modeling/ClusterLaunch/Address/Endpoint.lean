import ClusterLaunch.Address.IPv6

/-! # Hosts and endpoints

A host is an address of either family. An endpoint adds a port and, in the IPv6
family, a scope that is written only if it is not zero.
-/

namespace ClusterLaunch

inductive Host where
  | v4 (ip : IPv4)
  | v6 (ip : IPv6)
  deriving Repr, DecidableEq

namespace Host

def text : Host → List Char
  | v4 ip => ip.text
  | v6 ip => ip.text

instance : ToString Host := ⟨fun host => String.ofList host.text⟩

def read? (cs : List Char) : Option Host :=
  match IPv4.read cs with
  | some (ip, rest) => if rest.isEmpty then some (v4 ip) else none
  | none =>
      match IPv6.read cs with
      | some (ip, []) => some (v6 ip)
      | _ => none

def parse? (s : String) : Option Host :=
  read? s.toList

def syntaxMessage : String := "invalid IP address syntax"

end Host

/-- A place where a replica listens. -/
inductive Endpoint where
  | v4 (ip : IPv4) (port : UInt16)
  | v6 (ip : IPv6) (scope : UInt32) (port : UInt16)
  deriving Repr, DecidableEq

namespace Endpoint

def atPort : Host → UInt16 → Endpoint
  | .v4 ip, port => v4 ip port
  | .v6 ip, port => v6 ip 0 port

def port : Endpoint → UInt16
  | v4 _ port => port
  | v6 _ _ port => port

def host : Endpoint → Host
  | v4 ip _ => .v4 ip
  | v6 ip _ _ => .v6 ip

def text : Endpoint → List Char
  | v4 ip port => ip.text ++ ':' :: Nat.toDigits 10 port.toNat
  | v6 ip scope port =>
      let scopeText := if scope = 0 then [] else '%' :: Nat.toDigits 10 scope.toNat
      '[' :: ip.text ++ scopeText ++ ']' :: ':' :: Nat.toDigits 10 port.toNat

instance : ToString Endpoint := ⟨fun endpoint => String.ofList endpoint.text⟩

def portRule : Text.NumeralRule :=
  { base := 10, maxDigits := none, leadingZeros := true, limit := 65536 }

def scopeRule : Text.NumeralRule :=
  { base := 10, maxDigits := none, leadingZeros := true, limit := 4294967296 }

def readPort? : List Char → Option UInt16
  | ':' :: rest =>
      match portRule.read rest with
      | some (n, []) => some (UInt16.ofNat n)
      | _ => none
  | _ => none

/-- Read a scope if one stands at the front; without one it is zero. -/
def readScope? : List Char → Option (UInt32 × List Char)
  | '%' :: rest => (scopeRule.read rest).map fun (n, rest) => (UInt32.ofNat n, rest)
  | cs => some (0, cs)

def read? : List Char → Option Endpoint
  | '[' :: cs => do
      let (ip, cs) ← IPv6.read cs
      let (scope, cs) ← readScope? cs
      match cs with
      | ']' :: rest => return v6 ip scope (← readPort? rest)
      | _ => none
  | cs => do
      let (ip, cs) ← IPv4.read cs
      return v4 ip (← readPort? cs)

def parse? (s : String) : Option Endpoint :=
  read? s.toList

def syntaxMessage : String := "invalid socket address syntax"

end Endpoint

end ClusterLaunch
