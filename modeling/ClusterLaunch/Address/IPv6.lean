import ClusterLaunch.Address.IPv4

/-! # IPv6 addresses

Eight groups of 16 bits. Groups are written in hexadecimal with colons between
them, the longest run of at least two zero groups as a double colon, and an
address that embeds an IPv4 one ends in that. A text may put the double colon
at any place and may always end in an IPv4 address.
-/

namespace ClusterLaunch

structure IPv6 where
  groups : List UInt16
  length_groups : groups.length = 8
  deriving Repr, DecidableEq

namespace IPv6

def ofGroups? (groups : List UInt16) : Option IPv6 :=
  if h : groups.length = 8 then some ⟨groups, h⟩ else none

structure ZeroRun where
  start : Nat
  length : Nat
  deriving Repr, DecidableEq

/-- Look for the longest stretch of zeros from position `index` on, where
    `current` is the stretch that ends just before and `longest` the longest one
    so far. The first of equally long stretches stays. -/
def longestZeroRun (longest current : ZeroRun) (index : Nat) : List UInt16 → ZeroRun
  | [] => longest
  | group :: rest =>
      if group = 0 then
        let current : ZeroRun :=
          if current.length = 0 then ⟨index, 1⟩ else ⟨current.start, current.length + 1⟩
        let longest := if longest.length < current.length then current else longest
        longestZeroRun longest current (index + 1) rest
      else
        longestZeroRun longest ⟨0, 0⟩ (index + 1) rest

def groupsText (groups : List UInt16) : List Char :=
  [':'].intercalate (groups.map fun group => Nat.toDigits 16 group.toNat)

def embedded (high low : UInt16) : IPv4 :=
  ⟨(high >>> 8).toUInt8, high.toUInt8, (low >>> 8).toUInt8, low.toUInt8⟩

def embeddingGroups (ip : IPv4) : List UInt16 :=
  [ip.first.toUInt16 <<< 8 ||| ip.second.toUInt16, ip.third.toUInt16 <<< 8 ||| ip.fourth.toUInt16]

def text (ip : IPv6) : List Char :=
  match ip.groups with
  | [0, 0, 0, 0, 0, 0xFFFF, high, low] =>
      [':', ':', 'f', 'f', 'f', 'f', ':'] ++ (embedded high low).text
  | groups =>
      let run := longestZeroRun ⟨0, 0⟩ ⟨0, 0⟩ 0 groups
      if 1 < run.length then
        groupsText (groups.take run.start) ++ ':' :: ':' ::
          groupsText (groups.drop (run.start + run.length))
      else
        groupsText groups

def groupRule : Text.NumeralRule :=
  { base := 16, maxDigits := some 4, leadingZeros := true, limit := 65536 }

/-- A row of groups that has been read. -/
structure Row where
  groups : List UInt16
  /-- Do the last two groups come from an IPv4 address? -/
  endsInIPv4 : Bool
  rest : List Char

/-- Read up to `room` groups, each but the first of the row after a colon. An
    IPv4 address takes the room of two and ends the row. -/
def readRow : (room : Nat) → (first : Bool) → List Char → Row
  | 0, _, cs => ⟨[], false, cs⟩
  | room + 1, first, cs =>
      let body :=
        if first then some cs
        else
          match cs with
          | ':' :: rest => some rest
          | _ => none
      match body with
      | none => ⟨[], false, cs⟩
      | some body =>
          match if room = 0 then none else IPv4.read body with
          | some (ip, rest) => ⟨embeddingGroups ip, true, rest⟩
          | none =>
              match groupRule.read body with
              | none => ⟨[], false, cs⟩
              | some (group, rest) =>
                  let row := readRow room false rest
                  ⟨UInt16.ofNat group :: row.groups, row.endsInIPv4, row.rest⟩

def read (cs : List Char) : Option (IPv6 × List Char) :=
  let head := readRow 8 true cs
  if head.groups.length = 8 then
    (ofGroups? head.groups).map fun ip => (ip, head.rest)
  else if head.endsInIPv4 then none
  else
    match head.rest with
    | ':' :: ':' :: rest =>
        let tail := readRow (7 - head.groups.length) true rest
        let zeros := List.replicate (8 - head.groups.length - tail.groups.length) 0
        (ofGroups? (head.groups ++ zeros ++ tail.groups)).map fun ip => (ip, tail.rest)
    | _ => none

end IPv6

end ClusterLaunch
