import ClusterLaunch.Address.IPv6
import ClusterLaunch.Proofs.Address.IPv4

/-! # IPv6 addresses read back

An address is read back from its text whichever form the text has: all groups, a double
colon for the longest run of zeros, or an embedded IPv4 address.
-/

namespace ClusterLaunch.IPv6

open Text

theorem isDigitOf_ten {c : Char} (h : isDigitOf 16 c = false) : isDigitOf 10 c = false := by
  unfold isDigitOf digitValue? at *
  dsimp only at *
  split_ifs at * <;> (simp_all; try omega)

def tailText (groups : List UInt16) : List Char :=
  groups.flatMap fun group => ':' :: Nat.toDigits 16 group.toNat

private theorem groupsText_cons (group : UInt16) (groups : List UInt16) :
    groupsText (group :: groups) = Nat.toDigits 16 group.toNat ++ tailText groups := by
  induction groups generalizing group with
  | nil => simp [groupsText, tailText]
  | cons next rest ih =>
      have more := ih next
      simp only [groupsText, List.map_cons, tailText, List.flatMap_cons] at more ⊢
      rw [List.intercalate_cons_cons, more]
      simp

/-- What stands behind a group cannot be taken for a part of it. -/
def GroupEnds (left : List Char) : Prop :=
  ∀ c ∈ left.head?, isDigitOf 16 c = false ∧ c ≠ '.'

theorem groupEnds_colon (more : List Char) : GroupEnds (':' :: more) := by
  rintro c ⟨⟩
  decide

theorem groupEnds_tailText {left : List Char} (ends : GroupEnds left) (groups : List UInt16) :
    GroupEnds (tailText groups ++ left) := by
  cases groups with
  | nil => exact ends
  | cons group rest => exact groupEnds_colon _

private theorem readIPv4_group (n : Nat) {left : List Char} (ends : GroupEnds left) :
    IPv4.read (Nat.toDigits 16 n ++ left) = none := by
  apply IPv4.read_eq_none
  rw [List.dropWhile_append]
  split
  · intro point
    have stop : left.dropWhile (isDigitOf 10) = left := by
      cases left with
      | nil => rfl
      | cons c more => simp [isDigitOf_ten (ends c rfl).1]
    rw [stop] at point
    exact (ends '.' point).2 rfl
  · next further =>
    intro point
    obtain ⟨c, rest, remaining⟩ :=
      List.exists_cons_of_ne_nil fun empty => further (List.isEmpty_iff.2 empty)
    rw [remaining] at point
    have inside : c ∈ Nat.toDigits 16 n :=
      (List.dropWhile_sublist _).subset (remaining ▸ List.mem_cons_self ..)
    have digit : isDigitOf 16 c = true := isDigitOf_toDigits (by decide) (by decide) n c inside
    cases point
    cases digit

private theorem readGroup_toDigits (group : UInt16) {left : List Char} (ends : GroupEnds left) :
    groupRule.read (Nat.toDigits 16 group.toNat ++ left) = some (group.toNat, left) :=
  NumeralRule.read_toDigits (by decide) (by decide) group.toNat_lt
    (by simpa [groupRule] using group.toNat_lt) (fun c member => (ends c member).1)

theorem readRow_group (room : Nat) (first : Bool) (group : UInt16) {left : List Char}
    (ends : GroupEnds left) :
    readRow (room + 1) first ((if first then [] else [':']) ++ (Nat.toDigits 16 group.toNat ++ left)) =
      ⟨group :: (readRow room false left).groups, (readRow room false left).endsInIPv4,
        (readRow room false left).rest⟩ := by
  have noIPv4 : (if room = 0 then none
      else IPv4.read (Nat.toDigits 16 group.toNat ++ left)) = none := by
    rw [readIPv4_group _ ends, ite_self]
  cases first <;> simp [readRow, noIPv4, readGroup_toDigits group ends]

theorem read_digitless {left : List Char} (digitless : ∀ c ∈ left.head?, isDigitOf 16 c = false) :
    IPv4.read left = none ∧ groupRule.read left = none := by
  have noOctet : IPv4.octetRule.read left = none :=
    NumeralRule.read_eq_none fun c member => isDigitOf_ten (digitless c member)
  refine ⟨?_, NumeralRule.read_eq_none digitless⟩
  unfold IPv4.read
  rw [noOctet]
  rfl

theorem readRow_stops_first (room : Nat) {left : List Char}
    (digitless : ∀ c ∈ left.head?, isDigitOf 16 c = false) :
    readRow room true left = ⟨[], false, left⟩ := by
  cases room with
  | zero => rfl
  | succ room =>
      obtain ⟨noIPv4, noGroup⟩ := read_digitless digitless
      simp [readRow, noIPv4, noGroup]

theorem readRow_stops_next (room : Nat) {left : List Char}
    (digitless : ∀ more, left = ':' :: more → ∀ c ∈ more.head?, isDigitOf 16 c = false) :
    readRow room false left = ⟨[], false, left⟩ := by
  cases room with
  | zero => rfl
  | succ room =>
      by_cases colon : left.head? = some ':'
      · obtain ⟨more, rfl⟩ := List.head?_eq_some_iff.1 colon
        obtain ⟨noIPv4, noGroup⟩ := read_digitless (digitless more rfl)
        simp [readRow, noIPv4, noGroup]
      · cases left with
        | nil => rfl
        | cons c more =>
            have other : c ≠ ':' := fun same => colon (by rw [same]; rfl)
            unfold readRow
            simp [other]

private theorem readRow_tailText {room : Nat} {groups : List UInt16} {left : List Char}
    (fits : groups.length ≤ room) (ends : GroupEnds left)
    (stops : readRow (room - groups.length) false left = ⟨[], false, left⟩) :
    readRow room false (tailText groups ++ left) = ⟨groups, false, left⟩ := by
  induction groups generalizing room with
  | nil => simpa [tailText] using stops
  | cons group rest ih =>
      simp only [List.length_cons] at fits stops
      obtain ⟨room, rfl⟩ : ∃ smaller, room = smaller + 1 := ⟨room - 1, by omega⟩
      have others : readRow room false (tailText rest ++ left) = ⟨rest, false, left⟩ :=
        ih (by omega) (by simpa using stops)
      have one := readRow_group room false group (groupEnds_tailText ends rest)
      rw [others] at one
      simpa [tailText] using one

theorem readRow_groupsText {room : Nat} {groups : List UInt16} {left : List Char}
    (fits : groups.length ≤ room) (ends : GroupEnds left)
    (stops : readRow (room - groups.length) false left = ⟨[], false, left⟩) :
    readRow room true (groupsText groups ++ left) = ⟨groups, false, left⟩ := by
  cases groups with
  | nil => exact readRow_stops_first room fun c member => (ends c member).1
  | cons group rest =>
      simp only [List.length_cons] at fits stops
      obtain ⟨room, rfl⟩ : ∃ smaller, room = smaller + 1 := ⟨room - 1, by omega⟩
      have others : readRow room false (tailText rest ++ left) = ⟨rest, false, left⟩ :=
        readRow_tailText (by omega) ends (by simpa using stops)
      have one := readRow_group room true group (groupEnds_tailText ends rest)
      rw [others] at one
      rw [groupsText_cons, List.append_assoc]
      exact one

private theorem group_of_bytes (group : UInt16) :
    (group >>> 8).toUInt8.toUInt16 <<< 8 ||| group.toUInt8.toUInt16 = group := by
  apply UInt16.toNat_inj.1
  have small := group.toNat_lt
  have low : group.toNat % 256 < 2 ^ 8 := Nat.mod_lt _ (by decide)
  have high : group.toNat >>> 8 % 256 = group.toNat / 256 := by
    rw [Nat.shiftRight_eq_div_pow]
    omega
  have fits : group.toNat / 256 * 2 ^ 8 < 65536 := by omega
  simp only [UInt16.toNat_or, UInt16.toNat_shiftLeft, UInt8.toNat_toUInt16, UInt16.toNat_toUInt8,
    UInt16.toNat_shiftRight, UInt16.reduceToNat, Nat.reduceMod, Nat.reducePow]
  rw [high, Nat.shiftLeft_eq, Nat.mod_eq_of_lt fits, ← Nat.shiftLeft_eq,
    ← Nat.shiftLeft_add_eq_or_of_lt low, Nat.shiftLeft_eq]
  omega

private theorem embeddingGroups_embedded (high low : UInt16) :
    embeddingGroups (embedded high low) = [high, low] := by
  simp only [embeddingGroups, embedded, group_of_bytes]

private theorem readRow_embedded (room : Nat) (high low : UInt16) {left : List Char}
    (ends : ∀ c ∈ left.head?, isDigitOf 10 c = false) :
    readRow (room + 2) false (':' :: ((embedded high low).text ++ left)) =
      ⟨[high, low], true, left⟩ := by
  simp [readRow, IPv4.read_text _ ends, embeddingGroups_embedded]

/-- A run of zeros stands among the groups where it says. -/
def ZeroRun.StandsIn (run : ZeroRun) (groups : List UInt16) : Prop :=
  ∃ before behind, groups = before ++ (List.replicate run.length 0 ++ behind) ∧
    before.length = run.start

/-- A run of zeros that is not empty is the end of the groups. -/
def ZeroRun.Ends (run : ZeroRun) (groups : List UInt16) : Prop :=
  run.length ≠ 0 → ∃ before, groups = before ++ List.replicate run.length 0 ∧
    before.length = run.start

theorem longestZeroRun_standsIn {longest current : ZeroRun} {done rest : List UInt16}
    (stands : longest.StandsIn (done ++ rest)) (ends : current.Ends done) :
    (longestZeroRun longest current done.length rest).StandsIn (done ++ rest) := by
  induction rest generalizing longest current done with
  | nil => exact stands
  | cons group rest ih =>
      rw [List.append_cons] at stands ⊢
      have further : done.length + 1 = (done ++ [group]).length := by simp
      unfold longestZeroRun
      dsimp only
      rw [further]
      split
      · next zero =>
        subst zero
        generalize longer : (if current.length = 0 then (⟨done.length, 1⟩ : ZeroRun)
          else ⟨current.start, current.length + 1⟩) = next
        obtain ⟨before, same, start⟩ : ∃ before,
            done ++ [0] = before ++ List.replicate next.length 0 ∧ before.length = next.start := by
          subst longer
          split
          · exact ⟨done, rfl, rfl⟩
          · next open' =>
            obtain ⟨before, same, start⟩ := ends open'
            exact ⟨before, by simp [same, List.replicate_succ'], start⟩
        refine ih ?_ fun _ => ⟨before, same, start⟩
        split
        · exact ⟨before, rest, by rw [same, List.append_assoc], start⟩
        · exact stands
      · exact ih stands (absurd rfl)

/-- What stands behind an address cannot be taken for a part of it. -/
def Ends (left : List Char) : Prop :=
  ∀ c ∈ left.head?, isDigitOf 16 c = false ∧ c ≠ '.' ∧ c ≠ ':'

theorem groupEnds_of_ends {left : List Char} (ends : Ends left) : GroupEnds left :=
  fun c member => ⟨(ends c member).1, (ends c member).2.1⟩

theorem readRow_stops_of_ends (room : Nat) {left : List Char} (ends : Ends left) :
    readRow room false left = ⟨[], false, left⟩ := by
  apply readRow_stops_next
  rintro more rfl
  exact absurd rfl (ends ':' rfl).2.2

theorem ofGroups?_groups (ip : IPv6) : ofGroups? ip.groups = some ip := by
  simp [ofGroups?, ip.length_groups]

private theorem read_groupsText (ip : IPv6) {left : List Char} (ends : Ends left) :
    read (groupsText ip.groups ++ left) = some (ip, left) := by
  have row : readRow 8 true (groupsText ip.groups ++ left) = ⟨ip.groups, false, left⟩ :=
    readRow_groupsText ip.length_groups.le (groupEnds_of_ends ends)
      (readRow_stops_of_ends _ ends)
  simp [read, row, ip.length_groups, ofGroups?_groups]

theorem read_compressed (ip : IPv6) {before behind : List UInt16} {zeros : Nat}
    (whole : ip.groups = before ++ (List.replicate zeros 0 ++ behind)) (long : 1 < zeros)
    {left : List Char} (ends : Ends left) :
    read (groupsText before ++ ':' :: ':' :: (groupsText behind ++ left)) = some (ip, left) := by
  have count := ip.length_groups
  rw [whole] at count
  simp only [List.length_append, List.length_replicate] at count
  have head : readRow 8 true (groupsText before ++ ':' :: ':' :: (groupsText behind ++ left)) =
      ⟨before, false, ':' :: ':' :: (groupsText behind ++ left)⟩ := by
    refine readRow_groupsText (by omega) (groupEnds_colon _) (readRow_stops_next _ ?_)
    rintro more ⟨⟩ c ⟨⟩
    decide
  have tail : readRow (7 - before.length) true (groupsText behind ++ left) =
      ⟨behind, false, left⟩ :=
    readRow_groupsText (by omega) (groupEnds_of_ends ends) (readRow_stops_of_ends _ ends)
  have rest : 8 - before.length - behind.length = zeros := by omega
  have short : before.length ≠ 8 := by omega
  have same : ofGroups? (before ++ List.replicate zeros 0 ++ behind) = some ip := by
    rw [List.append_assoc, ← whole, ofGroups?_groups]
  simp [read, head, tail, short, rest, -List.append_assoc, same]

theorem read_mapped (ip : IPv6) {high low : UInt16}
    (whole : ip.groups = [0, 0, 0, 0, 0, 0xFFFF, high, low]) {left : List Char}
    (ends : Ends left) :
    read ([':', ':', 'f', 'f', 'f', 'f', ':'] ++ (embedded high low).text ++ left) =
      some (ip, left) := by
  have colons : ∀ more, readRow 8 true (':' :: more) = ⟨[], false, ':' :: more⟩ := by
    intro more
    apply readRow_stops_first
    rintro c ⟨⟩
    decide
  have ipv4 := readRow_embedded 4 high low fun c member => isDigitOf_ten (ends c member).1
  have tail := readRow_group 6 true 0xFFFF (groupEnds_colon ((embedded high low).text ++ left))
  rw [ipv4] at tail
  have same : ofGroups? [0, 0, 0, 0, 0, 0xFFFF, high, low] = some ip := by
    rw [← whole, ofGroups?_groups]
  have digits : Nat.toDigits 16 (0xFFFF : UInt16).toNat = ['f', 'f', 'f', 'f'] := by decide
  simp only [digits, if_true, List.nil_append, List.cons_append] at tail
  simp [read, colons, tail, same]

theorem read_text (ip : IPv6) {left : List Char} (ends : Ends left) :
    read (ip.text ++ left) = some (ip, left) := by
  unfold text
  split
  · next whole => exact read_mapped ip whole ends
  · dsimp only
    split
    · next long =>
      have stands : (longestZeroRun ⟨0, 0⟩ ⟨0, 0⟩ 0 ip.groups).StandsIn ip.groups :=
        @longestZeroRun_standsIn _ _ [] _ ⟨[], ip.groups, rfl, rfl⟩ (absurd rfl)
      obtain ⟨before, behind, whole, start⟩ := stands
      generalize longestZeroRun ⟨0, 0⟩ ⟨0, 0⟩ 0 ip.groups = run at long whole start ⊢
      have front : ip.groups.take run.start = before := by
        rw [whole, ← start, List.take_left]
      have back : ip.groups.drop (run.start + run.length) = behind := by
        rw [whole, ← start, ← List.drop_drop, List.drop_left]
        simp
      rw [front, back, List.append_assoc]
      exact read_compressed ip whole long ends
    · exact read_groupsText ip ends

end ClusterLaunch.IPv6
