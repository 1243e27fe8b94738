import ClusterLaunch.Proofs.Payload.Row
import ClusterLaunch.Toml.Document

/-! # Blank documents

Not every blank may stand in a TOML document. But where a document of nothing but blanks is read,
its table is empty.
-/

namespace ClusterLaunch.Toml

private theorem isBareKeyChar_of_isBlank {c : Char} (blank : Text.isBlank c = true) :
    isBareKeyChar c = false := by
  have named : isBareKeyChar c = (Field.isNameChar c || c == '-') := rfl
  rw [named, Bool.or_eq_false_iff, beq_eq_false_iff_ne]
  constructor
  · by_contra letter
    rw [Field.isBlank_of_isNameChar (Bool.of_not_eq_false letter)] at blank
    cases blank
  · rintro rfl
    cases blank

private theorem readName_of_isBlank {c : Char} (blank : Text.isBlank c = true) (rest : List Char) :
    readName (c :: rest) = none := by
  unfold readName
  split
  · next same =>
    cases same
    cases blank
  · next same =>
    cases same
    cases blank
  · rw [List.takeWhile_cons_of_neg (by simp [isBareKeyChar_of_isBlank blank])]

private theorem readPair_of_isBlank {c : Char} (blank : Text.isBlank c = true)
    (inner : isGap c = false) (rest : List Char) : readPair (c :: rest) = none := by
  have first : skipGap (c :: rest) = c :: rest := by simp [skipGap, inner]
  have key : readKey (c :: rest) = none := by
    rw [readKey, maxKeyLength, readNames, first, readName_of_isBlank blank]
    rfl
  rw [readPair, key]
  rfl

private theorem newline_suffix {cs rest : List Char} (found : newline? cs = some rest) :
    rest <:+ cs := by
  unfold newline? at found
  split at found
  · cases found
    exact List.suffix_cons _ _
  · cases found
    exact (List.suffix_cons _ _).trans (List.suffix_cons _ _)
  · cases found

theorem allBlank_of_suffix {cs rest : List Char} (behind : rest <:+ cs)
    (blank : Text.allBlank cs = true) : Text.allBlank rest = true := by
  unfold Text.allBlank at *
  rw [List.all_eq_true] at *
  intro c member
  exact blank c (behind.subset member)

theorem readLines_of_allBlank {fuel : Nat} {cs : List Char} {lines : List Line}
    (blank : Text.allBlank cs = true) (found : readLines fuel cs = some lines) : lines = [] := by
  induction fuel generalizing cs lines with
  | zero => cases found
  | succ fuel ih =>
      have left := allBlank_of_suffix (List.dropWhile_suffix isGap) blank
      rw [readLines] at found
      split at found
      · cases found
        rfl
      · next skipped =>
        rw [← skipGap, skipped] at left
        cases left
      · next skipped =>
        rw [← skipGap, skipped] at left
        cases left
      · next c rest _ _ skipped =>
        rw [← skipGap, skipped] at left
        split at found
        · obtain ⟨behind, ended, found⟩ := Option.bind_eq_some_iff.1 found
          exact ih (allBlank_of_suffix (newline_suffix ended) left) found
        · have solid : isGap c = false := Text.head_dropWhile c (by rw [← skipGap, skipped]; rfl)
          have first : Text.isBlank c = true := by
            rw [Text.allBlank, List.all_cons, Bool.and_eq_true] at left
            exact left.1
          rw [readPair_of_isBlank first solid] at found
          cases found

theorem read_of_allBlank {document : String} {table : Table}
    (blank : Text.allBlank document.toList = true) (parsed : read? document = some table) :
    table = [] := by
  have unmarked : skipByteOrderMark document.toList = document.toList := by
    unfold skipByteOrderMark
    split
    · next marked =>
      rw [marked] at blank
      cases blank
    · rfl
  obtain ⟨lines, read, parsed⟩ := Option.bind_eq_some_iff.1 parsed
  rw [unmarked] at read
  obtain rfl := readLines_of_allBlank blank read
  cases parsed
  rfl

end ClusterLaunch.Toml
