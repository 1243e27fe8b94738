/-! # Blank characters

What counts as blank between the fields of a configuration text and around a
configuration document: the Unicode property `White_Space`, not just its ASCII
part. The small laws below say how runs of blanks are skipped.
-/

namespace ClusterLaunch.Text

/-- The characters with the Unicode property `White_Space`. -/
def isBlank (c : Char) : Bool :=
  let n := c.toNat
  (9 ≤ n && n ≤ 13) || n == 0x20 || n == 0x85 || n == 0xA0 || n == 0x1680 ||
    (0x2000 ≤ n && n ≤ 0x200A) || n == 0x2028 || n == 0x2029 || n == 0x202F ||
    n == 0x205F || n == 0x3000

def skipBlank (cs : List Char) : List Char :=
  cs.dropWhile isBlank

def allBlank (cs : List Char) : Bool :=
  cs.all isBlank

theorem length_skipBlank_le (cs : List Char) : (skipBlank cs).length ≤ cs.length :=
  (List.dropWhile_suffix isBlank).length_le

theorem isBlank_head_skipBlank {cs : List Char} {c : Char} {rest : List Char}
    (h : skipBlank cs = c :: rest) : isBlank c = false := by
  induction cs with
  | nil => cases h
  | cons d ds ih =>
      unfold skipBlank at h ih
      by_cases hd : isBlank d = true
      · exact ih (by simpa [List.dropWhile_cons, hd] using h)
      · rw [List.dropWhile_cons, if_neg hd] at h
        cases h
        simpa using hd

theorem skipBlank_eq_nil_iff {cs : List Char} : skipBlank cs = [] ↔ allBlank cs = true := by
  induction cs with
  | nil => simp [skipBlank, allBlank]
  | cons c cs ih =>
      unfold skipBlank allBlank at *
      by_cases hc : isBlank c = true
      · rw [List.dropWhile_cons, if_pos hc, List.all_cons, hc, Bool.true_and]
        exact ih
      · simp [hc]

end ClusterLaunch.Text
