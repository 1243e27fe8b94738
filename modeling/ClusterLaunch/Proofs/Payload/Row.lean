import ClusterLaunch.Payload.Field
import ClusterLaunch.Proofs.Attempt
import ClusterLaunch.Proofs.Text.Numeral

/-! # The grammar of a row of fields

The texts that a reader of fields accepts, by rules: how a quoted value is escaped, how a
value and a field are spelled, and how fields stand in a row. The main result is that the
reader finds fields and no fault exactly in the texts of the grammar.
-/

namespace ClusterLaunch

open Text

namespace Field

theorem isBlank_of_isNameChar {c : Char} (h : isNameChar c = true) : isBlank c = false := by
  have classes : isNameChar c = (((decide (65 ≤ c.val ∧ c.val ≤ 90) ||
      (decide (97 ≤ c.val) && decide (c.val ≤ 122))) ||
      (decide (48 ≤ c.val) && decide (c.val ≤ 57))) || c == '_') := rfl
  have code : (48 ≤ c.toNat ∧ c.toNat ≤ 57) ∨ (65 ≤ c.toNat ∧ c.toNat ≤ 90) ∨
      (97 ≤ c.toNat ∧ c.toNat ≤ 122) ∨ c.toNat = 95 := by
    simp only [classes, Bool.or_eq_true, Bool.and_eq_true, decide_eq_true_eq, beq_iff_eq,
      UInt32.le_iff_toNat_le] at h
    rcases h with ((h | h) | h) | rfl
    · exact .inr (.inl h)
    · exact .inr (.inr (.inl h))
    · exact .inl h
    · decide
  simp only [isBlank, Bool.or_eq_false_iff, Bool.and_eq_false_iff, decide_eq_false_iff_not,
    beq_eq_false_iff_ne]
  omega

private theorem isNameChar_colon : isNameChar ':' = false := by decide

theorem isBlank_of_isQuote {c : Char} (h : isQuote c = true) : isBlank c = false := by
  simp only [isQuote, Bool.or_eq_true, beq_iff_eq] at h
  rcases h with rfl | rfl <;> decide

theorem ne_backslash_of_isQuote {c : Char} (h : isQuote c = true) : c ≠ '\\' := by
  rintro rfl
  cases h

end Field

/-- Text between two quotes and the value it stands for: a backslash makes the next
    character literal, and no other quote of the same kind occurs. -/
inductive Unescapes (quote : Char) : List Char → List Char → Prop where
  | nil : Unescapes quote [] []
  | plain {c : Char} {raw value : List Char} (unescaped : c ≠ '\\') (inside : c ≠ quote)
      (more : Unescapes quote raw value) : Unescapes quote (c :: raw) (c :: value)
  | escaped {c : Char} {raw value : List Char} (more : Unescapes quote raw value) :
      Unescapes quote ('\\' :: c :: raw) (c :: value)

namespace Field

theorem readQuoted_plain {quote c : Char} (unescaped : c ≠ '\\') (rest : List Char) :
    readQuoted quote (c :: rest) =
      if c = quote then some ([], rest)
      else (readQuoted quote rest).map fun (value, left) => (c :: value, left) := by
  rw [readQuoted.eq_4]
  · exact fun same => absurd same unescaped
  · exact fun _ _ same => absurd same unescaped

/-- The reader finds the end of quoted text and unescapes what stands before it. -/
theorem readQuoted_eq_some_iff {quote : Char} (h : quote ≠ '\\')
    {text value left : List Char} :
    readQuoted quote text = some (value, left) ↔
      ∃ raw, text = raw ++ quote :: left ∧ Unescapes quote raw value := by
  constructor
  · intro read
    fun_induction readQuoted quote text generalizing value left with
    | case1 | case2 => cases read
    | case3 c rest ih =>
        obtain ⟨⟨v, l⟩, found, same⟩ := Option.map_eq_some_iff.1 read
        cases same
        obtain ⟨raw, rfl, unescapes⟩ := ih found
        exact ⟨'\\' :: c :: raw, rfl, .escaped unescapes⟩
    | case4 rest =>
        cases read
        exact ⟨[], rfl, .nil⟩
    | case5 c rest single double inside ih =>
        obtain ⟨⟨v, l⟩, found, same⟩ := Option.map_eq_some_iff.1 read
        cases same
        obtain ⟨raw, rfl, unescapes⟩ := ih found
        refine ⟨c :: raw, rfl, .plain ?_ inside unescapes⟩
        rintro rfl
        cases hraw : raw ++ quote :: left with
        | nil => simp at hraw
        | cons d more => exact double d more rfl hraw
  · rintro ⟨raw, rfl, unescapes⟩
    induction unescapes with
    | nil => rw [List.nil_append, readQuoted_plain h, if_pos rfl]
    | plain unescaped inside _ ih =>
        rw [List.cons_append, readQuoted_plain unescaped, if_neg inside, ih]
        rfl
    | escaped _ ih =>
        simp only [List.cons_append, readQuoted, ih]
        rfl

end Field

namespace FieldValue

/-- How a value is spelled: between quotes, or bare, without blanks and without a quote at
    the front. -/
inductive Spelled : List Char → FieldValue → Prop where
  | quoted {quote : Char} {raw value : List Char} (opens : Field.isQuote quote = true)
      (unescapes : Unescapes quote raw value) :
      Spelled (quote :: raw ++ [quote]) (.quoted (String.ofList value))
  | bare {first : Char} {rest : List Char} (unquoted : Field.isQuote first = false)
      (solid : ∀ c ∈ first :: rest, isBlank c = false) :
      Spelled (first :: rest) (.bare (String.ofList (first :: rest)))

def isBare : FieldValue → Bool
  | quoted _ => false
  | bare _ => true

/-- A bare value ends at a blank or with the text. -/
def EndsAt (value : FieldValue) (left : List Char) : Prop :=
  value.isBare = true → ∀ c ∈ left.head?, isBlank c = true

theorem Spelled.head {text : List Char} {value : FieldValue} (h : value.Spelled text) :
    ∃ first rest, text = first :: rest ∧ isBlank first = false := by
  cases h with
  | quoted opens => exact ⟨_, _, rfl, Field.isBlank_of_isQuote opens⟩
  | bare _ solid => exact ⟨_, _, rfl, solid _ (List.mem_cons_self ..)⟩

end FieldValue

/-- How a field is spelled: its name, a colon directly behind it, and after any blanks its
    value. -/
inductive Field.Spelled : List Char → Field → Prop where
  | mk {name gap text : List Char} {value : FieldValue} (named : name ≠ [])
      (letters : ∀ c ∈ name, Field.isNameChar c = true) (blank : ∀ c ∈ gap, isBlank c = true)
      (spelled : value.Spelled text) :
      Spelled (name ++ ':' :: (gap ++ text)) ⟨String.ofList name, value⟩

namespace Field

theorem Spelled.head {text : List Char} {field : Field} (h : field.Spelled text) :
    ∃ first rest, text = first :: rest ∧ isBlank first = false := by
  obtain ⟨named, letters, -, -⟩ := h
  obtain ⟨first, rest, rfl⟩ := List.exists_cons_of_ne_nil named
  exact ⟨first, _, rfl, isBlank_of_isNameChar (letters first (List.mem_cons_self ..))⟩

theorem Spelled.three_le_length {text : List Char} {field : Field} (h : field.Spelled text) :
    3 ≤ text.length := by
  obtain ⟨named, -, -, spelled⟩ := h
  obtain ⟨first, rest, rfl⟩ := List.exists_cons_of_ne_nil named
  obtain ⟨first', rest', rfl, -⟩ := spelled.head
  simp only [List.length_append, List.length_cons]
  omega

theorem forall_isBlank_of_skipBlank {text : List Char} (skipped : skipBlank text = []) :
    ∀ c ∈ text, isBlank c = true := by
  simpa [skipBlank_eq_nil_iff, allBlank] using skipped

theorem skipBlank_append {gap text : List Char} (blank : ∀ c ∈ gap, isBlank c = true)
    (solid : ∀ c ∈ text.head?, isBlank c = false) : skipBlank (gap ++ text) = text :=
  (span_run blank solid).2

/-- The reader finds the value of the grammar that stands in front, after any blanks. -/
theorem readValue_eq_ok_iff {name : String} {text left : List Char} {value : FieldValue} :
    readValue name text = .ok (value, left) ↔
      ∃ gap front, text = gap ++ (front ++ left) ∧ (∀ c ∈ gap, isBlank c = true) ∧
        value.Spelled front ∧ value.EndsAt left := by
  constructor
  · intro read
    have whole : text = text.takeWhile isBlank ++ skipBlank text :=
      (List.takeWhile_append_dropWhile).symm
    refine ⟨text.takeWhile isBlank, ?_⟩
    unfold readValue at read
    split at read
    · cases read
    · next first rest skipped =>
      rw [skipped] at whole
      split at read
      · next opens =>
        split at read
        · next v l found =>
          cases read
          obtain ⟨raw, rfl, unescapes⟩ :=
            (readQuoted_eq_some_iff (ne_backslash_of_isQuote opens)).1 found
          exact ⟨first :: raw ++ [first], by simpa using whole, inside_takeWhile,
            .quoted opens unescapes, nofun⟩
        · cases read
      · next unquoted =>
        cases read
        have solid := isBlank_head_skipBlank skipped
        have run : (first :: rest).takeWhile (fun c => !isBlank c) =
            first :: rest.takeWhile fun c => !isBlank c := by simp [solid]
        refine ⟨(first :: rest).takeWhile fun c => !isBlank c, ?_, inside_takeWhile, ?_, ?_⟩
        · rwa [List.takeWhile_append_dropWhile]
        · have inside : ∀ c ∈ (first :: rest).takeWhile (fun c => !isBlank c), isBlank c = false := by
            intro c member
            simpa using inside_takeWhile c member
          rw [run] at inside ⊢
          exact .bare (by simpa using unquoted) inside
        · intro _ c member
          simpa using head_dropWhile c member
  · rintro ⟨gap, front, rfl, blank, spelled, ends⟩
    have skipped : skipBlank (gap ++ (front ++ left)) = front ++ left := by
      obtain ⟨first, rest, rfl, solid⟩ := spelled.head
      exact skipBlank_append blank (by simpa using solid)
    unfold readValue
    rw [skipped]
    cases spelled with
    | @quoted quote raw value opens unescapes =>
        have found : readQuoted quote (raw ++ quote :: left) = some (value, left) :=
          (readQuoted_eq_some_iff (ne_backslash_of_isQuote opens)).2 ⟨raw, rfl, unescapes⟩
        simp [opens, found]
    | @bare first rest unquoted solid =>
        have inside : ∀ c ∈ first :: rest, (!isBlank c) = true := by simpa using solid
        have outside : ∀ c ∈ left.head?, (!isBlank c) = false := by simpa using ends rfl
        obtain ⟨run, behind⟩ := span_run inside outside
        rw [List.cons_append] at run behind ⊢
        simp only [unquoted, Bool.false_eq_true, if_false, run, behind]

theorem read_eq_ok_iff {text left : List Char} {field : Field} :
    read text = .ok (field, left) ↔
      ∃ front, text = front ++ left ∧ field.Spelled front ∧ field.value.EndsAt left := by
  constructor
  · intro found
    have whole := List.takeWhile_append_dropWhile (p := isNameChar) (l := text)
    unfold read at found
    split at found
    · cases found
    · next named =>
      split at found
      · next rest behind =>
        obtain ⟨⟨value, l⟩, valued, same⟩ := map_eq_ok_iff.1 found
        cases same
        obtain ⟨gap, front, rfl, blank, spelled, ends⟩ := readValue_eq_ok_iff.1 valued
        rw [behind] at whole
        refine ⟨text.takeWhile isNameChar ++ ':' :: (gap ++ front), by simpa using whole.symm,
          .mk (by simpa using named) inside_takeWhile blank spelled, ends⟩
      · cases found
  · rintro ⟨front, rfl, spelled, ends⟩
    cases spelled with
    | @mk name gap valueText value named letters blank spelled =>
        have valued : readValue (String.ofList name) (gap ++ (valueText ++ left)) =
            .ok (value, left) := readValue_eq_ok_iff.2 ⟨gap, valueText, rfl, blank, spelled, ends⟩
        have colon : ∀ c ∈ (':' :: (gap ++ (valueText ++ left))).head?, isNameChar c = false := by
          simp [isNameChar_colon]
        obtain ⟨run, behind⟩ := span_run letters colon
        unfold read
        simp only [List.append_assoc, List.cons_append, run, behind, valued,
          List.isEmpty_iff, named, if_false]
        rfl

theorem exists_front_of_read {text rest left : List Char} {first : Char} {field : Field}
    (skipped : skipBlank text = first :: rest) (found : read (first :: rest) = .ok (field, left)) :
    ∃ gap front, text = gap ++ front ++ left ∧ (∀ c ∈ gap, isBlank c = true) ∧
      field.Spelled front ∧ field.value.EndsAt left := by
  obtain ⟨front, start, spelled, ends⟩ := read_eq_ok_iff.1 found
  refine ⟨text.takeWhile isBlank, front, ?_, inside_takeWhile, spelled, ends⟩
  rw [List.append_assoc, ← start, ← skipped]
  exact List.takeWhile_append_dropWhile.symm

end Field

/-- How a row of fields is spelled, with blanks anywhere around its fields. A bare value has
    a blank behind it if another field follows; a quoted one needs none. -/
inductive RowSpelled : List Char → List Field → Prop where
  | done {gap : List Char} (blank : ∀ c ∈ gap, isBlank c = true) : RowSpelled gap []
  | field {gap text rest : List Char} {field : Field} {fields : List Field}
      (blank : ∀ c ∈ gap, isBlank c = true) (spelled : field.Spelled text)
      (apart : field.value.isBare = true → fields ≠ [] →
        ∃ c behind, rest = c :: behind ∧ isBlank c = true)
      (more : RowSpelled rest fields) : RowSpelled (gap ++ text ++ rest) (field :: fields)

namespace Field

theorem row_blank {gap : List Char} (blank : ∀ c ∈ gap, isBlank c = true) : row gap = [] := by
  have nothing : skipBlank gap = [] := by
    simpa [skipBlank_eq_nil_iff, allBlank] using blank
  rw [row]
  split
  · rfl
  · next skipped =>
    rw [nothing] at skipped
    cases skipped

theorem row_eq {text : List Char} {first : Char} {rest : List Char}
    (skipped : skipBlank text = first :: rest) :
    row text =
      match read (first :: rest) with
      | .error fault => [.error fault]
      | .ok (field, left) => .ok field :: row left := by
  rw [row]
  split
  · next nothing =>
    rw [nothing] at skipped
    cases skipped
  · next same =>
    rw [skipped] at same
    cases same
    split
    · next found => rw [found]
    · next found => rw [found]

private theorem endsAt_of_row {value : FieldValue} {rest : List Char} {fields : List Field}
    (apart : value.isBare = true → fields ≠ [] → ∃ c behind, rest = c :: behind ∧ isBlank c = true)
    (more : RowSpelled rest fields) : value.EndsAt rest := by
  intro bare c member
  cases more with
  | done blank => exact blank c (List.mem_of_mem_head? member)
  | field =>
      obtain ⟨d, behind, same, blank⟩ := apart bare (List.cons_ne_nil _ _)
      rw [same] at member
      cases member
      exact blank

theorem row_eq_map_ok_iff {text : List Char} {fields : List Field} :
    row text = fields.map .ok ↔ RowSpelled text fields := by
  constructor
  · intro found
    fun_induction row text generalizing fields with
    | case1 text skipped =>
        cases fields with
        | nil => exact .done (forall_isBlank_of_skipBlank skipped)
        | cons => cases found
    | case2 text first rest skipped fault faulty =>
        cases fields with
        | nil => cases found
        | cons => cases found
    | case3 text first rest skipped field left taken ih =>
        cases fields with
        | nil => cases found
        | cons field' fields =>
            simp only [List.map_cons, List.cons.injEq, Except.ok.injEq] at found
            obtain ⟨rfl, others⟩ := found
            obtain ⟨gap, front, rfl, blank, spelled, ends⟩ := exists_front_of_read skipped taken
            refine .field blank spelled ?_ (ih others)
            intro bare further
            cases left with
            | nil =>
                have nothing : row [] = [] := row_blank (by simp)
                rw [nothing] at others
                exact absurd (List.map_eq_nil_iff.1 others.symm) further
            | cons c behind => exact ⟨c, behind, rfl, ends bare c rfl⟩
  · intro spelled
    induction spelled with
    | done blank => exact row_blank blank
    | @field gap text rest field fields blank spelled apart more ih =>
        obtain ⟨first, tail, start, solid⟩ := spelled.head
        have skipped : skipBlank (gap ++ text ++ rest) = first :: (tail ++ rest) := by
          rw [List.append_assoc, skipBlank_append blank (by simp [start, solid]), start]
          rfl
        have taken : read (first :: (tail ++ rest)) = .ok (field, rest) :=
          read_eq_ok_iff.2 ⟨text, by simp [start], spelled, endsAt_of_row apart more⟩
        rw [row_eq skipped, taken]
        exact congrArg (.ok field :: ·) ih

end Field

end ClusterLaunch
