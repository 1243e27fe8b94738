import ClusterLaunch.Proofs.Payload.FirstFault

/-! # One field after the other

A row of fields is read in rounds, of which each takes one field off the front of the text. Here a
reader is asked for one field at a time, and what it yields until it comes to an end is shown to be
the row. Every field takes three characters at least, which is why there is an end, and no field
reaches over a blank behind the text before it, which is why rows can be put together.
-/

namespace ClusterLaunch

open Text

/-- Where a reader of fields stands between two rounds. -/
inductive FieldReader where
  | reading (text : List Char)
  /-- A fault was the last thing it yielded. -/
  | failed

namespace FieldReader

/-- One round: what the reader yields, if anything, and where it stands then. -/
def next : FieldReader → Option (Except FieldFault Field × FieldReader)
  | failed => none
  | reading text =>
      match skipBlank text with
      | [] => none
      | first :: rest =>
          match Field.read (first :: rest) with
          | .error fault => some (.error fault, failed)
          | .ok (field, left) => some (.ok field, reading left)

/-- What the reader is still to yield. -/
def row : FieldReader → List (Except FieldFault Field)
  | reading text => Field.row text
  | failed => []

theorem next_of_blank {text : List Char} (blank : skipBlank text = []) :
    (reading text).next = none := by
  simp only [next, blank]

theorem next_of_cons {text rest : List Char} {first : Char}
    (skipped : skipBlank text = first :: rest) :
    (reading text).next =
      match Field.read (first :: rest) with
      | .error fault => some (.error fault, failed)
      | .ok (field, left) => some (.ok field, reading left) := by
  simp only [next, skipped]

theorem row_eq_next (reader : FieldReader) :
    reader.row =
      match reader.next with
      | none => []
      | some (item, after) => item :: after.row := by
  cases reader with
  | failed => rfl
  | reading text =>
      cases skipped : skipBlank text with
      | nil =>
          rw [next_of_blank skipped]
          exact Field.row_blank (Field.forall_isBlank_of_skipBlank skipped)
      | cons first rest =>
          rw [next_of_cons skipped, row, Field.row_eq skipped]
          cases Field.read (first :: rest) <;> rfl

/-- What a round can come to. -/
inductive Round : FieldReader → Except FieldFault Field → FieldReader → Prop where
  | faulty {text rest : List Char} {first : Char} {fault : FieldFault}
      (skipped : skipBlank text = first :: rest)
      (refused : Field.read (first :: rest) = .error fault) :
      Round (reading text) (.error fault) failed
  | field {text rest left : List Char} {first : Char} {field : Field}
      (skipped : skipBlank text = first :: rest)
      (found : Field.read (first :: rest) = .ok (field, left)) :
      Round (reading text) (.ok field) (reading left)

theorem round_of_next {reader after : FieldReader} {item : Except FieldFault Field}
    (yields : reader.next = some (item, after)) : Round reader item after := by
  cases reader with
  | failed => cases yields
  | reading text =>
      cases skipped : skipBlank text with
      | nil =>
          rw [next_of_blank skipped] at yields
          cases yields
      | cons first rest =>
          rw [next_of_cons skipped] at yields
          cases found : Field.read (first :: rest) with
          | error fault =>
              rw [found] at yields
              cases yields
              exact .faulty skipped found
          | ok taken =>
              rw [found] at yields
              cases yields
              exact .field skipped found

/-- A round that yields a field takes it off the front, with any blanks before it. -/
theorem Round.takes {text : List Char} {field : Field} {after : FieldReader}
    (round : Round (reading text) (.ok field) after) :
    ∃ taken left, after = reading left ∧ text = taken ++ left ∧ 3 ≤ taken.length := by
  cases round with
  | @field _ rest left first _ skipped found =>
      obtain ⟨gap, front, rfl, -, spelled, -⟩ := Field.exists_front_of_read skipped found
      refine ⟨gap ++ front, left, rfl, rfl, ?_⟩
      have room := spelled.three_le_length
      rw [List.length_append]
      omega

/-- Several rounds in a row: what they yield, and where the reader stands then. -/
inductive Yields : FieldReader → List (Except FieldFault Field) → FieldReader → Prop where
  | rest {reader : FieldReader} : Yields reader [] reader
  | more {reader after last : FieldReader} {item : Except FieldFault Field}
      {items : List (Except FieldFault Field)} (round : reader.next = some (item, after))
      (rounds : Yields after items last) : Yields reader (item :: items) last

namespace Yields

theorem row_eq {reader last : FieldReader} {items : List (Except FieldFault Field)}
    (h : Yields reader items last) : reader.row = items ++ last.row := by
  induction h with
  | rest => rfl
  | more round _ ih =>
      rw [row_eq_next, round, List.cons_append]
      exact congrArg _ ih

private theorem eq_nil_of_failed {last : FieldReader} {items : List (Except FieldFault Field)}
    (h : Yields failed items last) : items = [] := by
  cases h with
  | rest => rfl
  | more round => cases round

/-- The rounds take three characters for each field, and a fault can only be the last item. -/
theorem shape {text : List Char} {last : FieldReader} {items : List (Except FieldFault Field)}
    (h : Yields (reading text) items last) :
    ∃ fields : List Field, 3 * fields.length ≤ text.length ∧
      (items = fields.map .ok ∨ ∃ fault, items = fields.map .ok ++ [.error fault]) := by
  generalize start : reading text = reader at h
  -- A round with a field leaves a shorter text, and after one with a fault there is no other.
  induction h generalizing text with
  | rest => exact ⟨[], by simp, .inl rfl⟩
  | @more reader after last item items round rounds ih =>
      subst start
      cases item with
      | error fault =>
          cases round_of_next round
          refine ⟨[], by simp, .inr ⟨fault, ?_⟩⟩
          rw [rounds.eq_nil_of_failed]
          rfl
      | ok field =>
          obtain ⟨taken, left, rfl, rfl, room⟩ := (round_of_next round).takes
          obtain ⟨fields, count, shape⟩ := ih rfl
          refine ⟨field :: fields, ?_, ?_⟩
          · rw [List.length_cons, List.length_append]
            omega
          · rcases shape with rfl | ⟨fault, rfl⟩
            · exact .inl rfl
            · exact .inr ⟨fault, rfl⟩

theorem length_le {text : List Char} {last : FieldReader}
    {items : List (Except FieldFault Field)} (h : Yields (reading text) items last) :
    items.length ≤ text.length / 3 + 1 := by
  obtain ⟨fields, count, shape⟩ := h.shape
  have length : items.length ≤ fields.length + 1 := by
    rcases shape with rfl | ⟨fault, rfl⟩ <;> simp
  omega

end Yields

theorem exists_yields (reader : FieldReader) :
    ∃ last, Yields reader reader.row last ∧ last.next = none := by
  generalize same : reader.row = items
  induction items generalizing reader with
  | nil =>
      rw [row_eq_next] at same
      cases round : reader.next with
      | none => exact ⟨reader, .rest, round⟩
      | some found =>
          rw [round] at same
          cases same
  | cons item items ih =>
      rw [row_eq_next] at same
      cases round : reader.next with
      | none =>
          rw [round] at same
          cases same
      | some found =>
          obtain ⟨item', after⟩ := found
          rw [round] at same
          cases same
          obtain ⟨last, rounds, ends⟩ := ih after rfl
          exact ⟨last, .more round rounds, ends⟩

/-- How a reader gets on with a text. -/
structure Advances (text : String) : Prop where
  ends : ∃ last, Yields (reading text.toList) (Field.row text.toList) last ∧ last.next = none
  only : ∀ items reader, Yields (reading text.toList) items reader →
    items <+: Field.row text.toList
  /-- However often the reader is asked, its items are no more than this. -/
  few : ∀ items reader, Yields (reading text.toList) items reader →
    items.length ≤ text.length / 3 + 1
  takes : ∀ items left field after, Yields (reading text.toList) items (reading left) →
    (reading left).next = some (.ok field, after) →
    ∃ taken left', after = reading left' ∧ left = taken ++ left' ∧ 3 ≤ taken.length
  /-- The row is made of fields, with a fault behind them or none. -/
  shape : ∃ fields : List Field, fields.length ≤ text.length / 3 ∧
    (Field.row text.toList = fields.map .ok ∨
      ∃ fault, Field.row text.toList = fields.map .ok ++ [.error fault])
  append : ∀ fields : List Field, Field.row text.toList = fields.map .ok →
    ∀ (blank : Char) (rest : String), isBlank blank = true →
      Field.row (text.push blank ++ rest).toList = fields.map .ok ++ Field.row rest.toList

end FieldReader

namespace Field

theorem row_append_of_fields {text : List Char} {fields : List Field}
    (whole : row text = fields.map .ok) {blank : Char} (h : isBlank blank = true)
    (rest : List Char) : row (text ++ blank :: rest) = fields.map .ok ++ row rest := by
  cases row_append text rest h with
  | complete fields' before after => rw [after, ← before, whole]
  | @faulty fields' fault more before =>
      have member : (.error fault : Except FieldFault Field) ∈ fields.map .ok := by
        rw [← whole, before]
        simp
      simp at member

/-- Every text is read in finitely many rounds, of which each takes three characters for its field,
    and a blank between two texts keeps their fields apart. -/
theorem row_advances (text : String) : FieldReader.Advances text := by
  obtain ⟨last, rounds, ends⟩ := FieldReader.exists_yields (.reading text.toList)
  refine ⟨⟨last, rounds, ends⟩, ?_, ?_, ?_, ?_, ?_⟩
  · intro items reader rounds
    exact ⟨reader.row, rounds.row_eq.symm⟩
  · intro items reader rounds
    have le := rounds.length_le
    rwa [String.length_toList] at le
  · intro items left field after _ round
    exact (FieldReader.round_of_next round).takes
  · obtain ⟨fields, count, shape⟩ := rounds.shape
    refine ⟨fields, ?_, shape⟩
    rw [String.length_toList] at count
    omega
  · intro fields whole blank rest h
    have joined : (text.push blank ++ rest).toList = text.toList ++ blank :: rest.toList := by simp
    rw [joined]
    exact row_append_of_fields whole h rest.toList

end Field

end ClusterLaunch
