import Mathlib.Algebra.Group.Nat.Even
import Mathlib.Data.List.Infix
import ClusterLaunch.Proofs.Payload.Row

/-! # Where quoted text ends

A quote closes quoted text if it is not escaped, and whether it is can be told from the backslashes
directly before it: they escape each other in pairs, so only one left over escapes the quote.
The reader never counts them, but takes each backslash together with what follows it. Here the two
are proved to agree: the reader stops at the first quote with an even number of backslashes directly
before it, and the value is what stands before that quote without the backslashes that escape.
-/

namespace ClusterLaunch

open Text

/-- How many backslashes stand at the end of a text, without anything else between them. -/
def backslashesAtEnd (front : List Char) : Nat :=
  (front.reverse.takeWhile (· == '\\')).length

private theorem backslashesAtEnd_le_length (front : List Char) :
    backslashesAtEnd front ≤ front.length := by
  have le := (List.takeWhile_prefix (· == '\\') (l := front.reverse)).length_le
  rwa [List.length_reverse] at le

theorem backslashesAtEnd_cons {c : Char} (other : c ≠ '\\') (front : List Char) :
    backslashesAtEnd (c :: front) = backslashesAtEnd front := by
  unfold backslashesAtEnd
  rw [List.reverse_cons, List.takeWhile_append]
  split
  · next whole => simp [other, whole]
  · rfl

theorem backslashesAtEnd_backslash (front : List Char) :
    backslashesAtEnd ('\\' :: front) =
      if backslashesAtEnd front = front.length then front.length + 1
      else backslashesAtEnd front := by
  unfold backslashesAtEnd
  rw [List.reverse_cons, List.takeWhile_append, List.length_reverse]
  split
  · simp
  · rfl

theorem even_backslashesAtEnd_escaped (c : Char) (front : List Char) :
    Even (backslashesAtEnd ('\\' :: c :: front)) ↔ Even (backslashesAtEnd front) := by
  have le := backslashesAtEnd_le_length front
  by_cases backslash : c = '\\'
  -- A run that reaches back as far as the two gets longer by both of them.
  · subst backslash
    rw [backslashesAtEnd_backslash, backslashesAtEnd_backslash]
    by_cases whole : backslashesAtEnd front = front.length
    · simp [whole, Nat.even_add_one]
    · have shorter : backslashesAtEnd front ≠ ('\\' :: front).length := by
        rw [List.length_cons]
        omega
      rw [if_neg whole, if_neg shorter]
  · have shorter : backslashesAtEnd front ≠ (c :: front).length := by
      rw [List.length_cons]
      omega
    rw [backslashesAtEnd_backslash, backslashesAtEnd_cons backslash, if_neg shorter]

/-- The characters of a text but for the backslashes that escape, which are those with an even
    number of backslashes directly before them. -/
def unescaped (text : List Char) : List Char :=
  (text.inits.zip text).filterMap fun (before, c) =>
    if c = '\\' ∧ Even (backslashesAtEnd before) then none else some c

private theorem unescaped_cons {c : Char} (other : c ≠ '\\') (text : List Char) :
    unescaped (c :: text) = c :: unescaped text := by
  unfold unescaped
  simp [List.zip_map_left, List.filterMap_map, other, backslashesAtEnd_cons other]

private theorem unescaped_escaped (c : Char) (text : List Char) :
    unescaped ('\\' :: c :: text) = c :: unescaped text := by
  have first : Even (backslashesAtEnd []) := by decide
  have second : ¬Even (backslashesAtEnd ['\\']) := by decide
  unfold unescaped
  simp [List.zip_map_left, List.filterMap_map, Function.comp_def, first, second,
    even_backslashesAtEnd_escaped]

example : unescaped ['\\', '\\', '\\', '\'', 'x'] = ['\\', '\'', 'x'] := by decide

/-- A quote that is not escaped splits a text. -/
structure QuoteCloses (quote : Char) (text front left : List Char) : Prop where
  split : text = front ++ quote :: left
  even : Even (backslashesAtEnd front)

/-- The first such quote of a text. -/
structure QuoteClosesFirst (quote : Char) (text front left : List Char) : Prop
    extends QuoteCloses quote text front left where
  first : ∀ front' left', QuoteCloses quote text front' left' → front <+: front'

theorem quoteCloses_cons_iff {quote c : Char} (other : c ≠ '\\') {text front left : List Char} :
    QuoteCloses quote (c :: text) front left ↔
      (c = quote ∧ front = [] ∧ left = text) ∨
      ∃ front', front = c :: front' ∧ QuoteCloses quote text front' left := by
  constructor
  · rintro ⟨split, even⟩
    rcases List.cons_eq_append_iff.1 split with ⟨rfl, same⟩ | ⟨front', rfl, rest⟩
    · cases same
      exact .inl ⟨rfl, rfl, rfl⟩
    · rw [backslashesAtEnd_cons other] at even
      exact .inr ⟨front', rfl, rest, even⟩
  · rintro (⟨rfl, rfl, rfl⟩ | ⟨front', rfl, rest, even⟩)
    · exact ⟨rfl, by decide⟩
    · refine ⟨by rw [rest, List.cons_append], ?_⟩
      rwa [backslashesAtEnd_cons other]

theorem quoteCloses_escaped_iff {quote c : Char} (other : quote ≠ '\\')
    {text front left : List Char} :
    QuoteCloses quote ('\\' :: c :: text) front left ↔
      ∃ front', front = '\\' :: c :: front' ∧ QuoteCloses quote text front' left := by
  constructor
  · rintro ⟨split, even⟩
    rcases List.cons_eq_append_iff.1 split with ⟨-, same⟩ | ⟨behind, rfl, rest⟩
    · cases same
      exact absurd rfl other
    · rcases List.cons_eq_append_iff.1 rest with ⟨rfl, -⟩ | ⟨front', rfl, rest'⟩
      · exact absurd even (by decide)
      · rw [even_backslashesAtEnd_escaped] at even
        exact ⟨front', rfl, rest', even⟩
  · rintro ⟨front', rfl, rest, even⟩
    refine ⟨by rw [rest, List.cons_append, List.cons_append], ?_⟩
    rwa [even_backslashesAtEnd_escaped]

private theorem not_quoteCloses_nil {quote : Char} (front left : List Char) :
    ¬QuoteCloses quote [] front left := by
  rintro ⟨split, -⟩
  simp at split

private theorem not_quoteCloses_backslash {quote : Char} (other : quote ≠ '\\')
    (front left : List Char) :
    ¬QuoteCloses quote ['\\'] front left := by
  rintro ⟨split, -⟩
  rcases List.cons_eq_append_iff.1 split with ⟨-, same⟩ | ⟨behind, -, rest⟩
  · cases same
    exact other rfl
  · simp at rest

namespace QuoteClosesFirst

theorem here (quote : Char) (text : List Char) :
    QuoteClosesFirst quote (quote :: text) [] text :=
  ⟨⟨rfl, by decide⟩, fun _ _ _ => List.nil_prefix⟩

theorem cons {quote c : Char} {text front left : List Char} (other : c ≠ '\\')
    (inside : c ≠ quote) (h : QuoteClosesFirst quote text front left) :
    QuoteClosesFirst quote (c :: text) (c :: front) left := by
  refine ⟨(quoteCloses_cons_iff other).2 (.inr ⟨front, rfl, h.toQuoteCloses⟩), ?_⟩
  intro front' left' closes
  rcases (quoteCloses_cons_iff other).1 closes with ⟨same, -⟩ | ⟨behind, rfl, later⟩
  · exact absurd same inside
  · exact (List.prefix_cons_inj c).2 (h.first behind left' later)

theorem escaped {quote c : Char} {text front left : List Char} (other : quote ≠ '\\')
    (h : QuoteClosesFirst quote text front left) :
    QuoteClosesFirst quote ('\\' :: c :: text) ('\\' :: c :: front) left := by
  refine ⟨(quoteCloses_escaped_iff other).2 ⟨front, rfl, h.toQuoteCloses⟩, ?_⟩
  intro front' left' closes
  obtain ⟨behind, rfl, later⟩ := (quoteCloses_escaped_iff other).1 closes
  rw [List.prefix_cons_inj, List.prefix_cons_inj]
  exact h.first behind left' later

theorem unique {quote : Char} {text front front' left left' : List Char}
    (h : QuoteClosesFirst quote text front left) (h' : QuoteClosesFirst quote text front' left') :
    front = front' ∧ left = left' := by
  obtain rfl : front = front' :=
    List.Sublist.antisymm (h.first _ _ h'.toQuoteCloses).sublist
      (h'.first _ _ h.toQuoteCloses).sublist
  have same := h.split.symm.trans h'.split
  exact ⟨rfl, by simpa using same⟩

end QuoteClosesFirst

/-- Induction over a text in the steps of the reader, which takes a backslash together with the
    character behind it. -/
theorem escape_induction {motive : List Char → Prop} (nil : motive [])
    (lone : motive ['\\'])
    (plain : ∀ c rest, c ≠ '\\' → motive rest → motive (c :: rest))
    (escaped : ∀ c rest, motive rest → motive ('\\' :: c :: rest)) :
    ∀ text, motive text
  | [] => nil
  | [c] => by
      by_cases backslash : c = '\\'
      · rw [backslash]
        exact lone
      · exact plain c [] backslash nil
  | c :: d :: rest => by
      by_cases backslash : c = '\\'
      · rw [backslash]
        exact escaped d rest (escape_induction nil lone plain escaped rest)
      · exact plain c (d :: rest) backslash (escape_induction nil lone plain escaped (d :: rest))

namespace Field

theorem readQuoted_closes {quote : Char} (other : quote ≠ '\\') (text : List Char) :
    (∃ front left, QuoteClosesFirst quote text front left ∧
      readQuoted quote text = some (unescaped front, left)) ∨
    ((∀ front left, ¬QuoteCloses quote text front left) ∧ readQuoted quote text = none) := by
  induction text using escape_induction with
  | nil => exact .inr ⟨not_quoteCloses_nil, rfl⟩
  | lone => exact .inr ⟨not_quoteCloses_backslash other, rfl⟩
  | plain c rest ordinary ih =>
      rw [readQuoted_plain ordinary]
      by_cases same : c = quote
      · rw [if_pos same, same]
        exact .inl ⟨[], rest, .here quote rest, rfl⟩
      · rw [if_neg same]
        rcases ih with ⟨front, left, first, found⟩ | ⟨never, found⟩
        · refine .inl ⟨c :: front, left, first.cons ordinary same, ?_⟩
          rw [found, unescaped_cons ordinary]
          rfl
        · refine .inr ⟨?_, by rw [found]; rfl⟩
          intro front left closes
          rcases (quoteCloses_cons_iff ordinary).1 closes with ⟨quoted, -⟩ | ⟨front', -, later⟩
          · exact same quoted
          · exact never front' left later
  | escaped c rest ih =>
      rw [readQuoted]
      rcases ih with ⟨front, left, first, found⟩ | ⟨never, found⟩
      · refine .inl ⟨'\\' :: c :: front, left, first.escaped other, ?_⟩
        rw [found, unescaped_escaped]
        rfl
      · refine .inr ⟨?_, by rw [found]; rfl⟩
        intro front left closes
        obtain ⟨front', -, later⟩ := (quoteCloses_escaped_iff other).1 closes
        exact never front' left later

theorem readQuoted_eq_some_iff_closes {quote : Char} (other : quote ≠ '\\')
    {text value left : List Char} :
    readQuoted quote text = some (value, left) ↔
      ∃ front, QuoteClosesFirst quote text front left ∧ value = unescaped front := by
  rcases readQuoted_closes other text with ⟨front, left', first, found⟩ | ⟨never, found⟩
  · rw [found]
    constructor
    · intro same
      cases same
      exact ⟨front, first, rfl⟩
    · rintro ⟨front', first', rfl⟩
      obtain ⟨rfl, rfl⟩ := first.unique first'
      rfl
  · rw [found]
    exact iff_of_false nofun fun ⟨front, first, _⟩ => never front left first.toQuoteCloses

theorem readQuoted_eq_none_iff {quote : Char} (other : quote ≠ '\\') {text : List Char} :
    readQuoted quote text = none ↔ ∀ front left, ¬QuoteCloses quote text front left := by
  rcases readQuoted_closes other text with ⟨front, left, first, found⟩ | ⟨never, found⟩
  · rw [found]
    exact iff_of_false nofun fun never => never front left first.toQuoteCloses
  · exact iff_of_true found never

theorem readValue_quote {quote : Char} (opens : isQuote quote = true) (name : String)
    (text : List Char) :
    readValue name (quote :: text) =
      match readQuoted quote text with
      | some (value, left) => .ok (.quoted (String.ofList value), left)
      | none => .error (.quoteUnterminated name) := by
  have skipped : skipBlank (quote :: text) = quote :: text := by
    simp [skipBlank, isBlank_of_isQuote opens]
  unfold readValue
  rw [skipped]
  cases found : readQuoted quote text <;> simp [opens, found]

theorem readValue_quote_eq_ok_iff {quote : Char} (opens : isQuote quote = true) {name : String}
    {text left : List Char} {value : FieldValue} :
    readValue name (quote :: text) = .ok (value, left) ↔
      ∃ content, readQuoted quote text = some (content, left) ∧
        value = .quoted (String.ofList content) := by
  rw [readValue_quote opens]
  cases readQuoted quote text with
  | none => simp
  | some found =>
      constructor
      · intro same
        cases same
        exact ⟨_, rfl, rfl⟩
      · rintro ⟨content, same, rfl⟩
        cases same
        rfl

theorem readValue_quote_eq_error_iff {quote : Char} (opens : isQuote quote = true)
    {name : String} {text : List Char} {fault : FieldFault} :
    readValue name (quote :: text) = .error fault ↔
      fault = .quoteUnterminated name ∧ readQuoted quote text = none := by
  rw [readValue_quote opens]
  cases readQuoted quote text <;> simp [eq_comm]

/-- How quoted text ends, and with it the value of a field that begins with a quote. -/
structure EndsAtQuote (name : String) (quote : Char) (text : List Char) : Prop where
  content : ∀ value left, readQuoted quote text = some (value, left) ↔
    ∃ front, QuoteClosesFirst quote text front left ∧ value = unescaped front
  value : ∀ value left, readValue name (quote :: text) = .ok (value, left) ↔
    ∃ front, QuoteClosesFirst quote text front left ∧
      value = .quoted (String.ofList (unescaped front))
  unterminated : ∀ message,
    (readValue name (quote :: text)).mapError FieldFault.message = .error message ↔
      message = s!"unterminated quote in field '{name}'" ∧
        ∀ front left, ¬QuoteCloses quote text front left

/-- A quoted value ends at the first quote of its kind with an even number of backslashes directly
    before it, and it is unterminated exactly if there is no such quote. -/
theorem readValue_endsAtQuote {quote : Char} (opens : isQuote quote = true) (name : String)
    (text : List Char) : EndsAtQuote name quote text := by
  have other := ne_backslash_of_isQuote opens
  refine ⟨fun _ _ => readQuoted_eq_some_iff_closes other, ?_, ?_⟩
  · intro value left
    rw [readValue_quote_eq_ok_iff opens]
    constructor
    · rintro ⟨content, quoted, rfl⟩
      obtain ⟨front, first, rfl⟩ := (readQuoted_eq_some_iff_closes other).1 quoted
      exact ⟨front, first, rfl⟩
    · rintro ⟨front, first, rfl⟩
      exact ⟨_, (readQuoted_eq_some_iff_closes other).2 ⟨front, first, rfl⟩, rfl⟩
  · intro message
    rw [mapError_eq_error_iff]
    constructor
    · rintro ⟨fault, failed, rfl⟩
      obtain ⟨rfl, unclosed⟩ := (readValue_quote_eq_error_iff opens).1 failed
      exact ⟨rfl, (readQuoted_eq_none_iff other).1 unclosed⟩
    · rintro ⟨rfl, never⟩
      have failed : readValue name (quote :: text) = .error (.quoteUnterminated name) :=
        (readValue_quote_eq_error_iff opens).2 ⟨rfl, (readQuoted_eq_none_iff other).2 never⟩
      exact ⟨_, failed, rfl⟩

/-- Two escaped quotes, one of them behind three backslashes, and one of the other kind do not end
    the value; the quote behind two backslashes does. -/
theorem readValue_endsAtQuote_two_backslashes :
    isQuote '\'' = true ∧
      EndsAtQuote "replica" '\'' "a\\'\\\\\\'\"\\\\' replica:'b'".toList :=
  ⟨by decide, readValue_endsAtQuote (by decide) _ _⟩

end Field

end ClusterLaunch
