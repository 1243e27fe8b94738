import ClusterLaunch.Launcher.Plan
import ClusterLaunch.Proofs.Attempt

/-! # The grammar of a command line

How a POSIX shell splits a line into words, by rules and with the character classes
written out: what stands between double quotes, what a word is made of, and how words stand
on a line. The reader of lines finds words exactly in the lines of the grammar. The main
result is that the line of a launch plan is such a line, with one reading only, and that its
words are the executable and the arguments.
-/

namespace ClusterLaunch.Shell

/-- Characters that mean nothing to a shell outside quotes. -/
def IsHarmless (c : Char) : Prop :=
  'a' ≤ c ∧ c ≤ 'z' ∨ 'A' ≤ c ∧ c ≤ 'Z' ∨ '0' ≤ c ∧ c ≤ '9' ∨
    c ∈ ['.', ':', '/', '_', '-', '=']

/-- Characters that keep their meaning between double quotes, unless a backslash stands in
    front of them. -/
def IsEscapable (c : Char) : Prop :=
  c ∈ ['$', '\x60', '"', '\\']

def IsGap (c : Char) : Prop :=
  c = ' ' ∨ c = '\t'

theorem isUpper_iff {c : Char} : c.isUpper = true ↔ 'A' ≤ c ∧ c ≤ 'Z' :=
  decide_eq_true_iff

theorem isLower_iff {c : Char} : c.isLower = true ↔ 'a' ≤ c ∧ c ≤ 'z' :=
  Bool.and_eq_true_iff.trans (and_congr decide_eq_true_iff decide_eq_true_iff)

theorem isDigit_iff {c : Char} : c.isDigit = true ↔ '0' ≤ c ∧ c ≤ '9' :=
  Bool.and_eq_true_iff.trans (and_congr decide_eq_true_iff decide_eq_true_iff)

theorem isPlain_iff {c : Char} : isPlain c = true ↔ IsHarmless c := by
  have classes : isPlain c = (c.isUpper || c.isLower || c.isDigit ||
      ['.', ':', '/', '_', '-', '='].contains c) := rfl
  rw [classes, Bool.or_eq_true, Bool.or_eq_true, Bool.or_eq_true, isUpper_iff, isLower_iff,
    isDigit_iff, List.contains_iff_mem]
  constructor
  · rintro (((upper | lower) | digit) | other)
    · exact .inr (.inl upper)
    · exact .inl lower
    · exact .inr (.inr (.inl digit))
    · exact .inr (.inr (.inr other))
  · rintro (lower | upper | digit | other)
    · exact .inl (.inl (.inr lower))
    · exact .inl (.inl (.inl upper))
    · exact .inl (.inr digit)
    · exact .inr other

theorem keepsMeaning_iff {c : Char} : keepsMeaning c = true ↔ IsEscapable c := by
  simp only [keepsMeaning, IsEscapable, Bool.or_eq_true, beq_iff_eq, List.mem_cons,
    List.not_mem_nil, or_false]
  constructor
  · rintro (((rfl | rfl) | rfl) | rfl) <;> simp
  · rintro (rfl | rfl | rfl | rfl) <;> simp

theorem isSeparator_iff {c : Char} : isSeparator c = true ↔ IsGap c := by
  simp [isSeparator, IsGap]

/-- Text between double quotes and the letters it stands for. A backslash before an
    escapable character makes it literal, before a newline it vanishes with it, and before
    any other character it stands for itself. -/
inductive QuotedSpelled : List Char → Word → Prop where
  | nil : QuotedSpelled [] []
  | literal {c : Char} {text : List Char} {word : Word} (plain : ¬IsEscapable c)
      (more : QuotedSpelled text word) : QuotedSpelled (c :: text) (⟨c, true⟩ :: word)
  | escaped {c : Char} {text : List Char} {word : Word} (special : IsEscapable c)
      (more : QuotedSpelled text word) : QuotedSpelled ('\\' :: c :: text) (⟨c, true⟩ :: word)
  | joined {text : List Char} {word : Word} (more : QuotedSpelled text word) :
      QuotedSpelled ('\\' :: '\n' :: text) word
  | backslash {c : Char} {text : List Char} {word : Word} (plain : ¬IsEscapable c)
      (inLine : c ≠ '\n') (more : QuotedSpelled text word) :
      QuotedSpelled ('\\' :: c :: text) (⟨'\\', true⟩ :: ⟨c, true⟩ :: word)

/-- A word is a row of harmless characters and of texts between double quotes. -/
inductive WordSpelled : List Char → Word → Prop where
  | nil : WordSpelled [] []
  | letter {c : Char} {text : List Char} {word : Word} (harmless : IsHarmless c)
      (more : WordSpelled text word) : WordSpelled (c :: text) (⟨c, false⟩ :: word)
  | quotes {inside text : List Char} {part word : Word} (spelled : QuotedSpelled inside part)
      (more : WordSpelled text word) :
      WordSpelled ('"' :: (inside ++ '"' :: text)) (part ++ word)

/-- A line is a row of words with gaps around them, and with a gap between any two. -/
inductive LineSpelled : List Char → List Word → Prop where
  | done {gap : List Char} (blank : ∀ c ∈ gap, IsGap c) : LineSpelled gap []
  | word {gap text rest : List Char} {word : Word} {words : List Word}
      (blank : ∀ c ∈ gap, IsGap c) (written : text ≠ []) (spelled : WordSpelled text word)
      (apart : words ≠ [] → ∃ c behind, rest = c :: behind ∧ IsGap c)
      (more : LineSpelled rest words) : LineSpelled (gap ++ text ++ rest) (word :: words)

private theorem readWords_quoted {inside : List Char} {part : Word} (h : QuotedSpelled inside part)
    (word : Word) (rest : List Char) :
    readWords (.inQuotes word) (inside ++ '"' :: rest) = readWords (.inWord (word ++ part)) rest := by
  induction h generalizing word with
  | nil => simp [readWords]
  | @literal c text part plain _ ih =>
      simp only [IsEscapable, List.mem_cons, List.not_mem_nil, or_false, not_or] at plain
      obtain ⟨dollar, backquote, quote, backslash⟩ := plain
      simp [readWords, dollar, backquote, quote, backslash, ih]
  | @escaped c text part special _ ih =>
      have notNewline : c ≠ '\n' := by
        rintro rfl
        revert special
        unfold IsEscapable
        decide
      simp [readWords, notNewline, keepsMeaning_iff.2 special, ih]
  | joined _ ih => simp [readWords, ih]
  | @backslash c text part plain inLine _ ih =>
      have meaningless : keepsMeaning c = false := by
        simpa using mt keepsMeaning_iff.1 plain
      simp [readWords, inLine, meaningless, ih]

theorem not_isSeparator_of_isPlain {c : Char} (h : isPlain c = true) : isSeparator c = false := by
  cases gap : isSeparator c with
  | false => rfl
  | true =>
      rcases isSeparator_iff.1 gap with rfl | rfl <;> cases h

theorem ne_quote_of_isPlain {c : Char} (h : isPlain c = true) : c ≠ '"' := by
  rintro rfl
  cases h

private theorem readWords_word {text : List Char} {more : Word} (h : WordSpelled text more)
    (word : Word) (rest : List Char) :
    readWords (.inWord word) (text ++ rest) = readWords (.inWord (word ++ more)) rest := by
  induction h generalizing word with
  | nil => simp
  | @letter c text more harmless _ ih =>
      have plain := isPlain_iff.2 harmless
      simp [readWords, plain, not_isSeparator_of_isPlain plain, ne_quote_of_isPlain plain, ih]
  | @quotes inside text part more spelled _ ih =>
      have opened : readWords (.inWord word) ('"' :: (inside ++ '"' :: (text ++ rest))) =
          readWords (.inQuotes word) (inside ++ '"' :: (text ++ rest)) := by
        simp [readWords, isSeparator]
      rw [List.cons_append, List.append_assoc, List.cons_append, opened, readWords_quoted spelled,
        ih, List.append_assoc]

private theorem readWords_begin {text : List Char} {word : Word} (h : WordSpelled text word)
    (written : text ≠ []) (rest : List Char) :
    readWords .between (text ++ rest) = readWords (.inWord []) (text ++ rest) := by
  cases h with
  | nil => exact absurd rfl written
  | letter harmless =>
      have plain := isPlain_iff.2 harmless
      simp [readWords, plain, not_isSeparator_of_isPlain plain, ne_quote_of_isPlain plain]
  | quotes => simp [readWords, isSeparator]

theorem readWords_gap {gap : List Char} (blank : ∀ c ∈ gap, IsGap c) (rest : List Char) :
    readWords .between (gap ++ rest) = readWords .between rest := by
  induction gap with
  | nil => rfl
  | cons c gap ih =>
      obtain ⟨separator, others⟩ := List.forall_mem_cons.1 blank
      simp [readWords, isSeparator_iff.2 separator, ih others]

theorem LineSpelled.head_gap {rest : List Char} {found : List Word} (h : LineSpelled rest found)
    (apart : found ≠ [] → ∃ c behind, rest = c :: behind ∧ IsGap c) :
    ∀ c ∈ rest.head?, IsGap c := by
  intro c member
  cases h with
  | done blank => exact blank c (List.mem_of_mem_head? member)
  | word =>
      obtain ⟨d, behind, same, gap⟩ := apart (List.cons_ne_nil _ _)
      rw [same] at member
      cases member
      exact gap

private theorem readWords_end {rest : List Char} {found : List Word}
    (read : readWords .between rest = .ok found) (gap : ∀ c ∈ rest.head?, IsGap c) (word : Word) :
    readWords (.inWord word) rest = .ok (word :: found) := by
  cases rest with
  | nil =>
      cases read
      rfl
  | cons c behind =>
      have separator : isSeparator c = true := isSeparator_iff.2 (gap c rfl)
      simp only [readWords, separator, if_true] at read ⊢
      rw [read]
      rfl

theorem words_of_lineSpelled {line : List Char} {found : List Word} (h : LineSpelled line found) :
    words line = .ok found := by
  unfold words
  induction h with
  | done blank => simpa [readWords] using readWords_gap blank []
  | @word gap text rest word more blank written spelled apart others ih =>
      rw [List.append_assoc, readWords_gap blank, readWords_begin spelled written,
        readWords_word spelled, List.nil_append]
      exact readWords_end ih (others.head_gap apart) word

theorem LineSpelled.gap {line : List Char} {found : List Word} {c : Char}
    (h : LineSpelled line found) (gap : IsGap c) : LineSpelled (c :: line) found := by
  cases h with
  | done blank => exact .done (List.forall_mem_cons.2 ⟨gap, blank⟩)
  | word blank written spelled apart more =>
      exact .word (List.forall_mem_cons.2 ⟨gap, blank⟩) written spelled apart more

/-- What is left of a line when some letters of a word have been read. -/
def InWord (begun : Word) (text : List Char) (found : List Word) : Prop :=
  ∃ front more rest others, text = front ++ rest ∧ WordSpelled front more ∧
    found = (begun ++ more) :: others ∧
    (others ≠ [] → ∃ c behind, rest = c :: behind ∧ IsGap c) ∧ LineSpelled rest others

/-- What is left of a line within quotes in a word. -/
def InQuotes (begun : Word) (text : List Char) (found : List Word) : Prop :=
  ∃ inside part rest, text = inside ++ '"' :: rest ∧ QuotedSpelled inside part ∧
    InWord (begun ++ part) rest found

/-- What is left of a line that has been read to some state. -/
def LeftOver : LineState → List Char → List Word → Prop
  | .between, text, found => LineSpelled text found
  | .inWord word, text, found => InWord word text found
  | .inQuotes word, text, found => InQuotes word text found
  | .afterBackslash word, text, found => InQuotes word ('\\' :: text) found

theorem InWord.letter {begun : Word} {c : Char} {text : List Char} {found : List Word}
    (harmless : IsHarmless c) (h : InWord (begun ++ [⟨c, false⟩]) text found) :
    InWord begun (c :: text) found := by
  obtain ⟨front, more, rest, others, rfl, spelled, rfl, apart, line⟩ := h
  exact ⟨c :: front, _, rest, others, rfl, .letter harmless spelled, by simp, apart, line⟩

theorem InWord.quotes {begun : Word} {text : List Char} {found : List Word}
    (h : InQuotes begun text found) : InWord begun ('"' :: text) found := by
  obtain ⟨inside, part, _, rfl, quoted, front, more, rest, others, rfl, spelled, rfl, apart,
    line⟩ := h
  exact ⟨_, _, rest, others, by simp, .quotes quoted spelled, by simp, apart, line⟩

theorem InWord.line {c : Char} {text : List Char} {found : List Word}
    (h : InWord [] (c :: text) found) (solid : ¬IsGap c) : LineSpelled (c :: text) found := by
  obtain ⟨front, more, rest, others, whole, spelled, rfl, apart, line⟩ := h
  have written : front ≠ [] := by
    rintro rfl
    apply solid
    apply line.head_gap apart
    rw [← List.nil_append rest, ← whole]
    rfl
  rw [whole, ← List.nil_append front]
  exact .word (List.forall_mem_nil _) written spelled apart line

/-- What stands for some letters between quotes may stand in front of what is left there. -/
theorem InQuotes.front (start : List Char) (letters : Word) {begun : Word} {text : List Char}
    {found : List Word}
    (spelled : ∀ inside part, QuotedSpelled inside part →
      QuotedSpelled (start ++ inside) (letters ++ part))
    (h : InQuotes (begun ++ letters) text found) : InQuotes begun (start ++ text) found := by
  obtain ⟨inside, part, rest, rfl, quoted, more⟩ := h
  rw [List.append_assoc] at more
  exact ⟨start ++ inside, letters ++ part, rest, by simp, spelled inside part quoted, more⟩

private theorem leftOver_of_readWords {state : LineState} {text : List Char} {found : List Word}
    (read : readWords state text = .ok found) : LeftOver state text found := by
  -- The grammar has no states, so what each state leaves over is carried along.
  fun_induction readWords state text generalizing found with
  | case1 =>
      cases read
      exact .done (List.forall_mem_nil _)
  | case2 word =>
      cases read
      exact ⟨[], [], [], [], rfl, .nil, by simp, nofun, .done (List.forall_mem_nil _)⟩
  | case3 | case4 | case8 | case9 | case13 | case14 | case17 => cases read
  | case5 c rest separator ih => exact (ih read).gap (isSeparator_iff.1 separator)
  | case6 rest solid ih => exact (InWord.quotes (ih read)).line (mt isSeparator_iff.2 solid)
  | case7 c rest solid _ plain ih =>
      have word : InWord [] (c :: rest) found :=
        InWord.letter (isPlain_iff.1 plain) (ih read)
      exact word.line (mt isSeparator_iff.2 solid)
  | case10 word c rest separator ih =>
      obtain ⟨others, behind, rfl⟩ := map_eq_ok_iff.1 read
      have gap := isSeparator_iff.1 separator
      exact ⟨[], [], c :: rest, others, rfl, .nil, by simp, fun _ => ⟨c, rest, rfl, gap⟩,
        (ih behind).gap gap⟩
  | case11 word rest _ ih => exact InWord.quotes (ih read)
  | case12 word c rest _ _ plain ih => exact InWord.letter (isPlain_iff.1 plain) (ih read)
  | case15 word rest ih =>
      have more : InWord (word ++ []) rest found := (List.append_nil word).symm ▸ ih read
      exact ⟨[], [], rest, rfl, .nil, more⟩
  | case16 word rest _ ih => exact ih read
  | case18 word c rest quote backslash expansion ih =>
      have plain : ¬IsEscapable c := by
        simp only [IsEscapable, List.mem_cons, List.not_mem_nil, or_false, not_or] at expansion ⊢
        exact ⟨expansion.1, expansion.2, quote, backslash⟩
      exact InQuotes.front [c] [⟨c, true⟩]
        (fun _ _ more => .literal plain more) (ih read)
  | case19 word rest ih =>
      have more : InQuotes (word ++ []) rest found := (List.append_nil word).symm ▸ ih read
      exact InQuotes.front ['\\', '\n'] [] (fun _ _ inside => .joined inside) more
  | case20 word c rest _ special ih =>
      exact InQuotes.front ['\\', c] [⟨c, true⟩]
        (fun _ _ more => .escaped (keepsMeaning_iff.1 special) more) (ih read)
  | case21 word c rest inLine plain ih =>
      exact InQuotes.front ['\\', c] [⟨'\\', true⟩, ⟨c, true⟩]
        (fun _ _ more => .backslash (mt keepsMeaning_iff.2 plain) inLine more) (ih read)

theorem words_eq_ok_iff {line : List Char} {found : List Word} :
    words line = .ok found ↔ LineSpelled line found :=
  ⟨leftOver_of_readWords, words_of_lineSpelled⟩

theorem LineSpelled.reading_iff {line : List Char} {found reading : List Word}
    (h : LineSpelled line found) : LineSpelled line reading ↔ reading = found := by
  rw [← words_eq_ok_iff, words_of_lineSpelled h, Except.ok.injEq, eq_comm]

private theorem quotedSpelled_letters (word : List Char) :
    QuotedSpelled (word.flatMap quotedLetter) (word.map (⟨·, true⟩)) := by
  induction word with
  | nil => exact .nil
  | cons c rest ih =>
      rw [List.flatMap_cons, quotedLetter]
      split
      · next special => exact .escaped (keepsMeaning_iff.1 special) ih
      · next plain => exact .literal (mt keepsMeaning_iff.2 plain) ih

private theorem wordSpelled_plain {word : List Char} (plain : ∀ c ∈ word, isPlain c = true) :
    WordSpelled word (word.map (⟨·, false⟩)) := by
  induction word with
  | nil => exact .nil
  | cons c rest ih =>
      obtain ⟨first, others⟩ := List.forall_mem_cons.1 plain
      exact .letter (isPlain_iff.1 first) (ih others)

/-- A word as it is written: harmless letters as they are, anything else between quotes. -/
def letters (word : List Char) : Word :=
  word.map (⟨·, !(!word.isEmpty && word.all isPlain)⟩)

theorem text_letters (word : List Char) : (letters word).text = word := by
  simp [letters, Word.text, Function.comp_def]

theorem map_text_letters (words : List (List Char)) :
    (words.map letters).map Word.text = words := by
  rw [List.map_map]
  exact List.map_id'' text_letters words

theorem wordText_spelled (word : List Char) : WordSpelled (wordText word) (letters word) := by
  unfold wordText letters
  split
  · next plain =>
    rw [plain]
    exact wordSpelled_plain (by simpa using (Bool.and_eq_true_iff.1 plain).2)
  · next special =>
    simp only [Bool.not_eq_true] at special
    rw [special]
    simpa using WordSpelled.quotes (quotedSpelled_letters word) .nil

theorem wordText_ne_nil (word : List Char) : wordText word ≠ [] := by
  unfold wordText
  split
  · next plain =>
    rintro rfl
    cases plain
  · exact List.cons_ne_nil _ _

theorem lineText_spelled (words : List (List Char)) :
    LineSpelled (lineText words) (words.map letters) := by
  unfold lineText
  induction words with
  | nil => exact .done (List.forall_mem_nil _)
  | cons word rest ih =>
      cases rest with
      | nil =>
          have line := LineSpelled.word (List.forall_mem_nil _) (wordText_ne_nil word)
            (wordText_spelled word) (fun further => absurd rfl further)
            (.done (List.forall_mem_nil _))
          simpa using line
      | cons next others =>
          have gap : IsGap ' ' := .inl rfl
          have line := LineSpelled.word (List.forall_mem_nil _) (wordText_ne_nil word)
            (wordText_spelled word) (fun _ => ⟨' ', _, rfl, gap⟩) (ih.gap gap)
          simpa [List.intercalate_cons_cons] using line

end ClusterLaunch.Shell

namespace ClusterLaunch.LaunchPlan

open Shell

theorem commandLine_spelled (plan : LaunchPlan) (executable : String) :
    LineSpelled (plan.commandLine executable).toList
      (((executable :: plan.arguments).map String.toList).map letters) := by
  rw [commandLine, Shell.commandLine, String.toList_ofList]
  exact lineText_spelled _

/-- The command line of a plan is a line of the grammar with just one reading, which the reader
    finds. Without its quotes, the first word is the executable and the others are the
    arguments. -/
theorem commandLine_lexed (plan : LaunchPlan) (executable : String) :
    ∃ found, (∀ reading, LineSpelled (plan.commandLine executable).toList reading ↔
        reading = found) ∧
      words (plan.commandLine executable).toList = .ok found ∧
      found.map Word.text = (executable :: plan.arguments).map String.toList := by
  have spelled := plan.commandLine_spelled executable
  exact ⟨_, fun _ => spelled.reading_iff, words_of_lineSpelled spelled, map_text_letters _⟩

end ClusterLaunch.LaunchPlan
