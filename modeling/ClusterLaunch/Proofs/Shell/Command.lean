import ClusterLaunch.Proofs.Shell.Line

/-! # Command lines as simple commands

A shell takes the words in front of a simple command for assignments as long as they look like
ones, and the next word for the name of the command. On the line of a launch plan the executable
comes first. It names the command unless it looks like an assignment and is made of harmless
characters only: such a word is written without quotes, and the shell assigns a variable.
-/

namespace ClusterLaunch.Shell

/-- Characters with which the name of a variable may begin. -/
def IsNameStart (c : Char) : Prop :=
  'a' ≤ c ∧ c ≤ 'z' ∨ 'A' ≤ c ∧ c ≤ 'Z' ∨ c = '_'

/-- Characters of which the rest of the name of a variable is made. -/
def IsNameLetter (c : Char) : Prop :=
  IsNameStart c ∨ '0' ≤ c ∧ c ≤ '9'

/-- A name of a variable. -/
inductive IsVariable : List Char → Prop where
  | name {c : Char} {rest : List Char} (start : IsNameStart c)
      (letters : ∀ d ∈ rest, IsNameLetter d) : IsVariable (c :: rest)

/-- Letters without quotes. -/
def unquoted (text : List Char) : Word :=
  text.map (⟨·, false⟩)

/-- The word is a name without quotes, an equals sign without quotes, and any value. -/
def Assigns (word : Word) : Prop :=
  ∃ name value, IsVariable name ∧ word = unquoted name ++ ⟨'=', false⟩ :: value

theorem startsName_iff {c : Char} : (c.isAlpha || c == '_') = true ↔ IsNameStart c := by
  have classes : (c.isAlpha || c == '_') = (c.isUpper || c.isLower || c == '_') := rfl
  rw [classes, Bool.or_eq_true, Bool.or_eq_true, isUpper_iff, isLower_iff, beq_iff_eq]
  unfold IsNameStart
  tauto

private theorem continuesName_iff {c : Char} :
    (c.isAlphanum || c == '_') = true ↔ IsNameLetter c := by
  have classes : (c.isAlphanum || c == '_') = (c.isAlpha || c.isDigit || c == '_') := rfl
  rw [classes, Bool.or_right_comm, Bool.or_eq_true, startsName_iff, isDigit_iff]
  rfl

private theorem IsNameLetter.ne_equals {c : Char} (h : IsNameLetter c) : c ≠ '=' := by
  rintro rfl
  revert h
  unfold IsNameLetter IsNameStart
  decide

theorem IsVariable.letters {name : List Char} (h : IsVariable name) :
    ∀ c ∈ name, IsNameLetter c := by
  cases h with
  | name start letters => exact List.forall_mem_cons.2 ⟨.inl start, letters⟩

private theorem takeWhile_name {name : List Char} (letters : ∀ c ∈ name, IsNameLetter c)
    (value : Word) :
    (unquoted name ++ ⟨'=', false⟩ :: value).takeWhile (fun letter => letter.char != '=') =
      unquoted name := by
  rw [List.takeWhile_append_of_pos, List.takeWhile_cons_of_neg (by simp), List.append_nil]
  intro letter member
  obtain ⟨c, inside, rfl⟩ := List.mem_map.1 member
  exact bne_iff_ne.2 (letters c inside).ne_equals

private theorem unquoted_text {word : Word} (bare : ∀ letter ∈ word, letter.quoted = false) :
    unquoted word.text = word := by
  induction word with
  | nil => rfl
  | cons letter rest ih =>
      obtain ⟨first, others⟩ := List.forall_mem_cons.1 bare
      exact congrArg₂ List.cons (congrArg (Letter.mk letter.char) first.symm) (ih others)

theorem isVariable_iff {name : Word} :
    (name.head?.any (fun letter => letter.char.isAlpha || letter.char == '_') &&
        name.all fun letter => !letter.quoted && (letter.char.isAlphanum || letter.char == '_')) =
      true ↔ ∃ text, IsVariable text ∧ name = unquoted text := by
  rw [Bool.and_eq_true, List.all_eq_true]
  simp only [Bool.and_eq_true, Bool.not_eq_true', continuesName_iff]
  constructor
  · rintro ⟨start, letters⟩
    refine ⟨name.text, ?_, (unquoted_text fun letter member => (letters letter member).1).symm⟩
    cases name with
    | nil => cases start
    | cons first rest =>
        refine .name (startsName_iff.1 start) fun c member => ?_
        obtain ⟨letter, inside, rfl⟩ := List.mem_map.1 member
        exact (letters letter (List.mem_cons_of_mem first inside)).2
  · rintro ⟨text, named, rfl⟩
    refine ⟨?_, fun letter member => ?_⟩
    · cases named with
      | name start => exact startsName_iff.2 start
    · obtain ⟨c, inside, rfl⟩ := List.mem_map.1 member
      exact ⟨rfl, named.letters c inside⟩

theorem isAssignment_iff {word : Word} : isAssignment word = true ↔ Assigns word := by
  unfold isAssignment
  dsimp only
  rw [Bool.and_assoc, Bool.and_eq_true, isVariable_iff, beq_iff_eq]
  constructor
  · rintro ⟨equals, name, named, same⟩
    obtain ⟨value, rest⟩ := List.head?_eq_some_iff.1 equals
    have front : word.takeWhile (fun letter => letter.char != '=') <+: word :=
      List.takeWhile_prefix _
    have whole := List.prefix_iff_eq_append.1 front
    rw [rest, same] at whole
    exact ⟨name, value, named, whole.symm⟩
  · rintro ⟨name, value, named, rfl⟩
    rw [takeWhile_name named.letters]
    exact ⟨by simp, name, named, rfl⟩

/-- How a shell takes the words of a simple command: as assignments while they assign, and
    then as the name of the command with its arguments. -/
inductive SimpleCommand : (words assignments command : List Word) → Prop where
  | nothing : SimpleCommand [] [] []
  | named {word : Word} {rest : List Word} (plain : ¬Assigns word) :
      SimpleCommand (word :: rest) [] (word :: rest)
  | assigned {word : Word} {rest assignments command : List Word} (assigns : Assigns word)
      (more : SimpleCommand rest assignments command) :
      SimpleCommand (word :: rest) (word :: assignments) command

theorem simpleCommand_split (words : List Word) :
    SimpleCommand words (words.takeWhile isAssignment) (words.dropWhile isAssignment) := by
  induction words with
  | nil => exact .nothing
  | cons word rest ih =>
      rw [List.takeWhile_cons, List.dropWhile_cons]
      split
      · next assigns => exact .assigned (isAssignment_iff.1 assigns) ih
      · next plain => exact .named (mt isAssignment_iff.2 plain)

namespace SimpleCommand

variable {words assignments command : List Word}

theorem unique (h : SimpleCommand words assignments command) {before behind : List Word}
    (other : SimpleCommand words before behind) : before = assignments ∧ behind = command := by
  induction h generalizing before behind with
  | nothing =>
      cases other
      exact ⟨rfl, rfl⟩
  | named plain =>
      cases other with
      | named => exact ⟨rfl, rfl⟩
      | assigned assigns => exact absurd assigns plain
  | assigned assigns _ ih =>
      cases other with
      | named plain => exact absurd assigns plain
      | assigned _ more =>
          obtain ⟨rfl, rfl⟩ := ih more
          exact ⟨rfl, rfl⟩

private theorem append_eq (h : SimpleCommand words assignments command) :
    assignments ++ command = words := by
  induction h with
  | nothing | named => rfl
  | assigned _ _ ih => exact congrArg (List.cons _) ih

theorem assigns (h : SimpleCommand words assignments command) :
    ∀ word ∈ assignments, Assigns word := by
  induction h with
  | nothing | named => exact List.forall_mem_nil _
  | assigned assigns _ ih => exact List.forall_mem_cons.2 ⟨assigns, ih⟩

private theorem not_assigns (h : SimpleCommand words assignments command) :
    ∀ word ∈ command.head?, ¬Assigns word := by
  induction h with
  | nothing => nofun
  | named plain =>
      rintro word same
      cases same
      exact plain
  | assigned _ _ ih => exact ih

private theorem eq_nil_iff {first : Word} {rest : List Word}
    (h : SimpleCommand (first :: rest) assignments command) :
    assignments = [] ↔ ¬Assigns first := by
  cases h with
  | named plain => exact iff_of_true rfl plain
  | assigned assigns => exact iff_of_false (List.cons_ne_nil _ _) (not_not_intro assigns)

end SimpleCommand

/-- The text is an assignment of harmless characters to a variable. -/
def BareAssignment (text : List Char) : Prop :=
  ∃ name value, IsVariable name ∧ text = name ++ '=' :: value ∧ ∀ c ∈ value, IsHarmless c

theorem IsNameLetter.harmless {c : Char} (h : IsNameLetter c) : IsHarmless c := by
  rcases h with (lower | upper | rfl) | digit
  · exact .inl lower
  · exact .inr (.inl upper)
  · exact isPlain_iff.1 rfl
  · exact .inr (.inr (.inl digit))

theorem BareAssignment.harmless {text : List Char} (h : BareAssignment text) :
    ∀ c ∈ text, IsHarmless c := by
  obtain ⟨name, value, named, rfl, harmless⟩ := h
  rw [List.forall_mem_append, List.forall_mem_cons]
  exact ⟨fun c member => (named.letters c member).harmless, isPlain_iff.1 rfl, harmless⟩

private theorem letters_of_harmless {text : List Char} (written : text ≠ [])
    (harmless : ∀ c ∈ text, IsHarmless c) : letters text = unquoted text := by
  have plain : text.all isPlain = true :=
    List.all_eq_true.2 fun c member => isPlain_iff.2 (harmless c member)
  unfold letters unquoted
  rw [plain, List.isEmpty_eq_false_iff.2 written]
  rfl

/-- Quotes keep a word from being an assignment, and only harmless characters go without. -/
theorem assigns_letters_iff {text : List Char} : Assigns (letters text) ↔ BareAssignment text := by
  constructor
  · rintro ⟨name, value, named, same⟩
    have equals : (⟨'=', false⟩ : Letter) ∈ letters text := by
      rw [same]
      exact List.mem_append_right _ List.mem_cons_self
    obtain ⟨c, -, letter⟩ := List.mem_map.1 equals
    simp only [Letter.mk.injEq, Bool.not_eq_false', Bool.and_eq_true, List.all_eq_true] at letter
    obtain ⟨-, -, plain⟩ := letter
    have spelled : text = name ++ '=' :: Word.text value := by
      rw [← text_letters text, same]
      simp [Word.text, unquoted, Function.comp_def]
    refine ⟨name, Word.text value, named, spelled, fun c member => isPlain_iff.1 (plain c ?_)⟩
    rw [spelled]
    exact List.mem_append_right _ (List.mem_cons_of_mem _ member)
  · intro bare
    have harmless := bare.harmless
    obtain ⟨name, value, named, rfl, -⟩ := bare
    rw [letters_of_harmless (by simp) harmless]
    exact ⟨name, unquoted value, named, by simp [unquoted]⟩

/-- A shell that reads the line as a simple command takes these texts for assignments, and those
    for the name of the command with its arguments. -/
def TakenFor (line : List Char) (assignments command : List (List Char)) : Prop :=
  ∃ found before behind, LineSpelled line found ∧ SimpleCommand found before behind ∧
    before.map Word.text = assignments ∧ behind.map Word.text = command

/-- How a shell takes a line with these texts on it, the first being that of the executable. -/
structure Runs (line executable : List Char) (arguments assignments command : List (List Char)) :
    Prop where
  taken : ∀ before behind, TakenFor line before behind ↔ before = assignments ∧ behind = command
  split : assignments ++ command = executable :: arguments
  assigned : ∀ text ∈ assignments, BareAssignment text
  named : ∀ text ∈ command.head?, ¬BareAssignment text
  /-- The executable is run with the arguments unless it is an assignment itself. -/
  isRun : assignments = [] ∧ command = executable :: arguments ↔ ¬BareAssignment executable

end ClusterLaunch.Shell

namespace ClusterLaunch.LaunchPlan

open Shell

/-- The command line of a plan is taken in one way only: the bare assignments in front are
    assignments to a shell. So the plan's executable is run with the plan's arguments exactly if
    it is no bare assignment itself. -/
theorem commandLine_runs (plan : LaunchPlan) (executable : String) :
    ∃ assignments command, Runs (plan.commandLine executable).toList executable.toList
      (plan.arguments.map String.toList) assignments command := by
  have line := plan.commandLine_spelled executable
  have command :=
    simpleCommand_split (((executable :: plan.arguments).map String.toList).map letters)
  obtain ⟨assignments, words, split, front, rest⟩ :=
    List.map_eq_append_iff.1 command.append_eq.symm
  rw [← front, ← rest] at command
  refine ⟨assignments, words, ?_, split.symm, ?_, ?_, ?_⟩
  · intro before behind
    constructor
    · rintro ⟨found, before, behind, reading, taken, rfl, rfl⟩
      obtain rfl := line.reading_iff.1 reading
      obtain ⟨rfl, rfl⟩ := command.unique taken
      exact ⟨map_text_letters assignments, map_text_letters words⟩
    · rintro ⟨rfl, rfl⟩
      exact ⟨_, _, _, line, command, map_text_letters _, map_text_letters _⟩
  · intro text member
    exact assigns_letters_iff.1 (command.assigns _ (List.mem_map_of_mem member))
  · intro text member
    refine mt assigns_letters_iff.2 (command.not_assigns _ ?_)
    rw [List.head?_map]
    exact Option.mem_map_of_mem letters member
  · rw [← assigns_letters_iff, ← command.eq_nil_iff, List.map_eq_nil_iff]
    refine and_iff_left_of_imp ?_
    rintro rfl
    exact split.symm

/-- An executable that a shell assigns to a variable. -/
example : (words (Shell.commandLine "A=b" ["x"]).toList).toOption.map (List.map isAssignment) =
    some [true, false] := by
  decide

end ClusterLaunch.LaunchPlan
