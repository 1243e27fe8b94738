/-! # Command lines for a shell

A command is shown as a line that can be pasted into a POSIX shell. Words of
harmless characters stand as they are, all others go between double quotes. Beside
the writing stands the shell's own reading of such a line into words, which refuses
whatever a shell would expand or treat specially.
-/

namespace ClusterLaunch.Shell

/-- Characters that a shell leaves alone outside quotes. -/
def isPlain (c : Char) : Bool :=
  c.isAlphanum || ['.', ':', '/', '_', '-', '='].contains c

/-- Characters that keep a meaning between double quotes. -/
def keepsMeaning (c : Char) : Bool :=
  c == '"' || c == '\\' || c == '$' || c == '\x60'

def quotedLetter (c : Char) : List Char :=
  if keepsMeaning c then ['\\', c] else [c]

def wordText (word : List Char) : List Char :=
  if !word.isEmpty && word.all isPlain then word
  else '"' :: word.flatMap quotedLetter ++ ['"']

def lineText (words : List (List Char)) : List Char :=
  [' '].intercalate (words.map wordText)

def commandLine (executable : String) (arguments : List String) : String :=
  String.ofList (lineText ((executable :: arguments).map String.toList))

/-- A character of a word with whether it was quoted. -/
structure Letter where
  char : Char
  quoted : Bool
  deriving Repr, DecidableEq

abbrev Word := List Letter

def Word.text (word : Word) : List Char :=
  word.map Letter.char

inductive LineFault where
  /-- A character outside quotes that a shell may treat specially. -/
  | special (c : Char)
  /-- A character that starts an expansion. -/
  | expansion (c : Char)
  | unterminated
  deriving Repr, DecidableEq

inductive LineState where
  | between
  | inWord (word : Word)
  | inQuotes (word : Word)
  | afterBackslash (word : Word)
  deriving Repr, DecidableEq

def isSeparator (c : Char) : Bool :=
  c == ' ' || c == '\t'

/-- Read the words of a line from a given state on. Between double quotes a
    backslash quotes only what keeps a meaning there, and vanishes with a newline
    after it. -/
def readWords : LineState → List Char → Except LineFault (List Word)
  | .between, [] => .ok []
  | .inWord word, [] => .ok [word]
  | .inQuotes _, [] => .error .unterminated
  | .afterBackslash _, [] => .error .unterminated
  | .between, c :: rest =>
      if isSeparator c then readWords .between rest
      else if c = '"' then readWords (.inQuotes []) rest
      else if isPlain c then readWords (.inWord [⟨c, false⟩]) rest
      else if c = '$' ∨ c = '\x60' then .error (.expansion c)
      else .error (.special c)
  | .inWord word, c :: rest =>
      if isSeparator c then (readWords .between rest).map (word :: ·)
      else if c = '"' then readWords (.inQuotes word) rest
      else if isPlain c then readWords (.inWord (word ++ [⟨c, false⟩])) rest
      else if c = '$' ∨ c = '\x60' then .error (.expansion c)
      else .error (.special c)
  | .inQuotes word, c :: rest =>
      if c = '"' then readWords (.inWord word) rest
      else if c = '\\' then readWords (.afterBackslash word) rest
      else if c = '$' ∨ c = '\x60' then .error (.expansion c)
      else readWords (.inQuotes (word ++ [⟨c, true⟩])) rest
  | .afterBackslash word, c :: rest =>
      if c = '\n' then readWords (.inQuotes word) rest
      else if keepsMeaning c then readWords (.inQuotes (word ++ [⟨c, true⟩])) rest
      else readWords (.inQuotes (word ++ [⟨'\\', true⟩, ⟨c, true⟩])) rest

def words (line : List Char) : Except LineFault (List Word) :=
  readWords .between line

/-- Does a leading word assign a variable rather than name a command? It does if
    an unquoted name stands before its first equals sign. -/
def isAssignment (word : Word) : Bool :=
  let name := word.takeWhile fun letter => letter.char != '='
  let nameStart := fun (letter : Letter) => letter.char.isAlpha || letter.char == '_'
  let nameLetter := fun (letter : Letter) =>
    !letter.quoted && (letter.char.isAlphanum || letter.char == '_')
  (word.drop name.length).head? == some ⟨'=', false⟩ && name.head?.any nameStart &&
    name.all nameLetter

end ClusterLaunch.Shell
