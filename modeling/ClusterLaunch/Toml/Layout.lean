/-! # The layout of a TOML document

Blanks, newlines and comments, and what may follow an expression on its line. A
reader takes the front of a text and gives what follows, or nothing where the text
breaks the format.
-/

namespace ClusterLaunch.Toml

abbrev Reader (α : Type) := List Char → Option (α × List Char)

def isGap (c : Char) : Bool :=
  c == ' ' || c == '\t'

def isShown (c : Char) : Bool :=
  c == '\t' || (0x20 ≤ c.toNat && c != '\x7f')

def skipGap (cs : List Char) : List Char :=
  cs.dropWhile isGap

/-- Skip one newline, which may be written with a carriage return. -/
def newline? : List Char → Option (List Char)
  | '\n' :: rest => some rest
  | '\r' :: '\n' :: rest => some rest
  | _ => none

def skipComment : List Char → List Char
  | '#' :: rest => rest.dropWhile isShown
  | cs => cs

/-- Skip what may end a line after an expression: blanks, a comment, and a newline
    or the end of the document. -/
def lineEnd? (cs : List Char) : Option (List Char) :=
  match skipComment (skipGap cs) with
  | [] => some []
  | rest => newline? rest

def skipLines : List Char → List Char
  | '\r' :: '\n' :: rest => skipLines rest
  | c :: rest => if isGap c || c == '\n' then skipLines rest else c :: rest
  | [] => []

/-- Skip blanks, newlines and comments, as often as the fuel allows. -/
def skipFiller : (fuel : Nat) → List Char → List Char
  | 0, cs => cs
  | fuel + 1, cs =>
      match skipLines cs with
      | '#' :: rest => skipFiller fuel (rest.dropWhile isShown)
      | rest => rest

/-- Skip whatever may stand between the items of an array. -/
def skipBetween (cs : List Char) : List Char :=
  skipFiller (cs.length + 1) cs

theorem length_skipLines_le (cs : List Char) : (skipLines cs).length ≤ cs.length := by
  fun_induction skipLines cs with
  | case1 rest ih => simp only [List.length_cons]; omega
  | case2 c rest _ _ ih => simp only [List.length_cons]; omega
  | case3 => exact Nat.le_refl _
  | case4 => exact Nat.le_refl _

end ClusterLaunch.Toml
