/-! # The form of an argument

Before an argument of the command line is given a meaning, it is classed by how it is
written. A dash in front does not always make an option: a negative number has one
too, so the text behind the dash is also judged as a number.
-/

namespace ClusterLaunch.Invocation

inductive Argument where
  /-- Two dashes alone: everything behind is a value, whatever its form. -/
  | separator
  /-- Two dashes and a name, with or without an equals sign and a value. -/
  | long (name : List Char) (attached : Option (List Char))
  /-- One dash and a row of letters. -/
  | short (letters : List Char)
  /-- Anything else, a single dash included. -/
  | plain
  deriving Repr, DecidableEq

namespace Argument

/-- The form of an option with a long name, from the text behind the dashes. The
    first equals sign ends the name. -/
def longOf (text : List Char) : Argument :=
  let name := text.takeWhile (· != '=')
  match text.drop name.length with
  | [] => long name none
  | _ :: value => long name (some value)

def ofText : List Char → Argument
  | ['-', '-'] => separator
  | '-' :: '-' :: text => longOf text
  | '-' :: letter :: letters => short (letter :: letters)
  | _ => plain

end Argument

def isExponent : List Char → Bool
  | [] => true
  | mark :: digits => (mark == 'e' || mark == 'E') && !digits.isEmpty && digits.all Char.isDigit

/-- Does the text behind a dash look like a number? It begins with a digit; then a
    point and more digits may follow, and then an exponent without a sign. -/
def looksNumeric (text : List Char) : Bool :=
  let whole := text.takeWhile Char.isDigit
  match text.drop whole.length with
  | '.' :: fraction => !whole.isEmpty && isExponent (fraction.dropWhile Char.isDigit)
  | rest => !whole.isEmpty && isExponent rest

end ClusterLaunch.Invocation
