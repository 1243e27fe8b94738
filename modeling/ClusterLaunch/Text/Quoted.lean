import ClusterLaunch.Text.Visible

/-! # Quoted values in messages

A message shows a character between apostrophes and a string between double
quotes. Inside, the usual control characters, the backslash and the surrounding
quote get a backslash, and a character that cannot be seen is written by its
code point in braces.
-/

namespace ClusterLaunch.Text

def quotedChar (quote c : Char) : List Char :=
  if c = '\x00' then ['\\', '0']
  else if c = '\t' then ['\\', 't']
  else if c = '\r' then ['\\', 'r']
  else if c = '\n' then ['\\', 'n']
  else if c = '\\' ∨ c = quote then ['\\', c]
  else if isVisible c then [c]
  else ['\\', 'u', '\x7b'] ++ Nat.toDigits 16 c.toNat ++ ['\x7d']

def quoteChar (c : Char) : String :=
  String.ofList ('\'' :: quotedChar '\'' c ++ ['\''])

def quoteString (s : String) : String :=
  String.ofList ('"' :: s.toList.flatMap (quotedChar '"') ++ ['"'])

end ClusterLaunch.Text
