import ClusterLaunch.Text.Blank
import ClusterLaunch.Text.Quoted

/-! # Labelled fields

A text payload is a row of fields `name:value` with blanks around them. A value is
quoted with either quote, where a backslash makes the next character literal, or it is
bare and runs to the next blank. Reading is from the left and stops at the first
fault. The main facts: a field takes at least three characters, so a text has no
more fields than a third of its length.
-/

namespace ClusterLaunch

open Text

inductive FieldValue where
  | quoted (text : String)
  | bare (text : String)
  deriving Repr, DecidableEq

structure Field where
  name : String
  value : FieldValue
  deriving Repr, DecidableEq

inductive FieldFault where
  /-- Something else stands where a name should start. -/
  | nameExpected (found : Option Char)
  | colonExpected (name : String)
  | valueMissing (name : String)
  | quoteUnterminated (name : String)
  deriving Repr, DecidableEq

def FieldFault.message : FieldFault → String
  | nameExpected none => "expected field name, found None"
  | nameExpected (some c) => s!"expected field name, found Some({quoteChar c})"
  | colonExpected name => s!"expected ':' after field name '{name}'"
  | valueMissing name => s!"missing value for field '{name}'"
  | quoteUnterminated name => s!"unterminated quote in field '{name}'"

namespace Field

/-- Names are made of ASCII letters, digits and underscores. -/
def isNameChar (c : Char) : Bool :=
  c.isAlphanum || c == '_'

def isQuote (c : Char) : Bool :=
  c == '\'' || c == '"'

/-- Read what follows an opening quote up to the closing one: the value without its
    escaping backslashes, and the text after the closing quote. -/
def readQuoted (quote : Char) : List Char → Option (List Char × List Char)
  | [] => none
  | ['\\'] => none
  | '\\' :: c :: rest => (readQuoted quote rest).map fun (value, left) => (c :: value, left)
  | c :: rest =>
      if c = quote then some ([], rest)
      else (readQuoted quote rest).map fun (value, left) => (c :: value, left)

/-- Read the value at the front of a text, after the blanks before it. -/
def readValue (name : String) (cs : List Char) : Except FieldFault (FieldValue × List Char) :=
  match skipBlank cs with
  | [] => .error (.valueMissing name)
  | c :: rest =>
      if isQuote c then
        match readQuoted c rest with
        | some (value, left) => .ok (.quoted (String.ofList value), left)
        | none => .error (.quoteUnterminated name)
      else
        let isBare := fun d => !isBlank d
        .ok (.bare (String.ofList ((c :: rest).takeWhile isBare)), (c :: rest).dropWhile isBare)

/-- Read the field at the very front of a text, with what follows it. -/
def read (cs : List Char) : Except FieldFault (Field × List Char) :=
  let name := String.ofList (cs.takeWhile isNameChar)
  if (cs.takeWhile isNameChar).isEmpty then .error (.nameExpected cs.head?)
  else
    match cs.dropWhile isNameChar with
    | ':' :: rest => (readValue name rest).map fun (value, left) => (⟨name, value⟩, left)
    | _ => .error (.colonExpected name)

private theorem length_readQuoted {quote : Char} {cs value left : List Char}
    (h : readQuoted quote cs = some (value, left)) : left.length < cs.length := by
  fun_induction readQuoted quote cs generalizing value left with
  | case1 => cases h
  | case2 => cases h
  | case3 c rest ih =>
      obtain ⟨⟨v, l⟩, hv, heq⟩ := Option.map_eq_some_iff.1 h
      cases heq
      have := ih hv
      simp only [List.length_cons]
      omega
  | case4 rest =>
      cases h
      simp
  | case5 c rest _ _ _ ih =>
      obtain ⟨⟨v, l⟩, hv, heq⟩ := Option.map_eq_some_iff.1 h
      cases heq
      have := ih hv
      simp only [List.length_cons]
      omega

private theorem length_readValue {name : String} {cs left : List Char} {value : FieldValue}
    (h : readValue name cs = .ok (value, left)) : left.length < cs.length := by
  unfold readValue at h
  have hle := length_skipBlank_le cs
  split at h
  · cases h
  · next c rest hs =>
    have hc := isBlank_head_skipBlank hs
    rw [hs, List.length_cons] at hle
    split at h
    · split at h
      · next v l hq =>
        cases h
        have := length_readQuoted hq
        omega
      · cases h
    · cases h
      have hdrop : ((c :: rest).dropWhile fun d => !isBlank d) = rest.dropWhile fun d => !isBlank d := by
        simp [hc]
      have := (List.dropWhile_suffix (l := rest) fun d => !isBlank d).length_le
      rw [hdrop]
      omega

theorem length_read {cs left : List Char} {field : Field} (h : read cs = .ok (field, left)) :
    left.length + 3 ≤ cs.length := by
  unfold read at h
  split at h
  · cases h
  · next hname =>
    split at h
    · next rest hrest =>
      dsimp only at h
      cases hv : readValue (String.ofList (cs.takeWhile isNameChar)) rest with
      | error e => rw [hv] at h; cases h
      | ok found =>
          obtain ⟨value, l⟩ := found
          rw [hv] at h
          simp only [Except.map, Except.ok.injEq, Prod.mk.injEq] at h
          obtain ⟨-, rfl⟩ := h
          have hvalue : l.length < rest.length := length_readValue hv
          have hsplit := congrArg List.length (List.takeWhile_append_dropWhile (p := isNameChar) (l := cs))
          rw [hrest] at hsplit
          simp only [List.length_append, List.length_cons] at hsplit
          have hpos : 0 < (cs.takeWhile isNameChar).length := by
            rw [List.length_pos_iff]
            simpa using hname
          omega
    · cases h

/-- The fields of a text in order; a fault ends the row. -/
def row (cs : List Char) : List (Except FieldFault Field) :=
  match _hskip : skipBlank cs with
  | [] => []
  | c :: rest =>
      match _hread : read (c :: rest) with
      | .error fault => [.error fault]
      | .ok (field, left) => .ok field :: row left
termination_by cs.length
decreasing_by
  have hle := length_skipBlank_le cs
  have hlen := length_read _hread
  rw [_hskip] at hle
  omega

end Field

end ClusterLaunch
