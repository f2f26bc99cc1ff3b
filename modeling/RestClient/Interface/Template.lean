/-!
# URL templates

A template is a URL with placeholders such as `{id}`. A placeholder's name starts with an ASCII
letter and goes on with ASCII letters, digits, underscores and hyphens; all other braces are plain
text.

## Main definitions

- `Template.isName` — the grammar of placeholder names
- `Template.placeholders` — the names that a template asks for
- `Template.pieces` — the template cut into characters and brace groups
- `Template.substitute` — the template with values in the place of groups
-/

namespace RestClient.Template

/-- An ASCII letter. -/
def isLetter (c : Char) : Bool :=
  ('a' ≤ c && c ≤ 'z') || ('A' ≤ c && c ≤ 'Z')

/-- A character of a placeholder's name after the first. -/
def isNameRest (c : Char) : Bool :=
  isLetter c || ('0' ≤ c && c ≤ '9') || c == '_' || c == '-'

/-- The name of a placeholder. -/
def isName : List Char → Bool
  | [] => false
  | c :: cs => isLetter c && cs.all isNameRest

/-- A character that ends the text of a placeholder. -/
def isBrace (c : Char) : Bool :=
  c == '{' || c == '}'

/-- The text up to the first brace, where that brace closes. -/
def closedText? (cs : List Char) : Option (List Char) :=
  match cs.dropWhile (!isBrace ·) with
  | '}' :: _ => some (cs.takeWhile (!isBrace ·))
  | _ => none

/-- The names of all placeholders from left to right. -/
def occurrences : List Char → List (List Char)
  | [] => []
  | c :: cs =>
    let later := occurrences cs
    if c = '{' then
      match closedText? cs with
      | some name => if isName name then name :: later else later
      | none => later
    else later

/-- The names of the placeholders, each once, in the order of their first occurrence. -/
def placeholders (template : List Char) : List (List Char) :=
  (occurrences template).eraseDups

/-- A piece of a template: a character, or a group from an opening brace to the next closing
one. -/
inductive Piece where
  | char (c : Char)
  | group (text : List Char)
  deriving DecidableEq, Repr

/-- The text of a piece as it stands in the template. -/
def Piece.text : Piece → List Char
  | .char c => [c]
  | .group text => '{' :: text ++ ['}']

/-- The text up to the first closing brace and the text after it. -/
def splitAtClose? : List Char → Option (List Char × List Char)
  | [] => none
  | c :: cs =>
    if c = '}' then some ([], cs)
    else (splitAtClose? cs).map fun (text, rest) => (c :: text, rest)

/-- What follows a closing brace is shorter than the whole. -/
theorem splitAtClose?_length {cs text rest : List Char}
    (h : splitAtClose? cs = some (text, rest)) : rest.length < cs.length := by
  induction cs generalizing text rest with
  | nil => simp [splitAtClose?] at h
  | cons c cs ih =>
    simp only [splitAtClose?] at h
    split at h
    · simp only [Option.some.injEq, Prod.mk.injEq] at h
      simp [← h.2]
    · obtain ⟨⟨t, r⟩, hs, he⟩ := Option.map_eq_some_iff.1 h
      simp only [Prod.mk.injEq] at he
      have := ih hs
      simp only [List.length_cons, ← he.2]
      omega

/-- The template cut from left to right; a group that never closes is plain text. -/
def pieces : List Char → List Piece
  | [] => []
  | c :: cs =>
    if c = '{' then
      match _h : splitAtClose? cs with
      | some (text, rest) => .group text :: pieces rest
      | none => (c :: cs).map .char
    else .char c :: pieces cs
  termination_by cs => cs.length
  decreasing_by
    · have := splitAtClose?_length _h
      simp only [List.length_cons]; omega
    · simp

/-- The first value that is listed under a name. -/
def lookup? (values : List (List Char × List Char)) (name : List Char) : Option (List Char) :=
  (values.find? fun (n, _) => n == name).map (·.2)

/-- A piece with its value in its place: a group that is listed becomes its value, every other
piece stays. -/
def Piece.fill (values : List (List Char × List Char)) : Piece → List Char
  | .char c => [c]
  | .group text => (lookup? values text).getD (Piece.group text).text

/-- The template with every listed group replaced by its value. Inserted text is not looked at
again. -/
def substitute (template : List Char) (values : List (List Char × List Char)) : List Char :=
  (pieces template).flatMap (Piece.fill values)

end RestClient.Template
