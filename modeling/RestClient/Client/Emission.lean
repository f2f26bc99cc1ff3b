import RestClient.Code.Literal

/-!
# Pieces of generated code

Short ways to write code in its plain form.

## Main definitions

- `piece` — words separated by spaces
- `parens`, `braces`, `brackets`, `angles` — enclosed code
- `std`, `runtime` — absolute paths
-/

namespace RestClient.Emission

open Code (PlainCode)

/-- Words with one more character in front: a space starts a new word, any other character goes on
with the first. -/
def pushChar (c : Char) : List (List Char) → List (List Char)
  | [] => if c = ' ' then [] else [[c]]
  | word :: words => if c = ' ' then [] :: word :: words else (c :: word) :: words

/-- The words of a text that are separated by spaces. -/
def piece (text : String) : PlainCode :=
  ((text.toList.foldr pushChar []).filter (· ≠ [])).map String.ofList

/-- Code in parentheses. -/
def parens (code : PlainCode) : PlainCode :=
  "(" :: code ++ [")"]

/-- Code in braces. -/
def braces (code : PlainCode) : PlainCode :=
  "\x7b" :: code ++ ["\x7d"]

/-- Code in brackets. -/
def brackets (code : PlainCode) : PlainCode :=
  "[" :: code ++ ["]"]

/-- Code in angle brackets. -/
def angles (code : PlainCode) : PlainCode :=
  "<" :: code ++ [">"]

/-- A path that starts with a double colon. -/
def global (names : List String) : PlainCode :=
  names.flatMap fun name => [":", ":", name]

/-- A path in the standard library. -/
def std (names : List String) : PlainCode :=
  global ("std" :: names)

/-- A path in the library that generated code runs with. -/
def runtime (names : List String) : PlainCode :=
  global ("kite_common" :: names)

/-- An attribute with one word in parentheses. -/
def marked (name : String) (content : PlainCode) : PlainCode :=
  "#" :: brackets (name :: parens content)

/-- Code that is shared between owners. -/
def shared (code : PlainCode) : PlainCode :=
  std ["sync", "Arc"] ++ angles code

end RestClient.Emission
