import RestClient.Text.Quoted

/-!
# Tokens

Source code as a tree of tokens, each with the place it was written at, and its plain form: a list
of words, one for each identifier, lifetime, literal, punctuation character and delimiter.

## Main definitions

- `Position`, `Span` — places in a text
- `TokenTree` — a token, or a delimited group of trees
- `PlainCode` — the plain form, with `TokenTree.code`
- `spanOf` — the place of a list of trees
-/

namespace RestClient.Code

/-- A place between two characters: the line from one, the column from zero in characters. -/
structure Position where
  line : Nat
  column : Nat
  deriving DecidableEq, Repr

/-- A piece of a text, from its first character to behind its last one. -/
structure Span where
  start : Position
  stop : Position
  deriving DecidableEq, Repr

namespace Span

/-- The empty piece at the start of a text. It stands for what was written nowhere. -/
def nowhere : Span :=
  ⟨⟨1, 0⟩, ⟨1, 0⟩⟩

/-- From the start of one piece to the end of another. -/
def through (first last : Span) : Span :=
  ⟨first.start, last.stop⟩

/-- The first character of a piece. -/
def firstChar (s : Span) : Span :=
  ⟨s.start, ⟨s.start.line, s.start.column + 1⟩⟩

/-- The last character of a piece. -/
def lastChar (s : Span) : Span :=
  ⟨⟨s.stop.line, s.stop.column - 1⟩, s.stop⟩

end Span

/-- What encloses a group. -/
inductive Delimiter where
  | parenthesis
  | brace
  | bracket
  deriving DecidableEq, Repr

/-- The character that opens a group. -/
def Delimiter.opening : Delimiter → Char
  | parenthesis => '('
  | brace => '{'
  | bracket => '['

/-- The character that closes a group. -/
def Delimiter.closing : Delimiter → Char
  | parenthesis => ')'
  | brace => '}'
  | bracket => ']'

/-- A token, or a group of trees between delimiters. A punctuation character is `joint` when
another one follows without a gap. -/
inductive TokenTree where
  | ident (text : String) (span : Span)
  | lifetime (text : String) (span : Span)
  | punct (char : Char) (joint : Bool) (span : Span)
  | literal (text : String) (span : Span)
  | group (delimiter : Delimiter) (trees : List TokenTree) (span : Span)
  deriving Repr

/-- A sequence of trees. -/
abbrev Tokens := List TokenTree

namespace TokenTree

/-- The place of a tree. -/
def span : TokenTree → Span
  | ident _ s | lifetime _ s | punct _ _ s | literal _ s | group _ _ s => s

/-- The place that a complaint about a tree points at: the delimiter that opens a group, and the
quote of a lifetime. -/
def headSpan : TokenTree → Span
  | lifetime _ s => s.firstChar
  | group _ _ s => s.firstChar
  | tree => tree.span

end TokenTree

/-- The place of a list of trees, from the first to the last. -/
def spanOf (trees : Tokens) : Span :=
  match trees with
  | [] => .nowhere
  | first :: rest => first.span.through ((rest.getLast?.getD first).span)

/-! ### The plain form -/

/-- Code in its plain form: the words of its tokens. -/
abbrev PlainCode := List String

/-- The words with single spaces between them. -/
def PlainCode.text (code : PlainCode) : String :=
  " ".intercalate code

mutual

/-- How many trees there are, those in groups included. -/
def TokenTree.size : TokenTree → Nat
  | .group _ trees _ => sizeOfTrees trees + 2
  | _ => 1

/-- How many trees a list holds, those in groups included. -/
def sizeOfTrees : Tokens → Nat
  | [] => 0
  | tree :: rest => tree.size + sizeOfTrees rest

end

end RestClient.Code
