import RestClient.Code.TraitParser
import RestClient.Interface.Diagnostic
import RestClient.Text.Basic

/-!
# Literal headers of a method

A header written as one text: a name, a colon and a value, with blanks around both. The attribute
that lists headers as such literals is read as a whole: one literal that is no header makes it
malformed.

## Main definitions

- `HeaderLiteral` — a name and a value, with `HeaderLiteral.parse?`
- `PlacedHeader` — a header with the place of its literal
- `headersOfAttribute` — the headers of an attribute
-/

namespace RestClient

open Code (Span Tokens Attribute Parser)

/-! ### Literals -/

/-- A header with the same value in every request. -/
structure HeaderLiteral where
  name : String
  value : String
  deriving DecidableEq, Repr

/-- The text before the first colon and the text after it. -/
def splitAtColon? : List Char → Option (List Char × List Char)
  | [] => none
  | c :: cs =>
    if c = ':' then some ([], cs)
    else (splitAtColon? cs).map fun (name, value) => (c :: name, value)

/-- The header of a text: what stands before the first colon and what stands after it, both without
the blanks at their ends, and neither empty. -/
def HeaderLiteral.parse? (text : String) : Option HeaderLiteral :=
  match splitAtColon? text.toList with
  | none => none
  | some (name, value) =>
    let name := Text.trimChars name
    let value := Text.trimChars value
    if name.isEmpty || value.isEmpty then none
    else some ⟨String.ofList name, String.ofList value⟩

/-! ### Attributes -/

/-- A header with the place of its literal. -/
structure PlacedHeader where
  header : HeaderLiteral
  span : Span
  deriving DecidableEq, Repr

/-- Takes a string literal with its place. -/
def stringWithSpan : Parser (String × Span) := do
  match ← Parser.rest with
  | .literal text span :: _ =>
    match Code.stringValue? text.toList with
    | some (value, _) =>
      discard (Parser.take 1)
      return (String.ofList value, span)
    | none => Parser.expected "string literal"
  | _ => Parser.expected "string literal"

/-- The headers of literals, or the first violation. -/
def headersOfLiterals (anchor : Anchor) :
    List (String × Span) → Except Diagnostic (List PlacedHeader)
  | [] => .ok []
  | (text, span) :: rest =>
    match HeaderLiteral.parse? text with
    | none => .error (.declaration .malformedHeaders (anchor.withValue span))
    | some header =>
      match headersOfLiterals anchor rest with
      | .ok headers => .ok (⟨header, span⟩ :: headers)
      | .error d => .error d

/-- The headers that an attribute lists; there has to be one at least. -/
def headersOfAttribute (a : Attribute) : Except Diagnostic (List PlacedHeader) :=
  let anchor := Anchor.on a.span
  match a.item.form with
  | .list _ trees group =>
    match Parser.runAll (Parser.commaList stringWithSpan) trees group.lastChar with
    | .error fault => .error (.declaration .malformedHeaders (.on fault.span))
    | .ok [] => .error (.declaration .malformedHeaders anchor)
    | .ok literals => headersOfLiterals anchor literals
  | _ => .error (.declaration .malformedHeaders anchor)

end RestClient
