import RestClient.Code.Grammar

/-!
# Attributes

An attribute is a hash mark and brackets around a path that stands alone, has a group of arguments,
or has a value behind an equals sign.

## Main definitions

- `MetaItem`, `Attribute` — attributes and what they hold
- `Parser.metaItem`, `Parser.outerAttributes`, `Parser.innerAttributes` — their parsers
-/

namespace RestClient.Code

/-- What follows the path of an attribute. -/
inductive MetaForm where
  | path
  | list (delimiter : Delimiter) (trees : Tokens) (group : Span)
  | nameValue (value : Expr)

/-- What an attribute holds. -/
structure MetaItem where
  path : PathExpr
  form : MetaForm
  tokens : Tokens

/-- An attribute with the tokens that it is written with. -/
structure Attribute where
  item : MetaItem
  tokens : Tokens

/-- The place of an attribute, from the hash mark to the closing bracket. -/
def Attribute.span (a : Attribute) : Span :=
  spanOf a.tokens

/-- The name of an attribute whose path is a single name. -/
def Attribute.ident? (a : Attribute) : Option String :=
  a.item.path.ident?

namespace Parser

/-- The words that may be segments of a path though they are keywords. -/
def pathWords : List String :=
  ["super", "self", "Self", "crate"]

/-- Takes a path without arguments. -/
def modPath : Parser PathExpr := do
  let global ← punct? "::"
  let segments ← iterate (σ := List Segment) (fun done => do
    if ← peek fun ts => isIdent ts || isOneOf pathWords ts then
      let (name, _) ← anyName
      let done := ⟨name, none, false⟩ :: done
      if ← punct? "::" then
        if ← peek fun ts => isIdent ts || isOneOf pathWords ts then return .inl done
        else expected "path segment after \x60::\x60"
      else return .inr done.reverse
    else
      discard ident
      return .inr done.reverse) []
  return ⟨global, none, segments⟩

/-- Takes the value of an attribute. -/
def metaValue (g : Nested) : Parser Expr := do
  if ← peek (isPunct "#") then
    if ← peek2 (isGroup .bracket) then fail .attributeInAttribute
  g.expr true

/-- Takes what an attribute holds. -/
def metaItem (g : Nested) : Parser MetaItem := do
  let (tokens, path, form) ← recorded do
    let path ←
      if ← peek (isWord "unsafe") then
        discard anyName
        pure ⟨false, none, [⟨"unsafe", none, false⟩]⟩
      else modPath
    match ← rest with
    | .group d trees span :: _ =>
      discard (take 1)
      return (path, MetaForm.list d trees span)
    | trees =>
      if isPunct "=" trees && !isPunct "==" trees then
        punct "="
        let value ← metaValue g
        return (path, MetaForm.nameValue value)
      else return (path, MetaForm.path)
  return ⟨path, form, tokens⟩

/-- Takes the brackets of an attribute. -/
def attributeBrackets (g : Nested) : Parser MetaItem := do
  return (← within .bracket (metaItem g)).1

/-- Takes the attributes in front of what they belong to. -/
def outerAttributes (g : Nested) : Parser (List Attribute) :=
  iterate (σ := List Attribute) (fun done => do
    if ← peek (isPunct "#") then
      let (tokens, item) ← recorded do
        punct "#"
        attributeBrackets g
      return .inl (⟨item, tokens⟩ :: done)
    else return .inr done.reverse) []

/-- Takes the attributes at the start of the braces of what they belong to. -/
def innerAttributes (g : Nested) : Parser (List Attribute) :=
  iterate (σ := List Attribute) (fun done => do
    let starts ← peek (isPunct "#")
    if starts && (← peek2 (isPunct "!")) then
      let (tokens, item) ← recorded do
        punct "#"
        punct "!"
        attributeBrackets g
      return .inl (⟨item, tokens⟩ :: done)
    else return .inr done.reverse) []

end Parser

end RestClient.Code
