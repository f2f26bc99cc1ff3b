import RestClient.Code.ExprParser

/-!
# Traits

Trait declarations with the signatures of their methods, taken apart as far as the analysis of an
interface needs, and written again.

## Main definitions

- `Receiver`, `TypedInput`, `Input`, `Signature` — signatures
- `Method`, `TraitItem`, `TraitDecl` — traits
- `Signature.tokens`, `TraitDecl.tokens` — how they are written
-/

namespace RestClient.Code

/-- A receiver: whether it is taken by reference, may be changed, and has a type of its own. -/
structure Receiver where
  attributes : List Attribute
  reference : Bool
  mutable : Bool
  annotated : Bool
  tokens : Tokens

/-- A parameter: a pattern, a colon and a type. -/
structure TypedInput where
  attributes : List Attribute
  pattern : Tokens
  colon : Tokens
  type : TypeExpr

/-- A receiver or a parameter. -/
inductive Input where
  | receiver (r : Receiver)
  | typed (p : TypedInput)

/-- The signature of a method. `lead` holds the words up to `fn`; each input stands with the comma
behind it. -/
structure Signature where
  lead : Tokens
  asyncSpan : Option Span
  name : String
  nameSpan : Span
  generics : Tokens
  inputs : List (Input × Tokens)
  variadic : Tokens
  parentheses : Span
  arrow : Tokens
  output : Option TypeExpr
  whereClause : Tokens

/-- A method: `ending` is a semicolon or a body. -/
structure Method where
  attributes : List Attribute
  signature : Signature
  body : Option Span
  ending : Tokens

/-- An item of a trait. What is no method only has its tokens. -/
inductive TraitItem where
  | method (m : Method)
  | other (tokens : Tokens)

/-- A trait. `lead` holds the words between visibility and name. -/
structure TraitDecl where
  attributes : List Attribute
  visibility : Tokens
  lead : Tokens
  name : String
  nameSpan : Span
  generics : Tokens
  hasWhere : Bool
  colon : Tokens
  supertraits : Tokens
  whereClause : Tokens
  items : List TraitItem
  braces : Span

/-! ### How declarations are written -/

/-- An attribute that stands inside of what it belongs to. -/
def Attribute.isInner (a : Attribute) : Bool :=
  Parser.isPunct "!" (a.tokens.drop 1)

/-- The tokens of attributes. -/
def attributeTokens (attributes : List Attribute) : Tokens :=
  attributes.flatMap Attribute.tokens

namespace Input

/-- The attributes of an input. -/
def attributes : Input → List Attribute
  | receiver r => r.attributes
  | typed p => p.attributes

/-- The tokens of an input without its attributes. -/
def bareTokens : Input → Tokens
  | receiver r => r.tokens
  | typed p => p.pattern ++ p.colon ++ p.type.tokens

/-- The tokens of an input. -/
def tokens (i : Input) : Tokens :=
  attributeTokens i.attributes ++ i.bareTokens

/-- The place of an input. -/
def span (i : Input) : Span :=
  spanOf i.tokens

end Input

/-- The place of a parameter. -/
def TypedInput.span (p : TypedInput) : Span :=
  (Input.typed p).span

/-- The name of a parameter whose pattern is a plain name; it may be marked as changeable. -/
def TypedInput.ident? (p : TypedInput) : Option String :=
  match p.pattern with
  | [.ident text _] =>
    if Parser.keywords.contains text && text != "self" then none else some text
  | [.ident "mut" _, .ident text _] => some text
  | _ => none

/-- The place of the name of a parameter. -/
def TypedInput.identSpan (p : TypedInput) : Span :=
  spanOf (p.pattern.drop (p.pattern.length - 1))

namespace Signature

/-- The parameters of a signature. -/
def typedInputs (s : Signature) : List TypedInput :=
  s.inputs.filterMap fun (input, _) =>
    match input with
    | .typed p => some p
    | .receiver _ => none

/-- Whether a signature has generic parameters. -/
def isGeneric (s : Signature) : Bool :=
  !s.generics.isEmpty

/-- Whether a signature is asynchronous. -/
def isAsync (s : Signature) : Bool :=
  s.asyncSpan.isSome

/-- The tokens of a signature. -/
def tokens (s : Signature) : Tokens :=
  s.lead ++ [.ident s.name s.nameSpan] ++ s.generics ++
    [.group .parenthesis (s.inputs.flatMap (fun (i, comma) => i.tokens ++ comma) ++ s.variadic)
      s.parentheses] ++
    s.arrow ++ (s.output.map TypeExpr.tokens).getD [] ++ s.whereClause

/-- The plain form of a signature. -/
def code (s : Signature) : PlainCode :=
  codeOf s.tokens

end Signature

/-- The tokens of a method. -/
def Method.tokens (m : Method) : Tokens :=
  attributeTokens (m.attributes.filter fun a => !a.isInner) ++ m.signature.tokens ++ m.ending

namespace TraitItem

/-- The tokens of an item. -/
def tokens : TraitItem → Tokens
  | method m => m.tokens
  | other tokens => tokens

/-- The place of an item. -/
def span (i : TraitItem) : Span :=
  spanOf i.tokens

end TraitItem

namespace TraitDecl

/-- Whether a trait has generic parameters. -/
def isGeneric (t : TraitDecl) : Bool :=
  !t.generics.isEmpty

/-- The tokens of a trait. -/
def tokens (t : TraitDecl) : Tokens :=
  let (inner, outer) := t.attributes.partition Attribute.isInner
  attributeTokens outer ++ t.visibility ++ t.lead ++ [.ident t.name t.nameSpan] ++ t.generics ++
    (if t.supertraits.isEmpty then [] else t.colon ++ t.supertraits) ++ t.whereClause ++
    [.group .brace (attributeTokens inner ++ t.items.flatMap TraitItem.tokens) t.braces]

/-- The plain form of a trait. -/
def code (t : TraitDecl) : PlainCode :=
  codeOf t.tokens

end TraitDecl

end RestClient.Code
