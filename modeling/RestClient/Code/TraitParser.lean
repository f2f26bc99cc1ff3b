import RestClient.Code.Lexer
import RestClient.Code.Trait

/-!
# Parsing traits

Traits, the signatures of their methods, and their other items.

## Main definitions

- `Parser.signature`, `Parser.traitItem`, `Parser.traitDecl` — the parsers
- `TraitDecl.parse`, `TypeExpr.parse`, `Attribute.parseAll` — whole texts
-/

namespace RestClient.Code.Parser

/-! ### Generic parameters -/

/-- Takes bounds with plus signs between them up to where `stop` says. -/
def boundsUntil (g : Nested) (stop : Tokens → Bool) : Parser Unit :=
  iterate (σ := Unit) (fun _ => do
    if ← peek stop then return .inr ()
    discard (bound g)
    if ← punct? "+" then return .inl () else return .inr ()) ()

/-- Takes lifetimes with plus signs between them up to where `stop` says. -/
def lifetimesUntil (stop : Tokens → Bool) : Parser Unit :=
  iterate (σ := Unit) (fun _ => do
    if ← peek stop then return .inr ()
    lifetime
    if ← punct? "+" then return .inl () else return .inr ()) ()

/-- Takes a generic parameter: a lifetime, a type or a constant. -/
def genericParameter (g : Nested) : Parser Unit := do
  discard (outerAttributes g)
  let trees ← rest
  if isLifetime trees then
    lifetime
    if ← punct? ":" then lifetimesUntil fun ts => isPunct "," ts || isPunct ">" ts
  else if isWord "const" trees then
    discard (word "const")
    discard ident
    punct ":"
    discard (g.type true)
    if ← punct? "=" then constantArgument g
  else if isIdent trees || isWord "_" trees then
    discard anyName
    if ← punct? ":" then
      boundsUntil g fun ts => isPunct "," ts || isPunct ">" ts || isPunct "=" ts
    if ← punct? "=" then discard (g.type true)
  else expected (oneOf ["lifetime", "identifier", backquoted "const"])

/-- Takes generic parameters. Empty angle brackets are not written. -/
def genericParameters (g : Nested) : Parser Tokens := do
  if ← peek (isPunct "<") then
    let (tokens, any) ← recorded do
      punct "<"
      let any ← iterate (σ := Bool) (fun any => do
        if ← peek (isPunct ">") then return .inr any
        genericParameter g
        if ← peek (isPunct ">") then return .inr true
        punct ","
        return .inl true) false
      punct ">"
      return any
    return if any then tokens else []
  else return []

/-- What ends the conditions of a where clause. -/
def endsWhere (trees : Tokens) : Bool :=
  trees.isEmpty || isGroup .brace trees || isPunct "," trees || isPunct ";" trees ||
    (isPunct ":" trees && !isPunct "::" trees) || isPunct "=" trees

/-- Takes a condition of a where clause. -/
def wherePredicate (g : Nested) : Parser Unit := do
  let trees ← rest
  if isLifetime trees && isPunct ":" (trees.drop 1) then
    lifetime
    punct ":"
    lifetimesUntil endsWhere
  else
    discard (introducedLifetimes g)
    discard (g.type true)
    punct ":"
    boundsUntil g endsWhere

/-- Whether angle brackets after `where` are generic parameters and not a qualified type. -/
def startsGenerics (trees : Tokens) : Bool :=
  let next := trees.drop 1
  let third := trees.drop 2
  isPunct "<" trees &&
    (isPunct ">" next || isPunct "#" next ||
      ((isLifetime next || isIdent next) &&
        (isPunct ">" third || isPunct "," third ||
          (isPunct ":" third && !isPunct "::" third) || isPunct "=" third)) ||
      isWord "const" next)

/-- Takes a where clause; without conditions it is not written. -/
def whereClause (g : Nested) : Parser (Bool × Tokens) := do
  if ← peek (isWord "where") then
    let (tokens, any) ← recorded do
      discard (word "where")
      if ← peek startsGenerics then fail .whereGenerics
      iterate (σ := Bool) (fun any => do
        if ← peek endsWhere then return .inr any
        wherePredicate g
        if ← punct? "," then return .inl true else return .inr true) false
    return (true, if any then tokens else [])
  else return (false, [])

/-! ### Signatures -/

/-- Takes a receiver without its attributes. -/
def receiver (g : Nested) : Parser Receiver := do
  let (tokens, reference, mutable, annotated) ← recorded do
    let reference ← punct? "&"
    if reference then lifetime?
    let mutable := (← word? "mut").isSome
    discard (word "self")
    let annotated ← if reference then pure false else punct? ":"
    if annotated then discard (g.type true)
    return (reference, mutable, annotated)
  return ⟨[], reference, mutable, annotated, tokens⟩

/-- What may stand in the parentheses of a signature. -/
inductive InputOrRest where
  | input (i : Input)
  | variadic

/-- Takes an input after its attributes. A type that is a name with angle brackets may stand
without a pattern. -/
def inputAfter (g : Nested) (attributes : List Attribute) : Parser InputOrRest := do
  match ← ahead? (receiver g) with
  | some (r, cursor) =>
    set cursor
    return .input (.receiver { r with attributes := attributes })
  | none =>
    let trees ← rest
    if isIdent trees && isPunct "<" (trees.drop 1) then
      let place := spanOf (trees.take 1)
      let pattern : Tokens := [.ident "_" place]
      let colon : Tokens := [.punct ':' false place]
      let type ← g.type true
      return .input (.typed ⟨attributes, pattern, colon, type⟩)
    else
      let (pattern, _) ← recorded (Parser.pattern g)
      let (colon, _) ← recorded (punct ":")
      if ← punct? "..." then return .variadic
      let type ← g.type true
      return .input (.typed ⟨attributes, pattern, colon, type⟩)

/-- The word `self` of a receiver. -/
def selfSpan (r : Receiver) : Span :=
  (r.tokens.findSome? fun tree =>
    match tree with
    | .ident "self" span => some span
    | _ => none).getD .nowhere

/-- Takes the inputs of a signature, each with the comma behind it, and a variadic rest. -/
def inputs (g : Nested) : Parser (List (Input × Tokens) × Tokens) :=
  iterate (σ := List (Input × Tokens)) (fun done => do
    if ← atEnd then return .inr (done.reverse, [])
    let (written, attributes) ← recorded (outerAttributes g)
    if ← peek (isPunct "...") then
      let (tokens, _) ← recorded do
        punct "..."
        if !(← atEnd) then punct ","
      return .inr (done.reverse, written ++ tokens)
    let (tokens, found) ← recorded (inputAfter g attributes)
    match found with
    | .variadic =>
      let (comma, _) ← recorded do
        if !(← atEnd) then punct ","
      return .inr (done.reverse, written ++ tokens ++ comma)
    | .input input =>
      match input with
      | .receiver r =>
        if done.any fun (i, _) => i matches .receiver _ then failAt (selfSpan r) .secondReceiver
        if !done.isEmpty then failAt (selfSpan r) .lateReceiver
      | .typed _ => pure ()
      if ← atEnd then return .inr ((input, []) :: done |>.reverse, [])
      let (comma, _) ← recorded (punct ",")
      return .inl ((input, comma) :: done)) []

/-- Takes a signature. -/
def signature (g : Nested) : Parser Signature := do
  let (lead, asyncSpan) ← recorded do
    discard (word? "const")
    let asyncSpan ← word? "async"
    discard (word? "unsafe")
    callingConvention
    discard (word "fn")
    return asyncSpan
  let (name, nameSpan) ← ident
  let generics ← genericParameters g
  let ((inputs, variadic), parentheses) ← within .parenthesis (inputs g)
  let (arrow, returns) ← recorded (punct? "->")
  let output ← if returns then some <$> g.type true else pure none
  let (_, whereTokens) ← whereClause g
  return ⟨lead, asyncSpan, name, nameSpan, generics, inputs, variadic, parentheses, arrow, output,
    whereTokens⟩

/-! ### Items -/

/-- Takes a visibility. -/
def visibility : Parser Unit := do
  if (← word? "pub").isSome then
    match ← rest with
    | .group .parenthesis trees _ :: _ =>
      if isOneOf ["crate", "self", "super"] trees && trees.length == 1 then discard (take 1)
      else if isWord "in" trees then
        discard (within .parenthesis do
          discard (word "in")
          modPath)
    | _ => pure ()

/-- Whether a signature is at the front. -/
def startsSignature : Parser Bool := do
  let found ← ahead? do
    discard (word? "const")
    discard (word? "async")
    discard (word? "unsafe")
    callingConvention
    word "fn"
  return found.isSome

/-- Takes a method after its attributes. -/
def method (g : Nested) (attributes : List Attribute) : Parser Method := do
  let signature ← signature g
  if ← peek (isGroup .brace) then
    let (ending, inner, span) ← recorded (within .brace do
      let inner ← innerAttributes g
      statements g
      return inner)
    return ⟨attributes ++ inner, signature, some span, ending⟩
  else if ← peek (isPunct ";") then
    let (ending, _) ← recorded (punct ";")
    return ⟨attributes, signature, none, ending⟩
  else expected (oneOf ["curly braces", backquoted ";"])

/-- Takes a constant. -/
def constantItem (g : Nested) : Parser Unit := do
  discard (word "const")
  let trees ← rest
  if isIdent trees || isWord "_" trees then discard anyName
  else
    expected (oneOf ["identifier", backquoted "_", backquoted "async", backquoted "unsafe",
      backquoted "extern", backquoted "fn"])
  discard (genericParameters g)
  punct ":"
  discard (g.type true)
  if ← punct? "=" then discard (g.expr true)
  discard (whereClause g)
  punct ";"

/-- Takes an associated type. -/
def typeItem (g : Nested) : Parser Unit := do
  discard (word "type")
  discard ident
  discard (genericParameters g)
  if ← punct? ":" then
    boundsUntil g fun ts => isWord "where" ts || isPunct "=" ts || isPunct ";" ts
  if ← punct? "=" then discard (g.type true)
  discard (whereClause g)
  punct ";"

/-- Takes the call of a macro; braces need no semicolon behind them. -/
def callItem : Parser Unit := do
  discard modPath
  punct "!"
  let braced ← peek (isGroup .brace)
  discard anyGroup
  if !braced then punct ";"

/-- Takes an item of a trait. A method with a visibility is no method here. -/
def traitItem (g : Nested) : Parser TraitItem := do
  let (all, item) ← recorded do
    let attributes ← outerAttributes g
    let (marks, _) ← recorded do
      visibility
      discard (word? "default")
    let trees ← rest
    if ← startsSignature then
      let m ← method g attributes
      return if marks.isEmpty then some m else none
    else if isWord "const" trees then
      constantItem g
      return none
    else if isWord "type" trees then
      typeItem g
      return none
    else if marks.isEmpty && (isIdent trees || isOneOf ["self", "super", "crate"] trees ||
        isPunct "::" trees) then
      callItem
      return none
    else
      expected (oneOf ([backquoted "fn", backquoted "const", backquoted "type"] ++
        if marks.isEmpty then ["identifier", backquoted "::"] else []))
  return match item with
    | some m => .method m
    | none => .other all

/-- Takes the supertraits after the colon. -/
def supertraits (g : Nested) : Parser Unit :=
  iterate (σ := Unit) (fun _ => do
    let stops (ts : Tokens) : Bool := isWord "where" ts || isGroup .brace ts
    if ← peek stops then return .inr ()
    discard (bound g)
    if ← peek stops then return .inr ()
    punct "+"
    return .inl ()) ()

/-- Takes a trait. -/
def traitDecl (g : Nested) : Parser TraitDecl := do
  let outer ← outerAttributes g
  let (visibility, _) ← recorded visibility
  let (lead, _) ← recorded do
    discard (word? "unsafe")
    discard (word? "auto")
    word "trait"
  let (name, nameSpan) ← ident
  let generics ← genericParameters g
  let (colon, hasColon) ← recorded (punct? ":")
  let (bounds, _) ← recorded do
    if hasColon then supertraits g
  let (hasWhere, whereTokens) ← whereClause g
  let ((inner, items), braces) ← within .brace do
    let inner ← innerAttributes g
    let items ← iterate (σ := List TraitItem) (fun done => do
      if ← atEnd then return .inr done.reverse
      return .inl ((← traitItem g) :: done)) []
    return (inner, items)
  return ⟨outer ++ inner, visibility, lead, name, nameSpan, generics, hasWhere, colon, bounds,
    whereTokens, items, braces⟩

end RestClient.Code.Parser

namespace RestClient.Code

/-- The trait that some tokens declare. -/
def TraitDecl.parse (tokens : Tokens) : Except SyntaxFault TraitDecl :=
  Parser.runAll (Parser.traitDecl (.ofTokens tokens)) tokens .nowhere

/-- The type that some tokens write. -/
def TypeExpr.parse (tokens : Tokens) : Except SyntaxFault TypeExpr :=
  Parser.runAll (Parser.typeExpr (.ofTokens tokens) true) tokens .nowhere

/-- The type that a text writes, if it writes one. -/
def TypeExpr.read? (text : String) : Option TypeExpr :=
  match Tokens.read? text with
  | some tokens => (TypeExpr.parse tokens).toOption
  | none => none

/-- The attributes that some tokens write. -/
def Attribute.parseAll (tokens : Tokens) : Except SyntaxFault (List Attribute) :=
  Parser.runAll (Parser.outerAttributes (.ofTokens tokens)) tokens .nowhere

end RestClient.Code
