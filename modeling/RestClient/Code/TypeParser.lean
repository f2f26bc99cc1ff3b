import RestClient.Code.Attribute

/-!
# Parsing types

Types, paths, bounds and the arguments in them.

## Main definitions

- `Parser.pathExpr`, `Parser.qualifiedPath` — paths
- `Parser.bound`, `Parser.boundList` — bounds
- `Parser.typeExpr` — types
-/

namespace RestClient.Code.Parser

/-- Several alternatives in a message. -/
def oneOf : List String → String
  | [] => "nothing"
  | [a] => a
  | [a, b] => a ++ " or " ++ b
  | all => "one of: " ++ ", ".intercalate all

/-! ### Arguments in angle brackets -/

/-- An argument in angle brackets with the tokens it is written with and the comma after it. -/
structure AngleArgument where
  isLifetime : Bool
  type? : Option TypeExpr
  tokens : Tokens
  comma : Tokens

/-- The arguments as they are written: lifetimes stand first, and a comma is put between arguments
where none is left. -/
def arrangeArguments (items : List AngleArgument) : Tokens :=
  let (lifetimes, others) := items.partition AngleArgument.isLifetime
  let front := lifetimes.flatMap fun a => a.tokens ++ a.comma
  let closed := (lifetimes.getLast?.map fun a => !a.comma.isEmpty).getD true
  (others.foldl (fun (written, closed) a =>
    let separator : Tokens := if closed then [] else [.punct ',' false .nowhere]
    (written ++ separator ++ a.tokens ++ a.comma, !a.comma.isEmpty)) (front, closed)).1

/-- A type that may be the name of a binding: a single name that has no arguments in
parentheses. -/
def isBindingName : TypeExpr → Bool
  | .path tokens none [_] _ => isAnyName tokens && !isGroup .parenthesis (tokens.drop 1)
  | _ => false

/-- Takes a constant: a literal, or braces around an expression. -/
def constantArgument (g : Nested) : Parser Unit := do
  if ← peek isLiteral then
    if ← peek (isPunct "-") then discard (take 2) else discard (take 1)
  else if ← peek (isGroup .brace) then
    discard (within .brace do
      discard (innerAttributes g)
      g.statements)
  else expected (oneOf ["literal", "curly braces"])

/-! ### Bounds and paths -/

/-- Takes the arguments in parentheses that the last segment of a path may have. -/
def parenthesizedArguments (g : Nested) : Parser Unit := do
  discard (within .parenthesis (commaList (g.type true)))
  if ← punct? "->" then discard (g.type false)

/-- Whether arguments in parentheses follow, with or without a double colon. -/
def beforeParenthesized (trees : Tokens) : Bool :=
  isGroup .parenthesis trees || (isPunct "::" trees && isGroup .parenthesis (trees.drop 2))

/-- Takes the lifetimes that a type or a bound may introduce. -/
def introducedLifetimes (g : Nested) : Parser Bool := do
  if ← peek (isWord "for") then
    discard (word "for")
    punct "<"
    iterate (σ := Unit) (fun _ => do
      if ← peek (isPunct ">") then return .inr ()
      discard (outerAttributes g)
      lifetime
      if ← punct? ":" then
        iterate (σ := Unit) (fun _ => do
          if ← peek fun ts => isPunct "," ts || isPunct ">" ts then return .inr ()
          lifetime
          if ← punct? "+" then return .inl () else return .inr ()) ()
      if ← peek (isPunct ">") then return .inr ()
      punct ","
      return .inl ()) ()
    punct ">"
    return true
  else return false

/-- Takes an argument in angle brackets, and says whether it is a lifetime. -/
def angleArgument (g : Nested) : Parser (Bool × Option TypeExpr) := do
  let trees ← rest
  if isLifetime trees && !isPunct "+" (trees.drop 1) then
    lifetime
    return (true, none)
  else if isLiteral trees || isGroup .brace trees then
    constantArgument g
    return (false, none)
  else
    let argument ← g.type true
    if !isBindingName argument then return (false, some argument)
    else if ← punct? "=" then
      if ← peek fun ts => isLiteral ts || isGroup .brace ts then constantArgument g
      else discard (g.type true)
      return (false, none)
    else if ← punct? ":" then
      iterate (σ := Unit) (fun _ => do
        if ← peek fun ts => isPunct "," ts || isPunct ">" ts then return .inr ()
        discard g.bound
        if ← punct? "+" then return .inl () else return .inr ()) ()
      return (false, none)
    else return (false, some argument)

/-- Takes arguments in angle brackets and answers with the types among them. -/
def angleArguments (g : Nested) : Parser (List TypeExpr) := do
  punct "<"
  let items ← rewriting (iterate (σ := List AngleArgument) (fun done => do
      if ← peek (isPunct ">") then return .inr done.reverse
      let (tokens, isLifetime, type?) ← recorded (angleArgument g)
      let item (comma : Tokens) : AngleArgument := ⟨isLifetime, type?, tokens, comma⟩
      if ← peek (isPunct ">") then return .inr (item [] :: done).reverse
      let (comma, _) ← recorded (punct ",")
      return .inl (item comma :: done)) [])
    fun items _ => arrangeArguments items
  punct ">"
  return items.filterMap AngleArgument.type?

/-- Takes a segment of a path. In an expression, angle brackets need a double colon before
them. -/
def pathSegment (g : Nested) (inExpr : Bool) : Parser Segment := do
  if ← peek (isOneOf ["super", "self", "crate", "try"]) then
    return ⟨(← anyName).1, none, false⟩
  let (name, _) ← if ← peek (isWord "Self") then anyName else ident
  let trees ← rest
  if !inExpr && isPunct "<" trees && !isPunct "<=" trees then
    return ⟨name, some (← angleArguments g), false⟩
  else if isPunct "::" trees && isPunct "<" (trees.drop 2) then
    punct "::"
    return ⟨name, some (← angleArguments g), false⟩
  else return ⟨name, none, false⟩

/-- Takes a path. -/
def pathExpr (g : Nested) (inExpr : Bool) : Parser PathExpr := do
  let global ← punct? "::"
  let first ← pathSegment g inExpr
  let segments ← iterate (σ := List Segment) (fun done => do
    let trees ← rest
    if isPunct "::" trees && !isGroup .parenthesis (trees.drop 2) then
      punct "::"
      return .inl ((← pathSegment g inExpr) :: done)
    else return .inr done.reverse) [first]
  return ⟨global, none, segments⟩

/-- Takes a bound without its parentheses. -/
def traitBound (g : Nested) : Parser Bound := do
  let introduced ← introducedLifetimes g
  let conditional ← peek (isGroup .bracket)
  if conditional then discard (take 1)
  else if ← peek (isWord "const") then discard (word "const")
  let optional ← punct? "?"
  if optional && !introduced then discard (introducedLifetimes g)
  let path ← pathExpr g false
  let last := path.segments.getLast?
  let bare := (last.map fun s => s.arguments.isNone).getD false
  let parenthesized := bare && beforeParenthesized (← rest)
  if parenthesized then
    rewriting (discard (punct? "::")) fun _ _ => []
    parenthesizedArguments g
  return .trait ((last.map Segment.name).getD "") ((last.bind Segment.arguments).getD [])

/-- Takes a bound: a lifetime, a captured list, or a trait that may stand in parentheses. -/
def bound (g : Nested) : Parser Bound := do
  let trees ← rest
  if isLifetime trees then
    lifetime
    return .other
  else if isWord "use" trees then
    discard (word "use")
    punct "<"
    iterate (σ := Unit) (fun _ => do
      if ← peek (isPunct ">") then return .inr ()
      if ← peek isLifetime then lifetime else discard anyName
      if ← peek (isPunct ">") then return .inr ()
      punct ","
      return .inl ()) ()
    punct ">"
    return .other
  else if isGroup .parenthesis trees then
    return (← within .parenthesis (traitBound g)).1
  else traitBound g

/-- What may start a bound after a plus sign. -/
def startsBound (trees : Tokens) : Bool :=
  isAnyName trees || isPunct "::" trees || isPunct "?" trees || isLifetime trees ||
    isGroup .parenthesis trees

/-- Takes bounds with plus signs between them, or a single one where no plus may follow. -/
def boundList (g : Nested) (allowPlus : Bool) : Parser (List Bound) :=
  iterate (σ := List Bound) (fun done => do
    let next ← bound g
    let all := next :: done
    if !allowPlus then return .inr all.reverse
    if ← punct? "+" then
      if ← peek startsBound then return .inl all else return .inr all.reverse
    else return .inr all.reverse) []

/-- Takes a path that may be qualified by a self type. -/
def qualifiedPath (g : Nested) (inExpr : Bool) : Parser PathExpr := do
  if ← punct? "<" then
    let self ← g.type true
    let front ←
      match ← word? "as" with
      | some _ => some <$> pathExpr g false
      | none => pure none
    punct ">"
    punct "::"
    let segments ← iterate (σ := List Segment) (fun done => do
      let all := (← pathSegment g inExpr) :: done
      if ← punct? "::" then return .inl all else return .inr all.reverse) []
    match front with
    | some p => return ⟨p.global, some self, p.segments ++ segments⟩
    | none => return ⟨true, some self, segments⟩
  else pathExpr g inExpr

/-! ### Types -/

/-- Whether a bound is a trait. -/
def isTraitBound : Bound → Bool
  | .trait .. => true
  | .other => false

/-- The bounds of an object type; one of them has to be a trait. -/
def objectBounds (g : Nested) (allowPlus : Bool) (start : Span) : Parser (List Bound) := do
  let (tokens, bounds) ← recorded (boundList g allowPlus)
  if bounds.any isTraitBound then return bounds
  else failAt (start.through (spanOf tokens)) .noObjectTrait

/-- Takes further bounds, each after a plus sign. -/
def moreBounds (g : Nested) : Parser (List Bound) :=
  iterate (σ := List Bound) (fun done => do
    if ← punct? "+" then return .inl ((← bound g) :: done) else return .inr done.reverse) []

/-- What the parentheses at the start of a type hold. -/
inductive ParenContent where
  | empty
  | objectOf (tokens : Tokens) (bounds : List Bound)
  | optionalBound (bound : Bound)
  | elements (types : List TypeExpr)
  | single (type : TypeExpr)

/-- Takes what the parentheses at the start of a type hold. -/
def parenContent (g : Nested) : Parser ParenContent := do
  let trees ← rest
  if trees.isEmpty then return .empty
  else if isLifetime trees then
    let (tokens, bounds) ← recorded (objectBounds g true (spanOf (trees.take 1)))
    return .objectOf tokens bounds
  else if isPunct "?" trees then return .optionalBound (← bound g)
  else
    let first ← g.type true
    if ← punct? "," then
      let others ← commaList (g.type true)
      return .elements (first :: others)
    else return .single first

/-- A type in parentheses as the first bound of an object type, where it can be one. -/
def boundOfType? : TypeExpr → Option Bound
  | .path _ none names arguments => some (.trait (names.getLast?.getD "") arguments)
  | .traitObject tokens [b] =>
    if isWord "dyn" tokens || (tokens.getLast?.map fun t => isPunct "+" [t]).getD false then none
    else some b
  | _ => none

/-- Takes a type that starts with parentheses. -/
def parenthesizedType (g : Nested) (allowPlus : Bool) : Parser (Tokens → TypeExpr) := do
  let (content, _) ← within .parenthesis (parenContent g)
  match content with
  | .empty => return (.tuple · [])
  | .objectOf tokens bounds => return (.paren · (.traitObject tokens bounds))
  | .optionalBound first =>
    let others ← moreBounds g
    return (.traitObject · (first :: others))
  | .elements types => return (.tuple · types)
  | .single type =>
    match boundOfType? type with
    | some first =>
      if allowPlus && (← peek (isPunct "+")) then
        let others ← moreBounds g
        return (.traitObject · (first :: others))
      else return (.paren · type)
    | none => return (.paren · type)

/-- Takes the string that names a calling convention. -/
def callingConvention : Parser Unit := do
  if (← word? "extern").isSome then
    match ← rest with
    | .literal text _ :: _ =>
      if (stringValue? text.toList).isSome then discard (take 1)
    | _ => pure ()

/-- Takes an argument of a function pointer. -/
def pointerArgument (g : Nested) : Parser Unit := do
  discard (outerAttributes g)
  let trees ← rest
  if (isIdent trees || isOneOf ["_", "self"] trees) && isPunct ":" (trees.drop 1) &&
      !isPunct "::" (trees.drop 1) then
    discard anyName
    punct ":"
  if ← peek (isPunct "...") then punct "..." else discard (g.type true)

/-- Takes a function pointer after its lifetimes. -/
def functionPointer (g : Nested) : Parser Unit := do
  discard (word? "unsafe")
  callingConvention
  discard (word "fn")
  discard (within .parenthesis (commaList (pointerArgument g)))
  if ← punct? "->" then discard (g.type false)

/-- Takes a type that starts with a path. -/
def typeOfPath (g : Nested) (allowPlus introduced : Bool) : Parser (Tokens → TypeExpr) := do
  let path ← qualifiedPath g false
  let bare := (path.segments.getLast?.map fun s => s.arguments.isNone).getD false
  let parenthesized := bare && beforeParenthesized (← rest)
  if parenthesized then
    rewriting (discard (punct? "::")) fun _ _ => []
    parenthesizedArguments g
  let trees ← rest
  if path.self.isSome then return path.toType
  else if isPunct "!" trees && !isPunct "!=" trees && path.isPlain && !parenthesized then
    punct "!"
    discard anyGroup
    return .other
  else if introduced || (allowPlus && isPunct "+" trees) then
    let last := path.segments.getLast?
    let first : Bound :=
      .trait ((last.map Segment.name).getD "") ((last.bind Segment.arguments).getD [])
    if allowPlus && isPunct "+" trees then
      punct "+"
      if ← peek startsBound then
        let others ← boundList g true
        return (.traitObject · (first :: others))
      else return (.traitObject · [first])
    else return (.traitObject · [first])
  else return path.toType

/-- Takes a type in brackets: a slice, or an array with its length. -/
def bracketedType (g : Nested) : Parser (Tokens → TypeExpr) := do
  let ((element, isArray), _) ← within .bracket do
    let element ← g.type true
    if ← punct? ";" then
      discard (g.expr true)
      return (element, true)
    else return (element, false)
  return if isArray then (.array · element) else (.slice · element)

/-- What may start a type, as a message lists it. -/
def typeStarts : List String :=
  [backquoted "for", "parentheses", backquoted "fn", backquoted "unsafe", backquoted "extern",
    "identifier", backquoted "::", backquoted "<", backquoted "dyn", "square brackets",
    backquoted "*", backquoted "&", backquoted "!", backquoted "impl", backquoted "_", "lifetime"]

/-- Takes a type and answers how its tokens make it one. -/
def typeShape (g : Nested) (allowPlus : Bool) : Parser (Tokens → TypeExpr) := do
  let introduced ← introducedLifetimes g
  let trees ← rest
  if isGroup .parenthesis trees then parenthesizedType g allowPlus
  else if isOneOf ["fn", "unsafe", "extern"] trees then
    functionPointer g
    return .other
  else if isIdent trees || isOneOf pathWords trees || isPunct "::" trees ||
      isPunct "<" trees then typeOfPath g allowPlus introduced
  else if isWord "dyn" trees then
    let start ← word "dyn"
    let starred ← punct? "*"
    let bounds ← objectBounds g allowPlus start
    return if starred then .other else (.traitObject · bounds)
  else if isGroup .bracket trees then bracketedType g
  else if isPunct "*" trees then
    punct "*"
    if (← word? "const").isNone && (← word? "mut").isNone then
      expected (oneOf [backquoted "const", backquoted "mut"])
    discard (g.type false)
    return .other
  else if isPunct "&" trees then
    punct "&"
    lifetime?
    discard (word? "mut")
    let inner ← g.type false
    return (.reference · inner)
  else if isPunct "!" trees && !isPunct "=" trees then
    punct "!"
    return .other
  else if isWord "impl" trees then
    let start ← word "impl"
    let (tokens, bounds) ← recorded (boundList g allowPlus)
    if bounds.any isTraitBound then return (.implTrait · bounds)
    else failAt (start.through (spanOf tokens)) .noTrait
  else if isWord "_" trees then
    discard anyName
    return .other
  else if isLifetime trees then
    let bounds ← objectBounds g true (spanOf (trees.take 1))
    return (.traitObject · bounds)
  else expected (oneOf typeStarts)

/-- Takes a type; `allowPlus` says whether bounds may go on after a plus sign. -/
def typeExpr (g : Nested) (allowPlus : Bool) : Parser TypeExpr := do
  let (tokens, shape) ← recorded (typeShape g allowPlus)
  return shape tokens

end RestClient.Code.Parser
