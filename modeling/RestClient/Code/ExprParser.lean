import RestClient.Code.PatternParser

/-!
# Parsing expressions

Expressions and the statements in their blocks. Operators are read by precedence climbing.

## Main definitions

- `Parser.atom`, `Parser.unary`, `Parser.climb`, `Parser.expr` — expressions
- `Parser.statements` — what a block holds
- `Nested.ofDepth` — the parsers for nested constructs up to a depth
-/

namespace RestClient.Code.Parser

/-! ### Blocks and lists -/

/-- Takes a block. -/
def block (g : Nested) : Parser Unit := do
  discard (within .brace do
    discard (innerAttributes g)
    g.statements)

/-- Takes expressions with commas between them, in parentheses. -/
def callArguments (g : Nested) : Parser Unit := do
  discard (within .parenthesis (commaList (g.expr true)))

/-- What may start an expression. -/
def startsExpr (trees : Tokens) : Bool :=
  isAnyName trees || isGroup .parenthesis trees || isGroup .brace trees ||
    isGroup .bracket trees || isLiteral trees || isLifetime trees ||
    (isPunct "!" trees && !isPunct "!=" trees) ||
    (isPunct "-" trees && !isPunct "-=" trees && !isPunct "->" trees) ||
    (isPunct "*" trees && !isPunct "*=" trees) || (isPunct "|" trees && !isPunct "|=" trees) ||
    (isPunct "&" trees && !isPunct "&=" trees) || isPunct ".." trees ||
    (isPunct "<" trees && !isPunct "<=" trees && !isPunct "<<=" trees) ||
    isPunct "::" trees || isPunct "#" trees

/-! ### Atoms -/

/-- Takes a closure. -/
def closure (g : Nested) (allowStruct : Bool) : Parser Unit := do
  discard (introducedLifetimes g)
  discard (word? "const")
  discard (word? "static")
  discard (word? "async")
  discard (word? "move")
  punct "|"
  iterate (σ := Unit) (fun _ => do
    if ← peek (isPunct "|") then return .inr ()
    discard (outerAttributes g)
    g.pattern
    if ← punct? ":" then discard (g.type true)
    if ← peek (isPunct "|") then return .inr ()
    punct ","
    return .inl ()) ()
  punct "|"
  if ← punct? "->" then
    discard (g.type true)
    block g
  else discard (g.expr allowStruct)

/-- Takes a field of a structure. -/
def structField (g : Nested) : Parser Unit := do
  discard (outerAttributes g)
  match ← rest with
  | .literal _ _ :: _ =>
    discard (take 1)
    punct ":"
    discard (g.expr true)
  | _ =>
    discard ident
    if ← punct? ":" then discard (g.expr true)

/-- Takes what the braces of a structure hold. -/
def structFields (g : Nested) : Parser Unit :=
  iterate (σ := Unit) (fun _ => do
    if ← atEnd then return .inr ()
    if ← punct? ".." then
      if !(← atEnd) then discard (g.expr true)
      return .inr ()
    structField g
    if ← atEnd then return .inr ()
    punct ","
    return .inl ()) ()

/-- Takes an expression that starts with a path: the path itself, a macro or a structure. -/
def pathOrMore (g : Nested) (allowStruct : Bool) : Parser ExprForm := do
  let path ← qualifiedPath g true
  let trees ← rest
  if path.self.isNone && isPunct "!" trees && !isPunct "!=" trees && path.isPlain then
    punct "!"
    discard anyGroup
    return .other
  else if allowStruct && isGroup .brace trees then
    discard (within .brace (structFields g))
    return .other
  else return .path path

/-- Takes parentheses: the empty tuple, an expression or a tuple. -/
def parenthesizedExpr (g : Nested) : Parser ExprForm := do
  discard (within .parenthesis do
    if ← atEnd then return
    discard (g.expr true)
    if ← atEnd then return
    punct ","
    discard (commaList (g.expr true)))
  return .other

/-- Takes brackets: a list of elements, or an element and how often it is repeated. -/
def arrayExpr (g : Nested) : Parser ExprForm := do
  discard (within .bracket do
    if ← atEnd then return
    discard (g.expr true)
    if ← atEnd then return
    if ← punct? "," then discard (commaList (g.expr true))
    else if ← punct? ";" then discard (g.expr true)
    else expected (oneOf [backquoted ",", backquoted ";"]))
  return .other

/-- Takes a condition and its blocks. -/
def ifExpr (g : Nested) : Parser Unit :=
  iterate (σ := Unit) (fun _ => do
    discard (word "if")
    discard (g.expr false)
    block g
    if (← word? "else").isSome then
      if ← peek (isWord "if") then return .inl ()
      else if ← peek (isGroup .brace) then
        block g
        return .inr ()
      else expected (oneOf [backquoted "if", "curly braces"])
    else return .inr ()) ()

/-- Takes the arms of a match. -/
def matchArms (g : Nested) : Parser Unit := do
  discard (innerAttributes g)
  iterate (σ := Unit) (fun _ => do
    if ← atEnd then return .inr ()
    discard (outerAttributes g)
    g.alternatives
    if (← word? "if").isSome then discard (g.expr true)
    punct "=>"
    let braced ← peek (isGroup .brace)
    let body ← g.expr true
    let ends :=
      match body.form with
      | .block => true
      | _ => braced && body.tokens.length == 1
    if ← atEnd then return .inr ()
    if ends then discard (punct? ",") else punct ","
    return .inl ()) ()

/-- Takes a loop or a block that may carry a label. -/
def loopExpr (g : Nested) : Parser Unit := do
  let trees ← rest
  if isWord "while" trees then
    discard (word "while")
    discard (g.expr false)
    block g
  else if isWord "for" trees then
    discard (word "for")
    g.alternatives
    discard (word "in")
    discard (g.expr false)
    block g
  else if isWord "loop" trees then
    discard (word "loop")
    block g
  else if isGroup .brace trees then block g
  else expected "loop or block expression"

/-- Takes an optional operand of a jump. -/
def jumpOperand (g : Nested) (allowStruct : Bool) : Parser Unit := do
  let trees ← rest
  if startsExpr trees && (allowStruct || !isGroup .brace trees) then
    discard (g.expr allowStruct)

/-- Whether a closure is at the front of trees. -/
def startsClosure (trees : Tokens) : Bool :=
  let next := trees.drop 1
  let third := trees.drop 2
  isPunct "|" trees || isWord "move" trees ||
    (isWord "for" trees && isPunct "<" next && (isLifetime third || isPunct ">" third)) ||
    (isWord "const" trees && !isGroup .brace next) || isWord "static" trees ||
    (isWord "async" trees && (isPunct "|" next || isWord "move" next))

/-- Whether an asynchronous block is at the front of trees. -/
def startsAsyncBlock (trees : Tokens) : Bool :=
  isWord "async" trees && (isGroup .brace (trees.drop 1) ||
    (isWord "move" (trees.drop 1) && isGroup .brace (trees.drop 2)))

/-- Takes the end of a range after its dots. -/
def rangeExprEnd (g : Nested) (allowStruct closed : Bool) : Parser Unit := do
  let trees ← rest
  let stops := ["," , ";", "?", "=>", "=", "+", "/", "%", "^", ">", "<=", "!="]
  if !closed && (trees.isEmpty || stops.any (isPunct · trees) ||
      (isPunct "." trees && !isPunct ".." trees) || isWord "as" trees ||
      (!allowStruct && isGroup .brace trees)) then return
  discard (g.climb allowStruct .range (← g.unary allowStruct))

/-- Takes the dots of a range. -/
def rangeDots : Parser Bool := do
  if ← punct? "..=" then return true
  else if (← peek (isPunct "..")) && !(← peek (isPunct "...")) then
    punct ".."
    return false
  else expected (backquoted "..=")

/-- Takes a literal and says what it means. -/
def literalExpr : Parser ExprForm := do
  match ← rest with
  | .literal text _ :: _ =>
    discard (take 1)
    match stringValue? text.toList with
    | some (value, _) => return .string (String.ofList value)
    | none => return .other
  | .ident text _ :: _ =>
    discard (take 1)
    return .bool (text == "true")
  | _ =>
    discard (take 2)
    return .other

/-- Takes an expression without operators. -/
def atom (g : Nested) (allowStruct : Bool) : Parser ExprForm := do
  let trees ← rest
  let next := trees.drop 1
  if isLiteral trees then literalExpr
  else if startsAsyncBlock trees then
    discard (word "async")
    discard (word? "move")
    block g
    return .block
  else if isWord "try" trees && isGroup .brace next then
    discard (word "try")
    block g
    return .block
  else if startsClosure trees then
    closure g allowStruct
    return .other
  else if isIdent trees || isPunct "::" trees || isPunct "<" trees || isOneOf pathWords trees ||
      (isWord "try" trees && (isPunct "!" next || isPunct "::" next)) then
    pathOrMore g allowStruct
  else if isGroup .parenthesis trees then parenthesizedExpr g
  else if isWord "break" trees then
    discard (word "break")
    lifetime?
    jumpOperand g allowStruct
    return .other
  else if isWord "continue" trees then
    discard (word "continue")
    lifetime?
    return .other
  else if isWord "return" trees || isWord "become" trees then
    discard anyName
    jumpOperand g allowStruct
    return .other
  else if isGroup .bracket trees then arrayExpr g
  else if isWord "let" trees then
    discard (word "let")
    g.alternatives
    punct "="
    discard (g.climb false .compare (← g.unary false))
    return .other
  else if isWord "if" trees then
    ifExpr g
    return .block
  else if isOneOf ["while", "for", "loop"] trees then
    loopExpr g
    return .block
  else if isWord "match" trees then
    discard (word "match")
    discard (g.expr false)
    discard (within .brace (matchArms g))
    return .block
  else if isWord "yield" trees then
    discard (word "yield")
    if !(← atEnd) && !(← peek fun ts => isPunct "," ts || isPunct ";" ts) then
      discard (g.expr true)
    return .other
  else if isWord "unsafe" trees || isWord "const" trees then
    discard anyName
    block g
    return .block
  else if isGroup .brace trees then
    block g
    return .block
  else if isPunct ".." trees then
    let closed ← rangeDots
    rangeExprEnd g allowStruct closed
    return .range
  else if isWord "_" trees then
    discard anyName
    return .other
  else if isLifetime trees then
    lifetime
    punct ":"
    loopExpr g
    return .block
  else expected "an expression"

/-! ### Operators -/

/-- A range may not be called, indexed or asked for a field. -/
def isRange : ExprForm → Bool
  | .range => true
  | _ => false

/-- Takes a member after a dot; `true` if arguments may follow it. -/
def member (g : Nested) : Parser Bool := do
  match ← rest with
  | .literal text _ :: _ =>
    if text.toList.all fun c => Text.isAsciiDigit c || c == '.' then
      discard (take 1)
      return false
    else expected (oneOf ["identifier", "integer literal"])
  | _ =>
    discard ident
    if ← peek (isPunct "::") then
      punct "::"
      discard (angleArguments g)
      callArguments g
      return false
    return true

/-- Takes calls, fields and indices behind an expression. -/
def trailers (g : Nested) (form : ExprForm) : Parser ExprForm :=
  iterate (fun form => do
    let trees ← rest
    if isGroup .parenthesis trees then
      callArguments g
      return .inl .other
    else if isPunct "." trees && !isPunct ".." trees && !isRange form then
      punct "."
      if (← word? "await").isSome then return .inl .other
      if ← member g then
        if ← peek (isGroup .parenthesis) then callArguments g
      return .inl .other
    else if isGroup .bracket trees then
      discard (within .bracket (g.expr true))
      return .inl .other
    else if isPunct "?" trees && !isRange form then
      punct "?"
      return .inl .other
    else return .inr form) form

/-- Takes an expression with the operators in front of it. -/
def unary (g : Nested) (allowStruct : Bool) : Parser Expr := do
  let (tokens, form) ← recorded do
    discard (outerAttributes g)
    let trees ← rest
    if isPunct "&" trees then
      punct "&"
      let raw ← peek fun ts => isWord "raw" ts && isOneOf ["mut", "const"] (ts.drop 1)
      if raw then discard anyName
      discard (word? "mut")
      if raw then discard (word? "const")
      discard (g.unary allowStruct)
      return .other
    else if isPunct "*" trees || isPunct "!" trees || isPunct "-" trees then
      if isLiteral trees then trailers g (← literalExpr)
      else
        discard (take 1)
        discard (g.unary allowStruct)
        return ExprForm.other
    else trailers g (← atom g allowStruct)
  return ⟨form, tokens⟩

/-- The operators between two operands, a longer one before its beginnings. -/
def operators : List (String × Precedence) :=
  [("+=", .assign), ("-=", .assign), ("*=", .assign), ("/=", .assign), ("%=", .assign),
    ("^=", .assign), ("&=", .assign), ("|=", .assign), ("<<=", .assign), (">>=", .assign),
    ("&&", .and), ("||", .or), ("<<", .shift), (">>", .shift), ("==", .compare), ("<=", .compare),
    ("!=", .compare), (">=", .compare), ("+", .sum), ("-", .sum), ("*", .product),
    ("/", .product), ("%", .product), ("^", .bitXor), ("&", .bitAnd), ("|", .bitOr),
    ("<", .compare), (">", .compare)]

/-- The operator at the front of trees. -/
def operator? (trees : Tokens) : Option (String × Precedence) :=
  operators.find? fun (text, _) => isPunct text trees

/-- A plain assignment at the front of trees. -/
def isAssignment (trees : Tokens) : Bool :=
  isPunct "=" trees && !isPunct "=>" trees

/-- The precedence of what follows an operand. -/
def nextPrecedence (trees : Tokens) : Precedence :=
  match operator? trees with
  | some (_, p) => p
  | none =>
    if isAssignment trees then .assign
    else if isPunct ".." trees then .range
    else if isWord "as" trees then .cast
    else .least

/-- Takes the right operand of an operator with everything that binds tighter. -/
def rightOperand (g : Nested) (allowStruct : Bool) (p : Precedence) : Parser Unit := do
  let first ← g.unary allowStruct
  discard (iterate (σ := Expr) (fun operand => do
    let trees ← rest
    let next := nextPrecedence trees
    if p.rank < next.rank || (next == p && p == .assign) then
      let operand ← g.climb allowStruct next operand
      if (← rest).length == trees.length then return .inr operand else return .inl operand
    else return .inr operand) first)

/-- What may not follow a cast. -/
def refuseAfterCast : Parser Unit := do
  let trees ← rest
  let next := trees.drop 1
  if isPunct "." trees && !isPunct ".." trees then
    if isWord "await" next then fail (.castOperator "\x60.await\x60")
    else if isIdent next && (isGroup .parenthesis (next.drop 1) || isPunct "::" (next.drop 1)) then
      fail (.castOperator "a method call")
    else fail (.castOperator "a field access")
  else if isPunct "?" trees then fail (.castOperator "\x60?\x60")
  else if isGroup .bracket trees then fail (.castOperator "indexing")
  else if isGroup .parenthesis trees then fail (.castOperator "a function call")

/-- Whether a form is a comparison. -/
def isComparison : ExprForm → Bool
  | .comparison => true
  | _ => false

/-- Takes the operators behind an operand that bind at least as tightly as `base`. -/
def climb (g : Nested) (allowStruct : Bool) (base : Precedence) (operand : Expr) :
    Parser Expr :=
  iterate (fun (operand : Expr) => do
    let trees ← rest
    let extend (form : ExprForm) (more : Parser Unit) : Parser (Expr ⊕ Expr) := do
      let (tokens, _) ← recorded more
      return .inl ⟨form, operand.tokens ++ tokens⟩
    if isRange operand.form then return .inr operand
    else
      match operator? trees with
      | some (text, p) =>
        if p.rank < base.rank then return .inr operand
        else if p == .compare && isComparison operand.form then fail .chainedComparison
        else
          extend (if p == .compare then .comparison else .other) do
            punct text
            rightOperand g allowStruct p
      | none =>
        if base.rank ≤ Precedence.assign.rank && isAssignment trees then
          extend .other do
            punct "="
            rightOperand g allowStruct .assign
        else if base.rank ≤ Precedence.range.rank && isPunct ".." trees then
          extend .range do
            let closed ← rangeDots
            rangeExprEnd g allowStruct closed
        else if base.rank ≤ Precedence.cast.rank && isWord "as" trees then
          extend .other do
            discard (word "as")
            discard (g.type false)
            refuseAfterCast
        else return .inr operand) operand

/-- Takes an expression. -/
def expr (g : Nested) (allowStruct : Bool) : Parser Expr := do
  g.climb allowStruct .least (← g.unary allowStruct)

/-! ### Statements -/

/-- Whether a declaration is at the front of trees. -/
def startsDeclaration (trees : Tokens) : Bool :=
  let next := trees.drop 1
  isOneOf ["fn", "struct", "enum", "impl", "mod", "use", "type", "trait", "pub", "extern",
      "static"] trees ||
    (isOneOf ["const", "unsafe"] trees && !isGroup .brace next) ||
    (isWord "async" trees && isOneOf ["fn", "unsafe"] next) ||
    (isWord "union" trees && isIdent next)

/-- Takes a declaration up to its braces or its semicolon. -/
def declaration : Parser Unit :=
  iterate (σ := Unit) (fun _ => do
    let trees ← rest
    if trees.isEmpty then expected (backquoted ";")
    let ends := isPunct ";" trees || isGroup .brace trees
    discard (take 1)
    return if ends then .inr () else .inl ()) ()

/-- Takes a binding. -/
def binding (g : Nested) : Parser Unit := do
  discard (word "let")
  g.alternatives
  if ← punct? ":" then discard (g.type true)
  if ← punct? "=" then
    discard (g.expr true)
    if (← word? "else").isSome then block g
  punct ";"

/-- Takes an expression as a statement and says whether a semicolon is needed after it. A block
ends a statement unless it is asked for a member. -/
def exprStatement (g : Nested) : Parser Bool := do
  let trees ← rest
  let starts := isGroup .brace trees ||
    isOneOf ["if", "while", "for", "loop", "match", "unsafe", "const", "try"] trees ||
    isLifetime trees
  let closes (trees : Tokens) : Bool :=
    !((isPunct "." trees && !isPunct ".." trees) || isPunct "?" trees)
  if starts then
    let (tokens, form) ← recorded (atom g true)
    if closes (← rest) then return false
    let form ← trailers g form
    discard (g.climb true .least ⟨form, tokens⟩)
    return true
  else
    let macroBraces := isIdent trees && isPunct "!" (trees.drop 1) &&
      isGroup .brace (trees.drop 2)
    if macroBraces && closes (trees.drop 3) then
      discard (take 3)
      return false
    else
      discard (g.expr true)
      return true

/-- Takes what a block holds. -/
def statements (g : Nested) : Parser Unit :=
  iterate (σ := Unit) (fun _ => do
    if ← atEnd then return .inr ()
    if ← punct? ";" then return .inl ()
    discard (outerAttributes g)
    let trees ← rest
    if isWord "let" trees then
      binding g
      return .inl ()
    else if startsDeclaration trees then
      declaration
      return .inl ()
    else
      let needsSemicolon ← exprStatement g
      if ← punct? ";" then return .inl ()
      if (← atEnd) || !needsSemicolon then return .inl ()
      fail (.leftover none)) ()

end RestClient.Code.Parser

namespace RestClient.Code

/-- The parsers for constructs that are nested at most `n` deep. -/
def Nested.ofDepth : Nat → Nested
  | 0 => .none
  | n + 1 =>
    let g := ofDepth n
    { type := Parser.typeExpr g
      bound := Parser.bound g
      expr := Parser.expr g
      unary := Parser.unary g
      climb := Parser.climb g
      statements := Parser.statements g
      pattern := Parser.pattern g
      alternatives := Parser.alternatives g }

/-- The parsers for what is nested in some trees: nothing can nest deeper than there are trees,
each construct taking at most four levels. -/
def Nested.ofTokens (trees : Tokens) : Nested :=
  ofDepth (4 * sizeOfTrees trees + 16)

end RestClient.Code
