import RestClient.Code.TypeParser

/-!
# Parsing patterns

Patterns only have to be well-formed; what parameters need of them is asked of their tokens.

## Main definitions

- `Parser.pattern` — a pattern without alternatives
- `Parser.alternatives` — patterns with bars between them
-/

namespace RestClient.Code.Parser

/-- Takes a literal, or a minus sign and a number. -/
def literalToken : Parser Unit := do
  if ← peek isLiteral then
    if ← peek (isPunct "-") then discard (take 2) else discard (take 1)
  else expected "literal"

/-- What may start the upper end of a range in a pattern. -/
def startsRangeEnd (trees : Tokens) : Bool :=
  isLiteral trees || isAnyName trees || isPunct "::" trees || isPunct "<" trees

/-- Takes an end of a range in a pattern: a literal, a path or a constant block. -/
def rangeEnd (g : Nested) : Parser Unit := do
  let trees ← rest
  if isLiteral trees then literalToken
  else if isWord "const" trees then
    discard (word "const")
    discard (within .brace g.statements)
  else discard (qualifiedPath g true)

/-- Takes the rest of a range after its lower end, if there is a range. -/
def rangeTail (g : Nested) : Parser Unit := do
  if ← peek (isPunct "..") then
    let closed ← peek fun ts => isPunct "..=" ts || isPunct "..." ts
    if closed then discard (take 3) else punct ".."
    if closed || (← peek startsRangeEnd) then rangeEnd g

/-- Takes a field of a pattern for a structure. -/
def fieldPattern (g : Nested) : Parser Unit := do
  discard (outerAttributes g)
  if ← punct? ".." then return
  discard (word? "box")
  discard (word? "ref")
  discard (word? "mut")
  match ← rest with
  | .literal _ _ :: _ =>
    discard (take 1)
    punct ":"
    g.alternatives
  | _ =>
    discard ident
    if ← punct? ":" then g.alternatives

/-- Takes a pattern that starts with a path. -/
def pathPattern (g : Nested) : Parser Unit := do
  let path ← qualifiedPath g true
  let trees ← rest
  if path.self.isNone && isPunct "!" trees && !isPunct "!=" trees && path.isPlain then
    punct "!"
    discard anyGroup
  else if isGroup .brace trees then
    discard (within .brace (commaList (fieldPattern g)))
  else if isGroup .parenthesis trees then
    discard (within .parenthesis (commaList g.alternatives))
  else rangeTail g

/-- Takes a name with its marks, and the pattern behind an at sign. -/
def namePattern (g : Nested) : Parser Unit := do
  discard (word? "ref")
  discard (word? "mut")
  if ← peek (isWord "self") then discard anyName else discard ident
  if ← punct? "@" then g.pattern

/-- What may follow the first name of a pattern that starts with a path. -/
def continuesPath (trees : Tokens) : Bool :=
  isPunct "::" trees || isPunct "!" trees || isGroup .brace trees || isGroup .parenthesis trees ||
    isPunct ".." trees

/-- Takes a pattern without alternatives. -/
def pattern (g : Nested) : Parser Unit := do
  let trees ← rest
  let next := trees.drop 1
  if (isIdent trees && continuesPath next) || (isWord "self" trees && isPunct "::" next) ||
      isPunct "::" trees || isPunct "<" trees || isOneOf ["Self", "super", "crate"] trees then
    pathPattern g
  else if isWord "_" trees then discard anyName
  else if isWord "box" trees then
    discard anyName
    g.pattern
  else if isPunct "-" trees || isLiteral trees || isWord "const" trees then
    rangeEnd g
    rangeTail g
  else if isOneOf ["ref", "mut", "self"] trees || isIdent trees then namePattern g
  else if isPunct "&" trees then
    punct "&"
    discard (word? "mut")
    g.pattern
  else if isGroup .parenthesis trees then
    discard (within .parenthesis (commaList g.alternatives))
  else if isGroup .bracket trees then
    discard (within .bracket (commaList g.alternatives))
  else if isPunct ".." trees && !isPunct "..." trees then
    if isPunct "..=" trees then discard (take 3) else punct ".."
    if ← peek startsRangeEnd then rangeEnd g
  else
    expected (oneOf ["identifier", backquoted "::", backquoted "<", backquoted "_", "literal",
      backquoted "const", backquoted "ref", backquoted "mut", backquoted "&", "parentheses",
      "square brackets", backquoted ".."])

/-- Takes patterns with bars between them; a bar may stand in front. -/
def alternatives (g : Nested) : Parser Unit := do
  discard (punct? "|")
  iterate (σ := Unit) (fun _ => do
    g.pattern
    let trees ← rest
    if isPunct "|" trees && !isPunct "||" trees && !isPunct "|=" trees then
      punct "|"
      return .inl ()
    else return .inr ()) ()

end RestClient.Code.Parser
