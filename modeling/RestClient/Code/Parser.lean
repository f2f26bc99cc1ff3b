import RestClient.Code.Literal

/-!
# Parsers of token trees

A parser takes trees from the front of a list and answers with a value or with a complaint that
points into the source. It records the trees that the value is written with, which are the trees it
took except where a construct leaves out what says nothing.

A complaint about the end of a list points at the delimiter that closes it. Trees left over in a
group that has been entered are complained about last, when nothing else is wrong.

## Main definitions

- `Complaint`, `SyntaxFault` — what was expected, and where
- `Cursor`, `Parser` — the state of a parser
- `Parser.runAll` — a parser on a whole list of trees
-/

namespace RestClient.Code

/-- What is wrong with a sequence of tokens. -/
inductive Complaint where
  | expected (what : String)
  | keyword (word : String)
  | chainedComparison
  | attributeInAttribute
  | leftover (closing : Option Delimiter)
  | secondReceiver
  | lateReceiver
  | noTrait
  | noObjectTrait
  | whereGenerics
  | notConst
  | castOperator (what : String)
  | nestingTooDeep
  deriving DecidableEq, Repr

/-- The wording of a complaint. -/
def Complaint.message : Complaint → String
  | expected what => "expected " ++ what
  | keyword word => "expected identifier, found keyword \x60" ++ word ++ "\x60"
  | chainedComparison => "comparison operators cannot be chained"
  | attributeInAttribute => "unexpected attribute inside of attribute"
  | leftover none => "unexpected token"
  | leftover (some d) => "unexpected token, expected \x60" ++ d.closing.toString ++ "\x60"
  | secondReceiver => "unexpected second method receiver"
  | lateReceiver => "unexpected method receiver"
  | noTrait => "at least one trait must be specified"
  | noObjectTrait => "at least one trait is required for an object type"
  | whereGenerics =>
    "generic parameters on \x60where\x60 clauses are reserved for future use"
  | notConst => "\x60const\x60 is not allowed here"
  | castOperator what => "casts cannot be followed by " ++ what
  | nestingTooDeep => "nesting too deep"

/-- A complaint, where it points, and whether the tokens ended too early. -/
structure SyntaxFault where
  complaint : Complaint
  span : Span
  atEnd : Bool
  deriving DecidableEq, Repr

/-- The wording of a fault. -/
def SyntaxFault.message (f : SyntaxFault) : String :=
  if f.atEnd then "unexpected end of input, " ++ f.complaint.message else f.complaint.message

/-- The state of a parser: the trees that are left, the place of their end, the first complaint
about trees left over in a group, and the trees written so far, the last one first. -/
structure Cursor where
  rest : Tokens
  scope : Span
  leftover : Option SyntaxFault
  written : Tokens

/-- A parser that answers with a value. -/
abbrev Parser (α : Type) := StateT Cursor (Except SyntaxFault) α

namespace Parser

/-- The trees that are left. -/
def rest : Parser Tokens := do
  return (← get).rest

/-- Whether no tree is left. -/
def atEnd : Parser Bool := do
  return (← get).rest.isEmpty

/-- Fails with a complaint about the next tree, or about the end. -/
def fail {α : Type} (c : Complaint) : Parser α := do
  let cursor ← get
  match cursor.rest with
  | [] => throw ⟨c, cursor.scope, true⟩
  | tree :: _ => throw ⟨c, tree.headSpan, false⟩

/-- Fails with a complaint about a place that has been passed. -/
def failAt {α : Type} (span : Span) (c : Complaint) : Parser α :=
  throw ⟨c, span, false⟩

/-- Fails with a complaint that `what` was expected. -/
def expected {α : Type} (what : String) : Parser α :=
  fail (.expected what)

/-- Takes `n` trees and writes them. -/
def take (n : Nat) : Parser Tokens := do
  let cursor ← get
  let taken := cursor.rest.take n
  set { cursor with rest := cursor.rest.drop n, written := taken.reverse ++ cursor.written }
  return taken

/-- Runs a parser and answers with the trees that it wrote besides its value. -/
def recorded {α : Type} (p : Parser α) : Parser (Tokens × α) := do
  let before := (← get).written
  modify fun c => { c with written := [] }
  let value ← p
  let own := (← get).written
  modify fun c => { c with written := own ++ before }
  return (own.reverse, value)

/-- Runs a parser and writes other trees than it did. -/
def rewriting {α : Type} (p : Parser α) (f : α → Tokens → Tokens) : Parser α := do
  let before := (← get).written
  modify fun c => { c with written := [] }
  let value ← p
  let own := (← get).written.reverse
  modify fun c => { c with written := (f value own).reverse ++ before }
  return value

/-- Runs a parser without consequences and answers with its value if it succeeds. -/
def ahead? {α : Type} (p : Parser α) : Parser (Option (α × Cursor)) := do
  match p.run (← get) with
  | .ok (value, cursor) => return some (value, cursor)
  | .error _ => return none

/-- Runs `step` until it answers. Every step but the last takes a tree, so as many steps suffice as
trees are left, and one more. -/
def iterateAtMost {σ β : Type} (step : σ → Parser (σ ⊕ β)) : Nat → σ → Parser β
  | 0, _ => fail .nestingTooDeep
  | n + 1, s => do
    match ← step s with
    | .inl s => iterateAtMost step n s
    | .inr b => return b

/-- Runs `step` until it answers. -/
def iterate {σ β : Type} (step : σ → Parser (σ ⊕ β)) (s : σ) : Parser β := do
  iterateAtMost step ((← rest).length + 2) s

/-! ### Looking at trees -/

/-- The name at the front of trees, keywords included. -/
def name? : Tokens → Option String
  | .ident text _ :: _ => some text
  | _ => none

/-- Whether `word` is the name at the front of trees. -/
def isWord (word : String) (trees : Tokens) : Bool :=
  name? trees == some word

/-- Whether the punctuation `cs` is at the front of trees; all its characters but the last have to
be joint. -/
def isPunctChars : List Char → Tokens → Bool
  | [], _ => true
  | [c], .punct d _ _ :: _ => c == d
  | c :: cs, .punct d joint _ :: rest => c == d && joint && isPunctChars cs rest
  | _, _ => false

/-- Whether the punctuation `text` is at the front of trees. -/
def isPunct (text : String) (trees : Tokens) : Bool :=
  isPunctChars text.toList trees

/-- Whether a group is at the front of trees. -/
def isGroup (d : Delimiter) : Tokens → Bool
  | .group e _ _ :: _ => d == e
  | _ => false

/-- Whether a lifetime is at the front of trees. -/
def isLifetime : Tokens → Bool
  | .lifetime _ _ :: _ => true
  | _ => false

/-- The words that are no identifiers. -/
def keywords : List String :=
  ["_", "abstract", "as", "async", "await", "become", "box", "break", "const", "continue", "crate",
    "do", "dyn", "else", "enum", "extern", "false", "final", "fn", "for", "if", "impl", "in",
    "let", "loop", "macro", "match", "mod", "move", "mut", "override", "priv", "pub", "ref",
    "return", "Self", "self", "static", "struct", "super", "trait", "true", "try", "type",
    "typeof", "unsafe", "unsized", "use", "virtual", "where", "while", "yield"]

/-- Whether an identifier that is no keyword is at the front of trees. -/
def isIdent (trees : Tokens) : Bool :=
  match name? trees with
  | some text => !keywords.contains text
  | none => false

/-- Whether a name of any kind is at the front of trees. -/
def isAnyName (trees : Tokens) : Bool :=
  (name? trees).isSome

/-- Whether one of some words is at the front of trees. -/
def isOneOf (ws : List String) (trees : Tokens) : Bool :=
  ws.any (isWord · trees)

/-- Whether a literal is at the front of trees: a literal token, a truth value or a negative
number. -/
def isLiteral : Tokens → Bool
  | .literal _ _ :: _ => true
  | .ident text _ :: _ => text == "true" || text == "false"
  | .punct '-' _ _ :: .literal text _ :: _ =>
    (text.toList.head?.map Text.isAsciiDigit).getD false
  | _ => false

/-- A test of the trees that are left. -/
def peek (test : Tokens → Bool) : Parser Bool := do
  return test (← rest)

/-- A test of the trees after the next one. -/
def peek2 (test : Tokens → Bool) : Parser Bool := do
  return test ((← rest).drop 1)

/-! ### Taking trees -/

/-- A word between backquotes. -/
def backquoted (word : String) : String :=
  "\x60" ++ word ++ "\x60"

/-- Takes a punctuation. -/
def punct (text : String) : Parser Unit := do
  if ← peek (isPunct text) then discard (take text.length)
  else expected (backquoted text)

/-- Takes a punctuation if it is there. -/
def punct? (text : String) : Parser Bool := do
  if ← peek (isPunct text) then
    discard (take text.length)
    return true
  else return false

/-- Takes a word. -/
def word (text : String) : Parser Span := do
  match ← rest with
  | .ident t span :: _ =>
    if t = text then
      discard (take 1)
      return span
    else expected (backquoted text)
  | _ => expected (backquoted text)

/-- Takes a word if it is there. -/
def word? (text : String) : Parser (Option Span) := do
  if ← peek (isWord text) then return some (← word text) else return none

/-- Takes an identifier that is no keyword. -/
def ident : Parser (String × Span) := do
  match ← rest with
  | .ident text span :: _ =>
    if keywords.contains text then fail (.keyword text)
    else
      discard (take 1)
      return (text, span)
  | _ => expected "identifier"

/-- Takes a name of any kind. -/
def anyName : Parser (String × Span) := do
  match ← rest with
  | .ident text span :: _ =>
    discard (take 1)
    return (text, span)
  | _ => expected "identifier"

/-- Takes a lifetime. -/
def lifetime : Parser Unit := do
  if ← peek isLifetime then discard (take 1) else expected "lifetime"

/-- Takes a lifetime if it is there. -/
def lifetime? : Parser Unit := do
  if ← peek isLifetime then discard (take 1)

/-- How a kind of group is called. -/
def groupName : Delimiter → String
  | .parenthesis => "parentheses"
  | .brace => "curly braces"
  | .bracket => "square brackets"

/-- The complaint about the first of some trees in a list that should have ended. -/
def leftoverFault (closing : Option Delimiter) : Tokens → Option SyntaxFault
  | [] => none
  | .group _ _ span :: _ => some ⟨.leftover closing, span, false⟩
  | tree :: _ => some ⟨.leftover closing, tree.headSpan, false⟩

/-- Takes a group and runs a parser on what it holds. -/
def within {α : Type} (d : Delimiter) (p : Parser α) : Parser (α × Span) := do
  let cursor ← get
  match cursor.rest with
  | .group e trees span :: after =>
    if d = e then
      match p.run ⟨trees, span.lastChar, cursor.leftover, []⟩ with
      | .error fault => throw fault
      | .ok (value, inner) =>
        let leftover := inner.leftover <|> leftoverFault (some d) inner.rest
        set { cursor with
          rest := after
          leftover := leftover
          written := .group d inner.written.reverse span :: cursor.written }
        return (value, span)
    else expected (groupName d)
  | _ => expected (groupName d)

/-- Takes a group of any kind as it is. -/
def anyGroup : Parser TokenTree := do
  match ← rest with
  | .group d trees span :: _ =>
    discard (take 1)
    return .group d trees span
  | _ => expected "delimiter"

/-- Items with commas between them up to the end; the last may have one too. -/
def commaList {α : Type} (item : Parser α) : Parser (List α) :=
  iterate (σ := List α) (fun done => do
    if ← atEnd then return .inr done.reverse
    let x ← item
    if ← atEnd then return .inr (x :: done).reverse
    punct ","
    return .inl (x :: done)) []

/-- The state before trees that end at `scope`. -/
def start (trees : Tokens) (scope : Span) : Cursor :=
  ⟨trees, scope, none, []⟩

/-- Runs a parser on all of some trees; `scope` is the place of their end. -/
def runAll {α : Type} (p : Parser α) (trees : Tokens) (scope : Span) : Except SyntaxFault α :=
  match p.run (start trees scope) with
  | .error fault => .error fault
  | .ok (value, cursor) =>
    match cursor.leftover <|> leftoverFault none cursor.rest with
    | some fault => .error fault
    | none => .ok value

end Parser

end RestClient.Code
