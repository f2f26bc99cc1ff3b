import RestClient.Code.Literal
import RestClient.Text.Basic

/-!
# Reading tokens

A text cut into tokens. Gaps are white space and comments; a documentation comment is the attribute
that it abbreviates. Nothing but a character that starts no token, a literal that does not end, or
a delimiter without its partner makes a text unreadable.

## Main definitions

- `skipGaps` — the text from the next token on
- `Lexeme` — a token without its place
- `lexeme?` — the token at the start of a text
- `Tokens.read?` — the trees of a whole text
-/

namespace RestClient.Code

open Text (isIdentStart isIdentContinue)

/-! ### Gaps -/

/-- White space between tokens, which includes the marks of writing direction. -/
def isGap (c : Char) : Bool :=
  let n := c.toNat
  if n < 0x80 then c == ' ' || (0x09 ≤ n && n ≤ 0x0d)
  else Text.isBlank c || n == 0x200e || n == 0x200f

/-- What follows the comment that is open `depth` times. Comments nest. -/
def commentRest? : Nat → List Char → Option (List Char)
  | depth, '/' :: '*' :: cs => commentRest? (depth + 1) cs
  | depth, '*' :: '/' :: cs => if depth ≤ 1 then some cs else commentRest? (depth - 1) cs
  | depth, _ :: cs => commentRest? depth cs
  | _, [] => none

/-- The line that a text starts with, and what follows it: the line feed stays, a carriage return
before it is dropped from both. -/
def splitLine : List Char → List Char × List Char
  | [] => ([], [])
  | '\n' :: cs => ([], '\n' :: cs)
  | '\r' :: '\n' :: cs => ([], '\n' :: cs)
  | c :: cs => let (line, rest) := splitLine cs; (c :: line, rest)

/-- Whether `word` stands at the start of `cs`. -/
def startsWith (word : String) (cs : List Char) : Bool :=
  word.toList.isPrefixOf cs

/-- What follows one gap: a comment that documents nothing, or a blank. -/
def gapRest? (cs : List Char) : Option (List Char) :=
  if startsWith "//" cs && (!startsWith "///" cs || startsWith "////" cs) &&
      !startsWith "//!" cs then some (splitLine cs).2
  else if startsWith "/**/" cs then some (cs.drop 4)
  else if startsWith "/*" cs && (!startsWith "/**" cs || startsWith "/***" cs) &&
      !startsWith "/*!" cs then commentRest? 0 cs
  else
    match cs with
    | c :: rest => if isGap c then some rest else none
    | [] => none

/-- The text from the next token on. -/
def skipGaps (cs : List Char) : List Char :=
  match gapRest? cs with
  | some rest => if rest.length < cs.length then skipGaps rest else cs
  | none => cs
  termination_by cs.length

/-! ### Single tokens -/

/-- A token without its place. -/
inductive Lexeme where
  | opening (delimiter : Delimiter)
  | closing (delimiter : Delimiter)
  | ident (text : List Char)
  | lifetime (text : List Char)
  | punct (char : Char) (joint : Bool)
  | literal (text : List Char)
  | doc (inner : Bool) (text : List Char)
  deriving DecidableEq, Repr

/-- The punctuation characters. -/
def punctuation : List Char :=
  "~!@#$%^&*-=+|;:,<.>/?".toList

/-- The punctuation character at the start of a text; a slash that starts a comment is none. -/
def punctRest? : List Char → Option (Char × List Char)
  | [] => none
  | c :: cs =>
    if startsWith "//" (c :: cs) || startsWith "/*" (c :: cs) then none
    else if punctuation.contains c || c == '\'' then some (c, cs)
    else none

/-- The names that have no raw form. -/
def neverRaw : List String :=
  ["_", "super", "self", "Self", "crate"]

/-- What follows an identifier, raw or not. -/
def anyIdentRest? (cs : List Char) : Option (List Char) :=
  if startsWith "r#" cs then
    let name := cs.drop 2
    match identRest? name with
    | some rest =>
      if neverRaw.contains (String.ofList (name.take (name.length - rest.length))) then none
      else some rest
    | none => none
  else identRest? cs

/-- The beginnings of literals, which are no identifiers even where the literal does not end. -/
def literalMarks : List String :=
  ["r\"", "r#\"", "r##", "b\"", "b'", "br\"", "br#", "c\"", "cr\"", "cr#"]

/-- What follows a lifetime; a quote after it would make it a character. -/
def lifetimeRest? : List Char → Option (List Char)
  | '\'' :: cs =>
    match anyIdentRest? cs with
    | some rest =>
      if rest.head? == some '\'' || (rest.head? == some '#' && !startsWith "r#" cs) then none
      else some rest
    | none => none
  | _ => none

/-- The documentation comment at the start of a text. -/
def docRest? (cs : List Char) : Option (Bool × List Char × List Char) :=
  let block (inner : Bool) : Option (Bool × List Char × List Char) :=
    (commentRest? 0 cs).map fun rest =>
      let whole := cs.take (cs.length - rest.length)
      (inner, (whole.drop 3).take (whole.length - 5), rest)
  let line (inner : Bool) : Option (Bool × List Char × List Char) :=
    let (text, rest) := splitLine (cs.drop 3)
    some (inner, text, rest)
  if startsWith "//!" cs then line true
  else if startsWith "/*!" cs then block true
  else if startsWith "///" cs then if startsWith "////" cs then none else line false
  else if startsWith "/**" cs && !startsWith "/***" cs then block false
  else none

/-- A carriage return without its line feed. -/
def hasBareReturn : List Char → Bool
  | [] => false
  | c :: cs => (c == '\r' && cs.head? != some '\n') || hasBareReturn cs

/-- The delimiter that a character opens. -/
def openingOf? : Char → Option Delimiter
  | '(' => some .parenthesis
  | '[' => some .bracket
  | '{' => some .brace
  | _ => none

/-- The delimiter that a character closes. -/
def closingOf? : Char → Option Delimiter
  | ')' => some .parenthesis
  | ']' => some .bracket
  | '}' => some .brace
  | _ => none

/-- The literal, lifetime, punctuation or identifier at the start of a text. -/
def leaf? (cs : List Char) : Option (Lexeme × List Char) :=
  let taken (rest : List Char) : List Char := cs.take (cs.length - rest.length)
  match literalRest? cs with
  | some rest => some (.literal (taken rest), rest)
  | none =>
    match lifetimeRest? cs with
    | some rest => some (.lifetime (taken rest), rest)
    | none =>
      match punctRest? cs with
      | some (c, rest) =>
        if c = '\'' then none else some (.punct c (punctRest? rest).isSome, rest)
      | none =>
        if literalMarks.any (startsWith · cs) then none
        else (anyIdentRest? cs).map fun rest => (.ident (taken rest), rest)

/-- The token at the start of a text that starts with no gap. -/
def lexeme? (cs : List Char) : Option (Lexeme × List Char) :=
  match docRest? cs with
  | some (inner, text, rest) =>
    if hasBareReturn text then none else some (.doc inner text, rest)
  | none =>
    match cs with
    | [] => none
    | c :: rest =>
      match openingOf? c with
      | some d => some (.opening d, rest)
      | none =>
        match closingOf? c with
        | some d => some (.closing d, rest)
        | none => leaf? cs

/-! ### Whole texts -/

/-- The place after `cs`. -/
def Position.after (p : Position) (cs : List Char) : Position :=
  cs.foldl (fun p c => if c = '\n' then ⟨p.line + 1, 0⟩ else ⟨p.line, p.column + 1⟩) p

/-- The tokens of a text that starts at `p`. The fuel is the length of the text. -/
def lexemes : Nat → Position → List Char → Option (List (Lexeme × Span))
  | 0, _, _ => some []
  | fuel + 1, p, cs =>
    let found := skipGaps cs
    if found.isEmpty then some []
    else
      match lexeme? found with
      | none => none
      | some (lexeme, rest) =>
        let start := p.after (cs.take (cs.length - found.length))
        let stop := start.after (found.take (found.length - rest.length))
        (lexemes fuel stop rest).map ((lexeme, ⟨start, stop⟩) :: ·)

/-- The trees of a documentation comment: the attribute `doc` with its text. -/
def docTokens (inner : Bool) (text : List Char) (span : Span) : Tokens :=
  let mark : Tokens := if inner then [.punct '!' false span] else []
  [.punct '#' false span] ++ mark ++
    [.group .bracket
      [.ident "doc" span, .punct '=' false span,
        .literal (String.ofList (Text.quote text)) span]
      span]

/-- A group that has not been closed: its delimiter, where it was opened, and the trees before it,
the last one first. -/
structure OpenGroup where
  delimiter : Delimiter
  start : Position
  before : Tokens

/-- The trees of tokens. `current` holds the trees of the innermost group, the last one first. -/
def treesOf (groups : List OpenGroup) (current : Tokens) :
    List (Lexeme × Span) → Option Tokens
  | [] => if groups.isEmpty then some current.reverse else none
  | (lexeme, span) :: rest =>
    match lexeme with
    | .opening d => treesOf (⟨d, span.start, current⟩ :: groups) [] rest
    | .closing d =>
      match groups with
      | [] => none
      | g :: outer =>
        if g.delimiter = d then
          treesOf outer (.group d current.reverse ⟨g.start, span.stop⟩ :: g.before) rest
        else none
    | .ident text => treesOf groups (.ident (String.ofList text) span :: current) rest
    | .lifetime text => treesOf groups (.lifetime (String.ofList text) span :: current) rest
    | .punct c joint => treesOf groups (.punct c joint span :: current) rest
    | .literal text => treesOf groups (.literal (String.ofList text) span :: current) rest
    | .doc inner text => treesOf groups ((docTokens inner text span).reverse ++ current) rest

/-- The trees of a whole text, if it can be read. A byte order mark at its start is skipped. -/
def Tokens.read? (text : String) : Option Tokens :=
  let cs := text.toList
  let (start, cs) :=
    match cs with
    | c :: rest => if c.toNat = 0xfeff then ((⟨1, 1⟩ : Position), rest) else (⟨1, 0⟩, cs)
    | [] => (⟨1, 0⟩, cs)
  (lexemes (cs.length + 1) start cs).bind (treesOf [] [])

end RestClient.Code
