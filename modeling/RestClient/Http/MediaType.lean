import RestClient.Http.Address

/-!
# Media types

The content type of a part of a multipart payload: a type, a slash and a subtype, and parameters
behind semicolons. What is written in any case is written in lower case: the two types, the names of
the parameters, and the name of a character set.

## Main definitions

- `isTokenChar` — the characters of tokens
- `MediaType.read?` — the canonical text of a media type
-/

namespace RestClient.Http

/-- A character of a token in a header. -/
def isTokenChar (c : Char) : Bool :=
  ('a' ≤ c && c ≤ 'z') || ('A' ≤ c && c ≤ 'Z') || ('0' ≤ c && c ≤ '9') ||
    "!#$%&'*+-.^_\x60|~".toList.contains c

namespace MediaType

/-- A character of a type: one of a token, but no asterisk. -/
def isTypeChar (c : Char) : Bool :=
  isTokenChar c && c != '*'

/-- A character between quotes. -/
def isQuotedChar (c : Char) : Bool :=
  ' ' ≤ c && c != '\x7f'

/-- A place in the parameters: before a parameter, in a name (of which the letters so far are known
backwards), before or in a value, before or in a quoted value, or behind one. A value may be that of
a character set. -/
inductive Place where
  | start
  | name (letters : List Char)
  | beforeValue (charset : Bool)
  | value (charset : Bool)
  | beforeQuoted (charset : Bool)
  | quoted (charset : Bool)
  | behind

/-- A character of a value in canonical case. -/
def valueChar (charset : Bool) (c : Char) : Char :=
  if charset then lowerAscii c else c

/-- The place after a character, and the character in canonical case. -/
def step? : Place → Char → Option (Place × Char)
  | .start, c =>
    if c == ' ' then some (.start, c)
    else if isTypeChar c then some (.name [lowerAscii c], lowerAscii c)
    else none
  | .name letters, c =>
    if c == '=' then some (.beforeValue (letters.reverse == "charset".toList), c)
    else if isTypeChar c then some (.name (lowerAscii c :: letters), lowerAscii c)
    else none
  | .beforeValue charset, c =>
    if c == '"' then some (.beforeQuoted charset, c)
    else if isTypeChar c then some (.value charset, valueChar charset c)
    else none
  | .value charset, c =>
    if c == ';' then some (.start, c)
    else if isTypeChar c then some (.value charset, valueChar charset c)
    else none
  | .beforeQuoted charset, c =>
    if isQuotedChar c then some (.quoted charset, valueChar charset c) else none
  | .quoted charset, c =>
    if c == '"' then some (.behind, c)
    else if isQuotedChar c then some (.quoted charset, valueChar charset c)
    else none
  | .behind, c =>
    if c == ';' then some (.start, c)
    else if c == ' ' then some (.behind, c)
    else none

/-- Whether the parameters may end at a place. -/
def Place.isEnd : Place → Bool
  | .start | .beforeValue _ | .value _ | .behind => true
  | .name _ | .beforeQuoted _ | .quoted _ => false

/-- The canonical text of parameters from a place on. -/
def parameters? (place : Place) : List Char → Option (List Char)
  | [] => if place.isEnd then some [] else none
  | c :: rest => do
    let (next, canonical) ← step? place c
    return canonical :: (← parameters? next rest)

/-- The canonical text of a media type. -/
def read? (text : List Char) : Option (List Char) :=
  let type := text.takeWhile isTypeChar
  match text.dropWhile isTypeChar with
  | '/' :: rest =>
    let subtype := rest.takeWhile isTypeChar
    let types := (type ++ '/' :: subtype).map lowerAscii
    if type.isEmpty then none
    else
      match rest.dropWhile isTypeChar with
      | [] => some types
      | ';' :: parameters =>
        if subtype.isEmpty then none
        else if parameters.all (· == ' ') then some types
        else (parameters? .start parameters).map fun canonical => types ++ ';' :: canonical
      | _ => none
  | rest => if rest == "*/*".toList then some rest else none

end MediaType

end RestClient.Http
