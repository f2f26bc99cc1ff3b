import RestClient.Code.Token
import RestClient.Text.IdentifierClass

/-!
# Literals and names

Where a literal ends in a text, and what a string literal stands for. Each scanner takes a text
and gives what follows the literal at its start. A text can be an identifier by its characters
alone.

## Main definitions

- `literalRest?` — a literal of any kind
- `stringValue?` — the text and the suffix of a string literal
- `TokenTree.code`, `codeOf` — the plain form of tokens, in which every string is written alike
- `isIdentifier` — whether a text can be an identifier
- `plainName` — a name without the mark of a raw identifier
-/

namespace RestClient.Code

open Text (isIdentStart isIdentContinue)

/-! ### Identifiers and suffixes -/

/-- What follows an identifier without raw mark. -/
def identRest? : List Char → Option (List Char)
  | [] => none
  | c :: cs => if isIdentStart c then some (cs.dropWhile isIdentContinue) else none

/-- What follows the suffix that a literal may have. -/
def dropSuffix (cs : List Char) : List Char :=
  (identRest? cs).getD cs

/-- A literal ends here unless an identifier goes on. -/
def wordBreak? : List Char → Option (List Char)
  | [] => some []
  | c :: cs => if isIdentContinue c then none else some (c :: cs)

/-! ### Escapes -/

/-- A character that a letter escape stands for, NUL apart. -/
def letterEscape? : Char → Option Char
  | 'n' => some '\n'
  | 'r' => some '\r'
  | 't' => some '\t'
  | '\\' => some '\\'
  | '\'' => some '\''
  | '"' => some '"'
  | _ => none

/-- The number in the braces of an escape, and what follows: up to six hexadecimal digits, with
underscores after the first. -/
def bracedNumber? (digits value : Nat) : List Char → Option (Nat × List Char)
  | [] => none
  | c :: cs =>
    if c = '_' then if 0 < digits then bracedNumber? digits value cs else none
    else if c = '}' then if 0 < digits then some (value, cs) else none
    else
      match Text.hexValue? c with
      | none => none
      | some d => if digits = 6 then none else bracedNumber? (digits + 1) (16 * value + d) cs

/-- The character that a braced escape stands for, and what follows; `cs` starts at the brace. -/
def unicodeEscape? : List Char → Option (Char × List Char)
  | '{' :: cs =>
    match bracedNumber? 0 0 cs with
    | some (n, rest) => if n.isValidChar then some (Char.ofNat n, rest) else none
    | none => none
  | _ => none

/-- The number of an escape of two hexadecimal digits, and what follows. -/
def byteEscape? : List Char → Option (Nat × List Char)
  | a :: b :: rest =>
    match Text.hexValue? a, Text.hexValue? b with
    | some high, some low => some (16 * high + low, rest)
    | _, _ => none
  | _ => none

/-- What may stand in the kinds of quoted literals. -/
structure QuotedForm where
  /-- Only ASCII characters. -/
  ascii : Bool
  /-- No NUL in any form. -/
  nonZero : Bool
  /-- The greatest number of an escape of two digits. -/
  byteLimit : Nat
  /-- Whether braced escapes exist. -/
  braced : Bool

/-- Strings. -/
def QuotedForm.string : QuotedForm := ⟨false, false, 0x7f, true⟩

/-- Strings of octets. -/
def QuotedForm.octets : QuotedForm := ⟨true, false, 0xff, false⟩

/-- Strings that end with a NUL of their own. -/
def QuotedForm.terminated : QuotedForm := ⟨false, true, 0xff, true⟩

/-- What follows the escape whose backslash has been read. -/
def escapeRest? (form : QuotedForm) : List Char → Option (List Char)
  | [] => none
  | c :: cs =>
    if c = 'x' then
      match byteEscape? cs with
      | some (n, rest) =>
        if n ≤ form.byteLimit && !(form.nonZero && n == 0) then some rest else none
      | none => none
    else if c = 'u' && form.braced then
      match unicodeEscape? cs with
      | some (d, rest) => if form.nonZero && d.toNat == 0 then none else some rest
      | none => none
    else if c = '0' && !form.nonZero then some cs
    else if (letterEscape? c).isSome then some cs
    else none

/-- The white space of ASCII that a continued line may start with. -/
def isLineBlank (c : Char) : Bool :=
  c == ' ' || c == '\t' || c == '\n' || c == '\r'

/-- What follows the white space after the backslash at the end of a line. Every carriage return
needs its line feed, and something has to follow. -/
def continuedLine? : List Char → Option (List Char)
  | [] => none
  | [c] => if isLineBlank c then none else some [c]
  | c :: d :: cs =>
    if c = '\r' then if d = '\n' then continuedLine? cs else none
    else if isLineBlank c then continuedLine? (d :: cs)
    else some (c :: d :: cs)

/-- What follows a quoted literal whose opening quote has been read, and its suffix. The fuel is
the length of the text. -/
def quotedRest? (form : QuotedForm) : Nat → List Char → Option (List Char)
  | 0, _ => none
  | _, [] => none
  | fuel + 1, c :: cs =>
    if c = '"' then some (dropSuffix cs)
    else if c = '\r' then
      match cs with
      | '\n' :: rest => quotedRest? form fuel rest
      | _ => none
    else if c = '\\' then
      match cs with
      | '\n' :: _ | '\r' :: _ => (continuedLine? cs).bind (quotedRest? form fuel)
      | _ => (escapeRest? form cs).bind (quotedRest? form fuel)
    else if form.ascii && 0x80 ≤ c.toNat then none
    else if form.nonZero && c.toNat == 0 then none
    else quotedRest? form fuel cs

/-- What follows the end of a raw literal with `hashes` hash marks, and its suffix. -/
def rawRest? (form : QuotedForm) (hashes : List Char) : List Char → Option (List Char)
  | [] => none
  | c :: cs =>
    if c = '"' && hashes.isPrefixOf cs then some (dropSuffix (cs.drop hashes.length))
    else if c = '\r' && cs.head? != some '\n' then none
    else if form.ascii && 0x80 ≤ c.toNat then none
    else if form.nonZero && c.toNat == 0 then none
    else rawRest? form hashes cs

/-- What follows a raw literal whose letters have been read. -/
def rawLiteral? (form : QuotedForm) (cs : List Char) : Option (List Char) :=
  let hashes := cs.takeWhile (· == '#')
  match cs.drop hashes.length with
  | '"' :: rest => if hashes.length ≤ 255 then rawRest? form hashes rest else none
  | _ => none

/-- What follows a literal that may be quoted or raw, after `mark`. -/
def stringRest? (form : QuotedForm) (mark cs : List Char) : Option (List Char) :=
  if mark.isPrefixOf cs then
    match cs.drop mark.length with
    | '"' :: rest => quotedRest? form (rest.length + 1) rest
    | 'r' :: rest => rawLiteral? form rest
    | _ => none
  else none

/-- What follows the character of a character literal, up to its closing quote. -/
def quotedChar? (form : QuotedForm) : List Char → Option (List Char)
  | '\\' :: cs => escapeRest? form cs
  | c :: cs => if form.ascii && 0x80 ≤ c.toNat then none else some cs
  | [] => none

/-- What follows a literal between single quotes, after `mark`. -/
def charRest? (form : QuotedForm) (mark cs : List Char) : Option (List Char) :=
  if mark.isPrefixOf cs then
    match quotedChar? form (cs.drop mark.length) with
    | some ('\'' :: rest) => some (dropSuffix rest)
    | _ => none
  else none

/-! ### Numbers -/

/-- A digit or an underscore. -/
def isNumberChar (c : Char) : Bool :=
  Text.isAsciiDigit c || c == '_'

/-- What follows the exponent whose mark has been read: signs, digits and underscores, with one
digit at least. `none` where there is no exponent. -/
def exponentRest? (cs : List Char) : Option (List Char) :=
  let cs := cs.dropWhile (· == '_')
  let cs :=
    match cs with
    | '+' :: rest | '-' :: rest => rest
    | _ => cs
  let digits := cs.takeWhile isNumberChar
  if digits.any Text.isAsciiDigit then some (cs.drop digits.length) else none

/-- What follows the digits of a number with a point or an exponent. -/
def floatDigits? : List Char → Option (List Char)
  | [] => none
  | c :: cs =>
    if Text.isAsciiDigit c then
      match cs.dropWhile isNumberChar with
      | '.' :: rest =>
        if (rest.head?.map fun d => d == '.' || isIdentStart d).getD false then none
        else
          match rest.dropWhile isNumberChar with
          | 'e' :: tail | 'E' :: tail =>
            some ((exponentRest? tail).getD (rest.dropWhile isNumberChar))
          | tail => some tail
      | 'e' :: tail | 'E' :: tail => exponentRest? tail
      | _ => none
    else none

/-- What follows the digits of an integer in the base that its mark names. -/
def intDigits? (cs : List Char) : Option (List Char) :=
  let (base, digits) :=
    match cs with
    | '0' :: 'x' :: rest => (16, rest)
    | '0' :: 'o' :: rest => (8, rest)
    | '0' :: 'b' :: rest => (2, rest)
    | _ => (10, cs)
  let isDigitOf (c : Char) : Bool :=
    ((Text.hexValue? c).map fun d => d < base || Text.isAsciiDigit c).getD false
  let number := digits.takeWhile fun c => isDigitOf c || c == '_'
  let tooLarge := number.any fun c => ((Text.hexValue? c).map fun d => decide (base ≤ d)).getD false
  let startsBlank := base == 10 && number.head? == some '_'
  if tooLarge || startsBlank || number.all (· == '_') then none
  else some (digits.drop number.length)

/-- What follows a number and its suffix. -/
def numberRest? (cs : List Char) : Option (List Char) :=
  ((floatDigits? cs).bind fun rest => wordBreak? (dropSuffix rest)) <|>
    ((intDigits? cs).bind fun rest => wordBreak? (dropSuffix rest))

/-- What follows a literal of any kind. -/
def literalRest? (cs : List Char) : Option (List Char) :=
  stringRest? .string [] cs <|> stringRest? .octets ['b'] cs <|>
    stringRest? .terminated ['c'] cs <|> charRest? .octets ['b', '\''] cs <|>
    charRest? .string ['\''] cs <|> numberRest? cs

/-! ### Values of strings -/

/-- The characters of a quoted string up to its closing quote, and the suffix. A line break is one
character, and a backslash before it swallows the white space that follows. The fuel is the length
of the text. -/
def quotedValue? : Nat → List Char → Option (List Char × List Char)
  | 0, _ => none
  | _, [] => none
  | fuel + 1, c :: cs =>
    if c = '"' then some ([], cs)
    else if c = '\r' then
      (quotedValue? fuel (cs.drop 1)).map fun (value, suffix) => ('\n' :: value, suffix)
    else if c = '\\' then
      match cs with
      | [] => none
      | e :: rest =>
        if e = '\n' || e = '\r' then quotedValue? fuel (rest.dropWhile isLineBlank)
        else
          let found :=
            if e = 'x' then (byteEscape? rest).map fun (n, rest) => (Char.ofNat n, rest)
            else if e = 'u' then unicodeEscape? rest
            else if e = '0' then some (Char.ofNat 0, rest)
            else (letterEscape? e).map (·, rest)
          match found with
          | none => none
          | some (d, rest) =>
            (quotedValue? fuel rest).map fun (value, suffix) => (d :: value, suffix)
    else (quotedValue? fuel cs).map fun (value, suffix) => (c :: value, suffix)

/-- The characters of a raw string up to its end, and the suffix. -/
def rawValue? (hashes : List Char) : List Char → Option (List Char × List Char)
  | [] => none
  | c :: cs =>
    if c = '"' && hashes.isPrefixOf cs then some ([], cs.drop hashes.length)
    else (rawValue? hashes cs).map fun (value, suffix) => (c :: value, suffix)

/-- The text that a string literal stands for, and its suffix; `none` for other literals. -/
def stringValue? (literal : List Char) : Option (List Char × List Char) :=
  match literal with
  | '"' :: cs => quotedValue? (cs.length + 1) cs
  | 'r' :: cs =>
    let hashes := cs.takeWhile (· == '#')
    match cs.drop hashes.length with
    | '"' :: rest => rawValue? hashes rest
    | _ => none
  | _ => none

/-! ### The plain form -/

/-- How a literal stands in plain code: a string is written from its value, any other literal as
it is. -/
def plainLiteral (literal : String) : String :=
  match stringValue? literal.toList with
  | some (value, suffix) => String.ofList (Text.quote value ++ suffix)
  | none => literal

mutual

/-- The plain form of a tree. -/
def TokenTree.code : TokenTree → PlainCode
  | .ident text _ | .lifetime text _ => [text]
  | .punct c _ _ => [c.toString]
  | .literal text _ => [plainLiteral text]
  | .group d trees _ => d.opening.toString :: codeOf trees ++ [d.closing.toString]

/-- The plain form of a list of trees. -/
def codeOf : Tokens → PlainCode
  | [] => []
  | tree :: rest => tree.code ++ codeOf rest

end

/-- A string literal in plain code. -/
def stringLiteral (text : String) : String :=
  String.ofList (Text.quote text.toList)

/-! ### Identifiers -/

/-- Whether a text can be an identifier: its characters are those of one. -/
def isIdentifier (name : String) : Bool :=
  match name.toList with
  | [] => false
  | c :: cs => Text.isIdentStart c && cs.all Text.isIdentContinue

/-- The name of an identifier: the mark of a raw one is not part of it. -/
def plainName (name : String) : String :=
  match name.toList with
  | 'r' :: '#' :: rest => String.ofList rest
  | _ => name

/-- The wording for a text that is used as a name and cannot be an identifier. -/
def illegalIdentifierMessage (name : String) : String :=
  stringLiteral name ++ " is not a valid Ident"

end RestClient.Code
