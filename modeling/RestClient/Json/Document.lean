import RestClient.Json.Floating
import RestClient.Text.Octets

/-!
# JSON documents

The syntax tree of a JSON text. Numbers and strings are kept as written, and an object keeps every
member, so that what a reader makes of them is decided later. A text in a part that no reader looks
at only has to be well-formed.

## Main definitions

- `NumberText` — a number as written
- `Document` — the tree
- `Document.read?` — the tree of a whole text
-/

namespace RestClient.Json

open Text (Octets)

/-- A number as written: its sign, the digits before the point, those after it, and the exponent
with its sign. -/
structure NumberText where
  negative : Bool
  whole : List Nat
  fraction : Option (List Nat)
  exponent : Option (Bool × List Nat)
  deriving DecidableEq, Repr

/-- A JSON text. A string is the octets between its quotes. A number whose double is known need not
have been written. -/
inductive Document where
  | null
  | bool (value : Bool)
  | number (text : NumberText)
  | real (x : Double)
  | string (raw : Octets)
  | array (items : List Document)
  | object (members : List (Octets × Document))

/-- The octet of an ASCII character. -/
abbrev octet (c : Char) : UInt8 :=
  c.toUInt8

/-- White space between the tokens of a JSON text. -/
def isSpace (b : UInt8) : Bool :=
  b == 0x20 || b == 0x09 || b == 0x0a || b == 0x0d

/-- `octets` from the first octet that is no white space. -/
def skipSpace (octets : Octets) : Octets :=
  octets.dropWhile isSpace

/-- An ASCII digit. -/
def isDigit (b : UInt8) : Bool :=
  octet '0' ≤ b && b ≤ octet '9'

/-- A hexadecimal digit of either case. -/
def isHexDigit (b : UInt8) : Bool :=
  isDigit b || (octet 'a' ≤ b && b ≤ octet 'f') || (octet 'A' ≤ b && b ≤ octet 'F')

/-- The longest run of digits at the start, and what follows it. -/
def readDigits (octets : Octets) : List Nat × Octets :=
  ((octets.takeWhile isDigit).map fun b => b.toNat - 0x30, octets.dropWhile isDigit)

/-- At least one digit. -/
def readDigits1 (octets : Octets) : Option (List Nat × Octets) :=
  match readDigits octets with
  | ([], _) => none
  | found => some found

/-- The part of a number from its point on. -/
def readFraction : Octets → Option (Option (List Nat) × Octets)
  | b :: rest =>
    if b == octet '.' then (readDigits1 rest).map fun (digits, rest) => (some digits, rest)
    else some (none, b :: rest)
  | [] => some (none, [])

/-- The sign that may stand before an exponent; `true` for a minus. -/
def readExponentSign : Octets → Bool × Octets
  | b :: rest =>
    if b == octet '-' then (true, rest)
    else if b == octet '+' then (false, rest)
    else (false, b :: rest)
  | [] => (false, [])

/-- The part of a number from its exponent mark on. -/
def readExponent : Octets → Option (Option (Bool × List Nat) × Octets)
  | b :: rest =>
    if b == octet 'e' || b == octet 'E' then
      let (negative, rest) := readExponentSign rest
      (readDigits1 rest).map fun (digits, rest) => (some (negative, digits), rest)
    else some (none, b :: rest)
  | [] => some (none, [])

/-- A number after its sign. A zero is the only digit before the point that starts with zero. -/
def readUnsigned (negative : Bool) (octets : Octets) : Option (NumberText × Octets) := do
  let (whole, rest) ← readDigits1 octets
  if whole.head? = some 0 ∧ 1 < whole.length then none
  else
    let (fraction, rest) ← readFraction rest
    let (exponent, rest) ← readExponent rest
    pure (⟨negative, whole, fraction, exponent⟩, rest)

/-- A number. -/
def readNumber : Octets → Option (NumberText × Octets)
  | b :: rest => if b == octet '-' then readUnsigned true rest else readUnsigned false (b :: rest)
  | [] => none

/-- The octets up to the closing quote and what follows it. Control characters are refused, and an
escape has to be one that exists. -/
def readString : Octets → Option (Octets × Octets)
  | [] => none
  | b :: rest =>
    if b == octet '"' then some ([], rest)
    else if b < 0x20 then none
    else if b == octet '\\' then
      match rest with
      | [] => none
      | e :: rest =>
        if e == octet 'u' then
          match rest with
          | h1 :: h2 :: h3 :: h4 :: rest =>
            if isHexDigit h1 && isHexDigit h2 && isHexDigit h3 && isHexDigit h4 then
              (readString rest).map fun (raw, rest) =>
                (b :: e :: h1 :: h2 :: h3 :: h4 :: raw, rest)
            else none
          | _ => none
        else if ['"', '\\', '/', 'b', 'f', 'n', 'r', 't'].any (octet · == e) then
          (readString rest).map fun (raw, rest) => (b :: e :: raw, rest)
        else none
    else (readString rest).map fun (raw, rest) => (b :: raw, rest)

/-- `rest` after the octets of `word`, if it starts with them. -/
def dropWord? (word : String) (octets : Octets) : Option Octets :=
  let w := Text.octetsOf word
  if octets.take w.length = w then some (octets.drop w.length) else none

mutual

/-- A value at the start of `octets`, and what follows it. The fuel bounds the nesting. -/
def readDocument : Nat → Octets → Option (Document × Octets)
  | 0, _ => none
  | fuel + 1, octets =>
    match skipSpace octets with
    | [] => none
    | b :: rest =>
      if b == octet 'n' then (dropWord? "ull" rest).map (Document.null, ·)
      else if b == octet 't' then (dropWord? "rue" rest).map (Document.bool true, ·)
      else if b == octet 'f' then (dropWord? "alse" rest).map (Document.bool false, ·)
      else if b == octet '"' then
        (readString rest).map fun (raw, rest) => (Document.string raw, rest)
      else if b == octet '[' then
        match skipSpace rest with
        | [] => none
        | c :: after =>
          if c == octet ']' then some (.array [], after)
          else (readItems fuel (c :: after)).map fun (items, rest) => (.array items, rest)
      else if b == octet '{' then
        match skipSpace rest with
        | [] => none
        | c :: after =>
          if c == octet '}' then some (.object [], after)
          else (readMembers fuel (c :: after)).map fun (members, rest) => (.object members, rest)
      else (readNumber (b :: rest)).map fun (n, rest) => (.number n, rest)

/-- The items of an array up to its closing bracket. -/
def readItems : Nat → Octets → Option (List Document × Octets)
  | 0, _ => none
  | fuel + 1, octets =>
    match readDocument fuel octets with
    | none => none
    | some (item, rest) =>
      match skipSpace rest with
      | [] => none
      | b :: rest =>
        if b == octet ']' then some ([item], rest)
        else if b == octet ',' then
          (readItems fuel rest).map fun (items, rest) => (item :: items, rest)
        else none

/-- The members of an object up to its closing brace. -/
def readMembers : Nat → Octets → Option (List (Octets × Document) × Octets)
  | 0, _ => none
  | fuel + 1, octets =>
    match skipSpace octets with
    | [] => none
    | q :: rest =>
      if q == octet '"' then
        match readString rest with
        | none => none
        | some (key, rest) =>
          match skipSpace rest with
          | [] => none
          | colon :: rest =>
            if colon == octet ':' then
              match readDocument fuel rest with
              | none => none
              | some (item, rest) =>
                match skipSpace rest with
                | [] => none
                | b :: rest =>
                  if b == octet '}' then some ([(key, item)], rest)
                  else if b == octet ',' then
                    (readMembers fuel rest).map fun (members, rest) =>
                      ((key, item) :: members, rest)
                  else none
            else none
      else none

end

/-- The tree of a whole JSON text; white space may surround it. -/
def Document.read? (octets : Octets) : Option Document :=
  match readDocument (octets.length + 1) octets with
  | some (document, rest) => if (skipSpace rest).isEmpty then some document else none
  | none => none

end RestClient.Json
