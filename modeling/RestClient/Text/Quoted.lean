import RestClient.Text.Octets
import RestClient.Text.Printable

/-!
# Quoted text

A text between double quotes, with escapes for what does not show. A single quote stays as it is.

## Main definitions

- `escaped` — how a character is written
- `quote` — a text with its quotes
-/

namespace RestClient.Text

/-- The lower-case hexadecimal digits of a number, without leading zeros. The fuel is the number of
digits at most. -/
def hexDigits : Nat → Nat → List Char
  | 0, _ => []
  | fuel + 1, n =>
    if n < 16 then [hexDigit n] else hexDigits fuel (n / 16) ++ [hexDigit (n % 16)]

/-- How a character other than NUL is written: letter escapes for the usual ones, its number where
it joins the character before it or does not show. -/
def escaped (c : Char) : List Char :=
  match c with
  | '\t' => ['\\', 't']
  | '\r' => ['\\', 'r']
  | '\n' => ['\\', 'n']
  | '"' => ['\\', '"']
  | '\\' => ['\\', '\\']
  | c =>
    if isGraphemeExtend c || !isPrintable c then
      ['\\', 'u', '{'] ++ hexDigits 6 c.toNat ++ ['}']
    else [c]

/-- An octal digit, which would be read as part of a short NUL escape before it. -/
def isOctalDigit (c : Char) : Bool :=
  '0' ≤ c && c ≤ '7'

/-- The characters of a text, escaped. NUL is short unless an octal digit follows. -/
def escapedChars : List Char → List Char
  | [] => []
  | c :: cs =>
    let first :=
      if c.toNat = 0 then
        if (cs.head?.map isOctalDigit).getD false then ['\\', 'x', '0', '0'] else ['\\', '0']
      else escaped c
    first ++ escapedChars cs

/-- A text with its quotes. -/
def quote (cs : List Char) : List Char :=
  '"' :: escapedChars cs ++ ['"']

end RestClient.Text
