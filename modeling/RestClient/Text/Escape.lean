import RestClient.Text.Octets

/-!
# Escapes in URLs

Texts written with percent escapes: each octet that may not stand as it is becomes a percent sign
and two hexadecimal digits. Paths and forms differ in what may stand; a form writes a space as a
plus sign.

## Main definitions

- `escapeBy` — a text with all octets escaped but some
- `escapePath`, `escapeForm` — texts as they are written in paths and in forms
- `unescape` — the octets that an escaped text stands for
-/

namespace RestClient.Text

/-- An octet as a percent sign and two hexadecimal digits. -/
def percentOctet (b : UInt8) : List Char :=
  ['%', upperHexDigit (b.toNat / 16), upperHexDigit (b.toNat % 16)]

/-- An ASCII octet as a character. -/
def charOfOctet (b : UInt8) : Char :=
  Char.ofNat b.toNat

/-- The ASCII characters that would not stay what they are in a segment of a path. -/
def pathSpecials : List Char :=
  [' ', '"', '#', '<', '>', '\x60', '?', '{', '}', '/', '\\', '%']

/-- Whether an octet stands as it is in a segment of a path. -/
def standsInPath (b : UInt8) : Bool :=
  0x20 ≤ b && b < 0x7f && !pathSpecials.contains (charOfOctet b)

/-- Whether an octet stands as it is in a form. -/
def standsInForm (b : UInt8) : Bool :=
  (0x30 ≤ b && b ≤ 0x39) || (0x41 ≤ b && b ≤ 0x5a) || (0x61 ≤ b && b ≤ 0x7a) ||
    b == 0x2a || b == 0x2d || b == 0x2e || b == 0x5f

/-- A text with every octet escaped that does not stand as it is. -/
def escapeBy (stands : UInt8 → Bool) (cs : List Char) : List Char :=
  (utf8 cs).flatMap fun b => if stands b then [charOfOctet b] else percentOctet b

/-- A text as a segment of a path. -/
def escapePath (cs : List Char) : List Char :=
  escapeBy standsInPath cs

/-- A text as a name or a value in a form. -/
def escapeForm (cs : List Char) : List Char :=
  (utf8 cs).flatMap fun b =>
    if standsInForm b then [charOfOctet b] else if b == 0x20 then ['+'] else percentOctet b

/-- The octets of an escaped text: each percent sign with two hexadecimal digits is an octet, every
other octet stands for itself. -/
def unescape : Octets → Octets
  | b :: h :: l :: rest =>
    if b == 0x25 then
      match hexValue? (charOfOctet h), hexValue? (charOfOctet l) with
      | some high, some low => UInt8.ofNat (16 * high + low) :: unescape rest
      | _, _ => b :: unescape (h :: l :: rest)
    else b :: unescape (h :: l :: rest)
  | octets => octets

end RestClient.Text
