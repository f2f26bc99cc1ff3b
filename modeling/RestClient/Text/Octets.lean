/-!
# Octets and UTF-8

Texts as sequences of octets, and the reading of octets as UTF-8. A failed reading says where the
first ill-formed sequence starts and how long it is, or that the octets end inside a character.

## Main definitions

- `utf8` — the octets of a list of characters
- `readUtf8` — the characters of well-formed octets
- `Utf8Fault` — why octets are not UTF-8
- `hexText`, `readHex` — octets as pairs of hexadecimal digits
-/

namespace RestClient.Text

/-- A sequence of octets. -/
abbrev Octets := List UInt8

/-- The octets of `cs` in UTF-8. -/
def utf8 (cs : List Char) : Octets :=
  cs.flatMap String.utf8EncodeChar

/-- The octets of `s` in UTF-8. -/
def octetsOf (s : String) : Octets :=
  utf8 s.toList

/-- Why octets are not UTF-8: a sequence of `length` octets at `index` belongs to no character, or
the octets end inside the character that starts at `index`. -/
inductive Utf8Fault where
  | invalid (length index : Nat)
  | incomplete (index : Nat)
  deriving DecidableEq, Repr

/-- The wording of a fault. -/
def Utf8Fault.message : Utf8Fault → String
  | .invalid length index =>
    "invalid utf-8 sequence of " ++ toString length ++ " bytes from index " ++ toString index
  | .incomplete index => "incomplete utf-8 byte sequence from index " ++ toString index

/-- An octet of the form `10xxxxxx`. -/
def isContinuation (b : UInt8) : Bool :=
  0x80 ≤ b && b ≤ 0xbf

/-- How many octets follow the first octet `b` of a character, and the range of the second. -/
def leadOctet? (b : UInt8) : Option (Nat × UInt8 × UInt8) :=
  if 0xc2 ≤ b && b ≤ 0xdf then some (1, 0x80, 0xbf)
  else if b == 0xe0 then some (2, 0xa0, 0xbf)
  else if b == 0xed then some (2, 0x80, 0x9f)
  else if 0xe1 ≤ b && b ≤ 0xef then some (2, 0x80, 0xbf)
  else if b == 0xf0 then some (3, 0x90, 0xbf)
  else if 0xf1 ≤ b && b ≤ 0xf3 then some (3, 0x80, 0xbf)
  else if b == 0xf4 then some (3, 0x80, 0x8f)
  else none

/-- The first character of non-empty octets and the number of octets after its first, or the
length of the ill-formed sequence there, `none` where the octets end too early. -/
def readChar (b : UInt8) (rest : Octets) : Except (Option Nat) (Char × Nat) :=
  if b < 0x80 then .ok (Char.ofNat b.toNat, 0)
  else
    match leadOctet? b with
    | none => .error (some 1)
    | some (count, low, high) =>
      match rest with
      | [] => .error none
      | c :: rest =>
        if c < low || high < c then .error (some 1)
        else if count = 1 then
          .ok (Char.ofNat ((b.toNat % 32) * 64 + c.toNat % 64), 1)
        else
          match rest with
          | [] => .error none
          | d :: rest =>
            if !isContinuation d then .error (some 2)
            else if count = 2 then
              .ok (Char.ofNat ((b.toNat % 16) * 4096 + (c.toNat % 64) * 64 + d.toNat % 64), 2)
            else
              match rest with
              | [] => .error none
              | e :: _ =>
                if !isContinuation e then .error (some 3)
                else
                  .ok (Char.ofNat ((b.toNat % 8) * 262144 + (c.toNat % 64) * 4096 +
                    (d.toNat % 64) * 64 + e.toNat % 64), 3)

/-- `readUtf8` on octets that start at `index` of the whole. -/
def readUtf8From (index : Nat) : Octets → Except Utf8Fault (List Char)
  | [] => .ok []
  | b :: rest =>
    match readChar b rest with
    | .error none => .error (.incomplete index)
    | .error (some length) => .error (.invalid length index)
    | .ok (c, more) =>
      match readUtf8From (index + more + 1) (rest.drop more) with
      | .ok cs => .ok (c :: cs)
      | .error fault => .error fault
  termination_by octets => octets.length
  decreasing_by simp only [List.length_drop, List.length_cons]; omega

/-- The characters of octets in UTF-8, or the first fault. -/
def readUtf8 (octets : Octets) : Except Utf8Fault (List Char) :=
  readUtf8From 0 octets

/-- The text of octets in UTF-8, if they are. -/
def textOf? (octets : Octets) : Option String :=
  match readUtf8 octets with
  | .ok cs => some (String.ofList cs)
  | .error _ => none

/-- The lower-case hexadecimal digit of a number below 16. -/
def hexDigit (n : Nat) : Char :=
  if n < 10 then Char.ofNat (0x30 + n) else Char.ofNat (0x61 + (n - 10))

/-- The upper-case hexadecimal digit of a number below 16. -/
def upperHexDigit (n : Nat) : Char :=
  if n < 10 then Char.ofNat (0x30 + n) else Char.ofNat (0x41 + (n - 10))

/-- The value of a hexadecimal digit of either case. -/
def hexValue? (c : Char) : Option Nat :=
  if '0' ≤ c && c ≤ '9' then some (c.toNat - 0x30)
  else if 'a' ≤ c && c ≤ 'f' then some (c.toNat - 0x61 + 10)
  else if 'A' ≤ c && c ≤ 'F' then some (c.toNat - 0x41 + 10)
  else none

/-- Octets as pairs of lower-case hexadecimal digits. -/
def hexText (octets : Octets) : String :=
  String.ofList (octets.flatMap fun b => [hexDigit (b.toNat / 16), hexDigit (b.toNat % 16)])

/-- The octets that pairs of hexadecimal digits stand for. -/
def readHex : List Char → Option Octets
  | [] => some []
  | [_] => none
  | a :: b :: rest => do
    let high ← hexValue? a
    let low ← hexValue? b
    let octets ← readHex rest
    pure (UInt8.ofNat (16 * high + low) :: octets)

end RestClient.Text
