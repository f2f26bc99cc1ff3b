import RestClient.Decimal.Binary

/-!
# Reading decimals

The floating-point datum nearest to a decimal text: an optional sign, digits with an optional point,
and an optional exponent, or a word for infinity or for what is no number.

## Main definitions

- `Layout.read?` — the bits of a decimal text
-/

namespace RestClient.Decimal

/-- The number that digits write. -/
def digitsNumber (digits : List Char) : Nat :=
  digits.foldl (fun n c => n * 10 + (c.toNat - 0x30)) 0

/-- A decimal digit. -/
def isDecimalDigit (c : Char) : Bool :=
  '0' ≤ c && c ≤ '9'

/-- An exponent behind its mark, or none at the end of the text. -/
def readExponent? : List Char → Option Int
  | [] => some 0
  | mark :: rest =>
    if mark == 'e' || mark == 'E' then
      let (negative, digits) :=
        match rest with
        | '-' :: digits => (true, digits)
        | '+' :: digits => (false, digits)
        | digits => (false, digits)
      if !digits.isEmpty && digits.all isDecimalDigit then
        some (if negative then -(digitsNumber digits : Int) else digitsNumber digits)
      else none
    else none

/-- Digits, a point and an exponent: the significand and the power of ten. -/
def readParts? (cs : List Char) : Option (Nat × Int) :=
  let whole := cs.takeWhile isDecimalDigit
  let (fraction, rest) :=
    match cs.dropWhile isDecimalDigit with
    | '.' :: rest => (rest.takeWhile isDecimalDigit, rest.dropWhile isDecimalDigit)
    | rest => ([], rest)
  if whole.isEmpty && fraction.isEmpty then none
  else (readExponent? rest).map fun e => (digitsNumber (whole ++ fraction), e - fraction.length)

/-- The bits of `digits * 10 ^ exponent`. Powers far beyond every format are cut off. -/
def Layout.ofParts (l : Layout) (digits : Nat) (exponent : Int) : Nat :=
  if digits = 0 then 0
  else if 400 < exponent then l.infinity
  else if exponent + (toString digits).length < -400 then 0
  else l.nearestDecimal digits exponent

/-- The bits of a text without its sign. -/
def Layout.readUnsigned? (l : Layout) (cs : List Char) : Option Nat :=
  let word := String.ofList (cs.map Char.toLower)
  if word == "inf" || word == "infinity" then some l.infinity
  else if word == "nan" then some (l.infinity + Nat.pow 2 (l.fractionBits - 1))
  else (readParts? cs).map fun (digits, exponent) => l.ofParts digits exponent

/-- The bits of the datum nearest to a decimal text. -/
def Layout.read? (l : Layout) : List Char → Option Nat
  | '-' :: cs => (l.readUnsigned? cs).map (l.signBit + ·)
  | '+' :: cs => l.readUnsigned? cs
  | cs => l.readUnsigned? cs

end RestClient.Decimal
