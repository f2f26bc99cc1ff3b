/-!
# Binary floating-point data

The value that the bits of a floating-point datum stand for, and the datum nearest to a fraction
of natural numbers. Everything is exact arithmetic on natural numbers and integers.

## Main definitions

- `Layout` — the widths of a format's fields, with `Layout.double` and `Layout.single`
- `Datum` — what bits stand for
- `Layout.decode` — the datum of bits
- `Layout.nearest` — the bits of the datum nearest to a fraction, ties to even
-/

namespace RestClient.Decimal

/-- The widths of the fraction and of the exponent of a binary interchange format. -/
structure Layout where
  fractionBits : Nat
  exponentBits : Nat
  deriving DecidableEq, Repr

/-- Double precision: 64 bits. -/
def Layout.double : Layout := ⟨52, 11⟩

/-- Single precision: 32 bits. -/
def Layout.single : Layout := ⟨23, 8⟩

/-- What bits stand for; a finite datum is `mantissa * 2 ^ exponent` with a sign. -/
inductive Datum where
  | nan
  | infinite (negative : Bool)
  | finite (negative : Bool) (mantissa : Nat) (exponent : Int)
  deriving DecidableEq, Repr

namespace Layout

/-- The exponent of the unit in the last place of the smallest data. -/
def leastExponent (l : Layout) : Int :=
  2 - (Nat.pow 2 (l.exponentBits - 1) : Nat) - l.fractionBits

/-- The bits of positive infinity. -/
def infinity (l : Layout) : Nat :=
  (Nat.pow 2 l.exponentBits - 1) * Nat.pow 2 l.fractionBits

/-- The bit that holds the sign. -/
def signBit (l : Layout) : Nat :=
  Nat.pow 2 (l.fractionBits + l.exponentBits)

/-- The datum of bits. -/
def decode (l : Layout) (bits : Nat) : Datum :=
  let fraction := bits % Nat.pow 2 l.fractionBits
  let exponent := bits / Nat.pow 2 l.fractionBits % Nat.pow 2 l.exponentBits
  let negative := bits / l.signBit % 2 == 1
  if exponent = Nat.pow 2 l.exponentBits - 1 then
    if fraction = 0 then .infinite negative else .nan
  else if exponent = 0 then
    .finite negative fraction l.leastExponent
  else
    .finite negative (Nat.pow 2 l.fractionBits + fraction) (l.leastExponent + (exponent - 1 : Nat))

/-- `num / den` rounded to a natural number, a half to the even neighbour. -/
def roundHalfEven (num den : Nat) : Nat :=
  let q := num / den
  let r := num % den
  if 2 * r < den then q
  else if den < 2 * r then q + 1
  else if q % 2 = 0 then q else q + 1

/-- The bits of the datum nearest to the fraction `num / den` with a positive denominator, a tie
going to the even mantissa. What is too large becomes infinity. -/
def nearest (l : Layout) (num den : Nat) : Nat :=
  if num = 0 then 0
  else
    let scale : Int := (Nat.log2 num : Int) - Nat.log2 den - l.fractionBits
    -- the quotient by the power of two at `scale` has one bit too few where the guess is high
    let fits (e : Int) : Bool :=
      if 0 ≤ e then Nat.pow 2 l.fractionBits * den * Nat.pow 2 e.toNat ≤ num
      else Nat.pow 2 l.fractionBits * den ≤ num * Nat.pow 2 (-e).toNat
    let exponent := max l.leastExponent (if fits scale then scale else scale - 1)
    let mantissa :=
      if 0 ≤ exponent then roundHalfEven num (den * Nat.pow 2 exponent.toNat)
      else roundHalfEven (num * Nat.pow 2 (-exponent).toNat) den
    min l.infinity ((exponent - l.leastExponent).toNat * Nat.pow 2 l.fractionBits + mantissa)

/-- The bits of the datum nearest to `digits * 10 ^ exponent`. -/
def nearestDecimal (l : Layout) (digits : Nat) (exponent : Int) : Nat :=
  if 0 ≤ exponent then l.nearest (digits * Nat.pow 10 exponent.toNat) 1
  else l.nearest digits (Nat.pow 10 (-exponent).toNat)

end Layout

end RestClient.Decimal
