import RestClient.Decimal.Binary

/-!
# Shortest decimals

The decimal with the fewest digits that reads back as a given floating-point datum; of two with
equally few digits the nearer one, and on a tie the even one.

A decimal reads back as the datum when it lies in the interval of numbers that round to it. On
the grid of decimals with a given number of digits only the two neighbours of the datum can lie
there and be nearest, so both are tested for one digit, two digits, and so on.

## Main definitions

- `Interval.contains` — a decimal rounds to the datum
- `shortest` — digits and exponent of the shortest decimal
- `Positional` — where positional notation ends
- `Positional.render` — the text of a finite datum
-/

namespace RestClient.Decimal

/-- The numbers that round to a positive datum. Ends and datum are multiples of one unit; the unit
is `2 ^ exponent`. -/
structure Interval where
  low : Nat
  value : Nat
  high : Nat
  closed : Bool
  exponent : Int
  deriving DecidableEq, Repr

/-- The interval of the datum `mantissa * 2 ^ exponent`. Below a power of two the neighbours lie
twice as dense, so the lower end is nearer there. -/
def Interval.around (l : Layout) (mantissa : Nat) (exponent : Int) : Interval :=
  let gap := if mantissa = Nat.pow 2 l.fractionBits ∧ l.leastExponent < exponent then 1 else 2
  ⟨4 * mantissa - gap, 4 * mantissa, 4 * mantissa + 2, mantissa % 2 == 0, exponent - 2⟩

/-- `a * 10 ^ p` and `b * 2 ^ q` over a common denominator. -/
def overCommonDenominator (a : Nat) (p : Int) (b : Nat) (q : Int) : Nat × Nat :=
  (a * Nat.pow 10 p.toNat * Nat.pow 2 (-q).toNat, b * Nat.pow 2 q.toNat * Nat.pow 10 (-p).toNat)

/-- `digits * 10 ^ exponent` rounds to the datum of the interval. -/
def Interval.contains (i : Interval) (digits : Nat) (exponent : Int) : Bool :=
  let (x, low) := overCommonDenominator digits exponent i.low i.exponent
  let (_, high) := overCommonDenominator digits exponent i.high i.exponent
  if i.closed then low ≤ x && x ≤ high else low < x && x < high

/-- The number of decimal digits before the point of `value * 2 ^ exponent`: the least power of
ten above it, looked for upwards from an estimate. -/
def magnitude (value : Nat) (exponent : Int) : Int :=
  let above (p : Int) : Bool :=
    let (x, v) := overCommonDenominator 1 p value exponent
    v < x
  let guess : Int := ((Nat.log2 value : Int) + exponent) * 30103 / 100000
  ([guess, guess + 1, guess + 2].find? above).getD (guess + 3)

/-- The shortest decimal on the grids of at least `count` digits. -/
def shortestFrom (i : Interval) (top : Int) : Nat → Nat → Nat × Int
  | 0, _ => (0, 0)
  | fuel + 1, count =>
    let exponent := top - count
    let (unit, value) := overCommonDenominator 1 exponent i.value i.exponent
    let floor := value / unit
    let below := i.contains floor exponent
    let above := i.contains (floor + 1) exponent
    if below && above then
      let r := 2 * (value % unit)
      if r < unit || (r == unit && floor % 2 == 0) then (floor, exponent)
      else (floor + 1, exponent)
    else if below then (floor, exponent)
    else if above then (floor + 1, exponent)
    else shortestFrom i top fuel (count + 1)

/-- The shortest decimal `digits * 10 ^ exponent` that reads back as the positive datum
`mantissa * 2 ^ exponent`. Twenty digits suffice for every format up to double precision. -/
def shortest (l : Layout) (mantissa : Nat) (exponent : Int) : Nat × Int :=
  let i := Interval.around l mantissa exponent
  shortestFrom i (magnitude i.value i.exponent) 20 1

/-- The decimal exponents for which a number is written positionally. -/
structure Positional where
  layout : Layout
  least : Int
  greatest : Int
  deriving DecidableEq, Repr

/-- Double precision is positional from a hundred thousandth up to below ten to the 16. -/
def Positional.double : Positional := ⟨.double, -5, 15⟩

/-- Single precision is positional from a millionth up to below ten to the 13. -/
def Positional.single : Positional := ⟨.single, -6, 12⟩

/-- Digits without their trailing zeros, each zero moved into the exponent. -/
def dropZeros (digits : List Char) (exponent : Int) : List Char × Int :=
  let zeros := (digits.reverse.takeWhile (· == '0')).length
  (digits.take (digits.length - zeros), exponent + zeros)

/-- The text of a finite datum: positional with a point between the least and the greatest
exponent, else with one digit before the point and a signed exponent. -/
def Positional.render (n : Positional) (negative : Bool) (mantissa : Nat) (exponent : Int) :
    String :=
  let sign := if negative then "-" else ""
  if mantissa = 0 then sign ++ "0.0"
  else
    let (number, scale) := shortest n.layout mantissa exponent
    let (digits, scale) := dropZeros (toString number).toList scale
    -- the exponent of the first digit
    let lead : Int := scale + digits.length - 1
    let body : List Char :=
      if n.least ≤ lead ∧ lead ≤ n.greatest then
        if 0 ≤ scale then digits ++ List.replicate scale.toNat '0' ++ ['.', '0']
        else if 0 ≤ lead then
          digits.take (lead.toNat + 1) ++ '.' :: digits.drop (lead.toNat + 1)
        else '0' :: '.' :: List.replicate (-lead - 1).toNat '0' ++ digits
      else
        let fraction := digits.drop 1
        let point := if fraction.isEmpty then [] else '.' :: fraction
        digits.take 1 ++ point ++ 'e' :: (if lead < 0 then '-' else '+') ::
          (toString lead.natAbs).toList
    sign ++ String.ofList body

end RestClient.Decimal
