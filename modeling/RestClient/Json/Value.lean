import RestClient.Decimal.Shortest
import RestClient.Json.Document

/-!
# JSON values

What a JSON document means when nothing is known about its shape, and the compact text of a value.

A number without point and exponent is an integer where 64 bits hold it; every other number is a
double. The last of several members with one name counts. Arrays and objects nest at most 127 deep.

## Main definitions

- `Value` — a value
- `Value.ofDocument?`, `Value.read?` — the value of a document and of a text
- `insertMember` — a member put into an object
-/

namespace RestClient.Json

open Text (Octets)

/-- A JSON number: an integer of at most 64 bits, or a double. -/
inductive Number where
  | integer (i : Int)
  | real (x : Double)
  deriving DecidableEq, Repr

/-- A JSON value. The members of an object have different names. -/
inductive Value where
  | null
  | bool (value : Bool)
  | number (n : Number)
  | string (text : String)
  | array (items : List Value)
  | object (members : List (String × Value))
  deriving Repr

/-! ### Numbers -/

/-- The greatest unsigned integer of 64 bits. -/
def maxUnsigned : Nat := Nat.pow 2 64 - 1

/-- Digits appended to a significand as long as 64 bits hold it: the significand, how many digits
it took, and the digits that are left. -/
def absorbDigits (significand : Nat) : List Nat → Nat × Nat × List Nat
  | [] => (significand, 0, [])
  | d :: rest =>
    if significand * 10 + d ≤ maxUnsigned then
      let (s, taken, left) := absorbDigits (significand * 10 + d) rest
      (s, taken + 1, left)
    else (significand, 0, d :: rest)

/-- The natural number of decimal digits. -/
def digitsValue (digits : List Nat) : Nat :=
  digits.foldl (fun n d => n * 10 + d) 0

/-- A double scaled by a power of ten: one multiplication or division where the power is a double,
else divisions by the greatest power first. Too large a number is none. -/
def scaleByTen (fuel : Nat) (x : Float) (exponent : Int) : Option Float :=
  if exponent.natAbs ≤ 308 then
    let power := Float.ofScientific 1 false exponent.natAbs
    if 0 ≤ exponent then
      let y := x * power
      if y.isInf then none else some y
    else some (x / power)
  else if x == 0.0 then some x
  else if 0 ≤ exponent then none
  else
    match fuel with
    | 0 => some 0.0
    | fuel + 1 => scaleByTen fuel (x / Float.ofScientific 1 false 308) (exponent + 308)

/-- The double of a significand of 64 bits and a decimal exponent. -/
def doubleOfParts (negative : Bool) (significand : Nat) (exponent : Int) : Option Double :=
  (scaleByTen 8 (UInt64.ofNat significand).toFloat exponent).map fun x =>
    .ofFloat (if negative then -x else x)

/-- The greatest exponent that is read; a longer one means zero or too large a number. -/
def maxExponent : Nat := Nat.pow 2 31 - 1

/-- The double of a number, from as many of its digits as a significand of 64 bits holds. -/
def NumberText.double? (n : NumberText) : Option Double :=
  let (significand, _, left) := absorbDigits 0 n.whole
  let exponent : Int := left.length
  let (significand, exponent) :=
    match n.fraction with
    | none => (significand, exponent)
    | some digits =>
      let (s, taken, _) := absorbDigits significand digits
      (s, exponent - taken)
  match n.exponent with
  | none => doubleOfParts n.negative significand exponent
  | some (negative, digits) =>
    let power := digitsValue digits
    if maxExponent < power then
      if significand ≠ 0 ∧ !negative then none
      else some (.ofFloat (if n.negative then -0.0 else 0.0))
    else doubleOfParts n.negative significand
      (if negative then exponent - power else exponent + power)

/-- The number that a text means. Minus zero is a double, and so is an integer that 64 bits do not
hold. -/
def NumberText.number? (n : NumberText) : Option Number :=
  if n.fraction.isNone && n.exponent.isNone then
    let magnitude := digitsValue n.whole
    if n.negative then
      if magnitude ≠ 0 ∧ magnitude ≤ Nat.pow 2 63 then some (.integer (-(magnitude : Int)))
      else n.double?.map .real
    else if magnitude ≤ maxUnsigned then some (.integer magnitude)
    else n.double?.map .real
  else n.double?.map .real

/-! ### Strings -/

/-- The code unit of four hexadecimal digits. -/
def unitOfDigits (digits : Octets) : Nat :=
  digits.foldl (fun n b => 16 * n + (Text.hexValue? (Char.ofNat b.toNat)).getD 0) 0

/-- The character of an escape of one letter. -/
def escapedOctet (b : UInt8) : UInt8 :=
  if b == octet 'b' then 0x08
  else if b == octet 'f' then 0x0c
  else if b == octet 'n' then 0x0a
  else if b == octet 'r' then 0x0d
  else if b == octet 't' then 0x09
  else b

/-- The octets that the raw octets of a string stand for. A surrogate outside a pair is refused. -/
def unescape : Octets → Option Octets
  | [] => some []
  | b :: rest =>
    if b == octet '\\' then
      match rest with
      | [] => none
      | e :: rest =>
        if e == octet 'u' then
          match rest with
          | h1 :: h2 :: h3 :: h4 :: rest =>
            let unit := unitOfDigits [h1, h2, h3, h4]
            if 0xdc00 ≤ unit && unit ≤ 0xdfff then none
            else if 0xd800 ≤ unit && unit ≤ 0xdbff then
              match rest with
              | s :: u :: l1 :: l2 :: l3 :: l4 :: rest =>
                let low := unitOfDigits [l1, l2, l3, l4]
                if s == octet '\\' && u == octet 'u' && 0xdc00 ≤ low && low ≤ 0xdfff then
                  (unescape rest).map
                    (Text.utf8 [Char.ofNat (0x10000 + (unit - 0xd800) * 0x400 + (low - 0xdc00))] ++
                      ·)
                else none
              | _ => none
            else (unescape rest).map (Text.utf8 [Char.ofNat unit] ++ ·)
          | _ => none
        else (unescape rest).map (escapedOctet e :: ·)
    else (unescape rest).map (b :: ·)

/-- The text of a string, if its octets are UTF-8. -/
def stringText? (raw : Octets) : Option String :=
  (unescape raw).bind Text.textOf?

/-! ### Values -/

/-- A member put into an object: it takes the place of the member of its name, or the last. -/
def insertMember (name : String) (item : Value) :
    List (String × Value) → List (String × Value)
  | [] => [(name, item)]
  | (n, v) :: rest =>
    if n = name then (name, item) :: rest else (n, v) :: insertMember name item rest

/-- How many containers may be nested, the outermost counted. -/
def maxDepth : Nat := 127

mutual

/-- The value of a document inside containers that leave `depth` further levels. -/
def Value.ofDocumentAt (depth : Nat) : Document → Option Value
  | .null => some .null
  | .bool b => some (.bool b)
  | .number n => n.number?.map .number
  | .real x => some (.number (.real x))
  | .string raw => (stringText? raw).map .string
  | .array items =>
    match depth with
    | 0 => none
    | depth + 1 => (Value.listOfDocuments depth items).map .array
  | .object members =>
    match depth with
    | 0 => none
    | depth + 1 => (Value.membersOfDocuments depth members []).map .object

/-- The values of the items of an array. -/
def Value.listOfDocuments (depth : Nat) : List Document → Option (List Value)
  | [] => some []
  | item :: rest =>
    match Value.ofDocumentAt depth item, Value.listOfDocuments depth rest with
    | some v, some vs => some (v :: vs)
    | _, _ => none

/-- The members of an object put one after the other into those before. -/
def Value.membersOfDocuments (depth : Nat) :
    List (Octets × Document) → List (String × Value) → Option (List (String × Value))
  | [], before => some before
  | (key, item) :: rest, before =>
    match stringText? key, Value.ofDocumentAt depth item with
    | some name, some v => Value.membersOfDocuments depth rest (insertMember name v before)
    | _, _ => none

end

/-- The value of a document. -/
def Value.ofDocument? (document : Document) : Option Value :=
  Value.ofDocumentAt maxDepth document

/-- The value of a JSON text. -/
def Value.read? (octets : Octets) : Option Value :=
  (Document.read? octets).bind Value.ofDocument?

/-- The member of an object with a name. -/
def Value.member? (name : String) : Value → Option Value
  | .object members => (members.find? fun (n, _) => n == name).map (·.2)
  | _ => none

end RestClient.Json
