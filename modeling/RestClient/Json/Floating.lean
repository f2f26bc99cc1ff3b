import RestClient.Decimal.Binary

/-!
# Floating-point numbers

Numbers of double and of single precision, given by their bits.

## Main definitions

- `Double`, `Single` — the numbers
- `Single.widen` — a single-precision number as a double
-/

namespace RestClient.Json

open Decimal

/-- A double-precision number, given by its 64 bits. -/
structure Double where
  bits : UInt64
  deriving DecidableEq, Repr

namespace Double

/-- The bits of a floating-point number. -/
def ofFloat (x : Float) : Double :=
  ⟨x.toBits⟩

/-- What the bits stand for. -/
def datum (x : Double) : Datum :=
  Layout.double.decode x.bits.toNat

/-- The double nearest to an integer. -/
def ofInt (i : Int) : Double :=
  let magnitude := Layout.double.nearest i.natAbs 1
  ⟨UInt64.ofNat (if i < 0 then Layout.double.signBit + magnitude else magnitude)⟩

end Double

/-- A single-precision number, given by its 32 bits. -/
structure Single where
  bits : UInt32
  deriving DecidableEq, Repr

/-- What the bits stand for. -/
def Single.datum (x : Single) : Datum :=
  Layout.single.decode x.bits.toNat

/-- The single-precision number as a double. -/
def Single.widen (x : Single) : Double :=
  match x.datum with
  | .nan => ⟨UInt64.ofNat (Layout.double.infinity + 1)⟩
  | .infinite negative =>
    ⟨UInt64.ofNat (Layout.double.infinity + if negative then Layout.double.signBit else 0)⟩
  | .finite negative mantissa exponent =>
    let magnitude :=
      if 0 ≤ exponent then Layout.double.nearest (mantissa * Nat.pow 2 exponent.toNat) 1
      else Layout.double.nearest mantissa (Nat.pow 2 (-exponent).toNat)
    ⟨UInt64.ofNat (magnitude + if negative then Layout.double.signBit else 0)⟩

end RestClient.Json
