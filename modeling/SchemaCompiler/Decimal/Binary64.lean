/-!
# Binary floating point numbers

A double is its 64 bits. A finite one is a mantissa times a power of two, up to sign, and that
decoding is all the other modules look at. `Binary64.nearest` goes the other way: it rounds a
decimal to the nearest double, and to the one with the even mantissa when two are equally near.
-/

set_option autoImplicit false

namespace SchemaCompiler

/-- A double precision number by its bits. -/
structure Binary64 where
  bits : UInt64
  deriving DecidableEq, Inhabited, Repr

namespace Binary64

/-- The sign bit is set. -/
def isNegative (x : Binary64) : Bool := x.bits ≥ 0x8000000000000000

/-- The eleven bits of the exponent. -/
def exponentBits (x : Binary64) : Nat := (x.bits.toNat / Nat.pow 2 52) % 2048

/-- The 52 bits of the fraction. -/
def fractionBits (x : Binary64) : Nat := x.bits.toNat % Nat.pow 2 52

/-- Neither infinite nor a NaN. -/
def isFinite (x : Binary64) : Bool := x.exponentBits != 2047

/-- Not a number. -/
def isNaN (x : Binary64) : Bool := x.exponentBits == 2047 && x.fractionBits != 0

/-- The mantissa `m` and exponent `q` of a finite double of absolute value `m * 2 ^ q`. -/
def decode (x : Binary64) : Nat × Int :=
  if x.exponentBits = 0 then (x.fractionBits, -1074)
  else (x.fractionBits + Nat.pow 2 52, (x.exponentBits : Int) - 1075)

/-- The double with a given sign, exponent bits and fraction bits. -/
def assemble (negative : Bool) (exponent fraction : Nat) : Binary64 :=
  ⟨UInt64.ofNat ((if negative then Nat.pow 2 63 else 0) + exponent * Nat.pow 2 52 + fraction)⟩

/-- Positive or negative infinity. -/
def infinity (negative : Bool) : Binary64 := assemble negative 2047 0

/-- A NaN. -/
def nan : Binary64 := assemble false 2047 (Nat.pow 2 51)

/-- The integer part of a finite double. -/
def truncate (x : Binary64) : Int :=
  let (m, q) := x.decode
  let magnitude := if q ≥ 0 then m * Nat.pow 2 q.toNat else m / Nat.pow 2 (-q).toNat
  if x.isNegative then -(magnitude : Int) else magnitude

/-- A finite double without a fraction. -/
def isIntegral (x : Binary64) : Bool :=
  let (m, q) := x.decode
  x.isFinite && (q ≥ 0 || m % Nat.pow 2 (-q).toNat == 0)

/-- The quotient rounded to the nearest integer, a tie to the even one. -/
def roundHalfEven (numerator denominator : Nat) : Nat :=
  let quotient := numerator / denominator
  let twice := 2 * (numerator % denominator)
  if twice < denominator || (twice == denominator && quotient % 2 == 0) then quotient
  else quotient + 1

/-- The double nearest to `numerator / denominator`. The exponent is the one that leaves 53 bits
before rounding, or the least one there is. -/
def nearestRatio (negative : Bool) (numerator denominator : Nat) : Binary64 :=
  if numerator = 0 then assemble negative 0 0
  else
    let estimate : Int := (numerator.log2 : Int) - (denominator.log2 : Int) - 53
    let scaled := fun q : Int =>
      if q ≥ 0 then (numerator, denominator * Nat.pow 2 q.toNat)
      else (numerator * Nat.pow 2 (-q).toNat, denominator)
    let (n, d) := scaled estimate
    let exponent := max (-1074) (if n < d * Nat.pow 2 53 then estimate else estimate + 1)
    let (n, d) := scaled exponent
    let mantissa := roundHalfEven n d
    let (mantissa, exponent) :=
      if mantissa = Nat.pow 2 53 then (Nat.pow 2 52, exponent + 1) else (mantissa, exponent)
    if mantissa < Nat.pow 2 52 then assemble negative 0 mantissa
    else if exponent > 971 then infinity negative
    else assemble negative (exponent + 1075).toNat (mantissa - Nat.pow 2 52)

/-- The double nearest to `coefficient * 10 ^ exponent`. Decimals far outside the range of doubles
are zero or infinite without computing the power. -/
def nearest (negative : Bool) (coefficient : Nat) (exponent : Int) : Binary64 :=
  let size := (coefficient.log2 : Int) / 3 + 1
  if coefficient = 0 then assemble negative 0 0
  else if exponent + size < -400 then assemble negative 0 0
  else if exponent > 400 then infinity negative
  else if exponent ≥ 0 then nearestRatio negative (coefficient * Nat.pow 10 exponent.toNat) 1
  else nearestRatio negative coefficient (Nat.pow 10 (-exponent).toNat)

end Binary64

end SchemaCompiler
