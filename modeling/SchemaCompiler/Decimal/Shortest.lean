import SchemaCompiler.Decimal.Binary64

/-!
# Shortest decimals

The text of a double has the fewest digits that read back as the same double, and of the decimals
with that many digits the nearest. `Binary64.shortest` finds digits and exponent; a `DecimalLayout`
says how they are written.
-/

set_option autoImplicit false

namespace SchemaCompiler

/-- The decimal digits of a number. -/
def decimalDigits (n : Nat) : List Char := Nat.toDigits 10 n

namespace Binary64

/-- `10 ^ e` as a ratio. -/
def powerOfTen (e : Int) : Nat × Nat :=
  if e ≥ 0 then (Nat.pow 10 e.toNat, 1) else (1, Nat.pow 10 (-e).toNat)

/-- The number of digits before the point, for a ratio of at least one; otherwise minus the number
of zeros after it. -/
def magnitude (numerator denominator : Nat) : Int :=
  if denominator ≤ numerator then (decimalDigits (numerator / denominator)).length
  else
    let guess := (decimalDigits (denominator / numerator)).length
    if denominator ≤ numerator * Nat.pow 10 (guess - 1) then 2 - guess
    else 1 - guess

/-- A decimal `c * 10 ^ e` as a coefficient without trailing zeros. -/
def stripZeros : Nat → Nat → Int → Nat × Int
  | 0, c, e => (c, e)
  | fuel + 1, c, e => if c % 10 == 0 && c != 0 then stripZeros fuel (c / 10) (e + 1) else (c, e)

/-- The shortest decimal `(c, e)` that reads back as the positive double `m * 2 ^ q`. The reals that
round to the double reach half way to its neighbours, ends included when the mantissa is even. For
each number of digits in turn the two decimals around the double are tried. -/
def shortestFrom (m : Nat) (q : Int) : Nat × Int :=
  let (a, b) := if q ≥ 2 then (Nat.pow 2 (q - 2).toNat, 1) else (1, Nat.pow 2 (2 - q).toNat)
  let value := 4 * m
  let low := if m = Nat.pow 2 52 && q > -1074 then value - 1 else value - 2
  let high := value + 2
  let top := magnitude (value * a) b
  let inside := fun (p r c : Nat) =>
    -- `c * p / r` against the ends `low * a / b` and `high * a / b`
    let here := c * p * b
    if m % 2 = 0 then low * a * r ≤ here && here ≤ high * a * r
    else low * a * r < here && here < high * a * r
  let attempt := fun (n : Nat) =>
    let (p, r) := powerOfTen (top - n)
    let below := value * a * r / (b * p)
    let above := below + 1
    let toBelow := value * a * r - below * p * b
    let toAbove := above * p * b - value * a * r
    match inside p r below, inside p r above with
    | true, true =>
      some (if toBelow < toAbove || (toBelow == toAbove && below % 2 == 0) then below else above)
    | true, false => some below
    | false, true => some above
    | false, false => none
  match (List.range' 1 17).findSome? fun n => (attempt n).map fun c => (c, top - (n : Int)) with
  | some (c, e) => stripZeros 20 c e
  | none => (m, q)

/-- The shortest decimal of a finite double's absolute value. -/
def shortest (x : Binary64) : Nat × Int :=
  let (m, q) := x.decode
  if m = 0 then (0, 0) else shortestFrom m q

end Binary64

/-- How a decimal is written: the range of decimal point positions that are written without an
exponent, the tail of a whole number, the digits an exponent has at least, and the words for what
is not a number. -/
structure DecimalLayout where
  leastPosition : Int
  greatestPosition : Int
  wholeTail : String
  exponentDigits : Nat
  nanText : String
  infinityText : String

namespace DecimalLayout

/-- Messages and numeric defaults write a point or an exponent always, and no exponent from four
zeros after the point up to sixteen digits before it. -/
def plain : DecimalLayout := ⟨-3, 16, ".0", 2, "nan", "inf"⟩

/-- JSON texts differ in the words for what is not a number. -/
def json : DecimalLayout := { plain with nanText := "NaN", infinityText := "Infinity" }

/-- The exponent with its sign. -/
def exponentText (layout : DecimalLayout) (e : Int) : String :=
  let digits := decimalDigits e.natAbs
  let padding := List.replicate (layout.exponentDigits - digits.length) '0'
  (if e < 0 then "e-" else "e+") ++ String.ofList (padding ++ digits)

/-- Digits with the decimal point after the first `position` of them: behind zeros when there are
no such digits, and without a point when no digits are left for the fraction. -/
def positionalText (digits : List Char) (position : Int) : String :=
  if position ≤ 0 then "0." ++ String.ofList (List.replicate (-position).toNat '0' ++ digits)
  else
    let whole := digits.take position.toNat
    let fraction := digits.drop position.toNat
    let zeros := List.replicate (position.toNat - digits.length) '0'
    String.ofList (whole ++ zeros) ++
      (if fraction.isEmpty then "" else "." ++ String.ofList fraction)

/-- The text of the decimal `c * 10 ^ e`. -/
def decimalText (layout : DecimalLayout) (c : Nat) (e : Int) : String :=
  let digits := decimalDigits c
  let position := (digits.length : Int) + e
  if c = 0 then "0" ++ layout.wholeTail
  else if layout.leastPosition ≤ position && position ≤ layout.greatestPosition then
    positionalText digits position ++ (if e ≥ 0 then layout.wholeTail else "")
  else positionalText digits 1 ++ layout.exponentText (position - 1)

/-- The text of a double. -/
def render (layout : DecimalLayout) (x : Binary64) : String :=
  if x.isNaN then layout.nanText
  else
    (if x.isNegative then "-" else "") ++
      (if x.isFinite then
        let (c, e) := x.shortest
        layout.decimalText c e
      else layout.infinityText)

end DecimalLayout

end SchemaCompiler
