import SchemaCompiler.Decimal.Shortest

/-!
# Fixed places and significant digits

A double written with a given number of decimal places or of significant digits, rounded from its
exact value; a tie goes to the even digit.
-/

set_option autoImplicit false

namespace SchemaCompiler

namespace Binary64

/-- The absolute value of a finite double as a ratio. -/
def ratio (x : Binary64) : Nat × Nat :=
  let (m, q) := x.decode
  if q ≥ 0 then (m * Nat.pow 2 q.toNat, 1) else (m, Nat.pow 2 (-q).toNat)

/-- A number in decimal with leading zeros up to a width. -/
def zeroPadded (width n : Nat) : String :=
  let digits := decimalDigits n
  String.ofList (List.replicate (width - digits.length) '0' ++ digits)

/-- The digits before and after the point of a finite double's absolute value. -/
def fixedParts (places : Nat) (x : Binary64) : String × String :=
  let (n, d) := x.ratio
  let scaled := roundHalfEven (n * Nat.pow 10 places) d
  (toString (scaled / Nat.pow 10 places),
    if places = 0 then "" else zeroPadded places (scaled % Nat.pow 10 places))

/-- The text of a finite double with a number of decimal places. -/
def fixedText (places : Nat) (x : Binary64) : String :=
  let (whole, fraction) := x.fixedParts places
  (if x.isNegative then "-" else "") ++ whole ++ (if places = 0 then "" else "." ++ fraction)

/-- One digit and `places` further ones of a finite double's absolute value, with the exponent of
the first digit. -/
def scientificParts (places : Nat) (x : Binary64) : List Char × Int :=
  let (n, d) := x.ratio
  if n = 0 then (List.replicate (places + 1) '0', 0)
  else
    let exponent := magnitude n d - 1
    let (p, r) := powerOfTen (exponent - places)
    let scaled := roundHalfEven (n * r) (d * p)
    if scaled = Nat.pow 10 (places + 1) then (decimalDigits (Nat.pow 10 places), exponent + 1)
    else (decimalDigits scaled, exponent)

end Binary64

end SchemaCompiler
