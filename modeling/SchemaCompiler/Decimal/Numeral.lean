import SchemaCompiler.Decimal.Shortest
import SchemaCompiler.Text.Case

/-!
# Decimal numerals

Decimal numbers that keep their trailing zeros: a coefficient and an exponent of ten, or one of the
special values. `Numeral.render` writes a numeral in scientific notation as decimal arithmetic does,
and `Numeral.parse?` reads the notation back.
-/

set_option autoImplicit false

namespace SchemaCompiler

/-- A decimal number. -/
inductive Numeral where
  /-- The number `± coefficient * 10 ^ exponent`. -/
  | finite (negative : Bool) (coefficient : Nat) (exponent : Int)
  | infinity (negative : Bool)
  /-- Not a number, quiet or signalling, with the digits that describe it. -/
  | nan (negative signalling : Bool) (payload : String)
  deriving DecidableEq, Inhabited, Repr

namespace Numeral

/-- The text of a finite numeral without its sign. The point stands among the digits as long as
the exponent is not positive and at most five zeros follow the point. -/
def magnitudeText (coefficient : Nat) (exponent : Int) : String :=
  let digits := decimalDigits coefficient
  let left : Int := exponent + digits.length
  let position : Int := if exponent ≤ 0 && left > -6 then left else 1
  let text := DecimalLayout.positionalText digits position
  let shift := left - position
  if shift = 0 then text
  else text ++ (if shift < 0 then "E-" else "E+") ++ String.ofList (decimalDigits shift.natAbs)

/-- The text of a numeral. -/
def render : Numeral → String
  | finite negative c e => (if negative then "-" else "") ++ magnitudeText c e
  | infinity negative => if negative then "-Infinity" else "Infinity"
  | nan negative signalling payload =>
    (if negative then "-" else "") ++ (if signalling then "sNaN" else "NaN") ++ payload

/-- Digits read as a number, in any number and without any sign. -/
def digitsNumber (cs : List Char) : Nat := cs.foldl (fun n c => n * 10 + (c.toNat - 0x30)) 0

/-- The number that some digits spell, if they are all digits. -/
def parseDigits? (ds : List Char) : Option Nat :=
  if ds.isEmpty || !ds.all Text.isDigit then none else some (digitsNumber ds)

/-- An exponent after its mark: a sign or none, then digits. -/
def parseExponent? : List Char → Option Int
  | '-' :: ds => (parseDigits? ds).map fun n => -(n : Int)
  | '+' :: ds => (parseDigits? ds).map Int.ofNat
  | ds => (parseDigits? ds).map Int.ofNat

/-- A number without sign: digits with at most one point, then an exponent or none. The answer is
the coefficient and the exponent of ten. -/
def parseMagnitude? (cs : List Char) : Option (Nat × Int) := do
  let whole := cs.takeWhile Text.isDigit
  let rest := cs.dropWhile Text.isDigit
  let (fraction, rest) := match rest with
    | '.' :: tail => (tail.takeWhile Text.isDigit, tail.dropWhile Text.isDigit)
    | _ => ([], rest)
  if whole.isEmpty && fraction.isEmpty then none
  else
    let exponent ← match rest with
      | [] => some 0
      | mark :: tail => if mark == 'e' || mark == 'E' then parseExponent? tail else none
    some (digitsNumber (whole ++ fraction), exponent - fraction.length)

/-- A digit of any script as the digit of ASCII. -/
def asciiDigit (c : Char) : Char :=
  match Text.digitValue? c with
  | some d => Char.ofNat (0x30 + d)
  | none => c

/-- A special value that is not a number, with the digits that describe it. Zeros in front of them
count for nothing. -/
def describedNan? (negative signalling : Bool) (digits : List Char) : Option Numeral :=
  if digits.all Text.isDigit then
    some (nan negative signalling (String.ofList (digits.dropWhile (· == '0'))))
  else none

/-- Reads a numeral. -/
def parse? (s : String) : Option Numeral :=
  let cs := ((Text.trimBlanks s.toList).filter (· != '_')).map asciiDigit
  let (negative, body) := match cs with
    | '-' :: rest => (true, rest)
    | '+' :: rest => (false, rest)
    | _ => (false, cs)
  let word := Text.lower (String.ofList body)
  if word == "inf" || word == "infinity" then some (infinity negative)
  else match Text.lowerChars body with
    | 'n' :: 'a' :: 'n' :: digits => describedNan? negative false digits
    | 's' :: 'n' :: 'a' :: 'n' :: digits => describedNan? negative true digits
    | _ => (parseMagnitude? body).map fun (c, e) => finite negative c e

/-- The integer part of a finite numeral. -/
def truncate (negative : Bool) (coefficient : Nat) (exponent : Int) : Int :=
  let magnitude :=
    if exponent ≥ 0 then coefficient * Nat.pow 10 exponent.toNat
    else coefficient / Nat.pow 10 (-exponent).toNat
  if negative then -(magnitude : Int) else magnitude

/-! ## Order -/

/-- The power of ten below which a finite numeral that is not zero stays, and which it would reach
with one more digit. -/
def size (coefficient : Nat) (exponent : Int) : Int :=
  exponent + (decimalDigits coefficient).length

/-- The order of two finite numerals that are positive. Powers of ten are computed only between
numerals of one size. -/
def compareMagnitudes (c : Nat) (e : Int) (d : Nat) (f : Int) : Ordering :=
  match compare (size c e) (size d f) with
  | .eq =>
    let least := min e f
    compare (c * Nat.pow 10 (e - least).toNat) (d * Nat.pow 10 (f - least).toNat)
  | order => order

/-- Where a numeral stands: infinite below, negative, zero, positive, or infinite above. -/
def rank? : Numeral → Option Int
  | finite negative c _ => some (if c = 0 then 0 else if negative then -1 else 1)
  | infinity negative => some (if negative then -2 else 2)
  | nan .. => none

/-- The order of two numerals by their values. What is not a number has no place in it. -/
def compare? (a b : Numeral) : Option Ordering := do
  match compare (← rank? a) (← rank? b), a, b with
  | .eq, finite _ 0 _, _ => some .eq
  | .eq, finite negative c e, finite _ d f =>
    some (if negative then compareMagnitudes d f c e else compareMagnitudes c e d f)
  | order, _, _ => some order

end Numeral

namespace Binary64

/-- The exact value of a double. -/
def toNumeral (x : Binary64) : Numeral :=
  if x.isNaN then .nan x.isNegative false ""
  else if !x.isFinite then .infinity x.isNegative
  else
    let (m, q) := x.decode
    if q ≥ 0 then .finite x.isNegative (m * Nat.pow 2 q.toNat) 0
    else .finite x.isNegative (m * Nat.pow 5 (-q).toNat) q

/-- Reads a double from a decimal numeral or one of the words for what is not a number. -/
def parse? (s : String) : Option Binary64 :=
  (Numeral.parse? s).map fun
    | .finite negative c e => nearest negative c e
    | .infinity negative => infinity negative
    | .nan .. => nan

end Binary64

end SchemaCompiler
