import SchemaCompiler.Decimal.Binary64

/-!
# Calendar

Moments since the beginning of 1970, and their date and time of day in universal time. A timestamp
states a moment as a number of seconds, which may be fractional and may be out of reach; dates reach
from the year 1 to the year 9999.
-/

set_option autoImplicit false

namespace SchemaCompiler

/-- A moment in microseconds since the beginning of 1970. -/
structure Moment where
  microseconds : Int
  deriving DecidableEq, Inhabited, Repr

namespace Moment

/-- The moment a whole number of seconds after the beginning of 1970. -/
def ofSeconds (n : Int) : Moment := ⟨n * 1000000⟩

/-- Whole seconds since the beginning of 1970. -/
def seconds (t : Moment) : Int := t.microseconds / 1000000

/-- A number in decimal with at least `width` digits. -/
def padded (width : Nat) (n : Nat) : String :=
  let digits := Nat.toDigits 10 n
  String.ofList (List.replicate (width - digits.length) '0' ++ digits)

/-- Year, month and day of a day counted from the beginning of 1970. The count is moved to start on
the first of March of the year zero, so that a leap day ends its year; a cycle of four centuries has
146097 days. -/
def civil (day : Int) : Int × Nat × Nat :=
  let shifted := day + 719468
  let cycle := shifted / 146097
  let dayOfCycle := (shifted % 146097).toNat
  let leapDays := dayOfCycle / 1460 - dayOfCycle / 36524 + dayOfCycle / 146096
  let yearOfCycle := (dayOfCycle - leapDays) / 365
  let dayOfYear := dayOfCycle - (365 * yearOfCycle + yearOfCycle / 4 - yearOfCycle / 100)
  let shiftedMonth := (5 * dayOfYear + 2) / 153
  let dayOfMonth := dayOfYear - (153 * shiftedMonth + 2) / 5 + 1
  let month := if shiftedMonth < 10 then shiftedMonth + 3 else shiftedMonth - 9
  let year := (yearOfCycle : Int) + cycle * 400
  (if month ≤ 2 then year + 1 else year, month, dayOfMonth)

/-- The time of day, with colons. -/
def clock (t : Moment) : String :=
  let second := (t.seconds % 86400).toNat
  padded 2 (second / 3600) ++ ":" ++ padded 2 (second / 60 % 60) ++ ":" ++ padded 2 (second % 60)

/-- Date and time of day to the second. -/
def dateTime (t : Moment) : String :=
  let (year, month, day) := civil (t.seconds / 86400)
  padded 4 year.toNat ++ "-" ++ padded 2 month ++ "-" ++ padded 2 day ++ "T" ++ t.clock

/-- Date and time of day to the second, with the offset of universal time. -/
def isoSeconds (t : Moment) : String := t.dateTime ++ "+00:00"

/-- Date and time of day with the microseconds, if there are any, and the offset. -/
def isoText (t : Moment) : String :=
  let fraction := (t.microseconds % 1000000).toNat
  t.dateTime ++ (if fraction = 0 then "" else "." ++ padded 6 fraction) ++ "+00:00"

end Moment

/-! ## Timestamps -/

/-- A moment as a number of seconds since the beginning of 1970. -/
inductive Timestamp where
  | whole (seconds : Int)
  | fractional (seconds : Binary64)
  deriving DecidableEq, Inhabited, Repr

/-- Why a timestamp has no date. -/
inductive DateFailure where
  | notNumber
  /-- The seconds do not fit 64 bits with the sign. -/
  | secondsRange
  /-- The year does not fit 32 bits with the sign. -/
  | yearSize
  | year (shown : Int)
  deriving DecidableEq, Inhabited, Repr

/-- The message of a failure. -/
def DateFailure.message : DateFailure → String
  | notNumber => "Invalid value NaN (not a number)"
  | secondsRange => "timestamp out of range for platform time_t"
  | yearSize => "the year is too large"
  | year shown => "year " ++ toString shown ++ " is out of range"

namespace Moment

/-- The year of a moment. -/
def year (t : Moment) : Int := (civil (t.seconds / 86400)).1

/-- The first year that years are counted from where they have to fit 32 bits. -/
def yearBase : Int := 1900

/-- A moment in a year that dates reach. A year beyond 32 bits is shown by its lowest bits. -/
def dated (t : Moment) : Except DateFailure Moment :=
  let counted := t.year - yearBase
  if counted < -(Int.pow 2 31) || Int.pow 2 31 ≤ counted then .error .yearSize
  else
    let shown := t.year.bmod (Nat.pow 2 32)
    if 1 ≤ shown && shown ≤ 9999 then .ok t else .error (.year shown)

end Moment

namespace Timestamp

/-- The seconds fit 64 bits with the sign. -/
def inRange (seconds : Int) : Bool := -(Int.pow 2 63) ≤ seconds && seconds < Int.pow 2 63

/-- The microseconds of a double's fraction: the double nearest to their exact number, rounded to
the nearest integer, a tie to the even one. -/
def fractionMicroseconds (x : Binary64) : Nat :=
  let (m, q) := x.decode
  if q ≥ 0 then 0
  else
    let unit := Nat.pow 2 (-q).toNat
    let (n, e) := (Binary64.nearestRatio false (m % unit * 1000000) unit).decode
    if e ≥ 0 then n * Nat.pow 2 e.toNat else Binary64.roundHalfEven n (Nat.pow 2 (-e).toNat)

/-- The moment that a timestamp states. -/
def moment : Timestamp → Except DateFailure Moment
  | whole n => if inRange n then .ok (.ofSeconds n) else .error .secondsRange
  | fractional x =>
    if x.isNaN then .error .notNumber
    else if !x.isFinite then .error .secondsRange
    else
      let sign : Int := if x.isNegative then -1 else 1
      let t : Moment := ⟨x.truncate * 1000000 + sign * fractionMicroseconds x⟩
      if inRange t.seconds then .ok t else .error .secondsRange

/-- The moment of a timestamp that has a date in universal time. -/
def universal (s : Timestamp) : Except DateFailure Moment := do (← s.moment).dated

/-- The moment of a timestamp that a wall clock shows. The day before has to have a date as well,
since a clock that was set back in it shows the same time twice. -/
def wallClock (s : Timestamp) : Except DateFailure Moment := do
  let t ← s.universal
  let _ ← (⟨t.microseconds - 86400 * 1000000⟩ : Moment).dated
  return t

end Timestamp

end SchemaCompiler
