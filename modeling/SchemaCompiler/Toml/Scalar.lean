import SchemaCompiler.Toml.Token

/-!
# Scalars of a TOML text

Numbers, dates and times of day. A number is read as far as its digits go, where one underscore may
stand between two digits; a date is checked against the calendar.
-/

set_option autoImplicit false

namespace SchemaCompiler

namespace Toml

/-- A run of digits, an underscore between two of them or none: the digits, and the text after. -/
def digitRunFrom (isDigit : Char → Bool) : List Char → List Char × List Char
  | '_' :: c :: rest =>
    if isDigit c then
      let (digits, rest) := digitRunFrom isDigit rest
      (c :: digits, rest)
    else ([], '_' :: c :: rest)
  | c :: rest =>
    if isDigit c then
      let (digits, rest) := digitRunFrom isDigit rest
      (c :: digits, rest)
    else ([], c :: rest)
  | [] => ([], [])

/-- A nonempty run of digits. -/
def digitRun? (isDigit : Char → Bool) (cs : List Char) : Option (List Char × List Char) :=
  match cs with
  | c :: _ => if isDigit c then some (digitRunFrom isDigit cs) else none
  | [] => none

/-- An integer in a base that is a power of two, with its mark. -/
def basedInteger? (cs : List Char) : Option (Value × List Char) :=
  let read := fun (base limit : Nat) (rest : List Char) =>
    (digitRun? (fun c => (Text.hexValue? c).any (· < limit)) rest).map fun (digits, rest) =>
      let n := digits.foldl (fun n c => n * base + (Text.hexValue? c).getD 0) 0
      (Value.int n, rest)
  match cs with
  | '0' :: 'x' :: rest => read 16 16 rest
  | '0' :: 'b' :: rest => read 2 2 rest
  | '0' :: 'o' :: rest => read 8 8 rest
  | _ => none

/-- The digits before the point: a lone zero, or a run that begins with another digit. -/
def wholePart? (cs : List Char) : Option (List Char × List Char) :=
  match cs with
  | '0' :: rest => some (['0'], rest)
  | _ => digitRun? Text.isDigit cs

/-- A point and the digits after it, if they are there. -/
def fractionPart (cs : List Char) : List Char × List Char :=
  match cs with
  | '.' :: rest => match digitRun? Text.isDigit rest with
    | some (digits, rest) => ('.' :: digits, rest)
    | none => ([], cs)
  | _ => ([], cs)

/-- A sign, if there is one. -/
def signPart (cs : List Char) : List Char × List Char :=
  match cs with
  | '+' :: rest => (['+'], rest)
  | '-' :: rest => (['-'], rest)
  | _ => ([], cs)

/-- An exponent with its mark, if it is there. -/
def exponentPart (cs : List Char) : List Char × List Char :=
  match cs with
  | c :: rest =>
    if c == 'e' || c == 'E' then
      let (sign, rest) := signPart rest
      match digitRun? Text.isDigit rest with
      | some (digits, rest) => ('e' :: sign ++ digits, rest)
      | none => ([], cs)
    else ([], cs)
  | [] => ([], [])

/-- A number in base ten, if one begins here. -/
def decimal? (cs : List Char) : Option (Except Failure (Taken Value)) := do
  let (sign, rest) := signPart cs
  let (whole, rest) ← wholePart? rest
  let (fraction, rest) := fractionPart rest
  let (exponent, rest) := exponentPart rest
  if fraction.isEmpty && exponent.isEmpty then
    if digitLimit < whole.length then return failAt (.tooManyDigits whole.length) cs
    else
      let n : Int := Numeral.digitsNumber whole
      return .ok (.int (if sign == ['-'] then -n else n), rest)
  else
    let x ← Binary64.parse? (String.ofList (sign ++ whole ++ fraction ++ exponent))
    return .ok (.float x, rest)

/-- A number, if one begins here. -/
def number? (cs : List Char) : Option (Except Failure (Taken Value)) :=
  ((basedInteger? cs).map .ok).or (decimal? cs)

/-- One of the words for what is no number. -/
def specialFloat? (cs : List Char) : Option (Value × List Char) :=
  let (sign, rest) := signPart cs
  let word := String.ofList (rest.take 3)
  if word == "inf" then some (.float (.infinity (sign == ['-'])), rest.drop 3)
  else if word == "nan" then some (.float .nan, rest.drop 3)
  else none

/-! ## Dates and times -/

/-- Two digits whose value is in a range. -/
def twoDigits? (least greatest : Nat) : List Char → Option (Nat × List Char)
  | a :: b :: rest =>
    if Text.isDigit a && Text.isDigit b then
      let n := Numeral.digitsNumber [a, b]
      if least ≤ n && n ≤ greatest then some (n, rest) else none
    else none
  | _ => none

/-- The text after a given character. -/
def after? (c : Char) : List Char → Option (List Char)
  | d :: rest => if d == c then some rest else none
  | [] => none

/-- A fraction of a second, of which any number of digits is passed over. -/
def skipFraction (cs : List Char) : List Char :=
  match cs with
  | '.' :: d :: rest => if Text.isDigit d then rest.dropWhile Text.isDigit else cs
  | _ => cs

/-- The text after a time of day. -/
def clock? (cs : List Char) : Option (List Char) := do
  let (_, rest) ← twoDigits? 0 23 cs
  let (_, rest) ← twoDigits? 0 59 (← after? ':' rest)
  let (_, rest) ← twoDigits? 0 59 (← after? ':' rest)
  return skipFraction rest

/-- The text after an offset from universal time, if there is one. -/
def skipOffset (cs : List Char) : List Char :=
  match cs with
  | 'Z' :: rest => rest
  | 'z' :: rest => rest
  | c :: rest =>
    if c == '+' || c == '-' then
      (do let (_, rest) ← twoDigits? 0 23 rest
          let (_, rest) ← twoDigits? 0 59 (← after? ':' rest)
          return rest).getD cs
    else cs
  | [] => []

/-- The text after a time of day that follows a date, if one does. -/
def skipClock (cs : List Char) : List Char :=
  match cs with
  | c :: rest =>
    if c == 'T' || c == 't' || c == ' ' then
      match clock? rest with
      | some rest => skipOffset rest
      | none => cs
    else cs
  | [] => []

/-- The number of days of a month. -/
def daysOfMonth (year month : Nat) : Nat :=
  if month = 2 then
    if year % 4 = 0 && (year % 100 != 0 || year % 400 = 0) then 29 else 28
  else if [4, 6, 9, 11].contains month then 30
  else 31

/-- A date: year, month, day, and the text after it. -/
def date? (cs : List Char) : Option (Nat × Nat × Nat × List Char) := do
  let digits := cs.take 4
  if digits.length = 4 && digits.all Text.isDigit then
    let (month, rest) ← twoDigits? 1 12 (← after? '-' (cs.drop 4))
    let (day, rest) ← twoDigits? 1 31 (← after? '-' rest)
    return (Numeral.digitsNumber digits, month, day, rest)
  else none

/-- The part of a text in front of a later part. -/
def spelled (cs rest : List Char) : Value :=
  .moment (String.ofList (cs.take (cs.length - rest.length)))

/-- A date or a time of day, if one begins here. -/
def moment? (cs : List Char) : Option (Except Failure (Taken Value)) :=
  match date? cs with
  | some (year, month, day, rest) =>
    if year = 0 || daysOfMonth year month < day then some (failAt .invalidDate cs)
    else
      let rest := skipClock rest
      some (.ok (spelled cs rest, rest))
  | none => (clock? cs).map fun rest => .ok (spelled cs rest, rest)

/-- One of the two truth values, if one begins here. -/
def truth? (cs : List Char) : Option (Value × List Char) :=
  if Text.startsWith cs "true".toList then some (.bool true, cs.drop 4)
  else if Text.startsWith cs "false".toList then some (.bool false, cs.drop 5)
  else none

end Toml

end SchemaCompiler
