import SchemaCompiler.Text.Quoted
import SchemaCompiler.Value.Basic

/-!
# Integers from values

The integer that a length limit stands for. Numbers lose their fraction; a text has to be a
decimal integer with nothing but blanks around it. Integers of more than `digitLimit` digits are
neither read from a text nor written as one.
-/

set_option autoImplicit false

namespace SchemaCompiler

/-- The number of digits that a decimal integer has at most in a text. -/
def digitLimit : Nat := 4300

/-- Why a value stands for no integer, or an integer for no text. -/
inductive IntegerFailure where
  /-- A text or byte string that is no decimal integer, by its literal. -/
  | invalidText (literal : String)
  /-- A text or byte string with too many digits. -/
  | tooManyDigits (count : Nat)
  /-- An integer with too many digits to be written. -/
  | tooLong
  | floatNaN
  | floatInfinity
  | decimalNaN
  | decimalInfinity
  /-- A value of a kind that is never read as an integer. -/
  | unsupported (kind : String)
  deriving DecidableEq, Repr

namespace IntegerFailure

/-- The message about too many digits, in which a count of them may be stated. -/
def limitMessage (counted : String) : String :=
  "Exceeds the limit (" ++ toString digitLimit ++ " digits) for integer string conversion" ++
    counted ++ "; use sys.set_int_max_str_digits() to increase the limit"

/-- The message of a failure. A literal is cut after two hundred characters. -/
def message : IntegerFailure → String
  | invalidText literal =>
    "invalid literal for int() with base 10: " ++ String.ofList (literal.toList.take 200)
  | tooManyDigits count => limitMessage (": value has " ++ toString count ++ " digits")
  | tooLong => limitMessage ""
  | floatNaN => "cannot convert float NaN to integer"
  | floatInfinity => "cannot convert float infinity to integer"
  | decimalNaN => "cannot convert NaN to integer"
  | decimalInfinity => "cannot convert Infinity to integer"
  | unsupported kind =>
    "int() argument must be a string, a bytes-like object or a real number, not '" ++ kind ++ "'"

end IntegerFailure

/-- An integer in decimal, unless it has too many digits. -/
def integerText (n : Int) : Except IntegerFailure String :=
  if n.natAbs < Nat.pow 10 digitLimit then .ok (toString n) else .error .tooLong

namespace Value

/-- Reads digits of any script, where one underscore may stand between two digits. `number` and
`count` are the value and the number of the digits before; the answer includes them, and the text
after the last digit. -/
def readDigits (number count : Nat) : List Char → Nat × Nat × List Char
  | [] => (number, count, [])
  | '_' :: c :: rest =>
    match Text.digitValue? c with
    | some d => readDigits (number * 10 + d) (count + 1) rest
    | none => (number, count, '_' :: c :: rest)
  | c :: rest =>
    match Text.digitValue? c with
    | some d => readDigits (number * 10 + d) (count + 1) rest
    | none => (number, count, c :: rest)

/-- A character that may pad an integer: padding, or a blank outside ASCII. -/
def padsInteger (c : Char) : Bool := Text.isPadding c || Text.inRanges Text.wideBlanks c.toNat

/-- The sign of an integer, which is negative or not, and the text after it. -/
def takeSign : List Char → Bool × List Char
  | '-' :: rest => (true, rest)
  | '+' :: rest => (false, rest)
  | cs => (false, cs)

/-- A decimal integer with a sign or none and padding around it. Digits are counted before the text
after them is looked at, but a misplaced underscore is noticed first. `literal` shows the text. -/
def parseInteger (literal : String) (cs : List Char) : Except IntegerFailure Int :=
  let (negative, body) := takeSign (cs.dropWhile padsInteger)
  match body with
  | [] => .error (.invalidText literal)
  | c :: rest =>
    match Text.digitValue? c with
    | none => .error (.invalidText literal)
    | some d =>
      let (number, count, rest) := readDigits d 1 rest
      if rest.head? == some '_' then .error (.invalidText literal)
      else if digitLimit < count then .error (.tooManyDigits count)
      else if rest.all padsInteger then .ok (if negative then -(number : Int) else number)
      else .error (.invalidText literal)

/-- The integer a value stands for. -/
def toInteger : Value → Except IntegerFailure Int
  | bool b => .ok (if b then 1 else 0)
  | int n => .ok n
  | float x =>
    if x.isNaN then .error .floatNaN
    else if x.isFinite then .ok x.truncate
    else .error .floatInfinity
  | decimal (.finite negative c e) => .ok (Numeral.truncate negative c e)
  | decimal (.infinity _) => .error .decimalInfinity
  | decimal (.nan ..) => .error .decimalNaN
  | str s => parseInteger (Text.quoted s) s.toList
  | bytes b =>
    parseInteger (Text.quotedBytes b) (b.map fun x => if x < 0x80 then Char.ofNat x.toNat else '?')
  | v => .error (.unsupported v.kindName)

end Value

end SchemaCompiler
