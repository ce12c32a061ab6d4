import SchemaCompiler.Decimal.Numeral
import SchemaCompiler.Text.Quoted
import SchemaCompiler.Value.Basic

/-!
# Reading JSON

JSON texts read back as values. A string spells units of sixteen bits, of which a pair of surrogates
is one character; a number without fraction and exponent is an integer, and any other a double. The
words that doubles beyond all numbers are written as are read as well. A surrogate on its own is
refused.
-/

set_option autoImplicit false

namespace SchemaCompiler

namespace Json

/-! ## Strings -/

/-- The character that a letter after a backslash stands for. -/
def escaped? (c : Char) : Option Char :=
  if c == '\x22' || c == '\\' || c == '/' then some c
  else if c == 'n' then some '\n'
  else if c == 'r' then some '\r'
  else if c == 't' then some '\t'
  else if c == 'f' then some '\x0c'
  else if c == 'b' then some '\x08'
  else none

/-- The units of a string after its opening quote, and the text behind its closing quote. -/
def units? : List Char → Option (List Nat × List Char)
  | [] => none
  | '\x22' :: rest => some ([], rest)
  | '\\' :: 'u' :: a :: b :: c :: d :: rest => do
    let unit ← Text.hexNumber? [a, b, c, d]
    let (units, rest) ← units? rest
    return (unit :: units, rest)
  | '\\' :: c :: rest => do
    let c ← escaped? c
    let (units, rest) ← units? rest
    return (c.toNat :: units, rest)
  | c :: rest =>
    if c.toNat < 0x20 then none
    else do
      let (units, rest) ← units? rest
      return (c.toNat :: units, rest)

/-- A unit begins a pair of surrogates. -/
def isLeading (unit : Nat) : Bool := 0xd800 ≤ unit && unit < 0xdc00

/-- A unit ends a pair of surrogates. -/
def isTrailing (unit : Nat) : Bool := 0xdc00 ≤ unit && unit < 0xe000

/-- The characters that units spell. -/
def joinUnits? : List Nat → Option (List Char)
  | [] => some []
  | [unit] => if isLeading unit || isTrailing unit then none else some [Char.ofNat unit]
  | unit :: next :: rest =>
    if isLeading unit then
      if isTrailing next then
        (joinUnits? rest).map
          (Char.ofNat (0x10000 + (unit - 0xd800) * 0x400 + (next - 0xdc00)) :: ·)
      else none
    else if isTrailing unit then none
    else (joinUnits? (next :: rest)).map (Char.ofNat unit :: ·)

/-- A string after its opening quote. -/
def string? (cs : List Char) : Option (List Char × List Char) := do
  let (units, rest) ← units? cs
  return (← joinUnits? units, rest)

/-! ## Numbers -/

/-- A character that a number may hold. -/
def isNumberChar (c : Char) : Bool :=
  Text.isDigit c || c == '-' || c == '+' || c == '.' || c == 'e' || c == 'E'

/-- Digits without an idle zero in front. -/
def isWhole (digits : List Char) : Bool :=
  !digits.isEmpty && digits.all Text.isDigit && (digits.length == 1 || digits.head? != some '0')

/-- The number that a text without its sign spells. -/
def number? (negative : Bool) (cs : List Char) : Option Value :=
  let whole := cs.takeWhile Text.isDigit
  let rest := cs.dropWhile Text.isDigit
  if !isWhole whole then none
  else match rest with
    | [] =>
      let n : Int := Numeral.digitsNumber whole
      some (.int (if negative then -n else n))
    | '.' :: tail =>
      if tail.head?.any Text.isDigit then
        (Numeral.parseMagnitude? cs).map fun (c, e) => .float (.nearest negative c e)
      else none
    | _ => (Numeral.parseMagnitude? cs).map fun (c, e) => .float (.nearest negative c e)

/-- A number at the beginning of a text. -/
def takeNumber? (cs : List Char) : Option (Value × List Char) :=
  let rest := cs.dropWhile isNumberChar
  match cs.takeWhile isNumberChar with
  | '-' :: magnitude => (number? true magnitude).map (·, rest)
  | magnitude => (number? false magnitude).map (·, rest)

/-! ## Values -/

/-- A blank between tokens. -/
def isBlank (c : Char) : Bool := c == ' ' || c == '\n' || c == '\r' || c == '\t'

/-- A text without the blanks at its beginning. -/
def skipBlanks (cs : List Char) : List Char := cs.dropWhile isBlank

/-- The text behind a word at its beginning. -/
def afterWord? (word : String) (cs : List Char) : Option (List Char) :=
  if cs.take word.length == word.toList then some (cs.drop word.length) else none

/-- The words that stand for values. -/
def words : List (String × Value) :=
  [("null", .null), ("true", .bool true), ("false", .bool false), ("NaN", .float .nan),
   ("Infinity", .float (.infinity false)), ("-Infinity", .float (.infinity true))]

/-- A word at the beginning of a text. -/
def takeWord? (cs : List Char) : Option (Value × List Char) :=
  words.findSome? fun (word, v) => (afterWord? word cs).map (v, ·)

/-- A value that is neither list nor dictionary. -/
def scalar? (cs : List Char) : Option (Value × List Char) :=
  match cs with
  | '\x22' :: rest => (string? rest).map fun (s, rest) => (.str (String.ofList s), rest)
  | _ => (takeWord? cs).or (takeNumber? cs)

mutual

/-- A value, with `fuel` for what is nested in it and what follows it. -/
def value? : Nat → List Char → Option (Value × List Char)
  | 0, _ => none
  | fuel + 1, cs =>
    match skipBlanks cs with
    | '[' :: rest => match skipBlanks rest with
      | ']' :: rest => some (.list [], rest)
      | rest => (items? fuel rest).map fun (items, rest) => (.list items, rest)
    | '\x7b' :: rest => match skipBlanks rest with
      | '\x7d' :: rest => some (.dict [], rest)
      | rest => (entries? fuel rest).map fun (entries, rest) => (.dict entries, rest)
    | cs => scalar? cs

/-- The items of a list, up to its closing bracket. -/
def items? : Nat → List Char → Option (List Value × List Char)
  | 0, _ => none
  | fuel + 1, cs => do
    let (item, rest) ← value? fuel cs
    match skipBlanks rest with
    | ',' :: rest =>
      let (items, rest) ← items? fuel rest
      return (item :: items, rest)
    | ']' :: rest => some ([item], rest)
    | _ => none

/-- The entries of a dictionary, up to its closing brace. -/
def entries? : Nat → List Char → Option (List (Value × Value) × List Char)
  | 0, _ => none
  | fuel + 1, cs =>
    match skipBlanks cs with
    | '\x22' :: rest => do
      let (key, rest) ← string? rest
      match skipBlanks rest with
      | ':' :: rest =>
        let (item, rest) ← value? fuel rest
        let entry := (Value.str (String.ofList key), item)
        match skipBlanks rest with
        | ',' :: rest =>
          let (entries, rest) ← entries? fuel rest
          return (entry :: entries, rest)
        | '\x7d' :: rest => some ([entry], rest)
        | _ => none
      | _ => none
    | _ => none

end

/-- Reads a JSON text. Each step takes up a character, so its length is fuel enough. -/
def parse? (s : String) : Option Value :=
  match value? (s.length + 1) s.toList with
  | some (v, rest) => if (skipBlanks rest).isEmpty then some v else none
  | none => none

end Json

end SchemaCompiler
