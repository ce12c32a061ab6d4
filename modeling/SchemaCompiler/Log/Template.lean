import SchemaCompiler.Decimal.Fixed
import SchemaCompiler.Value.Literal

/-!
# Message templates

A message with places for values. A place is a percent sign, flags, a width, a precision and a
letter that says how the value is written. Values are taken in order, and none may be left over. A
mapping may be given instead: a place that names a key in parentheses takes the value under it, and
a place that names none takes the mapping itself, once.
-/

set_option autoImplicit false

namespace SchemaCompiler

namespace Log

/-- The counts of a place: at least how wide it is, and how many digits or characters it shows. -/
inductive CountKind where
  | width
  | precision
  deriving DecidableEq, Repr

/-- The number of bits, with one for the sign, that a count has to fit. -/
def CountKind.bits : CountKind → Nat
  | width => 64
  | precision => 32

/-- The greatest precision that fits its bits. -/
def greatestPrecision : Nat := Nat.pow 2 (CountKind.precision.bits - 1) - 1

/-- The greatest precision of an integer, which leaves room for a sign and a mark. -/
def integerPrecision : Nat := greatestPrecision - 3

/-- The greatest width that a text has room for. -/
def room : Nat := Nat.pow 2 31

/-- Why a template cannot be filled in. -/
inductive TemplateFailure where
  /-- A letter, at its position in the template, that is no way to write a value. -/
  | unsupported (letter : Char) (position : Nat)
  | incomplete
  /-- Too few or too many values, a value of the wrong kind, or a place that names a key where no
  mapping is given. -/
  | mismatch
  /-- A key in parentheses that do not close. -/
  | incompleteKey
  /-- A key that the mapping does not have. -/
  | missingKey (key : String)
  /-- A count in the template that is too great. -/
  | writtenCount (kind : CountKind)
  /-- A count among the values that is too great. -/
  | givenCount (kind : CountKind)
  /-- A precision that is too great for an integer. -/
  | longInteger
  /-- A width that there is no room for. -/
  | noRoom
  | integer (failure : IntegerFailure)
  /-- A code point beyond the last one. -/
  | characterRange
  /-- An integer beyond the range of doubles. -/
  | doubleRange
  /-- A signalling NaN where a double is needed. -/
  | signalling
  deriving DecidableEq, Repr

namespace TemplateFailure

/-- The message of a failure. -/
def message : TemplateFailure → String
  | unsupported letter position =>
    let shown := if 31 ≤ letter.toNat && letter.toNat ≤ 126 then letter else '?'
    "unsupported format character '" ++ String.ofList [shown] ++ "' (0x" ++
      String.ofList (Nat.toDigits 16 letter.toNat) ++ ") at index " ++ toString position
  | incomplete => "incomplete format"
  | mismatch => "the values do not match the template"
  | incompleteKey => "incomplete format key"
  | missingKey key => Text.quoted key
  | writtenCount .width => "width too big"
  | writtenCount .precision => "precision too big"
  | givenCount .width => "Python int too large to convert to C ssize_t"
  | givenCount .precision => "Python int too large to convert to C int"
  | longInteger => "precision too large"
  | noRoom => ""
  | integer failure => failure.message
  | characterRange => "%c arg not in range(0x110000)"
  | doubleRange => "int too large to convert to float"
  | signalling => "cannot convert signaling NaN to float"

end TemplateFailure

/-- The flags, width and precision of a place. -/
structure Place where
  left : Bool
  plus : Bool
  blank : Bool
  alternate : Bool
  zero : Bool
  width : Nat
  precision : Option Nat
  deriving Repr

namespace Place

/-- A place without anything special. -/
def plain : Place := ⟨false, false, false, false, false, 0, none⟩

/-- Fills a text up to the width with spaces. -/
def pad (p : Place) (cs : List Char) : List Char :=
  let filler := List.replicate (p.width - cs.length) ' '
  if p.left then cs ++ filler else filler ++ cs

/-- Fills a number up to the width: with zeros between its sign and its digits, or with spaces. -/
def padNumber (p : Place) (sign body : List Char) : List Char :=
  if p.zero && !p.left then
    sign ++ List.replicate (p.width - sign.length - body.length) '0' ++ body
  else p.pad (sign ++ body)

/-- The sign of a number. -/
def sign (p : Place) (negative : Bool) : List Char :=
  if negative then ['-'] else if p.plus then ['+'] else if p.blank then [' '] else []

/-- A text, cut to the precision. -/
def text (p : Place) (s : String) : List Char :=
  p.pad (match p.precision with
    | some n => s.toList.take n
    | none => s.toList)

/-- An integer in a base, with the base's mark if the place asks for it. -/
def integer (p : Place) (base : Nat) (mark : List Char) (upper : Bool) (n : Int) : List Char :=
  let digits := Nat.toDigits base n.natAbs
  let digits := if upper then digits.map Char.toUpper else digits
  let digits := List.replicate (p.precision.getD 0 - digits.length) '0' ++ digits
  p.padNumber (p.sign (n < 0) ++ if p.alternate then mark else []) digits

/-- The exponent of a number in scientific form. -/
def exponentText (e : Int) : List Char :=
  (DecimalLayout.plain.exponentText e).toList

/-- Digits with a point after the first `before` of them. -/
def pointed (p : Place) (before : Nat) (digits : List Char) : List Char :=
  let fraction := digits.drop before
  digits.take before ++ (if fraction.isEmpty && !p.alternate then [] else '.' :: fraction)

/-- Digits after the point without the zeros at their end, unless the place asks for them. -/
def trimmed (p : Place) (before : Nat) (digits : List Char) : List Char :=
  if p.alternate then digits
  else digits.take before ++ ((digits.drop before).reverse.dropWhile (· == '0')).reverse

/-- A finite double's absolute value in fixed form. -/
def fixed (p : Place) (x : Binary64) : List Char :=
  let (whole, fraction) := x.fixedParts (p.precision.getD 6)
  p.pointed whole.length (whole.toList ++ fraction.toList)

/-- A finite double's absolute value in scientific form. The greatest precision is counted round to
none, since the digit before the point counts as well. -/
def scientific (p : Place) (x : Binary64) : List Char :=
  let precision := p.precision.getD 6
  let (digits, e) := x.scientificParts (if precision < greatestPrecision then precision else 0)
  p.pointed 1 digits ++ exponentText e

/-- More significant digits than the decimal form of any double has. -/
def manyDigits : Nat := 1100

/-- A finite double's absolute value in the shorter of the two forms, by significant digits. Those
beyond all digits of the double are zeros, which are left out unless the place asks for them. -/
def general (p : Place) (x : Binary64) : List Char :=
  let asked := max 1 (p.precision.getD 6)
  let significant := if p.alternate then asked else min asked manyDigits
  let (digits, e) := x.scientificParts (significant - 1)
  if -4 ≤ e && e < significant then
    let (whole, fraction) := x.fixedParts (significant - 1 - e).toNat
    let digits := whole.toList ++ fraction.toList
    p.pointed whole.length (p.trimmed whole.length digits)
  else p.pointed 1 (p.trimmed 1 digits) ++ exponentText e

/-- A double in a form for finite ones. -/
def double (p : Place) (form : Place → Binary64 → List Char) (upper : Bool) (x : Binary64) :
    List Char :=
  let body :=
    if x.isNaN then "nan".toList else if x.isFinite then form p x else "inf".toList
  let body := if upper then body.map Char.toUpper else body
  p.padNumber (p.sign (x.isNegative && !x.isNaN)) body

end Place

/-! ## Values in places -/

/-- The literal of a value in ASCII. -/
def asciiLiteral (v : Value) : String :=
  String.ofList (v.literal.toList.flatMap fun c =>
    if c.toNat < 0x80 then [c] else Text.codePointEscape c.toNat)

/-- A value all of whose integers can be written. -/
def showable (v : Value) : Except TemplateFailure Value :=
  (v.literal?.map fun _ => v).mapError .integer

/-- An integer that can be written in decimal. -/
def writable (n : Int) : Except TemplateFailure Int :=
  ((integerText n).map fun _ => n).mapError .integer

/-- The integer that a number stands for, to be written in decimal. -/
def wholeNumber : Value → Except TemplateFailure Int
  | .bool b => .ok (if b then 1 else 0)
  | .int n => .ok n
  | .float x => (Value.float x).toInteger.mapError .integer
  | .decimal d => (Value.decimal d).toInteger.mapError .integer
  | _ => .error .mismatch

/-- An integer, where a fraction is not accepted. -/
def exactInteger : Value → Except TemplateFailure Int
  | .bool b => .ok (if b then 1 else 0)
  | .int n => .ok n
  | _ => .error .mismatch

/-- The double that a number stands for. -/
def doubleOf : Value → Except TemplateFailure Binary64
  | .bool b => .ok (Binary64.nearest false (if b then 1 else 0) 0)
  | .int n =>
    let x := Binary64.nearest (n < 0) n.natAbs 0
    if x.isFinite then .ok x else .error .doubleRange
  | .float x => .ok x
  | .decimal (.finite negative c e) => .ok (Binary64.nearest negative c e)
  | .decimal (.infinity negative) => .ok (.infinity negative)
  | .decimal (.nan _ signalling _) => if signalling then .error .signalling else .ok .nan
  | _ => .error .mismatch

/-- A character, or the one of a code point. -/
def character : Value → Except TemplateFailure (List Char)
  | .str s => match s.toList with
    | [c] => .ok [c]
    | _ => .error .mismatch
  | v => do
    let n ← exactInteger v
    if 0 ≤ n && n < 0x110000 then .ok [Char.ofNat n.toNat] else .error .characterRange

/-- An integer in a place that does not ask for too many digits. -/
def fillInteger (p : Place) (form : Int → Except TemplateFailure (List Char)) (n : Int) :
    Except TemplateFailure (List Char) :=
  if integerPrecision < p.precision.getD 0 then .error .longInteger else form n

/-- An integer in decimal in a place. -/
def fillDecimal (p : Place) : Int → Except TemplateFailure (List Char) :=
  fillInteger p fun n => (writable n).map (p.integer 10 [] false)

/-- An integer in a base with a mark in a place. -/
def fillBase (p : Place) (base : Nat) (letter : Char) (upper : Bool) :
    Int → Except TemplateFailure (List Char) :=
  fillInteger p fun n => .ok (p.integer base ['0', letter] upper n)

/-- A value in a place, as its letter says. -/
def fill (p : Place) (letter : Char) (v : Value) : Option (Except TemplateFailure (List Char)) :=
  match letter with
  | 's' => some ((showable v).map fun v => p.text v.plainText)
  | 'r' => some ((showable v).map fun v => p.text v.literal)
  | 'a' => some ((showable v).map fun v => p.text (asciiLiteral v))
  | 'd' => some (wholeNumber v >>= fillDecimal p)
  | 'i' => some (wholeNumber v >>= fillDecimal p)
  | 'u' => some (wholeNumber v >>= fillDecimal p)
  | 'o' => some (exactInteger v >>= fillBase p 8 'o' false)
  | 'x' => some (exactInteger v >>= fillBase p 16 'x' false)
  | 'X' => some (exactInteger v >>= fillBase p 16 'X' true)
  | 'e' => some ((doubleOf v).map (p.double Place.scientific false))
  | 'E' => some ((doubleOf v).map (p.double Place.scientific true))
  | 'f' => some ((doubleOf v).map (p.double Place.fixed false))
  | 'F' => some ((doubleOf v).map (p.double Place.fixed true))
  | 'g' => some ((doubleOf v).map (p.double Place.general false))
  | 'G' => some ((doubleOf v).map (p.double Place.general true))
  | 'c' => some ((character v).map p.pad)
  | _ => none

/-! ## Templates -/

/-- The entries of a mapping. -/
abbrev Mapping := List (Value × Value)

/-- What a template is filled with: values in order, or a mapping. -/
inductive Arguments where
  | values (given : List Value)
  | mapping (entries : Mapping)
  deriving Inhabited, Repr

namespace Arguments

instance : Coe (List Value) Arguments := ⟨values⟩

/-- The arguments that a logger makes of what it is called with: a single dictionary is a mapping,
unless it is empty. -/
def ofCall : List Value → Arguments
  | [.dict entries] => if entries.isEmpty then values [.dict entries] else mapping entries
  | given => values given

/-- There is nothing to fill in. -/
def isEmpty : Arguments → Bool
  | values given => given.isEmpty
  | mapping entries => entries.isEmpty

/-- The values that are there from the start. A mapping is itself a value. -/
def inOrder : Arguments → List Value
  | values given => given
  | mapping entries => [.dict entries]

/-- The mapping, if one is given. -/
def mapping? : Arguments → Option Mapping
  | values _ => none
  | mapping entries => some entries

end Arguments

/-- Reads a key up to the parenthesis that closes it. `depth` counts the parentheses that are open
within the key, and `key` is what has been read of it, in reverse. -/
def takeKey (depth : Nat) (key : List Char) : List Char →
    Except TemplateFailure (List Char × List Char)
  | [] => .error .incompleteKey
  | ')' :: cs => match depth with
    | 0 => .ok (key.reverse, cs)
    | depth + 1 => takeKey depth (')' :: key) cs
  | '(' :: cs => takeKey (depth + 1) ('(' :: key) cs
  | c :: cs => takeKey depth (c :: key) cs

/-- The values that are left for a place, and the text of the place after the key that it names. A
place that names a key has the value under it left, and no other. -/
def takeNamed (mapping : Option Mapping) (left : List Value) :
    List Char → Except TemplateFailure (List Value × List Char)
  | '(' :: cs => match mapping with
    | none => .error .mismatch
    | some entries => do
      let (key, rest) ← takeKey 0 [] cs
      let name := String.ofList key
      match Value.lookup? entries name with
      | some v => return ([v], rest)
      | none => .error (.missingKey name)
  | cs => .ok (left, cs)

/-- Takes the next of the values that are left. -/
def takeValue : List Value → Except TemplateFailure (Value × List Value)
  | v :: left => .ok (v, left)
  | [] => .error .mismatch

/-- Reads flags. -/
def takeFlags (p : Place) : List Char → Place × List Char
  | '-' :: cs => takeFlags { p with left := true } cs
  | '+' :: cs => takeFlags { p with plus := true } cs
  | ' ' :: cs => takeFlags { p with blank := true } cs
  | '#' :: cs => takeFlags { p with alternate := true } cs
  | '0' :: cs => takeFlags { p with zero := true } cs
  | cs => (p, cs)

/-- A number fits some bits, one of which is for the sign. -/
def fits (bits : Nat) (n : Int) : Bool := -(Int.pow 2 (bits - 1)) ≤ n && n < Int.pow 2 (bits - 1)

/-- Reads a count: digits, or an asterisk for the next value. -/
def takeCount (kind : CountKind) (left : List Value) (cs : List Char) :
    Except TemplateFailure (Option Int × List Value × List Char) :=
  match cs with
  | '*' :: rest => do
    let (v, left) ← takeValue left
    let n ← exactInteger v
    if fits kind.bits n then return (some n, left, rest) else .error (.givenCount kind)
  | _ =>
    let digits := cs.takeWhile Text.isDigit
    let n := Numeral.digitsNumber digits
    if digits.isEmpty then .ok (none, left, cs)
    else if fits kind.bits n then .ok (some n, left, cs.dropWhile Text.isDigit)
    else .error (.writtenCount kind)

/-- Reads a width. A negative one also puts the value to the left; the least one, whose opposite
does not fit, is no width. -/
def takeWidth (p : Place) (left : List Value) (cs : List Char) :
    Except TemplateFailure (Place × List Value × List Char) := do
  let (count, left, rest) ← takeCount .width left cs
  let width := count.getD 0
  let asked := if fits CountKind.width.bits (-width) then width.natAbs else 0
  return ({ p with width := asked, left := p.left || width < 0 }, left, rest)

/-- Reads a precision. A point alone is the precision zero. -/
def takePrecision (p : Place) (left : List Value) (cs : List Char) :
    Except TemplateFailure (Place × List Value × List Char) :=
  match cs with
  | '.' :: rest => do
    let (count, left, rest) ← takeCount .precision left rest
    return ({ p with precision := some (count.getD 0).toNat }, left, rest)
  | _ => .ok (p, left, cs)

/-- The text after a size mark, which means nothing. -/
def skipSize : List Char → List Char
  | 'h' :: cs => cs
  | 'l' :: cs => cs
  | 'L' :: cs => cs
  | cs => cs

/-- A value in a place whose width there may be no room for, which counts only once the value is
found to fit the letter. -/
def fillWithin (p : Place) (letter : Char) (v : Value) :
    Option (Except TemplateFailure (List Char)) :=
  if p.width ≤ room then fill p letter v
  else (fill { p with width := 0 } letter v).map fun filled => filled >>= fun _ => .error .noRoom

/-- Fills in the place that begins after a percent sign. `length` is that of the whole template. -/
def fillPlace (length : Nat) (mapping : Option Mapping) (left : List Value) (cs : List Char) :
    Except TemplateFailure (List Char × List Value × List Char) := do
  let (left, cs) ← takeNamed mapping left cs
  let (p, cs) := takeFlags .plain cs
  let (p, left, cs) ← takeWidth p left cs
  let (p, left, cs) ← takePrecision p left cs
  match skipSize cs with
  | [] => .error .incomplete
  | letter :: rest =>
    let (v, left) ← takeValue left
    match fillWithin p letter v with
    | some filled => return (← filled, left, rest)
    | none => .error (.unsupported letter (length - rest.length - 1))

/-- Fills in a template from some place on. Each step takes up text, so its length is the fuel. Only
values that were given in order have to be used up. -/
def fillFrom (length : Nat) (mapping : Option Mapping) :
    Nat → List Value → List Char → Except TemplateFailure (List Char)
  | 0, _, _ => .ok []
  | fuel + 1, left, cs =>
    match cs with
    | [] => if left.isEmpty || mapping.isSome then .ok [] else .error .mismatch
    | '%' :: '%' :: rest => do return '%' :: (← fillFrom length mapping fuel left rest)
    | '%' :: rest => do
      let (filled, left, rest) ← fillPlace length mapping left rest
      return filled ++ (← fillFrom length mapping fuel left rest)
    | c :: rest => do return c :: (← fillFrom length mapping fuel left rest)

/-- A template filled with what is given. -/
def fillTemplate (template : String) (given : Arguments) : Except TemplateFailure String :=
  let cs := template.toList
  (fillFrom cs.length given.mapping? (cs.length + 1) given.inOrder cs).map String.ofList

end Log

end SchemaCompiler
