import SchemaCompiler.Text.ClassTable

/-!
# Character classes

Which characters are blank, digits, parts of a word, or printable. ASCII is decided by the
character itself and everything else by the tables, so each class is one short test.
-/

set_option autoImplicit false

namespace SchemaCompiler.Text

/-- Membership in a table of ranges. -/
def inRanges (ranges : List (Nat × Nat)) (n : Nat) : Bool :=
  ranges.any fun r => r.1 ≤ n && n ≤ r.2

/-- An ASCII capital letter. -/
def isCapital (c : Char) : Bool := 'A' ≤ c && c ≤ 'Z'

/-- An ASCII small letter. -/
def isSmall (c : Char) : Bool := 'a' ≤ c && c ≤ 'z'

/-- An ASCII digit. -/
def isDigit (c : Char) : Bool := '0' ≤ c && c ≤ '9'

/-- The blanks of ASCII that pad a number: tab to carriage return, and the space. -/
def isPadding (c : Char) : Bool := (9 ≤ c.toNat && c.toNat ≤ 13) || c == ' '

/-- Blank characters outside ASCII. -/
def wideBlanks : List (Nat × Nat) :=
  [(0x85, 0x85), (0xa0, 0xa0), (0x1680, 0x1680), (0x2000, 0x200a), (0x2028, 0x2029),
   (0x202f, 0x202f), (0x205f, 0x205f), (0x3000, 0x3000)]

/-- A blank: padding, one of the four information separators, or a blank outside ASCII. -/
def isBlank (c : Char) : Bool :=
  isPadding c || (0x1c ≤ c.toNat && c.toNat ≤ 0x1f) || inRanges wideBlanks c.toNat

/-- A character of a word: a letter, a digit, another numeric character, or the underscore. -/
def isWord (c : Char) : Bool :=
  isCapital c || isSmall c || isDigit c || c == '_' || inRanges alphanumericRanges c.toNat

/-- A character that stands for itself in a quoted text. -/
def isPrintable (c : Char) : Bool :=
  (0x20 ≤ c.toNat && c.toNat < 0x7f) || inRanges printableRanges c.toNat

/-- The value of a decimal digit of any script. -/
def digitValue? (c : Char) : Option Nat :=
  if isDigit c then some (c.toNat - 0x30)
  else (digitZeros.find? fun z => z ≤ c.toNat && c.toNat < z + 10).map (c.toNat - ·)

/-- Drops the blanks at both ends. -/
def trimBlanks (cs : List Char) : List Char :=
  ((cs.dropWhile isBlank).reverse.dropWhile isBlank).reverse

/-- `trimBlanks` on a string. -/
def trim (s : String) : String := String.ofList (trimBlanks s.toList)

/-- The words of a text, which blanks separate, where `word` is the word being read, in reverse. -/
def words (word : List Char) : List Char → List (List Char)
  | [] => if word.isEmpty then [] else [word.reverse]
  | c :: cs =>
    if isBlank c then if word.isEmpty then words [] cs else word.reverse :: words [] cs
    else words (c :: word) cs

end SchemaCompiler.Text
