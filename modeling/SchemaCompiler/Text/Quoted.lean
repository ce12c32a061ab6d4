import SchemaCompiler.Text.Class

/-!
# Quoted texts

The form in which messages quote a text or a byte string. The single quote encloses it, unless it
holds single quotes and no double one; the enclosing quote, the backslash and everything that is
not printable are escaped. Escapes have hexadecimal numbers of fixed width, in lower case; digits of
either case are read.
-/

set_option autoImplicit false

namespace SchemaCompiler.Text

/-! ## Hexadecimal digits -/

/-- The digit of a value below sixteen. -/
def hexDigit (n : Nat) : Char := if n < 10 then Char.ofNat (0x30 + n) else Char.ofNat (0x57 + n)

/-- The value of a hexadecimal digit of either case. -/
def hexValue? (c : Char) : Option Nat :=
  if '0' ≤ c && c ≤ '9' then some (c.toNat - 0x30)
  else if 'a' ≤ c && c ≤ 'f' then some (c.toNat - 0x57)
  else if 'A' ≤ c && c ≤ 'F' then some (c.toNat - 0x37)
  else none

/-- The lowest `width` hexadecimal digits of a number. -/
def hexDigits : Nat → Nat → List Char
  | 0, _ => []
  | width + 1, n => hexDigits width (n / 16) ++ [hexDigit (n % 16)]

/-- The number that hexadecimal digits spell, if they are all digits. -/
def hexNumber? (cs : List Char) : Option Nat :=
  cs.foldlM (fun n c => (hexValue? c).map (n * 16 + ·)) 0

/-! ## Quotes -/

/-- The quote that encloses a text. -/
def quoteFor (cs : List Char) : Char :=
  if cs.contains '\x27' && !cs.contains '\x22' then '\x22' else '\x27'

/-- A character escaped by its code point, in the shortest of three widths. -/
def codePointEscape (n : Nat) : List Char :=
  if n < 0x100 then '\\' :: 'x' :: hexDigits 2 n
  else if n < 0x10000 then '\\' :: 'u' :: hexDigits 4 n
  else '\\' :: 'U' :: hexDigits 8 n

/-- One character between quotes `q`. -/
def quotedChar (q c : Char) : List Char :=
  if c == q || c == '\\' then ['\\', c]
  else if c == '\n' then ['\\', 'n']
  else if c == '\r' then ['\\', 'r']
  else if c == '\t' then ['\\', 't']
  else if isPrintable c then [c]
  else codePointEscape c.toNat

/-- A text between quotes. -/
def quotedChars (cs : List Char) : List Char :=
  let q := quoteFor cs
  q :: cs.flatMap (quotedChar q) ++ [q]

/-- A string between quotes. -/
def quoted (s : String) : String := String.ofList (quotedChars s.toList)

/-- A byte string between quotes, marked by a leading `b`; bytes outside ASCII are escaped. -/
def quotedBytes (bytes : List UInt8) : String :=
  let cs := bytes.map fun b => Char.ofNat b.toNat
  let q := quoteFor cs
  let one := fun c : Char => if c.toNat < 0x7f then quotedChar q c else codePointEscape c.toNat
  String.ofList ('b' :: q :: cs.flatMap one ++ [q])

end SchemaCompiler.Text
