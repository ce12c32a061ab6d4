/-!
# Lines and other parts of texts

A text as lines and back. Every line separator counts, not only the line feed: the carriage return
alone or with a line feed, the vertical tab, the form feed, three information separators, the next
line control, and the line and paragraph separators. Besides, whether a text begins with another or
holds it somewhere, its pieces between the occurrences of a character, and its bytes in UTF-8.
-/

set_option autoImplicit false

namespace SchemaCompiler.Text

/-! ## Lines -/

/-- A character that ends a line. -/
def isLineBreak (c : Char) : Bool :=
  (0x0a ≤ c.toNat && c.toNat ≤ 0x0d) || (0x1c ≤ c.toNat && c.toNat ≤ 0x1e) ||
    c == '\u0085' || c == '\u2028' || c == '\u2029'

/-- The lines of a text, where `line` is the reversed start of the line being read. A separator at
the very end opens no further line. -/
def linesAfter (line : List Char) : List Char → List (List Char)
  | [] => if line.isEmpty then [] else [line.reverse]
  | '\r' :: '\n' :: rest => line.reverse :: linesAfter [] rest
  | c :: rest =>
    if isLineBreak c then line.reverse :: linesAfter [] rest else linesAfter (c :: line) rest

/-- The lines of a text without their separators. -/
def lines (s : String) : List (List Char) := linesAfter [] s.toList

/-- The lines joined by line feeds. -/
def unlines (ls : List String) : String := String.intercalate "\n" ls

/-- Carriage returns, alone or before a line feed, read as line feeds. -/
def unifyNewlines : List Char → List Char
  | [] => []
  | '\r' :: '\n' :: rest => '\n' :: unifyNewlines rest
  | '\r' :: rest => '\n' :: unifyNewlines rest
  | c :: rest => c :: unifyNewlines rest

/-! ## Texts within texts -/

/-- A text begins with another. -/
def startsWith : List Char → List Char → Bool
  | _, [] => true
  | [], _ :: _ => false
  | c :: cs, d :: ds => c == d && startsWith cs ds

/-- A text holds another somewhere. -/
def holds (part : List Char) : List Char → Bool
  | [] => part.isEmpty
  | c :: cs => startsWith (c :: cs) part || holds part cs

/-- `holds` on strings. -/
def holdsText (s part : String) : Bool := holds part.toList s.toList

/-- A text cut at each occurrence of a character, where `part` is the part being read, in
reverse. -/
def cutAt (mark : Char) (part : List Char) : List Char → List (List Char)
  | [] => [part.reverse]
  | c :: cs => if c == mark then part.reverse :: cutAt mark [] cs else cutAt mark (c :: part) cs

/-! ## Bytes -/

/-- The text that bytes encode, if they encode one. -/
def ofBytes? (bytes : List UInt8) : Option String := String.fromUTF8? ⟨bytes.toArray⟩

/-- The bytes that encode a text. -/
def toBytes (s : String) : List UInt8 := s.toUTF8.toList

end SchemaCompiler.Text
