import SchemaCompiler.Text.Class
import SchemaCompiler.Text.Lines
import SchemaCompiler.Text.Quoted
import SchemaCompiler.Toml.Failure

/-!
# Tokens of a TOML text

Blanks, comments, strings and keys. A literal string stands for itself; a basic string has escapes.
One over several lines may also end a line by a backslash, which swallows the blanks that follow.
-/

set_option autoImplicit false

namespace SchemaCompiler

namespace Toml

/-- A blank inside a line. -/
def isSpace (c : Char) : Bool := c == ' ' || c == '\t'

/-- A blank inside a line, or the end of one. -/
def isSpaceOrBreak (c : Char) : Bool := isSpace c || c == '\n'

/-- A control character that no text holds. -/
def isControl (c : Char) : Bool := (c.toNat < 0x20 && c != '\t') || c.toNat == 0x7f

/-- A control character that no text of several lines holds. -/
def isControlInLines (c : Char) : Bool := isControl c && c != '\n'

/-- The text after the blanks of a line. -/
def skipSpaces (cs : List Char) : List Char := cs.dropWhile isSpace

/-- The text after blanks and ends of lines. -/
def skipSpacesAndBreaks (cs : List Char) : List Char := cs.dropWhile isSpaceOrBreak

/-- A text up to a delimiter, and from there on. -/
def splitBefore? (delimiter : List Char) : List Char → Option (List Char × List Char)
  | [] => none
  | c :: cs =>
    if Text.startsWith (c :: cs) delimiter then some ([], c :: cs)
    else (splitBefore? delimiter cs).map fun (before, rest) => (c :: before, rest)

/-- Fails at the first character of `part` that is refused, given the text after the part. -/
def refuse (refused : Char → Bool) (rest : List Char) : List Char → Except Failure Unit
  | [] => .ok ()
  | c :: part =>
    if refused c then failAt (.invalidCharacter c) (c :: part ++ rest) else refuse refused rest part

/-- The text up to a delimiter, without refused characters, and the text after the delimiter. -/
def upTo (delimiter : String) (refused : Char → Bool) (cs : List Char) :
    Except Failure (Taken (List Char)) :=
  match splitBefore? delimiter.toList cs with
  | none => failAt (.expected delimiter) []
  | some (before, rest) => do
    refuse refused rest before
    return (before, rest.drop delimiter.length)

/-- The text after a comment, if there is one. -/
def skipComment : List Char → Except Failure (List Char)
  | '#' :: cs => do
    let rest := cs.dropWhile (· != '\n')
    refuse isControl rest (cs.takeWhile (· != '\n'))
    return rest
  | cs => .ok cs

/-! ## Basic strings -/

/-- What the escapes of one letter stand for. -/
def escapes : List (Char × Char) :=
  [('b', '\x08'), ('t', '\t'), ('n', '\n'), ('f', '\x0c'), ('r', '\r'), ('\x22', '\x22'),
   ('\\', '\\')]

/-- A character by its code point in hexadecimal digits. -/
def hexEscape (width : Nat) (cs : List Char) : Except Failure (Taken (List Char)) :=
  let digits := cs.take width
  let rest := cs.drop width
  match if digits.length = width then Text.hexNumber? digits else none with
  | none => failAt .badHex cs
  | some n => if n.isValidChar then .ok ([Char.ofNat n], rest) else failAt .notScalar rest

/-- A backslash at the end of a line, given the text after the backslash: it swallows the blanks up
to the next character. -/
def lineEscape (cs : List Char) : Except Failure (Taken (List Char)) :=
  match skipSpaces cs with
  | [] => .ok ([], [])
  | '\n' :: rest => .ok ([], skipSpacesAndBreaks rest)
  | c :: rest => failAt .badEscape (c :: rest)

/-- An escape, given the text after its backslash. -/
def escape (inLines : Bool) : List Char → Except Failure (Taken (List Char))
  | [] => failAt .badEscape []
  | c :: rest =>
    if inLines && isSpaceOrBreak c then lineEscape (c :: rest)
    else if c == 'u' then hexEscape 4 rest
    else if c == 'U' then hexEscape 8 rest
    else match escapes.find? (·.1 == c) with
      | some (_, meaning) => .ok ([meaning], rest)
      | none => failAt .badEscape rest

theorem hexEscape_length {width : Nat} {cs chars rest : List Char}
    (h : hexEscape width cs = .ok (chars, rest)) : rest.length ≤ cs.length := by
  simp only [hexEscape, failAt] at h
  split at h
  · cases h
  · split at h
    · cases h
      simp
    · cases h

theorem lineEscape_length {cs chars rest : List Char}
    (h : lineEscape cs = .ok (chars, rest)) : rest.length ≤ cs.length := by
  have outer := (List.dropWhile_suffix (l := cs) isSpace).length_le
  simp only [lineEscape, skipSpaces, skipSpacesAndBreaks, failAt] at h
  split at h
  · cases h
    simp
  · rename_i tail heq
    cases h
    have inner := (List.dropWhile_suffix (l := tail) isSpaceOrBreak).length_le
    rw [heq] at outer
    simp only [List.length_cons] at outer
    omega
  · cases h

theorem escape_length {inLines : Bool} {cs chars rest : List Char}
    (h : escape inLines cs = .ok (chars, rest)) : rest.length ≤ cs.length := by
  cases cs with
  | nil => simp [escape, failAt] at h
  | cons c tail =>
    simp only [escape] at h
    split at h
    · exact lineEscape_length h
    · split at h
      · have := hexEscape_length h
        simp only [List.length_cons]
        omega
      · split at h
        · have := hexEscape_length h
          simp only [List.length_cons]
          omega
        · split at h
          · cases h
            simp
          · simp [failAt] at h

/-- The rest of a basic string, where `done` is the reversed text read so far. -/
def basicFrom (inLines : Bool) (done : List Char) (cs : List Char) :
    Except Failure (Taken String) :=
  match cs with
  | [] => failAt .unterminated []
  | '\x22' :: rest =>
    if !inLines then .ok (String.ofList done.reverse, rest)
    else if Text.startsWith rest ['\x22', '\x22'] then
      .ok (String.ofList done.reverse, rest.drop 2)
    else basicFrom inLines ('\x22' :: done) rest
  | '\\' :: rest =>
    match h : escape inLines rest with
    | .error e => .error e
    | .ok (chars, after) =>
      have := escape_length h
      basicFrom inLines (chars.reverse ++ done) after
  | c :: rest =>
    if (if inLines then isControlInLines c else isControl c) then
      failAt (.illegalCharacter c) (c :: rest)
    else basicFrom inLines (c :: done) rest
termination_by cs.length
decreasing_by all_goals simp only [List.length_cons]; omega

/-! ## Strings and keys -/

/-- A literal string on one line, after its opening quote. -/
def literalString (cs : List Char) : Except Failure (Taken String) := do
  let (text, rest) ← upTo "'" isControl cs
  return (String.ofList text, rest)

/-- Up to two more quotes that directly follow the closing ones belong to the string. -/
def moreQuotes (quote : Char) (text : String) : List Char → String × List Char
  | c :: rest =>
    if c == quote then
      match rest with
      | d :: rest' =>
        if d == quote then (text ++ String.ofList [quote, quote], rest')
        else (text ++ String.ofList [quote], rest)
      | [] => (text ++ String.ofList [quote], [])
    else (text, c :: rest)
  | [] => (text, [])

/-- The text after a line feed at its very beginning. -/
def skipFirstBreak : List Char → List Char
  | '\n' :: rest => rest
  | cs => cs

/-- A string over several lines, after its opening quotes. -/
def longString (quote : Char) (cs : List Char) : Except Failure (Taken String) := do
  let body := skipFirstBreak cs
  if quote == '\x27' then
    let (text, rest) ← upTo "'''" isControlInLines body
    return moreQuotes quote (String.ofList text) rest
  else
    let (text, rest) ← basicFrom true [] body
    return moreQuotes quote text rest

/-- A string, if one begins here. -/
def string? (cs : List Char) : Option (Except Failure (Taken String)) :=
  match cs with
  | '\x22' :: '\x22' :: '\x22' :: rest => some (longString '\x22' rest)
  | '\x22' :: rest => some (basicFrom false [] rest)
  | '\x27' :: '\x27' :: '\x27' :: rest => some (longString '\x27' rest)
  | '\x27' :: rest => some (literalString rest)
  | _ => none

/-- A character of a bare key. -/
def isBareKey (c : Char) : Bool :=
  Text.isCapital c || Text.isSmall c || Text.isDigit c || c == '-' || c == '_'

/-- One part of a dotted key. -/
def keyPart (cs : List Char) : Except Failure (Taken String) :=
  match cs with
  | '\x22' :: rest => basicFrom false [] rest
  | '\x27' :: rest => literalString rest
  | c :: _ =>
    if isBareKey c then .ok (String.ofList (cs.takeWhile isBareKey), cs.dropWhile isBareKey)
    else failAt .keyStart cs
  | [] => failAt .keyStart []

/-- The further parts of a dotted key. Each takes up text, so `fuel` is the length of the text. -/
def keyTail : Nat → List Char → Except Failure (Taken (List String))
  | 0, cs => .ok ([], cs)
  | fuel + 1, cs =>
    match cs with
    | '.' :: rest => do
      let (part, rest) ← keyPart (skipSpaces rest)
      let (parts, rest) ← keyTail fuel (skipSpaces rest)
      return (part :: parts, rest)
    | _ => .ok ([], cs)

/-- A dotted key and the blanks after it. -/
def key (cs : List Char) : Except Failure (Taken (List String)) := do
  let (part, rest) ← keyPart cs
  let (parts, rest) ← keyTail rest.length (skipSpaces rest)
  return (part :: parts, rest)

end Toml

end SchemaCompiler
