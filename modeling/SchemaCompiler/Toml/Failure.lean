import SchemaCompiler.Value.Literal

/-!
# Failures of a TOML text

Why a text is no TOML document, and where. A failure counts the characters from its place to the
end of the text; line and column follow from the text.
-/

set_option autoImplicit false

namespace SchemaCompiler

namespace Toml

/-- What is wrong with a text. -/
inductive Cause where
  | invalidStatement
  | statementEnd
  | invalidCharacter (c : Char)
  | illegalCharacter (c : Char)
  /-- A delimiter that never comes. -/
  | expected (delimiter : String)
  | declaredTwice (key : List String)
  | immutable (key : List String)
  | redefined (key : List String)
  | overwritten
  | duplicate (key : String)
  | tableEnd
  | arrayTableEnd
  | noEqualsSign
  | keyStart
  | unclosedArray
  | unclosedTable
  | badEscape
  | badHex
  | notScalar
  | unterminated
  | invalidDate
  /-- An integer with too many digits. -/
  | tooManyDigits (count : Nat)
  | invalidValue
  deriving DecidableEq, Inhabited, Repr

/-- A dotted key as messages show it. -/
def keyLiteral (key : List String) : String := (Value.tuple (key.map .str)).literal

/-- A character as messages show it. -/
def charLiteral (c : Char) : String := Text.quoted (String.ofList [c])

/-- The message of a cause. -/
def Cause.message : Cause → String
  | invalidStatement => "Invalid statement"
  | statementEnd => "Expected newline or end of document after a statement"
  | invalidCharacter c => "Found invalid character " ++ charLiteral c
  | illegalCharacter c => "Illegal character " ++ charLiteral c
  | expected delimiter => "Expected " ++ Text.quoted delimiter
  | declaredTwice key => "Cannot declare " ++ keyLiteral key ++ " twice"
  | immutable key => "Cannot mutate immutable namespace " ++ keyLiteral key
  | redefined key => "Cannot redefine namespace " ++ keyLiteral key
  | overwritten => "Cannot overwrite a value"
  | duplicate key => "Duplicate inline table key " ++ Text.quoted key
  | tableEnd => "Expected ']' at the end of a table declaration"
  | arrayTableEnd => "Expected ']]' at the end of an array declaration"
  | noEqualsSign => "Expected '=' after a key in a key/value pair"
  | keyStart => "Invalid initial character for a key part"
  | unclosedArray => "Unclosed array"
  | unclosedTable => "Unclosed inline table"
  | badEscape => "Unescaped '\\' in a string"
  | badHex => "Invalid hex value"
  | notScalar => "Escaped character is not a Unicode scalar value"
  | unterminated => "Unterminated string"
  | invalidDate => "Invalid date or datetime"
  | tooManyDigits count => (IntegerFailure.tooManyDigits count).message
  | invalidValue => "Invalid value"

/-- A cause and the number of characters from its place on. -/
structure Failure where
  cause : Cause
  left : Nat
  deriving DecidableEq, Inhabited, Repr

/-- What was read of a text, and the text after it. -/
abbrev Taken (α : Type) := α × List Char

/-- A failure at a place, given the text from there on. -/
def failAt {α : Type} (cause : Cause) (here : List Char) : Except Failure α :=
  .error ⟨cause, here.length⟩

namespace Failure

/-- The line and column after some characters, both counted from one. -/
def coordinates (before : List Char) : Nat × Nat :=
  (before.count '\n' + 1, (before.reverse.takeWhile (· != '\n')).length + 1)

/-- A failure of a text, with its place. -/
def text (source : List Char) (f : Failure) : String :=
  let place :=
    if f.left = 0 then "end of document"
    else
      let (line, column) := coordinates (source.take (source.length - f.left))
      "line " ++ toString line ++ ", column " ++ toString column
  f.cause.message ++ " (at " ++ place ++ ")"

end Failure

end Toml

end SchemaCompiler
