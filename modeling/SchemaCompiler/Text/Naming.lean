import SchemaCompiler.Text.Case

/-!
# Naming conventions

Columns and tables carry the snake_case form of the names of fields and models. The form is made in
three steps, marking the word boundaries of a camel-case name, writing hyphens as underscores, and
lower-casing; the last step is a parameter of `snakeCaseWith`, so that what the form guarantees can
be said apart from the case tables.
-/

set_option autoImplicit false

namespace SchemaCompiler.Text

/-- A word starts at `c`: a capital after a small letter or a digit, or the last capital of a run
of capitals that a small letter follows. -/
def startsWord (before c : Char) (after : Option Char) : Bool :=
  isCapital c && (isSmall before || isDigit before || (isCapital before && after.any isSmall))

/-- Puts an underscore before each character that starts a word. -/
def markWords : List Char → List Char
  | [] => []
  | [c] => [c]
  | a :: c :: rest =>
    if startsWord a c rest.head? then a :: '_' :: markWords (c :: rest)
    else a :: markWords (c :: rest)

/-- Writes hyphens as underscores. -/
def unhyphen (cs : List Char) : List Char := cs.map fun c => if c == '-' then '_' else c

/-- The snake_case form over a given lower-casing. -/
def snakeCaseWith (lowering : List Char → List Char) (cs : List Char) : List Char :=
  lowering (unhyphen (markWords cs))

/-- The snake_case form of a camel-case name. -/
def snakeCase (name : String) : String := String.ofList (snakeCaseWith lowerChars name.toList)

/-- A name with its first character in lower case. -/
def lowerFirst (name : String) : String :=
  match name.toList with
  | [] => name
  | c :: rest => String.ofList (lowerChars [c] ++ rest)

/-- A member whose column carries another name, so that the column has to be named. -/
def needsColumnMap (name : String) : Bool := snakeCase name != name

/-- The foreign key field that a relation uses unless it names one. -/
def foreignKeyName (relation : String) : String := relation ++ "Id"

end SchemaCompiler.Text
