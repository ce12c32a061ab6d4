/-!
# Diagnostics

A diagnostic is a classified message with the place it is about. The text of a diagnostic is its
message behind that place in brackets.
-/

set_option autoImplicit false

namespace SchemaCompiler

/-- A place in the descriptors: a model, and a field or a relation of it. -/
structure Location where
  model : String
  field : Option String
  relation : Option String
  deriving DecidableEq, Inhabited, Repr

namespace Location

/-- A name that is given and not empty. -/
def given (name : Option String) : Option String := name.filter (· != "")

/-- The member that a location names: its relation, else its field. -/
def member (l : Location) : Option String := (given l.relation).or (given l.field)

/-- A location as text. -/
def text (l : Location) : String :=
  let model := if l.model == "" then "<unnamed model>" else l.model
  match l.member with
  | some name => model ++ "." ++ name
  | none => model

end Location

/-- The classes of diagnostics. -/
inductive DiagnosticClass where
  | general
  | registry
  | duplicateModel
  | modelNotFound
  | validation
  | structural
  | integrity
  | validationFailed
  | generation
  | config
  | modelLoad
  deriving DecidableEq, Inhabited, Repr

namespace DiagnosticClass

/-- The class that a class belongs to. -/
def parent : DiagnosticClass → Option DiagnosticClass
  | general => none
  | duplicateModel | modelNotFound => some registry
  | structural | integrity => some validation
  | _ => some general

/-- A class and the classes it belongs to, narrowest first. -/
def chain : DiagnosticClass → List DiagnosticClass
  | general => [general]
  | c => match c.parent with
    | some general => [c, general]
    | some p => [c, p, general]
    | none => [c]

end DiagnosticClass

/-- A classified message about a place, or about no place in particular. -/
structure Diagnostic where
  category : DiagnosticClass
  message : String
  location : Option Location
  deriving DecidableEq, Inhabited, Repr

namespace Diagnostic

/-- The text of a diagnostic. -/
def text (d : Diagnostic) : String :=
  match d.location with
  | some l => "[" ++ l.text ++ "] " ++ d.message
  | none => d.message

/-- The diagnostic that validation failed, which lists the texts of all errors found. -/
def validationFailed (errors : List Diagnostic) : Diagnostic :=
  { category := .validationFailed
    message := "Model validation failed with " ++ toString errors.length ++ " error(s):\n" ++
      String.intercalate "\n" (errors.map fun e => "  - " ++ e.text)
    location := none }

end Diagnostic

end SchemaCompiler
