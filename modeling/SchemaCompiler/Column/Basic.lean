import SchemaCompiler.Dialect.Profile
import SchemaCompiler.Model.Relation

/-!
# Members of a block

One line of a model block: a scalar column or a relation. Types and attributes keep their meaning
here and become text only when a member is rendered.
-/

set_option autoImplicit false

namespace SchemaCompiler

/-- The type of a member, without the mark of an optional one. -/
inductive MemberType where
  | scalar (s : Scalar)
  /-- One row of a model. -/
  | one (model : String)
  /-- A list of rows of a model. -/
  | many (model : String)
  /-- A type that is taken as it is written. -/
  | written (text : String)
  deriving DecidableEq, Inhabited, Repr

namespace MemberType

/-- The type as text. -/
def render : MemberType → String
  | scalar s => s.name
  | one model => model
  | many model => model ++ "[]"
  | written text => text

/-- The model that a relation member is about. -/
def model? : MemberType → Option String
  | one model | many model => some model
  | _ => none

end MemberType

/-- The foreign key that a relation member owns, the key it references, and what follows a
deletion. -/
structure KeyReference where
  field : String
  key : String
  onDelete : Option ReferentialAction
  deriving DecidableEq, Inhabited, Repr

/-- An attribute of a member. -/
inductive Attribute where
  | id
  | default (expression : String)
  | unique
  | updatedAt
  /-- A native column type. -/
  | native (type : String)
  /-- The name of the column in the database. -/
  | map (column : String)
  /-- The label of a relation, and its key if the member owns it. -/
  | relation (label : String) (reference : Option KeyReference)
  /-- An attribute that is taken as it is written. -/
  | written (text : String)
  deriving DecidableEq, Inhabited, Repr

/-- The attribute as text. -/
def Attribute.render : Attribute → String
  | id => "@id"
  | default expression => "@default(" ++ expression ++ ")"
  | unique => "@unique"
  | updatedAt => "@updatedAt"
  | native type => type
  | map column => "@map(\"" ++ column ++ "\")"
  | relation label none => "@relation(\"" ++ label ++ "\")"
  | relation label (some r) =>
    let action := match r.onDelete with
      | some a => ", onDelete: " ++ a.name
      | none => ""
    "@relation(\"" ++ label ++ "\", fields: [" ++ r.field ++ "], references: [" ++ r.key ++ "]" ++
      action ++ ")"
  | written text => text

/-- A member of a model block. -/
structure Column where
  name : String
  type : MemberType
  optional : Bool
  attributes : List Attribute
  deriving DecidableEq, Inhabited, Repr

namespace Column

/-- The type with the mark of an optional member. -/
def typeText (c : Column) : String := if c.optional then c.type.render ++ "?" else c.type.render

/-- The member on one line, its parts separated by single spaces. -/
def render (c : Column) : String :=
  String.intercalate " " (c.name :: c.typeText :: c.attributes.map (·.render))

/-- The name of the column in the database. -/
def databaseName (c : Column) : String :=
  (c.attributes.findSome? fun
    | .map column => some column
    | _ => none).getD c.name

end Column

end SchemaCompiler
