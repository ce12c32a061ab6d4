import SchemaCompiler.Breakdown
import SchemaCompiler.Document.Formatter

/-!
# Indexes

The index directives of a block. Constraints map one to one; a foreign key or a field flagged as
indexed gets an index of its own unless a key or a unique constraint leads with it. No two
directives have the same columns.
-/

set_option autoImplicit false

namespace SchemaCompiler

/-- An index directive. -/
structure Index where
  kind : ConstraintKind
  fields : List String
  name : String
  deriving DecidableEq, Inhabited, Repr

namespace Index

/-- The directive as text. -/
def render (i : Index) : String :=
  let directive := match i.kind with
    | .unique => "@@unique"
    | .index => "@@index"
  directive ++ "([" ++ String.intercalate ", " i.fields ++ "], map: \"" ++ i.name ++ "\")"

/-- The mark in front of the name of an index. -/
def mark : ConstraintKind → String
  | .unique => "uq"
  | .index => "idx"

/-- The index of a table over some columns. -/
def ofColumns (table : String) (kind : ConstraintKind) (fields : List String) : Index :=
  ⟨kind, fields, String.intercalate "_" (mark kind :: table :: fields.map Text.snakeCase)⟩

/-- The columns that a key or a unique field leads with. -/
def leadingKeys (m : Model) : List String :=
  (match m.compositeKey with
    | some names => names.take 1
    | none => m.primaryKeyFields.map (·.name))
  ++ (m.fields.filter (·.unique)).map (·.name)

/-- The columns of the constraints of one kind. -/
def constrained (m : Model) (kind : ConstraintKind) : List (List String) :=
  (m.constraints.filter (·.kind == kind)).map (·.fields)

/-- Keeps the first of several requests for the same columns. -/
def distinct (requests : List (ConstraintKind × List String)) :
    List (ConstraintKind × List String) :=
  requests.foldl (fun kept r => if kept.any (·.2 == r.2) then kept else kept ++ [r]) []

/-- Everything that asks for an index, in order. -/
def requests (m : Model) (foreignKeys : List String) : List (ConstraintKind × List String) :=
  let unique := constrained m .unique
  let leading := leadingKeys m ++ unique.filterMap (·.head?)
  let free := fun name : String => !leading.contains name
  let single := fun name : String => (ConstraintKind.index, [name])
  unique.map (fun fields => (ConstraintKind.unique, fields))
    ++ (foreignKeys.filter free).map single
    ++ (((m.fields.filter (·.indexed)).map (·.name)).filter free).map single
    ++ (constrained m .index).map (fun fields => (ConstraintKind.index, fields))

/-- The indexes of a model. A unique constraint over no fields has no leading column. -/
def ofModel (f : Formatter) (m : Model) (foreignKeys : List String) :
    Except Breakdown (List Index) :=
  if (constrained m .unique).any (·.isEmpty) then .error .emptyConstraint
  else
    let table := f.physicalTable m.table
    .ok ((distinct (requests m foreignKeys)).map fun (kind, fields) => ofColumns table kind fields)

end Index

end SchemaCompiler
