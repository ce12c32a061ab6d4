import SchemaCompiler.Model.Field
import SchemaCompiler.Model.Relation

/-!
# Models

The descriptor of one data entity and the questions that all passes ask of it: which table it maps
to, which fields form its primary key, and which single field other models can reference.
-/

set_option autoImplicit false

namespace SchemaCompiler

/-- The module of models that name none. Its tables carry no module in their names. -/
def coreModule : String := "core"

/-- The kinds of model-level constraints. -/
inductive ConstraintKind where
  | unique
  | index
  deriving DecidableEq, Inhabited, Repr

namespace ConstraintKind

/-- Every kind, in the order in which messages list them. -/
def all : List ConstraintKind := [unique, index]

/-- The spelling of a kind. -/
def name : ConstraintKind → String
  | unique => "unique"
  | index => "index"

/-- The kind with a given spelling. -/
def ofName? (s : String) : Option ConstraintKind := all.find? (·.name == s)

end ConstraintKind

/-- A constraint over fields of a model, in index order. -/
structure Constraint where
  kind : ConstraintKind
  fields : List String
  deriving DecidableEq, Inhabited, Repr

/-- The roles that may perform each operation. -/
structure Access where
  create : List String
  read : List String
  update : List String
  delete : List String
  count : List String
  deriving DecidableEq, Inhabited, Repr

/-- Filtering of rows by their owner. -/
structure Ownership where
  field : String
  autoFilter : Bool
  operations : List String
  adminBypass : Bool
  deriving DecidableEq, Inhabited, Repr

/-- The events emitted after successful writes. -/
structure Events where
  afterCreate : Option String
  afterUpdate : Option String
  afterDelete : Option String
  deriving DecidableEq, Inhabited, Repr

/-- A table by its owning module and its bare name. -/
structure TableRef where
  module : String
  table : String
  deriving DecidableEq, Inhabited, Repr

/-- The table belongs to the core module. -/
def TableRef.isCore (t : TableRef) : Bool := t.module == coreModule

/-- The descriptor of one data entity. `primaryKey` is the composite key, if one is declared;
`timestamps` asks for the audit columns. -/
structure Model where
  name : String
  module : String
  tableName : Option String
  fields : List Field
  relations : List Relation
  primaryKey : Option (List String)
  constraints : List Constraint
  access : Option Access
  ownership : Option Ownership
  events : Option Events
  timestamps : Bool
  description : Option String
  deriving Inhabited, Repr

namespace Model

/-- The module that a model is grouped under. -/
def homeModule (m : Model) : String := if m.module == "" then coreModule else m.module

/-- The table of a model: the one it names, or the snake_case form of its own name. -/
def table (m : Model) : TableRef :=
  let named := m.tableName.getD ""
  ⟨m.homeModule, if named == "" then Text.snakeCase m.name else named⟩

/-- The names of the fields. -/
def fieldNames (m : Model) : List String := m.fields.map (·.name)

/-- The first field of a name. -/
def field? (m : Model) (name : String) : Option Field := m.fields.find? (·.name == name)

/-- The first relation of a name. -/
def relation? (m : Model) (name : String) : Option Relation := m.relations.find? (·.name == name)

/-- The relations of one kind. -/
def relationsOf (m : Model) (kind : RelationKind) : List Relation :=
  m.relations.filter (·.kind == some kind)

/-- The composite primary key, unless the key is a single field. -/
def compositeKey (m : Model) : Option (List String) :=
  match m.primaryKey with
  | some (k :: ks) => some (k :: ks)
  | _ => none

/-- The fields that are flagged as primary key. -/
def flaggedFields (m : Model) : List Field := m.fields.filter (·.primaryKey)

/-- The fields that form the primary key, in key order: those of the composite key, else those that
are flagged, else a field named `id`. -/
def primaryKeyFields (m : Model) : List Field :=
  match m.compositeKey with
  | some names => names.filterMap m.field?
  | none => if m.flaggedFields.isEmpty then (m.field? "id").toList else m.flaggedFields

/-- The single field that other models reference. A model without a key, with a composite key, or
with several flagged fields has none. -/
def referenceKey (m : Model) : Option Field :=
  match m.compositeKey with
  | some _ => none
  | none => match m.primaryKeyFields with
    | [key] => some key
    | _ => none

/-- The model that a name stands for: of several models with one name the last. -/
def find? (models : List Model) (name : String) : Option Model :=
  models.reverse.find? (·.name == name)

end Model

end SchemaCompiler
