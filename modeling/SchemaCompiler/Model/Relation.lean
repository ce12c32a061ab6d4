import SchemaCompiler.Text.Naming

/-!
# Relations

A relation declaration, seen from the model that declares it.
-/

set_option autoImplicit false

namespace SchemaCompiler

/-- The cardinality of a relation. -/
inductive RelationKind where
  | hasOne
  | hasMany
  | belongsTo
  | manyToMany
  deriving DecidableEq, Inhabited, Repr

namespace RelationKind

/-- Every kind, in the order in which messages list them. -/
def all : List RelationKind := [hasOne, hasMany, belongsTo, manyToMany]

/-- The spelling of a kind. -/
def name : RelationKind → String
  | hasOne => "hasOne"
  | hasMany => "hasMany"
  | belongsTo => "belongsTo"
  | manyToMany => "manyToMany"

/-- The kind with a given spelling. -/
def ofName? (s : String) : Option RelationKind := all.find? (·.name == s)

/-- The kind that a descriptor spells; `one` and `many` are older spellings. -/
def ofSpelling? (s : String) : Option RelationKind :=
  if s == "one" then some belongsTo else if s == "many" then some hasMany else ofName? s

end RelationKind

/-- What happens to the referencing rows when the referenced row is deleted. -/
inductive ReferentialAction where
  | cascade
  | restrict
  | setNull
  | noAction
  deriving DecidableEq, Inhabited, Repr

namespace ReferentialAction

/-- Every action, in the order in which messages list them. -/
def all : List ReferentialAction := [cascade, restrict, setNull, noAction]

/-- The spelling of an action. -/
def name : ReferentialAction → String
  | cascade => "Cascade"
  | restrict => "Restrict"
  | setNull => "SetNull"
  | noAction => "NoAction"

/-- The action with a given spelling. -/
def ofName? (s : String) : Option ReferentialAction := all.find? (·.name == s)

end ReferentialAction

/-- An explicit junction: the model that holds the pairs, its field that points at the declaring
model, and its field that points at the target. -/
structure Through where
  model : String
  sourceKey : String
  targetKey : String
  deriving DecidableEq, Inhabited, Repr

/-- A relation declaration. -/
structure Relation where
  name : String
  kind : Option RelationKind
  target : String
  foreignKey : Option String
  inverse : Option String
  through : Option Through
  required : Bool
  onDelete : Option ReferentialAction
  description : Option String
  deriving DecidableEq, Inhabited, Repr

namespace Relation

/-- The relation holds the foreign key. -/
def isBelongsTo (r : Relation) : Bool := r.kind == some .belongsTo

/-- The relation joins many rows to many rows. -/
def isManyToMany (r : Relation) : Bool := r.kind == some .manyToMany

/-- The relation points back at the model that holds the foreign key. -/
def isBackReference (r : Relation) : Bool := r.kind == some .hasOne || r.kind == some .hasMany

/-- The foreign key field of a `belongsTo` relation: the one it names, or the conventional one. -/
def expectedForeignKey (r : Relation) : String :=
  match r.foreignKey with
  | some key => if key == "" then Text.foreignKeyName r.name else key
  | none => Text.foreignKeyName r.name

end Relation

end SchemaCompiler
