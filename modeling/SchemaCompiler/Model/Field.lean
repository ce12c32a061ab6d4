import SchemaCompiler.Value.Integer

/-!
# Fields

A field declaration: its abstract type, its key and column flags, its default and its validation
rules. The length limit of a field is read from its rules on demand and may fail, since a rule's
value is kept as it was given.
-/

set_option autoImplicit false

namespace SchemaCompiler

/-- The abstract types that a field may have. -/
inductive FieldKind where
  | string
  | integer
  | boolean
  | datetime
  | text
  | json
  | decimal
  deriving DecidableEq, Inhabited, Repr

namespace FieldKind

/-- Every abstract type, in the order in which messages list them. -/
def all : List FieldKind := [string, integer, boolean, datetime, text, json, decimal]

/-- The spelling of a type. -/
def name : FieldKind → String
  | string => "string"
  | integer => "integer"
  | boolean => "boolean"
  | datetime => "datetime"
  | text => "text"
  | json => "json"
  | decimal => "decimal"

/-- The type with a given spelling. -/
def ofName? (s : String) : Option FieldKind := all.find? (·.name == s)

/-- Other spellings that descriptors use. -/
def aliases : List (String × FieldKind) :=
  [("str", string), ("email", string), ("url", string), ("uuid", string), ("int", integer),
   ("bool", boolean), ("date", datetime), ("float", decimal)]

/-- The type that a descriptor spells, in any letter case and with blanks around it. -/
def ofSpelling? (s : String) : Option FieldKind :=
  let key := Text.lower (Text.trim s)
  match aliases.find? (·.1 == key) with
  | some (_, kind) => some kind
  | none => ofName? key

end FieldKind

/-- The type of a field: one of the abstract types, or a spelling that nobody has checked. -/
inductive FieldType where
  | known (kind : FieldKind)
  | unchecked (spelling : String)
  deriving DecidableEq, Inhabited, Repr

namespace FieldType

/-- The spelling of a type. -/
def spelling : FieldType → String
  | known kind => kind.name
  | unchecked s => s

/-- Types are the same when they are spelled the same, checked or not. -/
def same (a b : FieldType) : Bool := a.spelling == b.spelling

end FieldType

/-- The kinds of validation rules. -/
inductive RuleKind where
  | maxLength
  | minLength
  | pattern
  | oneOf
  | least
  | greatest
  deriving DecidableEq, Inhabited, Repr

namespace RuleKind

/-- Every rule kind, in the order in which messages list them. -/
def all : List RuleKind := [maxLength, minLength, pattern, oneOf, least, greatest]

/-- The spelling of a rule kind. -/
def name : RuleKind → String
  | maxLength => "max_length"
  | minLength => "min_length"
  | pattern => "pattern"
  | oneOf => "enum"
  | least => "min"
  | greatest => "max"

/-- The rule kind with a given spelling. -/
def ofName? (s : String) : Option RuleKind := all.find? (·.name == s)

/-- The rule kind that a descriptor spells; the two length rules may be spelled in camel case. -/
def ofSpelling? (s : String) : Option RuleKind :=
  if s == "maxLength" then some maxLength
  else if s == "minLength" then some minLength
  else ofName? s

end RuleKind

/-- One validation rule of a field. Its value is kept as given. -/
structure Rule where
  kind : RuleKind
  value : Value
  message : Option String
  deriving Inhabited, Repr

/-- A field declaration. A field without a type is one whose descriptor left it out. -/
structure Field where
  name : String
  type : Option FieldType
  required : Bool
  unique : Bool
  default : Value
  primaryKey : Bool
  autoIncrement : Bool
  indexed : Bool
  rules : List Rule
  dbType : Option String
  dbDefault : Option String
  description : Option String
  ui : List (Value × Value)
  /-- What a field that nobody has checked was given, which stands for what it is read as. -/
  asGiven : List (Value × Value) := []
  deriving Inhabited, Repr

namespace Field

/-- A field of a given name and type with everything else left out. -/
def plain (name : String) (type : Option FieldType) : Field :=
  { name, type, required := false, unique := false, default := .null, primaryKey := false,
    autoIncrement := false, indexed := false, rules := [], dbType := none, dbDefault := none,
    description := none, ui := [] }

/-- The first rule of a kind. -/
def rule? (f : Field) (kind : RuleKind) : Option Rule := f.rules.find? (·.kind == kind)

/-- The greatest length that the rules allow, if they name one. -/
def maxLength (f : Field) : Except IntegerFailure (Option Int) :=
  match f.rule? .maxLength with
  | none => .ok none
  | some r => match r.value with
    | .null => .ok none
    | v => v.toInteger.map some

/-- The rules that a column referencing this field copies, so that both have one length. -/
def lengthRules (f : Field) : List Rule := f.rules.filter (·.kind == .maxLength)

end Field

end SchemaCompiler
