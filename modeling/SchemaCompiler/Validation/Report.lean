import SchemaCompiler.Diagnostic
import SchemaCompiler.Junction.Plan
import SchemaCompiler.Log.Entry
import SchemaCompiler.Value.Literal

/-!
# Validation reports

What validation finds: faults, which forbid generation, and advice, which does not. A fault is a
cause with the names it is about; its wording is in `Fault.message`.
-/

set_option autoImplicit false

namespace SchemaCompiler

namespace Validation

/-- What is wrong with a model, or with several models together. -/
inductive Fault where
  /-- The model at a position, counted from one, has no name. -/
  | unnamedModel (position : Nat)
  | noFields
  | emptyCompositeKey
  | noPrimaryKey
  | twoKeyForms (composite flagged : List String)
  | severalFlagged (flagged : List String)
  | unknownKeyField (name : String)
  | repeatedKeyField (composite : List String)
  /-- The field at a position, counted from one, has no name. -/
  | unnamedField (position : Nat)
  /-- The field at a position, counted from one, has no type. -/
  | untypedField (position : Nat)
  | repeatedField (name : String)
  | unknownConstraintField (kind : ConstraintKind) (name : String)
  | incompleteRelation (missing : List String)
  | repeatedRelation (name : String)
  | relationNamedAsField (name : String)
  | unknownTarget (name : String)
  | unknownJunction (name : String)
  | junctionWithoutField (junction key : String)
  | targetWithoutKey (target : String)
  | keyTypeMismatch (key relation declared target targetKey expected : String)
  | sharedSynthesizedKey (first second key : String)
  | keyNamedAsRelation (key relation : String)
  | pairing (fault : Junction.Fault)
  | junctionNameTwice (name : String) (earlier later : String × String)
  | junctionNameTaken (name : String)
  | participantWithoutKey (model : String)
  deriving DecidableEq, Inhabited, Repr

namespace Fault

/-- Something that a relation names is not registered, or lacks a key that it names. -/
def isIntegrity : Fault → Bool
  | unknownTarget _ | unknownJunction _ | junctionWithoutField .. => true
  | _ => false

/-- The message of a fault. -/
def message : Fault → String
  | unnamedModel position => "model #" ++ toString position ++ " is missing its name"
  | noFields => "model has no fields"
  | emptyCompositeKey => "composite primary key is an empty list"
  | noPrimaryKey =>
    "model has no primary key: flag a field as primary, add an 'id' field, or declare a " ++
      "composite primary key"
  | twoKeyForms composite flagged =>
    "model declares both a composite primary key " ++ Value.textsLiteral composite ++
      " and primary field(s) " ++ Value.textsLiteral flagged ++ "; use exactly one form"
  | severalFlagged flagged =>
    "model flags " ++ toString flagged.length ++ " fields as primary (" ++
      String.intercalate ", " flagged ++ "); use a composite primary key instead"
  | unknownKeyField name => "composite primary key references unknown field '" ++ name ++ "'"
  | repeatedKeyField composite =>
    "composite primary key " ++ Value.textsLiteral composite ++ " lists a field more than once"
  | unnamedField position => "field #" ++ toString position ++ " is missing its name"
  | untypedField position => "field #" ++ toString position ++ " is missing its type"
  | repeatedField name => "duplicate field name: " ++ name
  | unknownConstraintField kind name =>
    kind.name ++ " constraint references unknown field '" ++ name ++ "'"
  | incompleteRelation missing => "relation is missing " ++ String.intercalate ", " missing
  | repeatedRelation name => "duplicate relation name: " ++ name
  | relationNamedAsField name => "relation '" ++ name ++ "' has the same name as a field"
  | unknownTarget name => "target model not found: " ++ name
  | unknownJunction name => "junction model not found: " ++ name
  | junctionWithoutField junction key =>
    "junction model '" ++ junction ++ "' has no field '" ++ key ++ "'"
  | targetWithoutKey target =>
    "belongsTo target '" ++ target ++ "' has no single-field primary key to reference"
  | keyTypeMismatch key relation declared target targetKey expected =>
    "field '" ++ key ++ "' collides with the foreign key for relation '" ++ relation ++
      "': it is " ++ declared ++ " but '" ++ target ++ "." ++ targetKey ++ "' is " ++ expected
  | sharedSynthesizedKey first second key =>
    "relations '" ++ first ++ "' and '" ++ second ++ "' would both synthesize foreign key '" ++
      key ++ "'"
  | keyNamedAsRelation key relation =>
    "foreign key '" ++ key ++ "' for relation '" ++ relation ++ "' collides with a relation name"
  | pairing fault => fault.message
  | junctionNameTwice name earlier later =>
    "synthesized junction name '" ++ name ++ "' is produced by both " ++ earlier.1 ++ "/" ++
      earlier.2 ++ " and " ++ later.1 ++ "/" ++ later.2 ++
      "; declare one of the relations with an explicit 'through' junction"
  | junctionNameTaken name =>
    "synthesized junction name '" ++ name ++ "' collides with a registered model; declare the " ++
      "relation with an explicit 'through' junction"
  | participantWithoutKey model =>
    "manyToMany participant '" ++ model ++ "' has no single-field primary key"

end Fault

/-- A fault with the place it was found at. -/
structure Issue where
  location : Location
  fault : Fault
  deriving DecidableEq, Inhabited, Repr

namespace Issue

/-- An issue of a model as a whole. -/
def ofModel (model : String) (fault : Fault) : Issue := ⟨⟨model, none, none⟩, fault⟩

/-- An issue of a field. -/
def ofField (model field : String) (fault : Fault) : Issue := ⟨⟨model, some field, none⟩, fault⟩

/-- An issue of a relation. -/
def ofRelation (model relation : String) (fault : Fault) : Issue :=
  ⟨⟨model, none, some relation⟩, fault⟩

/-- An issue as a diagnostic. -/
def diagnostic (i : Issue) : Diagnostic :=
  ⟨if i.fault.isIntegrity then .integrity else .structural, i.fault.message, some i.location⟩

end Issue

/-- What is worth a second look, though it forbids nothing. -/
inductive Advice where
  | reservedModelName (model : String)
  | reservedFieldName (model field : String)
  | largeLimit (model field : String) (limit : Int)
  | noInverse (model relation : String)
  | unknownInverse (model relation inverse target : String)
  deriving DecidableEq, Inhabited, Repr

/-- The message of a piece of advice. -/
def Advice.message : Advice → String
  | reservedModelName model =>
    "Model '" ++ model ++ "' uses SQL reserved word as name; check its table mapping"
  | reservedFieldName model field =>
    "Model '" ++ model ++ "' field '" ++ field ++ "' uses SQL reserved word as name"
  | largeLimit model field limit =>
    "Model '" ++ model ++ "' field '" ++ field ++ "' has very large max_length: " ++
      toString limit ++ ". Consider using 'text' type."
  | noInverse model relation =>
    "Model '" ++ model ++ "' hasMany relation '" ++ relation ++
      "' should specify inverse for clarity"
  | unknownInverse model relation inverse target =>
    "Model '" ++ model ++ "' relation '" ++ relation ++ "': inverse '" ++ inverse ++
      "' not found in target model '" ++ target ++ "'"

/-- The issues and the advice of a validation, each in the order of finding. -/
structure Report where
  errors : List Issue
  warnings : List Advice
  deriving Inhabited, Repr

namespace Report

/-- Nothing found. -/
def empty : Report := ⟨[], []⟩

/-- One issue. -/
def issue (i : Issue) : Report := ⟨[i], []⟩

/-- One piece of advice. -/
def advise (a : Advice) : Report := ⟨[], [a]⟩

/-- The findings of one check followed by those of another. -/
def append (a b : Report) : Report := ⟨a.errors ++ b.errors, a.warnings ++ b.warnings⟩

instance : Append Report := ⟨append⟩

/-- The findings of several checks, in order. -/
def concat (reports : List Report) : Report := reports.foldr append empty

/-- A report when a condition holds, and nothing otherwise. -/
def when (condition : Bool) (report : Report) : Report := if condition then report else empty

/-- Generation may proceed. -/
def isValid (r : Report) : Bool := r.errors.isEmpty

/-- The errors as diagnostics. -/
def diagnostics (r : Report) : List Diagnostic := r.errors.map (·.diagnostic)

/-- The messages of the advice. -/
def warningTexts (r : Report) : List String := r.warnings.map (·.message)

/-- A validation that found errors says so in the trail. -/
def trail (r : Report) : Log.Trail :=
  if r.isValid then []
  else [⟨.error, "validator",
    "Validation found " ++ toString r.errors.length ++ " error(s)"⟩]

/-- One error as a line of the report. -/
def errorLine (i : Issue) : String :=
  "  ERROR   (" ++ (if i.fault.isIntegrity then "integrity" else "structure") ++ ") " ++
    i.diagnostic.text

/-- The report for display. -/
def text (r : Report) : String :=
  if r.errors.isEmpty && r.warnings.isEmpty then "No validation errors found"
  else
    String.intercalate "\n"
      (("Validation found " ++ toString r.errors.length ++ " error(s) and " ++
          toString r.warnings.length ++ " warning(s):") :: "" ::
        (r.errors.map errorLine ++ r.warningTexts.map ("  WARNING " ++ ·)))

end Report

end Validation

end SchemaCompiler
