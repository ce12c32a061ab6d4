import SchemaCompiler.Dialect.Basic
import SchemaCompiler.Model.Field

/-!
# Dialect profiles

What a dialect does with each abstract type: its scalar type in the document, and the native type
that is written behind it. A string has a native type only if it has a length, its own or one that
the dialect supplies for keys or for other columns.
-/

set_option autoImplicit false

namespace SchemaCompiler

/-- The scalar types of a document. -/
inductive Scalar where
  | string
  | int
  | boolean
  | dateTime
  | json
  | decimal
  deriving DecidableEq, Inhabited, Repr

/-- The name of a scalar type. -/
def Scalar.name : Scalar → String
  | string => "String"
  | int => "Int"
  | boolean => "Boolean"
  | dateTime => "DateTime"
  | json => "Json"
  | decimal => "Decimal"

/-- The scalar type of an abstract type, before a dialect changes it. -/
def FieldKind.scalar : FieldKind → Scalar
  | string | text => .string
  | integer => .int
  | boolean => .boolean
  | datetime => .dateTime
  | json => .json
  | decimal => .decimal

/-- The conventions of a dialect. -/
structure Profile where
  dialect : Dialect
  /-- The native types of what is not a bounded string. -/
  nativeTypes : List (FieldKind × String)
  /-- The types whose scalar type the dialect lacks, with what replaces it. -/
  scalarOverrides : List (FieldKind × Scalar)
  /-- The length of a string without one. -/
  stringLength : Option Int
  /-- The length of a string key without one. -/
  keyLength : Option Int
  /-- The default expression of a generated string key. -/
  uuidDefault : String
  /-- Native types are written at all. -/
  hasNativeTypes : Bool
  /-- Models can live in several database schemas. -/
  supportsSchemas : Bool
  deriving Inhabited, Repr

namespace Profile

/-- The profile of MySQL. -/
def mysql : Profile :=
  { dialect := .mysql
    nativeTypes :=
      [(.text, "@db.Text"), (.datetime, "@db.DateTime(3)"), (.decimal, "@db.Decimal(10, 2)")]
    scalarOverrides := []
    stringLength := some 255
    keyLength := some 36
    uuidDefault := "dbgenerated(\"(UUID())\")"
    hasNativeTypes := true
    supportsSchemas := false }

/-- The profile of PostgreSQL. -/
def postgresql : Profile :=
  { dialect := .postgresql
    nativeTypes :=
      [(.text, "@db.Text"), (.datetime, "@db.Timestamptz(3)"), (.json, "@db.JsonB"),
       (.decimal, "@db.Decimal(10, 2)")]
    scalarOverrides := []
    stringLength := none
    keyLength := none
    uuidDefault := "dbgenerated(\"gen_random_uuid()\")"
    hasNativeTypes := true
    supportsSchemas := true }

/-- The profile of SQLite. -/
def sqlite : Profile :=
  { dialect := .sqlite
    nativeTypes := []
    scalarOverrides := [(.json, .string)]
    stringLength := none
    keyLength := none
    uuidDefault := "uuid()"
    hasNativeTypes := false
    supportsSchemas := false }

/-- The profile of a dialect. -/
def ofDialect : Dialect → Profile
  | .mysql => mysql
  | .postgresql => postgresql
  | .sqlite => sqlite

/-- The scalar type of an abstract type. -/
def scalar (p : Profile) (kind : FieldKind) : Scalar :=
  match p.scalarOverrides.find? (·.1 == kind) with
  | some (_, s) => s
  | none => kind.scalar

/-- The native type of a string of some length. -/
def boundedString (length : Int) : Except IntegerFailure String :=
  (integerText length).map fun digits => "@db.VarChar(" ++ digits ++ ")"

/-- The native type of a column, given the length that its field declares. -/
def nativeType (p : Profile) (kind : FieldKind) (length : Option Int) (isKey : Bool) :
    Except IntegerFailure (Option String) :=
  if !p.hasNativeTypes then .ok none
  else match kind with
    | .string => match length.or (if isKey then p.keyLength else p.stringLength) with
      | some n => (boundedString n).map some
      | none => .ok none
    | kind => .ok ((p.nativeTypes.find? (·.1 == kind)).map (·.2))

/-- The native type of a column whose type may be unchecked. Such a type counts as the abstract type
that it is spelled like, and has no native type otherwise. -/
def nativeTypeOf (p : Profile) (type : FieldType) (length : Option Int) (isKey : Bool) :
    Except IntegerFailure (Option String) :=
  match FieldKind.ofName? type.spelling with
  | some kind => p.nativeType kind length isKey
  | none => .ok none

end Profile

end SchemaCompiler
