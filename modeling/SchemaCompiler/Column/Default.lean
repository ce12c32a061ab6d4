import SchemaCompiler.Column.Failure
import SchemaCompiler.Dialect.Profile
import SchemaCompiler.Text.Lines
import SchemaCompiler.Value.Json

/-!
# Defaults

The default expression of a column. A raw expression comes first, then generation by the database,
then the literal default, which has to fit the type of its field.
-/

set_option autoImplicit false

namespace SchemaCompiler

namespace Column

/-- The texts that stand for the current time, in any letter case and with blanks around them. -/
def nowTexts : List String := ["now", "now()", "current_timestamp"]

/-- The JSON text of a default, quoted, if it can be written. -/
def jsonLiteral? (value : Value) : Except Breakdown (Option String) :=
  match value.toJson .compact with
  | .ok text => .ok (some (Json.quoted text))
  | .error .kind => .ok none
  | .error (.integer _) => .ok none
  | .error .decimalNaN => .error .unorderedKeys

/-- An integer as a literal. -/
def integerLiteral? (n : Int) : Except Breakdown (Option String) :=
  ((integerText n).map some).mapError .limit

/-- The literal of a default for a type, if the value fits the type. -/
def defaultLiteral? (kind : FieldKind) (value : Value) : Except Breakdown (Option String) :=
  match kind, value with
  | .string, .str s => .ok (some (Json.quoted s))
  | .text, .str s => .ok (some (Json.quoted s))
  | .boolean, .bool b => .ok (some (if b then "true" else "false"))
  | .integer, .int n => integerLiteral? n
  | .decimal, .int n => integerLiteral? n
  | .decimal, .float x => .ok (some (DecimalLayout.plain.render x))
  | .decimal, .decimal d => .ok (some d.render)
  | .datetime, .str s =>
    .ok (some (if nowTexts.contains (Text.lower (Text.trim s)) then "now()" else Json.quoted s))
  | .json, v => jsonLiteral? v
  | _, _ => .ok none

/-- The failure for a default that does not fit the type of its field. A default that cannot be
shown is not refused either. -/
def misfit (f : Field) (model : String) : BlockFailure :=
  match f.default.literal?, f.type with
  | .error failure, _ => .broken (.limit failure)
  | .ok literal, some (.known kind) =>
    .field model f.name (.invalidDefault literal kind.name f.name)
  | .ok _, _ => .broken .noFieldKind

/-- The literal default of a field. The type of the field may be unchecked as long as the value fits
the type that it is spelled like. -/
def formatDefault (f : Field) (model : String) : Except BlockFailure String := do
  let literal ← match f.type.bind fun t => FieldKind.ofName? t.spelling with
    | some kind => (defaultLiteral? kind f.default).mapError .broken
    | none => .ok none
  match literal with
  | some text => .ok text
  | none => .error (misfit f model)

/-- A raw default expression as a dialect takes it. An expression of the database that makes a UUID
is replaced where the database has none. -/
def rawDefault (p : Profile) (expression : String) : String :=
  if p.dialect == .sqlite && Text.holdsText expression "dbgenerated" &&
      Text.holdsText (Text.lower expression) "uuid" then "uuid()"
  else expression

/-- The default expression of a column whose field has a checked type. -/
def defaultExpression (p : Profile) (f : Field) (kind : FieldKind) (model : String) :
    Except BlockFailure (Option String) :=
  let raw := f.dbDefault.getD ""
  if raw != "" then .ok (some (rawDefault p raw))
  else if f.autoIncrement then
    match kind with
    | .integer => .ok (some "autoincrement()")
    | .string => .ok (some p.uuidDefault)
    | kind => .error (.field model f.name (.ungeneratedKind f.name kind.name))
  else match f.default with
    | .null => .ok none
    | _ => (formatDefault f model).map some

end Column

end SchemaCompiler
