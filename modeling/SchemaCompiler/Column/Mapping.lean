import SchemaCompiler.Column.Basic
import SchemaCompiler.Column.Default

/-!
# Mapping fields to columns

A `FieldMapper` turns field declarations into columns of one dialect and makes the standard audit
columns. A foreign key takes the native type of the key it references, so that both ends agree.
-/

set_option autoImplicit false

namespace SchemaCompiler

/-- The conventions of a dialect, and the type of the columns that hold an actor. -/
structure FieldMapper where
  profile : Profile
  actorType : FieldKind
  deriving Inhabited, Repr

/-- How a field takes part in its model: whether it may carry the mark of the primary key, whether
it belongs to a composite key, and the key it references. -/
structure ColumnRole where
  inlineId : Bool
  inCompositeKey : Bool
  references : Option Field
  deriving Inhabited, Repr

namespace FieldMapper

/-- The explicit native type of a field. A bare name is one of the database's. -/
def explicitType? (f : Field) : Option String :=
  match f.dbType.filter (· != "") with
  | some type => some (if type.toList.head? == some '@' then type else "@db." ++ type)
  | none => none

/-- The length limit of a field for sizing its column. -/
def columnLength (f : Field) : Except BlockFailure (Option Int) :=
  f.maxLength.mapError fun failure => .broken (.limit failure)

/-- The native type of a column of a given type that references nothing. -/
def ownNativeType (mapper : FieldMapper) (f : Field) (type : FieldType) (isKey : Bool) :
    Except BlockFailure (Option String) :=
  match explicitType? f with
  | some explicit => .ok (some explicit)
  | none => do
    let length ← columnLength f
    (mapper.profile.nativeTypeOf type length isKey).mapError fun failure => .broken (.limit failure)

/-- The native type of a column: its own explicit one, else that of the key it references if both
have one type, else the dialect's. -/
def nativeType (mapper : FieldMapper) (f : Field) (kind : FieldKind) (isKey : Bool)
    (references : Option Field) : Except BlockFailure (Option String) :=
  if !mapper.profile.hasNativeTypes then .ok none
  else
    let referenced := references.bind fun key =>
      key.type.bind fun type => if type.same (.known kind) then some (key, type) else none
    match explicitType? f, referenced with
    | none, some (key, type) => mapper.ownNativeType key type true
    | _, _ => mapper.ownNativeType f (.known kind) isKey

/-- The literal of a type in a message. -/
def typeLiteral : Option FieldType → String
  | some t => Text.quoted t.spelling
  | none => Value.null.literal

/-- Maps a field of a model to a column. -/
def mapField (mapper : FieldMapper) (f : Field) (model : String) (role : ColumnRole) :
    Except BlockFailure Column :=
  match f.type with
  | some (.known kind) => do
    let isKey := (f.primaryKey || f.name == "id") && role.inlineId && !role.inCompositeKey
    let default ← Column.defaultExpression mapper.profile f kind model
    let native ← mapper.nativeType f kind isKey role.references
    let attributes :=
      (if isKey then [Attribute.id] else [])
      ++ (default.map Attribute.default).toList
      ++ (if f.unique && !isKey then [Attribute.unique] else [])
      ++ (native.map Attribute.native).toList
      ++ (if Text.needsColumnMap f.name then [Attribute.map (Text.snakeCase f.name)] else [])
    return { name := f.name, type := .scalar (mapper.profile.scalar kind)
             optional := !(f.required || isKey || role.inCompositeKey), attributes }
  | type =>
    .error (.field model f.name
      (.unmappedType f.name (typeLiteral type) mapper.profile.dialect.name))

/-- The role of a declared field in its model, given the keys that foreign keys reference. -/
def roleOf (m : Model) (references : String → Option Field) (f : Field) : ColumnRole :=
  let composite := m.compositeKey.getD []
  { inlineId := composite.isEmpty && (m.primaryKeyFields.map (·.name)).contains f.name
    inCompositeKey := composite.contains f.name
    references := references f.name }

/-- Maps the declared fields of a model. -/
def mapFields (mapper : FieldMapper) (m : Model) (references : String → Option Field) :
    Except BlockFailure (List Column) :=
  m.fields.mapM fun f => mapper.mapField f m.name (roleOf m references f)

/-! ## Audit columns -/

/-- The names of the audit columns, in order. -/
def auditNames : List String := ["createdAt", "updatedAt", "createdBy", "updatedBy"]

/-- A name is that of an audit column. -/
def isAuditName (name : String) : Bool := auditNames.contains name

/-- The field that an audit column is mapped from. -/
def auditField (mapper : FieldMapper) (name : String) : Field :=
  if name == "createdAt" then
    { Field.plain name (some (.known .datetime)) with required := true, default := .str "now" }
  else if name == "updatedAt" then
    { Field.plain name (some (.known .datetime)) with required := true }
  else Field.plain name (some (.known mapper.actorType))

/-- One audit column. The time of the last update is refreshed on every write. -/
def auditColumn (mapper : FieldMapper) (name : String) : Except BlockFailure Column := do
  let column ← mapper.mapField (mapper.auditField name) "" ⟨true, false, none⟩
  if name == "updatedAt" then
    return { column with attributes := .updatedAt :: column.attributes }
  else return column

/-- The audit columns whose names are not taken. -/
def auditColumns (mapper : FieldMapper) (taken : List String) : Except BlockFailure (List Column) :=
  (auditNames.filter fun name => !taken.contains name).mapM mapper.auditColumn

end FieldMapper

end SchemaCompiler
