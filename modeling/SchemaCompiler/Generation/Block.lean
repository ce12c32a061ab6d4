import SchemaCompiler.Column.Mapping
import SchemaCompiler.Document.ModelBlock
import SchemaCompiler.Options.Basic
import SchemaCompiler.Resolver.JunctionModel
import SchemaCompiler.Resolver.Member

/-!
# The block of a model

How the block of one model comes about: its declared fields, the foreign keys that its relations
need, the audit columns, the relation members, and the indexes. Only the relation members depend on
the junction plan, which `blockUnder` takes as given and `block` asks a resolver for.
-/

set_option autoImplicit false

namespace SchemaCompiler

namespace Generation

/-- The mapper that the options ask for. -/
def mapperOf (o : Options) : FieldMapper := ⟨Profile.ofDialect o.dialect, o.auditActorType⟩

/-- The foreign keys that no field declares. -/
def synthesizedKeys (keys : List ForeignKey) : List ForeignKey := keys.filter (·.synthesized)

/-- The column of a synthesized foreign key. -/
def keyColumn (mapper : FieldMapper) (m : Model) (key : ForeignKey) : Except BlockFailure Column :=
  mapper.mapField key.field m.name ⟨false, false, some key.key⟩

/-- The names of a model's members, which audit columns must not take. -/
def takenNames (m : Model) (keys : List ForeignKey) : List String :=
  m.fieldNames ++ (synthesizedKeys keys).map (·.field.name) ++ m.relations.map (·.name)

/-- The audit columns of a model, if the options and the model ask for them. -/
def auditColumnsOf (o : Options) (m : Model) (keys : List ForeignKey) :
    Except BlockFailure (List Column) :=
  if o.includeAuditFields && m.timestamps then (mapperOf o).auditColumns (takenNames m keys)
  else .ok []

/-- The columns of a model: declared, synthesized, and audit columns. -/
def columns (o : Options) (m : Model) (keys : List ForeignKey) :
    Except BlockFailure (List Column) := do
  let declared ← (mapperOf o).mapFields m (Resolver.referencedKey keys)
  let synthesized ← (synthesizedKeys keys).mapM (keyColumn (mapperOf o) m)
  let audit ← auditColumnsOf o m keys
  return declared ++ synthesized ++ audit

/-- The indexes of a model, if the options ask for them. A unique foreign key needs none. -/
def indexes (o : Options) (f : Formatter) (m : Model) (keys : List ForeignKey) :
    Except BlockFailure (List Index) :=
  if o.includeIndexes then
    (Index.ofModel f m ((keys.filter fun key => !key.field.unique).map (·.field.name))).mapError
      .broken
  else .ok []

/-- The block of a model from its foreign keys and columns, under a plan. -/
def assembleBlock (o : Options) (f : Formatter) (plan : Junction.Plan) (m : Model)
    (models : List Model) (keys : List ForeignKey) (columns : List Column) :
    Except BlockFailure ModelBlock := do
  let relations ← Resolver.members plan m models
  let indexes ← indexes o f m keys
  return { name := m.name, columns, relations, indexes, table := some m.table
           compositeKey := m.compositeKey.getD [], description := m.description.getD "" }

/-- The block of a model among models, under a plan. -/
def blockUnder (o : Options) (f : Formatter) (plan : Junction.Plan) (m : Model)
    (models : List Model) : Except BlockFailure ModelBlock := do
  let keys ← Resolver.foreignKeys m models
  let columns ← columns o m keys
  assembleBlock o f plan m models keys columns

/-- The block of a model among models. A resolver is asked for the plan once the columns are
made. -/
def block (o : Options) (f : Formatter) (r : Resolver) (m : Model) (models : List Model) :
    Except BlockFailure ModelBlock × Resolver :=
  let columned := do
    let keys ← Resolver.foreignKeys m models
    return (keys, ← columns o m keys)
  match columned with
  | .error e => (.error e, r)
  | .ok (keys, columns) =>
    let (plan, r) := r.plan models
    (assembleBlock o f plan m models keys columns, r)

end Generation

end SchemaCompiler
