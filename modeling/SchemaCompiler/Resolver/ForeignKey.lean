import SchemaCompiler.Column.Failure
import SchemaCompiler.Model.Reader
import SchemaCompiler.Resolver.Basic

/-!
# Foreign keys

The foreign keys that the `belongsTo` relations of a model need. A key that the model declares is
taken as it is; a missing one is synthesized with the type and the length of the key it references,
and is unique if the other side holds one row at most.
-/

set_option autoImplicit false

namespace SchemaCompiler

/-- A foreign key field, the model and key it references, and whether it was synthesized. -/
structure ForeignKey where
  field : Field
  target : String
  key : Field
  synthesized : Bool
  deriving Inhabited, Repr

namespace Resolver

/-- A field built for a column, with its type checked. -/
def buildField (f : Field) : Except BlockFailure Field :=
  f.checked.result.mapError fun problems => .broken (.descriptor "FieldSpec" problems)

/-- A field of a given name that copies the type and size of a key. -/
def keyCopy (name : String) (key : Field) : Field :=
  { Field.plain name key.type with rules := key.lengthRules, dbType := key.dbType }

/-- The synthesized key of a relation. -/
def synthesize (m : Model) (r : Relation) (target : Model) (key : Field) :
    Except BlockFailure Field :=
  let unique := (counterpartOfBelongsTo m r target).any (·.kind == some .hasOne)
  buildField { keyCopy r.expectedForeignKey key with required := r.required, unique }

/-- The foreign key of a relation: the field that the model declares, else a synthesized one. -/
def foreignKeyOf (m : Model) (r : Relation) (target : Model) (key : Field) :
    Except BlockFailure ForeignKey :=
  match m.field? r.expectedForeignKey with
  | some declared => .ok ⟨declared, target.name, key, false⟩
  | none => (synthesize m r target key).map fun field => ⟨field, target.name, key, true⟩

/-- The foreign keys of relations, passing over those whose names were seen. -/
def foreignKeysFrom (m : Model) (models : List Model) (seen : List String) :
    List Relation → Except BlockFailure (List ForeignKey)
  | [] => .ok []
  | r :: rest =>
    match Model.find? models r.target with
    | none => .error (.model m.name (.unknownTarget r.name r.target))
    | some target =>
      match target.referenceKey with
      | none => .error (.model m.name (.targetWithoutKey r.name target.name))
      | some key =>
        let name := r.expectedForeignKey
        if seen.contains name then foreignKeysFrom m models seen rest
        else do
          let here ← foreignKeyOf m r target key
          return here :: (← foreignKeysFrom m models (name :: seen) rest)

/-- The foreign keys of a model, in the order of its relations. -/
def foreignKeys (m : Model) (models : List Model) : Except BlockFailure (List ForeignKey) :=
  foreignKeysFrom m models [] (m.relationsOf .belongsTo)

/-- The key that a foreign key field references. Of several the last one counts. -/
def referencedKey (keys : List ForeignKey) (name : String) : Option Field :=
  (keys.reverse.find? (·.field.name == name)).map (·.key)

end Resolver

end SchemaCompiler
