import SchemaCompiler.Junction.Plan
import SchemaCompiler.Log.Entry
import SchemaCompiler.Resolver.ForeignKey

/-!
# Junction models

The models to synthesize for the junctions of a plan: two required keys that together form the
primary key, and two relations that delete the row along with either participant.
-/

set_option autoImplicit false

namespace SchemaCompiler

namespace Resolver

open Junction (Implicit Plan Side)

/-- A foreign key name without its conventional ending. -/
def relationNameOf (key : String) : String :=
  match key.toList.reverse with
  | 'd' :: 'I' :: rest => String.ofList rest.reverse
  | _ => key

/-- A participant of a junction. -/
def participant (models : List Model) (name : String) : Except BlockFailure Model :=
  match Model.find? models name with
  | some m => .ok m
  | none => .error (.broken (.unknownModel name))

/-- The key field of one side of a junction. -/
def sideField (models : List Model) (j : Implicit) (s : Side) : Except BlockFailure Field := do
  let m ← participant models s.model
  match m.referenceKey with
  | none => .error (.model j.name (.participantWithoutKey s.model))
  | some key => buildField { keyCopy s.foreignKey key with required := true }

/-- The relation of one side of a junction. -/
def sideRelation (s : Side) : Relation :=
  { name := relationNameOf s.foreignKey, kind := some .belongsTo, target := s.model
    foreignKey := some s.foreignKey, inverse := none, through := none, required := true
    onDelete := some .cascade, description := none }

/-- The model of a junction. It belongs to the module of the first participant. -/
def junctionModel (models : List Model) (j : Implicit) : Except BlockFailure Model := do
  let first ← participant models j.pair.1
  let second ← participant models j.pair.2
  let fields ← j.sides.mapM (sideField models j)
  return { name := j.name, module := first.module
           tableName := some (first.table.table ++ "_to_" ++ second.table.table)
           fields, relations := j.sides.map sideRelation
           primaryKey := some (fields.map (·.name)), constraints := []
           access := none, ownership := none, events := none, timestamps := false
           description := some ("Junction for " ++ first.name ++ " <-> " ++ second.name) }

/-- The models of all junctions of a plan. -/
def junctionModels (plan : Plan) (models : List Model) : Except BlockFailure (List Model) :=
  plan.junctions.mapM (junctionModel models)

/-- The junction models that are made before the first one that cannot be. -/
def madeJunctions (plan : Plan) (models : List Model) : List Implicit :=
  plan.junctions.takeWhile fun j => match junctionModel models j with
    | .ok _ => true
    | .error _ => false

/-- Each junction model that is made leaves an entry. -/
def junctionTrail (plan : Plan) (models : List Model) : Log.Trail :=
  (madeJunctions plan models).map fun j => ⟨.debug, "relations", "Synthesized junction " ++ j.name⟩

end Resolver

end SchemaCompiler
