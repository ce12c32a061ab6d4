import SchemaCompiler.Column.Basic
import SchemaCompiler.Junction.Plan
import SchemaCompiler.Resolver.ForeignKey

/-!
# Relation members

The relation members of a model's block. A `belongsTo` member owns the reference, a `hasOne` or
`hasMany` member carries the label of the relation it points back at, and a many-to-many member
points at the junction, declared or synthesized.
-/

set_option autoImplicit false

namespace SchemaCompiler

namespace Resolver

open Junction (Plan)

/-- The label that a `belongsTo` relation shares with its back reference. -/
def belongsToLabel (model relation : String) : String := model ++ "_" ++ relation

/-- The attribute that carries the label of the relation pointed back at, if there is one. -/
def labelOf (model : String) (owner : Option Relation) : List Attribute :=
  (owner.map fun r => Attribute.relation (belongsToLabel model r.name) none).toList

/-- The label of a `belongsTo` member. The sides of a junction carry labels of their own. -/
def ownerLabel (plan : Plan) (m : Model) (r : Relation) (key : String) :
    Except BlockFailure String :=
  match plan.junction? m.name with
  | none => .ok (belongsToLabel m.name r.name)
  | some j => match j.sides.find? (·.foreignKey == key) with
    | some side => .ok side.label
    | none => .error (.broken .noJunctionSide)

/-- The member of a `belongsTo` relation. -/
def belongsToMember (plan : Plan) (m : Model) (r : Relation) (target : Model)
    (keys : List ForeignKey) : Except BlockFailure Column :=
  match keys.reverse.find? (·.field.name == r.expectedForeignKey) with
  | none => .error (.broken (.unknownModel r.expectedForeignKey))
  | some ref => do
    let label ← ownerLabel plan m r ref.field.name
    return { name := r.name, type := .one target.name
             optional := !(r.required || ref.field.required)
             attributes := [.relation label (some ⟨ref.field.name, ref.key.name, r.onDelete⟩)] }

/-- The member of a relation that points back. -/
def backReferenceMember (m : Model) (r : Relation) (target : Model) (single : Bool) : Column :=
  { name := r.name, type := if single then .one target.name else .many target.name
    optional := single
    attributes := labelOf target.name (counterpartOfBackReference m r target) }

/-- The relation of an explicit junction that points at the declaring model. -/
def throughOwner (m : Model) (t : Through) (junction : Model) : Option Relation :=
  (junction.relationsOf .belongsTo).find? fun r =>
    r.target == m.name && r.expectedForeignKey == t.sourceKey

/-- The member of a many-to-many relation. -/
def manyToManyMember (plan : Plan) (m : Model) (r : Relation) (models : List Model) :
    Except BlockFailure Column :=
  match r.through with
  | some t => match Model.find? models t.model with
    | none => .error (.model m.name (.unknownJunction r.name t.model))
    | some junction =>
      .ok { name := r.name, type := .many junction.name, optional := false
            attributes := labelOf junction.name (throughOwner m t junction) }
  | none => match plan.side? m.name r.name with
    | none => .error (.model m.name (.unmatchedRelation r.name r.target))
    | some side =>
      .ok { name := r.name, type := .many side.junction, optional := false
            attributes := [.relation side.label none] }

/-- The member of a relation, if its kind has one. -/
def member (plan : Plan) (m : Model) (models : List Model) (keys : List ForeignKey) (r : Relation) :
    Except BlockFailure (Option Column) :=
  match Model.find? models r.target with
  | none => .error (.model m.name (.unknownTarget r.name r.target))
  | some target => match r.kind with
    | some .belongsTo => (belongsToMember plan m r target keys).map some
    | some .hasOne => .ok (some (backReferenceMember m r target true))
    | some .hasMany => .ok (some (backReferenceMember m r target false))
    | some .manyToMany => (manyToManyMember plan m r models).map some
    | none => .ok none

/-- The relation members of a model under a plan. -/
def members (plan : Plan) (m : Model) (models : List Model) :
    Except BlockFailure (List Column) := do
  let keys ← foreignKeys m models
  let found ← m.relations.mapM (member plan m models keys)
  return found.filterMap id

/-- The junction that stands behind a many-to-many relation. -/
def junctionName (plan : Plan) (m : Model) (r : Relation) : Option String :=
  if !r.isManyToMany then none
  else match r.through with
    | some t => some t.model
    | none => (plan.side? m.name r.name).map (·.junction)

end Resolver

end SchemaCompiler
