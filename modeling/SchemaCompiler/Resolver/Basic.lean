import SchemaCompiler.Junction.Plan

/-!
# The resolver

A resolver answers the questions about relations for one list of models after another. It keeps the
junction plan of the last list, by the names of its models, and takes that plan again for any list
of the same names in the same order.

A `belongsTo` relation and the `hasOne` or `hasMany` relation that points back at it are found from
either side. Both sides use the same test for a link and differ in which of several links they take.
-/

set_option autoImplicit false

namespace SchemaCompiler

/-- The plan made last, and the names of the models it was made for. -/
structure Resolver where
  kept : Option (List String × Junction.Plan)
  deriving Inhabited, Repr

namespace Resolver

/-! ## The plan that is kept -/

/-- A resolver that has made no plan. -/
def fresh : Resolver := ⟨none⟩

/-- The plan for a list of models, and the resolver that keeps it. -/
def plan (r : Resolver) (models : List Model) : Junction.Plan × Resolver :=
  let names := models.map (·.name)
  let make := fun _ : Unit =>
    let made := Junction.Plan.ofModels models
    (made, (⟨some (names, made)⟩ : Resolver))
  match r.kept with
  | some (keptNames, kept) => if keptNames == names then (kept, r) else make ()
  | none => make ()

/-! ## Counterparts -/

/-- A relation that owns a key and one that points back may belong together: neither names another
inverse. -/
def links (owner back : Relation) : Bool :=
  owner.inverse.all (· == back.name) && back.inverse.all (· == owner.name)

/-- Of several candidates the one that names the relation as its inverse, else the only one. -/
def pick (name : String) (candidates : List Relation) : Option Relation :=
  match candidates.find? (·.inverse == some name) with
  | some r => some r
  | none => match candidates with
    | [only] => some only
    | _ => none

/-- The relations of `target` that may point back at a `belongsTo` relation of `m`. -/
def backReferences (m : Model) (r : Relation) (target : Model) : List Relation :=
  target.relations.filter fun back => back.isBackReference && back.target == m.name && links r back

/-- The relation of `target` that points back at a `belongsTo` relation of `m`. -/
def counterpartOfBelongsTo (m : Model) (r : Relation) (target : Model) : Option Relation :=
  pick r.name (backReferences m r target)

/-- The `belongsTo` relations of `target` that a back reference of `m` may point at. -/
def owners (m : Model) (r : Relation) (target : Model) : List Relation :=
  (target.relationsOf .belongsTo).filter fun owner => owner.target == m.name && links owner r

/-- The `belongsTo` relation of `target` that a back reference of `m` points at: the one it names,
if it names one. -/
def counterpartOfBackReference (m : Model) (r : Relation) (target : Model) : Option Relation :=
  match r.inverse with
  | some name => (owners m r target).find? (·.name == name)
  | none => pick r.name (owners m r target)

end Resolver

end SchemaCompiler
