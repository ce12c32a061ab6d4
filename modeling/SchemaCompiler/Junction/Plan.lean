import SchemaCompiler.Model.Basic

/-!
# Junction plans

A many-to-many relation without an explicit junction has to be declared from both sides. Planning
pairs such declarations: those between two models form one group, identified by the pair of names
in code point order, and the first two that match become one junction. Declarations that find no
partner, and second junctions between the same models, are problems.
-/

set_option autoImplicit false

namespace SchemaCompiler

namespace Junction

/-- Two model names in code point order, so that a pair has one identity in both directions. -/
def canonicalPair (a b : String) : String × String := if a ≤ b then (a, b) else (b, a)

/-- The name of the junction between a pair of models. -/
def nameOf (pair : String × String) : String := pair.1 ++ "To" ++ pair.2

/-- One end of a junction, as seen from the model that declares it. -/
structure Side where
  junction : String
  model : String
  relation : String
  foreignKey : String
  deriving DecidableEq, Inhabited, Repr

/-- The label that ties the declaring model's list to the junction's side. -/
def Side.label (s : Side) : String := s.junction ++ "_" ++ s.foreignKey

/-- A junction to synthesize between a pair of models. -/
structure Implicit where
  name : String
  pair : String × String
  first : Side
  second : Side
  deriving DecidableEq, Inhabited, Repr

/-- The two sides, in the order of the pair. -/
def Implicit.sides (j : Implicit) : List Side := [j.first, j.second]

/-- Why a declaration does not become a junction of its own. -/
inductive Fault where
  /-- The target does not declare the inverse. -/
  | oneSided (target : String)
  /-- The pair of models has a junction already. -/
  | repeated (pair : String × String)
  deriving DecidableEq, Inhabited, Repr

/-- The message of a fault. -/
def Fault.message : Fault → String
  | oneSided target =>
    "manyToMany relation to '" ++ target ++ "' is declared on one side only; declare the " ++
      "inverse relation on '" ++ target ++ "' or use an explicit 'through' junction"
  | repeated (a, b) =>
    "more than one implicit manyToMany between '" ++ a ++ "' and '" ++ b ++
      "'; declare an explicit 'through' junction for all but one"

/-- A fault of one declared relation. -/
structure PlanProblem where
  model : String
  relation : String
  fault : Fault
  deriving DecidableEq, Inhabited, Repr

/-- A declaration of an implicit many-to-many relation. -/
structure Declaration where
  model : String
  relation : Relation
  deriving DecidableEq, Inhabited, Repr

namespace Declaration

/-- The pair of models that a declaration is about. -/
def pair (d : Declaration) : String × String := canonicalPair d.model d.relation.target

/-- An inverse that is left out or names the other relation. -/
def agrees (inverse : Option String) (other : String) : Bool :=
  inverse.all (· == other)

/-- Two declarations match when each targets the other's model and neither names another inverse.
Two relations of one model with itself match only when one of them names the other. -/
def isMatch (a b : Declaration) : Bool :=
  a.relation.target == b.model && b.relation.target == a.model &&
    agrees a.relation.inverse b.relation.name && agrees b.relation.inverse a.relation.name &&
    (a.model != b.model || a.relation.inverse == some b.relation.name ||
      b.relation.inverse == some a.relation.name)

/-- The fault of a declaration without a partner. -/
def oneSided (d : Declaration) : PlanProblem :=
  ⟨d.model, d.relation.name, .oneSided d.relation.target⟩

end Declaration

/-- The declarations of implicit many-to-many relations between registered models, in order. -/
def declarations (models : List Model) : List Declaration :=
  models.flatMap fun m =>
    (m.relations.filter fun r =>
      r.isManyToMany && r.through.isNone && models.any (·.name == r.target)).map fun r =>
        ⟨m.name, r⟩

/-- The pairs that declarations are about, each once, in order of their first declaration. -/
def pairs (ds : List Declaration) : List (String × String) := (ds.map (·.pair)).eraseDups

/-- Removes the first declaration that matches, and returns it with the others. -/
def takeMatch (d : Declaration) : List Declaration → Option (Declaration × List Declaration)
  | [] => none
  | other :: rest =>
    if d.isMatch other then some (other, rest)
    else (takeMatch d rest).map fun (found, others) => (found, other :: others)

theorem takeMatch_length {d found : Declaration} {ds others : List Declaration}
    (h : takeMatch d ds = some (found, others)) : others.length < ds.length := by
  induction ds generalizing others with
  | nil => simp [takeMatch] at h
  | cons other rest ih =>
    simp only [takeMatch] at h
    split at h
    · simp only [Option.some.injEq, Prod.mk.injEq] at h
      simp [← h.2]
    · cases hm : takeMatch d rest with
      | none => simp [hm] at h
      | some p =>
        simp only [hm, Option.map_some, Option.some.injEq, Prod.mk.injEq] at h
        have := @ih p.2 (by rw [hm, ← h.1])
        simp only [← h.2, List.length_cons]
        omega

/-- Pairs the declarations of one group: each takes the first of the later ones that matches it.
The answer holds the matched pairs and the declarations without a partner. -/
def pairUp : List Declaration → List (Declaration × Declaration) × List Declaration
  | [] => ([], [])
  | d :: rest =>
    match h : takeMatch d rest with
    | some (partner, others) =>
      have := takeMatch_length h
      let (matched, alone) := pairUp others
      ((d, partner) :: matched, alone)
    | none =>
      let (matched, alone) := pairUp rest
      (matched, d :: alone)
termination_by ds => ds.length
decreasing_by all_goals simp only [List.length_cons]; omega

/-- The junction of two matching declarations. Its first side belongs to the first name of the
pair; a relation of a model with itself gives the second key another name. -/
def ofMatch (pair : String × String) (a b : Declaration) : Implicit :=
  let (first, second) := if a.model == pair.1 then (a, b) else (b, a)
  let name := nameOf pair
  let firstKey := Text.lowerFirst pair.1 ++ "Id"
  let secondKey := Text.lowerFirst pair.2 ++ "Id"
  let secondKey := if firstKey == secondKey then "related" ++ pair.2 ++ "Id" else secondKey
  { name, pair
    first := ⟨name, first.model, first.relation.name, firstKey⟩
    second := ⟨name, second.model, second.relation.name, secondKey⟩ }

/-- The outcome for one pair of models: its junction, if any, and its problems. -/
structure GroupPlan where
  junction : Option Implicit
  problems : List PlanProblem
  deriving Inhabited, Repr

/-- Plans the declarations of one pair of models. -/
def planGroup (pair : String × String) (ds : List Declaration) : GroupPlan :=
  let (matched, alone) := pairUp ds
  let extra := matched.tail.map fun (d, _) => ⟨d.model, d.relation.name, .repeated pair⟩
  { junction := matched.head?.map fun (a, b) => ofMatch pair a b
    problems := alone.map (·.oneSided) ++ extra }

/-- The junctions to synthesize and the problems of the declarations that got none. -/
structure Plan where
  junctions : List Implicit
  problems : List PlanProblem
  deriving Inhabited, Repr

namespace Plan

/-- The plan of a list of models. -/
def ofModels (models : List Model) : Plan :=
  let ds := declarations models
  let groups := (pairs ds).map fun pair => planGroup pair (ds.filter (·.pair == pair))
  { junctions := groups.filterMap (·.junction), problems := groups.flatMap (·.problems) }

/-- Every side of every junction, in order. -/
def allSides (p : Plan) : List Side := p.junctions.flatMap (·.sides)

/-- The side that a relation of a model uses. Of several the last one counts. -/
def side? (p : Plan) (model relation : String) : Option Side :=
  p.allSides.reverse.find? fun s => s.model == model && s.relation == relation

/-- The junction of a name. Of several the last one counts. -/
def junction? (p : Plan) (name : String) : Option Implicit :=
  p.junctions.reverse.find? (·.name == name)

/-- The sides by the relation that uses them, sorted by model and relation. -/
def sideTable (p : Plan) : List Side :=
  let keys := (p.allSides.map fun s => (s.model, s.relation)).eraseDups
  let sorted := keys.mergeSort fun a b => a.1 < b.1 || (a.1 == b.1 && a.2 ≤ b.2)
  sorted.filterMap fun (model, relation) => p.side? model relation

end Plan

end Junction

end SchemaCompiler
