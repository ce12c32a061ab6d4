import SchemaCompiler.Breakdown
import SchemaCompiler.Validation.Report

/-!
# Validating models

Every model is checked for its key, its fields and its relations, and all findings are collected,
so that they can be mended in one go. A model without a name or without fields is reported and
checked no further. When every model was looked at, the implicit many-to-many relations are planned
and what stands in the way of their junctions is reported.

Two things that a descriptor can hold keep a check from coming to a finding: a length limit that is
no integer, and the need to name a type that was never checked.
-/

set_option autoImplicit false

namespace SchemaCompiler

namespace Validation

open Report

/-- Words that SQL dialects reserve. -/
def reservedWords : List String :=
  ["order", "group", "select", "table", "index", "key", "user", "check", "primary", "foreign",
   "references", "constraint", "default", "null", "where", "from", "join", "column", "limit",
   "offset", "union", "having", "trigger", "view", "unique", "current_date", "current_time",
   "current_timestamp", "transaction", "grant", "revoke", "values", "database", "schema", "range",
   "rows"]

/-- A name is a reserved word in some letter case. -/
def isReserved (name : String) : Bool := reservedWords.contains (Text.lower name)

/-- The length above which a string field should be a text field. -/
def largeLimit : Int := 10000

/-! ## Keys -/

/-- Checks that a model has exactly one form of primary key, and that a composite key lists known
fields once each. -/
def checkPrimaryKey (m : Model) : Report :=
  let flagged := m.flaggedFields.map (·.name)
  let composite := m.compositeKey.getD []
  let issue := fun fault => Report.issue (.ofModel m.name fault)
  let declaredEmpty := when (m.primaryKey == some []) (issue .emptyCompositeKey)
  if flagged.isEmpty && (m.field? "id").isNone && composite.isEmpty then
    declaredEmpty ++ issue .noPrimaryKey
  else
    declaredEmpty
      ++ when (!composite.isEmpty && !flagged.isEmpty) (issue (.twoKeyForms composite flagged))
      ++ when (flagged.length > 1) (issue (.severalFlagged flagged))
      ++ concat ((composite.filter fun name => (m.field? name).isNone).map fun name =>
        issue (.unknownKeyField name))
      ++ when (composite.eraseDups.length != composite.length) (issue (.repeatedKeyField composite))

/-! ## Fields -/

/-- Checks a length limit. One that is too large is shown in the advice. -/
def checkLimit (m : Model) (f : Field) : Option Int → Except Breakdown Report
  | none => .ok Report.empty
  | some n =>
    if n > largeLimit then
      match integerText n with
      | .ok _ => .ok (advise (.largeLimit m.name f.name n))
      | .error failure => .error (.limit failure)
    else .ok Report.empty

/-- Checks one field, given the names of the complete fields before it. -/
def checkField (m : Model) (position : Nat) (seen : List String) (f : Field) :
    Except Breakdown Report :=
  let place : Location := ⟨m.name, if f.name == "" then none else some f.name, none⟩
  if f.name == "" then .ok (Report.issue ⟨place, .unnamedField position⟩)
  else if f.type.isNone then .ok (Report.issue ⟨place, .untypedField position⟩)
  else
    match f.maxLength with
    | .error failure => .error (.limit failure)
    | .ok limit => do
      let large ← checkLimit m f limit
      return when (seen.contains f.name) (Report.issue ⟨place, .repeatedField f.name⟩)
        ++ when (isReserved f.name) (advise (.reservedFieldName m.name f.name)) ++ large

/-- A field that has both a name and a type. -/
def isComplete (f : Field) : Bool := f.name != "" && f.type.isSome

/-- Checks fields, the first of which has a position, after those already seen. -/
def checkFieldsFrom (m : Model) (position : Nat) (seen : List String) :
    List Field → Except Breakdown Report
  | [] => .ok Report.empty
  | f :: rest => do
    let here ← checkField m position seen f
    let seen := if isComplete f then f.name :: seen else seen
    let later ← checkFieldsFrom m (position + 1) seen rest
    return here ++ later

/-- Checks that constraints name known fields. -/
def checkConstraints (m : Model) : Report :=
  concat (m.constraints.flatMap fun c =>
    (c.fields.filter fun name => (m.field? name).isNone).map fun name =>
      Report.issue (.ofModel m.name (.unknownConstraintField c.kind name)))

/-- Checks the fields and the constraints of a model. -/
def checkFields (m : Model) : Except Breakdown Report := do
  return (← checkFieldsFrom m 1 [] m.fields) ++ checkConstraints m

/-! ## Relations -/

/-- Checks the explicit junction of a relation. -/
def checkThrough (registered : List Model) (m : Model) (r : Relation) (t : Through) : Report :=
  let issue := fun fault => Report.issue (.ofRelation m.name r.name fault)
  match Model.find? registered t.model with
  | none => issue (.unknownJunction t.model)
  | some junction =>
    concat (([t.sourceKey, t.targetKey].filter fun key => (junction.field? key).isNone).map
      fun key => issue (.junctionWithoutField junction.name key))

/-- The spelling of a type that was checked. -/
def checkedSpelling : FieldType → Except Breakdown String
  | .known kind => .ok kind.name
  | .unchecked _ => .error .noFieldKind

/-- Checks a declared foreign key field against the key it references. -/
def checkDeclaredKey (m : Model) (r : Relation) (target : Model) (key declared : Field) :
    Except Breakdown Report :=
  match declared.type, key.type with
  | some a, some b =>
    if a.same b then .ok Report.empty
    else do
      let found ← checkedSpelling a
      let expected ← checkedSpelling b
      return Report.issue (.ofField m.name declared.name
        (.keyTypeMismatch declared.name r.name found target.name key.name expected))
  | _, _ => .ok Report.empty

/-- The relations of a model that synthesize their foreign keys, by key. The first of a key
stays. -/
abbrev Synthesized := List (String × String)

/-- Checks the foreign key of a `belongsTo` relation, given the keys synthesized before it. -/
def checkForeignKey (m : Model) (r : Relation) (target : Model) (synthesized : Synthesized) :
    Except Breakdown (Report × Synthesized) :=
  let name := r.expectedForeignKey
  let issue := fun fault => Report.issue (.ofRelation m.name r.name fault)
  match target.referenceKey with
  | none => .ok (issue (.targetWithoutKey target.name), synthesized)
  | some key =>
    match m.field? name with
    | some declared => do return (← checkDeclaredKey m r target key declared, synthesized)
    | none =>
      match synthesized.find? (·.1 == name) with
      | some (_, first) => .ok (issue (.sharedSynthesizedKey first r.name name), synthesized)
      | none =>
        .ok (when (m.relation? name).isSome (issue (.keyNamedAsRelation name r.name)),
          synthesized ++ [(name, r.name)])

/-- The parts that a relation declaration lacks. -/
def missingParts (r : Relation) : List String :=
  (if r.name == "" then ["name"] else []) ++ (if r.kind.isNone then ["kind"] else []) ++
    (if r.target == "" then ["target"] else [])

/-- What was seen of the relations before one: their names, and the keys they synthesize. -/
structure Seen where
  names : List String
  synthesized : Synthesized
  deriving Inhabited, Repr

/-- Checks one relation. -/
def checkRelation (registered : List Model) (m : Model) (seen : Seen) (r : Relation) :
    Except Breakdown (Report × Seen) :=
  let issue := fun fault => Report.issue (.ofRelation m.name r.name fault)
  let missing := missingParts r
  if !missing.isEmpty then
    .ok (Report.issue
      ⟨⟨m.name, none, if r.name == "" then none else some r.name⟩,
        .incompleteRelation missing⟩, seen)
  else
    let names := r.name :: seen.names
    let own := when (seen.names.contains r.name) (issue (.repeatedRelation r.name))
      ++ when (m.field? r.name).isSome (issue (.relationNamedAsField r.name))
    match Model.find? registered r.target with
    | none => .ok (own ++ issue (.unknownTarget r.target), { seen with names })
    | some target => do
      let through := match r.through with
        | some t => checkThrough registered m r t
        | none => Report.empty
      let (key, synthesized) ←
        if r.isBelongsTo then checkForeignKey m r target seen.synthesized
        else .ok (Report.empty, seen.synthesized)
      let inverse := r.inverse.getD ""
      let advice :=
        when (r.kind == some .hasMany && inverse == "") (advise (.noInverse m.name r.name))
        ++ when (inverse != "" && (target.relation? inverse).isNone)
          (advise (.unknownInverse m.name r.name inverse target.name))
      return (own ++ through ++ key ++ advice, ⟨names, synthesized⟩)

/-- Checks relations after those already seen. -/
def checkRelationsFrom (registered : List Model) (m : Model) (seen : Seen) :
    List Relation → Except Breakdown Report
  | [] => .ok Report.empty
  | r :: rest => do
    let (here, seen) ← checkRelation registered m seen r
    let later ← checkRelationsFrom registered m seen rest
    return here ++ later

/-- Checks the relations of a model. -/
def checkRelations (registered : List Model) (m : Model) : Except Breakdown Report :=
  checkRelationsFrom registered m ⟨[], []⟩ m.relations

/-! ## Models -/

/-- Checks one model. -/
def checkModel (registered : List Model) (position : Nat) (m : Model) : Except Breakdown Report :=
  if m.name == "" then .ok (Report.issue (.ofModel "" (.unnamedModel position)))
  else if m.fields.isEmpty then .ok (Report.issue (.ofModel m.name .noFields))
  else do
    let reserved := when (isReserved m.name) (advise (.reservedModelName m.name))
    let fields ← checkFields m
    let relations ← checkRelations registered m
    return reserved ++ checkPrimaryKey m ++ fields ++ relations

/-- Checks models, the first of which has a position. -/
def checkModelsFrom (registered : List Model) (position : Nat) :
    List Model → Except Breakdown Report
  | [] => .ok Report.empty
  | m :: rest => do
    let here ← checkModel registered position m
    let later ← checkModelsFrom registered (position + 1) rest
    return here ++ later

/-! ## Junctions -/

/-- The models that are planned: those with a name and fields. -/
def plannable (models : List Model) : List Model :=
  models.filter fun m => m.name != "" && !m.fields.isEmpty

/-- Checks one synthesized junction, given the pairs of those before it by name. -/
def checkJunction (registered : List Model) (earlier : List (String × (String × String)))
    (j : Junction.Implicit) : Except Breakdown Report := do
  let issue := fun fault => Report.issue (.ofModel j.pair.1 fault)
  let twice := match earlier.find? (·.1 == j.name) with
    | some (_, pair) => when (pair != j.pair) (issue (.junctionNameTwice j.name pair j.pair))
    | none => Report.empty
  let taken := when (registered.any (·.name == j.name)) (issue (.junctionNameTaken j.name))
  let sides ← j.sides.mapM fun s =>
    match Model.find? registered s.model with
    | none => .error (.unknownModel s.model)
    | some participant =>
      .ok (when participant.referenceKey.isNone
        (Report.issue (.ofRelation s.model s.relation (.participantWithoutKey participant.name))))
  return twice ++ taken ++ concat sides

/-- Checks junctions after those already seen. -/
def checkJunctionsFrom (registered : List Model) (earlier : List (String × (String × String))) :
    List Junction.Implicit → Except Breakdown Report
  | [] => .ok Report.empty
  | j :: rest => do
    let here ← checkJunction registered earlier j
    let later ← checkJunctionsFrom registered (earlier ++ [(j.name, j.pair)]) rest
    return here ++ later

/-- The problems of a plan as a report. -/
def planReport (plan : Junction.Plan) : Report :=
  concat (plan.problems.map fun p =>
    Report.issue (.ofRelation p.model p.relation (.pairing p.fault)))

/-- Validates models. -/
def validate (models : List Model) : Except Breakdown Report := do
  let registered := models.filter (·.name != "")
  let each ← checkModelsFrom registered 1 models
  let plan := Junction.Plan.ofModels (plannable models)
  let junctions ← checkJunctionsFrom registered [] plan.junctions
  return each ++ planReport plan ++ junctions

end Validation

end SchemaCompiler
