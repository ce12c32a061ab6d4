import SchemaCompiler.Generation.Block
import SchemaCompiler.Log.Entry

/-!
# Drafts

A draft is a document before it is written out: the models in their modules, each with its block or
with the failure that leaves it out. Everything that a document says is read off its draft.
-/

set_option autoImplicit false

namespace SchemaCompiler

namespace Generation

/-- Values with their keys as one group for each key, in order of the first value of each. -/
def groupByKey {α : Type} (keyed : List (String × α)) : List (String × List α) :=
  (keyed.map (·.1)).eraseDups.map fun key =>
    (key, (keyed.filter (·.1 == key)).map (·.2))

/-- Models by module. Those that name no module belong to the core. -/
def groupByModule (models : List Model) : List (String × List Model) :=
  groupByKey (models.map fun m => (m.homeModule, m))

/-- Declared and synthesized models by module. A synthesized one stands under the module it was
given, as it was given. -/
def groupAll (models junctions : List Model) : List (String × List Model) :=
  groupByKey (models.map (fun m => (m.homeModule, m)) ++ junctions.map fun j => (j.module, j))

/-- A model with its block, or with the reason why it has none. -/
structure Attempt where
  model : Model
  outcome : Except BlockFailure ModelBlock
  deriving Inhabited

namespace Attempt

/-- The block, if there is one. -/
def block? (a : Attempt) : Option ModelBlock :=
  match a.outcome with
  | .ok b => some b
  | .error _ => none

/-- The failure, if there is one. -/
def failure? (a : Attempt) : Option BlockFailure :=
  match a.outcome with
  | .ok _ => none
  | .error e => some e

/-- The warning about a model that was left out. -/
def skipWarning (model : Model) : BlockFailure → String
  | .refused r => "Skipped model " ++ model.name ++ ": " ++ r.diagnostic.text
  | .broken b => "Skipped model " ++ model.name ++ ": unexpected error: " ++ b.message

/-- The entry about a model that was left out. -/
def skipEntry (model : Model) : BlockFailure → Log.Entry
  | .refused r => ⟨.warning, "orchestrator", skipWarning model (.refused r)⟩
  | .broken _ => ⟨.error, "orchestrator", "Unexpected failure generating model " ++ model.name⟩

end Attempt

/-- The attempts of one module. -/
structure Group where
  module : String
  attempts : List Attempt
  deriving Inhabited

namespace Group

/-- The models that have a block. -/
def rendered (g : Group) : List Model :=
  (g.attempts.filter fun a => a.block?.isSome).map (·.model)

/-- The section of a module, unless none of its models has a block. -/
def sectionText? (f : Formatter) (g : Group) : Option String :=
  let blocks := g.attempts.filterMap (·.block?)
  if blocks.isEmpty then none
  else some (Document.moduleSection f g.module g.rendered (blocks.map (·.render f)))

end Group

/-- Attempts the models of one module one after the other. -/
def attemptAll (o : Options) (f : Formatter) (models : List Model) :
    Resolver → List Model → List Attempt × Resolver
  | r, [] => ([], r)
  | r, m :: rest =>
    let (outcome, r) := block o f r m models
    let (later, r) := attemptAll o f models r rest
    (⟨m, outcome⟩ :: later, r)

/-- Attempts the modules one after the other. -/
def attemptGroups (o : Options) (f : Formatter) (models : List Model) :
    Resolver → List (String × List Model) → List Group × Resolver
  | r, [] => ([], r)
  | r, (module, members) :: rest =>
    let (attempts, r) := attemptAll o f models r members
    let (later, r) := attemptGroups o f models r rest
    (⟨module, attempts⟩ :: later, r)

/-- A document before it is written out. -/
structure Draft where
  models : List Model
  junctions : List Model
  formatter : Formatter
  groups : List Group
  deriving Inhabited

namespace Draft

/-- Declared and synthesized models. -/
def allModels (d : Draft) : List Model := d.models ++ d.junctions

/-- Drafts a document of declared and synthesized models. Several database schemas are used when
some model belongs to a module other than the core. -/
def make (o : Options) (r : Resolver) (models junctions : List Model) : Draft × Resolver :=
  let grouped := groupAll models junctions
  let multiSchema := grouped.any fun g => g.1 != coreModule
  let formatter := Formatter.make o.outputFormat o.dialect multiSchema
  let (groups, r) := attemptGroups o formatter (models ++ junctions) r grouped
  (⟨models, junctions, formatter, groups⟩, r)

/-- Every attempt, in order. -/
def attempts (d : Draft) : List Attempt := d.groups.flatMap (·.attempts)

/-- The models that were left out, with their failures. -/
def failures (d : Draft) : List (Model × BlockFailure) :=
  d.attempts.filterMap fun a => a.failure?.map fun e => (a.model, e)

/-- The names of the models that were left out. -/
def skipped (d : Draft) : List String := d.failures.map (·.1.name)

/-- The warnings about the models that were left out. -/
def skipWarnings (d : Draft) : List String := d.failures.map fun (m, e) => Attempt.skipWarning m e

/-- The entries about the models that were left out. -/
def skipTrail (d : Draft) : Log.Trail := d.failures.map fun (m, e) => Attempt.skipEntry m e

/-- The names of the synthesized models. -/
def junctionNames (d : Draft) : List String := d.junctions.map (·.name)

/-- The declared models that have a block. -/
def modelCount (d : Draft) : Nat :=
  (d.attempts.filter fun a => a.block?.isSome && !d.junctionNames.contains a.model.name).length

/-- The synthesized models that were not left out. -/
def junctionCount (d : Draft) : Nat :=
  (d.junctions.filter fun j => !d.skipped.contains j.name).length

/-- The modules in the order of their sections. -/
def modules (d : Draft) : List String := d.groups.map (·.module)

/-- The sections of the modules that have one. -/
def sections (d : Draft) : List String := d.groups.filterMap (·.sectionText? d.formatter)

/-- The database schemas in code point order, each once, if there are several. -/
def schemas (d : Draft) : List String :=
  if d.formatter.multiSchema then
    ((d.allModels.map fun m => d.formatter.schemaName m.table).eraseDups).mergeSort
      fun a b => a ≤ b
  else []

/-- The names of all models that were not left out. -/
def produced (d : Draft) : List String :=
  (d.allModels.map (·.name)).filter fun name => !d.skipped.contains name

end Draft

end Generation

end SchemaCompiler
