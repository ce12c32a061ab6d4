import SchemaCompiler.Document.Assembly
import SchemaCompiler.Document.Basic
import SchemaCompiler.Generation.Draft
import SchemaCompiler.Registry.Cycle
import SchemaCompiler.Validation.Check

/-!
# Generation

From the models of a registry to a finished document. Models that do not pass validation yield no
document. A model whose block cannot be made is left out and reported, and harms no other model.
-/

set_option autoImplicit false

namespace SchemaCompiler

namespace Generation

/-- Why there is no document. -/
inductive Failure where
  /-- Validation found errors. -/
  | invalid (report : Validation.Report)
  /-- The models of the junctions cannot be made. -/
  | junctions (failure : BlockFailure)
  /-- Validation came to no finding. -/
  | broken (b : Breakdown)
  /-- The document is to state when it was made, and that has no date. -/
  | undated (failure : DateFailure)
  deriving Inhabited

/-- The entry that a component of the generation leaves. -/
def note (level : Log.Level) (message : String) : Log.Entry := ⟨level, "orchestrator", message⟩

/-- The first entry of a generation. -/
def startEntry (o : Options) (models : List Model) : Log.Entry :=
  note .info ("Generating " ++ o.dialect.name ++ " schema for " ++ toString models.length ++
    " model(s)")

/-- The warning about a reference cycle. -/
def cycleWarning (cycle : List String) : String := "Reference cycle: " ++ cycleText cycle

/-- The entry about the blocks that are carried over, if there are any. -/
def legacyTrail (legacy : List Block) : Log.Trail :=
  if legacy.isEmpty then []
  else [note .info ("Carrying over " ++ toString legacy.length ++ " legacy block(s) from baseline")]

/-- The blocks of an earlier document that the draft does not replace. -/
def legacyBlocks (d : Draft) (baseline : Option String) : List Block :=
  match baseline with
  | none => []
  | some text => Block.legacy text d.produced

/-- The document of a draft. -/
def finish (o : Options) (made : Option Moment) (warnings : List String)
    (cycles : List (List String)) (d : Draft) (legacy : List Block) : Document :=
  let content := Document.assemble o made d.sections legacy d.schemas
  { content
    warnings := warnings ++ cycles.map cycleWarning ++ d.skipWarnings ++ Block.lint content
    modules := d.modules
    modelCount := d.modelCount
    junctionCount := d.junctionCount
    skipped := d.skipped
    legacy := legacy.map (·.name)
    cycles }

/-- What a generation leaves: the resolver, the trail, and the document or the failure. -/
structure Run where
  resolver : Resolver
  trail : Log.Trail
  result : Except Failure Document
  deriving Inhabited

/-- Generates the document of models that passed validation with some warnings. -/
def generateValid (o : Options) (r : Resolver) (now : Timestamp) (models : List Model)
    (baseline : Option String) (warnings : List String) : Run :=
  let cycles := Registry.cycles ⟨models⟩
  let noted := cycles.map fun cycle => note .warning (cycleWarning cycle)
  let (plan, r) := r.plan models
  let planned := Resolver.junctionTrail plan models
  match Resolver.junctionModels plan models with
  | .error e => ⟨r, noted ++ planned, .error (.junctions e)⟩
  | .ok junctions =>
    let (draft, r) := Draft.make o r models junctions
    let legacy := legacyBlocks draft baseline
    ⟨r, noted ++ planned ++ draft.skipTrail ++ legacyTrail legacy,
      match Document.stamp o now with
      | .error e => .error (.undated e)
      | .ok made => .ok (finish o made warnings cycles draft legacy)⟩

/-- Generates the document of some models with a resolver that earlier generations may have used. -/
def generate (o : Options) (r : Resolver) (now : Timestamp) (models : List Model)
    (baseline : Option String) : Run :=
  let start := startEntry o models
  match Validation.validate models with
  | .error b => ⟨r, [start], .error (.broken b)⟩
  | .ok report =>
    if report.isValid then
      let run := generateValid o r now models baseline report.warningTexts
      { run with trail := start :: run.trail }
    else ⟨r, start :: report.trail, .error (.invalid report)⟩

end Generation

end SchemaCompiler
