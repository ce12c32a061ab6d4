import SchemaCompiler.CommandLine.Arguments
import SchemaCompiler.CommandLine.Load
import SchemaCompiler.CommandLine.Markup
import SchemaCompiler.CommandLine.Table
import SchemaCompiler.Generation.Compile
import SchemaCompiler.Options.Load

/-!
# Commands

What the program answers to a request: the text it prints, its exit code, and the file tree it
leaves. A cause that no command foresees ends the program and is kept in the outcome.
-/

set_option autoImplicit false

namespace SchemaCompiler

namespace CommandLine

/-- What a command is run in: the project, the environment, the device that files are written to,
and the time. -/
structure Setting where
  project : Project
  provider : Option String
  device : Device
  now : Timestamp

/-- A cause that no command foresees. -/
inductive Escape where
  | file (failure : FileFailure)
  | number (failure : IntegerFailure)
  | pathValue (key : String)
  | block (failure : BlockFailure)
  | undated (failure : DateFailure)
  | markup (failure : Markup.Failure)
  deriving Inhabited

/-- What a command leaves. -/
structure Outcome where
  exitCode : Nat
  output : String
  tree : FileTree
  escaped : Option Escape
  deriving Inhabited

namespace Outcome

/-- An outcome that prints lines as they are and leaves the files as they are. -/
def showing (tree : FileTree) (lines : List String) : Outcome :=
  ⟨0, String.join (lines.map (· ++ "\n")), tree, none⟩

/-- An outcome that a cause nobody foresaw led to. -/
def escaping (tree : FileTree) (cause : Escape) : Outcome := ⟨1, "", tree, some cause⟩

/-- An outcome that prints lines of markup. The first of them that cannot be read ends the
program. -/
def printing (exitCode : Nat) (tree : FileTree) : List String → Outcome
  | [] => ⟨exitCode, "", tree, none⟩
  | line :: rest =>
    match Markup.printed line with
    | .error e => .escaping tree (.markup e)
    | .ok text =>
      let later := printing exitCode tree rest
      { later with output := text ++ "\n" ++ later.output }

end Outcome

/-- The version of the program. -/
def programVersion : String := "0.1.0"

/-- The name of the program. -/
def programName : String := "schemaforge"

/-! ## Lines -/

/-- A text to be printed as it stands after a mark in a style. -/
def markedLine (style mark text : String) : String :=
  Markup.styled style mark ++ " " ++ Markup.escape text

/-- The line of an error. -/
def errorLine (d : Diagnostic) : String := "  " ++ markedLine "red" "✗" d.text

/-- The line of a warning. -/
def warningLine (text : String) : String := markedLine "yellow" "!" text

/-- The lines of what validation found. -/
def reportLines (r : Validation.Report) : List String :=
  r.diagnostics.map errorLine ++ r.warningTexts.map fun text => "  " ++ warningLine text

/-- The heading over the errors of models that were to be generated. -/
def failedHeading (r : Validation.Report) : String :=
  Markup.styled "red" ("Validation failed with " ++ toString r.errors.length ++ " error(s):")

/-! ## Commands -/

/-- Runs a command on the registry of a target. -/
def withRegistry (s : Setting) (target : String) (run : Registry → Outcome) : Outcome :=
  match (loadModels s.project target).result with
  | .ok registry => run registry
  | .error (.file e) => .escaping s.project.tree (.file e)
  | .error e =>
    .printing 1 s.project.tree [markedLine "red" "Failed to load models:" e.message]

/-- Checks models without generating anything. -/
def runValidate (s : Setting) (registry : Registry) : Outcome :=
  match Validation.validate registry.models with
  | .error b => .escaping s.project.tree (.block (.broken b))
  | .ok report =>
    let count := toString registry.size
    if report.isValid then
      .printing 0 s.project.tree
        (reportLines report ++ [markedLine "green" "✓" (count ++ " model(s) valid")])
    else
      .printing 1 s.project.tree (reportLines report ++
        [Markup.styled "red"
          (toString report.errors.length ++ " error(s) in " ++ count ++ " model(s)")])

/-- The table of reference cycles. -/
def cycleTable (cycles : List (List String)) : Except Markup.Failure Table := do
  let cells ← cycles.mapM fun cycle => Markup.render (Markup.escape (cycleText cycle))
  return {
    title := toString cycles.length ++ " reference cycle(s)"
    header := ("#", "Cycle")
    rows := cells.mapIdx fun i cell => (toString (i + 1), cell) }

/-- Lists the reference cycles. -/
def runCycles (s : Setting) (registry : Registry) : Outcome :=
  let cycles := registry.cycles
  if cycles.isEmpty then
    .printing 0 s.project.tree [Markup.styled "green" "No reference cycles found"]
  else match cycleTable cycles with
    | .error e => .escaping s.project.tree (.markup e)
    | .ok table => .showing s.project.tree (table.lines Markup.lineWidth)

/-- The outcome of a generation that failed. -/
def generationFailed (tree : FileTree) : Generation.Failure → Outcome
  | .invalid report => .printing 1 tree (failedHeading report :: reportLines report)
  | .junctions failure => .escaping tree (.block failure)
  | .broken b => .escaping tree (.block (.broken b))
  | .undated failure => .escaping tree (.undated failure)

/-- Generates a document and prints it. -/
def runPrint (s : Setting) (o : Options) (registry : Registry) : Outcome :=
  let tree := s.project.tree
  match (Generation.readBaseline tree o.baselinePath).1 with
  | .error e => .escaping tree (.file e)
  | .ok baseline =>
    match (Generation.generate o .fresh s.now registry.models baseline).result with
    | .error e => generationFailed tree e
    | .ok document => ⟨0, document.content, tree, none⟩

/-- Generates a document and writes it. The path of the file is printed as markup. -/
def runWrite (s : Setting) (o : Options) (registry : Registry) : Outcome :=
  let run := Generation.compile s.device o s.project.tree s.now registry.models
  match run.result with
  | .error (.file e) => .escaping run.tree (.file e)
  | .error (.generation e) => generationFailed run.tree e
  | .ok document =>
    .printing 0 run.tree (document.warnings.map warningLine ++
      [Markup.styled "green" "✓" ++ " Wrote " ++ o.outputPath.render ++
        " (" ++ document.summary.text ++ ")"])

/-- The configuration file of a request: the one it names, else the nearest one. -/
def configPath (tree : FileTree) (config : Option String) : Except FileFailure (Option Path) :=
  match config with
  | some name => .ok (some (Path.parse name))
  | none => Options.findConfig tree (Path.parse "")

/-- The options of a request. -/
def requestOptions (s : Setting) (config : Option String) (overrides : List (String × Value)) :
    Except Options.LoadFailure Options := do
  let path ← (configPath s.project.tree config).mapError .file
  Options.load s.project.tree path s.provider
    (overrides.map fun (topic, v) => (Value.str topic, v))

/-- Generates a document as a request asks for it. -/
def runGenerate (s : Setting) (target : String) (config : Option String)
    (overrides : List (String × Value)) (toStdout : Bool) : Outcome :=
  let tree := s.project.tree
  match requestOptions s config overrides with
  | .error (.config e) => .printing 1 tree [markedLine "red" "Configuration error:" e.message]
  | .error (.file e) => .escaping tree (.file e)
  | .error (.number e) => .escaping tree (.number e)
  | .error (.pathValue key) => .escaping tree (.pathValue key)
  | .ok o => withRegistry s target (if toStdout then runPrint s o else runWrite s o)

/-- How the program is used. -/
def usage : List String :=
  ["Usage: " ++ programName ++ " [generate|validate|cycles] --models TARGET [OPTIONS]"]

/-- Answers a request. -/
def answer (s : Setting) : Request → Outcome
  | .generate target config overrides toStdout => runGenerate s target config overrides toStdout
  | .validate target => withRegistry s target (runValidate s)
  | .cycles target => withRegistry s target (runCycles s)
  | .version => .printing 0 s.project.tree [programName ++ " " ++ programVersion]
  | .help => .showing s.project.tree usage
  | .noPath => .escaping s.project.tree (.file .nullCharacter)
  | .wrongUsage => .printing 2 s.project.tree []

/-- Runs the program with arguments. -/
def run (s : Setting) (args : List String) : Outcome := answer s (.ofArguments args)

end CommandLine

end SchemaCompiler
