import SchemaCompiler.Diagnostic
import SchemaCompiler.FileTree.Basic
import SchemaCompiler.Model.Reader
import SchemaCompiler.Options.Basic
import SchemaCompiler.Toml.Document

/-!
# Loading options

Options are read from a dictionary with the leniency of descriptors, except that kinds have one
spelling each and a path has to be a text.

Options come from a configuration file, from the environment and from explicit overrides. An
override beats the file; the environment names the dialect only if neither the file nor an override
does. Relative paths in a file start from the directory of the file.
-/

set_option autoImplicit false

namespace SchemaCompiler

namespace Options

section Reading

open Reading

/-- A path. -/
def path : Value → Reading Path
  | .str s => accept (Path.parse s)
  | v => refuse .pathType v

/-- Reads options; what is not named is as in the standard options. -/
def read : Value → Reading Options :=
  record "GenerationOptions" fun es =>
    Options.mk
      <$> part es "dialect" standard.dialect (choice (Dialect.all.map (·.name)) Dialect.ofName?)
      <*> part es "output_path" standard.outputPath path
      <*> part es "include_audit_fields" standard.includeAuditFields truth
      <*> part es "include_indexes" standard.includeIndexes truth
      <*> part es "output_format" standard.outputFormat
        (choice (OutputFormat.all.map (·.name)) OutputFormat.ofName?)
      <*> part es "baseline_path" standard.baselinePath (optional path)
      <*> part es "connection_env" standard.connectionEnv text
      <*> part es "client_output" standard.clientOutput text
      <*> part es "binary_targets" standard.binaryTargets (list text)
      <*> part es "include_timestamp" standard.includeTimestamp truth
      <*> part es "audit_actor_type" standard.auditActorType
        (choice (FieldKind.all.map (·.name)) FieldKind.ofName?)

/-- Options in full. -/
def toValue (o : Options) : Value :=
  Value.record [("dialect", .str o.dialect.name), ("output_path", .str o.outputPath.render),
    ("include_audit_fields", .bool o.includeAuditFields),
    ("include_indexes", .bool o.includeIndexes), ("output_format", .str o.outputFormat.name),
    ("baseline_path", Value.ofText? (o.baselinePath.map (·.render))),
    ("connection_env", .str o.connectionEnv), ("client_output", .str o.clientOutput),
    ("binary_targets", Value.texts o.binaryTargets),
    ("include_timestamp", .bool o.includeTimestamp),
    ("audit_actor_type", .str o.auditActorType.name)]

end Reading

/-- The entries of a dictionary of options. -/
abbrev Entries := List (Value × Value)

/-- What is wrong with a configuration. -/
inductive ConfigFailure where
  | notFound (path : Path)
  | invalidToml (path : Path) (reason : String)
  | notTable (path : Path)
  | invalidOptions (problems : List Problem)
  deriving Inhabited, Repr

namespace ConfigFailure

/-- The message of a failure. -/
def message : ConfigFailure → String
  | notFound path => "Config file not found: " ++ path.render
  | invalidToml path reason => "Invalid TOML in " ++ path.render ++ ": " ++ reason
  | notTable path => "[generator] in " ++ path.render ++ " must be a table"
  | invalidOptions problems =>
    "Invalid generation options: " ++
      String.intercalate "; " (problems.map fun p => p.pathText ++ ": " ++ p.kind.message)

/-- A failure as a diagnostic. -/
def diagnostic (f : ConfigFailure) : Diagnostic := ⟨.config, f.message, none⟩

end ConfigFailure

/-- Why no options could be loaded. -/
inductive LoadFailure where
  | config (failure : ConfigFailure)
  | file (failure : FileFailure)
  /-- A number in the file that cannot be read. -/
  | number (failure : IntegerFailure)
  /-- A path in the file that is no text. -/
  | pathValue (key : String)
  deriving Inhabited, Repr

/-! ## The file -/

/-- The name of a configuration file. -/
def configName : String := "schemaforge.toml"

/-- The first of some paths that leads to a file. -/
def firstFile (t : FileTree) : List Path → Except FileFailure (Option Path)
  | [] => .ok none
  | p :: rest => do if ← t.isFile p then return some p else firstFile t rest

/-- The nearest configuration file in a directory or above it. -/
def findConfig (t : FileTree) (start : Path) : Except FileFailure (Option Path) := do
  firstFile t ((← t.resolve start).ancestors.map (·.child configName))

/-- Seats a path of the file in the directory of the file. -/
def seatPath (directory : Path) (key : String) (entries : Entries) : Except LoadFailure Entries :=
  match Value.lookup? entries key with
  | none | some .null => .ok entries
  | some (.str s) => .ok (entries ++ [(.str key, .str (directory.under (Path.parse s)).render)])
  | some _ => .error (.pathValue key)

/-- The entries of the generator's table in a document, with their paths seated. -/
def tableEntries (path : Path) (document : Entries) : Except LoadFailure Entries :=
  match (Value.lookup? document "generator").getD (.dict []) with
  | .dict entries => do
    let seated ← seatPath path.parent "output_path" entries
    seatPath path.parent "baseline_path" seated
  | _ => .error (.config (.notTable path))

/-- The entries of a configuration file. -/
def fileEntries (t : FileTree) (path : Path) : Except LoadFailure Entries :=
  match t.readText path with
  | .error .notFound => .error (.config (.notFound path))
  | .error e => .error (.file e)
  | .ok text => match Toml.parse text with
    | .error e => match e.cause with
      | .tooManyDigits count => .error (.number (.tooManyDigits count))
      | _ => .error (.config (.invalidToml path (e.text text.toList)))
    | .ok document => tableEntries path document

/-! ## The layers -/

/-- The dialect that the environment names, unless the file names one. -/
def providerEntries (file : Entries) (provider : Option String) : Entries :=
  match Value.lookup? file "dialect", provider with
  | none, some name =>
    if name == "" then [] else [(.str "dialect", .str (Text.lower (Text.trim name)))]
  | _, _ => []

/-- The overrides that are given. -/
def givenEntries (overrides : Entries) : Entries :=
  overrides.filter fun (_, v) => match v with
    | .null => false
    | _ => true

/-- All layers as one; of several values under a key the last counts. -/
def layers (file : Entries) (provider : Option String) (overrides : Entries) : Entries :=
  file ++ providerEntries file provider ++ givenEntries overrides

/-- The options that entries stand for. -/
def ofEntries (entries : Entries) : Except LoadFailure Options :=
  (read (.dict entries)).result.mapError fun problems => .config (.invalidOptions problems)

/-- Loads options. -/
def load (t : FileTree) (path : Option Path) (provider : Option String) (overrides : Entries) :
    Except LoadFailure Options := do
  let file ← match path with
    | none => .ok []
    | some p => fileEntries t p
  ofEntries (layers file provider overrides)

end Options

end SchemaCompiler
