import SchemaCompiler.CommandLine.Project
import SchemaCompiler.Registry.Builder
import SchemaCompiler.Text.Lines

/-!
# Loading models

A target names a models file, by a path or a dotted name, and what to take from it. Models that are
not a registry yet are registered one after the other.
-/

set_option autoImplicit false

namespace SchemaCompiler

namespace CommandLine

/-- Why a target yields no registry. -/
inductive LoadFailure where
  | invalidTarget (target : String)
  /-- The path of a models file cannot be followed. -/
  | file (failure : FileFailure)
  | fileMissing (path : Path)
  | notImportable (path : Path)
  /-- Reading a models file fails; the file is shown as it is given here. -/
  | importing (file message : String)
  | cannotImport (name message : String)
  | noSuchName (file name : String)
  | noModels (target : String)
  /-- Something else than a model among the models, by its kind. -/
  | yielded (target kind : String)
  | registering (target message : String)
  | stated (message : String)
  | registry (error : RegistryError)
  deriving DecidableEq, Inhabited, Repr

namespace LoadFailure

/-- The message of a failure. -/
def message : LoadFailure → String
  | .invalidTarget target =>
    "Invalid models target '" ++ target ++
      "'; expected 'package.module:attr' or 'path/to/file.py:attr'"
  | .file failure => failure.message
  | .fileMissing path => "Models file not found: " ++ path.render
  | .notImportable path => "Cannot import models file: " ++ path.render
  | .importing place message => "Error while importing " ++ place ++ ": " ++ message
  | .cannotImport name message => "Cannot import module '" ++ name ++ "': " ++ message
  | .noSuchName place name => "'" ++ place ++ "' has no attribute '" ++ name ++ "'"
  | .noModels target =>
    "'" ++ target ++ "' must be a callable, an iterable of ModelSpec, or a ModelRegistry"
  | .yielded target kind => "'" ++ target ++ "' yielded " ++ kind ++ ", expected ModelSpec"
  | .registering target message => "'" ++ target ++ "' failed while registering models: " ++ message
  | .stated message => message
  | .registry error => error.message

/-- A failure as a diagnostic. -/
def diagnostic : LoadFailure → Diagnostic
  | .registry error => error.diagnostic
  | f => ⟨.modelLoad, f.message, none⟩

end LoadFailure

/-! ## The target -/

/-- A target cut at its last colon, if both sides hold something. -/
def splitTarget? (target : String) : Option (String × String) :=
  let reversed := target.toList.reverse
  let name := (reversed.takeWhile (· != ':')).reverse
  match reversed.dropWhile (· != ':') with
  | _ :: file =>
    if file.isEmpty || name.isEmpty then none
    else some (String.ofList file.reverse, String.ofList name)
  | [] => none

/-- A models file is named by a path. -/
def isPath (file : String) : Bool :=
  Text.startsWith file.toList.reverse Project.ending.toList.reverse ||
    file.toList.any fun c => c == '/' || c == '\\'

/-- The models file that a path leads to. -/
def fileOfPath (p : Project) (file : String) : Except LoadFailure ModelsFile := do
  let path ← (p.tree.resolve (Path.parse file)).mapError .file
  if !(← (p.tree.isFile path).mapError .file) then .error (.fileMissing path)
  else if !Text.startsWith path.fileName.toList.reverse Project.ending.toList.reverse then
    .error (.notImportable path)
  else match p.fileAt path.parts with
    | .broken _ message => .error (.importing path.render message)
    | found => .ok (found.adding (aboutFile path.render ""))

/-- The models file that a dotted name leads to. -/
def fileOfDottedName (p : Project) (name : String) : Except LoadFailure ModelsFile :=
  match p.fileOfName name with
  | .error (.relative name) =>
    .error (.importing ("'" ++ name ++ "'") (ImportFailure.relative name).message)
  | .error e => .error (.cannotImport name e.message)
  | .ok (.broken true message) => .error (.cannotImport name message)
  | .ok (.broken false message) => .error (.importing ("'" ++ name ++ "'") message)
  | .ok found => .ok found

/-- What a target names. -/
def offerOf (p : Project) (target : String) : Except LoadFailure Offer := do
  match splitTarget? target with
  | none => .error (.invalidTarget target)
  | some (file, name) =>
    let found ← if isPath file then fileOfPath p file else fileOfDottedName p file
    match found with
    | .offers entries => match entries.find? (·.1 == name) with
      | some (_, offer) => .ok offer
      | none => .error (.noSuchName file name)
    | .broken _ message => .error (.importing file message)

/-! ## The models -/

/-- What loading leaves. -/
structure Loaded where
  trail : Log.Trail
  result : Except LoadFailure Registry
  deriving Inhabited

/-- The models among what is offered, none of which is a function's. -/
def offeredModels (target : String) : Offer → Except LoadFailure (List Model)
  | .models models => .ok models
  | .registry models => .ok models
  | .value v => match v.items? with
    | none => .error (.noModels target)
    | some [] => .ok []
    | some (item :: _) => .error (.yielded target item.kindName)
  | _ => .error (.noModels target)

/-- The registry of what was registered. -/
def builtFrom (target : String) (r : Builder.Registration) : Loaded :=
  match r.error with
  | some e => ⟨r.trail, .error (.registry e)⟩
  | none =>
    let count := toString r.builder.models.length
    let (_, registry, built) := r.builder.build
    ⟨r.trail ++ [⟨.debug, "cli", "Loaded " ++ count ++ " model(s) from " ++ target⟩, built],
      .ok registry⟩

/-- The registry of what is offered, none of which is a function. -/
def registryOf (target : String) (offer : Offer) : Loaded :=
  match offeredModels target offer with
  | .error e => ⟨[], .error e⟩
  | .ok models => builtFrom target (Builder.empty.registerMany models false)

/-- The registry of what is offered. -/
def ofOffer (target : String) : Offer → Loaded
  | .registry models => ⟨[], .ok ⟨models⟩⟩
  | .registers models =>
    let registered := Builder.empty.registerMany models false
    match registered.error with
    | some e => ⟨registered.trail, .error (.registering target e.message)⟩
    | none => builtFrom target registered
  | .returns (.registry models) => ⟨[], .ok ⟨models⟩⟩
  | .returns (.value .null) => builtFrom target ⟨.empty, [], none⟩
  | .returns result => registryOf target result
  | .fails true message => ⟨[], .error (.stated message)⟩
  | .fails false message => ⟨[], .error (.registering target message)⟩
  | offer => registryOf target offer

/-- Loads the models of a target. -/
def loadModels (p : Project) (target : String) : Loaded :=
  match offerOf p target with
  | .error e => ⟨[], .error e⟩
  | .ok offer => ofOffer target offer

end CommandLine

end SchemaCompiler
