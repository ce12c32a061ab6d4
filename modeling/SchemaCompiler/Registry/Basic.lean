import SchemaCompiler.Diagnostic
import SchemaCompiler.Model.Basic
import SchemaCompiler.Value.Literal

/-!
# Registries

A registry is an ordered collection of model descriptors. Lookups by name go to the last model of a
name; everything else keeps the order of registration, which drives the order of the document.
-/

set_option autoImplicit false

namespace SchemaCompiler

/-- An ordered collection of models. -/
structure Registry where
  models : List Model
  deriving Inhabited, Repr

/-- Why a registry or its builder refuses a request. -/
inductive RegistryError where
  /-- Registration after the registry was built. -/
  | sealed (model : String)
  /-- A name that a model of another registration has. -/
  | collision (model existing new : String)
  /-- A lookup of a name that no model has. -/
  | notFound (model : String) (registered : List String)
  deriving DecidableEq, Inhabited, Repr

namespace RegistryError

/-- The message of an error. -/
def message : RegistryError → String
  | sealed model => "Cannot register model '" ++ model ++ "': registry has already been built"
  | collision model existing new =>
    "Model name collision: '" ++ model ++ "' already registered by module '" ++ existing ++
      "', cannot register from module '" ++ new ++ "'"
  | notFound model registered =>
    "Model '" ++ model ++ "' not found. Registered models: " ++ Value.textsLiteral registered

/-- The class of an error. -/
def category : RegistryError → DiagnosticClass
  | sealed _ => .registry
  | collision .. => .duplicateModel
  | notFound .. => .modelNotFound

/-- An error as a diagnostic. -/
def diagnostic (e : RegistryError) : Diagnostic := ⟨e.category, e.message, none⟩

end RegistryError

namespace Registry

/-- The number of models. -/
def size (r : Registry) : Nat := r.models.length

/-- The names, in order. -/
def modelNames (r : Registry) : List String := r.models.map (·.name)

/-- The names in code point order, each once. -/
def sortedNames (r : Registry) : List String :=
  r.modelNames.eraseDups.mergeSort fun a b => a ≤ b

/-- The model of a name. -/
def find? (r : Registry) (name : String) : Option Model := Model.find? r.models name

/-- Some model has the name. -/
def contains (r : Registry) (name : String) : Bool := r.models.any (·.name == name)

/-- The model of a name, or the error that names all there are. -/
def get (r : Registry) (name : String) : Except RegistryError Model :=
  match r.find? name with
  | some m => .ok m
  | none => .error (.notFound name r.sortedNames)

/-- The models of a module. -/
def inModule (r : Registry) (module : String) : List Model := r.models.filter (·.module == module)

/-- The modules in order of their first model. -/
def modules (r : Registry) : List String := (r.models.map (·.module)).eraseDups

end Registry

end SchemaCompiler
