import SchemaCompiler.Log.Entry
import SchemaCompiler.Registry.Basic

/-!
# Building a registry

A builder collects models under distinct names until it is built; from then on it refuses every
registration. A refused registration leaves the builder as it was.
-/

set_option autoImplicit false

namespace SchemaCompiler

/-- The models accepted so far, and whether the registry was built. -/
structure Builder where
  models : List Model
  built : Bool
  deriving Inhabited, Repr

namespace Builder

/-- The entry that a component of the registry leaves. -/
def note (level : Log.Level) (message : String) : Log.Entry := ⟨level, "registry", message⟩

/-- A builder without models. -/
def empty : Builder := ⟨[], false⟩

/-- The accepted model of a name. -/
def find? (b : Builder) (name : String) : Option Model := b.models.find? (·.name == name)

/-- Registers a model. A name that is taken is refused, or passed over if `skip` is set. -/
def register (b : Builder) (m : Model) (skip : Bool) :
    Except RegistryError (Builder × Log.Entry) :=
  if b.built then .error (.sealed m.name)
  else match b.find? m.name with
    | some existing =>
      if skip then
        .ok (b, note .debug ("Model '" ++ m.name ++ "' already registered by module '" ++
          existing.module ++ "', skipping duplicate"))
      else .error (.collision m.name existing.module m.module)
    | none =>
      .ok ({ b with models := b.models ++ [m] },
        note .debug ("Registering model '" ++ m.name ++ "' (module: " ++ m.module ++ ")"))

/-- What registering several models leaves: the builder, the trail, and the error that stopped it.
The models before the offending one are accepted. -/
structure Registration where
  builder : Builder
  trail : Log.Trail
  error : Option RegistryError
  deriving Inhabited, Repr

/-- Registers models one after the other. -/
def registerMany (b : Builder) (models : List Model) (skip : Bool) : Registration :=
  match models with
  | [] => ⟨b, [], none⟩
  | m :: rest =>
    match b.register m skip with
    | .error e => ⟨b, [], some e⟩
    | .ok (b, entry) =>
      let later := b.registerMany rest skip
      { later with trail := entry :: later.trail }

/-- Seals the builder and returns the snapshot. -/
def build (b : Builder) : Builder × Registry × Log.Entry :=
  ({ b with built := true }, ⟨b.models⟩,
    note .info ("Model registry built with " ++ toString b.models.length ++ " model(s)"))

end Builder

end SchemaCompiler
