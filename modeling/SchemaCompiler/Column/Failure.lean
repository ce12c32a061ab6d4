import SchemaCompiler.Breakdown
import SchemaCompiler.Diagnostic
import SchemaCompiler.Model.Basic

/-!
# Failures of one model

Why the block of a model cannot be made. A refusal is foreseen and names its place; a breakdown is
not. Either leaves the model out of the document and harms no other model.
-/

set_option autoImplicit false

namespace SchemaCompiler

/-- Why a field or a relation cannot be mapped. -/
inductive RefusalCause where
  /-- A type that the dialect has no scalar type for; the type is shown as a literal. -/
  | unmappedType (field type dialect : String)
  | ungeneratedKind (field kind : String)
  /-- A default, shown as a literal, that does not fit the type. -/
  | invalidDefault (default kind field : String)
  | unknownTarget (relation target : String)
  | targetWithoutKey (relation target : String)
  | unknownJunction (relation junction : String)
  | unmatchedRelation (relation target : String)
  | participantWithoutKey (model : String)
  deriving DecidableEq, Inhabited, Repr

/-- The message of a cause. -/
def RefusalCause.message : RefusalCause → String
  | unmappedType field type dialect =>
    "field '" ++ field ++ "' has type " ++ type ++ " with no mapping for dialect '" ++ dialect ++
      "'"
  | ungeneratedKind field kind =>
    "field '" ++ field ++ "' is auto_increment but has type " ++ kind ++
      "; only integer and string fields can be generated"
  | invalidDefault default kind field =>
    "default " ++ default ++ " is not valid for " ++ kind ++ " field '" ++ field ++ "'"
  | unknownTarget relation target =>
    "relation '" ++ relation ++ "' targets unknown model '" ++ target ++ "'"
  | targetWithoutKey relation target =>
    "relation '" ++ relation ++ "' targets '" ++ target ++ "', which has no single key"
  | unknownJunction relation junction =>
    "relation '" ++ relation ++ "' uses unknown junction '" ++ junction ++ "'"
  | unmatchedRelation relation target =>
    "manyToMany relation '" ++ relation ++ "' has no matching declaration on '" ++ target ++ "'"
  | participantWithoutKey model => "participant '" ++ model ++ "' has no single key"

/-- A refusal to map part of a model. -/
structure Refusal where
  model : String
  field : Option String
  cause : RefusalCause
  deriving DecidableEq, Inhabited, Repr

/-- A refusal as a diagnostic. -/
def Refusal.diagnostic (r : Refusal) : Diagnostic :=
  ⟨.generation, r.cause.message, some ⟨r.model, r.field, none⟩⟩

/-- Why the block of a model cannot be made. -/
inductive BlockFailure where
  | refused (r : Refusal)
  | broken (b : Breakdown)
  deriving Inhabited, Repr

namespace BlockFailure

/-- A refusal about a field. -/
def field (model field : String) (cause : RefusalCause) : BlockFailure :=
  refused ⟨model, some field, cause⟩

/-- A refusal about a model's relations. -/
def model (name : String) (cause : RefusalCause) : BlockFailure := refused ⟨name, none, cause⟩

/-- The message of a failure. -/
def message : BlockFailure → String
  | refused r => r.diagnostic.text
  | broken b => b.message

end BlockFailure

end SchemaCompiler
