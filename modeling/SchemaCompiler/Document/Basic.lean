/-!
# Documents

A finished document with what is to be said about it: warnings, counts, and the models left out.
-/

set_option autoImplicit false

namespace SchemaCompiler

/-- The counts that sum up a document. -/
structure Summary where
  modules : List String
  models : Nat
  junctions : Nat
  legacy : Nat
  skipped : Nat
  warnings : Nat
  deriving DecidableEq, Inhabited, Repr

namespace Summary

/-- A count with its noun, or nothing for zero. -/
def counted (n : Nat) (noun : String) : List String :=
  if n = 0 then [] else [toString n ++ " " ++ noun]

/-- A summary in one line. Models, junctions and modules are always named. -/
def text (s : Summary) : String :=
  String.intercalate ", "
    ([toString s.models ++ " model(s)", toString s.junctions ++ " junction(s)",
        toString s.modules.length ++ " module(s)"]
      ++ counted s.legacy "legacy block(s)"
      ++ counted s.skipped "skipped"
      ++ counted s.warnings "warning(s)")

end Summary

/-- The result of a generation. -/
structure Document where
  content : String
  warnings : List String
  /-- The modules in the order of their sections. -/
  modules : List String
  /-- The declared models that have a block. -/
  modelCount : Nat
  /-- The synthesized models that have a block. -/
  junctionCount : Nat
  /-- The models that were left out because their block could not be made. -/
  skipped : List String
  /-- The names of the blocks carried over. -/
  legacy : List String
  cycles : List (List String)
  deriving DecidableEq, Inhabited, Repr

/-- The summary of a document. -/
def Document.summary (d : Document) : Summary :=
  { modules := d.modules, models := d.modelCount, junctions := d.junctionCount
    legacy := d.legacy.length, skipped := d.skipped.length, warnings := d.warnings.length }

end SchemaCompiler
