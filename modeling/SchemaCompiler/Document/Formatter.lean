import SchemaCompiler.Dialect.Profile
import SchemaCompiler.Model.Basic

/-!
# Formatters, table naming and sections

A formatter fixes the layout of a document and how tables are named. When models are spread over
several database schemas, a table keeps its bare name and its schema is stated; otherwise the module
becomes part of the table's name. Core tables never carry their module.

A module section puts the blocks of one module under a header. The aligned layout also lists the
models of the module with their tables.
-/

set_option autoImplicit false

namespace SchemaCompiler

/-- The layout of a document and the conventions of its dialect. -/
structure Formatter where
  format : OutputFormat
  profile : Profile
  multiSchema : Bool
  deriving Inhabited, Repr

namespace Formatter

/-- The schema of core tables when there are several. -/
def coreSchema : String := "public"

/-- A formatter; several schemas are used only by a dialect that has them. -/
def make (format : OutputFormat) (dialect : Dialect) (multiSchema : Bool) : Formatter :=
  let profile := Profile.ofDialect dialect
  ⟨format, profile, multiSchema && profile.supportsSchemas⟩

/-- Members are aligned and comments are written. -/
def isPretty (f : Formatter) : Bool := f.format == .pretty

/-- The database schema of a table, when there are several. -/
def schemaName (_ : Formatter) (t : TableRef) : String := if t.isCore then coreSchema else t.module

/-- The name of a table within its database schema. -/
def physicalTable (f : Formatter) (t : TableRef) : String :=
  if t.isCore || f.multiSchema then t.table else t.module ++ "_" ++ t.table

/-- The directives that map a block to its table. -/
def tableDirectives (f : Formatter) (t : TableRef) : List String :=
  ("@@map(\"" ++ f.physicalTable t ++ "\")") ::
    (if f.multiSchema then ["@@schema(\"" ++ f.schemaName t ++ "\")"] else [])

end Formatter

/-! ## Sections -/

namespace Document

/-- The line that encloses a banner. -/
def rule : String := "// " ++ String.ofList (List.replicate 77 '=')

/-- A title between two rules. -/
def banner (title : String) : String := String.intercalate "\n" [rule, "// " ++ title, rule]

/-- The line that lists a model. -/
def listing (f : Formatter) (m : Model) : String :=
  "// - " ++ m.name ++ " (table: " ++ f.physicalTable m.table ++ ", fields: " ++
    toString m.fields.length ++ ", relations: " ++ toString m.relations.length ++ ")"

/-- The parts of a module section before its blocks. -/
def sectionHead (f : Formatter) (module : String) (models : List Model) : List String :=
  if f.isPretty then
    [banner ("MODULE: " ++ Text.upper module),
     String.intercalate "\n" ("// Models in this module:" :: models.map (listing f))]
  else ["// Module: " ++ module]

/-- The text of a module section. -/
def moduleSection (f : Formatter) (module : String) (models : List Model) (blocks : List String) :
    String :=
  String.intercalate "\n\n" (sectionHead f module models ++ blocks)

end Document

end SchemaCompiler
