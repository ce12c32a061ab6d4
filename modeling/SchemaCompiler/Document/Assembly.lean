import SchemaCompiler.Calendar
import SchemaCompiler.Document.Block
import SchemaCompiler.Document.ModelBlock
import SchemaCompiler.Options.Basic

/-!
# Assembling a document

A document is a header, the connection, the client generator, the blocks carried over from an
earlier document, and the module sections, with one blank line between any two of them.
-/

set_option autoImplicit false

namespace SchemaCompiler

namespace Document

/-- When a document was made, if the options ask for it. -/
def stamp (o : Options) (now : Timestamp) : Except DateFailure (Option Moment) :=
  if o.includeTimestamp then now.universal.map some else .ok none

/-- The line that states when a document was made. -/
def timeLine (made : Option Moment) : List String :=
  (made.map fun t => "// Generated: " ++ t.isoSeconds).toList

/-- The header of a document. -/
def header (o : Options) (made : Option Moment) : String :=
  String.intercalate "\n"
    ([rule, "// PRISMA SCHEMA - GENERATED BY SCHEMAFORGE", rule, "// Provider: " ++ o.dialect.name]
      ++ timeLine made
      ++ ["// DO NOT EDIT THIS FILE MANUALLY. Edit the model descriptors and regenerate.", rule])

/-- A text between double quotes as it stands. -/
def enclosed (s : String) : String := "\"" ++ s ++ "\""

/-- A list of enclosed texts in brackets. -/
def enclosedList (items : List String) : String :=
  "[" ++ String.intercalate ", " (items.map enclosed) ++ "]"

/-- An entry of a settings block; its list is left out when it is empty. -/
def listEntry (key : String) (items : List String) : List (String × String) :=
  if items.isEmpty then [] else [(key, enclosedList items)]

/-- A block of settings, one a line, with the equals signs in one column. -/
def settings (opener : String) (entries : List (String × String)) : String :=
  let width := ModelBlock.widest (entries.map (·.1))
  let line := fun (entry : String × String) =>
    ModelBlock.indent ++ ModelBlock.padRight width entry.1 ++ " = " ++ entry.2
  String.intercalate "\n" ((opener ++ " \x7b") :: entries.map line ++ ["\x7d"])

/-- The connection. Its address is always read from the environment. -/
def datasource (o : Options) (schemas : List String) : String :=
  settings "datasource db"
    ([("provider", enclosed o.dialect.name), ("url", "env(" ++ enclosed o.connectionEnv ++ ")")]
      ++ listEntry "schemas" schemas)

/-- The generator of the client. -/
def clientGenerator (o : Options) (previewFeatures : List String) : String :=
  settings "generator client"
    ([("provider", enclosed "prisma-client-js"), ("output", enclosed o.clientOutput)]
      ++ listEntry "binaryTargets" o.binaryTargets
      ++ listEntry "previewFeatures" previewFeatures)

/-- Texts under a banner, or nothing when there are none. -/
def headed (title : String) (texts : List String) : List String :=
  if texts.isEmpty then [] else banner title :: texts

/-- The features that a document in several database schemas needs. -/
def previewFeatures (schemas : List String) : List String :=
  if schemas.isEmpty then [] else ["multiSchema"]

/-- The parts of a document, in order. -/
def parts (o : Options) (made : Option Moment) (sections : List String) (legacy : List Block)
    (schemas : List String) : List String :=
  [header o made, datasource o schemas, clientGenerator o (previewFeatures schemas)]
    ++ headed "LEGACY MODELS (NOT YET DECLARED AS DESCRIPTORS)" (legacy.map (·.text))
    ++ headed "GENERATED MODELS" sections

/-- The text of a document. -/
def assemble (o : Options) (made : Option Moment) (sections : List String) (legacy : List Block)
    (schemas : List String) : String :=
  String.intercalate "\n\n" (parts o made sections legacy schemas) ++ "\n"

end Document

end SchemaCompiler
