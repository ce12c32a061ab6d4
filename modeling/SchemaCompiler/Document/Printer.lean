import SchemaCompiler.Document.Basic
import SchemaCompiler.Document.Block
import SchemaCompiler.Document.ModelBlock
import SchemaCompiler.Value.Basic

/-!
# Rendering documents

A document and its parts as values, each part along with its own text.
-/

set_option autoImplicit false

namespace SchemaCompiler

open Value

/-- A member in full. -/
def Column.toValue (c : Column) : Value :=
  record [("name", str c.name), ("type", str c.type.render), ("optional", bool c.optional),
    ("attributes", texts (c.attributes.map (·.render))), ("type_decl", str c.typeText),
    ("render", str c.render)]

/-- An index in full. -/
def Index.toValue (i : Index) : Value :=
  record [("kind", str i.kind.name), ("fields", texts i.fields), ("name", str i.name),
    ("render", str i.render)]

/-- A block in full. -/
def Block.toValue (b : Block) : Value :=
  record [("kind", str b.kind.name), ("name", str b.name), ("text", str b.text)]

/-- The counts of a document and their line. -/
def Summary.toValue (s : Summary) : Value :=
  record [("modules", texts s.modules), ("total_models", int s.models),
    ("total_junctions", int s.junctions), ("total_legacy", int s.legacy),
    ("total_skipped", int s.skipped), ("total_warnings", int s.warnings),
    ("summary", str s.text)]

/-- A document in full. -/
def Document.toValue (d : Document) : Value :=
  record [("content", str d.content), ("warnings", texts d.warnings), ("modules", texts d.modules),
    ("model_count", int d.modelCount), ("junction_count", int d.junctionCount),
    ("skipped_models", texts d.skipped), ("legacy_models", texts d.legacy),
    ("cycles", list (d.cycles.map texts)), ("summary", str d.summary.text)]

end SchemaCompiler
