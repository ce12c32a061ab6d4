import SchemaCompiler.Document.Formatter
import SchemaCompiler.Proofs.Model.Lookup
import SchemaCompiler.Proofs.Text.OneLine

/-!
# Legible models

What the texts of a model have to be for its block to be read line by line. The texts that stand
before a block or name it have one line and the model's name is a word (`Model.Headed`); for a list
of models with their tables the names, modules and tables will do (`Model.Captioned`). A legible
model also has one line for each text that its members and directives are written from, and no blank
in the names of its members (`Model.Legible`). What a literal default says does not matter, since it
is quoted; only the digits that describe a decimal that is no number are written as they are.
-/

set_option autoImplicit false

namespace SchemaCompiler

open Text (IsName NoBlank OneLine)

/-- The texts of a model that stand before its block or name it. -/
structure Model.Headed (m : Model) : Prop where
  name : IsName m.name
  module : OneLine m.module
  tableName : ∀ t, m.tableName = some t → OneLine t
  description : ∀ t, m.description = some t → OneLine t

/-- A model whose name, module and table have one line. -/
structure Model.Captioned (m : Model) : Prop where
  name : OneLine m.name
  module : OneLine m.module
  tableName : ∀ t, m.tableName = some t → OneLine t

/-- A field whose texts are written on one line. -/
structure Field.Legible (f : Field) : Prop where
  name : NoBlank f.name
  dbType : ∀ t, f.dbType = some t → OneLine t
  dbDefault : ∀ t, f.dbDefault = some t → OneLine t
  payload : ∀ negative signalling digits,
    f.default = .decimal (.nan negative signalling digits) → OneLine digits

/-- A relation whose own name and key hold no blank. -/
structure Relation.Legible (r : Relation) : Prop where
  name : NoBlank r.name
  foreignKey : ∀ key, r.foreignKey = some key → NoBlank key

/-- A model whose texts are written on one line. -/
structure Model.Legible (m : Model) : Prop extends m.Headed where
  fields : ∀ f ∈ m.fields, f.Legible
  relations : ∀ r ∈ m.relations, r.Legible
  primaryKey : ∀ names, m.primaryKey = some names → ∀ name ∈ names, OneLine name
  constraints : ∀ c ∈ m.constraints, ∀ name ∈ c.fields, OneLine name

/-- The foreign key of a legible relation holds no blank. -/
theorem Relation.Legible.expectedForeignKey {r : Relation} (h : r.Legible) :
    NoBlank r.expectedForeignKey := by
  have conventional : NoBlank (Text.foreignKeyName r.name) := h.name.append (by decide)
  unfold Relation.expectedForeignKey
  split
  · next key given =>
    split
    · exact conventional
    · exact h.foreignKey key given
  · exact conventional

namespace Model

variable {m : Model}

theorem Captioned.homeModule (h : m.Captioned) : OneLine m.homeModule := by
  unfold Model.homeModule
  split
  · decide
  · exact h.module

theorem Captioned.table (h : m.Captioned) : OneLine m.table.table := by
  unfold Model.table
  simp only
  split
  · exact Text.oneLine_snakeCase h.name
  · cases named : m.tableName with
    | none => exact (by decide : OneLine "")
    | some t => exact h.tableName t named

/-- The table of a model has a name of one line. -/
theorem Captioned.physicalTable (h : m.Captioned) (f : Formatter) :
    OneLine (f.physicalTable m.table) := by
  unfold Formatter.physicalTable
  split
  · exact h.table
  · exact (h.homeModule.append (by decide)).append h.table

theorem Headed.captioned (h : m.Headed) : m.Captioned := ⟨h.name.oneLine, h.module, h.tableName⟩

/-- The names in a composite key have one line. -/
theorem Legible.compositeKey (h : m.Legible) {names : List String}
    (composite : m.compositeKey = some names) : ∀ name ∈ names, OneLine name :=
  h.primaryKey _ (compositeKey_eq_some_iff.mp composite).1

end Model

end SchemaCompiler
