import SchemaCompiler.Proofs.Generation.MemberName
import SchemaCompiler.Proofs.Text.CamelCase

/-!
# Names of columns in the database

The members of a block have distinct names, and the checks that see to it compare these names. Its
columns are stored under the snake_case forms of the names, and several names have one form. So the
columns of a block have distinct names in the database exactly if the names of the fields, of the
synthesized foreign keys and of the audit columns have distinct forms
(`databaseNames_nodup_iff`). They do in a model that keeps to camel case.
-/

set_option autoImplicit false

namespace SchemaCompiler

/-- The name in the database that an attribute gives. -/
def Attribute.map? : Attribute → Option String
  | .map column => some column
  | _ => none

theorem Column.databaseName_eq (c : Column) :
    c.databaseName = (c.attributes.findSome? (·.map?)).getD c.name := rfl

namespace FieldMapper

variable {mapper : FieldMapper} {c : Column}

/-- The column of a field is stored under the snake_case form of its name. -/
theorem databaseName_of_mapField {f : Field} {model : String} {role : ColumnRole}
    (h : mapper.mapField f model role = .ok c) : c.databaseName = Text.snakeCase c.name := by
  obtain ⟨kind, default, native, _, _, _, rfl⟩ := exists_columnOf h
  have stored : (mapper.columnOf f role kind default native).attributes.findSome? (·.map?) =
      if Text.needsColumnMap f.name then some (Text.snakeCase f.name) else none := by
    rw [findSome?_columnOf]
    simp [Attribute.map?, Function.comp_def]
  rw [Column.databaseName_eq, stored]
  show Option.getD _ f.name = Text.snakeCase f.name
  cases mapped : Text.needsColumnMap f.name with
  | true => rfl
  | false => exact (bne_eq_false_iff_eq.mp mapped).symm

theorem databaseName_of_auditColumn {name : String} (h : mapper.auditColumn name = .ok c) :
    c.databaseName = Text.snakeCase c.name := by
  obtain ⟨column, mapped, which⟩ := auditColumn_cases h
  have stored := databaseName_of_mapField mapped
  rcases which with rfl | rfl
  · exact stored
  · exact stored

end FieldMapper

namespace Generation

open Resolver (foreignKeys requiredJunctions)
open Validation (Clean validate)

variable {o : Options} {f : Formatter} {m : Model} {models junctions : List Model}
  {keys : List ForeignKey} {b : ModelBlock}

/-- Every column of a model is stored under the snake_case form of its name. -/
theorem databaseNames_of_columns {cs : List Column} (h : columns o m keys = .ok cs) :
    cs.map (·.databaseName) = (columnNames o m keys).map Text.snakeCase := by
  rw [← names_of_columns h, List.map_map]
  apply List.map_congr_left
  intro c mem
  rcases column_cases h mem with ⟨_, _, here⟩ | ⟨_, _, here⟩ | ⟨_, _, here⟩
  · exact FieldMapper.databaseName_of_mapField here
  · exact FieldMapper.databaseName_of_mapField here
  · exact FieldMapper.databaseName_of_auditColumn here

/-- A synthesized key has the name that a relation expects. -/
theorem exists_expecting (made : foreignKeys m models = .ok keys) {k : ForeignKey}
    (mem : k ∈ keys) :
    ∃ r ∈ m.relations, r.isBelongsTo = true ∧ k.field.name = r.expectedForeignKey := by
  obtain ⟨r, _, _, uses, _⟩ := (Resolver.foreignKeys_stem made).2.1 k mem
  obtain ⟨declared, belongs⟩ := List.mem_filter.mp (List.mem_of_find?_eq_some uses)
  exact ⟨r, declared, belongs, (eq_of_beq (List.find?_some uses :)).symm⟩

/-- The columns of a model are named in camel case if its fields are and its relations expect keys
that are. -/
theorem isCamel_of_mem_columnNames (made : foreignKeys m models = .ok keys)
    (fields : ∀ name ∈ m.fieldNames, Text.IsCamel name)
    (expected : ∀ r ∈ m.relations, r.isBelongsTo = true → Text.IsCamel r.expectedForeignKey) :
    ∀ name ∈ columnNames o m keys, Text.IsCamel name := by
  intro name mem
  rcases List.mem_append.mp mem with own | audit
  · rcases List.mem_append.mp own with field | key
    · exact fields name field
    · obtain ⟨k, within, rfl⟩ := List.mem_map.mp key
      obtain ⟨r, declared, belongs, same⟩ := exists_expecting made (List.mem_of_mem_filter within)
      exact same ▸ expected r declared belongs
  · have camel : ∀ name ∈ FieldMapper.auditNames, Text.IsCamel name := by decide
    exact camel name (free_of_mem_auditNamesOf audit).1

/-- In models that validation accepts, the columns of a block are stored under the snake_case forms
of the names of the fields, the synthesized foreign keys and the audit columns. They have distinct
names in the database exactly if no two of those names have one form, and so they do if the fields
and the foreign keys are named in camel case. -/
theorem databaseNames_nodup_iff {report : Validation.Report}
    (passed : validate models = .ok report) (valid : report.isValid = true)
    (made : requiredJunctions models = .ok junctions) (mem : m ∈ models ++ junctions)
    {resolver : Resolver} (rendered : (block o f resolver m (models ++ junctions)).1 = .ok b) :
    ∃ keys, foreignKeys m (models ++ junctions) = .ok keys ∧
      b.columns.map (·.databaseName) = (columnNames o m keys).map Text.snakeCase ∧
      ((b.columns.map (·.databaseName)).Nodup ↔
        ∀ x ∈ columnNames o m keys, ∀ y ∈ columnNames o m keys,
          Text.snakeCase x = Text.snakeCase y → x = y) ∧
      ((∀ name ∈ m.fieldNames, Text.IsCamel name) →
        (∀ r ∈ m.relations, r.isBelongsTo = true → Text.IsCamel r.expectedForeignKey) →
          (b.columns.map (·.databaseName)).Nodup) := by
  have clean : Clean (validate models) := ⟨report, passed, valid⟩
  rw [block_fst] at rendered
  obtain ⟨keys, keyed, mapped⟩ := (blockUnder_ok rendered).2.1
  have stored := databaseNames_of_columns mapped
  have distinct : (columnNames o m keys).Nodup :=
    columnNames_nodup (fieldNames_nodup clean made mem) keyed
  have apart : (b.columns.map (·.databaseName)).Nodup ↔
      ∀ x ∈ columnNames o m keys, ∀ y ∈ columnNames o m keys,
        Text.snakeCase x = Text.snakeCase y → x = y := by
    rw [stored]
    exact List.nodup_map_iff_inj_on distinct
  refine ⟨keys, keyed, stored, apart, fun fields expected => ?_⟩
  have camel := isCamel_of_mem_columnNames (o := o) keyed fields expected
  apply apart.mpr
  intro x memX y memY same
  exact Text.snakeCase_inj_of_isCamel (camel x memX) (camel y memY) same

/-- A meeting has a start and a host, and is audited. -/
def meeting : Model :=
  { Model.entity "Meeting" [.plain "host" .belongsTo "Customer"] with
    fields := [Field.identifier, Field.plain "startsAt" (some (.known .datetime))]
    timestamps := true }

/-- Meetings and their hosts. -/
def diary : List Model := [customer, meeting]

/-- A meeting is named in camel case, and its columns have names of their own in the database. -/
theorem databaseNames_nodup_iff_meeting : Clean (validate diary) ∧
    requiredJunctions diary = .ok [] ∧ meeting ∈ diary ++ [] ∧
    (∀ name ∈ meeting.fieldNames, Text.IsCamel name) ∧
    (∀ r ∈ meeting.relations, r.isBelongsTo = true → Text.IsCamel r.expectedForeignKey) ∧
    ∃ b, (block unsized layout .fresh meeting (diary ++ [])).1 = .ok b ∧
      b.columns.map (·.databaseName) =
        ["id", "starts_at", "host_id", "created_at", "updated_at", "created_by", "updated_by"] ∧
      (b.columns.map (·.databaseName)).Nodup := by
  have clean : Clean (validate diary) := Validation.clean_of_plain (by decide) rfl (by decide)
  obtain ⟨report, passed, valid⟩ := clean
  have made : requiredJunctions diary = .ok [] := rfl
  have mem : meeting ∈ diary ++ [] :=
    List.mem_append_left [] (List.mem_cons_of_mem _ List.mem_cons_self)
  have fields : ∀ name ∈ meeting.fieldNames, Text.IsCamel name := by decide
  have expected : ∀ r ∈ meeting.relations, r.isBelongsTo = true →
      Text.IsCamel r.expectedForeignKey := by decide
  obtain ⟨b, rendered, names⟩ :
      ∃ b, (block unsized layout .fresh meeting (diary ++ [])).1 = .ok b ∧
        b.columns.map (·.databaseName) =
          ["id", "starts_at", "host_id", "created_at", "updated_at", "created_by",
            "updated_by"] :=
    ⟨_, rfl, rfl⟩
  obtain ⟨_, _, _, _, camel⟩ := databaseNames_nodup_iff passed valid made mem rendered
  exact ⟨⟨report, passed, valid⟩, made, mem, fields, expected, b, rendered, names,
    camel fields expected⟩

/-- An event declares when it was created, under the name that its audit column has in the
database. -/
def event : Model :=
  { Model.entity "Event" [] with
    fields := [Field.identifier, Field.plain "created_at" (some (.known .datetime))]
    timestamps := true }

/-- An event passes validation, and two of the columns of its block have one name in the
database. -/
theorem event_stored_twice : Clean (validate [event]) ∧ requiredJunctions [event] = .ok [] ∧
    ∃ b, (block unsized layout .fresh event ([event] ++ [])).1 = .ok b ∧
      b.columns.map (·.name) =
        ["id", "created_at", "createdAt", "updatedAt", "createdBy", "updatedBy"] ∧
      b.columns.map (·.databaseName) =
        ["id", "created_at", "created_at", "updated_at", "created_by", "updated_by"] ∧
      ¬ (b.columns.map (·.databaseName)).Nodup := by
  have clean : Clean (validate [event]) := Validation.clean_of_plain (by decide) rfl (by decide)
  obtain ⟨b, rendered, names, stored⟩ :
      ∃ b, (block unsized layout .fresh event ([event] ++ [])).1 = .ok b ∧
        b.columns.map (·.name) =
          ["id", "created_at", "createdAt", "updatedAt", "createdBy", "updatedBy"] ∧
        b.columns.map (·.databaseName) =
          ["id", "created_at", "created_at", "updated_at", "created_by", "updated_by"] :=
    ⟨_, rfl, rfl, rfl⟩
  refine ⟨clean, rfl, b, rendered, names, stored, ?_⟩
  rw [stored]
  decide

end Generation

end SchemaCompiler
