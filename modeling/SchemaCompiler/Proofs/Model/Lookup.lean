import Mathlib.Data.List.Nodup
import SchemaCompiler.Model.Basic

/-!
# Lookups by name

A name stands for the last model that has it, so models that are added under new names hide none of
the earlier ones (`find?_append_of_forall_ne`). Where names are distinct a name stands for the only
model that has it (`find?_eq_some_iff`), in whatever order the models come (`find?_perm`). The
field that other models reference is the only one of the primary key (`referenceKey_eq_some_iff`).

Examples are made of entities, the least that models and relations can be: a model with an
identifier, and a relation with a kind and a target.
-/

set_option autoImplicit false

namespace SchemaCompiler

/-- A search that accepts some entry finds one that it accepts. -/
theorem exists_find?_of_mem {α : Type} (accepts : α → Bool) {entries : List α} {a : α}
    (mem : a ∈ entries) (accepted : accepts a = true) :
    ∃ b ∈ entries, accepts b = true ∧ entries.find? accepts = some b := by
  obtain ⟨b, found⟩ := Option.isSome_iff_exists.mp (List.find?_isSome.mpr ⟨a, mem, accepted⟩)
  exact ⟨b, List.mem_of_find?_eq_some found, List.find?_some found, found⟩

/-- A search finds the only entry that it accepts. -/
theorem find?_of_unique {α : Type} {accepts : α → Bool} {entries : List α} {a : α}
    (mem : a ∈ entries) (accepted : accepts a = true)
    (unique : ∀ b ∈ entries, accepts b = true → b = a) : entries.find? accepts = some a := by
  cases found : entries.find? accepts with
  | none => exact absurd accepted (List.find?_eq_none.mp found a mem)
  | some b => rw [unique b (List.mem_of_find?_eq_some found) (List.find?_some found)]

/-- A list without duplicates that holds one entry only. -/
theorem eq_singleton_of_unique {α : Type} {entries : List α} {a : α} (distinct : entries.Nodup)
    (mem : a ∈ entries) (unique : ∀ b ∈ entries, b = a) : entries = [a] := by
  refine List.perm_singleton.mp ((List.perm_ext_iff_of_nodup distinct (List.nodup_singleton a)).mpr
    fun b => ⟨fun there => List.mem_singleton.mpr (unique b there), fun same => ?_⟩)
  exact List.mem_singleton.mp same ▸ mem

/-- Where names differ, an entry is the only one of its name. -/
theorem filter_name_eq_singleton {α : Type} {name : α → String} {entries : List α} {a : α}
    (distinct : (entries.map name).Nodup) (mem : a ∈ entries) :
    entries.filter (name · == name a) = [a] := by
  apply eq_singleton_of_unique (distinct.of_map.filter _)
  · exact List.mem_filter.mpr ⟨mem, beq_self_eq_true (name a)⟩
  · intro b within
    obtain ⟨there, same⟩ := List.mem_filter.mp within
    exact List.inj_on_of_nodup_map distinct there mem (eq_of_beq same)

namespace Model

variable {models added : List Model} {name : String} {m : Model}

theorem mem_of_find? (h : Model.find? models name = some m) : m ∈ models :=
  List.mem_reverse.mp (List.mem_of_find?_eq_some h)

theorem name_of_find? (h : Model.find? models name = some m) : m.name = name := by
  simpa only [beq_iff_eq] using List.find?_some h

/-- A name stands for a model exactly if some model has it. -/
theorem find?_isSome_iff : (Model.find? models name).isSome ↔ ∃ m ∈ models, m.name = name := by
  unfold find?
  simp only [List.find?_isSome, List.mem_reverse, beq_iff_eq]

/-- Models that are added hide earlier models of their own names and no others. -/
theorem find?_append :
    Model.find? (models ++ added) name = (Model.find? added name).or (Model.find? models name) := by
  unfold find?
  rw [List.reverse_append, List.find?_append]

theorem find?_append_of_forall_ne (other : ∀ m ∈ added, m.name ≠ name) :
    Model.find? (models ++ added) name = Model.find? models name := by
  cases found : Model.find? added name with
  | none => rw [find?_append, found, Option.none_or]
  | some m => exact absurd (name_of_find? found) (other m (mem_of_find? found))

/-- Among distinct names a name stands for the model that has it. -/
theorem find?_eq_some_iff (names : (models.map (·.name)).Nodup) :
    Model.find? models name = some m ↔ m ∈ models ∧ m.name = name := by
  constructor
  · intro found
    exact ⟨mem_of_find? found, name_of_find? found⟩
  · rintro ⟨mem, rfl⟩
    apply find?_of_unique (List.mem_reverse.mpr mem) (beq_self_eq_true m.name)
    intro other there same
    exact List.inj_on_of_nodup_map names (List.mem_reverse.mp there) mem (eq_of_beq same)

/-- Among fields of distinct names a field is found under its name. -/
theorem field?_of_mem {f : Field} (distinct : m.fieldNames.Nodup) (mem : f ∈ m.fields) :
    m.field? f.name = some f := by
  apply find?_of_unique mem (beq_self_eq_true f.name)
  intro other there same
  exact List.inj_on_of_nodup_map distinct there mem (eq_of_beq same)

theorem field?_eq_none_iff : m.field? name = none ↔ name ∉ m.fieldNames := by
  unfold field? fieldNames
  simp only [List.find?_eq_none, beq_iff_eq, List.mem_map, not_exists, not_and]

/-- Among distinct names the order of the models does not matter. -/
theorem find?_perm {others : List Model} (names : (models.map (·.name)).Nodup)
    (perm : models.Perm others) : Model.find? models = Model.find? others := by
  have names' : (others.map (·.name)).Nodup := (perm.map _).nodup_iff.mp names
  funext name
  apply Option.ext
  intro m
  rw [find?_eq_some_iff names, find?_eq_some_iff names', perm.mem_iff]

/-! ### The fields of the primary key -/

theorem mem_fields_of_mem_primaryKeyFields {f : Field} (mem : f ∈ m.primaryKeyFields) :
    f ∈ m.fields := by
  unfold primaryKeyFields at mem
  split at mem
  · obtain ⟨_, _, found⟩ := List.mem_filterMap.mp mem
    exact List.mem_of_find?_eq_some found
  · split at mem
    · exact List.mem_of_find?_eq_some (Option.mem_toList.mp mem)
    · exact List.mem_of_mem_filter mem

/-- A model has a composite key exactly if it lists some fields for it. -/
theorem compositeKey_eq_some_iff {names : List String} :
    m.compositeKey = some names ↔ m.primaryKey = some names ∧ names ≠ [] := by
  unfold compositeKey
  constructor
  · intro composite
    split at composite
    · next k ks given =>
      cases composite
      exact ⟨given, List.cons_ne_nil k ks⟩
    · cases composite
  · rintro ⟨given, some'⟩
    obtain ⟨k, ks, rfl⟩ := List.exists_cons_of_ne_nil some'
    rw [given]

/-- A composite key consists of the fields that it names. -/
theorem mem_primaryKeyFields_iff_of_composite {f : Field} (distinct : m.fieldNames.Nodup)
    (mem : f ∈ m.fields) {names : List String} (composite : m.compositeKey = some names) :
    f ∈ m.primaryKeyFields ↔ f.name ∈ names := by
  unfold primaryKeyFields
  rw [composite]
  simp only [List.mem_filterMap]
  constructor
  · rintro ⟨name, among, found⟩
    rw [eq_of_beq (List.find?_some found :)]
    exact among
  · intro among
    exact ⟨f.name, among, field?_of_mem distinct mem⟩

/-- Without a composite key the fields of the key are flagged or have the conventional name. -/
theorem flagged_of_mem_primaryKeyFields {f : Field} (single : m.compositeKey = none)
    (mem : f ∈ m.primaryKeyFields) : (f.primaryKey || f.name == "id") = true := by
  unfold primaryKeyFields at mem
  rw [single] at mem
  simp only at mem
  rw [Bool.or_eq_true]
  split at mem
  · exact .inr (List.find?_some (Option.mem_toList.mp mem) :)
  · exact .inl (List.of_mem_filter mem)

/-- The field that others reference is the only one of the primary key. -/
theorem referenceKey_eq_some_iff {key : Field} :
    m.referenceKey = some key ↔ m.compositeKey = none ∧ m.primaryKeyFields = [key] := by
  unfold referenceKey
  split
  · next composite =>
    rw [composite]
    exact iff_of_false nofun nofun
  · next single =>
    rw [single]
    split
    · next only same =>
      rw [same, Option.some.injEq, List.cons.injEq]
      simp only [true_and, and_true]
    · next several => exact iff_of_false nofun fun ⟨_, same⟩ => several key same

/-- The field that others reference is a field of the model. -/
theorem mem_of_referenceKey {key : Field} (h : m.referenceKey = some key) : key ∈ m.fields := by
  obtain ⟨_, only⟩ := referenceKey_eq_some_iff.mp h
  exact mem_fields_of_mem_primaryKeyFields (only ▸ List.mem_cons_self)

end Model

/-! ## Entities -/

/-- A relation of a kind to a target, with everything else left out. -/
def Relation.plain (name : String) (kind : RelationKind) (target : String) : Relation :=
  { name, kind := some kind, target, foreignKey := none, inverse := none, through := none,
    required := false, onDelete := none, description := none }

/-- A field that identifies the rows of a model. -/
def Field.identifier : Field := Field.plain "id" (some (.known .integer))

/-- A model with an identifier and some relations, and everything else left out. -/
def Model.entity (name : String) (relations : List Relation) : Model :=
  { name, module := coreModule, tableName := none, fields := [Field.identifier], relations,
    primaryKey := none, constraints := [], access := none, ownership := none, events := none,
    timestamps := false, description := none }

/-- Entities from their names and relations. -/
def Model.entities (given : List (String × List Relation)) : List Model :=
  given.map fun (name, relations) => .entity name relations

end SchemaCompiler
