import SchemaCompiler.Proofs.Generation.Optional
import SchemaCompiler.Proofs.Validation.ForeignKey

/-!
# Names of members

The members of a block come from four sources: the fields of its model, the foreign keys that are
synthesized, the audit columns and the relations. Each source has distinct names of its own, and the
columns keep out of each other's way, as the audit columns keep out of the way of the relations. So
the members have distinct names exactly if no relation has the name of a field or of a synthesized
key (`memberNames_nodup_iff`). Validation sees to that for the models that are declared
(`memberNames_nodup`). The models of junctions are not validated, and one may have a relation of
the name of its other side's key (`memberNames_nodup_iff_of_junction`).
-/

set_option autoImplicit false

namespace SchemaCompiler.Generation

open Junction (Plan)
open Resolver (foreignKeys requiredJunctions)
open Validation (Clean validate)

variable {o : Options} {f : Formatter} {plan : Plan} {m : Model} {models junctions : List Model}
  {keys : List ForeignKey} {b : ModelBlock}

/-! ## The sources of the names -/

/-- Where the fields of a model have distinct names and its relations have kinds and distinct names,
the members of its block have distinct names exactly if no relation has the name of a field or of a
synthesized key. -/
theorem memberNames_nodup_iff (fields : m.fieldNames.Nodup)
    (relations : (m.relations.map (·.name)).Nodup) (kinds : ∀ r ∈ m.relations, r.kind.isSome = true)
    (rendered : blockUnder o f plan m models = .ok b) (made : foreignKeys m models = .ok keys) :
    (b.members.map (·.name)).Nodup ↔ ∀ r ∈ m.relations,
      r.name ∉ m.fieldNames ∧ r.name ∉ (synthesizedKeys keys).map (·.field.name) := by
  obtain ⟨_, ⟨keys', made', mapped⟩, listed⟩ := blockUnder_ok rendered
  cases made.symm.trans made'
  have names := names_of_columns (by exact mapped)
  have columns : (b.columns.map (·.name)).Nodup := names ▸ columnNames_nodup fields made
  have members : b.relations.map (·.name) = m.relations.map (·.name) := by
    rw [Resolver.names_of_members listed, List.filter_eq_self.mpr kinds]
  unfold columnNames at names
  unfold ModelBlock.members
  rw [List.map_append, members, List.nodup_append]
  constructor
  · rintro ⟨_, _, apart⟩ r declared
    have other {name : String} (column : name ∈ b.columns.map (·.name)) : r.name ≠ name :=
      (apart name column r.name (List.mem_map_of_mem declared)).symm
    rw [names] at other
    exact ⟨fun field => other (List.mem_append_left _ (List.mem_append_left _ field)) rfl,
      fun key => other (List.mem_append_left _ (List.mem_append_right _ key)) rfl⟩
  · intro apart
    refine ⟨columns, relations, ?_⟩
    rintro name column _ relation rfl
    obtain ⟨r, declared, rfl⟩ := List.mem_map.mp relation
    obtain ⟨field, key⟩ := apart r declared
    rw [names] at column
    rcases List.mem_append.mp column with own | audited
    · exact (List.mem_append.mp own).elim field key
    · exact (free_of_mem_auditNamesOf audited).2 (List.mem_append_right _ relation)

section Accepted

variable (clean : Clean (validate models)) (made : requiredJunctions models = .ok junctions)

include clean in
/-- No relation of a registered model has the name of a field. -/
theorem relationName_not_field (mem : m ∈ models) {r : Relation} (declared : r ∈ m.relations) :
    r.name ∉ m.fieldNames := by
  have sound := (Validation.validate_clean_iff.mp clean).1 m mem
  exact Model.field?_eq_none_iff.mp (Validation.checkRelations_free sound.relations r declared).1

include clean in
/-- No relation of a registered model has the name of a foreign key that is synthesized. -/
theorem relationName_not_synthesized (mem : m ∈ models)
    (keyed : foreignKeys m (models ++ junctions) = .ok keys) {r : Relation}
    (declared : r ∈ m.relations) : r.name ∉ (synthesizedKeys keys).map (·.field.name) := by
  have sound := (Validation.validate_clean_iff.mp clean).1 m mem
  intro key
  obtain ⟨fk, within, same⟩ := List.mem_map.mp key
  obtain ⟨among, synthesized⟩ := List.mem_filter.mp within
  -- the key stems from a relation that synthesizes it, and no relation has its name
  obtain ⟨user, _, _, uses, _, _, here⟩ := (Resolver.foreignKeys_stem keyed).2.1 fk among
  obtain ⟨declaredU, belongs⟩ := List.mem_filter.mp (List.mem_of_find?_eq_some uses)
  have expected : user.expectedForeignKey = fk.field.name := eq_of_beq (List.find?_some uses :)
  obtain ⟨_, ⟨_, other⟩ | ⟨undeclared, _⟩⟩ := Resolver.foreignKeyOf_cases here
  · cases synthesized.symm.trans other
  · have makes : Validation.synthesizes m user = true := by
      unfold Validation.synthesizes Relation.isBelongsTo
      rw [belongs, undeclared]
      rfl
    have free := (Validation.checkRelations_free sound.relations user declaredU).2 makes
    rw [expected] at free
    exact List.find?_eq_none.mp free r declared (beq_iff_eq.mpr same.symm)

include clean made in
/-- The members of a junction's block have distinct names exactly if no relation of the junction has
the name of one of its keys. -/
theorem memberNames_nodup_iff_of_junction (mem : m ∈ junctions)
    (rendered : blockUnder o f plan m (models ++ junctions) = .ok b) :
    (b.members.map (·.name)).Nodup ↔ ∀ r ∈ m.relations, r.name ∉ m.fieldNames := by
  have within := List.mem_append_right models mem
  have kinds : ∀ r ∈ m.relations, r.kind.isSome = true := by
    intro r declared
    obtain ⟨_, _, _, _, rfl, _⟩ := exists_side clean made mem declared
    rfl
  obtain ⟨keys, keyed, _⟩ := (blockUnder_ok rendered).2.1
  -- a junction declares the keys of its relations, so that none is synthesized
  have declares : synthesizedKeys keys = [] := by
    refine List.filter_eq_nil_iff.mpr fun fk among synthesized => ?_
    obtain ⟨user, _, _, uses, _, _, here⟩ := (Resolver.foreignKeys_stem keyed).2.1 fk among
    obtain ⟨declared, _⟩ := List.mem_filter.mp (List.mem_of_find?_eq_some uses)
    obtain ⟨_, _, _, _, _, field, _⟩ := exists_side clean made mem declared
    obtain ⟨_, ⟨_, other⟩ | ⟨undeclared, _⟩⟩ := Resolver.foreignKeyOf_cases here
    · cases synthesized.symm.trans other
    · cases field.symm.trans undeclared
  rw [memberNames_nodup_iff (fieldNames_nodup clean made within)
    (Resolver.relationNames_nodup clean made within) kinds rendered keyed, declares, List.map_nil]
  simp only [List.not_mem_nil, not_false_eq_true, and_true]

end Accepted

/-- In models that validation accepts, the members of every registered model's block have distinct
names: the columns of its fields, of its synthesized foreign keys and of the audit, and the
relations, all together. -/
theorem memberNames_nodup {report : Validation.Report} (passed : validate models = .ok report)
    (valid : report.isValid = true) (made : requiredJunctions models = .ok junctions)
    (mem : m ∈ models) {resolver : Resolver}
    (rendered : (block o f resolver m (models ++ junctions)).1 = .ok b) :
    (b.members.map (·.name)).Nodup := by
  have clean : Clean (validate models) := ⟨report, passed, valid⟩
  have within := List.mem_append_left junctions mem
  have sound := (Validation.validate_clean_iff.mp clean).1 m mem
  have keyed := (Validation.checkRelations_keyed sound.relations).1
  rw [block_fst] at rendered
  obtain ⟨keys, named, _⟩ := (blockUnder_ok rendered).2.1
  refine (memberNames_nodup_iff (fieldNames_nodup clean made within)
    (Resolver.relationNames_nodup clean made within) (fun r declared => (keyed r declared).kind)
    rendered named).mpr fun r declared => ?_
  exact ⟨relationName_not_field clean mem declared,
    relationName_not_synthesized clean mem named declared⟩

/-- A jotting says when it was written and who wrote it, and is audited. -/
def jotting : Model :=
  { Model.entity "Jotting" [.plain "createdBy" .belongsTo "Customer"] with
    fields := [Field.identifier, Field.plain "createdAt" (some (.known .datetime))]
    timestamps := true }

/-- Jottings and those who write them. -/
def notebook : List Model := [customer, jotting]

/-- The audit columns of a jotting leave out what its fields and its relation are named. -/
theorem memberNames_nodup_jotting : Clean (validate notebook) ∧
    requiredJunctions notebook = .ok [] ∧ jotting ∈ notebook ∧
    ∃ b, (block unsized layout .fresh jotting (notebook ++ [])).1 = .ok b ∧
      b.members.map (·.name) =
        ["id", "createdAt", "createdById", "updatedAt", "updatedBy", "createdBy"] ∧
      (b.members.map (·.name)).Nodup := by
  have clean : Clean (validate notebook) := Validation.clean_of_plain (by decide) rfl (by decide)
  obtain ⟨report, passed, valid⟩ := clean
  have made : requiredJunctions notebook = .ok [] := rfl
  have mem : jotting ∈ notebook := List.mem_cons_of_mem _ List.mem_cons_self
  obtain ⟨b, rendered, names⟩ :
      ∃ b, (block unsized layout .fresh jotting (notebook ++ [])).1 = .ok b ∧
        b.members.map (·.name) =
          ["id", "createdAt", "createdById", "updatedAt", "updatedBy", "createdBy"] :=
    ⟨_, rfl, rfl⟩
  exact ⟨⟨report, passed, valid⟩, made, mem, b, rendered, names,
    memberNames_nodup passed valid made mem rendered⟩

end SchemaCompiler.Generation
