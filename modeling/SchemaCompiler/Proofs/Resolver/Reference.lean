import SchemaCompiler.Proofs.Resolver.Label

/-!
# The keys that members reference

The member of a `belongsTo` relation names a foreign key and the key that it references. A model may
declare one field as the foreign key of several relations. Their members then all reference the key
behind the first of them (`exists_referencingMember`), and the others reference a field that their
own targets need not have. Members reference the keys of their own targets exactly if relations that
share a foreign key have targets whose keys share a name (`referencesOwnKey_iff`). A key that is
synthesized serves one relation only.
-/

set_option autoImplicit false

namespace SchemaCompiler.Resolver

open Junction (Implicit Plan Side)
open Validation (Clean validate)

variable {plan : Plan} {m : Model} {models junctions : List Model} {r : Relation} {c : Column}
  {columns : List Column}

/-- The key that the target of a relation is referenced by. -/
def targetKey (models : List Model) (r : Relation) : Option Field :=
  (Model.find? models r.target).bind (·.referenceKey)

/-- The only member of a relation's name references the key of the relation's own target through the
foreign key of the relation. -/
def ReferencesOwnKey (columns : List Column) (models : List Model) (r : Relation) : Prop :=
  ∃ key c label, targetKey models r = some key ∧ columns.filter (·.name == r.name) = [c] ∧
    c.attributes = [.relation label (some ⟨r.expectedForeignKey, key.name, r.onDelete⟩)]

/-! ## Names of members -/

/-- The members have the names of their relations, in order. -/
theorem names_of_members (rendered : members plan m models = .ok columns) :
    columns.map (·.name) = (m.relations.filter (·.kind.isSome)).map (·.name) := by
  obtain ⟨keys, found, _, all, rfl⟩ := members_ok rendered
  have paired := Outcome.mapM_ok_iff.mp all
  clear rendered all
  generalize m.relations = rs at paired
  induction paired with
  | nil => rfl
  | @cons r own rs found here _ ih =>
    have kind := member_isSome here
    cases own with
    | none =>
      rw [List.filter_cons_of_neg (by rw [← kind]; exact Bool.false_ne_true)]
      exact ih
    | some c =>
      rw [List.filter_cons_of_pos (by rw [← kind]; rfl), List.map_cons, ← ih,
        ← name_of_member here]
      rfl

/-- Where the relations of a model have distinct names, so have its members. -/
theorem members_names_nodup (distinct : (m.relations.map (·.name)).Nodup)
    (rendered : members plan m models = .ok columns) : (columns.map (·.name)).Nodup := by
  rw [names_of_members rendered]
  exact distinct.sublist (List.filter_sublist.map _)

/-- The relation of a side is named for the key of the side. -/
theorem relationNameOf_append (stem : String) : relationNameOf (stem ++ "Id") = stem := by
  unfold relationNameOf
  have reversed : (stem ++ "Id").toList.reverse = 'd' :: 'I' :: stem.toList.reverse := by
    rw [String.toList_append, List.reverse_append]
    rfl
  simp only [reversed, List.reverse_reverse, String.ofList_toList]

theorem exists_stem_of_planned {j : Implicit} (planned : j ∈ (Plan.ofModels models).junctions)
    {s : Side} (side : s ∈ j.sides) : ∃ stem, s.foreignKey = stem ++ "Id" := by
  obtain ⟨x, y, _, _, _, _, _, _, _, made⟩ := Plan.eq_between_of_mem planned
  rw [made] at side
  rcases List.mem_pair.mp side with rfl | rfl
  · exact ⟨_, rfl⟩
  · show ∃ stem, Junction.secondKey j.pair = stem ++ "Id"
    unfold Junction.secondKey
    split <;> exact ⟨_, rfl⟩

/-- The relations of a junction model have distinct names. -/
theorem relationNames_nodup_of_represents {j : Implicit}
    (planned : j ∈ (Plan.ofModels models).junctions) (represents : Represents j m) :
    (m.relations.map (·.name)).Nodup := by
  have named : m.relations.map (·.name) = (j.sides.map (·.foreignKey)).map relationNameOf := by
    rw [represents.relations, List.map_map, List.map_map]
    rfl
  rw [named]
  refine (Plan.foreignKeys_nodup planned).map_on fun a memA b memB same => ?_
  obtain ⟨s, sideS, rfl⟩ := List.mem_map.mp memA
  obtain ⟨t, sideT, rfl⟩ := List.mem_map.mp memB
  obtain ⟨stemS, keyS⟩ := exists_stem_of_planned planned sideS
  obtain ⟨stemT, keyT⟩ := exists_stem_of_planned planned sideT
  rw [keyS, keyT, relationNameOf_append, relationNameOf_append] at same
  rw [keyS, keyT, same]

/-! ## The member of a relation -/

/-- A `belongsTo` relation has one member. It references the key of the foreign key that the model
uses under the name that the relation expects. -/
theorem exists_referencingMember (distinct : (m.relations.map (·.name)).Nodup)
    (rendered : members plan m models = .ok columns) (declared : r ∈ m.relations)
    (belongs : r.isBelongsTo = true) :
    ∃ keys fk target label, foreignKeys m models = .ok keys ∧ fk ∈ keys ∧
      fk.field.name = r.expectedForeignKey ∧ Model.find? models r.target = some target ∧
      columns.filter (·.name == r.name) =
        [{ name := r.name, type := .one target.name
           optional := !(r.required || fk.field.required)
           attributes :=
             [.relation label (some ⟨r.expectedForeignKey, fk.key.name, r.onDelete⟩)] }] := by
  have names := members_names_nodup distinct rendered
  obtain ⟨keys, found, made, all, rfl⟩ := members_ok rendered
  obtain ⟨own, within, here⟩ := Outcome.exists_of_mem_left all declared
  obtain ⟨target, c, registered, rfl, owns⟩ := exists_of_belongsTo belongs here
  have listed : c ∈ found.filterMap id := List.mem_filterMap.mpr ⟨some c, within, rfl⟩
  have only := filter_name_eq_singleton names listed
  rw [name_of_member here] at only
  obtain ⟨label, fk, _, first, rfl⟩ := belongsToMember_eq owns
  exact ⟨keys, fk, target, label, made, List.mem_reverse.mp (List.mem_of_find?_eq_some first),
    eq_of_beq (List.find?_some first :), registered, only⟩

/-- The member of a relation references the key of the relation's own target exactly if that key has
the name of the key behind the first relation that uses the foreign key. -/
theorem referencesOwnKey_iff_behind (distinct : (m.relations.map (·.name)).Nodup)
    (rendered : members plan m models = .ok columns) (declared : r ∈ m.relations)
    (belongs : r.isBelongsTo = true) {key : Field} (referenced : targetKey models r = some key) :
    ReferencesOwnKey columns models r ↔
      ∃ first, keyBehind m models r.expectedForeignKey = some first ∧ first.name = key.name := by
  obtain ⟨keys, fk, target, label, made, among, named, _, only⟩ :=
    exists_referencingMember distinct rendered declared belongs
  have behind := ((foreignKeys_stem made).2.1 fk among).keyBehind
  rw [named] at behind
  constructor
  · rintro ⟨key', c, label', same, only', carried⟩
    cases referenced.symm.trans same
    cases only.symm.trans only'
    simp only [List.cons.injEq, Attribute.relation.injEq, Option.some.injEq, KeyReference.mk.injEq,
      true_and, and_true] at carried
    exact ⟨fk.key, behind, carried.2⟩
  · rintro ⟨first, same, name⟩
    cases behind.symm.trans same
    exact ⟨key, _, label, referenced, only, by rw [name]⟩

/-- The key that a foreign key references is that of the target of some relation that uses it. -/
theorem exists_user (models : List Model) (declared : r ∈ m.relations)
    (belongs : r.isBelongsTo = true) :
    ∃ f ∈ m.relations, f.isBelongsTo = true ∧ f.expectedForeignKey = r.expectedForeignKey ∧
      keyBehind m models r.expectedForeignKey = targetKey models f := by
  have listed : r ∈ m.relationsOf .belongsTo := List.mem_filter.mpr ⟨declared, belongs⟩
  obtain ⟨f, within, uses, first⟩ :=
    exists_find?_of_mem (·.expectedForeignKey == r.expectedForeignKey) listed
      (beq_self_eq_true r.expectedForeignKey)
  obtain ⟨declaredF, belongsF⟩ := List.mem_filter.mp within
  refine ⟨f, declaredF, belongsF, eq_of_beq uses, ?_⟩
  unfold keyBehind
  rw [first]
  rfl

/-- Relations of a model that use one foreign key have targets whose keys have one name. -/
def KeysAlike (models : List Model) (m : Model) : Prop :=
  ∀ a ∈ m.relations, ∀ b ∈ m.relations, a.isBelongsTo = true → b.isBelongsTo = true →
    a.expectedForeignKey = b.expectedForeignKey →
    (targetKey models a).map (·.name) = (targetKey models b).map (·.name)

/-- Where every target has a key, the members of a model reference the keys of their own targets
exactly if relations that share a foreign key have targets whose keys share a name. -/
theorem referencesOwnKey_iff_alike (distinct : (m.relations.map (·.name)).Nodup)
    (keyed : ∀ r ∈ m.relations, r.isBelongsTo = true → ∃ key, targetKey models r = some key)
    (rendered : members plan m models = .ok columns) :
    (∀ r ∈ m.relations, r.isBelongsTo = true → ReferencesOwnKey columns models r) ↔
      KeysAlike models m := by
  constructor
  · intro own a declaredA b declaredB belongsA belongsB same
    obtain ⟨keyA, referencedA⟩ := keyed a declaredA belongsA
    obtain ⟨keyB, referencedB⟩ := keyed b declaredB belongsB
    obtain ⟨first, behind, name⟩ :=
      (referencesOwnKey_iff_behind distinct rendered declaredA belongsA referencedA).mp
        (own a declaredA belongsA)
    obtain ⟨first', behind', name'⟩ :=
      (referencesOwnKey_iff_behind distinct rendered declaredB belongsB referencedB).mp
        (own b declaredB belongsB)
    rw [same] at behind
    cases behind.symm.trans behind'
    rw [referencedA, referencedB, Option.map_some, Option.map_some, ← name, name']
  · intro alike r declared belongs
    obtain ⟨key, referenced⟩ := keyed r declared belongs
    obtain ⟨f, declaredF, belongsF, same, behind⟩ := exists_user models declared belongs
    obtain ⟨first, referencedF⟩ := keyed f declaredF belongsF
    refine (referencesOwnKey_iff_behind distinct rendered declared belongs referenced).mpr
      ⟨first, behind.trans referencedF, ?_⟩
    have names := alike f declaredF r declared belongsF belongs same
    rw [referencedF, referenced] at names
    exact Option.some.inj names

/-- A relation that uses its foreign key alone references the key of its own target. -/
theorem referencesOwnKey_of_only_user (distinct : (m.relations.map (·.name)).Nodup)
    (rendered : members plan m models = .ok columns) (declared : r ∈ m.relations)
    (belongs : r.isBelongsTo = true) {key : Field} (referenced : targetKey models r = some key)
    (only : ∀ f ∈ m.relations, f.isBelongsTo = true →
      f.expectedForeignKey = r.expectedForeignKey → f = r) :
    ReferencesOwnKey columns models r := by
  obtain ⟨f, declaredF, belongsF, same, behind⟩ := exists_user models declared belongs
  rw [only f declaredF belongsF same] at behind
  exact (referencesOwnKey_iff_behind distinct rendered declared belongs referenced).mpr
    ⟨key, behind.trans referenced, rfl⟩

/-! ## Accepted models -/

section Accepted

variable (clean : Clean (validate models)) (made : requiredJunctions models = .ok junctions)

include clean made in
/-- Every `belongsTo` relation targets a registered model with a key. -/
theorem exists_target (mem : m ∈ models ++ junctions) (declared : r ∈ m.relations)
    (belongs : r.isBelongsTo = true) : ∃ t ∈ models, ∃ key,
      Model.find? (models ++ junctions) r.target = some t ∧ t.referenceKey = some key := by
  have accepted := Validation.accepted_of_clean clean
  obtain ⟨t, key, found, referenced⟩ : ∃ t key,
      Model.find? models r.target = some t ∧ t.referenceKey = some key := by
    rcases List.mem_append.mp mem with registered | synthesized
    · obtain ⟨t, found, keyed⟩ := (accepted.resolvable m registered r declared).target
      obtain ⟨key, referenced⟩ := keyed belongs
      exact ⟨t, key, found, referenced⟩
    · obtain ⟨j, planned, represents⟩ := Resolver.exists_represents made synthesized
      rw [represents.relations] at declared
      obtain ⟨s, side, rfl⟩ := List.mem_map.mp declared
      exact (accepted.makeable j planned).participants s side
  exact ⟨t, Model.mem_of_find? found, key, Resolver.find?_beside accepted made found, referenced⟩

include clean made in
/-- The relations of a declared or synthesized model have distinct names. -/
theorem relationNames_nodup (mem : m ∈ models ++ junctions) :
    (m.relations.map (·.name)).Nodup := by
  rcases List.mem_append.mp mem with registered | synthesized
  · exact (Validation.accepted_of_clean clean).distinct m registered
  · obtain ⟨j, planned, represents⟩ := exists_represents made synthesized
    exact relationNames_nodup_of_represents planned represents

include clean made in
/-- A relation of a junction, or one whose foreign key is synthesized, uses its foreign key
alone. -/
theorem only_user (mem : m ∈ models ++ junctions) (declared : r ∈ m.relations)
    (belongs : r.isBelongsTo = true)
    (own : m ∈ junctions ∨ m.field? r.expectedForeignKey = none) {f : Relation}
    (declaredF : f ∈ m.relations) (belongsF : f.isBelongsTo = true)
    (same : f.expectedForeignKey = r.expectedForeignKey) : f = r := by
  by_cases synthesized : m ∈ junctions
  · obtain ⟨j, planned, represents⟩ := exists_represents made synthesized
    rw [represents.relations] at declared declaredF
    exact List.inj_on_of_nodup_map (expectedForeignKeys_nodup planned) declaredF declared same
  · have registered := (List.mem_append.mp mem).resolve_right synthesized
    have sound := (Validation.validate_clean_iff.mp clean).1 m registered
    exact Validation.eq_of_synthesizes (Validation.checkRelations_keyed sound.relations).2
      declaredF belongsF declared belongs same (own.resolve_left synthesized)

end Accepted

/-- In models that validation accepts, every declared or synthesized model has its members unless
the type of some field was never checked. They reference the keys of their own targets, through the
foreign keys that their relations expect, exactly if relations that share a foreign key have targets
whose keys share a name. In particular the member of a relation does if the model is synthesized or
the foreign key of the relation is. -/
theorem referencesOwnKey_iff (names : (models.map (·.name)).Nodup) {report : Validation.Report}
    (passed : validate models = .ok report) (valid : report.isValid = true)
    (made : requiredJunctions models = .ok junctions) (mem : m ∈ models ++ junctions) :
    ((∀ m ∈ models, m.Checked) → ∀ resolver, Asked models junctions resolver → ∃ columns,
      members (resolver.plan (models ++ junctions)).1 m (models ++ junctions) = .ok columns) ∧
    ∀ plan columns, members plan m (models ++ junctions) = .ok columns →
      ((∀ r ∈ m.relations, r.isBelongsTo = true →
          ReferencesOwnKey columns (models ++ junctions) r) ↔
        KeysAlike (models ++ junctions) m) ∧
      ∀ r ∈ m.relations, r.isBelongsTo = true →
        (m ∈ junctions ∨ m.field? r.expectedForeignKey = none) →
        ReferencesOwnKey columns (models ++ junctions) r := by
  have clean : Clean (validate models) := ⟨report, passed, valid⟩
  have accepted := Validation.accepted_of_clean clean
  have distinct := relationNames_nodup clean made mem
  have keyed : ∀ r ∈ m.relations, r.isBelongsTo = true →
      ∃ key, targetKey (models ++ junctions) r = some key := by
    intro r declared belongs
    obtain ⟨t, _, key, found, referenced⟩ := exists_target clean made mem declared belongs
    refine ⟨key, ?_⟩
    unfold targetKey
    rw [found, Option.bind_some, referenced]
  refine ⟨fun checked resolver asked => ?_, fun plan columns rendered => ⟨?_, ?_⟩⟩
  · rw [plan_of_asked accepted made asked]
    exact (exists_members_beside accepted checked names made mem).2
  · exact referencesOwnKey_iff_alike distinct keyed rendered
  · intro r declared belongs own
    obtain ⟨key, referenced⟩ := keyed r declared belongs
    exact referencesOwnKey_of_only_user distinct rendered declared belongs referenced
      fun f declaredF belongsF same => only_user clean made mem declared belongs own declaredF
        belongsF same

/-! ## A key that serves two targets -/

/-- An employee has an identifier. -/
def employee : Model := .entity "Employee" []

/-- A team has a number, and a lead who is its own deputy. -/
def team : Model :=
  { Model.entity "Team"
      [{ Relation.plain "lead" .belongsTo "Employee" with foreignKey := some "leadId" },
        { Relation.plain "deputy" .belongsTo "Employee" with foreignKey := some "leadId" }] with
    fields := [{ Field.plain "number" (some (.known .integer)) with primaryKey := true },
      Field.plain "leadId" (some (.known .integer))] }

/-- A task keeps its owner and its team in one field. -/
def task : Model :=
  { Model.entity "Task"
      [{ Relation.plain "owner" .belongsTo "Employee" with foreignKey := some "ownerId" },
        { Relation.plain "team" .belongsTo "Team" with foreignKey := some "ownerId" }] with
    fields := [Field.identifier, Field.plain "ownerId" (some (.known .integer))] }

/-- Employees, their teams and their tasks. -/
def staffing : List Model := [employee, team, task]

theorem staffing_clean : Clean (validate staffing) :=
  Validation.clean_of_plain (by decide) rfl (by decide)

/-- The lead and the deputy of a team share a foreign key and a target, so both members reference
the key of an employee. -/
theorem referencesOwnKey_team : (staffing.map (·.name)).Nodup ∧
    requiredJunctions staffing = .ok [] ∧ team ∈ staffing ++ [] ∧
    (∃ report, validate staffing = .ok report ∧ report.isValid = true) ∧
    ∃ columns, members (fresh.plan (staffing ++ [])).1 team (staffing ++ []) = .ok columns ∧
      ∀ r ∈ team.relations, ReferencesOwnKey columns (staffing ++ []) r := by
  obtain ⟨report, passed, valid⟩ := staffing_clean
  have names : (staffing.map (·.name)).Nodup := by decide
  have made : requiredJunctions staffing = .ok [] := rfl
  have mem : team ∈ staffing ++ [] := List.mem_cons_of_mem _ List.mem_cons_self
  obtain ⟨columns, rendered⟩ : ∃ columns,
      members (fresh.plan (staffing ++ [])).1 team (staffing ++ []) = .ok columns := ⟨_, rfl⟩
  have own := ((referencesOwnKey_iff names passed valid made mem).2 _ _ rendered).1.mpr
    (by unfold KeysAlike; decide)
  refine ⟨names, made, mem, ⟨report, passed, valid⟩, columns, rendered, fun r declared => ?_⟩
  have belongs : ∀ r ∈ team.relations, r.isBelongsTo = true := by decide
  exact own r declared (belongs r declared)

/-- The owner and the team of a task share a foreign key, and the member of the team references the
key of an employee. -/
theorem task_references_employee : (staffing.map (·.name)).Nodup ∧ Clean (validate staffing) ∧
    requiredJunctions staffing = .ok [] ∧ task ∈ staffing ∧
    ∃ r ∈ task.relations, r.isBelongsTo = true ∧ Model.find? staffing r.target = some team ∧
      ∃ key columns c, team.referenceKey = some key ∧ key.name = "number" ∧
        members (fresh.plan staffing).1 task staffing = .ok columns ∧
        columns.filter (·.name == r.name) = [c] ∧
        c.attributes = [.relation "Task_team" (some ⟨r.expectedForeignKey, "id", r.onDelete⟩)] ∧
        ¬ ReferencesOwnKey columns staffing r := by
  have mem : task ∈ staffing := List.mem_cons_of_mem _ (List.mem_cons_of_mem _ List.mem_cons_self)
  refine ⟨by decide, staffing_clean, rfl, mem, _, List.mem_cons_of_mem _ List.mem_cons_self,
    rfl, rfl, _, _, _, rfl, rfl, rfl, rfl, rfl, ?_⟩
  rintro ⟨key, c, label, referenced, only, carried⟩
  cases referenced
  cases only
  simp only [List.cons.injEq, Attribute.relation.injEq, Option.some.injEq, KeyReference.mk.injEq]
    at carried
  exact absurd carried.1.2.2.1 (by decide)

end SchemaCompiler.Resolver
