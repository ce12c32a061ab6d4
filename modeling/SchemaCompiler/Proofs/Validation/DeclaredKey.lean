import SchemaCompiler.Proofs.Validation.ForeignKey

/-!
# Relations whose keys are declared

A model that declares the foreign keys of all its relations has little left to be found wrong about
them: the check of its relations is clean exactly if their names differ, no field has one of them,
and every key has the type of the key that it references (`checkRelations_declared_iff`).
-/

set_option autoImplicit false

namespace SchemaCompiler.Validation

variable {registered : List Model} {m : Model} {r : Relation} {declared key : Field}

/-- A complete `belongsTo` relation without an explicit junction to a registered model, the key of
that model, and the field that its own model declares for it. -/
structure DeclaresKey (registered : List Model) (m : Model) (r : Relation)
    (declared key : Field) : Prop where
  complete : missingParts r = []
  belongs : r.isBelongsTo = true
  implicit : r.through = none
  target : ∃ t, Model.find? registered r.target = some t ∧ t.referenceKey = some key
  field : m.field? r.expectedForeignKey = some declared

/-- A relation with a declared key passes its check if its name is new and no field's, and the key
has the type of the key that it references. -/
theorem DeclaresKey.passes (declares : DeclaresKey registered m r declared key) {seen : Seen}
    (new : r.name ∉ seen.names) (free : m.field? r.name = none) (same : SameType declared key) :
    ∃ target, RelationPasses registered m r target seen
      ⟨r.name :: seen.names, seen.synthesized⟩ := by
  obtain ⟨target, found, referenced⟩ := declares.target
  refine ⟨target, declares.complete, new, free, found, fun t explicit => ?_, rfl,
    fun _ => ⟨key, referenced, .declared declares.field same⟩, fun _ => rfl⟩
  cases declares.implicit.symm.trans explicit

/-- Relations with declared keys pass their checks if their names are new and differ, no field has
one of them, and the keys have the types of those that they reference. -/
theorem checkRelationsFrom_of_declared {seen : Seen} {rs : List Relation}
    (distinct : (rs.map (·.name)).Nodup)
    (each : ∀ r ∈ rs, r.name ∉ seen.names ∧ m.field? r.name = none ∧
      ∃ declared key, DeclaresKey registered m r declared key ∧ SameType declared key) :
    Clean (checkRelationsFrom registered m seen rs) := by
  induction rs generalizing seen with
  | nil => exact clean_ok_iff.mpr Report.isValid_empty
  | cons r rest ih =>
    obtain ⟨apart, distinct⟩ := List.nodup_cons.mp distinct
    obtain ⟨⟨new, free, declared, key, declares, same⟩, later⟩ := List.forall_mem_cons.mp each
    obtain ⟨target, passes⟩ := declares.passes new free same
    refine checkRelationsFrom_cons_clean_iff.mpr ⟨target, _, passes, ?_⟩
    refine ih distinct fun r' mem => ⟨fun known => ?_, (later r' mem).2⟩
    rcases List.mem_cons.mp known with again | before
    · exact apart (List.mem_map.mpr ⟨r', mem, again⟩)
    · exact (later r' mem).1 before

/-- The relations of a model that declares all their keys pass their check exactly if their names
differ, no field has one of them, and the keys have the types of those that they reference. -/
theorem checkRelations_declared_iff
    (each : ∀ r ∈ m.relations, ∃ declared key, DeclaresKey registered m r declared key) :
    Clean (checkRelations registered m) ↔ (m.relations.map (·.name)).Nodup ∧
      ∀ r ∈ m.relations, m.field? r.name = none ∧
        ∀ declared key, DeclaresKey registered m r declared key → SameType declared key := by
  constructor
  · intro clean
    refine ⟨(checkRelations_clean clean).1, fun r mem => ⟨(checkRelations_free clean r mem).1, ?_⟩⟩
    intro declared key declares
    obtain ⟨t, found, referenced⟩ := declares.target
    obtain ⟨t', key', found', referenced', same⟩ :=
      ((checkRelations_keyed clean).1 r mem).key declares.belongs
    cases found.symm.trans found'
    cases referenced.symm.trans referenced'
    exact same declared declares.field
  · rintro ⟨distinct, apart⟩
    refine checkRelationsFrom_of_declared distinct fun r mem => ⟨List.not_mem_nil, ?_⟩
    obtain ⟨free, same⟩ := apart r mem
    obtain ⟨declared, key, declares⟩ := each r mem
    exact ⟨free, declared, key, declares, same declared key declares⟩

end SchemaCompiler.Validation
