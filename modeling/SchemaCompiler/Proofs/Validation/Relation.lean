import Mathlib.Data.List.Nodup
import SchemaCompiler.Proofs.Validation.RelationCheck

/-!
# Relations that pass their checks

A clean check of the relations of a model is one in which each of them passes after those before it,
and those after it keep away from its name and that of its key (`checkRelationsFrom_clean`). So the
names of the relations differ, and every model that a relation names is registered, the target of a
`belongsTo` with a key to reference (`checkRelations_clean`). No relation has the name of a field,
and none that of a key that is synthesized for the model, whichever of the two relations comes first
(`checkRelations_free`).
-/

set_option autoImplicit false

namespace SchemaCompiler.Validation

variable {registered : List Model} {m target target' : Model} {r r' : Relation}
  {seen after before after' : Seen}

/-! ## One relation -/

/-- Whatever a relation names is registered, and a target that a key has to reference has one. -/
structure Resolvable (registered : List Model) (r : Relation) : Prop where
  target : ∃ t, Model.find? registered r.target = some t ∧
    (r.isBelongsTo = true → ∃ key, t.referenceKey = some key)
  through : ∀ t, r.through = some t → ∃ junction, Model.find? registered t.model = some junction

/-- A relation synthesizes its foreign key when its model does not declare it. -/
def synthesizes (m : Model) (r : Relation) : Bool :=
  r.isBelongsTo && (m.field? r.expectedForeignKey).isNone

/-- A clean check of an explicit junction finds it registered. -/
theorem checkThrough_clean {t : Through} (h : (checkThrough registered m r t).isValid = true) :
    ∃ junction, Model.find? registered t.model = some junction := by
  unfold checkThrough at h
  split at h
  · cases h
  · next junction found => exact ⟨junction, found⟩

theorem RelationPasses.resolvable (passes : RelationPasses registered m r target seen after) :
    Resolvable registered r := by
  refine ⟨⟨target, passes.found, fun belongs => ?_⟩, fun t declared => ?_⟩
  · obtain ⟨key, referenced, _⟩ := passes.keyed belongs
    exact ⟨key, referenced⟩
  · exact checkThrough_clean (passes.through t declared)

/-- A key that is synthesized for a relation that passes has a name that is new and no relation's,
and the name is remembered. -/
theorem RelationPasses.synthesized (passes : RelationPasses registered m r target seen after)
    (makes : synthesizes m r = true) :
    r.expectedForeignKey ∉ seen.synthesized.map (·.1) ∧
      r.expectedForeignKey ∈ after.synthesized.map (·.1) ∧
      m.relation? r.expectedForeignKey = none := by
  obtain ⟨belongs, undeclared⟩ := Bool.and_eq_true_iff.mp makes
  obtain ⟨key, _, keyPasses⟩ := passes.keyed belongs
  generalize after.synthesized = left at keyPasses ⊢
  cases keyPasses with
  | declared own _ =>
    rw [own] at undeclared
    cases undeclared
  | synthesized _ new free =>
    refine ⟨new, ?_, free⟩
    rw [List.map_append]
    exact List.mem_append_right _ List.mem_cons_self

/-- A complete many-to-many relation without an explicit junction passes its check if its name is
new and no field's, and its target registered. -/
theorem RelationPasses.of_manyToMany (complete : missingParts r = []) (new : r.name ∉ seen.names)
    (free : m.field? r.name = none) (found : Model.find? registered r.target = some target)
    (implicit : r.through = none) (many : r.kind = some .manyToMany) :
    RelationPasses registered m r target seen ⟨r.name :: seen.names, seen.synthesized⟩ := by
  have other : r.isBelongsTo = false := by
    unfold Relation.isBelongsTo
    rw [many]
    rfl
  refine ⟨complete, new, free, found, fun t declared => ?_, rfl, fun belongs => ?_, fun _ => rfl⟩
  · cases implicit.symm.trans declared
  · cases other.symm.trans belongs

/-! ## One relation after another -/

/-- What was seen before is seen later. -/
structure Seen.Within (a b : Seen) : Prop where
  names : a.names ⊆ b.names
  synthesized : a.synthesized ⊆ b.synthesized

theorem Seen.Within.refl (a : Seen) : a.Within a := ⟨List.Subset.refl _, List.Subset.refl _⟩

theorem Seen.Within.trans {a b c : Seen} (ab : a.Within b) (bc : b.Within c) : a.Within c :=
  ⟨List.Subset.trans ab.names bc.names, List.Subset.trans ab.synthesized bc.synthesized⟩

/-- The check of a relation forgets nothing. -/
theorem RelationPasses.within (passes : RelationPasses registered m r target seen after) :
    seen.Within after := by
  constructor
  · rw [passes.names]
    exact List.subset_cons_self _ _
  · cases belongs : r.isBelongsTo with
    | false =>
      rw [passes.unkeyed belongs]
      exact List.Subset.refl _
    | true =>
      obtain ⟨key, _, keyPasses⟩ := passes.keyed belongs
      generalize after.synthesized = left at keyPasses ⊢
      cases keyPasses with
      | declared _ _ => exact List.Subset.refl _
      | synthesized _ _ _ => exact List.subset_append_left _ _

/-- Two relations of a model have different names, and so have the keys that are synthesized for
them. -/
structure NamedApart (m : Model) (a b : Relation) : Prop where
  names : a.name ≠ b.name
  keys : synthesizes m a = true → synthesizes m b = true →
    a.expectedForeignKey ≠ b.expectedForeignKey

/-- A relation that passes later has names of its own. -/
theorem RelationPasses.apart (passes : RelationPasses registered m r target seen after)
    (within : after.Within before) (passes' : RelationPasses registered m r' target' before after') :
    NamedApart m r r' := by
  constructor
  · intro same
    refine passes'.new (within.names ?_)
    rw [passes.names, same]
    exact List.mem_cons_self
  · intro makes makes' same
    obtain ⟨new, _, _⟩ := passes'.synthesized makes'
    obtain ⟨_, remembered, _⟩ := passes.synthesized makes
    exact new (same ▸ List.map_subset _ within.synthesized remembered)

/-- A check of relations is clean exactly if the first one passes and then that of the rest is clean,
after what the first one leaves behind. -/
theorem checkRelationsFrom_cons_clean_iff {rest : List Relation} :
    Clean (checkRelationsFrom registered m seen (r :: rest)) ↔
      ∃ target after, RelationPasses registered m r target seen after ∧
        Clean (checkRelationsFrom registered m after rest) := by
  constructor
  · intro h
    obtain ⟨⟨report, after⟩, checked, remaining⟩ := clean_bind_iff.mp h
    obtain ⟨later, continued, both⟩ := clean_bind_iff.mp remaining
    have valid := clean_ok_iff.mp both
    rw [Report.isValid_append, Bool.and_eq_true] at valid
    obtain ⟨target, passes⟩ := checkRelation_clean_iff.mp ⟨report, checked, valid.1⟩
    exact ⟨target, after, passes, later, continued, valid.2⟩
  · rintro ⟨target, after, passes, later, continued, valid'⟩
    obtain ⟨report, checked, valid⟩ := checkRelation_clean_iff.mpr ⟨target, passes⟩
    refine clean_bind_iff.mpr ⟨_, checked, clean_bind_iff.mpr ⟨_, continued, clean_ok_iff.mpr ?_⟩⟩
    rw [Report.isValid_append, valid, valid', Bool.and_self]

/-- In a clean check of relations each passes after some others, and those after it keep away from
its names. -/
theorem checkRelationsFrom_clean {rs : List Relation}
    (h : Clean (checkRelationsFrom registered m seen rs)) :
    rs.Pairwise (NamedApart m) ∧ ∀ r ∈ rs, ∃ target before after, seen.Within before ∧
      RelationPasses registered m r target before after := by
  induction rs generalizing seen with
  | nil => exact ⟨.nil, fun _ mem => nomatch mem⟩
  | cons r rest ih =>
    obtain ⟨target, after, passes, later⟩ := checkRelationsFrom_cons_clean_iff.mp h
    obtain ⟨apart, each⟩ := ih later
    constructor
    · refine .cons (fun r' mem => ?_) apart
      obtain ⟨_, _, _, within, passes'⟩ := each r' mem
      exact passes.apart within passes'
    · refine List.forall_mem_cons.mpr ⟨⟨target, seen, after, .refl seen, passes⟩, fun r' mem => ?_⟩
      obtain ⟨target', before, after', within, passes'⟩ := each r' mem
      exact ⟨target', before, after', passes.within.trans within, passes'⟩

/-! ## The relations of a model -/

theorem checkRelations_clean (h : Clean (checkRelations registered m)) :
    (m.relations.map (·.name)).Nodup ∧ ∀ r ∈ m.relations, Resolvable registered r := by
  obtain ⟨apart, each⟩ := checkRelationsFrom_clean h
  refine ⟨List.pairwise_map.mpr (apart.imp fun two => two.names), fun r declared => ?_⟩
  obtain ⟨_, _, _, _, passes⟩ := each r declared
  exact passes.resolvable

/-- In a clean check of relations none has the name of a field, and none that of a synthesized
key. -/
theorem checkRelations_free (h : Clean (checkRelations registered m)) : ∀ r ∈ m.relations,
    m.field? r.name = none ∧
      (synthesizes m r = true → m.relation? r.expectedForeignKey = none) := by
  intro r declared
  obtain ⟨_, _, _, _, passes⟩ := (checkRelationsFrom_clean h).2 r declared
  refine ⟨passes.free, fun makes => ?_⟩
  obtain ⟨_, _, free⟩ := passes.synthesized makes
  exact free

end SchemaCompiler.Validation
