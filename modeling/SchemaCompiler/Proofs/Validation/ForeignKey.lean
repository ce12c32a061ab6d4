import SchemaCompiler.Proofs.Validation.Relation

/-!
# Foreign keys that pass their checks

What a clean check of a model's relations says about its foreign keys (`checkRelations_keyed`): each
`belongsTo` relation targets a registered model with a key, a field that the model declares for the
relation has the type of that key, and no two relations synthesize a field of one name.
-/

set_option autoImplicit false

namespace SchemaCompiler.Validation

/-- A relation is complete, and the key that a `belongsTo` relation needs has the type of the key
that it references. -/
structure Keyed (registered : List Model) (m : Model) (r : Relation) : Prop where
  complete : missingParts r = []
  key : r.isBelongsTo = true → ∃ t key, Model.find? registered r.target = some t ∧
    t.referenceKey = some key ∧
      ∀ declared, m.field? r.expectedForeignKey = some declared → SameType declared key

variable {registered : List Model} {m target : Model} {r : Relation}

/-- A declared key that passes has the type of the key that it references. -/
theorem KeyPasses.sameType {key declared : Field} {before after : Synthesized}
    (passes : KeyPasses m r key before after)
    (own : m.field? r.expectedForeignKey = some declared) : SameType declared key := by
  cases passes with
  | declared found same =>
    cases own.symm.trans found
    exact same
  | synthesized undeclared _ _ => cases own.symm.trans undeclared

theorem RelationPasses.isKeyed {seen after : Seen}
    (passes : RelationPasses registered m r target seen after) : Keyed registered m r := by
  refine ⟨passes.complete, fun belongs => ?_⟩
  obtain ⟨key, referenced, keyPasses⟩ := passes.keyed belongs
  exact ⟨target, key, passes.found, referenced, fun _ own => keyPasses.sameType own⟩

theorem checkRelations_keyed (h : Clean (checkRelations registered m)) :
    (∀ r ∈ m.relations, Keyed registered m r) ∧
      ((m.relations.filter (synthesizes m)).map (·.expectedForeignKey)).Nodup := by
  obtain ⟨apart, each⟩ := checkRelationsFrom_clean h
  constructor
  · intro r declared
    obtain ⟨_, _, _, _, passes⟩ := each r declared
    exact passes.isKeyed
  · exact List.pairwise_map.mpr (List.pairwise_filter.mpr
      (apart.imp fun two makes makes' => two.keys makes makes'))

/-- Two relations whose foreign keys are synthesized under one name are the same. -/
theorem eq_of_synthesizes
    (distinct : ((m.relations.filter (synthesizes m)).map (·.expectedForeignKey)).Nodup)
    {a b : Relation} (declaredA : a ∈ m.relations) (belongsA : a.isBelongsTo = true)
    (declaredB : b ∈ m.relations) (belongsB : b.isBelongsTo = true)
    (same : a.expectedForeignKey = b.expectedForeignKey)
    (undeclared : m.field? b.expectedForeignKey = none) : a = b := by
  have among {r : Relation} (declared : r ∈ m.relations) (belongs : r.isBelongsTo = true)
      (expected : r.expectedForeignKey = b.expectedForeignKey) :
      r ∈ m.relations.filter (synthesizes m) := by
    refine List.mem_filter.mpr ⟨declared, ?_⟩
    unfold synthesizes
    rw [belongs, expected, undeclared]
    rfl
  exact List.inj_on_of_nodup_map distinct (among declaredA belongsA same)
    (among declaredB belongsB rfl) same

/-- A complete relation has a kind. -/
theorem Keyed.kind (keyed : Keyed registered m r) : r.kind.isSome = true := by
  have complete := keyed.complete
  unfold missingParts at complete
  simp only [List.append_eq_nil_iff, ite_eq_right_iff, List.cons_ne_self, imp_false] at complete
  cases kind : r.kind with
  | none => simp [kind] at complete
  | some k => rfl

end SchemaCompiler.Validation
