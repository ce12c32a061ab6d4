import Mathlib
import SchemaCompiler.Proofs.Junction.Plan
import SchemaCompiler.Proofs.Model.Lookup

/-!
# Plans without problems

When models and their relations have distinct names, planning has no problem exactly if any two
models are joined by no declaration or by two that match (`problems_eq_nil_iff_settled`). Every
declaration then has its side in the one junction of its pair.
-/

set_option autoImplicit false

namespace SchemaCompiler.Junction

/-- No declaration joins two models, or two that match each other do and no other one. -/
def SettledBetween (models : List Model) (a b : String) : Prop :=
  (∀ d, Eligible models d → ¬ d.Joins a b) ∨
    ∃ x y, x ≠ y ∧ x.isMatch y = true ∧ ∀ d, Eligible models d ∧ d.Joins a b ↔ d = x ∨ d = y

namespace Plan

/-- A plan serves models when each pair of them that is declared has one junction, named for the
pair in code point order, whose first side belongs to the first of the pair and whose second to the
second, under keys that differ, and when each declaration finds its side of the junction of its
pair. -/
structure Serves (plan : Plan) (models : List Model) : Prop where
  once : (plan.junctions.map (·.pair)).Nodup
  planned : ∀ a b, (∃ j ∈ plan.junctions, j.pair = canonicalPair a b) ↔
    ∃ d, Eligible models d ∧ d.Joins a b
  named : ∀ j ∈ plan.junctions, j.pair.1 ≤ j.pair.2 ∧ j.name = j.pair.1 ++ "To" ++ j.pair.2
  owned : ∀ j ∈ plan.junctions, j.first.model = j.pair.1 ∧ j.second.model = j.pair.2 ∧
    j.first.foreignKey ≠ j.second.foreignKey
  side : ∀ d, Eligible models d → ∃ j ∈ plan.junctions, j.pair = d.pair ∧
    ∃ s ∈ j.sides, s.junction = j.name ∧ s.model = d.model ∧ s.relation = d.relation.name ∧
      plan.side? d.model d.relation.name = some s

variable {models : List Model}

/-- A side that no other side shares its model and relation with is found by them. -/
theorem side?_of_unique {plan : Plan} {s : Side} (mem : s ∈ plan.allSides)
    (unique : ∀ t ∈ plan.allSides, t.model = s.model → t.relation = s.relation → t = s) :
    plan.side? s.model s.relation = some s := by
  refine find?_of_unique (List.mem_reverse.mpr mem) ?_ fun t there accepted => ?_
  · simp only [beq_self_eq_true, Bool.and_self]
  · simp only [Bool.and_eq_true, beq_iff_eq] at accepted
    exact unique t (List.mem_reverse.mp there) accepted.1 accepted.2

/-- A side with the model and the relation of a declaration is a side of the junction of its
pair. -/
theorem mem_sides_of_declared (names : (models.map (·.name)).Nodup)
    (relations : ∀ m ∈ models, (m.relations.map (·.name)).Nodup) {d : Declaration}
    (eligible : Eligible models d) {j : Implicit} (mem : j ∈ (ofModels models).junctions)
    (joined : j.pair = d.pair) {s : Side} (there : s ∈ (ofModels models).allSides)
    (model : s.model = d.model) (relation : s.relation = d.relation.name) : s ∈ j.sides := by
  obtain ⟨j', mem', within⟩ := List.mem_flatMap.mp there
  obtain ⟨x, y, ex, ey, _, px, py, mx, my, made⟩ := eq_between_of_mem mem'
  have same : j'.pair = d.pair := by
    have sides := within
    rw [made] at sides
    rcases List.mem_pair.mp sides with rfl | rfl
    · rw [← px, eligible_unique names relations ex eligible (mx.trans model) relation]
    · rw [← py, eligible_unique names relations ey eligible (my.trans model) relation]
  exact List.inj_on_of_nodup_map junctions_pairs_nodup mem mem' (joined.trans same.symm) ▸ within

/-- The two declarations behind a junction. -/
theorem exists_partners (names : (models.map (·.name)).Nodup)
    (relations : ∀ m ∈ models, (m.relations.map (·.name)).Nodup)
    (clear : (ofModels models).problems = []) {d : Declaration} (eligible : Eligible models d) :
    ∃ x y, x ≠ y ∧ x.isMatch y = true ∧
      (∀ e, Eligible models e ∧ e.pair = d.pair ↔ e = x ∨ e = y) ∧
      x.model = d.pair.1 ∧ y.model = d.pair.2 ∧
        .between d.pair x.relation.name y.relation.name ∈ (ofModels models).junctions := by
  obtain ⟨x, y, group, fits, first, second, planned⟩ := exists_junction clear eligible
  have nodup := nodup_groupOf names relations d.pair
  refine ⟨x, y, ?_, fits, fun e => ?_, first, second, planned⟩
  · rintro rfl
    rcases group with group | group <;>
      exact (List.nodup_cons.mp (group ▸ nodup)).1 List.mem_cons_self
  · rw [← mem_groupOf]
    rcases group with group | group <;> rw [group, List.mem_pair]
    exact or_comm

/-- Where there is no problem every declaration finds its side. -/
theorem side_of_eligible (names : (models.map (·.name)).Nodup)
    (relations : ∀ m ∈ models, (m.relations.map (·.name)).Nodup)
    (clear : (ofModels models).problems = []) {d : Declaration} (eligible : Eligible models d) :
    ∃ j ∈ (ofModels models).junctions, j.pair = d.pair ∧
      ∃ s ∈ j.sides, s.junction = j.name ∧ s.model = d.model ∧ s.relation = d.relation.name ∧
        (ofModels models).side? d.model d.relation.name = some s := by
  obtain ⟨x, y, differs, _, group, first, second, mem⟩ :=
    exists_partners names relations clear eligible
  -- the two relations differ where the models do not, so each side is found by its own
  have apart : ¬ (x.model = y.model ∧ x.relation.name = y.relation.name) := fun same =>
    differs (eligible_unique names relations ((group x).mpr (.inl rfl)).1
      ((group y).mpr (.inr rfl)).1 same.1 same.2)
  refine ⟨_, mem, rfl, ?_⟩
  rcases (group d).mp ⟨eligible, rfl⟩ with rfl | rfl
  · refine ⟨_, List.mem_cons_self, rfl, first.symm, rfl, ?_⟩
    rw [first]
    refine side?_of_unique (List.mem_flatMap.mpr ⟨_, mem, List.mem_cons_self⟩)
      fun t there model relation => ?_
    have within := mem_sides_of_declared names relations eligible mem rfl there
      (model.trans first.symm) relation
    refine (List.mem_pair.mp within).resolve_right fun other => apart ?_
    rw [other] at model relation
    exact ⟨first.trans (model.symm.trans second.symm), relation.symm⟩
  · refine ⟨_, List.mem_cons_of_mem _ List.mem_cons_self, rfl, second.symm, rfl, ?_⟩
    rw [second]
    refine side?_of_unique
      (List.mem_flatMap.mpr ⟨_, mem, List.mem_cons_of_mem _ List.mem_cons_self⟩)
      fun t there model relation => ?_
    have within := mem_sides_of_declared names relations eligible mem rfl there
      (model.trans second.symm) relation
    refine (List.mem_pair.mp within).resolve_left fun other => apart ?_
    rw [other] at model relation
    exact ⟨first.trans (model.trans second.symm), relation⟩

/-- Where there is no problem the plan serves the models. -/
theorem serves_of_clear (names : (models.map (·.name)).Nodup)
    (relations : ∀ m ∈ models, (m.relations.map (·.name)).Nodup)
    (clear : (ofModels models).problems = []) : (ofModels models).Serves models where
  once := junctions_pairs_nodup
  planned := fun a b => by
    constructor
    · rintro ⟨j, mem, joined⟩
      obtain ⟨x, _, eligible, _, _, pair, _⟩ := eq_between_of_mem mem
      exact ⟨x, eligible, Declaration.pair_eq_iff.mp (pair.trans joined)⟩
    · rintro ⟨d, eligible, joins⟩
      obtain ⟨_, _, _, _, _, _, _, mem⟩ := exists_partners names relations clear eligible
      exact ⟨_, mem, Declaration.pair_eq_iff.mpr joins⟩
  named := fun j mem => by
    obtain ⟨x, _, _, _, _, pair, _, _, _, made⟩ := eq_between_of_mem mem
    exact ⟨pair ▸ canonicalPair_le _ _, made ▸ rfl⟩
  owned := fun j mem => by
    obtain ⟨_, _, _, _, _, _, _, _, _, made⟩ := eq_between_of_mem mem
    rw [made]
    exact ⟨rfl, rfl, firstKey_ne_secondKey _⟩
  side := fun _ => side_of_eligible names relations clear

/-- Planning has no problem exactly if any two models are settled between them, and the plan then
serves the models. -/
theorem problems_eq_nil_iff_settled (names : (models.map (·.name)).Nodup)
    (relations : ∀ m ∈ models, (m.relations.map (·.name)).Nodup) :
    ((ofModels models).problems = [] ↔
      ∀ a ∈ models.map (·.name), ∀ b ∈ models.map (·.name), SettledBetween models a b) ∧
    ((ofModels models).problems = [] → (ofModels models).Serves models) := by
  refine ⟨⟨fun clear a _ b _ => ?_, fun settled => ?_⟩, serves_of_clear names relations⟩
  · by_cases declared : ∃ d, Eligible models d ∧ d.Joins a b
    · obtain ⟨d, eligible, joins⟩ := declared
      obtain ⟨x, y, differs, fits, group, _⟩ := exists_partners names relations clear eligible
      refine .inr ⟨x, y, differs, fits, fun e => ?_⟩
      rw [← Declaration.pair_eq_iff, ← Declaration.pair_eq_iff.mpr joins]
      exact group e
    · exact .inl fun d eligible joins => declared ⟨d, eligible, joins⟩
  · refine problems_eq_nil_iff.mpr fun pair listed => ?_
    obtain ⟨d, eligible, rfl⟩ := mem_pairs.mp listed
    obtain ⟨m, mem, name, _⟩ := eligible.declared
    obtain ⟨t, there, target⟩ := eligible.registered
    rcases settled d.model (name ▸ List.mem_map_of_mem mem) d.relation.target
      (target ▸ List.mem_map_of_mem there) with none | ⟨x, y, differs, fits, only⟩
    · exact absurd (Declaration.pair_eq_iff.mp rfl) (none d eligible)
    · have group : (groupOf models d.pair).Perm [x, y] := by
        refine (List.perm_ext_iff_of_nodup (nodup_groupOf names relations _)
          (List.nodup_cons.mpr ⟨fun same => differs (List.mem_singleton.mp same),
            List.nodup_singleton y⟩)).mpr fun e => ?_
        rw [mem_groupOf, List.mem_pair, ← only e, ← Declaration.pair_eq_iff]
        rfl
      rcases List.perm_pair.mp group with same | same
      · exact ⟨x, y, same, fits⟩
      · exact ⟨y, x, same, x.isMatch_comm y ▸ fits⟩

/-- Users who follow each other and share tags. -/
def social : List Model :=
  [.entity "User"
    [.plain "tags" .manyToMany "Tag",
      { Relation.plain "follows" .manyToMany "User" with inverse := some "followers" },
      .plain "followers" .manyToMany "User"],
  .entity "Tag" [.plain "users" .manyToMany "User"]]

theorem problems_eq_nil_iff_settled_social : (social.map (·.name)).Nodup ∧
    (∀ m ∈ social, (m.relations.map (·.name)).Nodup) ∧
    (ofModels social).problems = [] ∧ (ofModels social).Serves social := by
  have names : (social.map (·.name)).Nodup := by decide
  have relations : ∀ m ∈ social, (m.relations.map (·.name)).Nodup := by decide
  have clear : (ofModels social).problems = [] := by cbv
  exact ⟨names, relations, clear, (problems_eq_nil_iff_settled names relations).2 clear⟩

end Plan

end SchemaCompiler.Junction
