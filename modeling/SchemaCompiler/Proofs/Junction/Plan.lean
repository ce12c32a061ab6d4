import Mathlib.Data.List.Nodup
import SchemaCompiler.Proofs.Junction.Pairing
import SchemaCompiler.Proofs.Text.Case
import SchemaCompiler.Proofs.Text.Order

/-!
# Junction plans

The plan of a list of models has one junction for each pair of models that declares a many-to-many
relation without an explicit junction from both sides, and a problem for everything else
(`Plan.problems_eq_nil_iff`). A junction is determined by its pair and by the two relations that
use it: its name and its two foreign keys are made from the pair alone (`Implicit.between`).
-/

set_option autoImplicit false

namespace SchemaCompiler.Junction

/-! ## The junction of a pair -/

/-- The foreign key to the first model of a pair. -/
def firstKey (pair : String × String) : String := Text.lowerFirst pair.1 ++ "Id"

/-- The foreign key to the second model of a pair. -/
def secondKey (pair : String × String) : String :=
  if firstKey pair == Text.lowerFirst pair.2 ++ "Id" then "related" ++ pair.2 ++ "Id"
  else Text.lowerFirst pair.2 ++ "Id"

/-- The two foreign keys of a junction differ. -/
theorem firstKey_ne_secondKey (pair : String × String) : firstKey pair ≠ secondKey pair := by
  unfold secondKey
  split
  · next same =>
    -- the key with the prefix is longer than any lower case form of the name
    rw [eq_of_beq same]
    intro h
    have lengths := congrArg String.length h
    have lower := (Text.lowerFirst_length pair.2).2
    have prefixed : "related".length = 7 := by decide
    simp only [String.length_append, prefixed] at lengths
    omega
  · next differ =>
    intro h
    exact differ (beq_iff_eq.mpr h)

/-- A key has a name. -/
theorem append_id_ne_empty (s : String) : s ++ "Id" ≠ "" := by
  intro h
  have length := congrArg String.length h
  rw [String.length_append] at length
  exact absurd length
    (Nat.ne_of_gt (Nat.lt_of_lt_of_le (by decide) (Nat.le_add_left "Id".length s.length)))

theorem firstKey_ne_empty (pair : String × String) : firstKey pair ≠ "" := append_id_ne_empty _

theorem secondKey_ne_empty (pair : String × String) : secondKey pair ≠ "" := by
  unfold secondKey
  split <;> exact append_id_ne_empty _

/-- The junction of a pair whose sides are used by a relation of the first model and one of the
second. -/
def Implicit.between (pair : String × String) (first second : String) : Implicit :=
  { name := nameOf pair
    pair
    first := ⟨nameOf pair, pair.1, first, firstKey pair⟩
    second := ⟨nameOf pair, pair.2, second, secondKey pair⟩ }

theorem ofMatch_of_first {pair : String × String} {a b : Declaration} (first : a.model = pair.1)
    (second : b.model = pair.2) :
    ofMatch pair a b = .between pair a.relation.name b.relation.name := by
  unfold ofMatch Implicit.between secondKey firstKey
  simp only [first, second, beq_self_eq_true, ↓reduceIte]

/-- Two declarations of one pair that match make the junction of that pair. Its first side is used
by the relation of the pair's first model. -/
theorem ofMatch_eq_between {pair : String × String} {a b : Declaration} (ha : a.pair = pair)
    (h : a.isMatch b = true) :
    ∃ x y, (x = a ∧ y = b ∨ x = b ∧ y = a) ∧ x.model = pair.1 ∧ y.model = pair.2 ∧
      ofMatch pair a b = .between pair x.relation.name y.relation.name := by
  have target := (Declaration.target_of_isMatch h).1
  have joined : pair = (a.model, b.model) ∨ pair = (b.model, a.model) := by
    rw [← ha, ← target]
    exact canonicalPair_eq_or _ _
  by_cases first : a.model = pair.1
  · have second : b.model = pair.2 := by
      rcases joined with same | same
      · rw [same]
      · rw [same] at first ⊢
        exact first.symm
    exact ⟨a, b, .inl ⟨rfl, rfl⟩, first, second, ofMatch_of_first first second⟩
  · obtain rfl : pair = (b.model, a.model) :=
      joined.resolve_left fun same => first (congrArg Prod.fst same).symm
    refine ⟨b, a, .inr ⟨rfl, rfl⟩, rfl, rfl, ?_⟩
    unfold ofMatch Implicit.between
    simp only [beq_eq_false_iff_ne.mpr first]
    rfl

/-! ## Declarations -/

/-- A declaration of an implicit many-to-many relation between two of some models. -/
structure Eligible (models : List Model) (d : Declaration) : Prop where
  declared : ∃ m ∈ models, m.name = d.model ∧ d.relation ∈ m.relations
  manyToMany : d.relation.kind = some .manyToMany
  implicit : d.relation.through = none
  registered : ∃ m ∈ models, m.name = d.relation.target

theorem mem_declarations {models : List Model} {d : Declaration} :
    d ∈ declarations models ↔ Eligible models d := by
  unfold declarations
  simp only [List.mem_flatMap, List.mem_map, List.mem_filter, Bool.and_eq_true,
    Option.isNone_iff_eq_none, List.any_eq_true, beq_iff_eq, Relation.isManyToMany]
  constructor
  · rintro ⟨m, mem, r, ⟨within, ⟨kind, through⟩, target⟩, rfl⟩
    exact ⟨⟨m, mem, rfl, within⟩, kind, through, target⟩
  · rintro ⟨⟨m, mem, name, within⟩, kind, through, target⟩
    exact ⟨m, mem, d.relation, ⟨within, ⟨kind, through⟩, target⟩, by rw [name]⟩

/-- The declarations of models that tell their relations apart are told apart by model and
relation. -/
theorem eligible_unique {models : List Model} (names : (models.map (·.name)).Nodup)
    (relations : ∀ m ∈ models, (m.relations.map (·.name)).Nodup) {d e : Declaration}
    (hd : Eligible models d) (he : Eligible models e) (model : d.model = e.model)
    (relation : d.relation.name = e.relation.name) : d = e := by
  obtain ⟨m, mem, name, within⟩ := hd.declared
  obtain ⟨m', mem', name', within'⟩ := he.declared
  obtain rfl : m = m' :=
    List.inj_on_of_nodup_map names mem mem' (name.trans (model.trans name'.symm))
  have same := List.inj_on_of_nodup_map (relations m mem) within within' relation
  cases d
  cases e
  exact (Declaration.mk.injEq ..).mpr ⟨model, same⟩

/-- No declaration is listed twice. -/
theorem nodup_declarations {models : List Model} (names : (models.map (·.name)).Nodup)
    (relations : ∀ m ∈ models, (m.relations.map (·.name)).Nodup) : (declarations models).Nodup := by
  unfold declarations
  refine List.nodup_flatMap.mpr ⟨fun m mem => ?_, ?_⟩
  · exact ((relations m mem).of_map.filter fun r : Relation =>
      r.isManyToMany && r.through.isNone && models.any (·.name == r.target)).map
        fun r r' same => (Declaration.mk.inj same).2
  · refine (List.pairwise_map.mp names).imp fun differ => ?_
    intro d here there
    obtain ⟨r, _, rfl⟩ := List.mem_map.mp here
    obtain ⟨r', _, same⟩ := List.mem_map.mp there
    exact differ (Declaration.mk.inj same).1.symm

/-! ## The groups of a plan -/

/-- The declarations that join one pair of models, in order. -/
def groupOf (models : List Model) (pair : String × String) : List Declaration :=
  (declarations models).filter (·.pair == pair)

theorem mem_groupOf {models : List Model} {pair : String × String} {d : Declaration} :
    d ∈ groupOf models pair ↔ Eligible models d ∧ d.pair = pair := by
  unfold groupOf
  rw [List.mem_filter, mem_declarations, beq_iff_eq]

theorem nodup_groupOf {models : List Model} (names : (models.map (·.name)).Nodup)
    (relations : ∀ m ∈ models, (m.relations.map (·.name)).Nodup) (pair : String × String) :
    (groupOf models pair).Nodup :=
  (nodup_declarations names relations).filter _

theorem mem_pairs {models : List Model} {pair : String × String} :
    pair ∈ pairs (declarations models) ↔ ∃ d, Eligible models d ∧ d.pair = pair := by
  unfold pairs
  simp only [List.mem_eraseDups, List.mem_map, mem_declarations]

namespace Plan

variable {models added : List Model} {j : Implicit}

/-- The junctions of a plan are those of its groups, in order. -/
theorem junctions_eq : (ofModels models).junctions =
    (pairs (declarations models)).filterMap fun pair =>
      (planGroup pair (groupOf models pair)).junction := by
  unfold ofModels groupOf
  simp only [List.filterMap_map]
  rfl

theorem mem_junctions : j ∈ (ofModels models).junctions ↔
    ∃ pair ∈ pairs (declarations models),
      (planGroup pair (groupOf models pair)).junction = some j := by
  rw [junctions_eq, List.mem_filterMap]

/-- A plan has no problem exactly if the declarations of every pair need just one junction. -/
theorem problems_eq_nil_iff : (ofModels models).problems = [] ↔
    ∀ pair ∈ pairs (declarations models), Settled (groupOf models pair) := by
  unfold ofModels
  simp only [List.flatMap_eq_nil_iff, List.forall_mem_map]
  refine forall₂_congr fun pair mem => ?_
  refine planGroup_problems_eq_nil_iff.trans (or_iff_right fun none => ?_)
  -- a pair is only planned for a declaration that is about it
  obtain ⟨d, eligible, about⟩ := mem_pairs.mp mem
  have there := mem_groupOf.mpr ⟨eligible, about⟩
  rw [groupOf, none] at there
  cases there

/-- Every junction is made from two eligible declarations of its pair that match, and is the
junction between them. -/
theorem eq_between_of_mem (h : j ∈ (ofModels models).junctions) :
    ∃ x y, Eligible models x ∧ Eligible models y ∧ x.isMatch y = true ∧ x.pair = j.pair ∧
      y.pair = j.pair ∧ x.model = j.pair.1 ∧ y.model = j.pair.2 ∧
        j = .between j.pair x.relation.name y.relation.name := by
  obtain ⟨pair, _, planned⟩ := mem_junctions.mp h
  obtain ⟨a, memA, b, memB, fits, rfl⟩ := planGroup_junction_eq_some planned
  obtain ⟨eligibleA, pairA⟩ := mem_groupOf.mp memA
  obtain ⟨eligibleB, pairB⟩ := mem_groupOf.mp memB
  obtain ⟨x, y, which, first, second, made⟩ := ofMatch_eq_between pairA fits
  rcases which with ⟨rfl, rfl⟩ | ⟨rfl, rfl⟩
  · exact ⟨x, y, eligibleA, eligibleB, fits, pairA, pairB, first, second, made⟩
  · exact ⟨x, y, eligibleB, eligibleA, x.isMatch_comm y ▸ fits, pairB, pairA, first, second, made⟩

/-- The keys of a planned junction have names. -/
theorem foreignKey_ne_empty (h : j ∈ (ofModels models).junctions) {s : Side} (mem : s ∈ j.sides) :
    s.foreignKey ≠ "" := by
  obtain ⟨x, y, _, _, _, _, _, _, _, made⟩ := eq_between_of_mem h
  rw [made] at mem
  rcases List.mem_pair.mp mem with rfl | rfl
  · exact firstKey_ne_empty _
  · exact secondKey_ne_empty _

/-- The keys of a planned junction differ. -/
theorem foreignKeys_nodup (h : j ∈ (ofModels models).junctions) :
    (j.sides.map (·.foreignKey)).Nodup := by
  obtain ⟨x, y, _, _, _, _, _, _, _, made⟩ := eq_between_of_mem h
  rw [made]
  refine List.nodup_cons.mpr ⟨?_, List.nodup_singleton _⟩
  intro same
  exact firstKey_ne_secondKey j.pair (List.mem_singleton.mp same)

/-- The pairs of the junctions are those of the pairs with declarations that get a junction. -/
theorem junctions_pairs : (ofModels models).junctions.map (·.pair) =
    (pairs (declarations models)).filter fun pair =>
      (planGroup pair (groupOf models pair)).junction.isSome := by
  rw [junctions_eq, ← List.filterMap_eq_filter, List.map_filterMap]
  refine List.filterMap_congr fun pair _ => ?_
  cases made : (planGroup pair (groupOf models pair)).junction with
  | none => simp only [Option.map_none, Option.guard, made, Option.isSome_none, Bool.false_eq_true,
      ↓reduceIte]
  | some j =>
    obtain ⟨a, _, b, _, _, rfl⟩ := planGroup_junction_eq_some made
    simp only [Option.map_some, Option.guard, made, Option.isSome_some, ↓reduceIte]
    rfl

/-- No pair of models gets two junctions, whatever is declared. -/
theorem junctions_pairs_nodup : ((ofModels models).junctions.map (·.pair)).Nodup := by
  rw [junctions_pairs]
  exact (Text.nodup_eraseDups _).filter _

/-- Where there is no problem a declaration has one other declaration of its pair to match, and the
junction between the two is planned. -/
theorem exists_junction (clear : (ofModels models).problems = []) {d : Declaration}
    (eligible : Eligible models d) :
    ∃ x y, (groupOf models d.pair = [x, y] ∨ groupOf models d.pair = [y, x]) ∧
      x.isMatch y = true ∧ x.model = d.pair.1 ∧ y.model = d.pair.2 ∧
        .between d.pair x.relation.name y.relation.name ∈ (ofModels models).junctions := by
  have listed := mem_pairs.mpr ⟨d, eligible, rfl⟩
  obtain ⟨a, b, group, fits⟩ := problems_eq_nil_iff.mp clear _ listed
  have pairA : a.pair = d.pair := (mem_groupOf.mp (group ▸ List.mem_cons_self)).2
  obtain ⟨x, y, which, first, second, made⟩ := ofMatch_eq_between pairA fits
  have planned : ofMatch d.pair a b ∈ (ofModels models).junctions :=
    mem_junctions.mpr ⟨d.pair, listed, group ▸ planGroup_junction_two fits⟩
  rw [made] at planned
  rcases which with ⟨rfl, rfl⟩ | ⟨rfl, rfl⟩
  · exact ⟨x, y, .inl group, fits, first, second, planned⟩
  · exact ⟨x, y, .inr group, x.isMatch_comm y ▸ fits, first, second, planned⟩

/-- Models without relations need no plan. -/
theorem ofModels_of_no_relations (h : ∀ m ∈ models, m.relations = []) :
    ofModels models = ⟨[], []⟩ := by
  have none : declarations models = [] := by
    unfold declarations
    refine List.flatMap_eq_nil_iff.mpr fun m mem => ?_
    rw [h m mem, List.filter_nil, List.map_nil]
  unfold ofModels
  rw [none]
  rfl

/-- Two declarations of one pair that match need one junction and nothing else. -/
theorem ofModels_of_pair {a b : Declaration} (two : declarations models = [a, b])
    (pair : b.pair = a.pair) (fits : a.isMatch b = true) :
    ofModels models = ⟨[ofMatch a.pair a b], []⟩ := by
  have single : pairs [a, b] = [a.pair] := by
    unfold pairs
    simp only [List.map_cons, List.map_nil, pair, List.eraseDups_cons, beq_self_eq_true,
      Bool.not_true, Bool.false_eq_true, not_false_eq_true, List.filter_cons_of_neg,
      List.filter_nil, List.eraseDups_nil]
  have both : [a, b].filter (·.pair == a.pair) = [a, b] := by
    simp only [beq_self_eq_true, List.filter_cons_of_pos, pair, List.filter_nil]
  unfold ofModels
  simp only [two, single, List.map_cons, List.map_nil, both]
  unfold planGroup
  rw [pairUp_two fits]
  rfl

/-- Models without many-to-many relations change no plan, as long as the relations of the others
find their targets without them. -/
theorem ofModels_append
    (targets : ∀ m ∈ models, ∀ r ∈ m.relations, ∃ t ∈ models, t.name = r.target)
    (inert : ∀ m ∈ added, ∀ r ∈ m.relations, r.isManyToMany = false) :
    ofModels (models ++ added) = ofModels models := by
  have same : declarations (models ++ added) = declarations models := by
    unfold declarations
    rw [List.flatMap_append]
    have nothing : (added.flatMap fun m => (m.relations.filter fun r =>
        r.isManyToMany && r.through.isNone && (models ++ added).any (·.name == r.target)).map
          fun r => (⟨m.name, r⟩ : Declaration)) = [] := by
      refine List.flatMap_eq_nil_iff.mpr fun m mem => ?_
      refine List.map_eq_nil_iff.mpr (List.filter_eq_nil_iff.mpr fun r within => ?_)
      simp only [inert m mem r within, Bool.false_and, Bool.false_eq_true, not_false_eq_true]
    rw [nothing, List.append_nil]
    refine List.flatMap_congr fun m mem => ?_
    congr 1
    refine List.filter_congr fun r within => ?_
    have found : models.any (·.name == r.target) = true := by
      obtain ⟨t, there, name⟩ := targets m mem r within
      exact List.any_eq_true.mpr ⟨t, there, beq_iff_eq.mpr name⟩
    rw [List.any_append, found, Bool.true_or]
  unfold ofModels
  rw [same]

end Plan

end SchemaCompiler.Junction
