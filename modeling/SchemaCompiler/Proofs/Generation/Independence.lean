import Mathlib.Data.Finset.Max
import SchemaCompiler.Proofs.Generation.Contribution
import SchemaCompiler.Proofs.Generation.History

/-!
# Requests that a kept plan spoils

A plan without junctions that is kept under the names of some models takes the junctions away that
they need (`not_asFresh_of_lost`), and a plan with junctions asks for junctions between models that
cannot have them (`not_asFresh_of_keyless`). Under any names that a plan is kept for there are
models of one sort or the other, so exactly the names without a kept plan are safe for all requests
(`asFresh_iff`).
-/

set_option autoImplicit false

namespace SchemaCompiler.Generation

open Junction (Plan Implicit Declaration)
open Validation (Clean)

variable {o : Options} {r : Resolver} {q : Request} {plan : Plan}

/-! ## Two ways to spoil a request -/

/-- A request that passes validation yields what the plan for its models makes of it. -/
theorem run_result_of_clean (clean : Clean (Validation.validate q.models)) :
    ∃ warnings, ∀ r, (q.run o r).result =
      resultUnder o q.now q.models q.baseline warnings (r.plan q.models).1 := by
  obtain ⟨report, passed, valid⟩ := clean
  exact ⟨report.warningTexts, fun r => generate_result_of_valid r passed valid⟩

theorem plan_of_kept (kept : r.keptUnder q.names = some plan) : (r.plan q.models).1 = plan := by
  have found : r.keptUnder (q.models.map (·.name)) = some plan := kept
  rw [Resolver.plan_fst, found, Option.getD_some]

/-- A kept plan that spoils no request of its names makes of them what their own plan makes. -/
theorem AsFresh.resultUnder_eq (same : AsFresh o r q) (kept : r.keptUnder q.names = some plan)
    (clean : Clean (Validation.validate q.models)) :
    ∃ warnings, resultUnder o q.now q.models q.baseline warnings plan =
      resultUnder o q.now q.models q.baseline warnings (Plan.ofModels q.models) := by
  obtain ⟨warnings, result⟩ := run_result_of_clean (o := o) clean
  unfold AsFresh at same
  rw [result, result, plan_of_kept kept,
    Resolver.plan_of_other (Resolver.keptUnder_fresh _)] at same
  exact ⟨warnings, same⟩

/-- Without synthesized models none is counted, and only declared models are left out. -/
theorem resultUnder_of_no_junctions (now : Timestamp) (models : List Model)
    (baseline : Option String) (warnings : List String) {made : Option Moment}
    (none : plan.junctions = []) (dated : Document.stamp o now = .ok made) :
    ∃ d, resultUnder o now models baseline warnings plan = .ok d ∧ d.junctionCount = 0 ∧
      ∀ name ∈ d.skipped, name ∈ models.map (·.name) := by
  have nothing : Resolver.junctionModels plan models = .ok [] := by
    unfold Resolver.junctionModels
    rw [none]
    rfl
  refine ⟨_, resultUnder_ok_iff.mpr ⟨[], made, nothing, dated, rfl⟩, rfl, fun name mem => ?_⟩
  have own := Draft.mem_names_of_mem_skipped mem
  rwa [List.append_nil] at own

/-- Where no synthesized model is counted each of them is left out. -/
theorem mem_skipped_of_no_count {models : List Model} {now : Timestamp} {baseline : Option String}
    {warnings : List String} {d : Document}
    (h : resultUnder o now models baseline warnings plan = .ok d) (none : d.junctionCount = 0) :
    ∀ j ∈ plan.junctions, j.name ∈ d.skipped := by
  intro j planned
  obtain ⟨junctions, _, made, _, rfl⟩ := resultUnder_ok_iff.mp h
  have listed : j.name ∈ junctions.map (·.name) :=
    Resolver.names_of_junctionModels made ▸ List.mem_map_of_mem planned
  obtain ⟨m, mem, name⟩ := List.mem_map.mp listed
  have out := List.filter_eq_nil_iff.mp (List.length_eq_zero_iff.mp none) m mem
  simp only [Bool.not_eq_true', Bool.not_eq_false, List.contains_iff_mem] at out
  exact name ▸ out

/-- A kept plan without junctions spoils a request of its names that needs junctions. -/
theorem not_asFresh_of_lost {made : Option Moment} (kept : r.keptUnder q.names = some plan)
    (lost : plan.junctions = []) (clean : Clean (Validation.validate q.models))
    (joined : (Plan.ofModels q.models).junctions ≠ []) (dated : Document.stamp o q.now = .ok made) :
    ¬ AsFresh o r q := by
  intro asFresh
  obtain ⟨warnings, same⟩ := asFresh.resultUnder_eq kept clean
  obtain ⟨d, done, count, skipped⟩ :=
    resultUnder_of_no_junctions q.now q.models q.baseline warnings lost dated
  obtain ⟨j, planned⟩ := List.exists_mem_of_ne_nil _ joined
  -- the junction is not counted, so it is left out, but only declared models are
  have out := mem_skipped_of_no_count (same.symm.trans done) count j planned
  obtain ⟨m, mem, name⟩ := List.mem_map.mp (skipped _ out)
  exact ((Validation.accepted_of_clean clean).makeable j planned).free m mem name

/-- A kept plan with junctions spoils a request of its names whose models have no keys to
reference. -/
theorem not_asFresh_of_keyless (kept : r.keptUnder q.names = some plan)
    (joined : plan.junctions ≠ []) (clean : Clean (Validation.validate q.models))
    (keyless : ∀ m ∈ q.models, m.referenceKey = none)
    (plain : (Plan.ofModels q.models).junctions = []) : ¬ AsFresh o r q := by
  intro asFresh
  obtain ⟨warnings, same⟩ := asFresh.resultUnder_eq kept clean
  obtain ⟨j, planned⟩ := List.exists_mem_of_ne_nil _ joined
  have nothing : Resolver.junctionModels (Plan.ofModels q.models) q.models = .ok [] := by
    unfold Resolver.junctionModels
    rw [plain]
    rfl
  unfold resultUnder at same
  simp only [nothing] at same
  cases made : Resolver.junctionModels plan q.models with
  | ok junctions =>
    obtain ⟨m, _, own⟩ := Outcome.exists_of_mem_left made planned
    obtain ⟨p, key, found, keyed⟩ :=
      Resolver.participants_of_junctionModel own j.first List.mem_cons_self
    rw [keyless p (Model.mem_of_find? found)] at keyed
    cases keyed
  | error e =>
    simp only [made] at same
    split at same <;> cases same

/-! ## Models of given names that are spoiled -/

/-- A model that nothing can reference. -/
def keylessEntity (name : String) : Model := { Model.entity name [] with primaryKey := some ["id"] }

/-- Any names are those of models that pass validation, have no relations, and have no keys to
reference. -/
theorem keyless_clean {names : List String} (named : ∀ name ∈ names, name ≠ "") :
    Clean (Validation.validate (names.map keylessEntity)) := by
  have plan : Plan.ofModels (names.map keylessEntity) = ⟨[], []⟩ :=
    Plan.ofModels_of_no_relations (List.forall_mem_map.mpr fun _ _ => rfl)
  refine Validation.validate_clean_iff.mpr ⟨List.forall_mem_map.mpr fun name mem => ?_, ?_, ?_⟩
  · exact ⟨named name mem, fun h => (nomatch h), rfl, Validation.checkFields_identifier rfl rfl,
      Validation.clean_ok_iff.mpr rfl⟩
  · rw [plan]
  · rw [plan]
    exact Validation.clean_ok_iff.mpr rfl

/-- The two sides of a relation of a model with itself. -/
def selfRelations (name : String) : List Relation :=
  [{ Relation.plain "follows" .manyToMany name with inverse := some "followers" },
    .plain "followers" .manyToMany name]

/-- Models of the names before one, the one, and those after it, of which the one is joined with
itself. -/
def joinedEntities (before : List String) (name : String) (after : List String) : List Model :=
  Model.entities (before.map (·, []) ++ (name, selfRelations name) :: after.map (·, []))

section Joined

variable {before after : List String} {name : String}

theorem names_joinedEntities (before : List String) (name : String) (after : List String) :
    (joinedEntities before name after).map (·.name) = before ++ name :: after := by
  unfold joinedEntities Model.entities
  simp only [List.map_append, List.map_cons, List.map_map, Function.comp_def, Model.entity,
    List.map_id']

theorem exists_mem_joinedEntities : ∃ m ∈ joinedEntities before name after, m.name = name := by
  refine List.mem_map.mp ?_
  rw [names_joinedEntities]
  exact List.mem_append_right _ List.mem_cons_self

/-- The name of the joined model stands for a model with a key to reference. -/
theorem find?_joinedEntities :
    ∃ m, Model.find? (joinedEntities before name after) name = some m ∧
      m.referenceKey = some Field.identifier := by
  obtain ⟨m, found⟩ := Option.isSome_iff_exists.mp
    (Model.find?_isSome_iff.mpr exists_mem_joinedEntities)
  obtain ⟨e, _, rfl⟩ := List.mem_map.mp (Model.mem_of_find? found)
  exact ⟨_, found, rfl⟩

/-- Only the joined model counts for what models without relations have nothing of. -/
theorem flatMap_joinedEntities {α : Type} {f : Model → List α}
    (plain : ∀ n, f (.entity n []) = []) :
    (joinedEntities before name after).flatMap f = f (.entity name (selfRelations name)) := by
  have nothing (names : List String) : (Model.entities (names.map (·, []))).flatMap f = [] := by
    refine List.flatMap_eq_nil_iff.mpr fun m mem => ?_
    obtain ⟨e, within, rfl⟩ := List.mem_map.mp mem
    obtain ⟨n, _, rfl⟩ := List.mem_map.mp within
    exact plain n
  have split : joinedEntities before name after = Model.entities (before.map (·, [])) ++
      .entity name (selfRelations name) :: Model.entities (after.map (·, [])) := by
    unfold joinedEntities Model.entities
    rw [List.map_append, List.map_cons]
  rw [split, List.flatMap_append, List.flatMap_cons, nothing, nothing, List.append_nil,
    List.nil_append]

/-- The models have one declaration for each side of the relation. -/
theorem declarations_joinedEntities :
    Junction.declarations (joinedEntities before name after) =
      (selfRelations name).map fun r => ⟨name, r⟩ := by
  have present : (joinedEntities before name after).any (·.name == name) = true := by
    obtain ⟨m, there, same⟩ := exists_mem_joinedEntities
    exact List.any_eq_true.mpr ⟨m, there, beq_iff_eq.mpr same⟩
  unfold Junction.declarations
  rw [flatMap_joinedEntities fun n => rfl]
  refine congrArg _ (List.filter_eq_self.mpr fun r mem => ?_)
  rcases List.mem_pair.mp mem with rfl | rfl <;> exact present

/-- The models are planned to have one junction, of the joined model with itself. -/
theorem ofModels_joinedEntities : Plan.ofModels (joinedEntities before name after) =
    ⟨[.between (name, name) "follows" "followers"], []⟩ := by
  have itself : Junction.canonicalPair name name = (name, name) :=
    Junction.canonicalPair_of_le (String.le_refl name)
  refine (Plan.ofModels_of_pair declarations_joinedEntities rfl ?_).trans ?_
  · simp only [Declaration.isMatch, Relation.plain, Declaration.agrees, Option.all_some,
      Option.all_none, beq_self_eq_true, bne_self_eq_false, Bool.and_self, Bool.false_or,
      Bool.true_or]
  · show (⟨[Junction.ofMatch (Junction.canonicalPair name name) _ _], []⟩ : Plan) = _
    rw [itself, Junction.ofMatch_of_first rfl rfl]
    rfl

/-- The relations of the joined model pass their checks. -/
theorem selfRelations_clean (named : name ≠ "") :
    Clean (Validation.checkRelations (joinedEntities before name after)
      (.entity name (selfRelations name))) := by
  obtain ⟨target, found, _⟩ := find?_joinedEntities
  have complete (r : Relation) (mem : r ∈ selfRelations name) : Validation.missingParts r = [] := by
    rcases List.mem_pair.mp mem with rfl | rfl <;>
      simp only [Validation.missingParts, Relation.plain, beq_eq_false_iff_ne.mpr named] <;> rfl
  refine Validation.checkRelationsFrom_cons_clean_iff.mpr ⟨target, _, .of_manyToMany
    (complete _ List.mem_cons_self) List.not_mem_nil rfl found rfl rfl, ?_⟩
  exact Validation.checkRelationsFrom_cons_clean_iff.mpr ⟨target, _, .of_manyToMany
    (complete _ (List.mem_cons_of_mem _ List.mem_cons_self))
    (show "followers" ∉ ["follows"] by decide) rfl found rfl rfl, Validation.clean_ok_iff.mpr rfl⟩

/-- Where no name is longer than that of the joined model, the models pass validation. -/
theorem joined_clean (named : ∀ n ∈ before ++ name :: after, n ≠ "")
    (longest : ∀ n ∈ before ++ name :: after, n.length ≤ name.length) :
    Clean (Validation.validate (joinedEntities before name after)) := by
  have plain (n : String) : Clean (Validation.checkRelations (joinedEntities before name after)
      (.entity n [])) := Validation.clean_ok_iff.mpr rfl
  refine Validation.validate_clean_iff.mpr ⟨Validation.entities_sound fun e given => ?_, ?_, ?_⟩
  · rcases List.mem_append.mp given with earlier | here
    · obtain ⟨n, within, rfl⟩ := List.mem_map.mp earlier
      exact ⟨named n (List.mem_append_left _ within), plain n⟩
    · rcases List.mem_cons.mp here with rfl | later
      · have own := named name (List.mem_append_right _ List.mem_cons_self)
        exact ⟨own, selfRelations_clean own⟩
      · obtain ⟨n, within, rfl⟩ := List.mem_map.mp later
        exact ⟨named n (List.mem_append_right _ (List.mem_cons_of_mem _ within)), plain n⟩
  · rw [ofModels_joinedEntities]
  · rw [ofModels_joinedEntities]
    refine Validation.clean_append_iff.mpr ⟨Validation.checkJunction_clean_iff.mpr ⟨⟨?_, ?_⟩, ?_⟩,
      Validation.clean_ok_iff.mpr rfl⟩
    · -- the name of the junction is longer than every name of a model
      intro m there same
      have within : m.name ∈ before ++ name :: after :=
        names_joinedEntities before name after ▸ List.mem_map_of_mem there
      have short := longest m.name within
      have made : m.name = name ++ "To" ++ name := same
      have two : "To".length = 2 := by decide
      rw [made, String.length_append, String.length_append, two] at short
      omega
    · rintro s side
      obtain ⟨m, found, keyed⟩ := find?_joinedEntities
      rcases List.mem_pair.mp side with rfl | rfl <;> exact ⟨m, _, found, keyed⟩
    · exact fun _ known => (nomatch known)

end Joined

/-! ## The safe names -/

/-- The beginning of 1970 can be stated in every document. -/
theorem stamp_epoch (o : Options) : ∃ made, Document.stamp o (.whole 0) = .ok made := by
  unfold Document.stamp
  split
  · exact ⟨_, rfl⟩
  · exact ⟨_, rfl⟩

theorem exists_longest {names : List String} (h : names ≠ []) :
    ∃ name ∈ names, ∀ n ∈ names, n.length ≤ name.length := by
  obtain ⟨first, mem⟩ := List.exists_mem_of_ne_nil names h
  obtain ⟨name, within, longest⟩ :=
    names.toFinset.exists_max_image String.length ⟨first, List.mem_toFinset.mpr mem⟩
  exact ⟨name, List.mem_toFinset.mp within, fun n there => longest n (List.mem_toFinset.mpr there)⟩

/-- Whatever plan an honest resolver keeps under some names spoils some request of these names. -/
theorem exists_not_asFresh (honest : Honest r) {names : List String} (some : names ≠ [])
    (kept : r.keptUnder names = .some plan) : ∃ q : Request, q.names = names ∧ ¬ AsFresh o r q := by
  have named := (honest names plan kept).2
  by_cases lost : plan.junctions = []
  · obtain ⟨name, mem, longest⟩ := exists_longest some
    obtain ⟨before, after, rfl⟩ := List.append_of_mem mem
    obtain ⟨made, dated⟩ := stamp_epoch o
    have same := names_joinedEntities before name after
    refine ⟨⟨.whole 0, joinedEntities before name after, none⟩, same, ?_⟩
    refine not_asFresh_of_lost ((congrArg r.keptUnder same).trans kept) lost
      (joined_clean named longest) ?_ dated
    rw [ofModels_joinedEntities]
    exact List.cons_ne_nil _ _
  · have same : (names.map keylessEntity).map (·.name) = names := by
      rw [List.map_map]
      exact List.map_id' names
    refine ⟨⟨.whole 0, names.map keylessEntity, none⟩, same, ?_⟩
    refine not_asFresh_of_keyless ((congrArg r.keptUnder same).trans kept) lost
      (keyless_clean named) (List.forall_mem_map.mpr fun _ _ => rfl) ?_
    rw [Plan.ofModels_of_no_relations (List.forall_mem_map.mpr fun _ _ => rfl)]

/-- After any generations a request yields what it would yield with a fresh resolver if a plan that
is kept under its names joins the pairs that its own plan joins. All requests of some names do
exactly if there are no names or no plan is kept under them. -/
theorem asFresh_iff (o : Options) (history : List Request) :
    (∀ q : Request, (∀ plan, (resolverAfter o history).keptUnder q.names = some plan →
        plan.junctions.map (·.pair) = (Plan.ofModels q.models).junctions.map (·.pair)) →
      AsFresh o (resolverAfter o history) q) ∧
    ∀ names, (∀ q : Request, q.names = names → AsFresh o (resolverAfter o history) q) ↔
      names = [] ∨ (resolverAfter o history).keptUnder names = none := by
  have honest := honest_resolverAfter o history
  refine ⟨fun q => asFresh_of_pairs honest, fun names => ⟨fun safe => ?_, ?_⟩⟩
  · by_contra spoiled
    obtain ⟨some, present⟩ := not_or.mp spoiled
    obtain ⟨plan, kept⟩ := Option.ne_none_iff_exists'.mp present
    obtain ⟨q, same, differs⟩ := exists_not_asFresh honest some kept
    exact differs (safe q same)
  · rintro (rfl | absent) q same
    · have empty : q.models = [] := List.map_eq_nil_iff.mp same
      refine asFresh_of_pairs honest fun plan kept => ?_
      rw [same] at kept
      obtain ⟨others, named, rfl⟩ := (honest _ _ kept).1
      rw [empty, List.map_eq_nil_iff.mp named]
    · refine asFresh_of_pairs honest fun plan kept => ?_
      rw [same, absent] at kept
      cases kept

/-- Articles and tags without relations. -/
def unrelated : Request := ⟨.whole 0, Model.entities [("Article", []), ("Tag", [])], none⟩

/-- Articles and tags that are joined. -/
def related : Request :=
  ⟨.whole 0, Model.entities [("Article", [.plain "tags" .manyToMany "Tag"]),
    ("Tag", [.plain "articles" .manyToMany "Article"])], none⟩

/-- A generation without relations spoils one of the same names with relations. -/
theorem related_after_unrelated_not_asFresh :
    ¬ AsFresh .standard (resolverAfter .standard [unrelated]) related := by
  have plain : Plan.ofModels unrelated.models = ⟨[], []⟩ :=
    Plan.ofModels_of_no_relations (List.forall_mem_map.mpr (by decide))
  have passed : Clean (Validation.validate unrelated.models) := by
    refine Validation.validate_clean_iff.mpr ⟨Validation.entities_sound (by decide), ?_, ?_⟩
    · rw [plain]
    · rw [plain]
      exact Validation.clean_ok_iff.mpr rfl
  have answered : (Resolver.fresh.plan unrelated.models).1 = ⟨[], []⟩ :=
    (Resolver.plan_of_other (Resolver.keptUnder_fresh _)).trans plain
  have kept : (resolverAfter .standard [unrelated]).keptUnder related.names = some ⟨[], []⟩ :=
    answered ▸ keptUnder_generate passed (by rw [answered])
  have clean : Clean (Validation.validate related.models) :=
    Validation.validate_clean_iff.mpr ⟨Validation.entities_sound (by decide), by cbv,
      Validation.clean_iff_toOption.mpr (by cbv)⟩
  have joined : (Plan.ofModels related.models).junctions.length = 1 := by cbv
  obtain ⟨made, dated⟩ := stamp_epoch .standard
  exact not_asFresh_of_lost kept rfl clean (List.ne_nil_of_length_eq_add_one joined) dated

end SchemaCompiler.Generation
