import SchemaCompiler.Proofs.Junction.Settled
import SchemaCompiler.Proofs.Model.Lookup
import SchemaCompiler.Proofs.Validation.Field
import SchemaCompiler.Proofs.Validation.Junction
import SchemaCompiler.Proofs.Validation.Relation

/-!
# Accepted models

Models that pass validation have names and fields, everything that their relations name is
registered with the key that it is referenced by, and their many-to-many relations pair up into
junctions that can be made (`accepted_of_clean`).
-/

set_option autoImplicit false

namespace SchemaCompiler.Validation

open Report

variable {registered models : List Model}

/-- A model passes its own checks among registered ones. -/
structure Sound (registered : List Model) (m : Model) : Prop where
  named : m.name ≠ ""
  full : m.fields ≠ []
  keyed : (checkPrimaryKey m).isValid = true
  fields : Clean (checkFields m)
  relations : Clean (checkRelations registered m)

/-- The check of one model is clean exactly if the model is sound, wherever it stands. -/
theorem checkModel_clean_iff {position : Nat} {m : Model} :
    Clean (checkModel registered position m) ↔ Sound registered m := by
  unfold checkModel
  split
  · next unnamed =>
    rw [clean_ok_iff, isValid_issue]
    exact ⟨fun h => (nomatch h), fun sound => absurd (beq_iff_eq.mp unnamed) sound.named⟩
  · next named =>
    split
    · next empty =>
      rw [clean_ok_iff, isValid_issue]
      exact ⟨fun h => (nomatch h), fun sound => absurd (List.isEmpty_iff.mp empty) sound.full⟩
    · next full =>
      constructor
      · intro clean
        obtain ⟨fields, checked, rest⟩ := clean_bind_iff.mp clean
        obtain ⟨relations, related, all⟩ := clean_bind_iff.mp rest
        have valid := clean_ok_iff.mp all
        simp only [isValid_append, Bool.and_eq_true] at valid
        exact ⟨fun h => named (beq_iff_eq.mpr h), fun h => full (List.isEmpty_iff.mpr h),
          valid.1.1.2, ⟨fields, checked, valid.1.2⟩, ⟨relations, related, valid.2⟩⟩
      · rintro ⟨_, _, keyed, ⟨fields, checked, validF⟩, ⟨relations, related, validR⟩⟩
        refine clean_bind_iff.mpr ⟨fields, checked, clean_bind_iff.mpr ⟨relations, related, ?_⟩⟩
        refine clean_ok_iff.mpr ?_
        simp only [isValid_append, isValid_when, isValid_advise, Bool.or_true, keyed, validF,
          validR, Bool.and_self]

/-- The check of models is clean exactly if each of them is sound. -/
theorem checkModelsFrom_clean_iff {position : Nat} :
    Clean (checkModelsFrom registered position models) ↔ ∀ m ∈ models, Sound registered m := by
  induction models generalizing position with
  | nil => exact ⟨fun _ _ mem => (nomatch mem), fun _ => clean_ok_iff.mpr rfl⟩
  | cons m rest ih =>
    rw [List.forall_mem_cons, ← ih, ← checkModel_clean_iff]
    exact clean_append_iff

/-- The report on a plan is clean exactly if the plan has no problem. -/
theorem planReport_isValid_iff {plan : Junction.Plan} :
    (planReport plan).isValid = true ↔ plan.problems = [] := by
  unfold planReport
  rw [isValid_concat]
  cases plan.problems with
  | nil => exact ⟨fun _ => rfl, fun _ => rfl⟩
  | cons problem rest =>
    rw [List.map_cons, List.all_cons, isValid_issue, Bool.false_and]
    exact ⟨fun h => (nomatch h), fun h => (nomatch h)⟩

/-- Models that all have names are all registered. -/
theorem filter_named (named : ∀ m ∈ models, m.name ≠ "") :
    models.filter (·.name != "") = models :=
  List.filter_eq_self.mpr fun m mem => bne_iff_ne.mpr (named m mem)

/-- Validation finds nothing exactly if every model is sound, the plan of the models has no problem
and the check of its junctions is clean. -/
theorem validate_clean_iff : Clean (validate models) ↔
    (∀ m ∈ models, Sound models m) ∧ (Junction.Plan.ofModels models).problems = [] ∧
      Clean (checkJunctionsFrom models [] (Junction.Plan.ofModels models).junctions) := by
  -- sound models are all registered and all planned
  have plans (named : ∀ m ∈ models, m.name ≠ "") (full : ∀ m ∈ models, m.fields ≠ []) :
      plannable models = models := by
    refine List.filter_eq_self.mpr fun m mem => ?_
    rw [bne_iff_ne.mpr (named m mem), List.isEmpty_eq_false_iff.mpr (full m mem)]
    rfl
  constructor
  · intro clean
    obtain ⟨each, checked, rest⟩ := clean_bind_iff.mp clean
    obtain ⟨junctions, made, all⟩ := clean_bind_iff.mp rest
    have valid := clean_ok_iff.mp all
    simp only [isValid_append, Bool.and_eq_true] at valid
    have sound := checkModelsFrom_clean_iff.mp ⟨each, checked, valid.1.1⟩
    have same := filter_named fun m mem => (sound m mem).named
    have planned := plans (fun m mem => (sound m mem).named) fun m mem => (sound m mem).full
    rw [same] at sound made
    rw [planned] at made valid
    exact ⟨sound, planReport_isValid_iff.mp valid.1.2, junctions, made, valid.2⟩
  · rintro ⟨sound, clear, junctions, made, valid⟩
    have clean : Clean (checkModelsFrom models 1 models) := checkModelsFrom_clean_iff.mpr sound
    obtain ⟨each, checked, validE⟩ := clean
    unfold validate
    rw [filter_named fun m mem => (sound m mem).named,
      plans (fun m mem => (sound m mem).named) fun m mem => (sound m mem).full]
    refine clean_bind_iff.mpr ⟨each, checked, clean_bind_iff.mpr ⟨junctions, made, ?_⟩⟩
    refine clean_ok_iff.mpr ?_
    simp only [isValid_append, validE, planReport_isValid_iff.mpr clear, valid, Bool.and_self]

/-- What a validation without findings says about a list of models. -/
structure Accepted (models : List Model) : Prop where
  named : ∀ m ∈ models, m.name ≠ ""
  distinct : ∀ m ∈ models, (m.relations.map (·.name)).Nodup
  resolvable : ∀ m ∈ models, ∀ r ∈ m.relations, Resolvable models r
  paired : (Junction.Plan.ofModels models).problems = []
  junctions : ((Junction.Plan.ofModels models).junctions.map (·.name)).Nodup
  makeable : ∀ j ∈ (Junction.Plan.ofModels models).junctions, Makeable models j

/-- Models that pass validation are accepted. -/
theorem accepted_of_clean (h : Clean (validate models)) : Accepted models := by
  obtain ⟨sound, paired, clean⟩ := validate_clean_iff.mp h
  obtain ⟨junctions, _, makeable⟩ :=
    checkJunctionsFrom_clean (by exact Junction.Plan.junctions_pairs_nodup) clean
  exact ⟨fun m mem => (sound m mem).named,
    fun m mem => (checkRelations_clean (sound m mem).relations).1,
    fun m mem => (checkRelations_clean (sound m mem).relations).2, paired, junctions, makeable⟩

/-! ## Plain models -/

/-- A field with a name and a type and without rules can be taken. -/
theorem takeable_of_plain {f : Field} (named : f.name ≠ "") (typed : f.type.isSome = true)
    (ruleless : f.rules.isEmpty = true) : Takeable f := by
  refine ⟨named, typed, none, ?_, nofun⟩
  unfold Field.maxLength Field.rule?
  rw [List.isEmpty_iff.mp ruleless]
  rfl

/-- A model of such fields with nothing else to check has clean fields. -/
theorem checkFields_of_plain {m : Model}
    (plain : ∀ f ∈ m.fields, f.name ≠ "" ∧ f.type.isSome = true ∧ f.rules.isEmpty = true)
    (distinct : m.fieldNames.Nodup) (constraints : m.constraints = []) :
    Clean (checkFields m) := by
  refine checkFields_clean_iff.mpr ⟨distinct, fun f mem => ?_, ?_⟩
  · obtain ⟨named, typed, ruleless⟩ := plain f mem
    exact takeable_of_plain named typed ruleless
  · unfold checkConstraints
    rw [constraints]
    rfl

theorem checkFields_identifier {m : Model} (fields : m.fields = [Field.identifier])
    (constraints : m.constraints = []) : Clean (checkFields m) := by
  refine checkFields_of_plain ?_ ?_ constraints
  · rw [fields]
    decide
  · unfold Model.fieldNames
    rw [fields]
    decide

/-- An entity with a name is sound if its relations pass their check. -/
theorem entity_sound {name : String} {relations : List Relation} (named : name ≠ "")
    (clean : Clean (checkRelations registered (.entity name relations))) :
    Sound registered (.entity name relations) :=
  ⟨named, fun h => (nomatch h), rfl, checkFields_identifier rfl rfl, clean⟩

theorem entities_sound {given : List (String × List Relation)}
    (h : ∀ e ∈ given, e.1 ≠ "" ∧ Clean (checkRelations registered (.entity e.1 e.2))) :
    ∀ m ∈ Model.entities given, Sound registered m :=
  List.forall_mem_map.mpr fun e mem => entity_sound (h e mem).1 (h e mem).2

/-- A model whose fields are complete and free of rules, with one key and no constraints. -/
def Plain (m : Model) : Prop :=
  m.name ≠ "" ∧ m.fields.isEmpty = false ∧ (checkPrimaryKey m).isValid = true ∧
    m.constraints.isEmpty = true ∧ m.fieldNames.Nodup ∧
    ∀ f ∈ m.fields, f.name ≠ "" ∧ f.type.isSome = true ∧ f.rules.isEmpty = true

instance (m : Model) : Decidable (Plain m) := inferInstanceAs (Decidable (_ ∧ _))

/-- Plain models pass validation if the checks of their relations and of their junctions are
clean. -/
theorem clean_of_plain (plain : ∀ m ∈ models, Plain m ∧ Clean (checkRelations models m))
    (clear : (Junction.Plan.ofModels models).problems = [])
    (junctions : Clean (checkJunctionsFrom models [] (Junction.Plan.ofModels models).junctions)) :
    Clean (validate models) := by
  refine validate_clean_iff.mpr ⟨fun m mem => ?_, clear, junctions⟩
  obtain ⟨⟨named, full, keyed, free, distinct, fields⟩, relations⟩ := plain m mem
  exact ⟨named, List.isEmpty_eq_false_iff.mp full, keyed,
    checkFields_of_plain fields distinct (List.isEmpty_iff.mp free), relations⟩

end SchemaCompiler.Validation
