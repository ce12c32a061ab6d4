import SchemaCompiler.Proofs.Junction.Order
import SchemaCompiler.Proofs.Validation.Accepted

/-!
# Validation in any order

Validation looks models up by name, and their order decides which of several faults is reported
first and which of several declarations are taken for partners. Whether a validation comes to an end
depends on each model for itself (`exists_validate_iff`), and whether it then finds a fault does not
depend on the order of models with distinct names (`clean_validate_perm`).
-/

set_option autoImplicit false

namespace SchemaCompiler

/-- The models that a relation names: its target, and its explicit junction if it has one. -/
def Relation.mentioned (r : Relation) : List String := r.target :: (r.through.map (·.model)).toList

namespace Validation

open Junction (Plan)

variable {registered models others : List Model} {m : Model}

/-! ## Checks among other models -/

/-- A name stands for one model, or for none, in both lists. -/
def SameUnder (registered others : List Model) (name : String) : Prop :=
  Model.find? registered name = Model.find? others name

theorem checkThrough_congr {t : Through} (same : SameUnder registered others t.model) (m : Model)
    (r : Relation) : checkThrough registered m r t = checkThrough others m r t := by
  unfold checkThrough
  rw [same]

/-- The check of a relation looks at other models by their names only, and at no others than the
relation names. -/
theorem checkRelation_congr {r : Relation}
    (same : ∀ name ∈ r.mentioned, SameUnder registered others name) (m : Model) (seen : Seen) :
    checkRelation registered m seen r = checkRelation others m seen r := by
  have target : Model.find? registered r.target = Model.find? others r.target :=
    same _ List.mem_cons_self
  unfold checkRelation
  rw [target]
  cases declared : r.through with
  | none => rfl
  | some t =>
    have mentioned : t.model ∈ r.mentioned := by simp [Relation.mentioned, declared]
    simp only [checkThrough_congr (same _ mentioned)]

theorem checkRelationsFrom_congr {rs : List Relation}
    (same : ∀ r ∈ rs, ∀ name ∈ r.mentioned, SameUnder registered others name) (m : Model)
    (seen : Seen) :
    checkRelationsFrom registered m seen rs = checkRelationsFrom others m seen rs := by
  induction rs generalizing seen with
  | nil => rfl
  | cons r rest ih =>
    obtain ⟨here, later⟩ := List.forall_mem_cons.mp same
    unfold checkRelationsFrom
    simp only [checkRelation_congr here, ih later]

theorem checkRelations_congr
    (same : ∀ r ∈ m.relations, ∀ name ∈ r.mentioned, SameUnder registered others name) :
    checkRelations registered m = checkRelations others m :=
  checkRelationsFrom_congr same m ⟨[], []⟩

/-- The check of a model depends on no other models than its relations name. -/
theorem checkModel_congr
    (same : ∀ r ∈ m.relations, ∀ name ∈ r.mentioned, SameUnder registered others name)
    (position : Nat) : checkModel registered position m = checkModel others position m := by
  unfold checkModel
  rw [checkRelations_congr same]

/-- Only a model without a name is told apart by its position. -/
theorem checkModel_position (registered : List Model) (named : m.name ≠ "")
    (position position' : Nat) :
    checkModel registered position m = checkModel registered position' m := by
  unfold checkModel
  simp only [beq_eq_false_iff_ne.mpr named, Bool.false_eq_true, ↓reduceIte]

/-- A model is sound among other models that the same names stand for. -/
theorem Sound.congr (sound : Sound registered m)
    (same : Model.find? registered = Model.find? others) : Sound others m :=
  { sound with
    relations := checkRelations_congr (fun _ _ name _ => congrFun same name) ▸ sound.relations }

/-- A junction that can be made can be made among the same models in another order. -/
theorem Makeable.of_perm {j : Junction.Implicit} (makeable : Makeable models j)
    (names : (models.map (·.name)).Nodup) (perm : models.Perm others) : Makeable others j where
  free := fun m mem => makeable.free m (perm.mem_iff.mpr mem)
  participants := by
    rw [← Model.find?_perm names perm]
    exact makeable.participants

/-! ## Coming to an end -/

/-- The check of a model comes to an end at every position if it does at one. -/
theorem exists_checkModel_at {position : Nat} (position' : Nat)
    (done : ∃ report, checkModel registered position m = .ok report) :
    ∃ report, checkModel registered position' m = .ok report := by
  by_cases named : m.name = ""
  · unfold checkModel
    rw [if_pos (beq_iff_eq.mpr named)]
    exact ⟨_, rfl⟩
  · rwa [checkModel_position registered named position' position]

/-- The check of models comes to an end exactly if it does for each of them. -/
theorem exists_checkModelsFrom_iff (position : Nat) :
    (∃ report, checkModelsFrom registered position models = .ok report) ↔
      ∀ m ∈ models, ∃ report, checkModel registered 1 m = .ok report := by
  induction models generalizing position with
  | nil => exact ⟨fun _ _ mem => (nomatch mem), fun _ => ⟨_, rfl⟩⟩
  | cons m rest ih =>
    rw [List.forall_mem_cons, ← ih (position + 1)]
    constructor
    · rintro ⟨report, done⟩
      obtain ⟨first, checked, rest⟩ := Outcome.bind_ok_iff.mp done
      obtain ⟨second, continued, _⟩ := Outcome.bind_ok_iff.mp rest
      exact ⟨exists_checkModel_at 1 ⟨first, checked⟩, second, continued⟩
    · rintro ⟨here, second, continued⟩
      obtain ⟨first, checked⟩ := exists_checkModel_at position here
      exact ⟨first ++ second,
        Outcome.bind_ok_iff.mpr ⟨first, checked, Outcome.bind_ok_iff.mpr ⟨second, continued, rfl⟩⟩⟩

/-- The participants of the junctions of a plan are among the planned models. -/
theorem exists_participants {j : Junction.Implicit} (planned : j ∈ (Plan.ofModels models).junctions)
    {s : Junction.Side} (side : s ∈ j.sides) : ∃ m ∈ models, m.name = s.model := by
  obtain ⟨x, y, declaredX, declaredY, _, _, _, first, second, made⟩ :=
    Plan.eq_between_of_mem planned
  rw [made] at side
  rcases List.mem_pair.mp side with rfl | rfl
  · obtain ⟨m, mem, name, _⟩ := declaredX.declared
    exact ⟨m, mem, name.trans first⟩
  · obtain ⟨m, mem, name, _⟩ := declaredY.declared
    exact ⟨m, mem, name.trans second⟩

/-- The check of the planned junctions comes to an end: whatever is planned is registered. -/
theorem exists_checkJunctions (models : List Model) :
    ∃ report, checkJunctionsFrom (models.filter (·.name != "")) []
      (Plan.ofModels (plannable models)).junctions = .ok report := by
  apply exists_checkJunctionsFrom
  intro j planned s side
  obtain ⟨m, mem, name⟩ := exists_participants planned side
  obtain ⟨given, complete⟩ := List.mem_filter.mp mem
  have registered : m ∈ models.filter (·.name != "") :=
    List.mem_filter.mpr ⟨given, (Bool.and_eq_true_iff.mp complete).1⟩
  exact Option.isSome_iff_exists.mp (Model.find?_isSome_iff.mpr ⟨m, registered, name⟩)

/-- A validation comes to an end exactly if the check of each model does: planning and checking the
junctions always do. -/
theorem exists_validate_iff : (∃ report, validate models = .ok report) ↔
    ∀ m ∈ models, ∃ report, checkModel (models.filter (·.name != "")) 1 m = .ok report := by
  obtain ⟨last, made⟩ := exists_checkJunctions models
  rw [← exists_checkModelsFrom_iff 1]
  unfold validate
  constructor
  · rintro ⟨report, done⟩
    obtain ⟨each, checked, _⟩ := Outcome.bind_ok_iff.mp done
    exact ⟨each, checked⟩
  · rintro ⟨each, checked⟩
    simp only [checked, made, Outcome.ok_bind]
    exact ⟨_, rfl⟩

/-! ## The verdict -/

theorem exists_validate_of_perm (names : (models.map (·.name)).Nodup)
    (named : ∀ m ∈ models, m.name ≠ "") (perm : models.Perm others)
    (done : ∃ report, validate models = .ok report) : ∃ report, validate others = .ok report := by
  have named' : ∀ m ∈ others, m.name ≠ "" := fun m mem => named m (perm.mem_iff.mpr mem)
  have same := Model.find?_perm names perm
  apply exists_validate_iff.mpr
  intro m mem
  have ends := exists_validate_iff.mp done m (perm.mem_iff.mpr mem)
  -- every model is registered, in either order
  rwa [filter_named named', ← checkModel_congr (fun _ _ name _ => congrFun same name),
    ← filter_named named]

theorem clean_validate_of_perm (names : (models.map (·.name)).Nodup) (perm : models.Perm others)
    (clean : Clean (validate models)) : Clean (validate others) := by
  obtain ⟨sound, clear, junctions⟩ := validate_clean_iff.mp clean
  have same := Model.find?_perm names perm
  have planned := Plan.junctions_perm names perm clear
  obtain ⟨distinct, makeable⟩ :=
    (checkJunctionsFrom_clean_iff Plan.junctions_pairs_nodup).mp junctions
  refine validate_clean_iff.mpr ⟨?_, Plan.problems_eq_nil_of_perm perm clear, ?_⟩
  · intro m mem
    exact (sound m (perm.mem_iff.mpr mem)).congr same
  · apply (checkJunctionsFrom_clean_iff Plan.junctions_pairs_nodup).mpr
    refine ⟨(planned.map _).nodup_iff.mp distinct, ?_⟩
    intro j mem
    exact (makeable j (planned.mem_iff.mpr mem)).of_perm names perm

/-- Whether a validation finds no fault does not depend on the order of the models. -/
theorem clean_validate_perm (names : (models.map (·.name)).Nodup) (perm : models.Perm others) :
    Clean (validate models) ↔ Clean (validate others) := by
  have names' : (others.map (·.name)).Nodup := (perm.map _).nodup_iff.mp names
  exact ⟨clean_validate_of_perm names perm, clean_validate_of_perm names' perm.symm⟩

end Validation

end SchemaCompiler
