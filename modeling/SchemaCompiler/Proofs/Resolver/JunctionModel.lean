import SchemaCompiler.Proofs.Junction.Plan
import SchemaCompiler.Proofs.Resolver.ForeignKey
import SchemaCompiler.Resolver.JunctionModel

/-!
# Junction models

A junction model stands for its junction: it has the junction's name, one required key for each side
and one relation for each side that owns the key (`represents_of_junctionModel`). If both
participants are registered with a key, it can be made exactly if their keys can be copied
(`exists_junctionModel_iff`).
-/

set_option autoImplicit false

namespace SchemaCompiler.Resolver

open Junction (Implicit Plan Side)

/-- A model stands for a junction: it declares a key and an owning relation for each side. -/
structure Represents (j : Implicit) (m : Model) : Prop where
  name : m.name = j.name
  relations : m.relations = j.sides.map sideRelation
  keys : ∀ s ∈ j.sides, (m.field? s.foreignKey).isSome

/-- The key of a side is a copy of the key of its participant. -/
theorem sideField_ok {models : List Model} {j : Implicit} {s : Side} {f : Field}
    (h : sideField models j s = .ok f) : ∃ p key, Model.find? models s.model = some p ∧
      p.referenceKey = some key ∧
      buildField { keyCopy s.foreignKey key with required := true } = .ok f := by
  obtain ⟨p, present, rest⟩ := Outcome.bind_ok_iff.mp h
  unfold participant at present
  split at present
  · next found =>
    cases present
    split at rest
    · cases rest
    · next key keyed => exact ⟨p, key, found, keyed, rest⟩
  · cases present

/-- The key of a side has the name that the side gives it. -/
theorem name_of_sideField {models : List Model} {j : Implicit} {s : Side} {f : Field}
    (h : sideField models j s = .ok f) : f.name = s.foreignKey := by
  obtain ⟨_, _, _, _, built⟩ := sideField_ok h
  exact name_of_buildField built

/-- The model that is made for a junction has the name of the junction, and a key and a relation for
each side. -/
theorem junctionModel_ok {models : List Model} {j : Implicit} {m : Model}
    (h : junctionModel models j = .ok m) :
    m.name = j.name ∧ m.relations = j.sides.map sideRelation ∧
      j.sides.mapM (sideField models j) = .ok m.fields := by
  obtain ⟨first, _, rest⟩ := Outcome.bind_ok_iff.mp h
  obtain ⟨second, _, rest⟩ := Outcome.bind_ok_iff.mp rest
  obtain ⟨fields, made, done⟩ := Outcome.bind_ok_iff.mp rest
  cases done
  exact ⟨rfl, rfl, made⟩

theorem constraints_of_junctionModel {models : List Model} {j : Implicit} {m : Model}
    (h : junctionModel models j = .ok m) : m.constraints = [] := by
  obtain ⟨first, _, rest⟩ := Outcome.bind_ok_iff.mp h
  obtain ⟨second, _, rest⟩ := Outcome.bind_ok_iff.mp rest
  obtain ⟨fields, _, done⟩ := Outcome.bind_ok_iff.mp rest
  cases done
  rfl

theorem fieldNames_of_junctionModel {models : List Model} {j : Implicit} {m : Model}
    (h : junctionModel models j = .ok m) : m.fieldNames = j.sides.map (·.foreignKey) :=
  Outcome.map_eq_of_mapM (junctionModel_ok h).2.2 fun _ _ => name_of_sideField

/-- The model that is made for a junction stands for it. -/
theorem represents_of_junctionModel {models : List Model} {j : Implicit} {m : Model}
    (h : junctionModel models j = .ok m) : Represents j m := by
  obtain ⟨name, relations, made⟩ := junctionModel_ok h
  refine ⟨name, relations, fun s mem => ?_⟩
  obtain ⟨f, there, own⟩ := Outcome.exists_of_mem_left made mem
  exact List.find?_isSome.mpr ⟨f, there, beq_iff_eq.mpr (name_of_sideField own)⟩

/-- A junction whose model is made has participants with a key to reference. -/
theorem participants_of_junctionModel {models : List Model} {j : Implicit} {m : Model}
    (h : junctionModel models j = .ok m) :
    ∀ s ∈ j.sides, ∃ p key, Model.find? models s.model = some p ∧ p.referenceKey = some key := by
  intro s mem
  obtain ⟨f, _, own⟩ := Outcome.exists_of_mem_left (junctionModel_ok h).2.2 mem
  obtain ⟨p, key, found, keyed, _⟩ := sideField_ok own
  exact ⟨p, key, found, keyed⟩

/-- The names of the models that are made are those of the junctions. -/
theorem names_of_junctionModels {plan : Plan} {models made : List Model}
    (h : junctionModels plan models = .ok made) :
    made.map (·.name) = plan.junctions.map (·.name) :=
  Outcome.map_eq_of_mapM h fun _ _ here => (represents_of_junctionModel here).name

/-! ## Making junction models -/

theorem participant_of_find? {models : List Model} {name : String} {m : Model}
    (h : Model.find? models name = some m) : participant models name = .ok m := by
  unfold participant
  rw [h]

/-- A side gets its own key exactly if that of its participant can be copied. -/
theorem exists_sideField_iff {models : List Model} {j : Implicit} {s : Side} {m : Model}
    {key : Field} (found : Model.find? models s.model = some m)
    (keyed : m.referenceKey = some key) :
    (∃ f, sideField models j s = .ok f) ↔ key.Copyable := by
  unfold sideField
  rw [participant_of_find? found, Outcome.ok_bind, keyed]
  exact exists_buildField_iff

/-- A junction whose sides belong to its pair and whose participants are registered with keys can be
made exactly if the keys can be copied. -/
theorem exists_junctionModel_iff {models : List Model} {j : Implicit}
    (first : j.first.model = j.pair.1) (second : j.second.model = j.pair.2)
    (participants : ∀ s ∈ j.sides, ∃ m key, Model.find? models s.model = some m ∧
      m.referenceKey = some key) :
    (∃ m, junctionModel models j = .ok m) ↔ ∀ s ∈ j.sides, ∀ m key,
      Model.find? models s.model = some m → m.referenceKey = some key → key.Copyable := by
  constructor
  · rintro ⟨m, made⟩ s mem p key found keyed
    obtain ⟨f, _, own⟩ := Outcome.exists_of_mem_left (junctionModel_ok made).2.2 mem
    exact (exists_sideField_iff found keyed).mp ⟨f, own⟩
  · intro copyable
    obtain ⟨m₁, _, found₁, _⟩ := participants j.first List.mem_cons_self
    obtain ⟨m₂, _, found₂, _⟩ :=
      participants j.second (List.mem_cons_of_mem _ List.mem_cons_self)
    obtain ⟨fields, made⟩ : ∃ fields, j.sides.mapM (sideField models j) = .ok fields := by
      refine Outcome.exists_mapM_ok fun s mem => ?_
      obtain ⟨m, key, found, keyed⟩ := participants s mem
      exact (exists_sideField_iff found keyed).mpr (copyable s mem m key found keyed)
    unfold junctionModel
    rw [← first, ← second, participant_of_find? found₁, participant_of_find? found₂,
      Outcome.ok_bind, Outcome.ok_bind, made]
    exact ⟨_, rfl⟩

end SchemaCompiler.Resolver
