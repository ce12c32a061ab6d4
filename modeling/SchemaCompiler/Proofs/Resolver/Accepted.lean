import SchemaCompiler.Proofs.Resolver.JunctionModel
import SchemaCompiler.Proofs.Resolver.Member
import SchemaCompiler.Proofs.Resolver.Plan
import SchemaCompiler.Proofs.Validation.Accepted

/-!
# Accepted models resolve

Validation and resolution are two passes over the same models. What the first accepts the second
resolves without a failure: the models of all junctions are made, and every declared or synthesized
model gets its foreign keys and its relation members (`resolves_of_validate`). The models that are made
stand beside the declared ones without a change to the plan (`plan_with_junctions`).
-/

set_option autoImplicit false

namespace SchemaCompiler.Resolver

open Junction (Plan Implicit Side)
open Validation (Accepted)

variable {models junctions : List Model}

/-- The junction models that a resolver makes which was asked nothing before. -/
def requiredJunctions (models : List Model) : Except BlockFailure (List Model) :=
  junctionModels (fresh.plan models).1 models

/-- The models of the junctions of accepted models are made exactly if the keys of all participants
can be copied. -/
theorem exists_junctionModels_iff (accepted : Accepted models) :
    (∃ made, junctionModels (Plan.ofModels models) models = .ok made) ↔
      ∀ j ∈ (Plan.ofModels models).junctions, ∀ s ∈ j.sides, ∀ m key,
        Model.find? models s.model = some m → m.referenceKey = some key → key.Copyable := by
  have each : ∀ j ∈ (Plan.ofModels models).junctions,
      ((∃ m, junctionModel models j = .ok m) ↔ ∀ s ∈ j.sides, ∀ m key,
        Model.find? models s.model = some m → m.referenceKey = some key → key.Copyable) := by
    intro j mem
    obtain ⟨_, _, _, _, _, _, _, _, _, made⟩ := Plan.eq_between_of_mem mem
    have first : j.first.model = j.pair.1 := by rw [made]; rfl
    have second : j.second.model = j.pair.2 := by rw [made]; rfl
    exact exists_junctionModel_iff first second (accepted.makeable j mem).participants
  rw [← forall₂_congr each]
  constructor
  · rintro ⟨made, done⟩ j mem
    obtain ⟨m, _, own⟩ := Outcome.exists_of_mem_left done mem
    exact ⟨m, own⟩
  · exact Outcome.exists_mapM_ok

/-- The models of the junctions of accepted models are made if the models are checked. -/
theorem exists_junctionModels (accepted : Accepted models) (checked : ∀ m ∈ models, m.Checked) :
    ∃ made, junctionModels (Plan.ofModels models) models = .ok made := by
  refine (exists_junctionModels_iff accepted).mpr fun j mem s side m key found keyed => ?_
  exact (checked m (Model.mem_of_find? found) key (Model.mem_of_referenceKey keyed)).copyable

/-- Every synthesized model stands for a planned junction. -/
theorem exists_represents {plan : Plan} (made : junctionModels plan models = .ok junctions)
    {m : Model} (mem : m ∈ junctions) : ∃ j ∈ plan.junctions, Represents j m := by
  obtain ⟨j, planned, done⟩ := Outcome.exists_of_mem_right made mem
  exact ⟨j, planned, represents_of_junctionModel done⟩

/-- A registered name stands for the same model beside the synthesized ones. -/
theorem find?_beside (accepted : Accepted models)
    (made : junctionModels (Plan.ofModels models) models = .ok junctions) {name : String}
    {t : Model} (found : Model.find? models name = some t) :
    Model.find? (models ++ junctions) name = some t := by
  rw [Model.find?_append_of_forall_ne, found]
  intro m mem same
  obtain ⟨j, planned, represents⟩ := exists_represents made mem
  exact (accepted.makeable j planned).free t (Model.mem_of_find? found)
    ((Model.name_of_find? found).trans (same.symm.trans represents.name))

/-- Models that are synthesized by any plan change nothing about that of the accepted ones. -/
theorem ofModels_beside {plan : Plan} (accepted : Accepted models)
    (made : junctionModels plan models = .ok junctions) :
    Plan.ofModels (models ++ junctions) = Plan.ofModels models := by
  refine Plan.ofModels_append (fun m mem r within => ?_) fun m mem r within => ?_
  · obtain ⟨t, found, _⟩ := (accepted.resolvable m mem r within).target
    exact ⟨t, Model.mem_of_find? found, Model.name_of_find? found⟩
  · obtain ⟨j, _, represents⟩ := exists_represents made mem
    rw [represents.relations] at within
    obtain ⟨s, _, rfl⟩ := List.mem_map.mp within
    rfl

/-- No junction has the name of a registered model. -/
theorem junction?_eq_none (accepted : Accepted models) {m : Model} (mem : m ∈ models) :
    (Plan.ofModels models).junction? m.name = none := by
  apply List.find?_eq_none.mpr
  intro j planned same
  exact (accepted.makeable j (List.mem_reverse.mp planned)).free m mem (eq_of_beq same).symm

/-- What a side of a planned junction is. -/
theorem side_of_planned {j : Implicit} (planned : j ∈ (Plan.ofModels models).junctions) {s : Side}
    (side : s ∈ j.sides) : s.junction = j.name ∧
      (sideRelation s).expectedForeignKey = s.foreignKey ∧
      j.sides.find? (·.foreignKey == s.foreignKey) = some s := by
  have expected : (sideRelation s).expectedForeignKey = s.foreignKey :=
    if_neg fun empty => Plan.foreignKey_ne_empty planned side (eq_of_beq empty)
  have junction : s.junction = j.name := by
    obtain ⟨x, y, _, _, _, _, _, _, _, made⟩ := Plan.eq_between_of_mem planned
    rw [made] at side ⊢
    rcases List.mem_pair.mp side with rfl | rfl <;> rfl
  refine ⟨junction, expected, find?_of_unique side (beq_self_eq_true s.foreignKey) ?_⟩
  intro other there same
  exact List.inj_on_of_nodup_map (Plan.foreignKeys_nodup planned) there side (eq_of_beq same)

/-- The relations of a junction model use different keys. -/
theorem expectedForeignKeys_nodup {j : Implicit} (planned : j ∈ (Plan.ofModels models).junctions) :
    ((j.sides.map sideRelation).map (·.expectedForeignKey)).Nodup := by
  have expected : (j.sides.map sideRelation).map (·.expectedForeignKey) =
      j.sides.map (·.foreignKey) := by
    rw [List.map_map]
    exact List.map_congr_left fun s side => (side_of_planned planned side).2.1
  rw [expected]
  exact Plan.foreignKeys_nodup planned

/-- The model of a junction is told to be one by its name. -/
theorem junction?_of_represents (accepted : Accepted models) {j : Implicit}
    (planned : j ∈ (Plan.ofModels models).junctions) {m : Model} (represents : Represents j m) :
    (Plan.ofModels models).junction? m.name = some j := by
  rw [represents.name]
  apply find?_of_unique (List.mem_reverse.mpr planned) (beq_self_eq_true j.name)
  intro other there same
  exact List.inj_on_of_nodup_map accepted.junctions (List.mem_reverse.mp there) planned
    (eq_of_beq same)

/-- A relation of an accepted model can be placed. -/
theorem placeable_of_accepted (accepted : Accepted models) (checked : ∀ m ∈ models, m.Checked)
    (names : (models.map (·.name)).Nodup)
    (made : junctionModels (Plan.ofModels models) models = .ok junctions) {m : Model}
    (mem : m ∈ models) {r : Relation} (declared : r ∈ m.relations) :
    Placeable (Plan.ofModels models) m (models ++ junctions) r := by
  have resolvable := accepted.resolvable m mem r declared
  obtain ⟨t, found, keyed⟩ := resolvable.target
  exact {
    target := ⟨t, find?_beside accepted made found⟩
    referable := fun belongs => by
      obtain ⟨key, same⟩ := keyed belongs
      exact ⟨t, key, find?_beside accepted made found, same,
        .inr (checked t (Model.mem_of_find? found) key (Model.mem_of_referenceKey same))⟩
    label := fun _ => by
      unfold ownerLabel
      rw [junction?_eq_none accepted mem]
      exact ⟨_, rfl⟩
    through := fun through explicit => by
      obtain ⟨junction, there⟩ := resolvable.through through explicit
      exact ⟨junction, find?_beside accepted made there⟩
    side := fun many implicit => by
      have eligible : Junction.Eligible models ⟨m.name, r⟩ :=
        ⟨⟨m, mem, rfl, declared⟩, beq_iff_eq.mp many, implicit,
          ⟨t, Model.mem_of_find? found, Model.name_of_find? found⟩⟩
      obtain ⟨_, _, _, s, _, _, _, _, side⟩ :=
        Plan.side_of_eligible names accepted.distinct accepted.paired eligible
      exact ⟨s, side⟩ }

/-- A relation of a synthesized model can be placed. -/
theorem placeable_of_represents (accepted : Accepted models)
    (made : junctionModels (Plan.ofModels models) models = .ok junctions) {j : Implicit}
    (planned : j ∈ (Plan.ofModels models).junctions) {m : Model} (represents : Represents j m)
    {r : Relation} (declared : r ∈ m.relations) :
    Placeable (Plan.ofModels models) m (models ++ junctions) r := by
  rw [represents.relations] at declared
  obtain ⟨s, mem, rfl⟩ := List.mem_map.mp declared
  obtain ⟨p, key, found, keyed⟩ := (accepted.makeable j planned).participants s mem
  obtain ⟨_, expected, own⟩ := side_of_planned planned mem
  exact {
    target := ⟨p, find?_beside accepted made found⟩
    referable := fun _ => ⟨p, key, find?_beside accepted made found, keyed,
      .inl (expected ▸ represents.keys s mem)⟩
    label := fun _ => by
      unfold ownerLabel
      simp only [junction?_of_represents accepted planned represents, expected, own]
      exact ⟨_, rfl⟩
    through := fun _ => nofun
    side := nofun }

/-- Every declared or synthesized model gets its foreign keys and its members. -/
theorem exists_members_beside (accepted : Accepted models) (checked : ∀ m ∈ models, m.Checked)
    (names : (models.map (·.name)).Nodup)
    (made : junctionModels (Plan.ofModels models) models = .ok junctions) {m : Model}
    (mem : m ∈ models ++ junctions) :
    (∃ keys, foreignKeys m (models ++ junctions) = .ok keys) ∧
      ∃ columns, members (Plan.ofModels models) m (models ++ junctions) = .ok columns := by
  refine exists_members fun r declared => ?_
  rcases List.mem_append.mp mem with own | synthesized
  · exact placeable_of_accepted accepted checked names made own declared
  · obtain ⟨j, planned, represents⟩ := exists_represents made synthesized
    exact placeable_of_represents accepted made planned represents declared

/-! ## Resolvers that were asked before -/

/-- The resolvers that come about when a fresh one is asked for the plans of some models, without
and with the synthesized ones, any number of times in any order. -/
inductive Asked (models junctions : List Model) : Resolver → Prop
  | fresh : Asked models junctions fresh
  | declared {r : Resolver} (before : Asked models junctions r) :
    Asked models junctions (r.plan models).2
  | all {r : Resolver} (before : Asked models junctions r) :
    Asked models junctions (r.plan (models ++ junctions)).2

/-- A resolver that keeps no plan but one answers with it wherever it is the plan to make. -/
theorem plan_of_keptUnder {r : Resolver} {plan : Plan}
    (h : ∀ names kept, r.keptUnder names = some kept → kept = plan)
    (same : Plan.ofModels models = plan) : (r.plan models).1 = plan := by
  rw [plan_fst]
  cases kept : r.keptUnder (models.map (·.name)) with
  | none => exact same
  | some before => exact h _ before kept

/-- What an asked resolver keeps is the plan of the models. -/
theorem keptUnder_of_asked (beside : Plan.ofModels (models ++ junctions) = Plan.ofModels models)
    {r : Resolver} (asked : Asked models junctions r) :
    ∀ names kept, r.keptUnder names = some kept → kept = Plan.ofModels models := by
  induction asked with
  | fresh => exact fun _ _ h => (nomatch h)
  | declared _ ih =>
    intro names kept h
    rw [keptUnder_eq_some, plan_snd, plan_of_keptUnder ih rfl] at h
    cases h
    rfl
  | all _ ih =>
    intro names kept h
    rw [keptUnder_eq_some, plan_snd, plan_of_keptUnder ih beside] at h
    cases h
    rfl

/-- Whatever checked models of distinct names validation accepts, a resolver makes the models of
their junctions, and makes the foreign keys and the relation members of every declared or
synthesized model, in whatever order it is asked. -/
theorem resolves_of_validate (checked : ∀ m ∈ models, m.Checked)
    (names : (models.map (·.name)).Nodup) {report : Validation.Report}
    (passed : Validation.validate models = .ok report) (valid : report.isValid = true) :
    ∃ junctions, ∀ r, Asked models junctions r →
      junctionModels (r.plan models).1 models = .ok junctions ∧
      ∀ m ∈ models ++ junctions,
        (∃ keys, foreignKeys m (models ++ junctions) = .ok keys) ∧
        ∃ columns, members (r.plan (models ++ junctions)).1 m (models ++ junctions) =
          .ok columns := by
  have accepted := Validation.accepted_of_clean ⟨report, passed, valid⟩
  obtain ⟨junctions, made⟩ := exists_junctionModels accepted checked
  have beside := ofModels_beside accepted made
  refine ⟨junctions, fun r asked => ?_⟩
  have kept := keptUnder_of_asked beside asked
  rw [plan_of_keptUnder kept rfl, plan_of_keptUnder kept beside]
  exact ⟨made, fun m mem => exists_members_beside accepted checked names made mem⟩

/-- A blog with a relation of every kind. -/
def blog : List Model := Model.entities [
  ("Author", [.plain "profile" .hasOne "Profile", .plain "posts" .hasMany "Post",
    { Relation.plain "liked" .manyToMany "Post" with through := some ⟨"Like", "id", "id"⟩ }]),
  ("Profile", [.plain "author" .belongsTo "Author"]),
  ("Post", [.plain "author" .belongsTo "Author", .plain "tags" .manyToMany "Tag"]),
  ("Tag", [.plain "posts" .manyToMany "Post"]),
  ("Like", [.plain "author" .belongsTo "Author", .plain "post" .belongsTo "Post"])]

theorem resolves_of_validate_blog : (∀ m ∈ blog, m.Checked) ∧ (blog.map (·.name)).Nodup ∧
    ∃ report, Validation.validate blog = .ok report ∧ report.isValid = true ∧
      ∃ junctions, ∀ r, Asked blog junctions r →
        junctionModels (r.plan blog).1 blog = .ok junctions ∧
        ∀ m ∈ blog ++ junctions,
          (∃ keys, foreignKeys m (blog ++ junctions) = .ok keys) ∧
          ∃ columns, members (r.plan (blog ++ junctions)).1 m (blog ++ junctions) =
            .ok columns := by
  have checked : ∀ m ∈ blog, m.Checked := Model.entities_checked _
  have names : (blog.map (·.name)).Nodup := by decide
  have sound : ∀ m ∈ blog, Validation.Sound blog m := Validation.entities_sound (by decide)
  have clean : Validation.Clean (Validation.validate blog) :=
    Validation.validate_clean_iff.mpr ⟨sound, by cbv, Validation.clean_iff_toOption.mpr (by cbv)⟩
  obtain ⟨report, passed, valid⟩ := clean
  exact ⟨checked, names, report, passed, valid, resolves_of_validate checked names passed valid⟩

/-! ## The plan beside the synthesized models -/

/-- The plan of accepted models is the same once the models of its junctions stand among them: it
has the same junctions in the same order, every relation uses the same side, and every declaration
has its partner. The models are made if the accepted ones are checked. -/
theorem plan_with_junctions {report : Validation.Report}
    (passed : Validation.validate models = .ok report) (valid : report.isValid = true) :
    ((∀ m ∈ models, m.Checked) → ∃ made, requiredJunctions models = .ok made) ∧
    ∀ made, requiredJunctions models = .ok made →
      (Plan.ofModels (models ++ made)).junctions = (Plan.ofModels models).junctions ∧
      (∀ model relation, (Plan.ofModels (models ++ made)).side? model relation =
        (Plan.ofModels models).side? model relation) ∧
      (Plan.ofModels models).problems = [] ∧ (Plan.ofModels (models ++ made)).problems = [] := by
  have accepted := Validation.accepted_of_clean ⟨report, passed, valid⟩
  refine ⟨exists_junctionModels accepted, fun made done => ?_⟩
  have same : Plan.ofModels (models ++ made) = Plan.ofModels models :=
    ofModels_beside accepted done
  rw [same]
  exact ⟨rfl, fun _ _ => rfl, accepted.paired, accepted.paired⟩

/-- Artists who teach each other, and their works. -/
def gallery : List Model := Model.entities [
  ("Work", [.plain "artists" .manyToMany "Artist"]),
  ("Artist", [.plain "works" .manyToMany "Work",
    { Relation.plain "teachers" .manyToMany "Artist" with inverse := some "pupils" },
    .plain "pupils" .manyToMany "Artist"])]

theorem plan_with_junctions_gallery :
    ∃ report made, Validation.validate gallery = .ok report ∧ report.isValid = true ∧
      requiredJunctions gallery = .ok made ∧
      made.map (·.name) = ["ArtistToWork", "ArtistToArtist"] ∧
      (Plan.ofModels (gallery ++ made)).junctions = (Plan.ofModels gallery).junctions ∧
      (∀ model relation, (Plan.ofModels (gallery ++ made)).side? model relation =
        (Plan.ofModels gallery).side? model relation) ∧
      (Plan.ofModels gallery).problems = [] ∧ (Plan.ofModels (gallery ++ made)).problems = [] := by
  have sound : ∀ m ∈ gallery, Validation.Sound gallery m := Validation.entities_sound (by decide)
  have clean : Validation.Clean (Validation.validate gallery) :=
    Validation.validate_clean_iff.mpr ⟨sound, by cbv, Validation.clean_iff_toOption.mpr (by cbv)⟩
  obtain ⟨report, passed, valid⟩ := clean
  obtain ⟨makes, same⟩ := plan_with_junctions passed valid
  obtain ⟨made, done⟩ := makes (Model.entities_checked _)
  have planned : (Plan.ofModels gallery).junctions.map (·.name) =
      ["ArtistToWork", "ArtistToArtist"] := by cbv
  exact ⟨report, made, passed, valid, done, (names_of_junctionModels done).trans planned,
    same made done⟩

end SchemaCompiler.Resolver
