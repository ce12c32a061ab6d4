import Mathlib.Data.List.Nodup
import SchemaCompiler.Proofs.Model.Lookup
import SchemaCompiler.Proofs.Validation.Report

/-!
# Junctions that pass their checks

What a clean check of a plan's junctions says about them (`checkJunctionsFrom_clean_iff`): their
names differ from each other and from those of all models, and both participants of each have a key
to reference. The check itself comes to an end as soon as the participants are registered
(`exists_checkJunctionsFrom`).
-/

set_option autoImplicit false

namespace SchemaCompiler.Validation

open Report

/-- A junction can be made: no model has its name, and its participants are registered with a key
to reference. -/
structure Makeable (registered : List Model) (j : Junction.Implicit) : Prop where
  free : ∀ m ∈ registered, m.name ≠ j.name
  participants : ∀ s ∈ j.sides, ∃ m key, Model.find? registered s.model = some m ∧
    m.referenceKey = some key

/-- The check of one side of a junction. -/
def checkSide (registered : List Model) (s : Junction.Side) : Except Breakdown Report :=
  match Model.find? registered s.model with
  | none => .error (.unknownModel s.model)
  | some participant =>
    .ok (when participant.referenceKey.isNone
      (issue (.ofRelation s.model s.relation (.participantWithoutKey participant.name))))

/-- The check of a side is clean exactly if its participant has a key to reference. -/
theorem checkSide_clean_iff {registered : List Model} {s : Junction.Side} :
    Clean (checkSide registered s) ↔
      ∃ m key, Model.find? registered s.model = some m ∧ m.referenceKey = some key := by
  unfold checkSide
  cases found : Model.find? registered s.model with
  | none =>
    exact ⟨fun clean => absurd clean (not_clean_error _), fun ⟨_, _, other, _⟩ => nomatch other⟩
  | some participant =>
    simp only [clean_ok_iff, isValid_when, isValid_issue, Bool.or_false, Bool.not_eq_true',
      Option.isNone_eq_false_iff, Option.isSome_iff_exists]
    constructor
    · rintro ⟨key, keyed⟩
      exact ⟨participant, key, rfl, keyed⟩
    · rintro ⟨m, key, same, keyed⟩
      cases same
      exact ⟨key, keyed⟩

/-- Checks that are passed over a list are clean exactly if each of them is. -/
theorem mapM_clean_iff {α : Type} {check : α → Except Breakdown Report} {as : List α} :
    (∃ reports, as.mapM check = .ok reports ∧ (concat reports).isValid = true) ↔
      ∀ a ∈ as, Clean (check a) := by
  constructor
  · rintro ⟨reports, done, valid⟩ a mem
    rw [isValid_concat, List.all_eq_true] at valid
    obtain ⟨report, there, checked⟩ := Outcome.exists_of_mem_left done mem
    exact ⟨report, checked, valid report there⟩
  · intro clean
    obtain ⟨reports, done⟩ := Outcome.exists_mapM_ok fun a mem =>
      (clean a mem).imp fun _ checked => checked.1
    refine ⟨reports, done, ?_⟩
    rw [isValid_concat, List.all_eq_true]
    intro report there
    obtain ⟨a, mem, checked⟩ := Outcome.exists_of_mem_right done there
    exact clean_ok_iff.mp (checked ▸ clean a mem)

/-- The check of one junction is clean exactly if the junction can be made and an earlier junction
of its name is one of its pair. -/
theorem checkJunction_clean_iff {registered : List Model}
    {earlier : List (String × (String × String))} {j : Junction.Implicit} :
    Clean (checkJunction registered earlier j) ↔ Makeable registered j ∧
      ∀ e, earlier.find? (·.1 == j.name) = some e → e.2 = j.pair := by
  have taken (i : Issue) : (when (registered.any (·.name == j.name)) (issue i)).isValid = true ↔
      ∀ m ∈ registered, m.name ≠ j.name := by
    simp only [isValid_when, isValid_issue, Bool.or_false, Bool.not_eq_true', List.any_eq_false,
      beq_iff_eq, ne_eq]
  have opened : Clean (checkJunction registered earlier j) ↔
      ∃ reports, j.sides.mapM (checkSide registered) = .ok reports ∧ _ := clean_bind_iff
  rw [opened]
  constructor
  · rintro ⟨reports, done, clean⟩
    have valid := clean_ok_iff.mp clean
    rw [isValid_append, isValid_append, Bool.and_eq_true, Bool.and_eq_true] at valid
    obtain ⟨⟨twice, new⟩, sides⟩ := valid
    refine ⟨⟨(taken _).mp new, fun s mem =>
      checkSide_clean_iff.mp (mapM_clean_iff.mp ⟨reports, done, sides⟩ s mem)⟩, fun e found => ?_⟩
    simp only [found, isValid_when, isValid_issue, Bool.or_false, Bool.not_eq_true',
      bne_eq_false_iff_eq] at twice
    exact twice
  · rintro ⟨⟨free, participants⟩, own⟩
    obtain ⟨reports, done, valid⟩ := mapM_clean_iff.mpr fun s mem =>
      checkSide_clean_iff.mpr (participants s mem)
    refine ⟨reports, done, clean_ok_iff.mpr ?_⟩
    rw [isValid_append, isValid_append, Bool.and_eq_true, Bool.and_eq_true]
    refine ⟨⟨?_, (taken _).mpr free⟩, valid⟩
    split
    · next found =>
      simp only [isValid_when, isValid_issue, Bool.or_false, Bool.not_eq_true',
        bne_eq_false_iff_eq]
      exact own _ found
    · rfl

/-- A clean check of junctions of distinct pairs: each can be made, and their names are new and
differ. -/
theorem checkJunctionsFrom_clean {registered : List Model}
    {earlier : List (String × (String × String))} {js : List Junction.Implicit}
    (pairs : (earlier.map (·.2) ++ js.map (·.pair)).Nodup)
    (h : Clean (checkJunctionsFrom registered earlier js)) :
    (js.map (·.name)).Nodup ∧ (∀ j ∈ js, j.name ∉ earlier.map (·.1)) ∧
      ∀ j ∈ js, Makeable registered j := by
  induction js generalizing earlier with
  | nil => exact ⟨List.nodup_nil, fun _ mem => (nomatch mem), fun _ mem => (nomatch mem)⟩
  | cons j rest ih =>
    obtain ⟨here, later⟩ := clean_append_iff.mp h
    obtain ⟨makeable, own⟩ := checkJunction_clean_iff.mp here
    have moved : ((earlier ++ [(j.name, j.pair)]).map (·.2) ++ rest.map (·.pair)).Nodup := by
      rwa [List.map_append, List.append_assoc]
    obtain ⟨distinct, new, each⟩ := ih moved later
    rw [List.map_append] at new
    -- an earlier junction of this name would be one of this pair, and no pair comes twice
    have first : j.name ∉ earlier.map (·.1) := by
      intro known
      obtain ⟨e, mem, same⟩ := List.mem_map.mp known
      obtain ⟨e', there, _, found⟩ :=
        exists_find?_of_mem (·.1 == j.name) mem (beq_iff_eq.mpr same)
      exact List.disjoint_of_nodup_append pairs (List.mem_map_of_mem there)
        (own e' found ▸ List.mem_cons_self)
    refine ⟨List.nodup_cons.mpr ⟨fun again => ?_, distinct⟩, ?_, ?_⟩
    · obtain ⟨j', mem, same⟩ := List.mem_map.mp again
      exact new j' mem (List.mem_append_right _ (same ▸ List.mem_cons_self))
    · rintro j' mem
      rcases List.mem_cons.mp mem with rfl | within
      · exact first
      · exact fun known => new j' within (List.mem_append_left _ known)
    · rintro j' mem
      rcases List.mem_cons.mp mem with rfl | within
      · exact makeable
      · exact each j' within

/-- Junctions of distinct new names that can be made pass their check. -/
theorem clean_checkJunctionsFrom {registered : List Model}
    {earlier : List (String × (String × String))} {js : List Junction.Implicit}
    (distinct : (js.map (·.name)).Nodup) (new : ∀ j ∈ js, j.name ∉ earlier.map (·.1))
    (makeable : ∀ j ∈ js, Makeable registered j) :
    Clean (checkJunctionsFrom registered earlier js) := by
  induction js generalizing earlier with
  | nil => exact clean_ok_iff.mpr rfl
  | cons j rest ih =>
    obtain ⟨differs, later⟩ := List.nodup_cons.mp distinct
    refine clean_append_iff.mpr ⟨checkJunction_clean_iff.mpr ⟨?_, ?_⟩, ih later ?_ ?_⟩
    · exact makeable j List.mem_cons_self
    · intro e found
      have known : j.name ∈ earlier.map (·.1) :=
        List.mem_map.mpr ⟨e, List.mem_of_find?_eq_some found, eq_of_beq (List.find?_some found :)⟩
      exact absurd known (new j List.mem_cons_self)
    · intro j' mem known
      rw [List.map_append, List.mem_append] at known
      rcases known with known | known
      · exact new j' (List.mem_cons_of_mem j mem) known
      · have same : j'.name = j.name := List.mem_singleton.mp known
        exact differs (List.mem_map.mpr ⟨j', mem, same⟩)
    · intro j' mem
      exact makeable j' (List.mem_cons_of_mem j mem)

/-- Junctions of distinct pairs pass their check exactly if their names differ and each can be
made. -/
theorem checkJunctionsFrom_clean_iff {registered : List Model} {js : List Junction.Implicit}
    (pairs : (js.map (·.pair)).Nodup) : Clean (checkJunctionsFrom registered [] js) ↔
      (js.map (·.name)).Nodup ∧ ∀ j ∈ js, Makeable registered j := by
  constructor
  · intro clean
    obtain ⟨distinct, _, makeable⟩ := checkJunctionsFrom_clean (by exact pairs) clean
    exact ⟨distinct, makeable⟩
  · rintro ⟨distinct, makeable⟩
    exact clean_checkJunctionsFrom distinct (fun _ _ => List.not_mem_nil) makeable

/-- The check of junctions comes to an end if their participants are registered. -/
theorem exists_checkJunctionsFrom {registered : List Model}
    {earlier : List (String × (String × String))} {js : List Junction.Implicit}
    (participants : ∀ j ∈ js, ∀ s ∈ j.sides, ∃ m, Model.find? registered s.model = some m) :
    ∃ report, checkJunctionsFrom registered earlier js = .ok report := by
  induction js generalizing earlier with
  | nil => exact ⟨_, rfl⟩
  | cons j rest ih =>
    obtain ⟨sides, checked⟩ : ∃ reports, j.sides.mapM (checkSide registered) = .ok reports := by
      apply Outcome.exists_mapM_ok
      intro s mem
      obtain ⟨m, found⟩ := participants j List.mem_cons_self s mem
      unfold checkSide
      rw [found]
      exact ⟨_, rfl⟩
    obtain ⟨here, made⟩ : ∃ report, checkJunction registered earlier j = .ok report :=
      ⟨_, Outcome.bind_ok_iff.mpr ⟨sides, checked, rfl⟩⟩
    obtain ⟨later, done⟩ := ih fun j' mem => participants j' (List.mem_cons_of_mem j mem)
    refine ⟨here ++ later, ?_⟩
    unfold checkJunctionsFrom
    rw [made, Outcome.ok_bind, done]
    rfl

end SchemaCompiler.Validation
