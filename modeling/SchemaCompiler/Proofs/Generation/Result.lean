import SchemaCompiler.Generation.Basic
import SchemaCompiler.Proofs.Generation.Draft
import SchemaCompiler.Proofs.Resolver.JunctionModel
import SchemaCompiler.Proofs.Validation.Report

/-!
# Results under a plan

The result of a generation depends on the resolver through one thing only, the plan that it answers
for the declared models (`generate_result`), and under a plan there is a document if the models of
the junctions are made and it can be dated (`resultUnder_ok_iff`). Of the plan only the pairs of its
junctions matter (`resultUnder_congr`): the synthesized models are made from the pairs, and beside
them the members are planned anew.
-/

set_option autoImplicit false

namespace SchemaCompiler.Generation

open Junction (Plan Implicit)

/-- The plan for declared and synthesized models once the declared ones were planned: without
synthesized models their names are the same and the plan stays. -/
def planBeside (plan : Plan) (models junctions : List Model) : Plan :=
  if junctions.isEmpty then plan else .ofModels (models ++ junctions)

/-- The result of generating from valid models under the plan for the declared ones. -/
def resultUnder (o : Options) (now : Timestamp) (models : List Model) (baseline : Option String)
    (warnings : List String) (plan : Plan) : Except Failure Document :=
  match Resolver.junctionModels plan models with
  | .error e => .error (.junctions e)
  | .ok junctions =>
    let draft := Draft.under o (planBeside plan models junctions) models junctions
    match Document.stamp o now with
    | .error e => .error (.undated e)
    | .ok made =>
      .ok (finish o made warnings (Registry.cycles ⟨models⟩) draft (legacyBlocks draft baseline))

variable {o : Options} {now : Timestamp} {models : List Model} {baseline : Option String}

theorem plan_beside (r : Resolver) (junctions : List Model) :
    ((r.plan models).2.plan (models ++ junctions)).1 =
      planBeside (r.plan models).1 models junctions := by
  cases junctions with
  | nil =>
    rw [List.append_nil, r.plan_again rfl]
    rfl
  | cons j rest =>
    refine Resolver.plan_of_other ?_
    -- the list with the synthesized models is longer, so its names are others
    cases kept : (r.plan models).2.keptUnder ((models ++ j :: rest).map (·.name)) with
    | none => rfl
    | some plan =>
      rw [Resolver.keptUnder_eq_some, Resolver.plan_snd] at kept
      have names := congrArg List.length (Prod.mk.inj (Option.some.inj kept)).1
      simp only [List.length_map, List.length_append, List.length_cons] at names
      omega

/-- What valid models yield depends on the resolver through its plan for them. -/
theorem generateValid_result (r : Resolver) (warnings : List String) :
    (generateValid o r now models baseline warnings).result =
      resultUnder o now models baseline warnings (r.plan models).1 := by
  unfold generateValid resultUnder
  simp only
  cases Resolver.junctionModels (r.plan models).1 models with
  | error e => rfl
  | ok junctions =>
    cases Document.stamp o now with
    | error e => rfl
    | ok made => simp only [Draft.make_fst, plan_beside]

/-- What models yield depends on the resolver through its plan for them. -/
theorem generate_result (r : Resolver) :
    (generate o r now models baseline).result =
      match Validation.validate models with
      | .error b => .error (.broken b)
      | .ok report =>
        if report.isValid then
          resultUnder o now models baseline report.warningTexts (r.plan models).1
        else .error (.invalid report) := by
  unfold generate
  cases Validation.validate models with
  | error b => rfl
  | ok report =>
    simp only
    split
    · exact generateValid_result r _
    · rfl

/-- Models that pass validation yield what the plan for them makes of them. -/
theorem generate_result_of_valid (r : Resolver) {report : Validation.Report}
    (passed : Validation.validate models = .ok report) (valid : report.isValid = true) :
    (generate o r now models baseline).result =
      resultUnder o now models baseline report.warningTexts (r.plan models).1 := by
  rw [generate_result, passed]
  exact if_pos valid

/-- A document is what models yield that pass validation. -/
theorem generate_ok_iff {r : Resolver} {doc : Document} :
    (generate o r now models baseline).result = .ok doc ↔
      ∃ report, Validation.validate models = .ok report ∧ report.isValid = true ∧
        resultUnder o now models baseline report.warningTexts (r.plan models).1 = .ok doc := by
  constructor
  · intro done
    rw [generate_result] at done
    split at done
    · cases done
    · next report passed =>
      split at done
      · next valid => exact ⟨report, passed, valid, done⟩
      · cases done
  · rintro ⟨report, passed, valid, done⟩
    exact (generate_result_of_valid r passed valid).trans done

/-- Under a plan there is a document exactly if the models of the junctions are made and the
document can be dated. It is finished from the draft under the plan. -/
theorem resultUnder_ok_iff {warnings : List String} {plan : Plan} {doc : Document} :
    resultUnder o now models baseline warnings plan = .ok doc ↔
      ∃ junctions made, Resolver.junctionModels plan models = .ok junctions ∧
        Document.stamp o now = .ok made ∧
        doc = finish o made warnings (Registry.cycles ⟨models⟩)
          (.under o (planBeside plan models junctions) models junctions)
          (legacyBlocks (.under o (planBeside plan models junctions) models junctions)
            baseline) := by
  unfold resultUnder
  constructor
  · intro done
    split at done
    · cases done
    · next junctions made =>
      simp only at done
      split at done
      · cases done
      · next moment dated => exact ⟨junctions, moment, made, dated, (Except.ok.inj done).symm⟩
  · rintro ⟨junctions, moment, made, dated, rfl⟩
    simp only [made, dated]

/-! ## The resolver that is left -/

/-- Valid models leave a resolver that was asked about them, and then about all models if those of
the junctions were made. -/
theorem generateValid_resolver (r : Resolver) (warnings : List String) :
    (generateValid o r now models baseline warnings).resolver = (r.plan models).2 ∨
      ∃ junctions, Resolver.junctionModels (r.plan models).1 models = .ok junctions ∧
        AskedAbout (models ++ junctions) (r.plan models).2
          (generateValid o r now models baseline warnings).resolver := by
  unfold generateValid
  simp only
  cases Resolver.junctionModels (r.plan models).1 models with
  | error e => exact .inl rfl
  | ok junctions => exact .inr ⟨junctions, rfl, Draft.make_snd _⟩

/-- Models that pass validation are generated from. -/
theorem generate_resolver_of_clean (o : Options) (r : Resolver) (now : Timestamp)
    (baseline : Option String) (h : Validation.Clean (Validation.validate models)) :
    ∃ warnings, (generate o r now models baseline).resolver =
      (generateValid o r now models baseline warnings).resolver := by
  obtain ⟨report, passed, valid⟩ := h
  unfold generate
  simp only [passed, valid, ↓reduceIte]
  exact ⟨_, rfl⟩

/-- Models that do not pass validation leave the resolver alone. -/
theorem generate_resolver_of_not_clean (r : Resolver)
    (h : ¬ Validation.Clean (Validation.validate models)) :
    (generate o r now models baseline).resolver = r := by
  unfold generate
  cases passed : Validation.validate models with
  | error b => rfl
  | ok report =>
    have invalid : ¬ report.isValid = true := fun valid => h ⟨report, passed, valid⟩
    simp only [if_neg invalid]

/-! ## Plans with the same pairs -/

/-- The models of the junctions of some pairs. -/
def pairModels (models : List Model) (pairs : List (String × String)) :
    Except BlockFailure (List Model) :=
  pairs.mapM fun pair => Resolver.junctionModel models (.between pair "" "")

/-- The synthesized models are made from the pairs. -/
theorem junctionModels_eq_pairModels {declared : List Model} :
    Resolver.junctionModels (.ofModels declared) models =
      pairModels models ((Plan.ofModels declared).junctions.map (·.pair)) := by
  unfold Resolver.junctionModels pairModels
  rw [List.mapM_map]
  refine Outcome.mapM_congr fun j mem => ?_
  obtain ⟨x, y, _, _, _, _, _, _, _, eq⟩ := Plan.eq_between_of_mem mem
  rw [eq]
  rfl

/-- Plans with the same pairs yield the same result. -/
theorem resultUnder_congr {declared others : List Model} {warnings : List String}
    (pairs : (Plan.ofModels declared).junctions.map (·.pair) =
      (Plan.ofModels others).junctions.map (·.pair)) :
    resultUnder o now models baseline warnings (.ofModels declared) =
      resultUnder o now models baseline warnings (.ofModels others) := by
  unfold resultUnder
  rw [junctionModels_eq_pairModels, junctionModels_eq_pairModels, ← pairs]
  cases made : pairModels models ((Plan.ofModels declared).junctions.map (·.pair)) with
  | error e => rfl
  | ok junctions =>
    have drafts :
        Draft.under o (planBeside (.ofModels declared) models junctions) models junctions =
          Draft.under o (planBeside (.ofModels others) models junctions) models junctions := by
      cases junctions with
      | nil =>
        -- nothing was synthesized, so neither plan has a junction
        have none : (Plan.ofModels declared).junctions.map (·.pair) = [] :=
          List.forall₂_nil_right_iff.mp (Outcome.mapM_ok_iff.mp made)
        refine Draft.under_congr ?_
        show (Plan.ofModels declared).junctions = (Plan.ofModels others).junctions
        rw [List.map_eq_nil_iff.mp none, List.map_eq_nil_iff.mp (pairs.symm.trans none)]
      | cons j rest => rfl
    simp only [drafts]

end SchemaCompiler.Generation
