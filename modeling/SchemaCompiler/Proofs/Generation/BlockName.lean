import SchemaCompiler.Proofs.Generation.Accounting
import SchemaCompiler.Proofs.Generation.Independence

/-!
# The names of blocks

The junctions of a plan that a resolver keeps have distinct names after any generations
(`keeps_namesApart`), and no declared model has the name of a junction that the models plan for. So
two blocks have one name only where two declared models have it, which validation does not look at
(`blockNames_of_twins`), or where an outdated plan brings back a junction that is declared by now
(`blockNames_nodup_iff`).
-/

set_option autoImplicit false

namespace SchemaCompiler

open Junction (Plan)

/-- A planned junction is named after its pair. -/
theorem Junction.Plan.names_eq (models : List Model) :
    (Plan.ofModels models).junctions.map (·.name) =
      ((Plan.ofModels models).junctions.map (·.pair)).map Junction.nameOf := by
  rw [List.map_map]
  refine List.map_congr_left fun j planned => ?_
  obtain ⟨_, _, _, _, _, _, _, _, _, made⟩ := Plan.eq_between_of_mem planned
  rw [made]
  rfl

namespace Generation

open Validation (Clean validate)

variable {o : Options} {r : Resolver} {now : Timestamp} {models : List Model} {plan : Plan}
  {baseline : Option String} {doc : Document} {d : Draft} {q : Request}

/-! ## Junctions -/

/-- The junctions of a plan have distinct names. -/
def NamesApart (plan : Plan) : Prop := (plan.junctions.map (·.name)).Nodup

/-- Whatever plan is kept after some generations, its junctions have distinct names. -/
theorem keeps_namesApart (o : Options) (history : List Request) :
    Keeps (fun _ => NamesApart) (resolverAfter o history) := by
  refine Keeps.resolverAfter (fun r q h => ?_) history
  refine Keeps.generate h (fun accepted => accepted.junctions) fun junctions accepted made => ?_
  unfold NamesApart
  rw [Resolver.ofModels_beside accepted made]
  exact accepted.junctions

/-- A plan that is kept under the names of some models joins the pairs that their own plan joins. -/
def Current (r : Resolver) (q : Request) : Prop :=
  ∀ plan, r.keptUnder q.names = some plan →
    plan.junctions.map (·.pair) = (Plan.ofModels q.models).junctions.map (·.pair)

/-- Where no outdated plan is kept, the junctions have the names that the models plan for. -/
theorem Honest.names_of_current (h : Honest r) (current : Current r q) :
    (r.plan q.models).1.junctions.map (·.name) =
      (Plan.ofModels q.models).junctions.map (·.name) := by
  rw [Resolver.plan_fst]
  cases kept : r.keptUnder (q.models.map (·.name)) with
  | none => rfl
  | some plan =>
    have pairs := current plan kept
    obtain ⟨others, _, rfl⟩ := (h _ plan kept).1
    rw [Option.getD_some, Plan.names_eq, Plan.names_eq, pairs]

/-! ## Blocks -/

/-- The names of the blocks of a draft. -/
def Draft.blockNames (d : Draft) : List String := d.contributions.map (·.2.name)

/-- Those of some models that have a block in a draft under a plan. -/
def Draft.rendered (o : Options) (plan : Plan) (d : Draft) (models : List Model) : List Model :=
  models.filter (succeeds fun m =>
    blockUnder o d.formatter (planBeside plan d.models d.junctions) m d.allModels)

namespace WrittenUnder

variable (under : WrittenUnder o now models baseline plan doc d)

include under

theorem models_eq : d.models = models := by
  rw [under.draft]
  rfl

/-- The blocks are those of the declared and of the synthesized models that have one. -/
theorem blockNames_perm : d.blockNames.Perm ((d.rendered o plan models).map (·.name) ++
    (d.rendered o plan d.junctions).map (·.name)) := by
  have attempts := attempts_under o (planBeside plan models d.junctions) models d.junctions
  rw [← under.draft] at attempts
  have blocks := attempts.rendered_perm
  rw [List.filter_append, List.map_append, under.models_eq] at blocks
  unfold Draft.rendered Draft.allModels
  rw [under.models_eq]
  exact blocks

/-- Where the junctions have distinct names, two blocks have one name only if a declared model has
the name of another or of a synthesized one. -/
theorem blockNames_nodup_iff_of_apart (apart : NamesApart plan) : d.blockNames.Nodup ↔
    ((d.rendered o plan models).map (·.name)).Nodup ∧
      ∀ m ∈ d.rendered o plan models, ∀ j ∈ d.rendered o plan d.junctions, m.name ≠ j.name := by
  have synthesized : (d.junctions.map (·.name)).Nodup := by
    rw [Resolver.names_of_junctionModels under.junctions]
    exact apart
  have junctions : ((d.rendered o plan d.junctions).map (·.name)).Nodup :=
    synthesized.sublist (List.filter_sublist.map _)
  rw [under.blockNames_perm.nodup_iff, List.nodup_append]
  simp only [junctions, true_and, List.forall_mem_map]

end WrittenUnder

/-- The blocks of a document that any sequence of generations leads to have distinct names exactly
if the declared models that have a block do and none of them has the name of a synthesized one. That
is so for all models of distinct names unless an outdated plan was kept under the names. -/
theorem blockNames_nodup_iff (history : List Request)
    (done : (q.run o (resolverAfter o history)).result = .ok doc) :
    ∃ plan, plan = ((resolverAfter o history).plan q.models).1 ∧
      ∃ d, WrittenUnder o q.now q.models q.baseline plan doc d ∧
        (d.blockNames.Nodup ↔ ((d.rendered o plan q.models).map (·.name)).Nodup ∧
          ∀ m ∈ d.rendered o plan q.models, ∀ j ∈ d.rendered o plan d.junctions,
            m.name ≠ j.name) ∧
        (q.names.Nodup → Current (resolverAfter o history) q → d.blockNames.Nodup) := by
  obtain ⟨d, under⟩ := exists_draft_under done
  have accepted := Validation.accepted_of_clean under.clean
  have apart : NamesApart ((resolverAfter o history).plan q.models).1 :=
    (keeps_namesApart o history).plan_fst accepted.junctions
  have blocks := under.blockNames_nodup_iff_of_apart apart
  refine ⟨_, rfl, d, under, blocks, fun names current => blocks.mpr ⟨?_, ?_⟩⟩
  · exact List.Nodup.sublist (List.filter_sublist.map _) names
  · intro m declared j synthesized same
    have planned : j.name ∈ d.junctions.map (·.name) :=
      List.mem_map_of_mem (List.mem_of_mem_filter synthesized)
    rw [Resolver.names_of_junctionModels under.junctions,
      (honest_resolverAfter o history).names_of_current current] at planned
    obtain ⟨own, mem, name⟩ := List.mem_map.mp planned
    exact (accepted.makeable own mem).free m (List.mem_of_mem_filter declared)
      (same.trans name.symm)

/-- The blocks of articles, of tags, and of the junction between them have distinct names. -/
theorem blockNames_nodup_related : related.names.Nodup ∧
    Current (resolverAfter .standard []) related ∧
    ∃ doc, (related.run .standard (resolverAfter .standard [])).result = .ok doc ∧
      ∃ plan, plan = ((resolverAfter .standard []).plan related.models).1 ∧
        ∃ d, WrittenUnder .standard related.now related.models related.baseline plan doc d ∧
          d.blockNames.Nodup ∧ d.junctions.length = 1 := by
  have names : related.names.Nodup := by decide
  have current : Current (resolverAfter .standard []) related := fun _ kept => (nomatch kept)
  have clean : Clean (validate related.models) :=
    Validation.validate_clean_iff.mpr ⟨Validation.entities_sound (by decide), by cbv,
      Validation.clean_iff_toOption.mpr (by cbv)⟩
  obtain ⟨junctions, made⟩ := Resolver.exists_junctionModels
    (Validation.accepted_of_clean clean) (Model.entities_checked _)
  have dated : Document.stamp .standard related.now = .ok none := rfl
  obtain ⟨doc, done⟩ := exists_document clean made dated related.baseline
  obtain ⟨plan, is, d, under, _, distinct⟩ :=
    blockNames_nodup_iff (q := related) [] done
  have joined : (Plan.ofModels related.models).junctions.length = 1 := by cbv
  have one := congrArg List.length (Resolver.names_of_junctionModels under.junctions)
  rw [List.length_map, List.length_map, is] at one
  exact ⟨names, current, doc, done, plan, is, d, under, distinct names current, one.trans joined⟩

/-- Two articles of one name. -/
def twins : Request := ⟨.whole 0, Model.entities [("Article", []), ("Article", [])], none⟩

/-- Two models of one name pass validation, and both get a block of this name. -/
theorem blockNames_of_twins :
    ∃ doc, (twins.run .standard (resolverAfter .standard [])).result = .ok doc ∧
      ∃ plan, plan = ((resolverAfter .standard []).plan twins.models).1 ∧
        ∃ d, WrittenUnder .standard twins.now twins.models twins.baseline plan doc d ∧
          d.blockNames = ["Article", "Article"] ∧ ¬ d.blockNames.Nodup := by
  have clean : Clean (validate twins.models) :=
    Validation.validate_clean_iff.mpr ⟨Validation.entities_sound (by decide), rfl,
      Validation.clean_ok_iff.mpr rfl⟩
  have made : Resolver.requiredJunctions twins.models = .ok [] := rfl
  have dated : Document.stamp .standard twins.now = .ok none := rfl
  obtain ⟨doc, done⟩ := exists_document clean made dated twins.baseline
  obtain ⟨d, under⟩ := exists_draft_under done
  have none : d.junctions = [] := (Except.ok.inj (made.symm.trans under.junctions)).symm
  have draft := under.draft
  rw [none] at draft
  have blocks : d.blockNames = ["Article", "Article"] := by
    rw [draft]
    rfl
  refine ⟨doc, done, _, rfl, d, under, blocks, ?_⟩
  rw [blocks]
  decide

end Generation

end SchemaCompiler
