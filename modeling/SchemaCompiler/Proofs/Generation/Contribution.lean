import SchemaCompiler.Proofs.Generation.Result
import SchemaCompiler.Proofs.Resolver.Accepted
import SchemaCompiler.Proofs.Text.Order

/-!
# What models contribute to a document

A document is written from a draft (`exists_draft`), and the draft attempts each declared and each
synthesized model once, in the section of its module (`attempts_under`). What an attempt comes to is
all that decides: the names of the blocks are those of the models for which it is a block
(`Attempts.rendered_perm`), and the names that are left out are those of the others
(`Attempts.skipped_perm`).
-/

set_option autoImplicit false

namespace SchemaCompiler.Generation

open Junction (Plan)
open Resolver (requiredJunctions)
open Validation (Clean validate)

/-! ## Groups -/

/-- Taking the values of one key after the other takes each value once. -/
theorem flatMap_filter_perm {α : Type} {key : α → String} {keys : List String} {as : List α}
    (distinct : keys.Nodup) (covered : ∀ a ∈ as, key a ∈ keys) :
    (keys.flatMap fun k => as.filter (key · == k)).Perm as := by
  induction keys generalizing as with
  | nil =>
    rw [List.eq_nil_iff_forall_not_mem.mpr fun a mem => nomatch covered a mem]
    exact .refl _
  | cons k ks ih =>
    obtain ⟨new, distinct⟩ := List.nodup_cons.mp distinct
    have others : ks.flatMap (fun k' => as.filter (key · == k')) =
        ks.flatMap fun k' => (as.filter (!key · == k)).filter (key · == k') := by
      refine List.flatMap_congr fun k' mem => ?_
      rw [List.filter_filter]
      refine List.filter_congr fun a _ => ?_
      cases same : key a == k' with
      | false => rfl
      | true =>
        rw [eq_of_beq same, beq_false_of_ne fun equal : k' = k => new (equal ▸ mem)]
        rfl
    rw [List.flatMap_cons, others]
    refine ((ih distinct fun a mem => ?_).append_left _).trans (List.filter_append_perm _ as)
    obtain ⟨within, other⟩ := List.mem_filter.mp mem
    rw [Bool.not_eq_true', beq_eq_false_iff_ne] at other
    exact (List.mem_cons.mp (covered a within)).resolve_left other

variable {α : Type}

/-- Each value stands in the group of its key, once. -/
theorem groupByKey_perm (keyed : List (String × α)) :
    ((groupByKey keyed).flatMap fun g => g.2.map (g.1, ·)).Perm keyed := by
  have group (k : String) : ((keyed.filter (·.1 == k)).map (·.2)).map (k, ·) =
      keyed.filter (·.1 == k) := by
    rw [List.map_map]
    conv_rhs => rw [← List.map_id (keyed.filter (·.1 == k))]
    refine List.map_congr_left fun a mem => ?_
    rw [Function.comp_apply, ← eq_of_beq (List.of_mem_filter mem :)]
    rfl
  unfold groupByKey
  rw [List.flatMap_map]
  simp only [group]
  refine flatMap_filter_perm (Text.nodup_eraseDups _) fun a mem => ?_
  exact List.mem_eraseDups.mpr (List.mem_map_of_mem mem)

theorem groupByKey_keys_nodup (keyed : List (String × α)) :
    ((groupByKey keyed).map (·.1)).Nodup := by
  unfold groupByKey
  rw [List.map_map]
  exact (List.map_id _).symm ▸ Text.nodup_eraseDups _

/-- Declared and synthesized models with the modules that they are grouped under. -/
def assigned (models junctions : List Model) : List (String × Model) :=
  models.map (fun m => (m.homeModule, m)) ++ junctions.map fun j => (j.module, j)

theorem assigned_models (models junctions : List Model) :
    (assigned models junctions).map (·.2) = models ++ junctions := by
  unfold assigned
  simp only [List.map_append, List.map_map, Function.comp_def, List.map_id']

/-! ## Attempts -/

/-- Every model of a draft is attempted once, in one section, that of its module. -/
structure Attempts (d : Draft) (outcome : Model → Except BlockFailure ModelBlock) : Prop where
  modules : (d.groups.map (·.module)).Nodup
  once : (d.groups.flatMap fun g => g.attempts.map (g.module, ·)).Perm
    ((assigned d.models d.junctions).map fun p => (p.1, ⟨p.2, outcome p.2⟩))
  named : ∀ m b, outcome m = .ok b → b.name = m.name

/-- A draft under a plan attempts every model once. -/
theorem attempts_under (o : Options) (plan : Plan) (models junctions : List Model) :
    Attempts (.under o plan models junctions) fun m => blockUnder o
      (Draft.under o plan models junctions).formatter plan m (models ++ junctions) where
  modules := by
    unfold Draft.under
    rw [List.map_map]
    exact groupByKey_keys_nodup _
  once := by
    have grouped := groupByKey_perm (assigned models junctions)
    have tried := grouped.map fun p : String × Model => (p.1, (⟨p.2, blockUnder o
      (Draft.under o plan models junctions).formatter plan p.2 (models ++ junctions)⟩ : Attempt))
    rw [List.map_flatMap] at tried
    simp only [List.map_map, Function.comp_def] at tried
    unfold Draft.under at tried ⊢
    rw [List.flatMap_map]
    simp only [List.map_map, Function.comp_def]
    exact tried
  named := fun _ _ rendered => (blockUnder_ok rendered).1

/-- The blocks of a draft, each with the module of its section. -/
def Draft.contributions (d : Draft) : List (String × ModelBlock) :=
  d.groups.flatMap fun g => (g.attempts.filterMap (·.block?)).map (g.module, ·)

theorem Draft.contributions_blocks (d : Draft) :
    d.contributions.map (·.2) = d.attempts.filterMap (·.block?) := by
  unfold Draft.contributions Draft.attempts
  simp only [List.map_flatMap, List.map_map, Function.comp_def, List.map_id',
    List.filterMap_flatMap]

theorem Attempt.block?_eq_some_iff {a : Attempt} {b : ModelBlock} :
    a.block? = some b ↔ a.outcome = .ok b := by
  unfold Attempt.block?
  cases a.outcome with
  | ok b' => rw [Option.some.injEq, Except.ok.injEq]
  | error e => exact iff_of_false (fun h => (nomatch h)) fun h => (nomatch h)

/-- The outcome is a block. -/
def succeeds (outcome : Model → Except BlockFailure ModelBlock) (m : Model) : Bool :=
  (Attempt.mk m (outcome m)).block?.isSome

theorem succeeds_iff {outcome : Model → Except BlockFailure ModelBlock} {m : Model} :
    succeeds outcome m = true ↔ ∃ b, outcome m = .ok b :=
  Option.isSome_iff_exists.trans (exists_congr fun _ => Attempt.block?_eq_some_iff)

theorem succeeds_eq_false_iff {outcome : Model → Except BlockFailure ModelBlock} {m : Model} :
    succeeds outcome m = false ↔ ∀ b, outcome m ≠ .ok b := by
  rw [← Bool.not_eq_true, succeeds_iff, not_exists]

variable {d : Draft} {outcome : Model → Except BlockFailure ModelBlock}

namespace Attempts

theorem attempts_perm (h : Attempts d outcome) :
    d.attempts.Perm ((d.models ++ d.junctions).map fun m => ⟨m, outcome m⟩) := by
  have tried := h.once.map Prod.snd
  rw [List.map_flatMap, List.map_map] at tried
  simp only [List.map_map, Function.comp_def, List.map_id'] at tried
  rw [← assigned_models, List.map_map]
  exact tried

theorem contributions_perm (h : Attempts d outcome) : d.contributions.Perm
    ((assigned d.models d.junctions).filterMap fun p =>
      (Attempt.mk p.2 (outcome p.2)).block?.map (p.1, ·)) := by
  have made := h.once.filterMap fun p => p.2.block?.map (p.1, ·)
  rw [List.filterMap_flatMap, List.filterMap_map] at made
  unfold Draft.contributions
  simp only [List.map_filterMap]
  simpa only [List.filterMap_map, Function.comp_def] using made

/-- Every block is the outcome of a model. -/
theorem exists_outcome (h : Attempts d outcome) {p : String × ModelBlock}
    (mem : p ∈ d.contributions) : ∃ m ∈ d.models ++ d.junctions, outcome m = .ok p.2 := by
  obtain ⟨q, listed, made⟩ := List.mem_filterMap.mp (h.contributions_perm.mem_iff.mp mem)
  obtain ⟨b, done, rfl⟩ := Option.map_eq_some_iff.mp made
  exact ⟨q.2, assigned_models d.models d.junctions ▸ List.mem_map_of_mem listed,
    Attempt.block?_eq_some_iff.mp done⟩

/-- The names of the blocks are those of the models whose outcome is a block. -/
theorem rendered_perm (h : Attempts d outcome) : (d.contributions.map (·.2.name)).Perm
    (((d.models ++ d.junctions).filter (succeeds outcome)).map (·.name)) := by
  refine (h.contributions_perm.map _).trans (.of_eq ?_)
  rw [← assigned_models]
  induction assigned d.models d.junctions with
  | nil => rfl
  | cons p rest ih =>
    rw [List.map_cons, List.filter_cons, List.filterMap_cons]
    unfold succeeds Attempt.block?
    cases made : outcome p.2 with
    | error e => exact ih
    | ok b =>
      simp only [Option.map_some, Option.isSome_some, ↓reduceIte, List.map_cons]
      exact congrArg₂ _ (h.named _ _ made) ih

/-- The names that are left out are those of the models whose outcome is no block. -/
theorem skipped_perm (h : Attempts d outcome) : d.skipped.Perm
    (((d.models ++ d.junctions).filter fun m => !succeeds outcome m).map (·.name)) := by
  unfold Draft.skipped Draft.failures
  refine ((h.attempts_perm.filterMap _).map _).trans (.of_eq ?_)
  induction d.models ++ d.junctions with
  | nil => rfl
  | cons m rest ih =>
    rw [List.map_cons, List.filter_cons, List.filterMap_cons]
    unfold succeeds Attempt.failure? Attempt.block?
    cases outcome m with
    | ok b => exact ih
    | error e =>
      simp only [Option.map_some, Option.isSome_none, Bool.not_false, ↓reduceIte, List.map_cons]
      exact congrArg _ ih

end Attempts

/-- Only models of the draft are left out of it. -/
theorem Draft.mem_names_of_mem_skipped {o : Options} {plan : Plan} {models junctions : List Model}
    {name : String} (h : name ∈ (Draft.under o plan models junctions).skipped) :
    name ∈ (models ++ junctions).map (·.name) :=
  List.map_subset _ (List.filter_subset_self _)
    ((attempts_under o plan models junctions).skipped_perm.mem_iff.mp h)

/-! ## The draft that a document is written from -/

/-- A document is written under a plan from the draft of models that passed validation and of the
models of the plan's junctions. -/
structure WrittenUnder (o : Options) (now : Timestamp) (models : List Model)
    (baseline : Option String) (plan : Plan) (doc : Document) (d : Draft) : Prop where
  clean : Clean (validate models)
  junctions : Resolver.junctionModels plan models = .ok d.junctions
  draft : d = .under o (planBeside plan models d.junctions) models d.junctions
  written : ∃ made warnings, Document.stamp o now = .ok made ∧
    doc = finish o made warnings (Registry.cycles ⟨models⟩) d (legacyBlocks d baseline)

/-- A document is written from the draft of models that passed validation and of the models of their
junctions. -/
structure WrittenFrom (o : Options) (now : Timestamp) (models : List Model)
    (baseline : Option String) (doc : Document) (d : Draft) : Prop where
  clean : Clean (validate models)
  junctions : requiredJunctions models = .ok d.junctions
  draft : d = (Draft.make o (Resolver.fresh.plan models).2 models d.junctions).1
  written : ∃ made warnings, Document.stamp o now = .ok made ∧
    doc = finish o made warnings (Registry.cycles ⟨models⟩) d (legacyBlocks d baseline)

variable {o : Options} {now : Timestamp} {models : List Model} {baseline : Option String}
  {doc : Document}

/-- A generation that yields a document writes it under the plan that the resolver answers with. -/
theorem exists_draft_under {r : Resolver}
    (done : (generate o r now models baseline).result = .ok doc) :
    ∃ d, WrittenUnder o now models baseline (r.plan models).1 doc d := by
  obtain ⟨report, passed, valid, finished⟩ := generate_ok_iff.mp done
  obtain ⟨junctions, moment, made, dated, written⟩ := resultUnder_ok_iff.mp finished
  exact ⟨_, ⟨report, passed, valid⟩, made, rfl, moment, _, dated, written⟩

/-- A generation that yields a document writes it from a draft. -/
theorem exists_draft (done : (generate o .fresh now models baseline).result = .ok doc) :
    ∃ d, WrittenFrom o now models baseline doc d := by
  obtain ⟨d, under⟩ := exists_draft_under done
  refine ⟨d, under.clean, under.junctions, ?_, under.written⟩
  rw [Draft.make_fst, plan_beside]
  exact under.draft

namespace WrittenFrom

variable (from' : WrittenFrom o now models baseline doc d)

include from' in
/-- The draft is the one under the plan of the declared models. -/
theorem eq_under : d = .under o (.ofModels models) models d.junctions := by
  have accepted := Validation.accepted_of_clean from'.clean
  have plan : planBeside (.ofModels models) models d.junctions = .ofModels models := by
    unfold planBeside
    split
    · rfl
    · exact Resolver.ofModels_beside accepted from'.junctions
  have made := from'.draft
  have fresh := Resolver.plan_of_other (Resolver.keptUnder_fresh (models.map (·.name)))
  rw [Draft.make_fst, plan_beside, fresh, plan] at made
  exact made

include from' in
theorem models_eq : d.models = models := by
  rw [from'.draft]
  rfl

include from' in
/-- The draft attempts every model once. -/
theorem attempts : Attempts d fun m =>
    blockUnder o d.formatter (.ofModels models) m (models ++ d.junctions) := by
  have under := attempts_under o (.ofModels models) models d.junctions
  rwa [← from'.eq_under] at under

include from' in
/-- The declared and the synthesized models have distinct names if the declared ones have. -/
theorem names_nodup (names : (models.map (·.name)).Nodup) :
    ((models ++ d.junctions).map (·.name)).Nodup := by
  have accepted := Validation.accepted_of_clean from'.clean
  have synthesized := Resolver.names_of_junctionModels from'.junctions
  rw [List.map_append, synthesized]
  refine List.nodup_append.mpr ⟨names, accepted.junctions, ?_⟩
  rintro _ declared _ planned rfl
  obtain ⟨m, mem, same⟩ := List.mem_map.mp declared
  obtain ⟨j, among, same'⟩ := List.mem_map.mp planned
  exact (accepted.makeable j among).free m mem (same.trans same'.symm)

end WrittenFrom

end SchemaCompiler.Generation
