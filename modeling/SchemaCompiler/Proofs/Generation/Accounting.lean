import SchemaCompiler.Proofs.Generation.Contribution
import SchemaCompiler.Proofs.Model.Lookup
import SchemaCompiler.Proofs.Text.Join

/-!
# Every model is accounted for

A document loses no model and doubles none. Each declared and each synthesized model has one block,
in the only section of its module, or is listed once among those that were left out, and the counts
of the document add up to all of them. Of an earlier document just those blocks are carried over
whose names no block of a model has, in their order and as they were (`every_model_accounted`).
-/

set_option autoImplicit false

namespace SchemaCompiler.Generation

open Junction (Plan)
open Resolver (requiredJunctions)
open Text (Occurs)
open Validation (Clean validate)

variable {d : Draft} {outcome : Model → Except BlockFailure ModelBlock} {m : Model}
  {p : String × Model} {module : String} {b : ModelBlock}

namespace Attempts

theorem mem_rendered (h : Attempts d outcome) (mem : m ∈ d.models ++ d.junctions)
    (made : succeeds outcome m = true) : m.name ∈ d.contributions.map (·.2.name) :=
  h.rendered_perm.mem_iff.mpr (List.mem_map_of_mem (List.mem_filter.mpr ⟨mem, made⟩))

theorem mem_skipped (h : Attempts d outcome) (mem : m ∈ d.models ++ d.junctions)
    (failed : succeeds outcome m = false) : m.name ∈ d.skipped :=
  h.skipped_perm.mem_iff.mpr
    (List.mem_map_of_mem (List.mem_filter.mpr ⟨mem, by rw [failed, Bool.not_false]⟩))

/-- Every model has a block or is left out. -/
theorem rendered_or_skipped (h : Attempts d outcome) (mem : m ∈ d.models ++ d.junctions) :
    m.name ∈ d.contributions.map (·.2.name) ∨ m.name ∈ d.skipped := by
  cases made : succeeds outcome m with
  | true => exact .inl (h.mem_rendered mem made)
  | false => exact .inr (h.mem_skipped mem made)

variable (h : Attempts d outcome) (names : ((d.models ++ d.junctions).map (·.name)).Nodup)

include h names

/-- No two blocks have one name. -/
theorem contributions_nodup : (d.contributions.map (·.2.name)).Nodup :=
  h.rendered_perm.nodup_iff.mpr (names.sublist (List.filter_sublist.map _))

/-- No name is left out twice. -/
theorem skipped_nodup : d.skipped.Nodup :=
  h.skipped_perm.nodup_iff.mpr (names.sublist (List.filter_sublist.map _))

/-- A model is left out exactly if its outcome is no block. -/
theorem mem_skipped_iff (mem : m ∈ d.models ++ d.junctions) :
    m.name ∈ d.skipped ↔ succeeds outcome m = false := by
  refine ⟨fun out => ?_, h.mem_skipped mem⟩
  obtain ⟨m', failed, same⟩ := List.mem_map.mp (h.skipped_perm.mem_iff.mp out)
  obtain ⟨mem', failed⟩ := List.mem_filter.mp failed
  rw [List.inj_on_of_nodup_map names mem' mem same, Bool.not_eq_true'] at failed
  exact failed

/-- What has a block is not left out. -/
theorem mem_rendered_iff_not_mem_skipped {name : String} :
    name ∈ d.contributions.map (·.2.name) ↔
      name ∈ (d.models ++ d.junctions).map (·.name) ∧ name ∉ d.skipped := by
  constructor
  · intro rendered
    obtain ⟨m, made, rfl⟩ := List.mem_map.mp (h.rendered_perm.mem_iff.mp rendered)
    obtain ⟨mem, made⟩ := List.mem_filter.mp made
    refine ⟨List.mem_map_of_mem mem, fun out => ?_⟩
    rw [(h.mem_skipped_iff names mem).mp out] at made
    cases made
  · rintro ⟨listed, kept⟩
    obtain ⟨m, mem, rfl⟩ := List.mem_map.mp listed
    exact (h.rendered_or_skipped mem).resolve_right kept

/-- A model has one block, in the section of its module, and is not left out, or it has no block and
is left out once. -/
theorem rendered_xor_skipped (mem : p ∈ assigned d.models d.junctions) :
    (∃ b, d.contributions.filter (·.2.name == p.2.name) = [(p.1, b)]) ∧
        d.skipped.count p.2.name = 0 ∨
      d.contributions.filter (·.2.name == p.2.name) = [] ∧ d.skipped.count p.2.name = 1 := by
  have within : p.2 ∈ d.models ++ d.junctions :=
    assigned_models d.models d.junctions ▸ List.mem_map_of_mem mem
  cases made : outcome p.2 with
  | ok b =>
    have kept : succeeds outcome p.2 = true := succeeds_iff.mpr ⟨b, made⟩
    have listed : (p.1, b) ∈ d.contributions := by
      refine h.contributions_perm.mem_iff.mpr (List.mem_filterMap.mpr ⟨p, mem, ?_⟩)
      rw [Attempt.block?_eq_some_iff.mpr made]
      rfl
    refine .inl ⟨⟨b, ?_⟩, List.count_eq_zero_of_not_mem fun out => ?_⟩
    · rw [← h.named _ _ made]
      exact filter_name_eq_singleton (h.contributions_nodup names) listed
    · rw [(h.mem_skipped_iff names within).mp out] at kept
      cases kept
  | error e =>
    have failed : succeeds outcome p.2 = false := by
      refine succeeds_eq_false_iff.mpr fun b done => ?_
      cases made.symm.trans done
    have out := h.mem_skipped within failed
    refine .inr ⟨List.filter_eq_nil_iff.mpr fun q listed same => ?_, ?_⟩
    · have rendered : p.2.name ∈ d.contributions.map (·.2.name) :=
        List.mem_map.mpr ⟨q, listed, eq_of_beq same⟩
      exact ((h.mem_rendered_iff_not_mem_skipped names).mp rendered).2 out
    · exact List.count_eq_one_of_mem (h.skipped_nodup names) out

/-! ## Counts -/

/-- The declared models that are counted are those whose outcome is a block. -/
theorem modelCount_eq : d.modelCount = (d.models.filter (succeeds outcome)).length := by
  have apart : ∀ m ∈ d.models, d.junctionNames.contains m.name = false := by
    intro m mem
    rw [List.map_append] at names
    refine Bool.eq_false_iff.mpr fun junction => ?_
    exact List.disjoint_of_nodup_append names (List.mem_map_of_mem mem)
      (List.contains_iff_mem.mp junction)
  have within : ∀ j ∈ d.junctions, d.junctionNames.contains j.name = true := fun j mem =>
    List.contains_iff_mem.mpr (List.mem_map_of_mem mem)
  unfold Draft.modelCount
  rw [(h.attempts_perm.filter _).length_eq, List.filter_map, List.length_map, List.filter_append,
    List.length_append]
  have declared (m : Model) (mem : m ∈ d.models) :
      (succeeds outcome m && !d.junctionNames.contains m.name) = succeeds outcome m := by
    rw [apart m mem, Bool.not_false, Bool.and_true]
  have synthesized (j : Model) (mem : j ∈ d.junctions) :
      ¬ (succeeds outcome j && !d.junctionNames.contains j.name) = true := by
    rw [within j mem, Bool.not_true, Bool.and_false]
    exact Bool.false_ne_true
  show (d.models.filter fun m => succeeds outcome m && !d.junctionNames.contains m.name).length +
    (d.junctions.filter fun j => succeeds outcome j && !d.junctionNames.contains j.name).length = _
  rw [List.filter_congr declared, List.filter_eq_nil_iff.mpr synthesized, List.length_nil,
    Nat.add_zero]

/-- The synthesized models that are counted are those whose outcome is a block. -/
theorem junctionCount_eq : d.junctionCount = (d.junctions.filter (succeeds outcome)).length := by
  unfold Draft.junctionCount
  refine congrArg List.length (List.filter_congr fun j mem => ?_)
  have out := h.mem_skipped_iff names (List.mem_append_right d.models mem)
  cases made : succeeds outcome j with
  | true =>
    have kept : j.name ∉ d.skipped := fun left => by
      rw [out.mp left] at made
      cases made
    simp only [List.contains_eq_mem, kept, decide_false, Bool.not_false]
  | false => simp only [List.contains_eq_mem, out.mpr made, decide_true, Bool.not_true]

/-- Every block is counted, and every model that has none is left out. -/
theorem counts_add_up : d.modelCount + d.junctionCount = d.contributions.length ∧
    d.modelCount + d.junctionCount + d.skipped.length = d.models.length + d.junctions.length := by
  have rendered : d.modelCount + d.junctionCount =
      ((d.models ++ d.junctions).filter (succeeds outcome)).length := by
    rw [h.modelCount_eq names, h.junctionCount_eq names, List.filter_append, List.length_append]
  have blocks := h.rendered_perm.length_eq
  have left := h.skipped_perm.length_eq
  rw [List.length_map, List.length_map] at blocks
  rw [List.length_map] at left
  rw [rendered, left]
  exact ⟨blocks.symm, (List.length_eq_length_filter_add _).symm.trans List.length_append⟩

end Attempts

/-! ## Texts -/

/-- The block of a model stands in the text of a section, the only one of its module. -/
theorem Attempts.exists_section (h : Attempts d outcome) (mem : (module, b) ∈ d.contributions) :
    ∃ g text, d.groups.filter (·.module == module) = [g] ∧
      g.sectionText? d.formatter = some text ∧ text ∈ d.sections ∧
      Occurs (b.render d.formatter) text := by
  obtain ⟨g, grouped, here⟩ := List.mem_flatMap.mp mem
  obtain ⟨b', made, same⟩ := List.mem_map.mp here
  cases same
  have full : (g.attempts.filterMap (·.block?)).isEmpty = false :=
    List.isEmpty_eq_false_iff_exists_mem.mpr ⟨b, made⟩
  have text : g.sectionText? d.formatter = some (Document.moduleSection d.formatter g.module
      g.rendered ((g.attempts.filterMap (·.block?)).map (·.render d.formatter))) := by
    unfold Group.sectionText?
    simp only [full, Bool.false_eq_true, ↓reduceIte]
  refine ⟨g, _, filter_name_eq_singleton h.modules grouped, text, ?_, ?_⟩
  · exact List.mem_filterMap.mpr ⟨g, grouped, text⟩
  · exact Text.occurs_of_mem (List.mem_append_right _ (List.mem_map_of_mem made))

section Assembled

variable (o : Options) (made : Option Moment) {sections : List String} {legacy : List Block}
  (schemas : List String)

/-- Texts under a banner stand in a document in a row. -/
theorem occurs_headed (before : List String) (title : String) (texts after : List String) :
    Occurs ("\n\n".intercalate texts)
      ("\n\n".intercalate (before ++ Document.headed title texts ++ after)) := by
  unfold Document.headed
  split
  · next empty =>
    rw [List.isEmpty_iff.mp empty, String.intercalate_nil]
    exact .empty _
  · have row :=
      Text.occurs_intercalate_append "\n\n" (before ++ [Document.banner title]) texts after
    simpa only [List.append_assoc, List.cons_append, List.nil_append] using row

theorem occurs_legacy :
    Occurs ("\n\n".intercalate (legacy.map (·.text)))
      (Document.assemble o made sections legacy schemas) :=
  (occurs_headed _ _ _ _).append_right _

theorem occurs_section {text : String} (mem : text ∈ sections) :
    Occurs text (Document.assemble o made sections legacy schemas) := by
  have row := occurs_headed ([Document.header o made, Document.datasource o schemas,
    Document.clientGenerator o (Document.previewFeatures schemas)] ++
      Document.headed "LEGACY MODELS (NOT YET DECLARED AS DESCRIPTORS)" (legacy.map (·.text)))
    "GENERATED MODELS" sections []
  rw [List.append_nil] at row
  exact ((Text.occurs_of_mem mem).trans row).append_right _

end Assembled

/-! ## Blocks that are carried over -/

/-- The blocks of an earlier document, if there is one. -/
def baselineBlocks (baseline : Option String) : List Block :=
  (baseline.map Block.extract).getD []

/-- The blocks of an earlier document that are kept: those of models, enumerations, views and types
without a block of their name in the draft. -/
def keptBlocks (d : Draft) (baseline : Option String) : List Block :=
  (baselineBlocks baseline).filter fun b =>
    b.kind.isCarriedOver && !(d.contributions.map (·.2.name)).contains b.name

theorem Attempts.legacyBlocks_eq (h : Attempts d outcome)
    (names : ((d.models ++ d.junctions).map (·.name)).Nodup) (baseline : Option String) :
    legacyBlocks d baseline = keptBlocks d baseline := by
  cases baseline with
  | none => rfl
  | some text =>
    refine List.filter_congr fun b _ => congrArg (b.kind.isCarriedOver && !·) ?_
    refine Bool.eq_iff_iff.mpr ?_
    rw [List.contains_iff_mem, List.contains_iff_mem, h.mem_rendered_iff_not_mem_skipped names]
    unfold Draft.produced Draft.allModels
    rw [List.mem_filter, Bool.not_eq_true', ← Bool.not_eq_true, List.contains_iff_mem]

/-! ## Documents -/

variable {o : Options} {now : Timestamp} {models : List Model} {baseline : Option String}
  {doc : Document}

/-- Models that pass validation yield a document if the models of their junctions are made and the
document can be dated. -/
theorem exists_document {junctions : List Model} {made : Option Moment}
    (clean : Clean (validate models)) (junctioned : requiredJunctions models = .ok junctions)
    (dated : Document.stamp o now = .ok made) (baseline : Option String) :
    ∃ doc, (generate o .fresh now models baseline).result = .ok doc := by
  obtain ⟨report, passed, valid⟩ := clean
  have planned : Resolver.junctionModels (Resolver.fresh.plan models).1 models = .ok junctions :=
    junctioned
  exact ⟨_, generate_ok_iff.mpr ⟨report, passed, valid,
    resultUnder_ok_iff.mpr ⟨junctions, made, planned, dated, rfl⟩⟩⟩

/-- A name has one block, in the only section of a module, and the block stands in the document. -/
def RenderedIn (d : Draft) (doc : Document) (module name : String) : Prop :=
  ∃ b g text, d.contributions.filter (·.2.name == name) = [(module, b)] ∧
    d.groups.filter (·.module == module) = [g] ∧ g.sectionText? d.formatter = some text ∧
    Occurs (b.render d.formatter) text ∧ Occurs text doc.content

namespace WrittenFrom

theorem skipped_eq (from' : WrittenFrom o now models baseline doc d) : doc.skipped = d.skipped := by
  obtain ⟨_, _, _, rfl⟩ := from'.written
  rfl

/-- A single block stands in the document. -/
theorem renderedIn (from' : WrittenFrom o now models baseline doc d) {name : String}
    (only : d.contributions.filter (·.2.name == name) = [(module, b)]) :
    RenderedIn d doc module name := by
  have listed : (module, b) ∈ d.contributions :=
    List.mem_of_mem_filter (only ▸ List.mem_singleton_self _ :
      (module, b) ∈ d.contributions.filter (·.2.name == name))
  obtain ⟨g, text, alone, is, among, inner⟩ := from'.attempts.exists_section listed
  obtain ⟨made, _, _, rfl⟩ := from'.written
  exact ⟨b, g, text, only, alone, is, inner, occurs_section o made _ among⟩

variable (from' : WrittenFrom o now models baseline doc d)
  (names : (models.map (·.name)).Nodup)

include from' names

theorem draft_names_nodup : ((d.models ++ d.junctions).map (·.name)).Nodup := by
  rw [from'.models_eq]
  exact from'.names_nodup names

/-- The blocks that are kept are listed, and they stand in the document in a row. -/
theorem kept : doc.legacy = (keptBlocks d baseline).map (·.name) ∧
    Occurs ("\n\n".intercalate ((keptBlocks d baseline).map (·.text))) doc.content := by
  obtain ⟨made, _, _, rfl⟩ := from'.written
  rw [← from'.attempts.legacyBlocks_eq (from'.draft_names_nodup names) baseline]
  exact ⟨rfl, occurs_legacy o made _⟩

end WrittenFrom

/-- In the document of models of distinct names each declared and each synthesized model has one
block, in the only section of its module, or is left out once. The counts cover all blocks, and with
the models that are left out they cover all models. The blocks of the earlier document whose names
no block has stand in the document in a row, and their names are listed. -/
theorem every_model_accounted (names : (models.map (·.name)).Nodup)
    (done : (generate o .fresh now models baseline).result = .ok doc) :
    ∃ d, WrittenFrom o now models baseline doc d ∧
      (∀ p ∈ assigned models d.junctions,
        RenderedIn d doc p.1 p.2.name ∧ doc.skipped.count p.2.name = 0 ∨
          d.contributions.filter (·.2.name == p.2.name) = [] ∧
            doc.skipped.count p.2.name = 1) ∧
      doc.modelCount + doc.junctionCount = d.contributions.length ∧
      doc.modelCount + doc.junctionCount + doc.skipped.length =
        models.length + d.junctions.length ∧
      doc.legacy = (keptBlocks d baseline).map (·.name) ∧
      Occurs ("\n\n".intercalate ((keptBlocks d baseline).map (·.text))) doc.content := by
  obtain ⟨d, from'⟩ := exists_draft done
  have distinct := from'.draft_names_nodup names
  obtain ⟨blocks, all⟩ := from'.attempts.counts_add_up distinct
  rw [from'.models_eq] at all
  refine ⟨d, from', fun p mem => ?_, ?_, ?_, from'.kept names⟩
  · rw [from'.skipped_eq]
    rcases from'.attempts.rendered_xor_skipped distinct (from'.models_eq.symm ▸ mem) with
      ⟨⟨b, only⟩, none⟩ | out
    · exact .inl ⟨from'.renderedIn only, none⟩
    · exact .inr out
  · obtain ⟨_, _, _, rfl⟩ := from'.written
    exact blocks
  · obtain ⟨_, _, _, rfl⟩ := from'.written
    exact all

/-! ## A model that is left out -/

/-- A kitchen may be open, but by default it is neither open nor closed. -/
def kitchen : Model :=
  { Model.entity "Kitchen" [] with
    fields := [Field.identifier,
      { Field.plain "open" (some (.known .boolean)) with default := .str "maybe" }] }

/-- Recipes and ingredients that are joined, and a kitchen. -/
def cookbook : List Model :=
  [.entity "Recipe" [.plain "ingredients" .manyToMany "Ingredient"],
    .entity "Ingredient" [.plain "recipes" .manyToMany "Recipe"], kitchen]

/-- A kitchen in an earlier document. -/
def earlierKitchen : String := "model Kitchen \x7b\n  id Int @id\n\x7d\n"

theorem cookbook_clean : Clean (validate cookbook) :=
  Validation.clean_of_plain (by decide) (by cbv) (Validation.clean_iff_toOption.mpr (by cbv))

/-- A document of a cookbook accounts for its three models and the junction of two of them. -/
theorem every_model_accounted_cookbook : (cookbook.map (·.name)).Nodup ∧
    ∃ doc, (generate .standard .fresh (.whole 0) cookbook (some earlierKitchen)).result = .ok doc ∧
      ∃ d, WrittenFrom .standard (.whole 0) cookbook (some earlierKitchen) doc d ∧
        (∀ p ∈ assigned cookbook d.junctions,
          RenderedIn d doc p.1 p.2.name ∧ doc.skipped.count p.2.name = 0 ∨
            d.contributions.filter (·.2.name == p.2.name) = [] ∧
              doc.skipped.count p.2.name = 1) ∧
        doc.modelCount + doc.junctionCount + doc.skipped.length = 4 ∧
        doc.legacy = (keptBlocks d (some earlierKitchen)).map (·.name) := by
  have names : (cookbook.map (·.name)).Nodup := by decide
  have checked : ∀ m ∈ cookbook, m.Checked := by
    refine List.forall_mem_cons.mpr ⟨Model.entity_checked _ _, List.forall_mem_cons.mpr
      ⟨Model.entity_checked _ _, List.forall_mem_singleton.mpr ?_⟩⟩
    exact List.forall_mem_cons.mpr ⟨fun _ => nofun, List.forall_mem_singleton.mpr fun _ => nofun⟩
  obtain ⟨junctions, made⟩ :=
    Resolver.exists_junctionModels (Validation.accepted_of_clean cookbook_clean) checked
  have dated : Document.stamp .standard (.whole 0) = .ok none := rfl
  obtain ⟨doc, done⟩ := exists_document cookbook_clean made dated (some earlierKitchen)
  obtain ⟨d, from', each, _, all, legacy, _⟩ := every_model_accounted names done
  have joined : (Plan.ofModels cookbook).junctions.length = 1 := by cbv
  have one := congrArg List.length (Resolver.names_of_junctionModels from'.junctions)
  rw [List.length_map, List.length_map] at one
  rw [one.trans joined] at all
  exact ⟨names, doc, done, d, from', each, all, legacy⟩

end SchemaCompiler.Generation
