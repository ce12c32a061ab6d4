import SchemaCompiler.Proofs.Generation.Extraction
import SchemaCompiler.Proofs.Generation.Legible

/-!
# Generating over the last document

Generating again with the last document for an earlier one carries over what was carried over
before, and besides whatever blocks of other names are read from the module sections. The text is
the same exactly if there are none (`regenerate_content`). Legible models leave none: every line of
their sections that opens a block opens that of a model, even where a default ends a block too
early, so that the document is the same as a whole. A foreign key with a blank in its name is
written as it stands, and its line may open a block of another name (`lost_carried_over`).

The date is left out, so the two runs may be at different times. The texts of the options and the
names of the modules must hold no brace, since the settings before the sections are read too.
-/

set_option autoImplicit false

namespace SchemaCompiler.Generation

open Block (Laid extract opening?)
open Document (datasourceBlock generatorBlock)
open Junction (Plan)
open Resolver (requiredJunctions)
open Text (IsName OneLine Unbraced closedLines)
open Validation (Clean validate)

variable {o : Options} {now : Timestamp} {models : List Model} {baseline : Option String}
  {doc : Document} {d : Draft} {b : Block} {line : List Char}

/-! ## The two documents -/

theorem stamp_of_undated (undated : o.includeTimestamp = false) (now : Timestamp) :
    Document.stamp o now = .ok none := by
  unfold Document.stamp
  rw [undated]
  rfl

/-- Models that yield an undated document yield one beside any earlier document and at any time,
from the same draft. -/
theorem exists_finish (undated : o.includeTimestamp = false)
    (done : (generate o .fresh now models baseline).result = .ok doc) :
    ∃ d warnings, WrittenFrom o now models baseline doc d ∧
      ∀ (now' : Timestamp) (other : Option String),
        (generate o .fresh now' models other).result =
          .ok (finish o none warnings (Registry.cycles ⟨models⟩) d (legacyBlocks d other)) := by
  obtain ⟨d, from'⟩ := exists_draft done
  obtain ⟨report, passed, valid⟩ := from'.clean
  have planned : Resolver.junctionModels (Resolver.fresh.plan models).1 models =
      .ok d.junctions := from'.junctions
  have draft : Draft.under o (planBeside (Resolver.fresh.plan models).1 models d.junctions) models
      d.junctions = d := by
    rw [← plan_beside, ← Draft.make_fst]
    exact from'.draft.symm
  refine ⟨d, report.warningTexts, from', fun now' other => ?_⟩
  refine generate_ok_iff.mpr ⟨report, passed, valid, resultUnder_ok_iff.mpr
    ⟨d.junctions, none, planned, stamp_of_undated undated now', ?_⟩⟩
  rw [draft]

/-- The blocks that a document carries over are read back from their texts, and are kept whatever
document they stand in. -/
theorem carried_of_mem_legacyBlocks (mem : b ∈ legacyBlocks d baseline) :
    b.ReadsBack ∧ (b.kind.isCarriedOver && !d.produced.contains b.name) = true := by
  unfold legacyBlocks at mem
  split at mem
  · cases mem
  · obtain ⟨read, kept⟩ := List.mem_filter.mp mem
    exact ⟨Block.readsBack_of_mem_extract read, kept⟩

/-- The blocks of other names that are read from the sections of a draft. -/
def Draft.strays (d : Draft) : List Block :=
  Block.legacy ("\n\n".intercalate d.sections ++ "\n") d.produced

namespace WrittenFrom

variable (from' : WrittenFrom o now models baseline doc d)

include from'

/-- An undated document is read as its settings, what it carries over, and its sections. -/
theorem extract_undated (unbraced : o.Unbraced) (modules : ∀ m ∈ models, Unbraced m.module)
    (other : Option String) :
    extract (Document.assemble o none d.sections (legacyBlocks d other) d.schemas) =
      datasourceBlock o d.schemas :: generatorBlock o d.schemas :: legacyBlocks d other ++
        extract ("\n\n".intercalate d.sections ++ "\n") :=
  Document.extract_assemble none (from'.settings_readBack unbraced modules) fun _ mem =>
    (carried_of_mem_legacyBlocks mem).1

/-- Beside the last document, what was carried over before and the strays are carried over. -/
theorem legacyBlocks_again (unbraced : o.Unbraced) (modules : ∀ m ∈ models, Unbraced m.module) :
    legacyBlocks d
        (some (Document.assemble o none d.sections (legacyBlocks d baseline) d.schemas)) =
      legacyBlocks d baseline ++ d.strays := by
  have kept : ∀ b ∈ legacyBlocks d baseline,
      (b.kind.isCarriedOver && !d.produced.contains b.name) = true :=
    fun _ mem => (carried_of_mem_legacyBlocks mem).2
  show Block.legacy _ d.produced = _
  unfold Draft.strays Block.legacy
  rw [from'.extract_undated unbraced modules, List.filter_append, List.filter_cons_of_neg,
    List.filter_cons_of_neg, List.filter_eq_self.mpr kept]
  · exact Bool.false_ne_true
  · exact Bool.false_ne_true

/-- Among legible models, a line of the sections that opens a block opens that of a model. -/
theorem opening_of_mem_sections (legible : ∀ m ∈ models, m.Legible)
    (mem : line ∈ closedLines ("\n\n".intercalate d.sections)) {kind : BlockKind} {name : String}
    (opens : opening? line = some (kind, name)) : name ∈ d.contributions.map (·.2.name) := by
  have headed : ∀ m ∈ models, m.Headed := fun m mem => (legible m mem).toHeaded
  have silent (aside : opening? line = none) : name ∈ d.contributions.map (·.2.name) := by
    rw [aside] at opens
    cases opens
  rcases Text.mem_closedLines_paragraphs mem with blank | ⟨text, among, within⟩
  · exact silent (blank ▸ rfl)
  · obtain ⟨g, grouped, written⟩ := List.mem_filterMap.mp among
    obtain ⟨rfl, named, listed, _⟩ := from'.headed_of_section headed grouped written
    rcases Text.mem_closedLines_paragraphs within with blank | ⟨t, part, here⟩
    · exact silent (blank ▸ rfl)
    · rcases List.mem_append.mp part with head | block
      · exact silent ((Document.laid_sectionHead named listed head).silent line here)
      · obtain ⟨b, rendered, rfl⟩ := List.mem_map.mp block
        obtain ⟨a, tried, done⟩ := List.mem_filterMap.mp rendered
        obtain ⟨p, assigned, _, rfl⟩ := from'.attempts.exists_assigned grouped tried
        have model : p.2 ∈ models ++ d.junctions := by
          have declared := List.mem_map_of_mem (f := Prod.snd) assigned
          rwa [assigned_models, from'.models_eq] at declared
        have all : ∀ m ∈ models ++ d.junctions, m.Legible := List.forall_mem_append.mpr
          ⟨legible, fun j => Resolver.legible_of_mem_junctions from'.junctions legible⟩
        have clear := legible_of_blockUnder from'.junctions all model (Attempt.block?_eq_some_iff.mp done)
        rw [(clear.opening_of_mem here opens).2]
        have listed : (g.module, b) ∈ d.contributions :=
          List.mem_flatMap.mpr ⟨g, grouped, List.mem_map_of_mem rendered⟩
        exact List.mem_map_of_mem listed

/-- The sections of legible models leave no strays. -/
theorem strays_eq_nil (names : (models.map (·.name)).Nodup) (legible : ∀ m ∈ models, m.Legible) :
    d.strays = [] := by
  refine List.filter_eq_nil_iff.mpr fun b mem kept => ?_
  obtain ⟨line, within, opens⟩ := Block.exists_opening_of_mem mem
  have rendered := from'.opening_of_mem_sections legible within opens
  obtain ⟨listed, made⟩ := (from'.attempts.mem_rendered_iff_not_mem_skipped
    (from'.draft_names_nodup names)).mp rendered
  have produced : b.name ∈ d.produced := List.mem_filter.mpr ⟨listed, by simpa using made⟩
  simp only [Bool.and_eq_true, Bool.not_eq_true', List.contains_eq_mem, decide_eq_false_iff_not]
    at kept
  exact kept.2 produced

end WrittenFrom

/-- Generating again over an undated document yields the same text exactly if its sections leave no
strays, and the same document if the models are legible. -/
theorem exists_again (names : (models.map (·.name)).Nodup) (unbraced : o.Unbraced)
    (modules : ∀ m ∈ models, Unbraced m.module) (undated : o.includeTimestamp = false)
    (done : (generate o .fresh now models baseline).result = .ok doc) (now' : Timestamp) :
    ∃ d doc', WrittenFrom o now models baseline doc d ∧
      (generate o .fresh now' models (some doc.content)).result = .ok doc' ∧
      (doc'.content = doc.content ↔ d.strays = []) ∧
      ((∀ m ∈ models, m.Legible) → doc' = doc) := by
  obtain ⟨d, warnings, from', finished⟩ := exists_finish undated done
  obtain rfl := Except.ok.inj (done.symm.trans (finished now baseline))
  have again := from'.legacyBlocks_again unbraced modules
  -- the two documents differ in what they carry over, which is read back from each
  have carried : legacyBlocks d (some (finish o none warnings (Registry.cycles ⟨models⟩) d
      (legacyBlocks d baseline)).content) = legacyBlocks d baseline ↔ d.strays = [] := by
    show legacyBlocks d (some (Document.assemble _ _ _ _ _)) = _ ↔ _
    rw [again, List.append_right_eq_self]
  refine ⟨d, _, from', finished now' _, ⟨fun same => carried.mp ?_, fun none => ?_⟩,
    fun legible => ?_⟩
  · have read := congrArg extract same
    change extract (Document.assemble _ _ _ _ _) = extract (Document.assemble _ _ _ _ _) at read
    rw [from'.extract_undated unbraced modules, from'.extract_undated unbraced modules] at read
    exact (List.cons.inj (List.cons.inj (List.append_cancel_right read)).2).2
  · rw [carried.mpr none]
  · rw [carried.mpr (from'.strays_eq_nil names legible)]

/-- Models of distinct names that pass validation have a document, whatever document there was
before. Generating again over it yields the same text exactly if no block of another name is read
from its module sections, and the same document as a whole if the models are legible. -/
theorem regenerate_content (names : (models.map (·.name)).Nodup) (unbraced : o.Unbraced)
    (modules : ∀ m ∈ models, Unbraced m.module) (undated : o.includeTimestamp = false) :
    (Clean (validate models) → (∀ m ∈ models, m.Checked) → ∀ now baseline,
        ∃ doc, (generate o .fresh now models baseline).result = .ok doc) ∧
      ∀ now now' baseline doc, (generate o .fresh now models baseline).result = .ok doc →
        ∃ d doc', WrittenFrom o now models baseline doc d ∧
          (generate o .fresh now' models (some doc.content)).result = .ok doc' ∧
          (doc'.content = doc.content ↔ d.strays = []) ∧
          ((∀ m ∈ models, m.Legible) → doc' = doc) := by
  refine ⟨fun clean checked now baseline => ?_, fun now now' baseline doc done => ?_⟩
  · obtain ⟨junctions, made⟩ :=
      Resolver.exists_junctionModels (Validation.accepted_of_clean clean) checked
    exact exists_document clean made (stamp_of_undated undated now) baseline
  · exact exists_again names unbraced modules undated done now'

/-- A document of a snippet that carries a kitchen over is generated again, later, although the
default of the snippet ends its block too early. -/
theorem regenerate_content_snippet : ([snippet "\x7d"].map (·.name)).Nodup ∧
    Options.standard.Unbraced ∧ (∀ m ∈ [snippet "\x7d"], Unbraced m.module) ∧
    Options.standard.includeTimestamp = false ∧ Clean (validate [snippet "\x7d"]) ∧
    (∀ m ∈ [snippet "\x7d"], m.Checked) ∧ (∀ m ∈ [snippet "\x7d"], m.Legible) ∧
    ∃ doc, (generate .standard .fresh (.whole 0) [snippet "\x7d"]
        (some earlierKitchen)).result = .ok doc ∧ doc.legacy = ["Kitchen"] ∧
      (generate .standard .fresh (.whole 1) [snippet "\x7d"] (some doc.content)).result =
        .ok doc := by
  have names : ([snippet "\x7d"].map (·.name)).Nodup := by decide
  have modules : ∀ m ∈ [snippet "\x7d"], Unbraced m.module :=
    List.forall_mem_singleton.mpr (by decide)
  have clean : Clean (validate [snippet "\x7d"]) := by decide +kernel
  have checked : ∀ m ∈ [snippet "\x7d"], m.Checked := List.forall_mem_singleton.mpr
    (List.forall_mem_cons.mpr ⟨fun _ => nofun, List.forall_mem_singleton.mpr fun _ => nofun⟩)
  have legible : ∀ m ∈ [snippet "\x7d"], m.Legible := by
    refine List.forall_mem_singleton.mpr ⟨snippet_headed _ _ List.mem_cons_self,
      List.forall_mem_cons.mpr ⟨?_, List.forall_mem_singleton.mpr ?_⟩, List.forall_mem_nil _,
      fun _ => nofun, List.forall_mem_nil _⟩
    · exact ⟨by decide, fun _ => nofun, fun _ => nofun, fun _ _ _ => nofun⟩
    · exact ⟨by decide, fun _ => nofun, fun _ => nofun, fun _ _ _ => nofun⟩
  obtain ⟨exists', again⟩ := regenerate_content names Options.standard_unbraced modules rfl
  obtain ⟨doc, done⟩ := exists' clean checked (.whole 0) (some earlierKitchen)
  obtain ⟨d, doc', from', done', _, same⟩ := again _ (.whole 1) _ doc done
  refine ⟨names, Options.standard_unbraced, modules, rfl, clean, checked, legible, doc, done, ?_,
    done'.trans (congrArg Except.ok (same legible))⟩
  rw [(from'.kept names).1, snippet_draft from']
  decide +kernel

/-! ## A foreign key that opens a block -/

/-- A folder in a folder. A closing brace is its label by default, and the foreign key of the outer
folder has the name of a block and its braces. -/
def folder : Model :=
  { Model.entity "Folder" [{ Relation.plain "outer" .belongsTo "Folder" with
      foreignKey := some "model Lost\x7b\x7d" }] with
    fields := [{ Field.plain "label" (some (.known .string)) with default := .str "\x7d" },
      Field.identifier] }

theorem folder_headed : folder.Headed :=
  ⟨by decide +kernel, (by decide : OneLine coreModule), fun _ => nofun, fun _ => nofun⟩

theorem folder_junctions : requiredJunctions [folder] = .ok [] := rfl

/-- The block of a folder ends at the default, and its foreign key is read as a block behind it. -/
theorem folder_strays (from' : WrittenFrom .standard now [folder] baseline doc d) :
    d.strays ≠ [] := by
  have sections := from'.laid_sections (List.forall_mem_singleton.mpr folder_headed)
  have under := from'.eq_under
  rw [(Except.ok.inj (folder_junctions.symm.trans from'.junctions)).symm] at under
  have single : d.contributions.length = 1 := by
    rw [under]
    decide +kernel
  have lines : ∀ p ∈ d.contributions,
      (∀ s ∈ ("model " ++ p.2.name ++ " \x7b") :: (p.2.innerLines d.formatter ++ ["\x7d"]),
        OneLine s) ∧
      ∃ b ∈ Block.ofLines none ((("model " ++ p.2.name ++ " \x7b") ::
          (p.2.innerLines d.formatter ++ ["\x7d"])).map (·.toList)),
        (b.kind.isCarriedOver && !d.produced.contains b.name) = true := by
    rw [under]
    decide +kernel
  obtain ⟨p, only⟩ := List.length_eq_one_iff.mp single
  rw [only] at sections lines
  obtain ⟨one, b, read, kept⟩ := lines p List.mem_cons_self
  have own : b ∈ extract ((p.2.block d.formatter).text ++ "\n") := by
    rw [ModelBlock.block_text]
    show b ∈ Block.ofLines none (closedLines _)
    rwa [Text.closedLines_of_each_oneLine (List.cons_ne_nil _ _) one]
  have laid : Laid _ ([] ++ [p.2.block d.formatter]) := sections
  have within : b ∈ extract ("\n\n".intercalate d.sections ++ "\n") :=
    laid.mem_ofLines (List.forall_mem_nil _) own
  exact List.ne_nil_of_mem (List.mem_filter.mpr ⟨within, kept⟩)

/-- The texts of a folder have one line and its names are words, but generating it again carries
over the line of its foreign key as a block. -/
theorem lost_carried_over : ([folder].map (·.name)).Nodup ∧ Clean (validate [folder]) ∧
    folder.Headed ∧ (∀ f ∈ folder.fields, IsName f.name) ∧
    (∀ r ∈ folder.relations, IsName r.name ∧ ∀ key, r.foreignKey = some key → OneLine key) ∧
    Options.standard.Unbraced ∧ Unbraced folder.module ∧
    Options.standard.includeTimestamp = false ∧
    ∃ doc doc', (generate .standard .fresh (.whole 0) [folder] (some "")).result = .ok doc ∧
      (generate .standard .fresh (.whole 0) [folder] (some doc.content)).result = .ok doc' ∧
      doc'.content ≠ doc.content := by
  have names : ([folder].map (·.name)).Nodup := by decide
  have clean : Clean (validate [folder]) := by decide +kernel
  have module : Unbraced folder.module := (by decide : Unbraced coreModule)
  obtain ⟨doc, done⟩ := exists_document clean folder_junctions
    (rfl : Document.stamp .standard (.whole 0) = .ok none) (some "")
  obtain ⟨d, doc', from', done', same, _⟩ := exists_again names Options.standard_unbraced
    (List.forall_mem_singleton.mpr module) rfl done (.whole 0)
  refine ⟨names, clean, folder_headed, by decide +kernel, ?_, Options.standard_unbraced, module,
    rfl, doc, doc', done, done', fun equal => folder_strays from' (same.mp equal)⟩
  refine List.forall_mem_singleton.mpr ⟨by decide +kernel, fun key given => ?_⟩
  cases given
  decide

end SchemaCompiler.Generation
