import SchemaCompiler.Proofs.Document.Balance
import SchemaCompiler.Proofs.Generation.Accounting
import SchemaCompiler.Proofs.Resolver.Legible

/-!
# Reading a document back

A document is laid out from the blocks of its settings and of its models. It is read as just those
blocks, each with its complete text, exactly if each of them is read back from its text on its own
(`WrittenFrom.extract_eq_iff`). The reader counts the braces of a line wherever they stand, also in
a quoted default, so a block is read back if the lines of its members and directives are balanced
(`extract_content`); the default of a field that is one brace ends its block too early
(`snippet_ends_early`).
-/

set_option autoImplicit false

namespace SchemaCompiler.Generation

open Block (Laid balance extract)
open Document (datasourceBlock generatorBlock)
open Text (IsName OneLine Unbraced closedLines)
open Validation (Clean validate)

variable {o : Options} {f : Formatter} {now : Timestamp} {models : List Model}
  {baseline : Option String} {doc : Document} {d : Draft} {m : Model} {b : ModelBlock}
  {plan : Junction.Plan} {outcome : Model → Except BlockFailure ModelBlock}

/-- The blocks of a draft as the document holds them: the settings, and one for each model block. -/
def Draft.blocks (o : Options) (d : Draft) : List Block :=
  datasourceBlock o d.schemas :: generatorBlock o d.schemas ::
    d.contributions.map fun p => p.2.block d.formatter

/-! ## The attempts of a group -/

/-- An attempt of a group is that at a model of its module. -/
theorem Attempts.exists_assigned (h : Attempts d outcome) {g : Group} (grouped : g ∈ d.groups)
    {a : Attempt} (mem : a ∈ g.attempts) :
    ∃ p ∈ assigned d.models d.junctions, p.1 = g.module ∧ a = ⟨p.2, outcome p.2⟩ := by
  have listed : (g.module, a) ∈ d.groups.flatMap fun g => g.attempts.map (g.module, ·) :=
    List.mem_flatMap.mpr ⟨g, grouped, List.mem_map_of_mem mem⟩
  obtain ⟨p, there, same⟩ := List.mem_map.mp (h.once.mem_iff.mp listed)
  obtain ⟨module, attempt⟩ := Prod.mk.inj same
  exact ⟨p, there, module, attempt.symm⟩

/-- The sections of a draft, each with the blocks that it is a layout of. -/
def Draft.pieces (d : Draft) : List (String × List Block) :=
  d.groups.filterMap fun g => (g.sectionText? d.formatter).map fun text =>
    (text, (g.attempts.filterMap (·.block?)).map (·.block d.formatter))

theorem Draft.pieces_texts (d : Draft) : d.pieces.map (·.1) = d.sections := by
  unfold Draft.pieces Draft.sections
  simp only [List.map_filterMap, Option.map_map, Function.comp_def, Option.map_id']

theorem Draft.pieces_blocks (d : Draft) :
    d.pieces.flatMap (·.2) = d.contributions.map fun p => p.2.block d.formatter := by
  unfold Draft.pieces Draft.contributions
  induction d.groups with
  | nil => rfl
  | cons g rest ih =>
    rw [List.flatMap_cons, List.map_append, ← ih, List.map_map, List.filterMap_cons]
    unfold Group.sectionText?
    simp only
    cases made : g.attempts.filterMap (·.block?) with
    | nil => rfl
    | cons b bs => rfl

/-- A model of a draft is declared and grouped under its home module, or it is synthesized and
grouped under the module that it was given. -/
theorem WrittenFrom.declared_or_synthesized (from' : WrittenFrom o now models baseline doc d)
    {p : String × Model} (mem : p ∈ assigned d.models d.junctions) :
    (p.2 ∈ models ∧ p.1 = p.2.homeModule) ∨ (p.2 ∈ d.junctions ∧ p.1 = p.2.module) := by
  rw [from'.models_eq] at mem
  rcases List.mem_append.mp mem with declared | synthesized
  · obtain ⟨m, within, rfl⟩ := List.mem_map.mp declared
    exact .inl ⟨within, rfl⟩
  · obtain ⟨j, within, rfl⟩ := List.mem_map.mp synthesized
    exact .inr ⟨within, rfl⟩

/-! ## The layout of a document -/

namespace WrittenFrom

variable (from' : WrittenFrom o now models baseline doc d) (headed : ∀ m ∈ models, m.Headed)

include from' headed

/-- The models of a draft are grouped under modules of one line. -/
theorem headed_of_assigned {p : String × Model} (mem : p ∈ assigned d.models d.junctions) :
    OneLine p.1 ∧ p.2.Headed := by
  rcases from'.declared_or_synthesized mem with ⟨within, module⟩ | ⟨within, module⟩
  · exact ⟨module ▸ (headed p.2 within).captioned.homeModule, headed p.2 within⟩
  · have head := Resolver.headed_of_mem_junctions from'.junctions headed within
    exact ⟨module ▸ head.module, head⟩

/-- What an attempt is made under and at has texts of one line, and the name of its block is a
word. -/
theorem headed_of_attempt {g : Group} (grouped : g ∈ d.groups) {a : Attempt}
    (mem : a ∈ g.attempts) : OneLine g.module ∧ a.model.Headed ∧
      ∀ b, a.block? = some b → IsName b.name ∧ OneLine b.description := by
  obtain ⟨p, listed, module, rfl⟩ := from'.attempts.exists_assigned grouped mem
  obtain ⟨line, head⟩ := from'.headed_of_assigned headed listed
  refine ⟨module ▸ line, head, fun b done => ?_⟩
  have block := Attempt.block?_eq_some_iff.mp done
  rw [(blockUnder_ok block).1, (blockUnder_frame block).2.2]
  refine ⟨head.name, ?_⟩
  cases described : p.2.description with
  | none => exact (by decide : OneLine "")
  | some t => exact head.description t described

/-- A section has a head that opens no block, and its blocks have words for names. -/
theorem headed_of_section {g : Group} (grouped : g ∈ d.groups) {text : String}
    (written : g.sectionText? d.formatter = some text) :
    text = Document.moduleSection d.formatter g.module g.rendered
        ((g.attempts.filterMap (·.block?)).map (·.render d.formatter)) ∧
      OneLine g.module ∧ (∀ m ∈ g.rendered, IsAside (Document.listing d.formatter m)) ∧
      ∀ b ∈ g.attempts.filterMap (·.block?), IsName b.name ∧ OneLine b.description := by
  unfold Group.sectionText? at written
  simp only at written
  split at written
  · cases written
  · next full =>
    cases written
    obtain ⟨b, some'⟩ := List.exists_mem_of_ne_nil _ fun none => full (List.isEmpty_iff.mpr none)
    obtain ⟨a, there, _⟩ := List.mem_filterMap.mp some'
    refine ⟨rfl, (from'.headed_of_attempt headed grouped there).1, fun m rendered => ?_,
      fun b block => ?_⟩
    · obtain ⟨a, within, rfl⟩ := List.mem_map.mp rendered
      have head := (from'.headed_of_attempt headed grouped (List.mem_of_mem_filter within)).2.1
      exact Document.isAside_listing head.name.oneLine (head.captioned.physicalTable d.formatter)
    · obtain ⟨a, within, done⟩ := List.mem_filterMap.mp block
      exact (from'.headed_of_attempt headed grouped within).2.2 b done

/-- Every section of a document is a layout of its blocks. -/
theorem laid_pieces {piece : String × List Block} (mem : piece ∈ d.pieces) :
    Laid (closedLines piece.1) piece.2 := by
  obtain ⟨g, grouped, made⟩ := List.mem_filterMap.mp mem
  obtain ⟨text, written, rfl⟩ := Option.map_eq_some_iff.mp made
  obtain ⟨rfl, named, listed, each⟩ := from'.headed_of_section headed grouped written
  exact Document.laid_moduleSection named listed each

/-- The sections of a document are a layout of its model blocks. -/
theorem laid_sections : Laid (closedLines ("\n\n".intercalate d.sections))
    (d.contributions.map fun p => p.2.block d.formatter) := by
  rw [← d.pieces_texts, ← d.pieces_blocks]
  exact Laid.paragraphs fun _ mem => from'.laid_pieces headed mem

end WrittenFrom

/-- A document without an earlier one is a layout of its settings and its model blocks. -/
theorem WrittenFrom.laid_content (from' : WrittenFrom o now models none doc d)
    (headed : ∀ m ∈ models, m.Headed) : Laid (Text.lines doc.content) (d.blocks o) := by
  obtain ⟨made, warnings, _, rfl⟩ := from'.written
  show Laid (Text.lines (Document.assemble o made d.sections [] d.schemas)) _
  have front := Document.laid_front o made d.schemas (List.forall_mem_nil Block.ReadsBack)
  have banner : Laid (closedLines (Document.banner "GENERATED MODELS")) [] :=
    Document.laid_banner (by decide)
  by_cases some' : d.sections = []
  · have none : d.contributions.map (fun p => p.2.block d.formatter) = [] := by
      rw [← d.pieces_blocks, List.map_eq_nil_iff.mp (d.pieces_texts.trans some')]
      rfl
    rw [some', Document.lines_assemble_nil]
    unfold Draft.blocks
    rw [none]
    exact front
  · rw [Document.lines_assemble o made [] d.schemas some']
    exact (front.append (.aside rfl banner)).append (.aside rfl (from'.laid_sections headed))

/-- A document without an earlier one is read as its blocks exactly if each of them is read back
from its text. -/
theorem WrittenFrom.extract_eq_iff (from' : WrittenFrom o now models none doc d)
    (headed : ∀ m ∈ models, m.Headed) :
    extract doc.content = d.blocks o ↔ ∀ b ∈ d.blocks o, b.ReadsBack :=
  (from'.laid_content headed).ofLines_eq_iff fun _ mem =>
    Text.isLine_of_mem_linesAfter (List.forall_mem_nil _) mem

/-! ## Settings -/

/-- The database schemas of a document are the modules of its models, apart from the one of the
core. -/
theorem WrittenFrom.unbraced_schemas (from' : WrittenFrom o now models baseline doc d)
    (modules : ∀ m ∈ models, Unbraced m.module) : ∀ s ∈ d.schemas, Unbraced s := by
  have home {m : Model} (h : Unbraced m.module) : Unbraced m.homeModule := by
    unfold Model.homeModule
    split
    · decide
    · exact h
  have module : ∀ m ∈ d.allModels, Unbraced m.module := by
    unfold Draft.allModels
    rw [from'.models_eq]
    refine List.forall_mem_append.mpr ⟨modules, fun j mem => ?_⟩
    obtain ⟨_, _, here⟩ := Resolver.exists_planned from'.junctions mem
    obtain ⟨first, declared, _, _, _, _, same, _⟩ := Resolver.texts_of_junctionModel here
    exact same ▸ modules first declared
  unfold Draft.schemas
  split
  · intro s mem
    obtain ⟨m, within, rfl⟩ := List.mem_map.mp (List.mem_eraseDups.mp (List.mem_mergeSort.mp mem))
    unfold Formatter.schemaName
    split
    · decide
    · exact home (module m within)
  · exact List.forall_mem_nil _

/-- The settings of a document are read back if their texts hold no brace. -/
theorem WrittenFrom.settings_readBack (from' : WrittenFrom o now models baseline doc d)
    (unbraced : o.Unbraced) (modules : ∀ m ∈ models, Unbraced m.module) :
    (datasourceBlock o d.schemas).ReadsBack ∧ (generatorBlock o d.schemas).ReadsBack :=
  ⟨Document.readsBack_datasource unbraced (from'.unbraced_schemas modules),
    Document.readsBack_clientGenerator unbraced d.schemas⟩

/-- A document without an earlier one is read as the connection, the client generator, and the block
of each model in order, each with its complete text, exactly if each of these is read back from its
text. The settings are if no brace and no line separator is in the options and module names that
they state, and the block of a model is if each of its members and directives is one line of
balanced braces. -/
theorem extract_content (headed : ∀ m ∈ models, m.Headed)
    (done : (generate o .fresh now models none).result = .ok doc) :
    ∃ d, WrittenFrom o now models none doc d ∧
      (extract doc.content = d.blocks o ↔ ∀ b ∈ d.blocks o, b.ReadsBack) ∧
      (o.Unbraced → (∀ m ∈ models, Unbraced m.module) →
        (datasourceBlock o d.schemas).ReadsBack ∧ (generatorBlock o d.schemas).ReadsBack) ∧
      ∀ p ∈ d.contributions, (∀ line ∈ p.2.innerLines d.formatter,
        OneLine line ∧ balance line.toList = 0) → (p.2.block d.formatter).ReadsBack := by
  obtain ⟨d, from'⟩ := exists_draft done
  refine ⟨d, from', from'.extract_eq_iff headed, from'.settings_readBack, fun p mem balanced => ?_⟩
  obtain ⟨m, listed, made⟩ := from'.attempts.exists_outcome mem
  have head : m.Headed := by
    rw [from'.models_eq] at listed
    rcases List.mem_append.mp listed with declared | synthesized
    · exact headed m declared
    · exact Resolver.headed_of_mem_junctions from'.junctions headed synthesized
  exact ModelBlock.readsBack_block ((blockUnder_ok made).1 ▸ head.name) balanced

/-! ## Braces in a default -/

/-- A snippet of code with a body by default. -/
def snippet (body : String) : Model :=
  { Model.entity "Snippet" [] with
    fields := [{ Field.plain "body" (some (.known .string)) with default := .str body },
      Field.identifier] }

theorem snippet_junctions (body : String) :
    Resolver.requiredJunctions [snippet body] = .ok [] := rfl

theorem exists_snippet_document {body : String} (clean : Clean (validate [snippet body]))
    (baseline : Option String) :
    ∃ doc, (generate .standard .fresh (.whole 0) [snippet body] baseline).result = .ok doc :=
  exists_document clean (snippet_junctions body) (rfl : Document.stamp .standard _ = .ok none)
    baseline

/-- The draft that the document of a snippet is written from. -/
theorem snippet_draft {body : String}
    (from' : WrittenFrom .standard now [snippet body] baseline doc d) :
    d = .under .standard (.ofModels [snippet body]) [snippet body] [] := by
  have made := snippet_junctions body
  have none : d.junctions = [] := (Except.ok.inj (made.symm.trans from'.junctions)).symm
  have under := from'.eq_under
  rwa [none] at under

theorem snippet_headed (body : String) : ∀ m ∈ [snippet body], m.Headed := by
  have name : IsName "Snippet" := by decide +kernel
  have module : OneLine coreModule := by decide
  exact List.forall_mem_singleton.mpr ⟨name, module, fun _ => nofun, fun _ => nofun⟩

/-- A snippet whose default is a pair of braces is read back. -/
theorem extract_content_snippet : (∀ m ∈ [snippet "\x7b\x7d"], m.Headed) ∧
    ∃ doc, (generate .standard .fresh (.whole 0) [snippet "\x7b\x7d"] none).result = .ok doc ∧
      ∃ d, WrittenFrom .standard (.whole 0) [snippet "\x7b\x7d"] none doc d ∧
        d.contributions.length = 1 ∧ extract doc.content = d.blocks .standard := by
  have headed := snippet_headed "\x7b\x7d"
  have clean : Clean (validate [snippet "\x7b\x7d"]) := by decide +kernel
  obtain ⟨doc, done⟩ := exists_snippet_document clean none
  obtain ⟨d, from', read, settings, block⟩ := extract_content headed done
  have balanced : d.contributions.length = 1 ∧ ∀ p ∈ d.contributions,
      ∀ line ∈ p.2.innerLines d.formatter, OneLine line ∧ balance line.toList = 0 := by
    rw [snippet_draft from']
    decide +kernel
  obtain ⟨connection, client⟩ := settings Options.standard_unbraced
    (List.forall_mem_singleton.mpr (by decide))
  refine ⟨headed, doc, done, d, from', balanced.1, read.mpr ?_⟩
  refine List.forall_mem_cons.mpr ⟨connection, List.forall_mem_cons.mpr ⟨client, ?_⟩⟩
  exact List.forall_mem_map.mpr fun p mem => block p mem (balanced.2 p mem)

/-- A snippet whose default is a closing brace ends at its default, so that the document is not read
as its blocks. -/
theorem snippet_ends_early : ([snippet "\x7d"].map (·.name)).Nodup ∧
    (∀ m ∈ [snippet "\x7d"], m.Headed) ∧
    ∃ doc, (generate .standard .fresh (.whole 0) [snippet "\x7d"] none).result = .ok doc ∧
      ∃ d, WrittenFrom .standard (.whole 0) [snippet "\x7d"] none doc d ∧
        extract doc.content ≠ d.blocks .standard := by
  have headed := snippet_headed "\x7d"
  have clean : Clean (validate [snippet "\x7d"]) := by decide +kernel
  obtain ⟨doc, done⟩ := exists_snippet_document clean none
  obtain ⟨d, from'⟩ := exists_draft done
  refine ⟨by decide, headed, doc, done, d, from', fun same => ?_⟩
  have back := (from'.extract_eq_iff headed).mp same
  have early : ¬ ∀ p ∈ d.contributions, (p.2.block d.formatter).ReadsBack := by
    rw [snippet_draft from']
    decide +kernel
  exact early fun p mem =>
    back _ (List.mem_cons_of_mem _ (List.mem_cons_of_mem _ (List.mem_map_of_mem mem)))

end SchemaCompiler.Generation
