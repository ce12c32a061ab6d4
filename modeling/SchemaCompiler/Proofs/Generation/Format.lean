import SchemaCompiler.Proofs.Document.Essential
import SchemaCompiler.Proofs.Generation.Extraction

/-!
# Documents in two layouts

The layout decides how members are aligned and which comments are written, and nothing else of a
draft (`under_inFormat`). Blocks have the same essential lines in either layout, so two documents
have them exactly if what is written as comments begins as a comment on each of its lines
(`WrittenFrom.essentials_eq_iff`). Where names, modules and tables have one line, only the
descriptions are left to tell the layouts apart (`formats_agree`). The aligned layout puts slashes
before a description and not before each of its lines, so a second line stands there as it is
(`second_line_in_pretty_only`).
-/

set_option autoImplicit false

namespace SchemaCompiler

/-- The same options for another layout. -/
def Options.inFormat (o : Options) (format : OutputFormat) : Options :=
  { o with outputFormat := format }

namespace Generation

open Document (Passage Silent essentials gist)
open Junction (Plan)
open Text (OneLine)
open Validation (Clean validate)

variable {o : Options} {a b : OutputFormat} {now : Timestamp} {models junctions : List Model}
  {baseline : Option String} {doc doc' : Document} {d d' : Draft}

/-! ## Passages -/

/-- The model blocks of a group. -/
def Group.blocks (g : Group) : List ModelBlock := g.attempts.filterMap (·.block?)

/-- The texts of a group's section in a document. -/
def Group.passages (f : Formatter) (g : Group) : List Passage :=
  if g.blocks.isEmpty then []
  else Document.sectionPassages f g.module g.rendered g.blocks

/-- The texts of a document from its draft: the heads of its sections, and its blocks with their
descriptions. -/
def Draft.passages (d : Draft) : List Passage := d.groups.flatMap (·.passages d.formatter)

theorem Draft.gist_sections (d : Draft) :
    d.sections.flatMap gist = d.passages.flatMap (·.gist) := by
  have each (g : Group) : (g.sectionText? d.formatter).toList.flatMap gist =
      (g.passages d.formatter).flatMap (·.gist) := by
    unfold Group.sectionText? Group.passages Group.blocks
    simp only
    split
    · rfl
    · rw [Option.toList_some, List.flatMap_singleton, Document.gist_moduleSection]
  unfold Draft.sections Draft.passages
  rw [List.flatMap_assoc, List.filterMap_eq_flatMap_toList, List.flatMap_assoc]
  exact List.flatMap_congr fun g _ => each g

/-- The passages of a draft that are no comments are its blocks. -/
theorem Draft.stated_passages (d : Draft) : (d.passages.filter fun p => !p.isComment) =
    d.contributions.map fun p => ⟨(p.2.block d.formatter).text, false⟩ := by
  have each (g : Group) : (g.passages d.formatter).filter (fun p => !p.isComment) =
      g.blocks.map fun b => ⟨(b.block d.formatter).text, false⟩ := by
    unfold Group.passages
    split
    · next none =>
      rw [List.isEmpty_iff.mp none]
      rfl
    · exact Document.stated_section _ _ _ _
  unfold Draft.passages Draft.contributions
  rw [List.filter_flatMap, List.map_flatMap]
  refine List.flatMap_congr fun g _ => ?_
  rw [each g, List.map_map]
  rfl

/-- Where the heads of the sections are silent, the comments are exactly if the descriptions are
that the layout writes before the blocks. -/
theorem Draft.silent_comments_iff (heads : ∀ g ∈ d.groups, g.blocks ≠ [] →
      ∀ t ∈ Document.sectionHead d.formatter g.module g.rendered, Silent t) :
    (∀ p ∈ d.passages, p.isComment = true → Silent p.text) ↔ (d.formatter.isPretty = true →
      ∀ p ∈ d.contributions, Silent ("/// " ++ p.2.description)) := by
  have each (g : Group) (grouped : g ∈ d.groups) :
      (∀ p ∈ g.passages d.formatter, p.isComment = true → Silent p.text) ↔
        (d.formatter.isPretty = true → ∀ b ∈ g.blocks, Silent ("/// " ++ b.description)) := by
    unfold Group.passages
    split
    · next none =>
      rw [List.isEmpty_iff.mp none]
      exact iff_of_true (List.forall_mem_nil _) fun _ => List.forall_mem_nil _
    · next some =>
      exact Document.silent_section_iff
        (heads g grouped fun none => some (List.isEmpty_iff.mpr none))
  have blocks : (∀ p ∈ d.contributions, Silent ("/// " ++ p.2.description)) ↔
      ∀ g ∈ d.groups, ∀ b ∈ g.blocks, Silent ("/// " ++ b.description) := by
    unfold Draft.contributions
    simp only [List.forall_mem_flatMap, List.forall_mem_map]
    rfl
  unfold Draft.passages
  rw [List.forall_mem_flatMap, blocks]
  constructor
  · intro silent pretty g grouped
    exact (each g grouped).mp (silent g grouped) pretty
  · intro silent g grouped
    exact (each g grouped).mpr fun pretty => silent pretty g grouped

/-- The essential lines of a document are those of its settings, of the blocks that are carried over
and of its passages. -/
theorem WrittenFrom.essentials_content (from' : WrittenFrom o now models baseline doc d) :
    ∃ made, Document.stamp o now = .ok made ∧ essentials (Text.lines doc.content) =
      (Document.front o made (legacyBlocks d baseline) d.schemas).flatMap gist ++
        d.passages.flatMap (·.gist) := by
  obtain ⟨made, warnings, dated, rfl⟩ := from'.written
  refine ⟨made, dated, ?_⟩
  rw [← d.gist_sections]
  exact Document.essentials_assemble o made d.sections _ d.schemas

/-! ## Two layouts -/

/-- The draft for another layout differs in the layout only. -/
theorem under_inFormat (plan : Plan) (models junctions : List Model) :
    Draft.under (o.inFormat b) plan models junctions =
      { Draft.under (o.inFormat a) plan models junctions with
        formatter := { (Draft.under (o.inFormat a) plan models junctions).formatter with
          format := b } } :=
  rfl

theorem front_inFormat (made : Option Moment) (legacy : List Block) (schemas : List String) :
    Document.front (o.inFormat a) made legacy schemas =
      Document.front (o.inFormat b) made legacy schemas :=
  rfl

namespace WrittenFrom

variable (first : WrittenFrom (o.inFormat a) now models baseline doc d)
  (second : WrittenFrom (o.inFormat b) now models baseline doc' d')

include first second

theorem draft_inFormat : d' = { d with formatter := { d.formatter with format := b } } := by
  have junctions : d.junctions = d'.junctions :=
    Except.ok.inj (first.junctions.symm.trans second.junctions)
  rw [second.eq_under, first.eq_under, ← junctions]
  exact under_inFormat (.ofModels models) models d.junctions

theorem schemas_inFormat : d.schemas = d'.schemas := by
  rw [first.draft_inFormat second]
  rfl

theorem legacy_inFormat : legacyBlocks d baseline = legacyBlocks d' baseline := by
  have produced : d.produced = d'.produced := by
    rw [first.draft_inFormat second]
    rfl
  unfold legacyBlocks
  rw [produced]

theorem stated_inFormat : (d.passages.filter fun p => !p.isComment).flatMap (·.gist) =
    (d'.passages.filter fun p => !p.isComment).flatMap (·.gist) := by
  have schemas : d.formatter.multiSchema = d'.formatter.multiSchema := by
    rw [first.draft_inFormat second]
  have contributions : d.contributions = d'.contributions := by
    rw [first.draft_inFormat second]
    rfl
  rw [d.stated_passages, d'.stated_passages, List.flatMap_map, List.flatMap_map, contributions]
  exact List.flatMap_congr fun p _ => ModelBlock.gist_block_congr schemas p.2

/-- If the one layout writes no more than comments beside its blocks, the other has the same
essential lines exactly if it does so too. -/
theorem essentials_eq_iff (silent : ∀ p ∈ d'.passages, p.isComment = true → Silent p.text) :
    essentials (Text.lines doc.content) = essentials (Text.lines doc'.content) ↔
      ∀ p ∈ d.passages, p.isComment = true → Silent p.text := by
  obtain ⟨made, dated, content⟩ := first.essentials_content
  obtain ⟨made', dated', content'⟩ := second.essentials_content
  obtain rfl : made = made' := Except.ok.inj (dated.symm.trans dated')
  have stated := (Document.gist_eq_iff_silent d'.passages).mpr silent
  have blocks := first.stated_inFormat second
  have fronts : Document.front (o.inFormat a) made (legacyBlocks d baseline) d.schemas =
      Document.front (o.inFormat b) made (legacyBlocks d' baseline) d'.schemas := by
    rw [first.legacy_inFormat second, first.schemas_inFormat second]
    exact front_inFormat made _ _
  -- settings, blocks carried over and model blocks are the same, so the comments are left
  rw [content, content', fronts, List.append_cancel_left_eq, stated, ← blocks,
    Document.gist_eq_iff_silent]

end WrittenFrom

/-- A generation in one layout yields a document exactly if it does in another. -/
theorem exists_document_inFormat (a b : OutputFormat)
    (done : ∃ doc, (generate (o.inFormat a) .fresh now models baseline).result = .ok doc) :
    ∃ doc, (generate (o.inFormat b) .fresh now models baseline).result = .ok doc := by
  obtain ⟨doc, done⟩ := done
  obtain ⟨d, from'⟩ := exists_draft done
  obtain ⟨made, _, dated, _⟩ := from'.written
  have dated : Document.stamp (o.inFormat b) now = .ok made := dated
  exact exists_document from'.clean from'.junctions dated baseline

/-- The heads of sections are silent if the names, modules and tables of the models have one
line. -/
theorem WrittenFrom.silent_heads (from' : WrittenFrom o now models baseline doc d)
    (captioned : ∀ m ∈ models, m.Captioned) : ∀ g ∈ d.groups, g.blocks ≠ [] →
      ∀ t ∈ Document.sectionHead d.formatter g.module g.rendered, Silent t := by
  intro g grouped some t mem
  have attempted {x : Attempt} (within : x ∈ g.attempts) :
      OneLine g.module ∧ x.model.Captioned := by
    obtain ⟨p, listed, module, rfl⟩ := from'.attempts.exists_assigned grouped within
    rcases from'.declared_or_synthesized listed with ⟨own, home⟩ | ⟨own, given⟩
    · exact ⟨module ▸ home ▸ (captioned p.2 own).homeModule, captioned p.2 own⟩
    · have junction := Resolver.captioned_of_mem_junctions from'.junctions captioned own
      exact ⟨module ▸ given ▸ junction.module, junction⟩
  obtain ⟨b, own⟩ := List.exists_mem_of_ne_nil _ some
  obtain ⟨x, within, _⟩ := List.mem_filterMap.mp own
  refine Document.silent_sectionHead (attempted within).1 (fun m rendered => ?_) mem
  obtain ⟨y, within, rfl⟩ := List.mem_map.mp rendered
  have caption := (attempted (List.mem_of_mem_filter within)).2
  exact (Document.isAside_listing caption.name (caption.physicalTable d.formatter)).1

/-- In either layout the same models yield a document, from the same attempts. If the compact
document has no comment that goes on without slashes, the two documents have the same essential
lines exactly if the aligned one has none either. Where the names, modules and tables of the models
have one line, that is so exactly if each description that is written goes on as a comment on all
its lines. -/
theorem formats_agree (o : Options) (now : Timestamp) (models : List Model)
    (baseline : Option String) :
    ((∃ doc, (generate (o.inFormat .pretty) .fresh now models baseline).result = .ok doc) ↔
      ∃ doc, (generate (o.inFormat .compact) .fresh now models baseline).result = .ok doc) ∧
    ∀ doc doc', (generate (o.inFormat .pretty) .fresh now models baseline).result = .ok doc →
      (generate (o.inFormat .compact) .fresh now models baseline).result = .ok doc' →
      ∃ d d', WrittenFrom (o.inFormat .pretty) now models baseline doc d ∧
        WrittenFrom (o.inFormat .compact) now models baseline doc' d' ∧ d.groups = d'.groups ∧
        ((∀ p ∈ d'.passages, p.isComment = true → Silent p.text) →
          (essentials (Text.lines doc.content) = essentials (Text.lines doc'.content) ↔
            ∀ p ∈ d.passages, p.isComment = true → Silent p.text)) ∧
        ((∀ m ∈ models, m.Captioned) →
          (essentials (Text.lines doc.content) = essentials (Text.lines doc'.content) ↔
            ∀ p ∈ d.contributions, Silent ("/// " ++ p.2.description))) := by
  refine ⟨⟨exists_document_inFormat _ _, exists_document_inFormat _ _⟩, ?_⟩
  intro doc doc' done done'
  obtain ⟨d, first⟩ := exists_draft done
  obtain ⟨d', second⟩ := exists_draft done'
  have pretty : d.formatter.isPretty = true := by
    rw [first.eq_under]
    rfl
  have compact : d'.formatter.isPretty = false := by
    rw [second.eq_under]
    rfl
  refine ⟨d, d', first, second, ?_, first.essentials_eq_iff second, fun captioned => ?_⟩
  · rw [first.draft_inFormat second]
  · have silent := (Draft.silent_comments_iff (second.silent_heads captioned)).mpr fun shown =>
      absurd shown (ne_true_of_eq_false compact)
    rw [first.essentials_eq_iff second silent,
      Draft.silent_comments_iff (first.silent_heads captioned)]
    exact ⟨fun h => h pretty, fun h _ => h⟩

/-- A memo with a description. -/
def memo (description : String) : Model :=
  { Model.entity "Memo" [] with description := some description }

section Memo

variable {description : String} {format : OutputFormat}

theorem memo_draft (from' : WrittenFrom (Options.standard.inFormat format) (.whole 0)
      [memo description] none doc d) : d = .under (Options.standard.inFormat format)
        (.ofModels [memo description]) [memo description] [] := by
  have none : d.junctions = [] := Except.ok.inj (from'.junctions.symm.trans rfl)
  rw [from'.eq_under, none]

/-- A memo that validates has a document in any layout. -/
theorem exists_memo (clean : Clean (validate [memo description])) (format : OutputFormat) :
    ∃ doc d, (generate (Options.standard.inFormat format) .fresh (.whole 0) [memo description]
        none).result = .ok doc ∧
      WrittenFrom (Options.standard.inFormat format) (.whole 0) [memo description] none doc d := by
  have made : Resolver.requiredJunctions [memo description] = .ok [] := rfl
  have dated : Document.stamp (Options.standard.inFormat format) (.whole 0) = .ok none := rfl
  obtain ⟨doc, done⟩ := exists_document clean made dated none
  obtain ⟨d, from'⟩ := exists_draft done
  exact ⟨doc, d, done, from'⟩

end Memo

/-- The documents of a memo whose description has one line have the same essential lines, since all
their comments are silent. -/
theorem formats_agree_memo : Clean (validate [memo "One line"]) ∧
    (∀ m ∈ [memo "One line"], m.Captioned) ∧ ∃ doc doc' d d',
      WrittenFrom (Options.standard.inFormat .pretty) (.whole 0) [memo "One line"] none doc d ∧
      WrittenFrom (Options.standard.inFormat .compact) (.whole 0) [memo "One line"] none doc' d' ∧
      (∀ p ∈ d'.passages, p.isComment = true → Silent p.text) ∧
      essentials (Text.lines doc.content) = essentials (Text.lines doc'.content) ∧
      ∀ p ∈ d.passages, p.isComment = true → Silent p.text := by
  have clean : Clean (validate [memo "One line"]) := by decide +kernel
  have captioned : ∀ m ∈ [memo "One line"], m.Captioned := by
    rw [List.forall_mem_singleton]
    exact ⟨by decide, by decide, nofun⟩
  obtain ⟨doc, _, done, _⟩ := exists_memo clean .pretty
  obtain ⟨doc', _, done', _⟩ := exists_memo clean .compact
  obtain ⟨_, agree⟩ := formats_agree .standard (.whole 0) [memo "One line"] none
  obtain ⟨d, d', first, second, _, comments, descriptions⟩ := agree doc doc' done done'
  have draft := memo_draft first
  have draft' := memo_draft second
  have silent : ∀ p ∈ d'.passages, p.isComment = true → Silent p.text := by
    rw [draft']
    decide +kernel
  have described : ∀ p ∈ d.contributions, Silent ("/// " ++ p.2.description) := by
    rw [draft]
    decide +kernel
  have same := (descriptions captioned).mpr described
  exact ⟨clean, captioned, doc, doc', d, d', first, second, silent, same,
    (comments silent).mp same⟩

/-- A memo whose description has two lines validates. The second line stands in its aligned document
outside of any comment, and not in its compact one. -/
theorem second_line_in_pretty_only :
    ([memo "First line\nSecond line"].map (·.name)).Nodup ∧
      Clean (validate [memo "First line\nSecond line"]) ∧ ∃ doc doc',
      (generate (Options.standard.inFormat .pretty) .fresh (.whole 0)
        [memo "First line\nSecond line"] none).result = .ok doc ∧
      (generate (Options.standard.inFormat .compact) .fresh (.whole 0)
        [memo "First line\nSecond line"] none).result = .ok doc' ∧
      essentials (Text.lines doc.content) ≠ essentials (Text.lines doc'.content) := by
  have clean : Clean (validate [memo "First line\nSecond line"]) := by decide +kernel
  obtain ⟨doc, d, done, first⟩ := exists_memo clean .pretty
  obtain ⟨doc', d', done', second⟩ := exists_memo clean .compact
  have silent : ∀ p ∈ d'.passages, p.isComment = true → Silent p.text := by
    rw [memo_draft second]
    decide +kernel
  refine ⟨by decide, clean, doc, doc', done, done', ?_⟩
  rw [ne_eq, first.essentials_eq_iff second silent, memo_draft first]
  decide +kernel

end Generation

end SchemaCompiler
