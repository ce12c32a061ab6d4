import Mathlib.Data.List.Flatten
import SchemaCompiler.Proofs.Document.Legible
import SchemaCompiler.Proofs.Text.Squeeze

/-!
# What a document says in any layout

The lines of a document that are neither blank nor comments, with single spaces and without blanks
at their ends. A block has the same such lines in either layout, whatever stands in its members
(`ModelBlock.gist_block_congr`): padding stands in front of a space or at the end of a line. The
texts that a document writes as comments are the rest (`Document.gist_moduleSection`), and they are
left out as long as all their lines begin as comments (`Document.gist_eq_iff_silent`).
-/

set_option autoImplicit false

namespace SchemaCompiler

open Text (OneLine SameSpaced closedLines isBlank squeeze)

variable {s t : String} {texts : List String} {f f' : Formatter}

namespace Document

/-- A line that is blank or a comment. -/
def isSilent (line : List Char) : Bool :=
  (line.dropWhile isBlank).isEmpty || (line.dropWhile isBlank).take 2 == ['/', '/']

/-- The lines that are neither blank nor comments, with single spaces and no blanks at their
ends. -/
def essentials (ls : List (List Char)) : List (List Char) :=
  (ls.filter fun line => !isSilent line).map fun line => Text.trimBlanks (squeeze line)

/-- The essential lines of a text that a line feed follows. -/
def gist (s : String) : List (List Char) := essentials (closedLines s)

/-- A text all of whose lines are blank or comments. -/
def Silent (s : String) : Prop := ∀ line ∈ closedLines s, isSilent line = true

instance (s : String) : Decidable (Silent s) := List.decidableBAll _ _

theorem essentials_append (ls ms : List (List Char)) :
    essentials (ls ++ ms) = essentials ls ++ essentials ms := by
  unfold essentials
  rw [List.filter_append, List.map_append]

theorem gist_eq_nil_iff : gist s = [] ↔ Silent s := by
  unfold gist essentials Silent
  rw [List.map_eq_nil_iff, List.filter_eq_nil_iff]
  simp only [Bool.not_eq_true', Bool.not_eq_false]

/-- A comment of one line is silent. -/
theorem silent_of_oneLine (one : OneLine s) (comment : s.toList.take 2 = ['/', '/']) :
    Silent s := by
  rw [Silent, Text.closedLines_of_oneLine one, List.forall_mem_singleton]
  obtain ⟨rest, letters⟩ : ∃ rest, s.toList = '/' :: '/' :: rest :=
    ⟨s.toList.drop 2, by rw [← List.take_append_drop 2 s.toList, comment]; rfl⟩
  rw [letters]
  rfl

/-- A text of one line behind two slashes and a blank is silent. -/
theorem silent_comment (one : OneLine s) : Silent ("// " ++ s) := by
  refine silent_of_oneLine (OneLine.append (by decide) one) ?_
  rw [String.toList_append]
  rfl

/-! ## Joining -/

/-- A separator between texts that ends a line keeps what they say apart. -/
theorem gist_intercalate {separator : String}
    (apart : ∀ s t, gist (s ++ separator ++ t) = gist s ++ gist t) (texts : List String) :
    gist (separator.intercalate texts) = texts.flatMap gist := by
  cases texts with
  | nil =>
    rw [String.intercalate_nil]
    rfl
  | cons t rest => exact Text.read_intercalate apart (List.cons_ne_nil t rest)

theorem gist_append (s t : String) : gist (s ++ "\n" ++ t) = gist s ++ gist t := by
  unfold gist
  rw [Text.closedLines_append, essentials_append]

theorem gist_lines (texts : List String) : gist ("\n".intercalate texts) = texts.flatMap gist :=
  gist_intercalate gist_append texts

theorem gist_paragraphs (texts : List String) :
    gist ("\n\n".intercalate texts) = texts.flatMap gist := by
  refine gist_intercalate (fun s t => ?_) texts
  rw [Text.append_blank_line, gist_append, gist_append]
  rfl

theorem silent_lines (each : ∀ t ∈ texts, Silent t) : Silent ("\n".intercalate texts) := by
  rw [← gist_eq_nil_iff, gist_lines, List.flatMap_eq_nil_iff]
  exact fun t mem => gist_eq_nil_iff.mpr (each t mem)

theorem silent_banner (one : OneLine s) : Silent (banner s) := by
  have enclosing : Silent rule :=
    silent_comment (Text.oneLine_ofList (Text.isLine_replicate 77 rfl))
  refine silent_lines ?_
  simp only [List.forall_mem_cons, List.not_mem_nil, false_imp_iff, implies_true, and_true]
  exact ⟨enclosing, silent_comment one, enclosing⟩

/-- The head of a section is silent if its texts have one line. -/
theorem silent_sectionHead {module : String} {models : List Model} (named : OneLine module)
    (listed : ∀ m ∈ models, OneLine (listing f m)) (mem : t ∈ sectionHead f module models) :
    Silent t := by
  unfold sectionHead at mem
  split at mem
  · simp only [List.mem_cons, List.not_mem_nil, or_false] at mem
    rcases mem with rfl | rfl
    · exact silent_banner (OneLine.append (by decide) (Text.oneLine_upper named))
    · refine silent_lines (List.forall_mem_cons.mpr ⟨by decide, List.forall_mem_map.mpr ?_⟩)
      intro m within
      refine silent_of_oneLine (listed m within) ?_
      unfold listing
      simp only [String.append_assoc, String.toList_append]
      rfl
  · rw [List.mem_singleton.mp mem]
    exact silent_of_oneLine (OneLine.append (by decide) named) (by rw [String.toList_append]; rfl)

/-! ## Runs of spaces -/

theorem isSilent_squeeze (line : List Char) : isSilent (squeeze line) = isSilent line := by
  unfold isSilent
  rw [Text.dropWhile_squeeze]
  cases rest : line.dropWhile isBlank with
  | nil => rfl
  | cons c cs =>
    have visible : c ≠ ' ' := by
      rintro rfl
      have solid := List.head?_dropWhile_not isBlank line
      rw [rest] at solid
      cases solid
    rw [Text.squeeze_cons_of_ne visible, List.take_succ_cons, List.take_succ_cons, List.take_one,
      List.take_one, Text.head?_squeeze]
    rfl

theorem essentials_map_squeeze (ls : List (List Char)) :
    essentials (ls.map squeeze) = essentials ls := by
  unfold essentials
  rw [List.filter_map, List.map_map]
  simp only [Function.comp_def, isSilent_squeeze, Text.squeeze_squeeze]

/-- Texts up to the lengths of their runs of spaces have the same essential lines. -/
theorem gist_of_sameSpaced (h : SameSpaced s t) : gist s = gist t := by
  unfold gist
  rw [← essentials_map_squeeze, h.closedLines, essentials_map_squeeze]

end Document

open Document (Silent essentials gist)

/-! ## Blocks -/

namespace ModelBlock

theorem toList_trimRight (s : String) : (trimRight s).toList = s.toList.rdropWhile isBlank := by
  unfold trimRight
  rw [String.toList_ofList]
  rfl

theorem sameSpaced_trimRight (h : SameSpaced s t) : SameSpaced (trimRight s) (trimRight t) := by
  unfold SameSpaced at h ⊢
  rw [toList_trimRight, toList_trimRight, ← Text.rdropWhile_squeeze, h, Text.rdropWhile_squeeze]

theorem trimRight_pad (n : Nat) (s : String) :
    trimRight (s ++ String.ofList (List.replicate n ' ')) = trimRight s := by
  rw [← String.toList_inj, toList_trimRight, toList_trimRight, String.toList_append,
    String.toList_ofList]
  induction n with
  | zero => rw [List.replicate_zero, List.append_nil]
  | succ n ih =>
    rw [List.replicate_succ', ← List.append_assoc, List.rdropWhile_concat_pos _ _ _ rfl, ih]

/-- An aligned member is the member on one line up to its runs of spaces, with spaces behind it. -/
theorem sameSpaced_alignedLine (nameWidth typeWidth : Nat) (c : Column) :
    ∃ n, SameSpaced (alignedLine nameWidth typeWidth c)
      (c.render ++ String.ofList (List.replicate n ' ')) := by
  rw [alignedLine_eq, Column.render, String.intercalate_cons_cons]
  cases c.attributes.map (·.render) with
  | nil =>
    -- without attributes nothing follows the type, and its padding is left at the end
    refine ⟨typeWidth - c.typeText.length, ?_⟩
    rw [String.intercalate_singleton, String.intercalate_singleton, padRight]
    simp only [String.append_assoc]
    exact (SameSpaced.refl _).append (Text.sameSpaced_pad _ _)
  | cons a rest =>
    refine ⟨0, ?_⟩
    rw [String.intercalate_cons_cons, String.intercalate_cons_cons, padRight, List.replicate_zero,
      String.ofList_nil, String.append_empty]
    simp only [String.append_assoc]
    refine (SameSpaced.refl _).append ((Text.sameSpaced_pad _ _).trans ?_)
    exact (SameSpaced.refl _).append ((SameSpaced.refl _).append (Text.sameSpaced_pad _ _))

/-- A member says the same in either layout. -/
theorem gist_alignedLine (nameWidth typeWidth : Nat) (c : Column) :
    gist (indent ++ trimRight (alignedLine nameWidth typeWidth c)) =
      gist (indent ++ trimRight c.render) := by
  obtain ⟨n, same⟩ := sameSpaced_alignedLine nameWidth typeWidth c
  have trimmed := sameSpaced_trimRight same
  rw [trimRight_pad] at trimmed
  exact Document.gist_of_sameSpaced ((SameSpaced.refl indent).append trimmed)

theorem gist_memberLines (f : Formatter) (b : ModelBlock) (members : List Column) :
    (memberLines f b members).flatMap gist =
      members.flatMap fun c => gist (indent ++ trimRight c.render) := by
  unfold memberLines
  rw [List.flatMap_map]
  refine List.flatMap_congr fun c _ => ?_
  split
  · exact gist_alignedLine _ _ c
  · rfl

/-- The members and directives of a block are what its inner lines say. -/
theorem gist_innerLines (f : Formatter) (b : ModelBlock) : (b.innerLines f).flatMap gist =
    (b.members.flatMap fun c => gist (indent ++ trimRight c.render)) ++
      (b.directives f).flatMap fun t => gist (indent ++ t) := by
  have heading : gist (indent ++ "// Relations") = [] := Document.gist_eq_nil_iff.mpr (by decide)
  have blank : gist "" = [] := rfl
  unfold innerLines members
  rw [List.flatMap_append, List.flatMap_append, List.flatMap_append, gist_memberLines]
  refine congrArg₂ _ (congrArg _ ?_) ?_
  · split
    · next none =>
      rw [List.isEmpty_iff.mp none]
      rfl
    · rw [List.flatMap_append, gist_memberLines]
      split
      · simp only [List.flatMap_cons, List.flatMap_nil, blank, heading, List.nil_append]
      · rfl
  · split
    · next none =>
      rw [List.isEmpty_iff.mp none]
      rfl
    · rw [List.flatMap_append, List.flatMap_map]
      split
      · simp only [List.flatMap_cons, List.flatMap_nil, blank, List.nil_append]
      · rfl

/-- A block says the same in either layout. -/
theorem gist_block_congr (same : f.multiSchema = f'.multiSchema) (b : ModelBlock) :
    gist (b.block f).text = gist (b.block f').text := by
  have directives : b.directives f = b.directives f' := by
    unfold directives Formatter.tableDirectives Formatter.physicalTable
    simp only [same]
    rfl
  rw [block_text, block_text, Document.gist_lines, Document.gist_lines, List.flatMap_cons,
    List.flatMap_cons, List.flatMap_append, List.flatMap_append, gist_innerLines, gist_innerLines,
    directives]

end ModelBlock

/-! ## Comments -/

namespace Document

/-- A text that stands in a document, perhaps as a comment. -/
structure Passage where
  text : String
  isComment : Bool
  deriving DecidableEq, Inhabited, Repr

/-- The essential lines of a passage. -/
def Passage.gist (p : Passage) : List (List Char) := Document.gist p.text

/-- The passages that are no comments say all that there is to say exactly if the comments are
silent. -/
theorem gist_eq_iff_silent (passages : List Passage) :
    passages.flatMap (·.gist) = (passages.filter fun p => !p.isComment).flatMap (·.gist) ↔
      ∀ p ∈ passages, p.isComment = true → Silent p.text := by
  induction passages with
  | nil => exact iff_of_true rfl (List.forall_mem_nil _)
  | cons p rest ih =>
    rw [List.forall_mem_cons, List.flatMap_cons]
    cases comment : p.isComment with
    | false =>
      rw [List.filter_cons_of_pos (by rw [comment]; rfl), List.flatMap_cons,
        List.append_cancel_left_eq, ih]
      exact ⟨fun later => ⟨nofun, later⟩, And.right⟩
    | true =>
      rw [List.filter_cons_of_neg (by rw [comment]; exact nofun), ← gist_eq_nil_iff, ← ih]
      constructor
      · intro same
        -- what is no comment is a part of the rest, so nothing is left for this comment
        have part : (rest.filter fun p => !p.isComment).Sublist rest := List.filter_sublist
        have shorter := (part.flatMap (·.gist)).length_le
        have lengths := congrArg List.length same
        rw [List.length_append] at lengths
        have empty : p.gist = [] := List.length_eq_zero_iff.mp (by omega)
        rw [empty, List.nil_append] at same
        exact ⟨fun _ => empty, same⟩
      · rintro ⟨empty, same⟩
        rw [show p.gist = [] from empty rfl, List.nil_append, same]

end Document

/-- The texts of a block in a document: its description as a comment, and then the block. -/
def ModelBlock.passages (f : Formatter) (b : ModelBlock) : List Document.Passage :=
  (if f.isPretty && b.description != "" then [⟨"/// " ++ b.description, true⟩] else [])
    ++ [⟨(b.block f).text, false⟩]

/-- The comment of a block is silent if its description is, or if the layout leaves it out. -/
theorem ModelBlock.silent_passages_iff (f : Formatter) (b : ModelBlock) :
    (∀ p ∈ b.passages f, p.isComment = true → Silent p.text) ↔
      (f.isPretty = true → Silent ("/// " ++ b.description)) := by
  have whole (p : Document.Passage) (mem : p ∈ [Document.Passage.mk (b.block f).text false]) :
      p.isComment = true → Silent p.text := by
    rw [List.mem_singleton.mp mem]
    exact nofun
  unfold passages
  rw [List.forall_mem_append, and_iff_left whole]
  by_cases described : b.description = ""
  · rw [described, bne_self_eq_false, Bool.and_false, if_neg Bool.false_ne_true]
    exact iff_of_true (List.forall_mem_nil _) fun _ => by decide
  · rw [bne_iff_ne.mpr described, Bool.and_true]
    split
    · next pretty =>
      rw [List.forall_mem_singleton, pretty]
    · next compact => exact iff_of_true (List.forall_mem_nil _) fun pretty => absurd pretty compact

theorem ModelBlock.gist_render (f : Formatter) (b : ModelBlock) :
    gist (b.render f) = (b.passages f).flatMap (·.gist) := by
  rw [render_eq]
  unfold passages
  split
  · rw [Document.gist_append, List.singleton_append, List.flatMap_cons, List.flatMap_singleton]
    rfl
  · rw [String.empty_append, List.nil_append, List.flatMap_singleton]
    rfl

namespace Document

/-- The texts of a section in a document: its head as comments, and then its blocks. -/
def sectionPassages (f : Formatter) (module : String) (models : List Model)
    (blocks : List ModelBlock) : List Passage :=
  (sectionHead f module models).map (⟨·, true⟩) ++ blocks.flatMap (·.passages f)

theorem gist_moduleSection (f : Formatter) (module : String) (models : List Model)
    (blocks : List ModelBlock) : gist (moduleSection f module models (blocks.map (·.render f))) =
      (sectionPassages f module models blocks).flatMap (·.gist) := by
  unfold moduleSection sectionPassages
  rw [gist_paragraphs, List.flatMap_append, List.flatMap_append, List.flatMap_map,
    List.flatMap_map, List.flatMap_assoc]
  exact congrArg _ (List.flatMap_congr fun b _ => b.gist_render f)

/-- Below a silent head the comments of a section are silent exactly if the descriptions are that
the layout writes. -/
theorem silent_section_iff {module : String} {models : List Model} {blocks : List ModelBlock}
    (head : ∀ t ∈ sectionHead f module models, Silent t) :
    (∀ p ∈ sectionPassages f module models blocks, p.isComment = true → Silent p.text) ↔
      (f.isPretty = true → ∀ b ∈ blocks, Silent ("/// " ++ b.description)) := by
  have heads : ∀ p ∈ (sectionHead f module models).map (Passage.mk · true),
      p.isComment = true → Silent p.text :=
    List.forall_mem_map.mpr fun t mem _ => head t mem
  unfold sectionPassages
  rw [List.forall_mem_append, and_iff_right heads, List.forall_mem_flatMap]
  simp only [ModelBlock.silent_passages_iff]
  exact ⟨fun h pretty b mem => h b mem pretty, fun h b mem pretty => h pretty b mem⟩

/-- The blocks of a section are its passages that are no comments. -/
theorem stated_section (f : Formatter) (module : String) (models : List Model)
    (blocks : List ModelBlock) :
    (sectionPassages f module models blocks).filter (fun p => !p.isComment) =
      blocks.map fun b => ⟨(b.block f).text, false⟩ := by
  have head : ((sectionHead f module models).map (Passage.mk · true)).filter
      (fun p => !p.isComment) = [] := by
    rw [List.filter_map, List.map_eq_nil_iff, List.filter_eq_nil_iff]
    exact fun _ _ => nofun
  have own (b : ModelBlock) : (b.passages f).filter (fun p => !p.isComment) =
      [⟨(b.block f).text, false⟩] := by
    unfold ModelBlock.passages
    split
    · rfl
    · rfl
  unfold sectionPassages
  rw [List.filter_append, head, List.nil_append, List.filter_flatMap, List.map_eq_flatMap]
  exact List.flatMap_congr fun b _ => own b

/-- What a document says, from its parts. -/
theorem essentials_assemble (o : Options) (made : Option Moment) (sections : List String)
    (legacy : List Block) (schemas : List String) :
    essentials (Text.lines (assemble o made sections legacy schemas)) =
      (front o made legacy schemas).flatMap gist ++ sections.flatMap gist := by
  have banner : gist (banner "GENERATED MODELS") = [] :=
    gist_eq_nil_iff.mpr (silent_banner (by decide))
  have headed : (headed "GENERATED MODELS" sections).flatMap gist = sections.flatMap gist := by
    unfold headed
    split
    · next none => rw [List.isEmpty_iff.mp none]
    · rw [List.flatMap_cons, banner, List.nil_append]
  show gist ("\n\n".intercalate (front o made legacy schemas ++ Document.headed _ sections)) = _
  rw [gist_paragraphs, List.flatMap_append, headed]

end Document

end SchemaCompiler
