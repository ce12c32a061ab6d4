import SchemaCompiler.Document.Assembly
import SchemaCompiler.Proofs.Document.Extraction
import SchemaCompiler.Proofs.Document.Opening
import SchemaCompiler.Proofs.Text.OneLine

/-!
# Documents as layouts

The parts of a document as layouts of blocks. Header, banners and the heads of sections are comments
and open no block; the settings and each model block are one block, if the texts that stand in their
first lines have no line separator. The lines after the first one do not matter here: whether they
close the block where it ends is for the block to tell (`Block.Laid.ofLines_eq_iff`).
-/

set_option autoImplicit false

namespace SchemaCompiler

open Block (Laid opening?)
open Text (OneLine NoBlank closedLines isWord)

variable {s first rest : String} {lines texts : List String} {f : Formatter} {b : ModelBlock}
  {o : Options} {sections : List String}

/-! ## Comments -/

/-- A line that opens no block. -/
def IsAside (s : String) : Prop := OneLine s ∧ opening? s.toList = none

theorem opening?_eq_none_of_slash (h : s.toList.head? = some '/') : opening? s.toList = none := by
  apply Block.opening?_eq_none_of_mark
  obtain ⟨rest, letters⟩ := List.head?_eq_some_iff.mp h
  rw [letters, Block.mark?_cons (by decide +kernel)]
  decide

/-- A comment of one line is aside. -/
theorem isAside_comment (head : first.toList.head? = some '/') (line : OneLine first)
    (one : OneLine rest) : IsAside (first ++ rest) := by
  refine ⟨line.append one, opening?_eq_none_of_slash ?_⟩
  rw [String.toList_append]
  obtain ⟨tail, letters⟩ := List.head?_eq_some_iff.mp head
  rw [letters]
  rfl

/-- Lines aside of all blocks are a layout of none. -/
theorem laid_asides (h : ∀ t ∈ lines, IsAside t) :
    Laid (closedLines ("\n".intercalate lines)) [] := by
  apply Laid.asides
  cases lines with
  | nil => exact List.forall_mem_singleton.mpr rfl
  | cons t ts =>
    rw [Text.closedLines_of_each_oneLine (List.cons_ne_nil t ts) fun s mem => (h s mem).1]
    exact List.forall_mem_map.mpr fun s mem => (h s mem).2

theorem laid_aside (h : IsAside s) : Laid (closedLines s) [] := by
  have alone : Laid (closedLines ("\n".intercalate [s])) [] :=
    laid_asides (List.forall_mem_singleton.mpr h)
  rwa [String.intercalate_singleton] at alone

/-- A text that begins with a line that opens a block is a layout of that block. -/
theorem laid_of_first {block : Block} (text : block.text = first ++ "\n" ++ rest)
    (one : OneLine first) (opens : opening? first.toList = some (block.kind, block.name)) :
    Laid (closedLines block.text) [block] := by
  apply Laid.single
  rw [text, Text.closedLines_append, Text.closedLines_of_oneLine one]
  exact opens

namespace Document

theorem isAside_rule : IsAside rule :=
  isAside_comment (by rfl) (by decide) (Text.oneLine_ofList (Text.isLine_replicate 77 rfl))

theorem laid_banner (one : OneLine s) : Laid (closedLines (banner s)) [] := by
  refine laid_asides ?_
  simp only [List.forall_mem_cons, List.not_mem_nil, false_imp_iff, implies_true, and_true]
  exact ⟨isAside_rule, isAside_comment (by rfl) (by decide) one, isAside_rule⟩

/-! ## Header and settings -/

theorem oneLine_padded (width n : Nat) : OneLine (Moment.padded width n) :=
  Text.oneLine_ofList
    ((Text.isLine_replicate _ rfl).append (Text.isLine_decimalDigits n))

theorem oneLine_isoSeconds (t : Moment) : OneLine t.isoSeconds := by
  have digits := oneLine_padded
  have colon : OneLine ":" := by decide
  have hyphen : OneLine "-" := by decide
  have letter : OneLine "T" := by decide
  have clock : OneLine t.clock :=
    (((digits _ _).append colon).append (digits _ _)).append colon |>.append (digits _ _)
  have date : OneLine t.dateTime :=
    ((((digits _ _).append hyphen).append (digits _ _)).append hyphen).append (digits _ _)
      |>.append letter |>.append clock
  exact date.append (by decide)

theorem laid_header (o : Options) (made : Option Moment) :
    Laid (closedLines (header o made)) [] := by
  refine laid_asides (List.forall_mem_append.mpr ⟨List.forall_mem_append.mpr ⟨?_, ?_⟩, ?_⟩)
  · simp only [List.forall_mem_cons, List.not_mem_nil, false_imp_iff, implies_true, and_true]
    have dialect : OneLine o.dialect.name := by cases o.dialect <;> decide
    exact ⟨isAside_rule, ⟨by decide, opening?_eq_none_of_slash rfl⟩, isAside_rule,
      isAside_comment rfl (by decide) dialect⟩
  · intro line mem
    obtain ⟨t, _, rfl⟩ := Option.mem_map.mp (Option.mem_toList.mp mem)
    exact isAside_comment rfl (by decide) (oneLine_isoSeconds t)
  · simp only [List.forall_mem_cons, List.not_mem_nil, false_imp_iff, implies_true, and_true]
    exact ⟨⟨by decide, opening?_eq_none_of_slash rfl⟩, isAside_rule⟩

/-- The block of the connection. -/
def datasourceBlock (o : Options) (schemas : List String) : Block :=
  ⟨.datasource, "db", datasource o schemas⟩

/-- The block of the client generator. -/
def generatorBlock (o : Options) (schemas : List String) : Block :=
  ⟨.generator, "client", clientGenerator o (previewFeatures schemas)⟩

theorem datasourceBlock_text (o : Options) (schemas : List String) :
    (datasourceBlock o schemas).text = datasource o schemas := by
  simp only [datasourceBlock]

theorem generatorBlock_text (o : Options) (schemas : List String) :
    (generatorBlock o schemas).text = clientGenerator o (previewFeatures schemas) := by
  simp only [generatorBlock]

theorem settings_eq (opener : String) (entries : List (String × String)) :
    ∃ rest, settings opener entries = opener ++ " \x7b" ++ "\n" ++ rest := by
  unfold settings
  simp only
  rw [List.cons_append, String.intercalate_cons_of_ne_nil]
  · exact ⟨_, rfl⟩
  · exact List.append_ne_nil_of_right_ne_nil _ (List.cons_ne_nil _ _)

theorem laid_datasource (o : Options) (schemas : List String) :
    Laid (closedLines (datasource o schemas)) [datasourceBlock o schemas] := by
  have opens : opening? ("datasource db" ++ " \x7b").toList = some (.datasource, "db") := by
    decide +kernel
  obtain ⟨rest, text⟩ : ∃ rest, datasource o schemas =
      "datasource db" ++ " \x7b" ++ "\n" ++ rest := settings_eq _ _
  rw [← datasourceBlock_text] at text ⊢
  exact laid_of_first text (by decide) opens

theorem laid_clientGenerator (o : Options) (schemas : List String) :
    Laid (closedLines (clientGenerator o (previewFeatures schemas)))
      [generatorBlock o schemas] := by
  have opens : opening? ("generator client" ++ " \x7b").toList = some (.generator, "client") := by
    decide +kernel
  obtain ⟨rest, text⟩ : ∃ rest, clientGenerator o (previewFeatures schemas) =
      "generator client" ++ " \x7b" ++ "\n" ++ rest := settings_eq _ _
  rw [← generatorBlock_text] at text ⊢
  exact laid_of_first text (by decide) opens

end Document

/-! ## Model blocks -/

namespace ModelBlock

/-- The block that a model block is in a document: from the line with its name to its end, without
the description before it. -/
def block (f : Formatter) (b : ModelBlock) : Block :=
  ⟨.model, b.name, { b with description := "" }.render f⟩

/-- The lines of a block between the one with its name and its closing brace. -/
def innerLines (f : Formatter) (b : ModelBlock) : List String :=
  memberLines f b b.columns
    ++ (if b.relations.isEmpty then []
        else (if f.isPretty then ["", indent ++ "// Relations"] else [])
          ++ memberLines f b b.relations)
    ++ (if (b.directives f).isEmpty then []
        else (if f.isPretty then [""] else []) ++ (b.directives f).map (indent ++ ·))

theorem lines_eq (f : Formatter) (b : ModelBlock) : b.lines f =
    (if f.isPretty && b.description != "" then ["/// " ++ b.description] else [])
      ++ ("model " ++ b.name ++ " \x7b") :: (b.innerLines f ++ ["\x7d"]) := by
  unfold lines innerLines
  simp only [List.append_assoc, List.cons_append, List.nil_append]

theorem block_text (f : Formatter) (b : ModelBlock) : (b.block f).text =
    "\n".intercalate (("model " ++ b.name ++ " \x7b") :: (b.innerLines f ++ ["\x7d"])) := by
  unfold block render
  rw [lines_eq]
  simp only [bne_self_eq_false, Bool.and_false, Bool.false_eq_true, ↓reduceIte, List.nil_append]
  rfl

/-- A block is rendered as its text behind its description. -/
theorem render_eq (f : Formatter) (b : ModelBlock) : b.render f =
    (if f.isPretty && b.description != "" then "/// " ++ b.description ++ "\n" else "")
      ++ (b.block f).text := by
  unfold render
  rw [lines_eq, block_text]
  split
  · rw [List.singleton_append, String.intercalate_cons_cons]
  · rw [List.nil_append, String.empty_append]

theorem laid_block (name : Text.IsName b.name) (f : Formatter) :
    Laid (closedLines (b.block f).text) [b.block f] := by
  have line : OneLine ("model " ++ b.name ++ " \x7b") :=
    (OneLine.append (by decide) name.oneLine).append (by decide)
  have text : (b.block f).text =
      "model " ++ b.name ++ " \x7b" ++ "\n" ++ "\n".intercalate (b.innerLines f ++ ["\x7d"]) := by
    rw [block_text, String.intercalate_cons_of_ne_nil]
    exact List.append_ne_nil_of_right_ne_nil _ (List.cons_ne_nil _ _)
  exact laid_of_first text line (Block.opening?_model name.2 name.1)

/-- A rendered block is a layout of the block. -/
theorem laid_render (name : Text.IsName b.name) (described : OneLine b.description)
    (f : Formatter) : Laid (closedLines (b.render f)) [b.block f] := by
  rw [render_eq]
  split
  · rw [Text.closedLines_append]
    exact (laid_aside (isAside_comment rfl (by decide) described)).append (laid_block name f)
  · rw [String.empty_append]
    exact laid_block name f

end ModelBlock

/-! ## Sections and documents -/

namespace Document

/-- The heading of a model in a section is a comment. -/
theorem isAside_listing {m : Model} (name : OneLine m.name)
    (table : OneLine (f.physicalTable m.table)) : IsAside (listing f m) := by
  have count (n : Nat) : OneLine (toString n) := Text.oneLine_ofList (Text.isLine_decimalDigits n)
  refine ⟨?_, opening?_eq_none_of_slash ?_⟩
  · exact (((((((OneLine.append (by decide) name).append (by decide)).append table).append
      (by decide)).append (count _)).append (by decide)).append (count _)).append (by decide)
  · unfold listing
    simp only [String.append_assoc, String.toList_append]
    rfl

theorem laid_sectionHead {module : String} {models : List Model} (named : OneLine module)
    (listed : ∀ m ∈ models, IsAside (listing f m)) {t : String}
    (mem : t ∈ sectionHead f module models) : Laid (closedLines t) [] := by
  unfold sectionHead at mem
  split at mem
  · simp only [List.mem_cons, List.not_mem_nil, or_false] at mem
    rcases mem with rfl | rfl
    · exact laid_banner (OneLine.append (by decide) (Text.oneLine_upper named))
    · refine laid_asides (List.forall_mem_cons.mpr
        ⟨⟨by decide, ?_⟩, List.forall_mem_map.mpr listed⟩)
      exact opening?_eq_none_of_slash (by rfl)
  · rw [List.mem_singleton.mp mem]
    exact laid_aside (isAside_comment (by rfl) (by decide) named)

/-- A section is a layout of its blocks. -/
theorem laid_moduleSection {module : String} {models : List Model} {blocks : List ModelBlock}
    (named : OneLine module) (listed : ∀ m ∈ models, IsAside (listing f m))
    (each : ∀ b ∈ blocks, Text.IsName b.name ∧ OneLine b.description) :
    Laid (closedLines (moduleSection f module models (blocks.map (·.render f))))
      (blocks.map (·.block f)) := by
  have pieces : ∀ p ∈ (sectionHead f module models).map (·, []) ++
      blocks.map (fun b => (b.render f, [b.block f])), Laid (closedLines p.1) p.2 := by
    refine List.forall_mem_append.mpr ⟨List.forall_mem_map.mpr fun t mem => ?_,
      List.forall_mem_map.mpr fun b mem => ?_⟩
    · exact laid_sectionHead named listed mem
    · exact ModelBlock.laid_render (each b mem).1 (each b mem).2 f
  have silent : (sectionHead f module models).flatMap (fun _ => ([] : List Block)) = [] :=
    List.flatMap_eq_nil_iff.mpr fun _ _ => rfl
  have laid := Laid.paragraphs pieces
  simp only [List.map_append, List.map_map, Function.comp_def, List.map_id', List.flatMap_append,
    List.flatMap_map, silent, List.nil_append, ← List.map_eq_flatMap] at laid
  exact laid

/-- The parts of a document before its sections. -/
def front (o : Options) (made : Option Moment) (legacy : List Block) (schemas : List String) :
    List String :=
  [header o made, datasource o schemas, clientGenerator o (previewFeatures schemas)]
    ++ headed "LEGACY MODELS (NOT YET DECLARED AS DESCRIPTORS)" (legacy.map (·.text))

/-- The parts before the sections are a layout of the settings and of the blocks that are carried
over. -/
theorem laid_front (o : Options) (made : Option Moment) (schemas : List String)
    {legacy : List Block} (back : ∀ b ∈ legacy, b.ReadsBack) :
    Laid (closedLines ("\n\n".intercalate (front o made legacy schemas)))
      (datasourceBlock o schemas :: generatorBlock o schemas :: legacy) := by
  have settled : ∀ p ∈ [(header o made, []), (datasource o schemas, [datasourceBlock o schemas]),
      (clientGenerator o (previewFeatures schemas), [generatorBlock o schemas])],
      Laid (closedLines p.1) p.2 := by
    simp only [List.forall_mem_cons, List.not_mem_nil, false_imp_iff, implies_true, and_true]
    exact ⟨laid_header o made, laid_datasource o schemas, laid_clientGenerator o schemas⟩
  have kept : ∀ b ∈ legacy, Laid (closedLines b.text) [b] := fun b mem =>
    Laid.single (Block.readsBack_iff_isRun.mp (back b mem)).opens
  unfold front headed
  cases legacy with
  | nil =>
    have laid := Laid.paragraphs settled
    simp only [List.map_cons, List.map_nil, List.flatMap_cons, List.flatMap_nil, List.nil_append,
      List.cons_append] at laid
    exact laid
  | cons b rest =>
    have title : Laid (closedLines (banner "LEGACY MODELS (NOT YET DECLARED AS DESCRIPTORS)")) [] :=
      laid_banner (by decide +kernel)
    generalize banner "LEGACY MODELS (NOT YET DECLARED AS DESCRIPTORS)" = heading at title
    have carried : ∀ p ∈ (heading, []) :: (b :: rest).map fun b => (b.text, [b]),
        Laid (closedLines p.1) p.2 :=
      List.forall_mem_cons.mpr ⟨title, List.forall_mem_map.mpr kept⟩
    have laid := Laid.paragraphs (List.forall_mem_append.mpr ⟨settled, carried⟩)
    simp only [List.map_cons, List.map_map, Function.comp_def, List.flatMap_cons, List.flatMap_map,
      List.nil_append, List.cons_append, ← List.map_eq_flatMap, List.map_id'] at laid
    exact laid

/-- The lines of a document without sections. -/
theorem lines_assemble_nil (o : Options) (made : Option Moment) (legacy : List Block)
    (schemas : List String) : Text.lines (assemble o made [] legacy schemas) =
      closedLines ("\n\n".intercalate (front o made legacy schemas)) := by
  have untitled : headed "GENERATED MODELS" [] = [] := rfl
  show closedLines ("\n\n".intercalate (front o made legacy schemas ++ headed _ [])) = _
  rw [untitled, List.append_nil]

/-- The lines of a document with sections. -/
theorem lines_assemble (o : Options) (made : Option Moment) (legacy : List Block)
    (schemas : List String) (some : sections ≠ []) :
    Text.lines (assemble o made sections legacy schemas) =
      closedLines ("\n\n".intercalate (front o made legacy schemas)) ++
        [] :: closedLines (banner "GENERATED MODELS") ++
          [] :: closedLines ("\n\n".intercalate sections) := by
  have begun : front o made legacy schemas ≠ [] := List.cons_ne_nil _ _
  have titled : headed "GENERATED MODELS" sections =
      [banner "GENERATED MODELS"] ++ sections := by
    unfold headed
    rw [if_neg (by rwa [List.isEmpty_iff]), List.singleton_append]
  show closedLines ("\n\n".intercalate (front o made legacy schemas ++ headed _ sections)) = _
  rw [titled, Text.closedLines_paragraphs begun (List.append_ne_nil_of_right_ne_nil _ some),
    Text.closedLines_paragraphs (List.cons_ne_nil _ _) some, String.intercalate_singleton,
    List.append_assoc, List.cons_append]

/-- A document whose settings and earlier blocks are read back is read as those and then as its
sections alone. -/
theorem extract_assemble (made : Option Moment) {legacy : List Block} {schemas : List String}
    (settled : (datasourceBlock o schemas).ReadsBack ∧ (generatorBlock o schemas).ReadsBack)
    (back : ∀ b ∈ legacy, b.ReadsBack) :
    Block.extract (assemble o made sections legacy schemas) =
      datasourceBlock o schemas :: generatorBlock o schemas :: legacy ++
        Block.extract ("\n\n".intercalate sections ++ "\n") := by
  have front := laid_front o made schemas back
  have title : Laid (closedLines (banner "GENERATED MODELS")) [] := laid_banner (by decide)
  have lines (some : sections ≠ []) := lines_assemble o made legacy schemas some
  have all : ∀ b ∈ datasourceBlock o schemas :: generatorBlock o schemas :: legacy, b.ReadsBack :=
    List.forall_mem_cons.mpr ⟨settled.1, List.forall_mem_cons.mpr ⟨settled.2, back⟩⟩
  unfold Block.extract
  by_cases none : sections = []
  · have read := front.ofLines_append all []
    rw [List.append_nil] at read
    rw [none, lines_assemble_nil, String.intercalate_nil]
    exact read
  · generalize banner "GENERATED MODELS" = heading at title lines
    have gap : Laid ([] :: closedLines heading ++ [[]]) [] :=
      (Laid.aside rfl title).append (.aside rfl .nil)
    have read := gap.ofLines_append (List.forall_mem_nil _)
      (closedLines ("\n\n".intercalate sections))
    rw [List.append_assoc, List.singleton_append] at read
    rw [lines none, List.append_assoc, front.ofLines_append all, read]
    rfl

end Document

end SchemaCompiler
