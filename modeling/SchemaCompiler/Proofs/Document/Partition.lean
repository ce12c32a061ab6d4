import SchemaCompiler.Proofs.Document.Extraction
import SchemaCompiler.Proofs.Document.Opening

/-!
# The parts of a document

A document is made of parts: lines that open no block, and closed runs, each of them the lines of
one block. The blocks that are read are exactly those of the parts. Every document has parts, up to
a last run whose braces stay open (`exists_parts`), and lines that are laid out in parts are read as
their blocks (`ofLines_parts`). Which lines open a block and which runs are closed is said of the
lines themselves, apart from the reader.
-/

set_option autoImplicit false

namespace SchemaCompiler.Block

open Text (IsLine closedLines joined)

variable {b : Block} {kind : BlockKind} {name text : String} {line : List Char}
  {run ls : List (List Char)}

/-! ## Runs -/

/-- The lines of a block: the first opens it, some brace is open after every line but the last, and
none after the last. -/
structure ClosedRun (kind : BlockKind) (name : String) (run : List (List Char)) : Prop where
  opens : ∃ first ∈ run.head?, Opens kind name first
  inner : StaysOpen 0 run.dropLast
  closed : openBraces run ≤ 0

/-- Lines of which the first opens a block and none closes it. -/
structure UnclosedRun (run : List (List Char)) : Prop where
  opens : ∃ first ∈ run.head?, ∃ kind name, Opens kind name first
  inner : StaysOpen 0 run

/-- A block is read from the closed runs of its kind and name that have its text. -/
theorem isRun_iff : IsRun b run ↔ ClosedRun b.kind b.name run ∧ b.text = joined run := by
  have opens : run.head?.bind opening? = some (b.kind, b.name) ↔
      ∃ first ∈ run.head?, Opens b.kind b.name first := by
    simp only [Option.bind_eq_some_iff, opening?_eq_some_iff, Option.mem_def]
  constructor
  · rintro ⟨first, closes, text⟩
    obtain ⟨_, inner, closed⟩ := closes_iff.mp closes
    rw [Int.zero_add] at closed
    exact ⟨⟨opens.mp first, inner, closed⟩, text⟩
  · rintro ⟨⟨first, inner, closed⟩, text⟩
    refine ⟨opens.mpr first, closes_iff.mpr ⟨?_, inner, ?_⟩, text⟩
    · rintro rfl
      obtain ⟨_, none, _⟩ := first
      cases none
    · rwa [Int.zero_add]

/-! ## Parts -/

/-- A part of a document: a line outside of the blocks, or the lines of a block. -/
inductive Part where
  | aside (line : List Char)
  | block (kind : BlockKind) (name : String) (lines : List (List Char))

namespace Part

/-- The lines of a part. -/
def lines : Part → List (List Char)
  | aside line => [line]
  | block _ _ lines => lines

/-- The block of a part, if it is one. -/
def block? : Part → Option Block
  | aside _ => none
  | block kind name lines => some ⟨kind, name, joined lines⟩

/-- A line outside of the blocks opens none, and the lines of a block are closed. -/
def Sound : Part → Prop
  | aside line => ∀ kind name, ¬ Opens kind name line
  | block kind name lines => ClosedRun kind name lines

end Part

variable {parts : List Part}

theorem opening?_eq_none_iff : opening? line = none ↔ ∀ kind name, ¬ Opens kind name line := by
  simp only [Option.eq_none_iff_forall_ne_some, Prod.forall, ne_eq, opening?_eq_some_iff]

/-- Lines that are laid out in parts are read as the blocks of the parts. -/
theorem ofLines_parts (sound : ∀ p ∈ parts, p.Sound) :
    ofLines none (parts.flatMap (·.lines)) = parts.filterMap (·.block?) := by
  induction parts with
  | nil => rw [List.flatMap_nil, ofLines, List.filterMap_nil]
  | cons p parts ih =>
    obtain ⟨here, later⟩ := List.forall_mem_cons.mp sound
    rw [List.flatMap_cons]
    cases p with
    | aside line =>
      rw [List.filterMap_cons_none rfl, ← ih later]
      exact ofLines_none_of_not_opening (opening?_eq_none_iff.mpr here)
    | block kind name lines =>
      show _ = ⟨kind, name, joined lines⟩ :: parts.filterMap (·.block?)
      rw [← ih later]
      have is : IsRun ⟨kind, name, joined lines⟩ lines := isRun_iff.mpr ⟨here, rfl⟩
      exact ofLines_run is _

/-- Lines have parts of which the blocks are read, up to a last run that is not closed. -/
theorem exists_parts (ls : List (List Char)) : ∃ parts : List Part, ∃ tail,
    (∀ p ∈ parts, p.Sound) ∧ (tail = [] ∨ UnclosedRun tail) ∧
      ls = parts.flatMap (·.lines) ++ tail ∧ ofLines none ls = parts.filterMap (·.block?) := by
  apply ofLines_induction (motive := fun ls bs => ∃ parts : List Part, ∃ tail,
    (∀ p ∈ parts, p.Sound) ∧ (tail = [] ∨ UnclosedRun tail) ∧
      ls = parts.flatMap (·.lines) ++ tail ∧ bs = parts.filterMap (·.block?))
  case nil => exact ⟨[], [], List.forall_mem_nil _, .inl rfl, rfl, rfl⟩
  case aside =>
    rintro line _ _ silent ⟨parts, tail, sound, last, rfl, rfl⟩
    have here : (Part.aside line).Sound := opening?_eq_none_iff.mp silent
    exact ⟨.aside line :: parts, tail, List.forall_mem_cons.mpr ⟨here, sound⟩, last, rfl, rfl⟩
  case block =>
    rintro ⟨kind, name, text⟩ run _ _ is ⟨parts, tail, sound, last, rfl, rfl⟩
    obtain ⟨here, rfl⟩ := isRun_iff.mp is
    refine ⟨.block kind name run :: parts, tail, ?_, last, ?_, rfl⟩
    · exact List.forall_mem_cons.mpr ⟨here, sound⟩
    · rw [List.flatMap_cons, List.append_assoc]
      rfl
  case unclosed =>
    intro line rest key opens stays
    have first : Opens key.1 key.2 line := opening?_eq_some_iff.mp opens
    exact ⟨[], line :: rest, List.forall_mem_nil _,
      .inr ⟨⟨line, rfl, key.1, key.2, first⟩, stays⟩, rfl, rfl⟩

/-! ## Documents -/

/-- Lines without separators are read as they are joined. -/
theorem extract_joined (lines : ∀ l ∈ ls, IsLine l) : extract (joined ls) = ofLines none ls := by
  cases ls with
  | nil => rfl
  | cons l rest =>
    rw [← ofLines_closedLines, Text.closedLines_joined (List.cons_ne_nil l rest) lines]

/-- The texts of the blocks of a document are read as these blocks. -/
theorem extract_texts (text : String) :
    extract ("\n".intercalate ((extract text).map (·.text))) = extract text := by
  have read : ∀ bs : List Block, (∀ b ∈ bs, b.ReadsBack) →
      ofLines none ((bs.map (·.text)).flatMap closedLines) = bs := by
    intro bs back
    induction bs with
    | nil => rw [List.map_nil, List.flatMap_nil, ofLines]
    | cons b bs ih =>
      obtain ⟨here, later⟩ := List.forall_mem_cons.mp back
      rw [List.map_cons, List.flatMap_cons, ofLines_run (readsBack_iff_isRun.mp here), ih later]
  cases blocks : extract text with
  | nil => rfl
  | cons b bs =>
    rw [← ofLines_closedLines, List.map_cons,
      Text.closedLines_intercalate (List.cons_ne_nil b.text _), ← List.map_cons]
    exact read (b :: bs) fun b mem => readsBack_of_mem_extract (blocks ▸ mem)

/-- Reading is exact on the parts of documents. Every document has parts, up to a last run that is
not closed, and their blocks are read from it; lines in parts are read as the blocks of the parts;
so the texts of the blocks of a document are read as these blocks. -/
theorem extract_exact :
    (∀ text, ∃ parts : List Part, ∃ tail, (∀ p ∈ parts, p.Sound) ∧
      (tail = [] ∨ UnclosedRun tail) ∧ Text.lines text = parts.flatMap (·.lines) ++ tail ∧
      extract text = parts.filterMap (·.block?)) ∧
    (∀ parts : List Part, (∀ p ∈ parts, p.Sound) → (∀ p ∈ parts, ∀ l ∈ p.lines, IsLine l) →
      extract (joined (parts.flatMap (·.lines))) = parts.filterMap (·.block?)) ∧
    ∀ text, extract ("\n".intercalate ((extract text).map (·.text))) = extract text := by
  refine ⟨fun text => exists_parts (Text.lines text), ?_, extract_texts⟩
  intro parts sound lines
  rw [extract_joined, ofLines_parts sound]
  intro l mem
  obtain ⟨p, within, here⟩ := List.mem_flatMap.mp mem
  exact lines p within l here

/-- A note, a model of three lines, a blank line, and a view that its first line closes. -/
def letter : List Part :=
  [.aside "// people".toList,
    .block .model "User" ["model User \x7b".toList, "  id Int @id // \x7b".toList, "\x7d".toList],
    .aside [], .block .view "Tiny" ["view Tiny \x7b\x7d".toList]]

/-- The letter is read as the model and the view. -/
theorem extract_exact_letter : (∀ p ∈ letter, p.Sound) ∧ (∀ p ∈ letter, ∀ l ∈ p.lines, IsLine l) ∧
    extract (joined (letter.flatMap (·.lines))) = letter.filterMap (·.block?) ∧
    (letter.filterMap (·.block?)).map (·.name) = ["User", "Tiny"] := by
  have block {kind : BlockKind} {name : String} {run : List (List Char)}
      (opens : run.head?.bind opening? = some (kind, name)) (closes : Closes 0 run) :
      (Part.block kind name run).Sound :=
    (isRun_iff.mp (⟨opens, closes, rfl⟩ : IsRun ⟨kind, name, joined run⟩ run)).1
  have aside {line : List Char} (silent : opening? line = none) : (Part.aside line).Sound :=
    opening?_eq_none_iff.mp silent
  have sound : ∀ p ∈ letter, p.Sound := by
    unfold letter
    simp only [List.forall_mem_cons]
    refine ⟨aside ?_, block ?_ ?_, aside ?_, block ?_ ?_, List.forall_mem_nil _⟩ <;> decide +kernel
  have lines : ∀ p ∈ letter, ∀ l ∈ p.lines, IsLine l := by
    have unbroken : letter.all (fun p => p.lines.all (·.all (!Text.isLineBreak ·))) = true := by
      decide +kernel
    simpa only [IsLine, List.all_eq_true, Bool.not_eq_true'] using unbroken
  exact ⟨sound, lines, extract_exact.2.1 letter sound lines, rfl⟩

end SchemaCompiler.Block
