import SchemaCompiler.Proofs.Document.Layout

/-!
# Legible blocks

A member whose name holds no blank, and whose type and attributes have one line and no brace in
front of every other mark, is written on a line that opens no block (`isAside_member`). A block of
such members opens no block but itself, whatever braces its lines hold (`Legible.opening_of_mem`).
-/

set_option autoImplicit false

namespace SchemaCompiler

open Block (isPlain mark? opening?)
open Text (IsName NoBlank OneLine closedLines)

variable {s t separator : String} {texts : List String} {f : Formatter} {b : ModelBlock}
  {line : List Char}

/-! ## Quiet texts -/

/-- A text of one line in which no brace comes before every other mark. -/
structure Quiet (s : String) : Prop where
  oneLine : OneLine s
  mark : mark? s.toList ≠ some '\x7b'

instance (s : String) : Decidable (Quiet s) :=
  decidable_of_iff (OneLine s ∧ mark? s.toList ≠ some '\x7b')
    ⟨fun h => ⟨h.1, h.2⟩, fun h => ⟨h.oneLine, h.mark⟩⟩

namespace Quiet

theorem isAside (h : Quiet s) : IsAside s := ⟨h.oneLine, Block.opening?_eq_none_of_mark h.mark⟩

theorem append (first : Quiet s) (second : Quiet t) : Quiet (s ++ t) := by
  refine ⟨first.oneLine.append second.oneLine, ?_⟩
  rw [String.toList_append, Block.mark?_append]
  cases marked : mark? s.toList with
  | none => exact second.mark
  | some c =>
    rw [Option.some_or, ← marked]
    exact first.mark

theorem intercalate (between : Quiet separator) (each : ∀ t ∈ texts, Quiet t) :
    Quiet (separator.intercalate texts) :=
  Text.holds_intercalate append ⟨by decide, by decide⟩ between each

/-- A text of one line without any mark is quiet. -/
theorem of_plain (one : OneLine s) (plain : ∀ c ∈ s.toList, isPlain c = true) : Quiet s := by
  refine ⟨one, ?_⟩
  rw [Block.mark?_eq_none plain]
  exact nofun

theorem of_isName (h : IsName s) : Quiet s :=
  of_plain h.oneLine fun c mem => Block.isPlain_of_isWord (h.2 c mem)

end Quiet

/-- A text of one line that begins with an at sign, as attributes and directives do. -/
structure Marked (s : String) : Prop where
  first : s.toList.head? = some '@'
  oneLine : OneLine s

namespace Marked

theorem append (h : Marked s) (rest : OneLine t) : Marked (s ++ t) := by
  refine ⟨?_, h.oneLine.append rest⟩
  rw [String.toList_append, List.head?_append, h.first, Option.some_or]

theorem quiet (h : Marked s) : Quiet s := by
  refine ⟨h.oneLine, ?_⟩
  obtain ⟨rest, letters⟩ := List.head?_eq_some_iff.mp h.first
  rw [letters, Block.mark?_cons (by decide +kernel)]
  decide

end Marked

theorem quiet_spaces (n : Nat) : Quiet (String.ofList (List.replicate n ' ')) := by
  apply Quiet.of_plain
  · exact Text.oneLine_ofList (Text.isLine_replicate n rfl)
  · intro c mem
    rw [String.toList_ofList] at mem
    rw [List.eq_of_mem_replicate mem]
    exact Block.isPlain_of_isBlank rfl

theorem quiet_space : Quiet " " := quiet_spaces 1

/-! ## Members -/

/-- A member that is written on one line. -/
structure Column.Legible (c : Column) : Prop where
  name : NoBlank c.name
  type : Quiet c.type.render
  attributes : ∀ a ∈ c.attributes, Quiet a.render

namespace ModelBlock

theorem exists_blanks_trimRight (s : String) :
    ∃ pad, (∀ c ∈ pad, Text.isBlank c = true) ∧ (trimRight s).toList ++ pad = s.toList := by
  refine ⟨(s.toList.reverse.takeWhile Text.isBlank).reverse, fun c mem => ?_, ?_⟩
  · exact List.mem_takeWhile_imp (List.mem_reverse.mp mem)
  · unfold trimRight
    rw [String.toList_ofList, ← List.reverse_append, List.takeWhile_append_dropWhile,
      List.reverse_reverse]

/-- A name and a quiet text behind a gap are a line that opens no block. -/
theorem isAside_member {name gap rest : String} (solid : NoBlank name) (gapped : gap ≠ "")
    (blank : ∀ c ∈ gap.toList, c = ' ') (quiet : Quiet rest) :
    IsAside (indent ++ trimRight (name ++ (gap ++ rest))) := by
  obtain ⟨pad, padding, whole⟩ := exists_blanks_trimRight (name ++ (gap ++ rest))
  have spaces : ∀ c ∈ gap.toList, Text.isBlank c = true := fun c mem => by rw [blank c mem]; rfl
  constructor
  · refine OneLine.append (by decide) fun c mem => ?_
    have line : OneLine (name ++ (gap ++ rest)) := solid.oneLine.append
      (OneLine.append (fun c mem => by rw [blank c mem]; rfl) quiet.oneLine)
    exact line c (whole ▸ List.mem_append_left pad mem)
  · refine Block.opening?_eq_none_of_label indent.toList name.toList gap.toList rest.toList pad ?_
      solid ?_ ?_ quiet.mark
    · rw [String.toList_append, List.append_assoc, whole, String.toList_append,
        String.toList_append]
    · rwa [ne_eq, String.toList_eq_nil_iff]
    · refine List.forall_mem_append.mpr ⟨List.forall_mem_append.mpr ⟨?_, spaces⟩, padding⟩
      exact List.all_eq_true.mp (by decide)

theorem quiet_typeText {c : Column} (h : c.Legible) : Quiet c.typeText := by
  unfold Column.typeText
  split
  · exact h.type.append (by decide +kernel)
  · exact h.type

/-- An aligned member is its name, a gap of spaces, and the rest. -/
theorem alignedLine_eq (nameWidth typeWidth : Nat) (c : Column) :
    alignedLine nameWidth typeWidth c =
      c.name ++ (String.ofList (List.replicate (nameWidth - c.name.length) ' ') ++ " " ++
        " ".intercalate (padRight typeWidth c.typeText :: c.attributes.map (·.render))) := by
  unfold alignedLine
  rw [String.intercalate_cons_cons, padRight, String.append_assoc, String.append_assoc,
    String.append_assoc]

/-- The lines of legible members open no block. -/
theorem isAside_of_mem_memberLines {members : List Column} (legible : ∀ c ∈ members, c.Legible)
    (mem : s ∈ memberLines f b members) : IsAside s := by
  obtain ⟨c, within, rfl⟩ := List.mem_map.mp mem
  have h := legible c within
  have attributes : ∀ t ∈ c.attributes.map (·.render), Quiet t :=
    List.forall_mem_map.mpr h.attributes
  split
  · rw [alignedLine_eq]
    refine isAside_member h.name ?_ ?_ (.intercalate quiet_space (List.forall_mem_cons.mpr
      ⟨(quiet_typeText h).append (quiet_spaces _), attributes⟩))
    · exact fun empty => absurd (String.append_eq_empty_iff.mp empty).2 (by decide)
    · rw [String.toList_append, String.toList_ofList]
      exact List.forall_mem_append.mpr
        ⟨fun c mem => List.eq_of_mem_replicate mem, List.forall_mem_singleton.mpr rfl⟩
  · unfold Column.render
    rw [String.intercalate_cons_cons, String.append_assoc]
    exact isAside_member h.name (by decide) (List.forall_mem_singleton.mpr rfl)
      (.intercalate quiet_space (List.forall_mem_cons.mpr ⟨quiet_typeText h, attributes⟩))

/-! ## Blocks -/

/-- A block whose lines open no block but itself. -/
structure Legible (f : Formatter) (b : ModelBlock) : Prop where
  name : IsName b.name
  description : OneLine b.description
  members : ∀ c ∈ b.members, c.Legible
  directives : ∀ t ∈ b.directives f, Quiet t

theorem Legible.innerLines (h : b.Legible f) : ∀ s ∈ b.innerLines f, IsAside s := by
  obtain ⟨columns, relations⟩ := List.forall_mem_append.mp h.members
  have blank : IsAside "" := ⟨by decide, rfl⟩
  have heading : IsAside (indent ++ "// Relations") :=
    (Quiet.mk (by decide) (by decide +kernel) : Quiet (indent ++ "// Relations")).isAside
  have indented : Quiet indent := quiet_spaces 2
  refine List.forall_mem_append.mpr ⟨List.forall_mem_append.mpr ⟨fun s mem => ?_, ?_⟩, ?_⟩
  · exact isAside_of_mem_memberLines columns mem
  · split
    · exact List.forall_mem_nil _
    · refine List.forall_mem_append.mpr ⟨?_, fun s mem => isAside_of_mem_memberLines relations mem⟩
      split
      · exact List.forall_mem_cons.mpr ⟨blank, List.forall_mem_singleton.mpr heading⟩
      · exact List.forall_mem_nil _
  · split
    · exact List.forall_mem_nil _
    · refine List.forall_mem_append.mpr ⟨?_, List.forall_mem_map.mpr fun t mem => ?_⟩
      · split
        · exact List.forall_mem_singleton.mpr blank
        · exact List.forall_mem_nil _
      · exact (indented.append (h.directives t mem)).isAside

/-- A line of a legible block that opens a block is the one with the name of the model. -/
theorem Legible.opening_of_mem (h : b.Legible f) (mem : line ∈ closedLines (b.render f))
    {kind : BlockKind} {name : String} (opens : opening? line = some (kind, name)) :
    kind = .model ∧ name = b.name := by
  have lines : b.lines f ≠ [] := by
    rw [lines_eq]
    exact List.append_ne_nil_of_right_ne_nil _ (List.cons_ne_nil _ _)
  unfold render at mem
  rw [Text.closedLines_intercalate lines, List.mem_flatMap] at mem
  obtain ⟨s, within, here⟩ := mem
  have aside (h : IsAside s) : kind = .model ∧ name = b.name := by
    rw [Text.closedLines_of_oneLine h.1, List.mem_singleton] at here
    rw [here, h.2] at opens
    cases opens
  rw [lines_eq] at within
  rcases List.mem_append.mp within with above | below
  · split at above
    · rw [List.mem_singleton.mp above] at aside
      exact aside (isAside_comment rfl (by decide) h.description)
    · cases above
  · rcases List.mem_cons.mp below with rfl | below
    · have named : OneLine ("model " ++ b.name ++ " \x7b") :=
        (OneLine.append (by decide) h.name.oneLine).append (by decide)
      rw [Text.closedLines_of_oneLine named, List.mem_singleton] at here
      rw [here, Block.opening?_model h.name.2 h.name.1] at opens
      cases opens
      exact ⟨rfl, rfl⟩
    · rcases List.mem_append.mp below with inner | last
      · exact aside (h.innerLines s inner)
      · rw [List.mem_singleton.mp last] at aside
        exact aside ⟨by decide, by decide +kernel⟩

end ModelBlock

end SchemaCompiler
