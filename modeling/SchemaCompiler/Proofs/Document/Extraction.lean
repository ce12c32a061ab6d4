import SchemaCompiler.Document.Block
import SchemaCompiler.Proofs.Text.Lines

/-!
# Reading blocks

A block is read from a run of lines: the first opens it, and its braces are balanced at the last and
not before. Such a run is read as its block wherever it stands (`ofLines_run`), and every block that
is read comes from one (`exists_run_of_mem`), since lines are read in parts (`ofLines_induction`).
The text of a block that was read is therefore read back (`readsBack_of_mem_extract`), while a text
that was written need not be. A text laid out from blocks and lines that open none is read as its
blocks exactly if each of them is read back (`Laid.ofLines_eq_iff`).
-/

set_option autoImplicit false

namespace SchemaCompiler.Block

open Text (IsLine closedLines joined)

variable {b : Block} {o : Open} {kind : BlockKind} {name text : String} {line : List Char}
  {run rest ls ms : List (List Char)} {bs cs : List Block} {depth : Int}

/-! ## Runs of lines -/

/-- Lines after some open braces, all of which are closed at the last line and not before. -/
def Closes (depth : Int) : List (List Char) → Prop
  | [] => False
  | l :: rest => if depth + balance l ≤ 0 then rest = [] else Closes (depth + balance l) rest

instance decidableCloses (depth : Int) (ls : List (List Char)) : Decidable (Closes depth ls) :=
  match ls with
  | [] => inferInstanceAs (Decidable False)
  | l :: rest =>
    have := decidableCloses (depth + balance l) rest
    inferInstanceAs (Decidable (if depth + balance l ≤ 0 then rest = [] else Closes _ rest))

/-- The opening braces of some lines less their closing ones. -/
def openBraces : List (List Char) → Int
  | [] => 0
  | l :: rest => balance l + openBraces rest

@[simp] theorem openBraces_nil : openBraces [] = 0 := rfl

@[simp] theorem openBraces_cons : openBraces (line :: ls) = balance line + openBraces ls := rfl

theorem openBraces_append : openBraces (ls ++ ms) = openBraces ls + openBraces ms := by
  induction ls with
  | nil => simp
  | cons l ls ih => simp [ih, Int.add_assoc]

/-- Lines after some open braces, not all of which are closed at any of them. -/
def StaysOpen (depth : Int) (ls : List (List Char)) : Prop :=
  ∀ first, first <+: ls → first ≠ [] → 0 < depth + openBraces first

theorem staysOpen_nil : StaysOpen depth [] :=
  fun _ none some => absurd (List.prefix_nil.mp none) some

theorem staysOpen_cons : StaysOpen depth (line :: ls) ↔
    0 < depth + balance line ∧ StaysOpen (depth + balance line) ls := by
  constructor
  · intro stays
    constructor
    · have here := stays [line] (List.prefix_append [line] ls) (List.cons_ne_nil line [])
      simpa using here
    · intro first begins _
      have here := stays (line :: first) (List.cons_prefix_cons.mpr ⟨rfl, begins⟩)
        (List.cons_ne_nil line first)
      rwa [openBraces_cons, ← Int.add_assoc] at here
  · rintro ⟨here, later⟩ first begins some
    obtain none | ⟨first, rfl, within⟩ := List.prefix_cons_iff.mp begins
    · exact absurd none some
    · rw [openBraces_cons, ← Int.add_assoc]
      by_cases last : first = []
      · rwa [last, openBraces_nil, Int.add_zero]
      · exact later first within last

/-- The braces are closed at the last line and not before. -/
theorem closes_iff :
    Closes depth run ↔ run ≠ [] ∧ StaysOpen depth run.dropLast ∧ depth + openBraces run ≤ 0 := by
  induction run generalizing depth with
  | nil => exact iff_of_false id fun h => h.1 rfl
  | cons l rest ih =>
    unfold Closes
    cases rest with
    | nil => simp [Closes, staysOpen_nil]
    | cons next more =>
      rw [List.dropLast_cons_cons, staysOpen_cons, openBraces_cons, ← Int.add_assoc, ih]
      split
      · next closed => simp [Int.not_lt.mpr closed]
      · next stays => simp [Int.not_le.mp stays]

/-- Lines that are a block: the first opens it and the last closes it. -/
structure IsRun (b : Block) (ls : List (List Char)) : Prop where
  opens : ls.head?.bind opening? = some (b.kind, b.name)
  closes : Closes 0 ls
  text : b.text = joined ls

theorem ofLines_some_cons : ofLines (some o) (line :: rest) =
    if o.depth + balance line ≤ 0 then
      ⟨o.kind, o.name, joinLines (line :: o.lines)⟩ :: ofLines none rest
    else ofLines (some { o with lines := line :: o.lines, depth := o.depth + balance line })
      rest := by
  rw [ofLines]
  unfold finish
  by_cases closed : o.depth + balance line ≤ 0
  · simp only [closed, ↓reduceIte]
  · simp only [closed, ↓reduceIte]

theorem ofLines_none_of_not_opening (h : opening? line = none) :
    ofLines none (line :: rest) = ofLines none rest := by
  rw [ofLines, h]

/-- A line that opens a block is the first line of the block, before which no brace is open. -/
theorem ofLines_none_of_opening (h : opening? line = some (kind, name)) :
    ofLines none (line :: rest) = ofLines (some ⟨kind, name, [], 0⟩) (line :: rest) := by
  rw [ofLines, ofLines, h]
  simp only [Int.zero_add]

/-- Lines that close an open block are its last ones. -/
theorem ofLines_some_of_closes (h : Closes o.depth run) (rest : List (List Char)) :
    ofLines (some o) (run ++ rest) =
      ⟨o.kind, o.name, joined (o.lines.reverse ++ run)⟩ :: ofLines none rest := by
  induction run generalizing o with
  | nil => exact h.elim
  | cons l run ih =>
    rw [List.cons_append, ofLines_some_cons]
    unfold Closes at h
    split at h
    · next closed =>
      rw [if_pos closed, h, List.nil_append]
      unfold joinLines
      rw [List.reverse_cons]
      rfl
    · next stays =>
      rw [if_neg stays, ih (o := { o with lines := _, depth := _ }) h, List.reverse_cons,
        List.append_assoc, List.singleton_append]

/-- An open block that no line closes is not read, nor is anything after it. -/
theorem ofLines_some_of_staysOpen (h : StaysOpen o.depth ls) : ofLines (some o) ls = [] := by
  induction ls generalizing o with
  | nil => rw [ofLines]
  | cons l ls ih =>
    obtain ⟨here, later⟩ := staysOpen_cons.mp h
    rw [ofLines_some_cons, if_neg (Int.not_le.mpr here)]
    exact ih (o := { o with lines := _, depth := _ }) later

/-- Lines after some open braces leave braces open, or begin with those that close them. -/
theorem staysOpen_or_closes (depth : Int) (ls : List (List Char)) :
    StaysOpen depth ls ∨ ∃ run rest, ls = run ++ rest ∧ Closes depth run := by
  induction ls generalizing depth with
  | nil => exact .inl staysOpen_nil
  | cons l ls ih =>
    by_cases closed : depth + balance l ≤ 0
    · refine .inr ⟨[l], ls, rfl, ?_⟩
      unfold Closes
      rw [if_pos closed]
    · rcases ih (depth + balance l) with stays | ⟨run, rest, rfl, closes⟩
      · exact .inl (staysOpen_cons.mpr ⟨Int.not_le.mp closed, stays⟩)
      · refine .inr ⟨l :: run, rest, rfl, ?_⟩
        unfold Closes
        rw [if_neg closed]
        exact closes

/-- A run is read as its block. -/
theorem ofLines_run (h : IsRun b run) (rest : List (List Char)) :
    ofLines none (run ++ rest) = b :: ofLines none rest := by
  cases run with
  | nil => exact h.closes.elim
  | cons l run =>
    rw [List.cons_append, ofLines_none_of_opening h.opens, ← List.cons_append,
      ofLines_some_of_closes (o := ⟨b.kind, b.name, [], 0⟩) h.closes]
    simp only [List.reverse_nil, List.nil_append, ← h.text]

/-- Lines are read in parts: a line that opens no block, a run, or all that is left, which leaves
the braces of its block open. -/
theorem ofLines_induction {motive : List (List Char) → List Block → Prop} (nil : motive [] [])
    (aside : ∀ line rest bs, opening? line = none → motive rest bs → motive (line :: rest) bs)
    (block : ∀ b run rest bs, IsRun b run → motive rest bs → motive (run ++ rest) (b :: bs))
    (unclosed : ∀ line rest key, opening? line = some key → StaysOpen 0 (line :: rest) →
      motive (line :: rest) []) (ls : List (List Char)) : motive ls (ofLines none ls) := by
  induction size : ls.length using Nat.strongRecOn generalizing ls with
  | _ n ih =>
    subst size
    cases ls with
    | nil =>
      rw [ofLines]
      exact nil
    | cons l ls =>
      cases opens : opening? l with
      | none =>
        rw [ofLines_none_of_not_opening opens]
        exact aside l ls _ opens (ih ls.length (Nat.lt_succ_self _) ls rfl)
      | some key =>
        rw [ofLines_none_of_opening opens]
        rcases staysOpen_or_closes 0 (l :: ls) with stays | ⟨run, rest, split, closes⟩
        · rw [ofLines_some_of_staysOpen (o := ⟨key.1, key.2, [], 0⟩) stays]
          exact unclosed l ls key opens stays
        · rw [split, ofLines_some_of_closes (o := ⟨key.1, key.2, [], 0⟩) closes]
          cases run with
          | nil => exact closes.elim
          | cons l' run =>
            cases split
            have shorter : rest.length < (l :: (run ++ rest)).length := by
              rw [List.length_cons, List.length_append]
              omega
            exact block _ (l :: run) rest _ ⟨opens, closes, rfl⟩ (ih _ shorter rest rfl)

/-- Every block that is read is a run of the lines. -/
theorem exists_run_of_mem (mem : b ∈ ofLines none ls) : ∃ run, run <:+: ls ∧ IsRun b run := by
  revert b
  apply ofLines_induction (motive := fun ls bs => ∀ {b}, b ∈ bs → ∃ run, run <:+: ls ∧ IsRun b run)
  case nil => exact fun mem => absurd mem List.not_mem_nil
  case aside =>
    intro line rest bs _ ih b mem
    obtain ⟨run, within, is⟩ := ih mem
    exact ⟨run, within.trans (List.suffix_cons line rest).isInfix, is⟩
  case block =>
    intro b run rest bs is ih b' mem
    rcases List.mem_cons.mp mem with rfl | later
    · exact ⟨run, (List.prefix_append run rest).isInfix, is⟩
    · obtain ⟨run', within, is'⟩ := ih later
      exact ⟨run', within.trans (List.suffix_append run rest).isInfix, is'⟩
  case unclosed => exact fun _ _ _ _ _ _ mem => absurd mem List.not_mem_nil

/-- What is read from some lines is read first when more lines follow. -/
theorem ofLines_append_extends (o : Option Open) (ls rest : List (List Char)) :
    ofLines o ls <+: ofLines o (ls ++ rest) := by
  induction ls generalizing o with
  | nil =>
    rw [ofLines]
    exact List.nil_prefix
  | cons l ls ih =>
    rw [List.cons_append]
    cases o with
    | some o =>
      rw [ofLines_some_cons, ofLines_some_cons]
      split
      · exact List.cons_prefix_cons.mpr ⟨rfl, ih none⟩
      · exact ih _
    | none =>
      cases opens : opening? l with
      | none =>
        rw [ofLines_none_of_not_opening opens, ofLines_none_of_not_opening opens]
        exact ih none
      | some key =>
        rw [ofLines_none_of_opening opens, ofLines_none_of_opening opens, ofLines_some_cons,
          ofLines_some_cons]
        split
        · exact List.cons_prefix_cons.mpr ⟨rfl, ih none⟩
        · exact ih _

/-- A blank line behind some lines changes nothing that is read from them. -/
theorem ofLines_append_blank (ls : List (List Char)) :
    ofLines none (ls ++ [[]]) = ofLines none ls := by
  apply ofLines_induction (motive := fun ls bs => ofLines none (ls ++ [[]]) = bs)
  case nil => rfl
  case aside =>
    intro line rest bs silent ih
    rw [List.cons_append, ofLines_none_of_not_opening silent, ih]
  case block =>
    intro b run rest bs is ih
    rw [List.append_assoc, ofLines_run is, ih]
  case unclosed =>
    intro line rest key opens stays
    rw [List.cons_append, ofLines_none_of_opening opens, ← List.cons_append]
    refine ofLines_some_of_staysOpen fun first begins some => ?_
    rcases List.prefix_concat_iff.mp begins with rfl | within
    · -- all of the lines leave as many braces open without the blank one
      have blank : openBraces (line :: rest ++ [[]]) = openBraces (line :: rest) := by
        rw [openBraces_append]
        exact Int.add_zero _
      rw [blank]
      exact stays (line :: rest) List.prefix_rfl (List.cons_ne_nil line rest)
    · exact stays first within some

/-- A line feed behind a text changes nothing that is read from it. -/
theorem ofLines_closedLines (text : String) : ofLines none (closedLines text) = extract text := by
  unfold extract
  rcases Text.closedLines_eq_or text with same | blank
  · rw [same]
  · rw [blank, ofLines_append_blank]

/-! ## Blocks on their own -/

/-- The text of a block on its own is read as that block. -/
def ReadsBack (b : Block) : Prop := extract (b.text ++ "\n") = [b]

instance (b : Block) : Decidable b.ReadsBack := inferInstanceAs (Decidable (_ = _))

theorem closedLines_of_isRun (h : IsRun b run) (lines : ∀ l ∈ run, IsLine l) :
    closedLines b.text = run := by
  rw [h.text]
  refine Text.closedLines_joined ?_ lines
  rintro rfl
  exact h.closes

/-- The lines of a block that was read are the run that it was read from. -/
theorem isRun_closedLines_of_mem (mem : b ∈ ofLines none ls) (lines : ∀ l ∈ ls, IsLine l) :
    IsRun b (closedLines b.text) := by
  obtain ⟨run, within, is⟩ := exists_run_of_mem mem
  rw [closedLines_of_isRun is fun l here => lines l (within.subset here)]
  exact is

theorem readsBack_iff_isRun : b.ReadsBack ↔ IsRun b (closedLines b.text) := by
  constructor
  · intro same
    have mem : b ∈ extract (b.text ++ "\n") := same ▸ List.mem_singleton_self b
    exact isRun_closedLines_of_mem mem fun _ => Text.isLine_of_mem_closedLines
  · intro is
    have read := ofLines_run is []
    rw [List.append_nil, ofLines] at read
    exact read

/-- A block that was read from a document is read back from its text. -/
theorem readsBack_of_mem_extract (mem : b ∈ extract text) : b.ReadsBack :=
  readsBack_iff_isRun.mpr
    (isRun_closedLines_of_mem mem fun _ => Text.isLine_of_mem_linesAfter (List.forall_mem_nil _))

/-- What is read is of a kind and a name that a line of the document opens. -/
theorem exists_opening_of_mem (mem : b ∈ ofLines none ls) :
    ∃ l ∈ ls, opening? l = some (b.kind, b.name) := by
  obtain ⟨run, within, is⟩ := exists_run_of_mem mem
  obtain ⟨l, first, opens⟩ := Option.bind_eq_some_iff.mp is.opens
  exact ⟨l, within.subset (List.mem_of_head? first), opens⟩

/-- The lines of a block begin a layout that is read as the block and some others exactly if the
block is read back and the others are read from the rest. -/
theorem ofLines_block_eq_iff
    (opens : (closedLines b.text).head?.bind opening? = some (b.kind, b.name))
    (lines : ∀ l ∈ ls, IsLine l) :
    ofLines none (closedLines b.text ++ ls) = b :: bs ↔ b.ReadsBack ∧ ofLines none ls = bs := by
  constructor
  · intro read
    obtain ⟨l, first, key⟩ := Option.bind_eq_some_iff.mp opens
    obtain ⟨tail, split⟩ := List.head?_eq_some_iff.mp first
    have begun : ofLines none (closedLines b.text ++ ls) =
        ofLines (some ⟨b.kind, b.name, [], 0⟩) (closedLines b.text ++ ls) := by
      rw [split]
      exact ofLines_none_of_opening key
    rw [begun] at read
    rcases staysOpen_or_closes 0 (closedLines b.text ++ ls) with
      stays | ⟨run, rest, same, closes⟩
    · rw [ofLines_some_of_staysOpen (o := ⟨b.kind, b.name, [], 0⟩) stays] at read
      cases read
    · rw [same, ofLines_some_of_closes (o := ⟨b.kind, b.name, [], 0⟩) closes] at read
      obtain ⟨this, others⟩ := List.cons.inj read
      have is : IsRun b run := by
        refine ⟨?_, closes, (congrArg Block.text this).symm⟩
        cases run with
        | nil => exact closes.elim
        | cons l' run =>
          rw [split, List.cons_append, List.cons_append] at same
          show opening? l' = _
          rw [← (List.cons.inj same).1]
          exact key
      have all : ∀ l ∈ run ++ rest, IsLine l :=
        same ▸ List.forall_mem_append.mpr ⟨fun _ => Text.isLine_of_mem_closedLines, lines⟩
      have own := closedLines_of_isRun is (List.forall_mem_append.mp all).1
      rw [own] at same
      rw [List.append_cancel_left same]
      exact ⟨readsBack_iff_isRun.mpr (own.symm ▸ is), others⟩
  · rintro ⟨back, others⟩
    rw [ofLines_run (readsBack_iff_isRun.mp back), others]

/-! ## Layouts -/

/-- Lines laid out from the lines of some blocks, in order, and lines that open no block. -/
inductive Laid : List (List Char) → List Block → Prop where
  | nil : Laid [] []
  | aside {line : List Char} {ls : List (List Char)} {bs : List Block}
      (silent : opening? line = none) (later : Laid ls bs) : Laid (line :: ls) bs
  | block {b : Block} {ls : List (List Char)} {bs : List Block}
      (opens : (closedLines b.text).head?.bind opening? = some (b.kind, b.name))
      (later : Laid ls bs) : Laid (closedLines b.text ++ ls) (b :: bs)

namespace Laid

theorem append (first : Laid ls bs) (second : Laid ms cs) : Laid (ls ++ ms) (bs ++ cs) := by
  induction first with
  | nil => exact second
  | aside silent _ ih => exact .aside silent ih
  | block opens _ ih =>
    rw [List.append_assoc]
    exact .block opens ih

/-- Lines none of which opens a block. -/
theorem asides (h : ∀ l ∈ ls, opening? l = none) : Laid ls [] := by
  induction ls with
  | nil => exact .nil
  | cons l ls ih =>
    obtain ⟨here, later⟩ := List.forall_mem_cons.mp h
    exact .aside here (ih later)

/-- The lines of a layout of no blocks open none. -/
theorem silent (laid : Laid ls []) : ∀ l ∈ ls, opening? l = none := by
  generalize none : ([] : List Block) = bs at laid
  induction laid with
  | nil => exact List.forall_mem_nil _
  | aside here _ ih => exact List.forall_mem_cons.mpr ⟨here, ih none⟩
  | block _ _ _ => cases none

/-- The lines of one block. -/
theorem single (opens : (closedLines b.text).head?.bind opening? = some (b.kind, b.name)) :
    Laid (closedLines b.text) [b] :=
  List.append_nil (closedLines b.text) ▸ .block opens .nil

/-- Texts with one blank line between any two of them, each with the blocks that it is a layout
of. -/
theorem paragraphs {pieces : List (String × List Block)}
    (each : ∀ p ∈ pieces, Laid (closedLines p.1) p.2) :
    Laid (closedLines ("\n\n".intercalate (pieces.map (·.1)))) (pieces.flatMap (·.2)) := by
  induction pieces with
  | nil => exact .aside rfl .nil
  | cons p rest ih =>
    obtain ⟨here, later⟩ := List.forall_mem_cons.mp each
    rw [List.flatMap_cons]
    by_cases last : rest = []
    · rw [last, List.map_singleton, String.intercalate_singleton, List.flatMap_nil, List.append_nil]
      exact here
    · have others : [p.1] ≠ [] ∧ rest.map (·.1) ≠ [] :=
        ⟨List.cons_ne_nil _ _, fun none => last (List.map_eq_nil_iff.mp none)⟩
      rw [List.map_cons, ← List.singleton_append,
        Text.closedLines_paragraphs others.1 others.2, String.intercalate_singleton]
      exact here.append (.aside rfl (ih later))

/-- The blocks of a layout are read from it, and then those of what follows, if the blocks are read
back from their texts. -/
theorem ofLines_append (laid : Laid ls bs) (back : ∀ b ∈ bs, b.ReadsBack)
    (rest : List (List Char)) : ofLines none (ls ++ rest) = bs ++ ofLines none rest := by
  induction laid with
  | nil => rfl
  | aside silent _ ih =>
    rw [List.cons_append, ofLines_none_of_not_opening silent]
    exact ih back
  | block opens _ ih =>
    obtain ⟨here, later⟩ := List.forall_mem_cons.mp back
    rw [List.append_assoc, ofLines_run (readsBack_iff_isRun.mp here), ih later]
    rfl

/-- What is read from the text of a block on its own is read from a layout, if the blocks before it
are read back. -/
theorem mem_ofLines (laid : Laid ls (bs ++ b :: cs)) (back : ∀ b ∈ bs, b.ReadsBack) {stray : Block}
    (mem : stray ∈ extract (b.text ++ "\n")) : stray ∈ ofLines none ls := by
  generalize whole : bs ++ b :: cs = all at laid
  induction laid generalizing bs with
  | nil => exact absurd whole (List.append_ne_nil_of_right_ne_nil _ (List.cons_ne_nil _ _))
  | aside silent _ ih =>
    rw [ofLines_none_of_not_opening silent]
    exact ih back whole
  | block opens _ ih =>
    cases bs with
    | nil =>
      obtain ⟨rfl, _⟩ := List.cons.inj whole
      exact (ofLines_append_extends none _ _).subset mem
    | cons first bs =>
      obtain ⟨rfl, others⟩ := List.cons.inj whole
      obtain ⟨here, later⟩ := List.forall_mem_cons.mp back
      rw [ofLines_run (readsBack_iff_isRun.mp here)]
      exact List.mem_cons_of_mem _ (ih later others)

/-- A layout is read as its blocks exactly if each of them is read back from its text. -/
theorem ofLines_eq_iff (laid : Laid ls bs) (lines : ∀ l ∈ ls, IsLine l) :
    ofLines none ls = bs ↔ ∀ b ∈ bs, b.ReadsBack := by
  induction laid with
  | nil => exact iff_of_true rfl (List.forall_mem_nil _)
  | aside silent _ ih =>
    rw [ofLines_none_of_not_opening silent]
    exact ih (List.forall_mem_cons.mp lines).2
  | block opens _ ih =>
    have later := (List.forall_mem_append.mp lines).2
    rw [ofLines_block_eq_iff opens later, ih later, List.forall_mem_cons]

end Laid

end SchemaCompiler.Block
