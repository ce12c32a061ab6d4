import SchemaCompiler.Proofs.Text.Join
import SchemaCompiler.Text.Lines

/-!
# Lines of a text

A line feed after a text makes its last line complete, so the lines of a text that goes on are its
own lines and those of the rest (`closedLines_append`). A line holds no separator, and lines without
separators are read back from the text that line feeds make of them (`closedLines_joined`).
-/

set_option autoImplicit false

namespace SchemaCompiler.Text

/-- A text without line separators. -/
def IsLine (cs : List Char) : Prop := ∀ c ∈ cs, isLineBreak c = false

/-- A string without line separators. -/
def OneLine (s : String) : Prop := IsLine s.toList

variable {line cs rest : List Char} {c : Char}

theorem IsLine.append {cs ds : List Char} (first : IsLine cs) (second : IsLine ds) :
    IsLine (cs ++ ds) :=
  List.forall_mem_append.mpr ⟨first, second⟩

theorem isLine_reverse (h : IsLine cs) : IsLine cs.reverse :=
  fun c mem => h c (List.mem_reverse.mp mem)

/-! ## One character after the other -/

theorem linesAfter_cons_of_ne (other : c ≠ '\r') : linesAfter line (c :: cs) =
    if isLineBreak c then line.reverse :: linesAfter [] cs else linesAfter (c :: line) cs :=
  linesAfter.eq_3 line c cs fun _ same _ => other same

theorem linesAfter_return_of_ne (other : cs.head? ≠ some '\n') :
    linesAfter line ('\r' :: cs) = line.reverse :: linesAfter [] cs := by
  rw [linesAfter.eq_3 line '\r' cs fun rest _ same => other (same ▸ rfl)]
  rfl

theorem linesAfter_newline (line cs : List Char) :
    linesAfter line ('\n' :: cs) = line.reverse :: linesAfter [] cs := by
  rw [linesAfter_cons_of_ne (by decide)]
  rfl

/-- Characters without separators extend the line being read. -/
theorem linesAfter_append_of_isLine (h : IsLine cs) (line rest : List Char) :
    linesAfter line (cs ++ rest) = linesAfter (cs.reverse ++ line) rest := by
  induction cs generalizing line with
  | nil => rfl
  | cons c cs ih =>
    obtain ⟨here, later⟩ := List.forall_mem_cons.mp h
    have other : c ≠ '\r' := by
      rintro rfl
      cases here
    rw [List.cons_append, linesAfter_cons_of_ne other, here, if_neg Bool.false_ne_true, ih later,
      List.reverse_cons, List.append_assoc, List.singleton_append]

/-- A line feed completes the lines before it. -/
theorem linesAfter_append_newline (line cs rest : List Char) :
    linesAfter line (cs ++ '\n' :: rest) =
      linesAfter line (cs ++ ['\n']) ++ linesAfter [] rest := by
  induction line, cs using linesAfter.induct with
  | case1 line _ | case2 line _ =>
    rw [List.nil_append, List.nil_append, linesAfter_newline, linesAfter_newline]
    rfl
  | case3 line cs ih =>
    show line.reverse :: linesAfter [] (cs ++ '\n' :: rest) =
      line.reverse :: linesAfter [] (cs ++ ['\n']) ++ linesAfter [] rest
    rw [ih, List.cons_append]
  | case4 line c cs apart ends ih =>
    by_cases feed : c = '\r'
    · subst feed
      cases cs with
      | nil => rfl
      | cons d ds =>
        have other : d ≠ '\n' := fun same => apart ds rfl (same ▸ rfl)
        have here (tail : List Char) : linesAfter line ('\r' :: d :: ds ++ tail) =
            line.reverse :: linesAfter [] (d :: ds ++ tail) :=
          linesAfter_return_of_ne fun same => other (Option.some.inj same)
        rw [here, here, ih]
        rfl
    · have here (tail : List Char) : linesAfter line (c :: (cs ++ tail)) =
          line.reverse :: linesAfter [] (cs ++ tail) := by
        rw [linesAfter_cons_of_ne feed, ends, if_pos rfl]
      rw [List.cons_append, List.cons_append, here, here, ih, List.cons_append]
  | case5 line c cs apart inner ih =>
    have other : c ≠ '\r' := by
      rintro rfl
      exact inner rfl
    have here (tail : List Char) : linesAfter line (c :: (cs ++ tail)) =
        linesAfter (c :: line) (cs ++ tail) := by
      rw [linesAfter_cons_of_ne other, if_neg inner]
    rw [List.cons_append, List.cons_append, here, here, ih]

/-- A line feed at the end adds nothing but a blank line, if the last line is complete already. -/
theorem linesAfter_append_last (line cs : List Char) :
    linesAfter line (cs ++ ['\n']) = linesAfter line cs ∨
      linesAfter line (cs ++ ['\n']) = linesAfter line cs ++ [[]] := by
  induction line, cs using linesAfter.induct with
  | case1 line empty =>
    rw [List.isEmpty_iff.mp empty]
    exact .inr rfl
  | case2 line some =>
    rw [List.nil_append, linesAfter_newline, linesAfter.eq_1 line, if_neg some]
    exact .inl rfl
  | case3 line cs ih =>
    show line.reverse :: linesAfter [] (cs ++ ['\n']) = line.reverse :: linesAfter [] cs ∨
      line.reverse :: linesAfter [] (cs ++ ['\n']) = line.reverse :: linesAfter [] cs ++ [[]]
    exact ih.imp (congrArg _) (congrArg _)
  | case4 line c cs apart ends ih =>
    rw [linesAfter.eq_3 _ _ _ apart, if_pos ends]
    by_cases alone : c = '\r' ∧ cs = []
    · obtain ⟨rfl, rfl⟩ := alone
      exact .inl rfl
    · have still : ∀ rest, c = '\r' → cs ++ ['\n'] = '\n' :: rest → False := by
        intro rest feed same
        cases cs with
        | nil => exact alone ⟨feed, rfl⟩
        | cons d ds => exact apart ds feed (congrArg (· :: ds) (List.cons.inj same).1)
      rw [List.cons_append, linesAfter.eq_3 _ _ _ still, if_pos ends]
      exact ih.imp (congrArg _) (congrArg _)
  | case5 line c cs apart inner ih =>
    have other : c ≠ '\r' := by
      rintro rfl
      exact inner rfl
    rw [List.cons_append, linesAfter_cons_of_ne other, linesAfter_cons_of_ne other, if_neg inner,
      if_neg inner]
    exact ih

/-- No line holds a separator. -/
theorem isLine_of_mem_linesAfter {l : List Char} (begun : IsLine line)
    (mem : l ∈ linesAfter line cs) : IsLine l := by
  induction line, cs using linesAfter.induct with
  | case1 line empty =>
    rw [linesAfter.eq_1, if_pos empty] at mem
    cases mem
  | case2 line some =>
    rw [linesAfter.eq_1, if_neg some] at mem
    exact List.mem_singleton.mp mem ▸ isLine_reverse begun
  | case3 line cs ih =>
    rw [linesAfter.eq_2] at mem
    rcases List.mem_cons.mp mem with rfl | later
    · exact isLine_reverse begun
    · exact ih (List.forall_mem_nil _) later
  | case4 line c cs apart ends ih =>
    rw [linesAfter.eq_3 _ _ _ apart, if_pos ends] at mem
    rcases List.mem_cons.mp mem with rfl | later
    · exact isLine_reverse begun
    · exact ih (List.forall_mem_nil _) later
  | case5 line c cs apart inner ih =>
    rw [linesAfter.eq_3 _ _ _ apart, if_neg inner] at mem
    exact ih (List.forall_mem_cons.mpr ⟨eq_false_of_ne_true inner, begun⟩) mem

/-! ## Texts -/

/-- The lines of a text that a line feed follows. -/
def closedLines (s : String) : List (List Char) := lines (s ++ "\n")

/-- A line feed completes the last line of a text, or adds a blank one. -/
theorem closedLines_eq_or (s : String) :
    closedLines s = lines s ∨ closedLines s = lines s ++ [[]] := by
  unfold closedLines lines
  rw [String.toList_append]
  exact linesAfter_append_last [] s.toList

/-- Lines as a text, one line feed between any two of them. -/
def joined (ls : List (List Char)) : String := "\n".intercalate (ls.map String.ofList)

theorem closedLines_append (s t : String) :
    closedLines (s ++ "\n" ++ t) = closedLines s ++ closedLines t := by
  unfold closedLines lines
  simp only [String.toList_append, List.append_assoc]
  exact linesAfter_append_newline [] s.toList (t.toList ++ ['\n'])

theorem closedLines_of_oneLine {s : String} (h : OneLine s) : closedLines s = [s.toList] := by
  unfold closedLines lines
  rw [String.toList_append, linesAfter_append_of_isLine h, List.append_nil]
  show linesAfter _ ['\n'] = _
  rw [linesAfter_newline, List.reverse_reverse]
  rfl

theorem closedLines_empty : closedLines "" = [[]] := rfl

/-- Texts that line feeds join have the lines of each of them. -/
theorem closedLines_intercalate {texts : List String} (some : texts ≠ []) :
    closedLines ("\n".intercalate texts) = texts.flatMap closedLines :=
  read_intercalate closedLines_append some

/-- Texts of one line that line feeds join are the lines of their join. -/
theorem closedLines_of_each_oneLine {texts : List String} (some : texts ≠ [])
    (each : ∀ t ∈ texts, OneLine t) :
    closedLines ("\n".intercalate texts) = texts.map (·.toList) := by
  rw [closedLines_intercalate some, List.map_eq_flatMap]
  exact List.flatMap_congr fun t mem => closedLines_of_oneLine (each t mem)

theorem append_blank_line (s t : String) :
    s ++ "\n\n" ++ t = s ++ "\n" ++ ("" ++ "\n" ++ t) := by
  simp only [String.append_assoc, String.empty_append]
  rfl

/-- Paragraphs before others have their own lines, and a blank line follows them. -/
theorem closedLines_paragraphs {texts others : List String} (some : texts ≠ [])
    (more : others ≠ []) : closedLines ("\n\n".intercalate (texts ++ others)) =
      closedLines ("\n\n".intercalate texts) ++ [] :: closedLines ("\n\n".intercalate others) := by
  rw [String.intercalate_append_of_ne_nil some more, append_blank_line, closedLines_append,
    closedLines_append, closedLines_empty, List.singleton_append]

theorem isLine_of_mem_closedLines {s : String} {l : List Char} (mem : l ∈ closedLines s) :
    IsLine l :=
  isLine_of_mem_linesAfter (List.forall_mem_nil _) mem

/-- A line of texts with blank lines between them is blank or a line of one of them. -/
theorem mem_closedLines_paragraphs {texts : List String} {l : List Char}
    (mem : l ∈ closedLines ("\n\n".intercalate texts)) :
    l = [] ∨ ∃ t ∈ texts, l ∈ closedLines t := by
  induction texts with
  | nil => exact .inl (List.mem_singleton.mp mem)
  | cons t rest ih =>
    by_cases last : rest = []
    · rw [last, String.intercalate_singleton] at mem
      exact .inr ⟨t, List.mem_cons_self, mem⟩
    · rw [← List.singleton_append, closedLines_paragraphs (List.cons_ne_nil t []) last,
        String.intercalate_singleton, List.mem_append, List.mem_cons] at mem
      rcases mem with here | blank | later
      · exact .inr ⟨t, List.mem_cons_self, here⟩
      · exact .inl blank
      · refine (ih later).imp_right fun ⟨u, among, within⟩ => ?_
        exact ⟨u, List.mem_cons_of_mem t among, within⟩

/-- Lines without separators are the lines of the text that they are joined to. -/
theorem closedLines_joined {ls : List (List Char)} (some : ls ≠ []) (h : ∀ l ∈ ls, IsLine l) :
    closedLines (joined ls) = ls := by
  have each : ∀ l ∈ ls, closedLines (String.ofList l) = [l] := by
    intro l mem
    have line : OneLine (String.ofList l) := by
      unfold OneLine
      rw [String.toList_ofList]
      exact h l mem
    rw [closedLines_of_oneLine line, String.toList_ofList]
  unfold joined
  rw [closedLines_intercalate (by rwa [ne_eq, List.map_eq_nil_iff]), List.flatMap_map]
  rw [List.flatMap_congr each, List.flatMap_singleton']

end SchemaCompiler.Text
