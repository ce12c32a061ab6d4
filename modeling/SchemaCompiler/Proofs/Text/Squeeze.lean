import Mathlib.Data.List.DropRight
import SchemaCompiler.Proofs.Text.Lines
import SchemaCompiler.Text.Class

/-!
# Runs of spaces

A text with every run of spaces squeezed to one. Squeezing goes through appending, from either side
(`squeeze_append_left`, `squeeze_append_right`), so padding in front of a space is lost wherever it
stands (`SameSpaced.append`, `sameSpaced_pad`). It leaves the line separators where they are, and
texts that are squeezed to one have lines that are (`SameSpaced.closedLines`). No run of spaces
comes or goes when blanks are taken off an end (`dropWhile_squeeze`, `rdropWhile_squeeze`).
-/

set_option autoImplicit false

namespace SchemaCompiler.Text

variable {c : Char} {cs ds first second : List Char} {s t u v : String}

/-- Every run of spaces as one space. -/
def squeeze : List Char → List Char
  | [] => []
  | c :: cs => if c = ' ' ∧ cs.head? = some ' ' then squeeze cs else c :: squeeze cs

theorem squeeze_cons_of_space (h : cs.head? = some ' ') : squeeze (' ' :: cs) = squeeze cs :=
  if_pos ⟨rfl, h⟩

theorem squeeze_cons_of_not (h : ¬ (c = ' ' ∧ cs.head? = some ' ')) :
    squeeze (c :: cs) = c :: squeeze cs :=
  if_neg h

theorem squeeze_cons_of_ne (h : c ≠ ' ') : squeeze (c :: cs) = c :: squeeze cs :=
  squeeze_cons_of_not fun both => h both.1

/-- What is squeezed begins as before. -/
theorem head?_squeeze (cs : List Char) : (squeeze cs).head? = cs.head? := by
  induction cs with
  | nil => rfl
  | cons c cs ih =>
    by_cases both : c = ' ' ∧ cs.head? = some ' '
    · obtain ⟨rfl, next⟩ := both
      rw [squeeze_cons_of_space next, ih, next]
      rfl
    · rw [squeeze_cons_of_not both]
      rfl

theorem squeeze_eq_nil_iff : squeeze cs = [] ↔ cs = [] := by
  rw [← List.head?_eq_none_iff, head?_squeeze, List.head?_eq_none_iff]

/-! ## Appending -/

theorem squeeze_append_left (cs ds : List Char) :
    squeeze (squeeze cs ++ ds) = squeeze (cs ++ ds) := by
  induction cs with
  | nil => rfl
  | cons c cs ih =>
    have next : (squeeze cs ++ ds).head? = (cs ++ ds).head? := by
      rw [List.head?_append, List.head?_append, head?_squeeze]
    by_cases both : c = ' ' ∧ cs.head? = some ' '
    · obtain ⟨rfl, space⟩ := both
      rw [squeeze_cons_of_space space, ih, List.cons_append, squeeze_cons_of_space]
      rw [List.head?_append, space, Option.some_or]
    · rw [squeeze_cons_of_not both, List.cons_append, List.cons_append, squeeze, squeeze, next, ih]

theorem squeeze_squeeze (cs : List Char) : squeeze (squeeze cs) = squeeze cs := by
  have alone := squeeze_append_left cs []
  rwa [List.append_nil, List.append_nil] at alone

theorem squeeze_append_right (cs ds : List Char) :
    squeeze (cs ++ squeeze ds) = squeeze (cs ++ ds) := by
  induction cs with
  | nil => exact squeeze_squeeze ds
  | cons c cs ih =>
    have next : (cs ++ squeeze ds).head? = (cs ++ ds).head? := by
      rw [List.head?_append, List.head?_append, head?_squeeze]
    rw [List.cons_append, List.cons_append, squeeze, squeeze, next, ih]

/-- Where no run of spaces goes on, the parts are squeezed on their own. -/
theorem squeeze_append_of_head (h : ds.head? ≠ some ' ') :
    squeeze (cs ++ ds) = squeeze cs ++ squeeze ds := by
  induction cs with
  | nil => rfl
  | cons c cs ih =>
    have next : (cs ++ ds).head? = some ' ' ↔ cs.head? = some ' ' := by
      cases cs with
      | nil => exact iff_of_false h nofun
      | cons d cs => exact Iff.rfl
    rw [List.cons_append, squeeze, squeeze, ih]
    simp only [next]
    split
    · rfl
    · rfl

/-! ## Lines -/

theorem linesAfter_space (line cs : List Char) :
    linesAfter line (' ' :: cs) = linesAfter (' ' :: line) cs := by
  rw [linesAfter_cons_of_ne (by decide)]
  rfl

/-- A line that is being read matters up to its runs of spaces. -/
theorem linesAfter_squeeze_congr (same : squeeze first.reverse = squeeze second.reverse) :
    (linesAfter first cs).map squeeze = (linesAfter second cs).map squeeze := by
  induction first, cs using linesAfter.induct generalizing second with
  | case1 first empty =>
    obtain rfl := List.isEmpty_iff.mp empty
    obtain rfl := List.reverse_eq_nil_iff.mp (squeeze_eq_nil_iff.mp same.symm)
    rfl
  | case2 first some =>
    have some' : ¬ second.isEmpty = true := by
      intro empty
      obtain rfl := List.isEmpty_iff.mp empty
      obtain rfl := List.reverse_eq_nil_iff.mp (squeeze_eq_nil_iff.mp same)
      exact some rfl
    rw [linesAfter.eq_1, linesAfter.eq_1, if_neg some, if_neg some']
    exact congrArg ([·]) same
  | case3 first cs ih =>
    rw [linesAfter.eq_2, linesAfter.eq_2, List.map_cons, List.map_cons, same]
  | case4 first c cs apart ends ih =>
    rw [linesAfter.eq_3 _ _ _ apart, linesAfter.eq_3 _ _ _ apart, if_pos ends, if_pos ends,
      List.map_cons, List.map_cons, same]
  | case5 first c cs apart inner ih =>
    rw [linesAfter.eq_3 _ _ _ apart, linesAfter.eq_3 _ _ _ apart, if_neg inner, if_neg inner]
    refine ih ?_
    rw [List.reverse_cons, List.reverse_cons, ← squeeze_append_left, same, squeeze_append_left]

/-- Squeezing what is still to be read changes the runs of spaces of the lines only. -/
theorem linesAfter_squeeze (line cs : List Char) :
    (linesAfter line (squeeze cs)).map squeeze = (linesAfter line cs).map squeeze := by
  induction line, cs using linesAfter.induct with
  | case1 line _ | case2 line _ => rfl
  | case3 line cs ih =>
    rw [squeeze_cons_of_ne (by decide), squeeze_cons_of_ne (by decide), linesAfter.eq_2,
      linesAfter.eq_2, List.map_cons, List.map_cons, ih]
  | case4 line c cs apart ends ih =>
    have apart' : ∀ rest, c = '\r' → squeeze cs = '\n' :: rest → False := by
      intro rest return' feed
      have next : cs.head? = some '\n' := by rw [← head?_squeeze, feed]; rfl
      obtain ⟨rest', split⟩ := List.head?_eq_some_iff.mp next
      exact apart rest' return' split
    have visible : c ≠ ' ' := by
      rintro rfl
      cases ends
    rw [squeeze_cons_of_ne visible, linesAfter.eq_3 _ _ _ apart', linesAfter.eq_3 _ _ _ apart,
      if_pos ends, if_pos ends, List.map_cons, List.map_cons, ih]
  | case5 line c cs apart inner ih =>
    have other : c ≠ '\r' := by
      rintro rfl
      exact inner rfl
    rw [linesAfter_cons_of_ne other, if_neg inner, ← ih]
    by_cases both : c = ' ' ∧ cs.head? = some ' '
    · obtain ⟨rfl, next⟩ := both
      -- the space that is dropped stands before the one that is read next, so the line that is
      -- begun lacks one of two spaces
      obtain ⟨ds, split⟩ := List.head?_eq_some_iff.mp ((head?_squeeze cs).trans next)
      rw [squeeze_cons_of_space next, split, linesAfter_space, linesAfter_space]
      refine linesAfter_squeeze_congr ?_
      have doubled : squeeze [' ', ' '] = squeeze [' '] := by decide
      simp only [List.reverse_cons]
      rw [List.append_assoc, List.singleton_append, ← squeeze_append_right _ [' ', ' '], doubled,
        squeeze_append_right]
    · rw [squeeze_cons_of_not both, linesAfter_cons_of_ne other, if_neg inner]

/-- Two texts that are one up to the lengths of their runs of spaces. -/
def SameSpaced (s t : String) : Prop := squeeze s.toList = squeeze t.toList

namespace SameSpaced

theorem refl (s : String) : SameSpaced s s := rfl

theorem trans (first : SameSpaced s t) (second : SameSpaced t u) : SameSpaced s u :=
  Eq.trans first second

theorem append (first : SameSpaced s t) (second : SameSpaced u v) :
    SameSpaced (s ++ u) (t ++ v) := by
  unfold SameSpaced at first second ⊢
  rw [String.toList_append, String.toList_append, ← squeeze_append_left, first,
    squeeze_append_left, ← squeeze_append_right, second, squeeze_append_right]

/-- Texts up to the lengths of their runs of spaces have such lines. -/
theorem closedLines (h : SameSpaced s t) :
    (Text.closedLines s).map squeeze = (Text.closedLines t).map squeeze := by
  unfold Text.closedLines lines
  rw [← linesAfter_squeeze, ← linesAfter_squeeze [] (t ++ "\n").toList]
  exact congrArg _ (congrArg _ (append h (refl "\n")))

end SameSpaced

theorem squeeze_pad (n : Nat) (cs : List Char) :
    squeeze (List.replicate n ' ' ++ ' ' :: cs) = squeeze (' ' :: cs) := by
  induction n with
  | zero => rfl
  | succ n ih =>
    rw [List.replicate_succ, List.cons_append, squeeze_cons_of_space, ih]
    cases n with
    | zero => rfl
    | succ n => rfl

/-- Spaces in front of a space do not matter. -/
theorem sameSpaced_pad (n : Nat) (s : String) :
    SameSpaced (String.ofList (List.replicate n ' ') ++ (" " ++ s)) (" " ++ s) := by
  unfold SameSpaced
  rw [String.toList_append, String.toList_append, String.toList_ofList]
  exact squeeze_pad n s.toList

/-! ## Blanks at an end -/

theorem dropWhile_squeeze (cs : List Char) :
    (squeeze cs).dropWhile isBlank = squeeze (cs.dropWhile isBlank) := by
  induction cs with
  | nil => rfl
  | cons c cs ih =>
    by_cases blank : isBlank c = true
    · rw [List.dropWhile_cons_of_pos blank, ← ih]
      by_cases both : c = ' ' ∧ cs.head? = some ' '
      · rw [squeeze, if_pos both]
      · rw [squeeze_cons_of_not both, List.dropWhile_cons_of_pos blank]
    · have visible : c ≠ ' ' := by
        rintro rfl
        exact blank rfl
      rw [squeeze_cons_of_ne visible, List.dropWhile_cons_of_neg blank,
        List.dropWhile_cons_of_neg blank, squeeze_cons_of_ne visible]

/-- One more space at the end is kept or joins those before it. -/
theorem squeeze_concat_space (cs : List Char) :
    squeeze (cs ++ [' ']) = squeeze cs ++ [' '] ∨ squeeze (cs ++ [' ']) = squeeze cs := by
  induction cs with
  | nil => exact .inl rfl
  | cons c cs ih =>
    cases cs with
    | nil =>
      by_cases space : c = ' '
      · subst space
        exact .inr rfl
      · refine .inl ?_
        rw [List.singleton_append, squeeze_cons_of_ne space, squeeze_cons_of_ne space]
        rfl
    | cons d cs =>
      by_cases both : c = ' ' ∧ (d :: cs).head? = some ' '
      · obtain ⟨rfl, next⟩ := both
        have next' : (d :: cs ++ [' ']).head? = some ' ' := next
        rw [List.cons_append, squeeze_cons_of_space next, squeeze_cons_of_space next']
        exact ih
      · have both' : ¬ (c = ' ' ∧ (d :: cs ++ [' ']).head? = some ' ') := both
        rw [List.cons_append, squeeze_cons_of_not both, squeeze_cons_of_not both']
        exact ih.imp (congrArg (c :: ·)) (congrArg (c :: ·))

theorem rdropWhile_squeeze (cs : List Char) :
    (squeeze cs).rdropWhile isBlank = squeeze (cs.rdropWhile isBlank) := by
  induction cs using List.reverseRecOn with
  | nil => rfl
  | append_singleton cs c ih =>
    by_cases space : c = ' '
    · subst space
      rw [List.rdropWhile_concat_pos _ _ _ rfl, ← ih]
      rcases squeeze_concat_space cs with kept | joined
      · rw [kept, List.rdropWhile_concat_pos _ _ _ rfl]
      · rw [joined]
    · have apart : [c].head? ≠ some ' ' := fun same => space (Option.some.inj same)
      have alone : squeeze [c] = [c] := squeeze_cons_of_ne space
      rw [squeeze_append_of_head apart, alone]
      by_cases blank : isBlank c = true
      · rw [List.rdropWhile_concat_pos _ _ _ blank, List.rdropWhile_concat_pos _ _ _ blank, ih]
      · rw [List.rdropWhile_concat_neg _ _ _ blank, List.rdropWhile_concat_neg _ _ _ blank,
          squeeze_append_of_head apart, alone]

end SchemaCompiler.Text
