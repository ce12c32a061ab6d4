import Mathlib.Data.List.Basic

/-!
# Joined texts

What holds of some texts and of the separator between them, and of two texts in a row, holds of the
joined text (`holds_intercalate`). What is read part by part wherever there is a separator is read
part by part of the joined text (`read_intercalate`). A text that is joined with others stands in
the joined text unchanged (`occurs_of_mem`), and so do several that are joined in a row
(`occurs_intercalate_append`).
-/

set_option autoImplicit false

namespace SchemaCompiler.Text

variable {part between whole separator : String} {parts : List String}

/-! ## Part by part -/

theorem holds_intercalate {P : String → Prop} (append : ∀ {s t}, P s → P t → P (s ++ t))
    (empty : P "") (between : P separator) (each : ∀ t ∈ parts, P t) :
    P (separator.intercalate parts) := by
  induction parts with
  | nil =>
    rw [String.intercalate_nil]
    exact empty
  | cons t rest ih =>
    obtain ⟨here, later⟩ := List.forall_mem_cons.mp each
    cases rest with
    | nil =>
      rw [String.intercalate_singleton]
      exact here
    | cons next others =>
      rw [String.intercalate_cons_cons]
      exact append (append here between) (ih later)

theorem read_intercalate {α : Type} {read : String → List α}
    (apart : ∀ s t, read (s ++ separator ++ t) = read s ++ read t) (some : parts ≠ []) :
    read (separator.intercalate parts) = parts.flatMap read := by
  induction parts with
  | nil => exact absurd rfl some
  | cons t rest ih =>
    cases rest with
    | nil => rw [String.intercalate_singleton, List.flatMap_singleton]
    | cons next later =>
      rw [String.intercalate_cons_cons, apart, ih (List.cons_ne_nil next later)]
      rfl

/-! ## Parts within the whole -/

/-- A text stands in another one, unchanged. -/
def Occurs (part whole : String) : Prop := ∃ before after, whole = before ++ part ++ after

theorem Occurs.refl (whole : String) : Occurs whole whole :=
  ⟨"", "", by rw [String.empty_append, String.append_empty]⟩

theorem Occurs.empty (whole : String) : Occurs "" whole :=
  ⟨"", whole, by rw [String.empty_append, String.empty_append]⟩

theorem Occurs.trans (inner : Occurs part between) (outer : Occurs between whole) :
    Occurs part whole := by
  obtain ⟨before, after, rfl⟩ := inner
  obtain ⟨before', after', rfl⟩ := outer
  exact ⟨before' ++ before, after ++ after', by simp only [String.append_assoc]⟩

theorem Occurs.append_right (inner : Occurs part whole) (after : String) :
    Occurs part (whole ++ after) :=
  inner.trans ⟨"", after, by rw [String.empty_append]⟩

/-- Texts that are joined in a row with others before and after them stand there as they are joined
alone. -/
theorem occurs_intercalate_append (separator : String) (before parts after : List String) :
    Occurs (separator.intercalate parts) (separator.intercalate (before ++ parts ++ after)) := by
  by_cases none : parts = []
  · rw [none, String.intercalate_nil]
    exact .empty _
  · have first : Occurs (separator.intercalate parts) (separator.intercalate (parts ++ after)) := by
      by_cases last : after = []
      · rw [last, List.append_nil]
        exact .refl _
      · rw [String.intercalate_append_of_ne_nil none last, String.append_assoc]
        exact (Occurs.refl _).append_right _
    refine first.trans ?_
    rw [List.append_assoc]
    by_cases start : before = []
    · rw [start, List.nil_append]
      exact .refl _
    · rw [String.intercalate_append_of_ne_nil start (by simp [none])]
      exact ⟨_, "", by rw [String.append_empty]⟩

/-- Each of some texts stands in what they are joined to. -/
theorem occurs_of_mem (mem : part ∈ parts) : Occurs part (separator.intercalate parts) := by
  obtain ⟨before, after, rfl⟩ := List.append_of_mem mem
  have alone := occurs_intercalate_append separator before [part] after
  rwa [String.intercalate_singleton, List.append_assoc] at alone

end SchemaCompiler.Text
