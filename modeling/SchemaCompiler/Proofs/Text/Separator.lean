import SchemaCompiler.Proofs.Text.Join

/-!
# Texts joined by underscores

What underscores join may hold underscores itself, so the parts are not read back from the joined
text. What is read back are the pieces between all underscores, and they are the pieces of the parts
in a row (`pieces_intercalate`). Two texts that are joined with two others come to one text where
the longer of the first ones goes on as the other second one begins (`join_eq_iff`).
-/

set_option autoImplicit false

namespace SchemaCompiler.Text

/-- The pieces of a text that underscores separate. -/
def pieces (s : String) : List (List Char) := s.toList.splitOn '_'

theorem pieces_injective : Function.Injective pieces := by
  intro s t same
  apply String.toList_injective
  have joined (u : String) : ['_'].intercalate (pieces u) = u.toList := List.intercalate_splitOn '_'
  rw [← joined s, same, joined t]

theorem pieces_of_free {s : String} (free : '_' ∉ s.toList) : pieces s = [s.toList] :=
  List.splitOn_eq_singleton free

/-- Texts that are joined by underscores have the pieces of each text in a row. -/
theorem pieces_intercalate {texts : List String} (some : texts ≠ []) :
    pieces ("_".intercalate texts) = texts.flatMap pieces := by
  refine read_intercalate (fun s t => ?_) some
  have joined : (s ++ "_" ++ t).toList = s.toList ++ '_' :: t.toList := by
    rw [String.toList_append, String.toList_append, List.append_assoc]
    rfl
  unfold pieces
  rw [joined, List.splitOn_append_cons_self]

/-- Where a joined text goes on behind another first part, either nothing is in between, or an
underscore and what the second part begins with. -/
theorem eq_or_goesOn {a b c d : String} {more : List Char} (longer : c.toList = a.toList ++ more)
    (behind : '_' :: b.toList = more ++ '_' :: d.toList) :
    a = c ∧ b = d ∨ ∃ rest, c = a ++ "_" ++ rest ∧ b = rest ++ "_" ++ d := by
  cases more with
  | nil =>
    have first : a.toList = c.toList := by rw [longer, List.append_nil]
    have second : b.toList = d.toList := (List.cons.inj behind).2
    exact .inl ⟨String.toList_injective first, String.toList_injective second⟩
  | cons x more =>
    obtain ⟨rfl, tail⟩ := List.cons.inj behind
    refine .inr ⟨String.ofList more, ?_, ?_⟩
    · exact String.toList_injective (by simpa using longer)
    · exact String.toList_injective (by simpa using tail)

/-- Two texts that are joined by an underscore come to one text in two ways only: they are the same,
or the first part of one goes on, over an underscore, as the second part of the other begins. -/
theorem join_eq_iff {a b c d : String} : a ++ "_" ++ b = c ++ "_" ++ d ↔
    a = c ∧ b = d ∨ (∃ rest, a = c ++ "_" ++ rest ∧ d = rest ++ "_" ++ b) ∨
      ∃ rest, c = a ++ "_" ++ rest ∧ b = rest ++ "_" ++ d := by
  constructor
  · intro joined
    have chars : a.toList ++ '_' :: b.toList = c.toList ++ '_' :: d.toList := by
      simpa using congrArg String.toList joined
    rcases List.append_eq_append_iff.mp chars with ⟨more, longer, behind⟩ | ⟨more, longer, behind⟩
    · rcases eq_or_goesOn longer behind with same | goesOn
      · exact .inl same
      · exact .inr (.inr goesOn)
    · rcases eq_or_goesOn longer behind with ⟨first, second⟩ | goesOn
      · exact .inl ⟨first.symm, second.symm⟩
      · exact .inr (.inl goesOn)
  · rintro (⟨rfl, rfl⟩ | ⟨rest, rfl, rfl⟩ | ⟨rest, rfl, rfl⟩)
    · rfl
    · simp only [String.append_assoc]
    · simp only [String.append_assoc]

end SchemaCompiler.Text
