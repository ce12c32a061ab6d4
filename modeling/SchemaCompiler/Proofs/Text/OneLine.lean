import Mathlib.Data.Nat.Digits.Defs
import SchemaCompiler.Decimal.Numeral
import SchemaCompiler.Proofs.Text.Case
import SchemaCompiler.Proofs.Text.Lines
import SchemaCompiler.Proofs.Value.JsonString

/-!
# Texts of one line

A text made of texts of one line has one line. So have the other forms of such a text, in upper case
and in snake case, since no case map makes a line separator (`oneLine_upper`, `oneLine_snakeCase`),
and a text without blanks, as a separator is one. A number in decimal has one line, and so has
whatever is quoted for JSON (`oneLine_quoted`), where all that is not printable is escaped.
-/

set_option autoImplicit false

namespace SchemaCompiler.Text

instance (cs : List Char) : Decidable (IsLine cs) := List.decidableBAll _ _

instance (s : String) : Decidable (OneLine s) := inferInstanceAs (Decidable (IsLine _))

variable {s t separator : String} {cs ds : List Char} {c : Char} {texts : List String}

/-! ## Joining -/

/-- A text all of whose characters have a property. -/
def Each (p : Char → Prop) (s : String) : Prop := ∀ c ∈ s.toList, p c

theorem Each.append {p : Char → Prop} (first : Each p s) (second : Each p t) : Each p (s ++ t) := by
  unfold Each
  rw [String.toList_append]
  exact List.forall_mem_append.mpr ⟨first, second⟩

theorem each_intercalate {p : Char → Prop} (between : Each p separator)
    (each : ∀ t ∈ texts, Each p t) : Each p (separator.intercalate texts) :=
  holds_intercalate Each.append (List.forall_mem_nil _) between each

theorem oneLine_ofList (h : IsLine cs) : OneLine (String.ofList cs) := by
  unfold OneLine
  rw [String.toList_ofList]
  exact h

theorem OneLine.append (first : OneLine s) (second : OneLine t) : OneLine (s ++ t) :=
  Each.append first second

theorem oneLine_intercalate (between : OneLine separator) (each : ∀ t ∈ texts, OneLine t) :
    OneLine (separator.intercalate texts) :=
  each_intercalate between each

theorem isLine_of_subset (h : IsLine ds) (sub : cs ⊆ ds) : IsLine cs := fun c mem => h c (sub mem)

theorem isLine_replicate (n : Nat) (h : isLineBreak c = false) : IsLine (List.replicate n c) :=
  fun _ mem => List.eq_of_mem_replicate mem ▸ h

/-! ## Letter case -/

theorem avoids_of_isLine (h : IsLine cs) : Avoids breakRanges cs := fun c mem =>
  eq_false_of_ne_true fun within => ne_true_of_eq_false (h c mem) (isLineBreak_iff.mpr within)

theorem isLine_of_avoids (h : Avoids breakRanges cs) : IsLine cs := fun c mem =>
  eq_false_of_ne_true fun ends => ne_true_of_eq_false (h c mem) (isLineBreak_iff.mp ends)

theorem oneLine_upper (h : OneLine s) : OneLine (upper s) :=
  oneLine_ofList (isLine_of_avoids (avoids_upper (by decide +kernel) (avoids_of_isLine h)))

theorem isLine_lowerAfter (before : List Char) (h : IsLine cs) : IsLine (lowerAfter before cs) :=
  isLine_of_avoids (avoids_lowerAfter (by decide +kernel) before (avoids_of_isLine h))

theorem isLine_markWords (h : IsLine cs) : IsLine (markWords cs) := by
  induction cs using markWords.induct with
  | case1 => exact h
  | case2 c => exact h
  | case3 a c rest starts ih =>
    obtain ⟨here, later⟩ := List.forall_mem_cons.mp h
    rw [markWords, if_pos starts]
    exact List.forall_mem_cons.mpr ⟨here, List.forall_mem_cons.mpr ⟨rfl, ih later⟩⟩
  | case4 a c rest inner ih =>
    obtain ⟨here, later⟩ := List.forall_mem_cons.mp h
    rw [markWords, if_neg inner]
    exact List.forall_mem_cons.mpr ⟨here, ih later⟩

theorem oneLine_snakeCase (h : OneLine s) : OneLine (snakeCase s) := by
  refine oneLine_ofList (isLine_lowerAfter [] ?_)
  refine List.forall_mem_map.mpr fun c mem => ?_
  split
  · rfl
  · exact isLine_markWords h c mem

/-! ## Texts without blanks -/

/-- A text without blanks. -/
def NoBlank (s : String) : Prop := ∀ c ∈ s.toList, isBlank c = false

instance (s : String) : Decidable (NoBlank s) := List.decidableBAll _ _

theorem NoBlank.oneLine (h : NoBlank s) : OneLine s := fun c mem =>
  eq_false_of_ne_true fun ends => ne_true_of_eq_false (h c mem) (isBlank_of_isLineBreak ends)

theorem NoBlank.append (first : NoBlank s) (second : NoBlank t) : NoBlank (s ++ t) :=
  Each.append first second

theorem noBlank_lowerFirst (h : NoBlank s) : NoBlank (lowerFirst s) := by
  unfold lowerFirst
  split
  · exact h
  · next c rest letters =>
    have letters' : ∀ d ∈ c :: rest, isBlank d = false := letters ▸ h
    obtain ⟨here, later⟩ := List.forall_mem_cons.mp letters'
    have first : Avoids blankRanges [c] := List.forall_mem_singleton.mpr
      (eq_false_of_ne_true fun within => ne_true_of_eq_false here (isBlank_iff.mpr within))
    have lowered := avoids_lowerAfter (by decide +kernel) [] first
    unfold NoBlank
    rw [String.toList_ofList]
    refine List.forall_mem_append.mpr ⟨fun d mem => ?_, later⟩
    exact eq_false_of_ne_true fun blank =>
      ne_true_of_eq_false (lowered d mem) (isBlank_iff.mp blank)

/-- A name that is a word. -/
def IsName (s : String) : Prop := s ≠ "" ∧ ∀ c ∈ s.toList, isWord c = true

instance (s : String) : Decidable (IsName s) :=
  @instDecidableAnd _ _ instDecidableNot (List.decidableBAll _ _)

theorem IsName.append (first : IsName s) (second : IsName t) : IsName (s ++ t) := by
  exact ⟨fun empty => first.1 (String.append_eq_empty_iff.mp empty).1, Each.append first.2 second.2⟩

theorem IsName.noBlank (h : IsName s) : NoBlank s := fun c mem => isBlank_of_isWord (h.2 c mem)

theorem IsName.oneLine (h : IsName s) : OneLine s := h.noBlank.oneLine

/-! ## Numbers -/

theorem isLine_decimalDigits (n : Nat) : IsLine (decimalDigits n) := by
  intro c mem
  have digit : c.isDigit = true := Nat.isDigit_of_mem_toDigits (by decide) (by decide) mem
  apply isLineBreak_of_isWord
  simp only [Char.isDigit, Bool.and_eq_true, decide_eq_true_eq] at digit
  unfold isWord isDigit
  have within : ('0' ≤ c && c ≤ '9') = true := by
    simp only [Bool.and_eq_true, decide_eq_true_eq]
    exact digit
  simp only [within, Bool.or_true, Bool.true_or]

theorem oneLine_toString (n : Int) : OneLine (toString n) := by
  cases n with
  | ofNat n => exact oneLine_ofList (isLine_decimalDigits n)
  | negSucc n =>
    have sign : OneLine "-" := by decide
    exact sign.append (oneLine_ofList (isLine_decimalDigits (n + 1)))

theorem oneLine_positionalText (h : IsLine cs) (position : Int) :
    OneLine (DecimalLayout.positionalText cs position) := by
  have zeros (n : Nat) : IsLine (List.replicate n '0') := isLine_replicate n rfl
  unfold DecimalLayout.positionalText
  split
  · exact OneLine.append (by decide) (oneLine_ofList ((zeros _).append h))
  · refine OneLine.append (oneLine_ofList ?_) ?_
    · exact IsLine.append (isLine_of_subset h (List.take_subset _ _)) (zeros _)
    · split
      · decide
      · exact OneLine.append (by decide)
          (oneLine_ofList (isLine_of_subset h (List.drop_subset _ _)))

/-- A double in decimal has one line. -/
theorem oneLine_render (x : Binary64) : OneLine (DecimalLayout.plain.render x) := by
  have digits (n : Nat) : IsLine (decimalDigits n) := isLine_decimalDigits n
  unfold DecimalLayout.render
  split
  · decide
  · refine OneLine.append (by split <;> decide) ?_
    split
    · unfold DecimalLayout.decimalText
      simp only
      split
      · exact OneLine.append (by decide) (by decide)
      · split
        · refine (oneLine_positionalText (digits _) _).append ?_
          split <;> decide
        · refine (oneLine_positionalText (digits _) _).append ?_
          unfold DecimalLayout.exponentText
          refine OneLine.append (by split <;> decide) (oneLine_ofList ?_)
          exact (isLine_replicate _ rfl).append (digits _)
    · decide

/-- A decimal has one line if the digits that describe it, should it be no number, have one. -/
theorem oneLine_numeral {d : Numeral}
    (payload : ∀ negative signalling digits, d = .nan negative signalling digits → OneLine digits) :
    OneLine d.render := by
  cases d with
  | finite negative c e =>
    refine OneLine.append (by split <;> decide) ?_
    have text (position : Int) := oneLine_positionalText (isLine_decimalDigits c) position
    unfold Numeral.magnitudeText
    extract_lets digits left position text' shift
    by_cases whole : shift = 0
    · rw [if_pos whole]
      exact text position
    · rw [if_neg whole]
      refine OneLine.append ((text position).append (by split <;> decide)) ?_
      exact oneLine_ofList (isLine_decimalDigits _)
  | infinity negative => cases negative <;> decide
  | nan negative signalling digits =>
    refine OneLine.append (OneLine.append (by split <;> decide) (by split <;> decide)) ?_
    exact payload negative signalling digits rfl

/-! ## Quoted texts -/

/-- No printable character of ASCII is a separator. -/
theorem isLine_of_isPlain (plain : ∀ c ∈ cs, Json.IsPlain c) : IsLine cs := by
  refine fun c mem => eq_false_of_ne_true fun ends => ?_
  obtain ⟨r, listed, low, high⟩ := inRanges_iff.mp (isLineBreak_iff.mp ends)
  have outside : ∀ r ∈ breakRanges, r.2 < 0x20 ∨ 0x7e < r.1 := by decide
  have := outside r listed
  obtain ⟨least, greatest⟩ := plain c mem
  omega

/-- Whatever is quoted for JSON has one line. -/
theorem oneLine_quoted (s : String) : OneLine (Json.quoted s) := by
  obtain ⟨body, written, plain⟩ := Json.isLiteral_quoted s
  have quote : IsLine ['\x22'] := by decide
  unfold OneLine
  rw [written]
  exact List.forall_mem_cons.mpr ⟨rfl, (isLine_of_isPlain plain).append quote⟩

end SchemaCompiler.Text
