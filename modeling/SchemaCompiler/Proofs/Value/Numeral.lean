import SchemaCompiler.Decimal.Numeral
import SchemaCompiler.Proofs.Value.JsonNumber

/-!
# Numerals

A numeral is a sign, digits, a fraction and an exponent, where only the digits have to be there
(`IsNumeral`). Whatever is written for a finite number is one: for an integer
(`IsInteger.isNumeral`), for a double (`isNumeral_render_double_iff`) and for a decimal
(`isNumeral_render_iff`). What is written for an infinity or for what is not a number is a word, and
never a numeral.
-/

set_option autoImplicit false

namespace SchemaCompiler

namespace Notation

variable {cs ds sign rest : List Char} {c : Char}

/-! ## The grammar -/

/-- Digits, at least one of them. -/
def IsDigits (cs : List Char) : Prop := cs ≠ [] ∧ ∀ c ∈ cs, Text.isDigit c = true

/-- A sign, or nothing. -/
inductive IsSign : List Char → Prop
  | none : IsSign []
  | plus : IsSign ['+']
  | minus : IsSign ['-']

/-- A point with digits behind it, or nothing. -/
inductive IsFraction : List Char → Prop
  | none : IsFraction []
  | some {ds : List Char} (digits : IsDigits ds) : IsFraction ('.' :: ds)

/-- An exponent behind its mark, or nothing. -/
inductive IsExponent : List Char → Prop
  | none : IsExponent []
  | some {mark : Char} {sign ds : List Char} (marked : mark = 'e' ∨ mark = 'E')
      (signed : IsSign sign) (digits : IsDigits ds) : IsExponent (mark :: (sign ++ ds))

/-- A number without its sign. -/
def IsMagnitude (cs : List Char) : Prop :=
  ∃ whole fraction exponent, cs = whole ++ (fraction ++ exponent) ∧
    IsDigits whole ∧ IsFraction fraction ∧ IsExponent exponent

/-- The numeral of a finite number. -/
def IsNumeral (cs : List Char) : Prop :=
  ∃ sign magnitude, cs = sign ++ magnitude ∧ IsSign sign ∧ IsMagnitude magnitude

/-- The digits of an integer, behind a minus sign or not. -/
inductive IsInteger : List Char → Prop
  | plain {ds : List Char} (digits : IsDigits ds) : IsInteger ds
  | negative {ds : List Char} (digits : IsDigits ds) : IsInteger ('-' :: ds)

theorem IsDigits.isMagnitude (digits : IsDigits cs) : IsMagnitude cs :=
  ⟨cs, [], [], (List.append_nil cs).symm, digits, .none, .none⟩

theorem IsInteger.isNumeral (integer : IsInteger cs) : IsNumeral cs := by
  cases integer with
  | plain digits => exact ⟨[], _, rfl, .none, digits.isMagnitude⟩
  | negative digits => exact ⟨['-'], _, rfl, .minus, digits.isMagnitude⟩

/-- A numeral begins with a digit, behind a sign or not. -/
theorem IsNumeral.exists_digit (numeral : IsNumeral cs) :
    ∃ sign d rest, cs = sign ++ d :: rest ∧ IsSign sign ∧ Text.isDigit d = true := by
  obtain ⟨sign, magnitude, rfl, signed, whole, behind, more, rfl, digits, _⟩ := numeral
  obtain ⟨d, ds, rfl⟩ := List.exists_cons_of_ne_nil digits.1
  exact ⟨sign, d, _, rfl, signed, digits.2 d List.mem_cons_self⟩

/-- A word is no numeral, whatever sign it is behind. -/
theorem not_isNumeral_of_letter (signed : IsSign sign) (letter : Text.isDigit c = false)
    (unsigned : ¬ IsSign [c]) : ¬ IsNumeral (sign ++ c :: rest) := by
  intro numeral
  obtain ⟨sign', d, rest', same, signed', digit⟩ := numeral.exists_digit
  have other : c ≠ d := by
    rintro rfl
    cases letter.symm.trans digit
  cases signed <;> cases signed' <;> obtain ⟨head, tail⟩ := List.cons.inj same
  case none.none => exact other head
  case none.plus => exact unsigned (head ▸ .plus)
  case none.minus => exact unsigned (head ▸ .minus)
  case plus.none => exact absurd (head ▸ digit) (by decide)
  case minus.none => exact absurd (head ▸ digit) (by decide)
  case plus.plus => exact other (List.cons.inj tail).1
  case minus.minus => exact other (List.cons.inj tail).1
  case plus.minus => exact absurd head (by decide)
  case minus.plus => exact absurd head (by decide)

/-! ## Digits -/

theorem isDigits_decimalDigits (n : Nat) : IsDigits (decimalDigits n) :=
  ⟨Nat.toDigits_ne_nil, fun _ mem => Json.isDigit_of_mem mem⟩

theorem isDigit_of_mem_zeros {n : Nat} (mem : c ∈ List.replicate n '0') :
    Text.isDigit c = true := by
  rw [List.eq_of_mem_replicate mem]
  rfl

theorem IsDigits.append_zeros (digits : IsDigits ds) (n : Nat) :
    IsDigits (ds ++ List.replicate n '0') :=
  ⟨List.append_ne_nil_of_left_ne_nil digits.1 _,
    List.forall_mem_append.mpr ⟨digits.2, fun _ mem => isDigit_of_mem_zeros mem⟩⟩

theorem IsDigits.zeros_append (digits : IsDigits ds) (n : Nat) :
    IsDigits (List.replicate n '0' ++ ds) :=
  ⟨List.append_ne_nil_of_right_ne_nil _ digits.1,
    List.forall_mem_append.mpr ⟨fun _ mem => isDigit_of_mem_zeros mem, digits.2⟩⟩

/-- An integer in decimal. -/
theorem isInteger_toString (n : Int) : IsInteger (toString n).toList := by
  rw [Json.toList_toString]
  split
  · exact .negative (isDigits_decimalDigits _)
  · exact .plain (isDigits_decimalDigits _)

/-- Digits with a point among them have a whole part and a fraction, and no fraction if the point is
not before the last digit. -/
theorem exists_positionalText (digits : IsDigits ds) (position : Int) :
    ∃ whole fraction, (DecimalLayout.positionalText ds position).toList = whole ++ fraction ∧
      IsDigits whole ∧ IsFraction fraction ∧ ((ds.length : Int) ≤ position → fraction = []) := by
  unfold DecimalLayout.positionalText
  split
  · next before =>
    have zero : IsDigits ['0'] := isDigits_decimalDigits 0
    refine ⟨['0'], _, ?_, zero, .some (digits.zeros_append (-position).toNat),
      fun after => ?_⟩
    · exact String.toList_append.trans (congrArg ("0.".toList ++ ·) String.toList_ofList)
    · have := List.length_pos_iff.mpr digits.1
      omega
  · next behind =>
    have taken : IsDigits (ds.take position.toNat) := by
      refine ⟨fun none => ?_, fun c mem => digits.2 c (List.mem_of_mem_take mem)⟩
      rcases List.take_eq_nil_iff.mp none with zero | empty
      · omega
      · exact digits.1 empty
    have whole := taken.append_zeros (position.toNat - ds.length)
    by_cases left : (ds.drop position.toNat).isEmpty
    · refine ⟨_, [], ?_, whole, .none, fun _ => rfl⟩
      simp only [left, if_true, String.append_empty, String.toList_ofList, List.append_nil]
    · have some : ds.drop position.toNat ≠ [] := fun none => left (List.isEmpty_iff.mpr none)
      have fraction : IsDigits (ds.drop position.toNat) :=
        ⟨some, fun c mem => digits.2 c (List.mem_of_mem_drop mem)⟩
      refine ⟨_, _, ?_, whole, .some fraction, fun after => ?_⟩
      · simp only [left, if_false, Bool.false_eq_true, String.toList_append, String.toList_ofList]
        rfl
      · rw [Ne, List.drop_eq_nil_iff] at some
        omega

/-- The exponent of a double. -/
theorem isExponent_exponentText (layout : DecimalLayout) (e : Int) :
    IsExponent (layout.exponentText e).toList := by
  have digits := (isDigits_decimalDigits e.natAbs).zeros_append
    (layout.exponentDigits - (decimalDigits e.natAbs).length)
  unfold DecimalLayout.exponentText
  simp only [String.toList_append, String.toList_ofList]
  split
  · exact .some (.inl rfl) .minus digits
  · exact .some (.inl rfl) .plus digits

/-- The text of a finite double without its sign. -/
theorem isMagnitude_decimalText (layout : DecimalLayout) (tail : IsFraction layout.wholeTail.toList)
    (n : Nat) (e : Int) : IsMagnitude (layout.decimalText n e).toList := by
  have digits := isDigits_decimalDigits n
  unfold DecimalLayout.decimalText
  simp only
  split
  · have zero : IsDigits ['0'] := isDigits_decimalDigits 0
    refine ⟨['0'], layout.wholeTail.toList, [], ?_, zero, tail, .none⟩
    rw [String.toList_append, List.append_nil]
    rfl
  · split
    · obtain ⟨whole, fraction, text, left, right, point⟩ := exists_positionalText digits
        ((decimalDigits n).length + e)
      rw [String.toList_append, text]
      -- the tail stands in for a fraction
      by_cases large : e ≥ 0
      · rw [point (by omega), List.append_nil, if_pos large]
        exact ⟨whole, _, [], by rw [List.append_nil], left, tail, .none⟩
      · rw [if_neg large]
        exact ⟨whole, fraction, [], List.append_assoc .., left, right, .none⟩
    · obtain ⟨whole, fraction, text, left, right, _⟩ := exists_positionalText digits 1
      rw [String.toList_append, text, List.append_assoc]
      exact ⟨whole, fraction, _, rfl, left, right, isExponent_exponentText layout _⟩

/-- The text of a finite decimal without its sign. -/
theorem isMagnitude_magnitudeText (n : Nat) (e : Int) :
    IsMagnitude (Numeral.magnitudeText n e).toList := by
  unfold Numeral.magnitudeText
  simp only
  generalize (if (e ≤ 0 && e + (decimalDigits n).length > -6) = true then
    e + ((decimalDigits n).length : Int) else 1) = position
  obtain ⟨whole, fraction, text, left, right, _⟩ :=
    exists_positionalText (isDigits_decimalDigits n) position
  have digits (k : Nat) := isDigits_decimalDigits k
  split
  · rw [text]
    exact ⟨whole, fraction, [], by rw [List.append_nil], left, right, .none⟩
  · simp only [String.toList_append, String.toList_ofList, text, List.append_assoc]
    refine ⟨whole, fraction, _, rfl, left, right, ?_⟩
    split
    · exact .some (.inr rfl) .minus (digits _)
    · exact .some (.inr rfl) .plus (digits _)

/-! ## Words -/

theorem isSign_minus (negative : Bool) : IsSign (if negative then "-" else "").toList := by
  cases negative
  · exact .none
  · exact .minus

theorem isFinite_of_isNaN {x : Binary64} (nan : x.isNaN = true) : x.isFinite = false := by
  unfold Binary64.isNaN at nan
  unfold Binary64.isFinite
  have special := (Bool.and_eq_true_iff.mp nan).1
  rw [bne, special]
  rfl

/-- What is written for a double is a numeral exactly if the double is finite. -/
theorem isNumeral_render_double_iff (x : Binary64) :
    IsNumeral (DecimalLayout.plain.render x).toList ↔ x.isFinite = true := by
  have signed := isSign_minus x.isNegative
  unfold DecimalLayout.render
  split
  · next nan =>
    refine iff_of_false ?_ (by simp [isFinite_of_isNaN nan])
    exact not_isNumeral_of_letter (c := 'n') .none (by decide) nofun
  · rw [String.toList_append]
    by_cases finite : x.isFinite = true
    · have point : IsFraction DecimalLayout.plain.wholeTail.toList :=
        .some (isDigits_decimalDigits 0)
      refine iff_of_true ⟨_, _, rfl, signed, ?_⟩ finite
      rw [if_pos finite]
      exact isMagnitude_decimalText .plain point _ _
    · refine iff_of_false ?_ finite
      rw [if_neg finite]
      exact not_isNumeral_of_letter (c := 'i') signed (by decide) nofun

/-- What is written for a decimal is a numeral exactly if the decimal is finite. -/
theorem isNumeral_render_iff (d : Numeral) :
    IsNumeral d.render.toList ↔ ∃ negative n e, d = .finite negative n e := by
  cases d with
  | finite negative n e =>
    refine iff_of_true ?_ ⟨negative, n, e, rfl⟩
    unfold Numeral.render
    rw [String.toList_append]
    exact ⟨_, _, rfl, isSign_minus negative, isMagnitude_magnitudeText n e⟩
  | infinity negative =>
    refine iff_of_false ?_ nofun
    cases negative
    · exact not_isNumeral_of_letter (c := 'I') .none (by decide) nofun
    · exact not_isNumeral_of_letter (c := 'I') .minus (by decide) nofun
  | nan negative signalling payload =>
    refine iff_of_false ?_ nofun
    unfold Numeral.render
    simp only [String.toList_append, List.append_assoc]
    cases signalling
    · exact not_isNumeral_of_letter (c := 'N') (isSign_minus negative) (by decide) nofun
    · exact not_isNumeral_of_letter (c := 's') (isSign_minus negative) (by decide) nofun

end Notation

end SchemaCompiler
