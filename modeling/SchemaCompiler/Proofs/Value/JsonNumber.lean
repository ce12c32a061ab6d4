import Mathlib.Data.List.TakeWhile
import SchemaCompiler.Value.JsonReader

/-!
# Integers in JSON

An integer is written as its digits, behind a minus sign if it is negative, and read back as long as
no character follows that a number may hold (`scalar?_toString`). Digits have no idle zero in front
(`isWhole_decimalDigits`) and spell the number that they are the digits of. No word that
stands for a value begins like a number, not even the one with a minus sign in front.
-/

set_option autoImplicit false

namespace SchemaCompiler.Json

variable {n : Nat} {c : Char} {cs rest : List Char}

/-! ## Digits -/

theorem isDigit_of_mem (mem : c ∈ decimalDigits n) : Text.isDigit c = true := by
  have digit : c.isDigit = true := Nat.isDigit_of_mem_toDigits (by decide) (by decide) mem
  simp only [Char.isDigit, Bool.and_eq_true, decide_eq_true_eq] at digit
  unfold Text.isDigit
  simp only [Bool.and_eq_true, decide_eq_true_eq]
  exact digit

theorem isNumberChar_of_isDigit (digit : Text.isDigit c = true) : isNumberChar c = true := by
  unfold isNumberChar
  rw [digit]
  rfl

/-- The digits of a number begin with one of them. -/
theorem exists_digit (n : Nat) : ∃ c cs, decimalDigits n = c :: cs ∧ Text.isDigit c = true := by
  obtain ⟨c, cs, digits⟩ := List.exists_cons_of_ne_nil (Nat.toDigits_ne_nil (n := n) (b := 10))
  have mem : c ∈ decimalDigits n := by
    unfold decimalDigits
    rw [digits]
    exact List.mem_cons_self
  exact ⟨c, cs, digits, isDigit_of_mem mem⟩

/-- The digits of a number spell it. -/
theorem digitsNumber_decimalDigits (n : Nat) : Numeral.digitsNumber (decimalDigits n) = n := by
  have spelled := Nat.ofDigitChars_ten_toDigits (n := n)
  rw [Nat.ofDigitChars_eq_foldl] at spelled
  simp only [Nat.mul_comm 10] at spelled
  exact spelled

/-- Only the digits of zero begin with a zero. -/
theorem eq_zero_of_head (first : (decimalDigits n).head? = some '0') : n = 0 := by
  induction n using Nat.strongRecOn with
  | ind n ih =>
    unfold decimalDigits at first
    rcases Nat.lt_or_ge n 10 with small | large
    · have digit : ∀ n < 10, n.digitChar = '0' → n = 0 := by decide
      rw [Nat.toDigits_of_lt_base small, List.head?_cons, Option.some.injEq] at first
      exact digit n small first
    · obtain ⟨c, cs, front, _⟩ := exists_digit (n / 10)
      have ahead := ih (n / 10) (by omega)
      unfold decimalDigits at front ahead
      rw [Nat.toDigits_of_base_le (by decide) large, front] at first
      rw [front] at ahead
      have := ahead first
      omega

theorem isWhole_decimalDigits (n : Nat) : isWhole (decimalDigits n) = true := by
  obtain ⟨c, cs, digits, _⟩ := exists_digit n
  have all : (decimalDigits n).all Text.isDigit = true :=
    List.all_eq_true.mpr fun c mem => isDigit_of_mem mem
  unfold isWhole
  rw [all, Bool.and_true, Bool.and_eq_true]
  refine ⟨by rw [digits]; rfl, ?_⟩
  by_cases zero : (decimalDigits n).head? = some '0'
  · rw [eq_zero_of_head zero]
    rfl
  · rw [bne_iff_ne.mpr zero, Bool.or_true]

/-! ## Numbers -/

/-- No character follows that a number may hold. -/
def Ends (rest : List Char) : Prop := ∀ c ∈ rest.head?, isNumberChar c = false

theorem ends_nil : Ends [] := fun _ mem => nomatch mem

theorem ends_cons (other : isNumberChar c = false) (rest : List Char) : Ends (c :: rest) := by
  rintro _ ⟨⟩
  exact other

theorem number?_decimalDigits (negative : Bool) (n : Nat) :
    number? negative (decimalDigits n) = some (.int (if negative then -(n : Int) else n)) := by
  have all : ∀ c ∈ decimalDigits n, Text.isDigit c = true := fun c mem => isDigit_of_mem mem
  have whole : (decimalDigits n).takeWhile Text.isDigit = decimalDigits n :=
    List.takeWhile_eq_self_iff.mpr all
  have rest : (decimalDigits n).dropWhile Text.isDigit = [] := List.dropWhile_eq_nil_iff.mpr all
  unfold number?
  simp only [whole, rest, isWhole_decimalDigits, digitsNumber_decimalDigits, Bool.not_true,
    Bool.false_eq_true, if_false]

/-- An integer in decimal. -/
theorem toList_toString (n : Int) : (toString n).toList =
    if n < 0 then '-' :: decimalDigits n.natAbs else decimalDigits n.natAbs := by
  cases n with
  | ofNat n =>
    have whole : ¬ Int.ofNat n < 0 := Int.not_lt.mpr (Int.natCast_nonneg n)
    rw [if_neg whole]
    exact Nat.toList_repr
  | negSucc n =>
    rw [if_pos (Int.negSucc_lt_zero n)]
    exact (String.toList_append (s := "-")).trans (congrArg ('-' :: ·) Nat.toList_repr)

/-- The characters of a number are taken up to the end of the number. -/
theorem span_number (each : ∀ c ∈ cs, isNumberChar c = true) (ends : Ends rest) :
    (cs ++ rest).takeWhile isNumberChar = cs ∧ (cs ++ rest).dropWhile isNumberChar = rest := by
  have stop : rest.takeWhile isNumberChar = [] ∧ rest.dropWhile isNumberChar = rest := by
    cases rest with
    | nil => exact ⟨rfl, rfl⟩
    | cons c rest =>
      have other : ¬ isNumberChar c = true := ne_true_of_eq_false (ends c rfl)
      exact ⟨List.takeWhile_cons_of_neg other, List.dropWhile_cons_of_neg other⟩
  rw [List.takeWhile_append_of_pos each, List.dropWhile_append_of_pos each, stop.1, stop.2,
    List.append_nil]
  exact ⟨rfl, rfl⟩

theorem takeNumber?_toString (n : Int) (ends : Ends rest) :
    takeNumber? ((toString n).toList ++ rest) = some (.int n, rest) := by
  have digits : ∀ c ∈ decimalDigits n.natAbs, isNumberChar c = true :=
    fun c mem => isNumberChar_of_isDigit (isDigit_of_mem mem)
  rw [toList_toString]
  split
  · next negative =>
    have sign : isNumberChar '-' = true := rfl
    obtain ⟨taken, left⟩ := span_number (List.forall_mem_cons.mpr ⟨sign, digits⟩) ends
    unfold takeNumber?
    simp only [taken, left, number?_decimalDigits, if_true, Option.map_some]
    rw [Int.ofNat_natAbs_of_nonpos (Int.le_of_lt negative), Int.neg_neg]
  · next whole =>
    obtain ⟨taken, left⟩ := span_number digits ends
    obtain ⟨c, cs, first, digit⟩ := exists_digit n.natAbs
    have unsigned : c ≠ '-' := by
      rintro rfl
      cases digit
    have read := number?_decimalDigits false n.natAbs
    unfold takeNumber?
    rw [first] at taken left read ⊢
    rw [taken, left]
    split
    · next same => exact absurd (List.cons.inj same).1 unsigned
    · rw [read, if_neg Bool.false_ne_true, Int.natAbs_of_nonneg (Int.not_lt.mp whole)]
      rfl

/-! ## Words -/

/-- A text is behind a word only if the word begins it. -/
theorem isPrefix_of_afterWord? {word : String} (found : afterWord? word cs = some rest) :
    word.toList <+: cs := by
  unfold afterWord? at found
  split at found
  · next same => exact eq_of_beq same ▸ List.take_prefix _ _
  · cases found

/-- A text that is no beginning of an integer: its first character, or the one behind a minus sign,
is no digit. -/
def isVerbal : List Char → Bool
  | [] => false
  | '-' :: rest => rest.head?.any (!Text.isDigit ·)
  | c :: _ => !Text.isDigit c

/-- No word is at the beginning of an integer. -/
theorem takeWord?_toString (n : Int) : takeWord? ((toString n).toList ++ rest) = none := by
  refine List.findSome?_eq_none_iff.mpr fun ⟨word, v⟩ mem => ?_
  rw [Option.map_eq_none_iff, Option.eq_none_iff_forall_ne_some]
  intro left found
  obtain ⟨more, whole⟩ := isPrefix_of_afterWord? found
  have verbal : ∀ e ∈ words, isVerbal e.1.toList = true := by decide
  have other := verbal (word, v) mem
  obtain ⟨d, ds, first, digit⟩ := exists_digit n.natAbs
  rw [toList_toString, first] at whole
  generalize word.toList = letters at whole other
  cases letters with
  | nil => cases other
  | cons a letters =>
    split at whole
    · obtain ⟨rfl, behind⟩ := List.cons.inj whole
      cases letters with
      | nil => cases other
      | cons b letters =>
        obtain ⟨rfl, _⟩ := List.cons.inj behind
        simp only [isVerbal, List.head?_cons, Option.any_some, digit, Bool.not_true,
          Bool.false_eq_true] at other
    · obtain ⟨rfl, _⟩ := List.cons.inj whole
      unfold isVerbal at other
      split at other
      · cases other
      · next same =>
        cases same
        cases digit
      · next same =>
        cases same
        rw [digit] at other
        cases other

/-- An integer is read back. -/
theorem scalar?_toString (n : Int) (ends : Ends rest) :
    scalar? ((toString n).toList ++ rest) = some (.int n, rest) := by
  have read : (takeWord? ((toString n).toList ++ rest)).or
      (takeNumber? ((toString n).toList ++ rest)) = some (.int n, rest) := by
    rw [takeWord?_toString, Option.none_or, takeNumber?_toString n ends]
  obtain ⟨d, ds, first, digit⟩ := exists_digit n.natAbs
  rw [toList_toString, first] at read ⊢
  unfold scalar?
  split
  · next same =>
    split at same
    · cases same
    · cases same
      cases digit
  · exact read

end SchemaCompiler.Json
