import Mathlib.Data.List.Basic
import SchemaCompiler.Text.Class
import SchemaCompiler.Text.Lines

/-!
# Classes that share no character

Each class of characters is a list of ranges of code points. Two of them share no character if no
range of the one meets a range of the other, which the tables tell: a character of a word is no
blank (`isBlank_of_isWord`), and a line separator is one (`isBlank_of_isLineBreak`).
-/

set_option autoImplicit false

namespace SchemaCompiler.Text

/-- No range of a table meets a range of another. -/
def apart (rs ss : List (Nat × Nat)) : Bool :=
  rs.all fun r => ss.all fun s => r.2 < s.1 || s.2 < r.1

variable {rs ss : List (Nat × Nat)} {n : Nat} {c : Char}

theorem inRanges_iff : inRanges rs n = true ↔ ∃ r ∈ rs, r.1 ≤ n ∧ n ≤ r.2 := by
  unfold inRanges
  simp only [List.any_eq_true, Bool.and_eq_true, decide_eq_true_eq]

theorem not_inRanges_of_apart (h : apart rs ss = true) (within : inRanges rs n = true) :
    inRanges ss n = false := by
  obtain ⟨r, memR, low, high⟩ := inRanges_iff.mp within
  apply eq_false_of_ne_true
  intro both
  obtain ⟨s, memS, low', high'⟩ := inRanges_iff.mp both
  have split := List.all_eq_true.mp (List.all_eq_true.mp h r memR) s memS
  simp only [Bool.or_eq_true, decide_eq_true_eq] at split
  omega

/-- The characters of words as ranges. -/
def wordRanges : List (Nat × Nat) :=
  [(0x41, 0x5a), (0x61, 0x7a), (0x30, 0x39), (0x5f, 0x5f)] ++ alphanumericRanges

/-- The blanks as ranges. -/
def blankRanges : List (Nat × Nat) := [(9, 13), (0x20, 0x20), (0x1c, 0x1f)] ++ wideBlanks

/-- The line separators as ranges. -/
def breakRanges : List (Nat × Nat) := [(0x0a, 0x0d), (0x1c, 0x1e), (0x85, 0x85), (0x2028, 0x2029)]

theorem eq_iff_toNat_eq {d : Char} : c = d ↔ c.toNat = d.toNat :=
  ⟨congrArg Char.toNat, fun same => Char.ext (UInt32.toNat_inj.mp same)⟩

theorem le_iff_toNat_le {d : Char} : c ≤ d ↔ c.toNat ≤ d.toNat := UInt32.le_iff_toNat_le

theorem inRanges_append : inRanges (rs ++ ss) n = (inRanges rs n || inRanges ss n) :=
  List.any_append

theorem isWord_iff : isWord c = true ↔ inRanges wordRanges c.toNat = true := by
  unfold isWord wordRanges
  rw [inRanges_append, Bool.or_eq_true, Bool.or_eq_true (inRanges _ _)]
  apply or_congr_left
  unfold isCapital isSmall isDigit
  simp only [Bool.or_eq_true, Bool.and_eq_true, decide_eq_true_eq, beq_iff_eq, eq_iff_toNat_eq,
    le_iff_toNat_le, Char.reduceToNat, inRanges_iff, List.mem_cons, List.not_mem_nil, or_false,
    exists_eq_or_imp, exists_eq_left]
  omega

theorem isBlank_iff : isBlank c = true ↔ inRanges blankRanges c.toNat = true := by
  unfold isBlank blankRanges
  rw [inRanges_append, Bool.or_eq_true, Bool.or_eq_true (inRanges _ _)]
  apply or_congr_left
  unfold isPadding
  simp only [Bool.or_eq_true, Bool.and_eq_true, decide_eq_true_eq, beq_iff_eq, eq_iff_toNat_eq,
    Char.reduceToNat, inRanges_iff, List.mem_cons, List.not_mem_nil, or_false, exists_eq_or_imp,
    exists_eq_left]
  omega

theorem isLineBreak_iff : isLineBreak c = true ↔ inRanges breakRanges c.toNat = true := by
  unfold isLineBreak breakRanges
  simp only [Bool.or_eq_true, Bool.and_eq_true, decide_eq_true_eq, beq_iff_eq, eq_iff_toNat_eq,
    Char.reduceToNat, inRanges_iff, List.mem_cons, List.not_mem_nil, or_false, exists_eq_or_imp,
    exists_eq_left]
  omega

/-- A character of a word is no blank. -/
theorem isBlank_of_isWord (h : isWord c = true) : isBlank c = false := by
  have both : apart wordRanges blankRanges = true := by decide +kernel
  have none := not_inRanges_of_apart both (isWord_iff.mp h)
  exact eq_false_of_ne_true fun blank => absurd (isBlank_iff.mp blank) (ne_true_of_eq_false none)

/-- A line separator is a blank. -/
theorem isBlank_of_isLineBreak (h : isLineBreak c = true) : isBlank c = true := by
  obtain ⟨r, mem, low, high⟩ := inRanges_iff.mp (isLineBreak_iff.mp h)
  have covered : breakRanges.all fun r => blankRanges.any fun s => s.1 ≤ r.1 && r.2 ≤ s.2 := by
    decide
  obtain ⟨s, among, wide⟩ := List.any_eq_true.mp (List.all_eq_true.mp covered r mem)
  simp only [Bool.and_eq_true, decide_eq_true_eq] at wide
  exact isBlank_iff.mpr (inRanges_iff.mpr ⟨s, among, by omega, by omega⟩)

/-- A character of a word is no line separator. -/
theorem isLineBreak_of_isWord (h : isWord c = true) : isLineBreak c = false := by
  apply eq_false_of_ne_true
  intro ends
  exact absurd (isBlank_of_isLineBreak ends) (ne_true_of_eq_false (isBlank_of_isWord h))

end SchemaCompiler.Text
