import Mathlib.Data.List.Basic
import SchemaCompiler.Value.Json
import SchemaCompiler.Value.JsonReader

/-!
# Strings in JSON

What a string is quoted as consists of printable ASCII (`isLiteral_quoted`), and reading it gives
the string back, whatever follows the closing quote (`string?_escaped`). A character is spelled by
one unit of sixteen bits, or by two if it lies beyond the basic plane (`unitsOf`). Reading takes the
units from the text first and joins them then, so there is one lemma for what a character is escaped
as (`units?_escapeChar`) and one for what its units are joined to (`joinUnits?_unitsOf`).
-/

set_option autoImplicit false

namespace SchemaCompiler

namespace Text

variable {n : Nat}

theorem hexValue?_hexDigit (small : n < 16) : hexValue? (hexDigit n) = some n := by
  revert n
  decide

/-- The lowest hexadecimal digits of a number spell what is left of it. -/
theorem hexNumber?_hexDigits (width n : Nat) :
    hexNumber? (hexDigits width n) = some (n % Nat.pow 16 width) := by
  induction width generalizing n with
  | zero => exact congrArg some (Nat.mod_one n).symm
  | succ width ih =>
    have next : n % Nat.pow 16 (width + 1) = n / 16 % Nat.pow 16 width * 16 + n % 16 := by
      change n % (Nat.pow 16 width * 16) = _
      rw [Nat.mul_comm, Nat.mod_mul]
      omega
    have front := ih (n / 16)
    unfold hexNumber? at front ⊢
    rw [hexDigits, List.foldlM_append, front, Option.bind_eq_bind, Option.bind_some,
      List.foldlM_cons, hexValue?_hexDigit (Nat.mod_lt n (by decide)), next]
    rfl

end Text

namespace Json

variable {c : Char} {units : List Nat} {rest more : List Char}

/-! ## Characters -/

/-- A character of printable ASCII. -/
def IsPlain (c : Char) : Prop := 0x20 ≤ c.toNat ∧ c.toNat ≤ 0x7e

instance (c : Char) : Decidable (IsPlain c) := inferInstanceAs (Decidable (_ ∧ _))

/-- A character is no surrogate. -/
theorem toNat_range (c : Char) : c.toNat < 0xd800 ∨ 0xe000 ≤ c.toNat ∧ c.toNat < 0x110000 := by
  rcases c.valid with low | ⟨high, bound⟩
  · exact .inl low
  · exact .inr ⟨Nat.succ_le_of_lt high, bound⟩

theorem isPlain_hexDigits (width n : Nat) : ∀ c ∈ Text.hexDigits width n, IsPlain c := by
  have digit : ∀ d < 16, IsPlain (Text.hexDigit d) := by decide
  induction width generalizing n with
  | zero => exact List.forall_mem_nil _
  | succ width ih =>
    exact List.forall_mem_append.mpr
      ⟨ih _, List.forall_mem_singleton.mpr (digit _ (Nat.mod_lt n (by decide)))⟩

/-- What a character is escaped as is printable. -/
theorem isPlain_escapeChar (c : Char) : ∀ d ∈ escapeChar c, IsPlain d := by
  have behind {cs : List Char} (each : ∀ d ∈ cs, IsPlain d) : ∀ d ∈ '\\' :: cs, IsPlain d :=
    List.forall_mem_cons.mpr ⟨by decide, each⟩
  have unit (n : Nat) : ∀ d ∈ unitEscape n, IsPlain d :=
    behind (List.forall_mem_cons.mpr ⟨by decide, isPlain_hexDigits 4 n⟩)
  unfold escapeChar
  iterate 7
    split
    · exact behind (List.forall_mem_singleton.mpr (by decide))
  split
  · next printable =>
    simp only [Bool.and_eq_true, decide_eq_true_eq] at printable
    exact List.forall_mem_singleton.mpr printable
  · split
    · exact unit _
    · exact List.forall_mem_append.mpr ⟨unit _, unit _⟩

/-- A text is one quoted line of printable ASCII. -/
def IsLiteral (line : String) : Prop :=
  ∃ body, line.toList = '\x22' :: body ++ ['\x22'] ∧ ∀ c ∈ body, IsPlain c

/-- What is quoted is one line of printable ASCII. -/
theorem isLiteral_quoted (s : String) : IsLiteral (quoted s) := by
  refine ⟨s.toList.flatMap escapeChar, String.toList_ofList, fun d mem => ?_⟩
  obtain ⟨c, _, made⟩ := List.mem_flatMap.mp mem
  exact isPlain_escapeChar c d made

/-! ## Units -/

/-- The units that spell a character: itself, or a pair of surrogates. -/
def unitsOf (c : Char) : List Nat :=
  if c.toNat < 0x10000 then [c.toNat]
  else [0xd800 + (c.toNat - 0x10000) / 0x400, 0xdc00 + (c.toNat - 0x10000) % 0x400]

/-- The escape of a unit is read as the unit. -/
theorem units?_unitEscape {n : Nat} (small : n < 0x10000)
    (read : units? rest = some (units, more)) :
    units? (unitEscape n ++ rest) = some (n :: units, more) := by
  have number : Text.hexNumber? (Text.hexDigits 4 n) = some n :=
    (Text.hexNumber?_hexDigits 4 n).trans (congrArg some (Nat.mod_eq_of_lt small))
  have digits : Text.hexDigits 4 n = [Text.hexDigit (n / 16 / 16 / 16 % 16),
      Text.hexDigit (n / 16 / 16 % 16), Text.hexDigit (n / 16 % 16), Text.hexDigit (n % 16)] := rfl
  unfold unitEscape
  rw [digits] at number ⊢
  simp only [List.cons_append, List.nil_append]
  rw [units?, number, read]
  rfl

/-- A character that stands for itself is read as its code point. -/
theorem units?_plain (printable : 0x20 ≤ c.toNat) (quote : c ≠ '\x22') (slash : c ≠ '\\')
    (read : units? rest = some (units, more)) :
    units? (c :: rest) = some (c.toNat :: units, more) := by
  rw [units?.eq_5 _ _ quote (fun _ _ _ _ _ same _ => slash same) (fun _ _ same _ => slash same),
    if_neg (Nat.not_lt.mpr printable), read]
  rfl

/-- What a character is escaped as is read as the units that spell it. -/
theorem units?_escapeChar (c : Char) (read : units? rest = some (units, more)) :
    units? (escapeChar c ++ rest) = some (unitsOf c ++ units, more) := by
  -- a backslash and a letter stand for a character of the basic plane
  have letter {d e : Char} (other : d ≠ 'u') (stands : escaped? d = some e)
      (small : e.toNat < 0x10000) :
      units? (['\\', d] ++ rest) = some (unitsOf e ++ units, more) := by
    rw [unitsOf, if_pos small, List.cons_append, List.cons_append, List.nil_append,
      units?.eq_4 _ _ (fun _ _ _ _ _ same _ => other same), stands, read]
    rfl
  unfold escapeChar
  split
  · next same =>
    rw [eq_of_beq same]
    exact letter (by decide) rfl (by decide)
  next quote =>
  split
  · next same =>
    rw [eq_of_beq same]
    exact letter (by decide) rfl (by decide)
  next slash =>
  iterate 5
    split
    · next same =>
      rw [eq_of_beq same]
      exact letter (by decide) rfl (by decide)
  split
  · next printable =>
    simp only [Bool.and_eq_true, decide_eq_true_eq] at printable
    rw [unitsOf, if_pos (by omega)]
    exact units?_plain printable.1 (fun same => quote (beq_iff_eq.mpr same))
      (fun same => slash (beq_iff_eq.mpr same)) read
  · have range := toNat_range c
    split
    · next small =>
      rw [unitsOf, if_pos small]
      exact units?_unitEscape small read
    · next large =>
      rw [unitsOf, if_neg large, List.append_assoc]
      exact units?_unitEscape (by omega) (units?_unitEscape (by omega) read)

/-- The units that spell a character are joined to it. -/
theorem joinUnits?_unitsOf (c : Char) (units : List Nat) :
    joinUnits? (unitsOf c ++ units) = (joinUnits? units).map (c :: ·) := by
  have range := toNat_range c
  unfold unitsOf
  split
  · next small =>
    have leading : isLeading c.toNat = false := by
      simp only [isLeading, Bool.and_eq_false_iff, decide_eq_false_iff_not]
      omega
    have trailing : isTrailing c.toNat = false := by
      simp only [isTrailing, Bool.and_eq_false_iff, decide_eq_false_iff_not]
      omega
    cases units with
    | nil => simp only [List.append_nil, joinUnits?, leading, trailing, Bool.or_self,
        Bool.false_eq_true, if_false, Char.ofNat_toNat, Option.map_some]
    | cons next units => simp only [List.cons_append, List.nil_append, joinUnits?, leading,
        trailing, Bool.false_eq_true, if_false, Char.ofNat_toNat]
  · next large =>
    have leading : isLeading (0xd800 + (c.toNat - 0x10000) / 0x400) = true := by
      simp only [isLeading, Bool.and_eq_true, decide_eq_true_eq]
      omega
    have trailing : isTrailing (0xdc00 + (c.toNat - 0x10000) % 0x400) = true := by
      simp only [isTrailing, Bool.and_eq_true, decide_eq_true_eq]
      omega
    have joined : 0x10000 + (0xd800 + (c.toNat - 0x10000) / 0x400 - 0xd800) * 0x400 +
        (0xdc00 + (c.toNat - 0x10000) % 0x400 - 0xdc00) = c.toNat := by
      omega
    simp only [List.cons_append, List.nil_append, joinUnits?, leading, trailing, if_true, joined,
      Char.ofNat_toNat]

/-! ## Strings -/

/-- A quoted string is read back, whatever follows it. -/
theorem string?_escaped (cs rest : List Char) :
    string? (cs.flatMap escapeChar ++ '\x22' :: rest) = some (cs, rest) := by
  have spelled : units? (cs.flatMap escapeChar ++ '\x22' :: rest) =
      some (cs.flatMap unitsOf, rest) := by
    induction cs with
    | nil => rfl
    | cons c cs ih =>
      rw [List.flatMap_cons, List.flatMap_cons, List.append_assoc]
      exact units?_escapeChar c ih
  have joined : joinUnits? (cs.flatMap unitsOf) = some cs := by
    clear spelled
    induction cs with
    | nil => rfl
    | cons c cs ih => rw [List.flatMap_cons, joinUnits?_unitsOf, ih, Option.map_some]
  unfold string?
  simp only [spelled, Option.bind_eq_bind, Option.bind_some, joined]
  rfl

end Json

end SchemaCompiler
