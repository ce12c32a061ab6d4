import Mathlib.Data.List.Basic
import SchemaCompiler.Proofs.Text.Class
import SchemaCompiler.Text.Naming

/-!
# Camel-case names

Many names have one snake_case form: `createdAt`, `created_at` and `created-at` do. Among names in
camel case the form tells them apart (`snakeCase_inj_of_isCamel`). Such a name consists of letters
and digits of ASCII, does not begin with a capital, and every capital in it starts a word; its form
spells each character by itself, a capital as an underscore and the small letter
(`toList_snakeCase`).
-/

set_option autoImplicit false

namespace SchemaCompiler.Text

/-- Small letters, digits and capitals that start words, after a character. -/
def isCamelAfter (before : Char) : List Char → Bool
  | [] => true
  | c :: rest =>
    (isSmall c || isDigit c || startsWord before c rest.head?) && isCamelAfter c rest

/-- A text in camel case. -/
def isCamel : List Char → Bool
  | [] => true
  | c :: rest => (isSmall c || isDigit c) && isCamelAfter c rest

/-- A name in camel case. -/
def IsCamel (name : String) : Prop := isCamel name.toList = true

instance (name : String) : Decidable (IsCamel name) := inferInstanceAs (Decidable (_ = _))

/-- A letter or a digit of ASCII. -/
def isPlainLetter (c : Char) : Bool := isSmall c || isDigit c || isCapital c

/-- A character with an underscore before it if it is a capital. -/
def underscored (c : Char) : List Char := if isCapital c then ['_', c] else [c]

/-- What a character of a camel-case name becomes. -/
def spell (c : Char) : List Char := if isCapital c then ['_', Char.ofNat (c.toNat + 32)] else [c]

variable {c d : Char} {cs ds : List Char}

/-! ## Letters -/

theorem isCapital_iff : isCapital c = true ↔ 0x41 ≤ c.toNat ∧ c.toNat ≤ 0x5a := by
  unfold isCapital
  simp only [Bool.and_eq_true, decide_eq_true_eq, le_iff_toNat_le, Char.reduceToNat]

theorem isPlainLetter_iff : isPlainLetter c = true ↔
    (0x61 ≤ c.toNat ∧ c.toNat ≤ 0x7a) ∨ (0x30 ≤ c.toNat ∧ c.toNat ≤ 0x39) ∨
      (0x41 ≤ c.toNat ∧ c.toNat ≤ 0x5a) := by
  unfold isPlainLetter isSmall isDigit isCapital
  simp only [Bool.or_eq_true, Bool.and_eq_true, decide_eq_true_eq, le_iff_toNat_le,
    Char.reduceToNat, or_assoc]

/-- The code point of the small letter of a capital. -/
theorem toNat_small (capital : isCapital c = true) :
    (Char.ofNat (c.toNat + 32)).toNat = c.toNat + 32 := by
  have range := isCapital_iff.mp capital
  have valid : (c.toNat + 32).isValidChar := .inl (by omega)
  have itself : Char.ofNat (c.toNat + 32) = Char.ofNatAux _ valid := dif_pos valid
  rw [itself]
  rfl

/-- A capital is neither a small letter nor a digit. -/
theorem isCapital_eq_false (small : (isSmall c || isDigit c) = true) : isCapital c = false := by
  apply Bool.eq_false_iff.mpr
  intro capital
  have range := isCapital_iff.mp capital
  unfold isSmall isDigit at small
  simp only [Bool.or_eq_true, Bool.and_eq_true, decide_eq_true_eq, le_iff_toNat_le,
    Char.reduceToNat] at small
  omega

/-- In camel case the capitals start words, and nothing else does. -/
theorem startsWord_of_camel {before : Char} {after : Option Char}
    (camel : (isSmall c || isDigit c || startsWord before c after) = true) :
    startsWord before c after = isCapital c := by
  cases small : isSmall c || isDigit c with
  | true =>
    unfold startsWord
    rw [isCapital_eq_false small, Bool.false_and]
  | false =>
    rw [small, Bool.false_or] at camel
    have capital := camel
    unfold startsWord at capital
    rw [camel, (Bool.and_eq_true_iff.mp capital).1]

theorem isPlainLetter_of_camelAfter {before : Char} (camel : isCamelAfter before cs = true) :
    ∀ c ∈ cs, isPlainLetter c = true := by
  induction cs generalizing before with
  | nil => exact List.forall_mem_nil _
  | cons c rest ih =>
    unfold isCamelAfter at camel
    obtain ⟨here, later⟩ := Bool.and_eq_true_iff.mp camel
    refine List.forall_mem_cons.mpr ⟨?_, ih later⟩
    rw [startsWord_of_camel here] at here
    exact here

/-- A text in camel case consists of letters and digits. -/
theorem isPlainLetter_of_camel (camel : isCamel cs = true) : ∀ c ∈ cs, isPlainLetter c = true := by
  cases cs with
  | nil => exact List.forall_mem_nil _
  | cons c rest =>
    obtain ⟨first, later⟩ := Bool.and_eq_true_iff.mp camel
    refine List.forall_mem_cons.mpr ⟨?_, isPlainLetter_of_camelAfter later⟩
    unfold isPlainLetter
    rw [first, Bool.true_or]

/-! ## Spelling -/

/-- In camel case an underscore is put before every capital. -/
theorem markWords_of_camel (camel : isCamelAfter c cs = true) :
    markWords (c :: cs) = c :: cs.flatMap underscored := by
  induction cs generalizing c with
  | nil => rfl
  | cons d rest ih =>
    unfold isCamelAfter at camel
    obtain ⟨here, later⟩ := Bool.and_eq_true_iff.mp camel
    unfold markWords
    rw [startsWord_of_camel here, ih later, List.flatMap_cons]
    unfold underscored
    split <;> rfl

theorem unhyphen_eq_self (none : '-' ∉ cs) : unhyphen cs = cs := by
  refine (List.map_congr_left fun c mem => if_neg ?_).trans (List.map_id cs)
  intro hyphen
  exact none (eq_of_beq hyphen ▸ mem)

/-- The lower case of a text of ASCII is that of each character. -/
theorem lowerAfter_of_ascii (before : List Char) (ascii : ∀ c ∈ cs, c.toNat < 0x80) :
    lowerAfter before cs =
      cs.map fun c => if isCapital c then Char.ofNat (c.toNat + 32) else c := by
  induction cs generalizing before with
  | nil => rfl
  | cons c rest ih =>
    obtain ⟨here, later⟩ := List.forall_mem_cons.mp ascii
    have plain : (c == '\u03a3') = false := by
      simp only [beq_eq_false_iff_ne, ne_eq, eq_iff_toNat_eq, Char.reduceToNat]
      omega
    unfold lowerAfter
    simp only [plain, Bool.false_eq_true, ↓reduceIte]
    rw [ih (c :: before) later]
    unfold lowerLetter
    rw [if_pos here]
    rfl

/-- In a text in camel case an underscore is put before every capital. -/
theorem markWords_of_isCamel (camel : isCamel cs = true) :
    markWords cs = cs.flatMap underscored := by
  cases cs with
  | nil => rfl
  | cons c rest =>
    unfold isCamel at camel
    obtain ⟨first, later⟩ := Bool.and_eq_true_iff.mp camel
    -- the first character is no capital, so nothing is put before it
    rw [markWords_of_camel later, List.flatMap_cons]
    unfold underscored
    rw [isCapital_eq_false first]
    rfl

/-- The marked words of a text in camel case are plain letters and underscores. -/
theorem isPlainLetter_of_mem_underscored (camel : isCamel cs = true) {d : Char}
    (mem : d ∈ cs.flatMap underscored) : d = '_' ∨ isPlainLetter d = true := by
  have letters := isPlainLetter_of_camel camel
  obtain ⟨c, within, made⟩ := List.mem_flatMap.mp mem
  unfold underscored at made
  split at made
  · rcases List.mem_pair.mp made with rfl | rfl
    · exact .inl rfl
    · exact .inr (letters _ within)
  · exact .inr (List.mem_singleton.mp made ▸ letters c within)

/-- The snake_case form of a text in camel case spells its characters one by one. -/
theorem snakeCaseWith_of_camel (camel : isCamel cs = true) :
    snakeCaseWith lowerChars cs = cs.flatMap spell := by
  have ascii : ∀ d ∈ cs.flatMap underscored, d.toNat < 0x80 := by
    intro d mem
    rcases isPlainLetter_of_mem_underscored camel mem with rfl | letter
    · decide
    · have range := isPlainLetter_iff.mp letter
      omega
  have unhyphened : unhyphen (cs.flatMap underscored) = cs.flatMap underscored := by
    refine unhyphen_eq_self fun mem => ?_
    rcases isPlainLetter_of_mem_underscored camel mem with hyphen | letter
    · cases hyphen
    · cases letter
  unfold snakeCaseWith lowerChars
  rw [markWords_of_isCamel camel, unhyphened, lowerAfter_of_ascii [] ascii, List.map_flatMap]
  refine List.flatMap_congr fun c _ => ?_
  unfold underscored spell
  split
  · next capital =>
    rw [List.map_cons, List.map_singleton, if_pos capital]
    rfl
  · next other => rw [List.map_singleton, if_neg other]

/-- The snake_case form of a name in camel case spells its characters one by one. -/
theorem toList_snakeCase {name : String} (camel : IsCamel name) :
    (snakeCase name).toList = name.toList.flatMap spell := by
  unfold snakeCase
  rw [String.toList_ofList]
  exact snakeCaseWith_of_camel camel

/-! ## Names apart -/

/-- The spelling of a letter or a digit shows which one it is. -/
theorem spell_append_inj (letterC : isPlainLetter c = true) (letterD : isPlainLetter d = true)
    {after after' : List Char} (same : spell c ++ after = spell d ++ after') :
    c = d ∧ after = after' := by
  have other {c : Char} (letter : isPlainLetter c = true) : c ≠ '_' := by
    rintro rfl
    cases letter
  unfold spell at same
  cases capitalC : isCapital c <;> cases capitalD : isCapital d <;>
    simp only [capitalC, capitalD, Bool.false_eq_true, ↓reduceIte, List.cons_append,
      List.nil_append, List.cons.injEq, true_and] at same
  · exact same
  · exact absurd same.1 (other letterC)
  · exact absurd same.1.symm (other letterD)
  · obtain ⟨small, rest⟩ := same
    have shifted := congrArg Char.toNat small
    rw [toNat_small capitalC, toNat_small capitalD] at shifted
    exact ⟨eq_iff_toNat_eq.mpr (Nat.add_right_cancel shifted), rest⟩

/-- Texts of letters and digits are told apart by their spelling. -/
theorem flatMap_spell_inj (first : ∀ c ∈ cs, isPlainLetter c = true)
    (second : ∀ d ∈ ds, isPlainLetter d = true) (same : cs.flatMap spell = ds.flatMap spell) :
    cs = ds := by
  have spelled (c : Char) (rest : List Char) : spell c ++ rest ≠ [] := by
    unfold spell
    split <;> exact List.cons_ne_nil _ _
  induction cs generalizing ds with
  | nil =>
    cases ds with
    | nil => rfl
    | cons d ds => exact absurd same.symm (spelled d _)
  | cons c cs ih =>
    cases ds with
    | nil => exact absurd same (spelled c _)
    | cons d ds =>
      obtain ⟨letterC, laterC⟩ := List.forall_mem_cons.mp first
      obtain ⟨letterD, laterD⟩ := List.forall_mem_cons.mp second
      obtain ⟨rfl, rest⟩ := spell_append_inj letterC letterD same
      rw [ih laterC laterD rest]

/-- Names in camel case with one snake_case form are the same. -/
theorem snakeCase_inj_of_isCamel {a b : String} (camelA : IsCamel a) (camelB : IsCamel b)
    (same : snakeCase a = snakeCase b) : a = b := by
  apply String.toList_inj.mp
  apply flatMap_spell_inj (isPlainLetter_of_camel camelA) (isPlainLetter_of_camel camelB)
  rw [← toList_snakeCase camelA, ← toList_snakeCase camelB, same]

end SchemaCompiler.Text
