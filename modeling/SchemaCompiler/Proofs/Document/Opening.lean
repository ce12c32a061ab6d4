import Mathlib.Data.List.TakeWhile
import SchemaCompiler.Document.Block
import SchemaCompiler.Proofs.Text.Class

/-!
# Lines that open a block

A line opens a block exactly if it is the word of a kind, a gap, a name and a brace, with blanks
around (`opening?_eq_some_iff`). Two things of a line tell that it opens none: its first character
that is neither blank nor part of a word, and its first token (`Opens.mark`, `Opens.token`).
-/

set_option autoImplicit false

namespace SchemaCompiler.Block

open Text (isBlank isWord startsWith)

variable {line rest word pad : List Char} {c : Char} {kind : BlockKind} {name : String}

/-- A character between the marks of a line: a blank or one of a word. -/
def isPlain (c : Char) : Bool := isBlank c || isWord c

/-- The first character of a line that is neither blank nor part of a word. -/
def mark? (line : List Char) : Option Char := (line.dropWhile isPlain).head?

/-- The characters of a line between its first blanks and the next one. -/
def token (line : List Char) : List Char := (line.dropWhile isBlank).takeWhile fun c => !isBlank c

theorem isPlain_of_isBlank (h : isBlank c = true) : isPlain c = true := by
  unfold isPlain
  rw [h, Bool.true_or]

theorem isPlain_of_isWord (h : isWord c = true) : isPlain c = true := by
  unfold isPlain
  rw [h, Bool.or_true]

theorem startsWith_iff {cs : List Char} : startsWith cs word = true ↔ word <+: cs := by
  induction word generalizing cs with
  | nil =>
    unfold startsWith
    exact iff_of_true rfl List.nil_prefix
  | cons d ds ih =>
    cases cs with
    | nil => exact iff_of_false Bool.false_ne_true fun h => nomatch List.prefix_nil.mp h
    | cons c cs =>
      unfold startsWith
      rw [Bool.and_eq_true, beq_iff_eq, ih, List.cons_prefix_cons, eq_comm]

theorem afterWord?_eq_some {cs : List Char} :
    afterWord? word cs = some rest ↔ cs = word ++ rest := by
  unfold afterWord?
  simp only
  constructor
  · intro h
    split at h
    · next begins =>
      cases h
      obtain ⟨tail, rfl⟩ := startsWith_iff.mp begins
      rw [List.drop_left]
    · cases h
  · rintro rfl
    rw [if_pos (startsWith_iff.mpr (List.prefix_append word rest)), List.drop_left]

theorem isWord_of_mem_name (mem : c ∈ kind.name.toList) : isWord c = true := by
  have word : kind.name.toList.all isWord = true := by cases kind <;> decide
  exact List.all_eq_true.mp word c mem

/-- The words that open blocks hold no blank. -/
theorem isBlank_of_mem_name (mem : c ∈ kind.name.toList) : isBlank c = false :=
  Text.isBlank_of_isWord (isWord_of_mem_name mem)

/-! ## Parts of a line -/

/-- A line that opens a block of a kind and a name: the word of the kind, a gap, the name and a
brace, with blanks before the word and before the brace. -/
inductive Opens (kind : BlockKind) (name : String) (line : List Char) : Prop where
  | intro (before gap after rest : List Char)
      (parts : line =
        before ++ (kind.name.toList ++ (gap ++ (name.toList ++ (after ++ '\x7b' :: rest)))))
      (blank : ∀ c ∈ before ++ gap ++ after, isBlank c = true) (apart : gap ≠ [])
      (word : ∀ c ∈ name.toList, isWord c = true) (named : name ≠ "")

theorem name_toList_ne_nil : kind.name.toList ≠ [] := by
  cases kind <;> decide

/-- The word of a kind does not begin that of another. -/
theorem eq_of_name_begins {other : BlockKind} (h : kind.name.toList <+: other.name.toList) :
    kind = other := by
  cases kind <;> cases other <;> first | rfl | exact absurd h (by decide)

/-- A search finds what all finds agree on. -/
theorem findSome?_of_unique {α β : Type} {find : α → Option β} {entries : List α} {a : α} {b : β}
    (mem : a ∈ entries) (here : find a = some b)
    (unique : ∀ a' ∈ entries, ∀ b', find a' = some b' → b' = b) :
    entries.findSome? find = some b := by
  cases found : entries.findSome? find with
  | none =>
    have := List.findSome?_eq_none_iff.mp found a mem
    rw [here] at this
    cases this
  | some b' =>
    obtain ⟨a', among, there⟩ := List.exists_of_findSome?_eq_some found
    rw [unique a' among b' there]

/-- The blanks before a word are dropped, and nothing of it. -/
theorem dropWhile_isBlank (blank : ∀ c ∈ pad, isBlank c = true)
    (words : ∀ c ∈ word, isWord c = true) (some' : word ≠ []) (rest : List Char) :
    (pad ++ (word ++ rest)).dropWhile isBlank = word ++ rest := by
  obtain ⟨c, cs, rfl⟩ := List.exists_cons_of_ne_nil some'
  have solid := Text.isBlank_of_isWord (words c List.mem_cons_self)
  rw [List.dropWhile_append_of_pos blank]
  exact List.dropWhile_cons_of_neg (by rw [solid]; exact Bool.false_ne_true)

/-- A word ends where blanks and a brace follow it. -/
theorem span_isWord (words : ∀ c ∈ word, isWord c = true) (blank : ∀ c ∈ pad, isBlank c = true)
    (rest : List Char) :
    (word ++ (pad ++ '\x7b' :: rest)).takeWhile isWord = word ∧
      (word ++ (pad ++ '\x7b' :: rest)).dropWhile isWord = pad ++ '\x7b' :: rest := by
  obtain ⟨c, cs, split, apart⟩ :
      ∃ c cs, pad ++ '\x7b' :: rest = c :: cs ∧ ¬ isWord c = true := by
    cases pad with
    | nil => exact ⟨'\x7b', rest, rfl, by decide +kernel⟩
    | cons c cs =>
      refine ⟨c, cs ++ '\x7b' :: rest, rfl, fun word => ?_⟩
      have solid := Text.isBlank_of_isWord word
      rw [blank c List.mem_cons_self] at solid
      cases solid
  rw [split, List.takeWhile_append_of_pos words, List.dropWhile_append_of_pos words,
    List.takeWhile_cons_of_neg apart, List.dropWhile_cons_of_neg apart, List.append_nil]
  exact ⟨rfl, rfl⟩

/-- What is read as the opening line of a block is one. -/
theorem opens_of_opening (h : opening? line = some (kind, name)) : Opens kind name line := by
  unfold opening? at h
  obtain ⟨kind', _, found⟩ := List.exists_of_findSome?_eq_some h
  obtain ⟨tail, after, found⟩ := Option.bind_eq_some_iff.mp found
  simp only at found
  split at found
  · next fits =>
    cases found
    simp only [Bool.and_eq_true, decide_eq_true_eq, beq_iff_eq, Bool.not_eq_true',
      List.isEmpty_eq_false_iff] at fits
    obtain ⟨⟨shorter, named⟩, brace⟩ := fits
    obtain ⟨rest, ends⟩ := List.head?_eq_some_iff.mp brace
    have blanks (cs : List Char) : ∀ c ∈ cs.takeWhile isBlank, isBlank c = true :=
      fun c mem => List.mem_takeWhile_imp mem
    apply Opens.intro (line.takeWhile isBlank) (tail.takeWhile isBlank)
      (((tail.dropWhile isBlank).dropWhile isWord).takeWhile isBlank) rest
    case parts =>
      rw [String.toList_ofList, ← ends, List.takeWhile_append_dropWhile,
        List.takeWhile_append_dropWhile, List.takeWhile_append_dropWhile,
        ← afterWord?_eq_some.mp after, List.takeWhile_append_dropWhile]
    case blank =>
      exact List.forall_mem_append.mpr
        ⟨List.forall_mem_append.mpr ⟨blanks line, blanks tail⟩, blanks _⟩
    case apart =>
      intro none
      have whole := List.takeWhile_append_dropWhile (p := isBlank) (l := tail)
      rw [none, List.nil_append] at whole
      rw [whole] at shorter
      exact Nat.lt_irrefl _ shorter
    case word =>
      rw [String.toList_ofList]
      exact fun c mem => List.mem_takeWhile_imp mem
    case named =>
      rwa [ne_eq, ← String.toList_eq_nil_iff, String.toList_ofList]
  · cases found

/-- A line is read as the opening line of a block exactly if it is one. -/
theorem opening?_eq_some_iff : opening? line = some (kind, name) ↔ Opens kind name line := by
  refine ⟨opens_of_opening, ?_⟩
  rintro ⟨before, gap, after, rest, parts, blank, apart, word, named⟩
  obtain ⟨blank, behind⟩ := List.forall_mem_append.mp blank
  obtain ⟨ahead, between⟩ := List.forall_mem_append.mp blank
  have letters : name.toList ≠ [] := fun none => named (String.toList_eq_nil_iff.mp none)
  have body : line.dropWhile isBlank =
      kind.name.toList ++ (gap ++ (name.toList ++ (after ++ '\x7b' :: rest))) := by
    rw [parts]
    exact dropWhile_isBlank ahead (fun c mem => isWord_of_mem_name mem) name_toList_ne_nil _
  have spelled := dropWhile_isBlank between word letters (after ++ '\x7b' :: rest)
  obtain ⟨taken, left⟩ := span_isWord word behind rest
  have brace : (after ++ '\x7b' :: rest).dropWhile isBlank = '\x7b' :: rest := by
    rw [List.dropWhile_append_of_pos behind]
    exact List.dropWhile_cons_of_neg (by decide +kernel)
  unfold opening?
  apply findSome?_of_unique (a := kind)
  case mem => cases kind <;> decide
  case here =>
    have shorter : (name.toList ++ (after ++ '\x7b' :: rest)).length <
        (gap ++ (name.toList ++ (after ++ '\x7b' :: rest))).length := by
      have some' := List.length_pos_iff.mpr apart
      simp only [List.length_append]
      omega
    have full : name.toList.isEmpty = false := List.isEmpty_eq_false_iff.mpr letters
    simp only [afterWord?_eq_some.mpr body, Option.bind_eq_bind, Option.bind_some, spelled, taken,
      left, brace, shorter, full, decide_true, Bool.not_false, Bool.and_self, List.head?_cons,
      beq_self_eq_true, ↓reduceIte, String.ofList_toList]
  case unique =>
    intro other _ key found
    obtain ⟨tail, behind, found⟩ := Option.bind_eq_some_iff.mp found
    have same := body.symm.trans (afterWord?_eq_some.mp behind)
    obtain rfl : other = kind := by
      rcases List.prefix_or_prefix_of_prefix (List.prefix_append _ _)
        (same ▸ List.prefix_append other.name.toList tail) with begins | begins
      · exact (eq_of_name_begins begins).symm
      · exact eq_of_name_begins begins
    rw [List.append_cancel_left same] at spelled
    simp only [spelled, taken, String.ofList_toList] at found
    split at found
    · exact (Option.some.inj found).symm
    · cases found

/-! ## Marks and tokens -/

theorem mark?_cons (h : isPlain c = false) : mark? (c :: rest) = some c := by
  unfold mark?
  rw [List.dropWhile_cons_of_neg (by rw [h]; exact Bool.false_ne_true)]
  rfl

/-- The first mark of two texts in a row is that of the first one if it has any. -/
theorem mark?_append (line rest : List Char) :
    mark? (line ++ rest) = (mark? line).or (mark? rest) := by
  unfold mark?
  rw [List.dropWhile_append]
  split
  · next empty =>
    rw [List.isEmpty_iff.mp empty]
    rfl
  · next full =>
    cases kept : line.dropWhile isPlain with
    | nil => exact absurd (List.isEmpty_iff.mpr kept) full
    | cons c cs => rfl

theorem mark?_eq_none (h : ∀ c ∈ pad, isPlain c = true) : mark? pad = none := by
  unfold mark?
  rw [List.dropWhile_eq_nil_iff.mpr h]
  rfl

/-- Blanks before a line do not change its first token. -/
theorem token_append_of_blank (h : ∀ c ∈ pad, isBlank c = true) :
    token (pad ++ rest) = token rest := by
  unfold token
  rw [List.dropWhile_append_of_pos h]

/-- Characters that are no blanks are a token up to a blank. -/
theorem token_label (solid : ∀ c ∈ word, isBlank c = false) (some' : word ≠ [])
    (ends : isBlank c = true) : token (word ++ c :: rest) = word := by
  have begun : (word ++ c :: rest).dropWhile isBlank = word ++ c :: rest := by
    obtain ⟨d, ds, rfl⟩ := List.exists_cons_of_ne_nil some'
    have first := solid d List.mem_cons_self
    exact List.dropWhile_cons_of_neg (by rw [first]; exact Bool.false_ne_true)
  unfold token
  rw [begun, List.takeWhile_append_of_pos fun c mem => by rw [solid c mem]; rfl,
    List.takeWhile_cons_of_neg (by simp only [ends, Bool.not_true, Bool.false_eq_true,
      not_false_eq_true]), List.append_nil]

/-- Blanks behind a line do not change its first token. -/
theorem token_append_blank (h : ∀ c ∈ pad, isBlank c = true) :
    token (line ++ pad) = token line := by
  unfold token
  rw [List.dropWhile_append]
  split
  · next empty =>
    rw [List.isEmpty_iff.mp empty, List.dropWhile_eq_nil_iff.mpr h]
  · rw [List.takeWhile_append]
    have none : pad.takeWhile (fun c => !isBlank c) = [] := by
      cases pad with
      | nil => rfl
      | cons c cs =>
        have first := h c List.mem_cons_self
        exact List.takeWhile_cons_of_neg (by rw [first]; exact Bool.false_ne_true)
    split
    · next whole =>
      rw [none, List.append_nil]
      exact (List.takeWhile_prefix _).eq_of_length whole |>.symm
    · rfl

/-- The first token of a line that opens a block is the word of the kind. -/
theorem Opens.token (h : Opens kind name line) : token line = kind.name.toList := by
  obtain ⟨before, gap, after, rest, rfl, blank, apart, -, -⟩ := h
  obtain ⟨blank, -⟩ := List.forall_mem_append.mp blank
  obtain ⟨ahead, between⟩ := List.forall_mem_append.mp blank
  obtain ⟨c, cs, rfl⟩ := List.exists_cons_of_ne_nil apart
  rw [token_append_of_blank ahead]
  exact token_label (fun c mem => isBlank_of_mem_name mem) name_toList_ne_nil
    (between c List.mem_cons_self)

/-- The first mark of a line that opens a block is the brace. -/
theorem Opens.mark (h : Opens kind name line) : mark? line = some '\x7b' := by
  obtain ⟨before, gap, after, rest, rfl, blank, -, word, -⟩ := h
  obtain ⟨blank, behind⟩ := List.forall_mem_append.mp blank
  obtain ⟨ahead, between⟩ := List.forall_mem_append.mp blank
  have blanks {cs : List Char} (h : ∀ c ∈ cs, isBlank c = true) : mark? cs = none :=
    mark?_eq_none fun c mem => isPlain_of_isBlank (h c mem)
  have words {cs : List Char} (h : ∀ c ∈ cs, isWord c = true) : mark? cs = none :=
    mark?_eq_none fun c mem => isPlain_of_isWord (h c mem)
  simp only [mark?_append, blanks ahead, words fun c mem => isWord_of_mem_name mem,
    blanks between, words word, blanks behind, Option.none_or]
  exact mark?_cons (by decide +kernel)

theorem opening?_eq_none_of_mark (h : mark? line ≠ some '\x7b') : opening? line = none := by
  cases opens : opening? line with
  | none => rfl
  | some key => exact absurd (opens_of_opening opens).mark h

theorem opening?_eq_none_of_token (h : ∀ kind : BlockKind, token line ≠ kind.name.toList) :
    opening? line = none := by
  cases opens : opening? line with
  | none => rfl
  | some key => exact absurd (opens_of_opening opens).token (h key.1)

/-- A line opens no block if it is a label, a gap, and a text whose first mark is no brace; blanks
around it do not matter. -/
theorem opening?_eq_none_of_label (before label gap rest after : List Char)
    (parts : line ++ after = before ++ (label ++ (gap ++ rest)))
    (solid : ∀ c ∈ label, isBlank c = false) (gapped : gap ≠ [])
    (blank : ∀ c ∈ before ++ gap ++ after, isBlank c = true) (marked : mark? rest ≠ some '\x7b') :
    opening? line = none := by
  obtain ⟨blank, behind⟩ := List.forall_mem_append.mp blank
  obtain ⟨ahead, between⟩ := List.forall_mem_append.mp blank
  have plain {cs : List Char} (h : ∀ c ∈ cs, isBlank c = true) : ∀ c ∈ cs, isPlain c = true :=
    fun c mem => isPlain_of_isBlank (h c mem)
  by_cases word : ∀ c ∈ label, isWord c = true
  · -- then the first mark stands behind the gap
    apply opening?_eq_none_of_mark
    have whole := congrArg mark? parts
    simp only [mark?_append, mark?_eq_none (plain behind), mark?_eq_none (plain ahead),
      mark?_eq_none (plain between), mark?_eq_none fun c mem => isPlain_of_isWord (word c mem),
      Option.none_or, Option.or_none] at whole
    exact whole ▸ marked
  · -- then the label is the first token, and no word
    have some' : label ≠ [] := fun empty => word (empty ▸ List.forall_mem_nil _)
    obtain ⟨c, more, rfl⟩ := List.exists_cons_of_ne_nil gapped
    have first : token line = label := by
      rw [← token_append_blank behind, parts, token_append_of_blank ahead]
      exact token_label solid some' (between c List.mem_cons_self)
    refine opening?_eq_none_of_token fun kind same => word fun c mem => ?_
    rw [first] at same
    have letter : c ∈ kind.name.toList := same ▸ mem
    exact isWord_of_mem_name letter

/-! ## Models -/

/-- The line with the name of a model opens its block. -/
theorem opening?_model (word : ∀ c ∈ name.toList, isWord c = true) (some' : name ≠ "") :
    opening? ("model " ++ name ++ " \x7b").toList = some (.model, name) := by
  have blank : isBlank ' ' = true := by decide
  refine opening?_eq_some_iff.mpr ⟨[], [' '], [' '], [], ?_, by simp [blank], by simp, word, some'⟩
  simp only [String.toList_append, List.append_assoc]
  rfl

end SchemaCompiler.Block
