import SchemaCompiler.Proofs.Text.Lowering

/-!
# The snake_case form is a normal form

The form has no capitals of ASCII and no hyphens, is its own form, and holds the letters of the name
in lower case: beside them only separators come and go (`IsNormalForm`). All of this rests on four
properties of the lower-casing (`Lowers`), whatever else it does to letters beyond ASCII, and the
lower-casing by the case tables has them (`lowers_lowerChars`). The marks that the form is made with
stand between letters and digits of ASCII, so each of them stays where it is when the text is
lower-cased (`dropUnderscores_lowering_markWords`).

What the form does not do is tell names apart: `createdAt` and `created_at` share theirs.
-/

set_option autoImplicit false

namespace SchemaCompiler.Text

variable {lowering : List Char → List Char} {c d : Char} {cs : List Char} {after : Option Char}

/-- What the snake_case form needs of a lower-casing: it is done when it is done once, leaves no
capital of ASCII, treats hyphens and underscores alike, and leaves an underscore where it is that is
put between two letters or digits of ASCII. -/
structure Lowers (lowering : List Char → List Char) : Prop where
  again : ∀ cs, lowering (lowering cs) = lowering cs
  capital : ∀ cs, ∀ c ∈ lowering cs, isCapital c = false
  hyphens : ∀ cs, lowering (unhyphen cs) = unhyphen (lowering cs)
  insert : ∀ before c d after, isPlainLetter c = true → isPlainLetter d = true →
    ∃ front back, lowering (before ++ c :: d :: after) = front ++ back ∧
      lowering (before ++ c :: '_' :: d :: after) = front ++ '_' :: back

/-- Lower-casing by the case tables is a lower-casing. -/
theorem lowers_lowerChars : Lowers lowerChars where
  again := lowerChars_idem
  capital := fun _ _ mem => (isLowered_of_mem_lowerAfter mem).isCapital_eq_false
  hyphens := lowerChars_unhyphen
  insert := fun _ _ _ _ plainC plainD => lowerChars_insert plainC plainD

/-- A text without its underscores. -/
def dropUnderscores (cs : List Char) : List Char := cs.filter (· != '_')

/-- A text is the normal form of a name: it has neither capitals of ASCII nor hyphens, is its own
form, and has the letters of the name in lower case, apart from hyphens and underscores. -/
structure IsNormalForm (lowering : List Char → List Char) (name form : List Char) : Prop where
  capital : ∀ c ∈ form, isCapital c = false
  hyphen : '-' ∉ form
  itself : snakeCaseWith lowering form = form
  letters : dropUnderscores form = dropUnderscores (unhyphen (lowering name))

/-! ## Marks -/

/-- A word starts between two letters or digits of ASCII. -/
theorem isPlainLetter_of_startsWord (starts : startsWord c d after = true) :
    isPlainLetter c = true ∧ isPlainLetter d = true := by
  simp only [startsWord, Bool.and_eq_true, Bool.or_eq_true] at starts
  obtain ⟨capital, before⟩ := starts
  simp only [isPlainLetter, Bool.or_eq_true]
  refine ⟨?_, .inr capital⟩
  rcases before with (small | digit) | ⟨run, _⟩
  · exact .inl (.inl small)
  · exact .inl (.inr digit)
  · exact .inr run

/-- A text without capitals has no words to mark. -/
theorem markWords_eq_self (none : ∀ c ∈ cs, isCapital c = false) : markWords cs = cs := by
  induction cs using markWords.induct with
  | case1 => rfl
  | case2 c => rfl
  | case3 a c rest starts ih =>
    have other := none c (List.mem_cons_of_mem a List.mem_cons_self)
    simp only [startsWord, other, Bool.false_and, Bool.false_eq_true] at starts
  | case4 a c rest inner ih =>
    rw [markWords, if_neg inner, ih (List.forall_mem_cons.mp none).2]

theorem dropUnderscores_insert (front back : List Char) :
    dropUnderscores (unhyphen (front ++ '_' :: back)) =
      dropUnderscores (unhyphen (front ++ back)) := by
  simp only [unhyphen_append, unhyphen_cons, dropUnderscores, List.filter_append]
  rfl

/-- Marking the words of a text only adds underscores to its lower case. The text is followed from
behind what was marked before, as a mark is lower-cased along with all that comes before it. -/
theorem dropUnderscores_lowering_markWords (lowers : Lowers lowering) (before cs : List Char) :
    dropUnderscores (unhyphen (lowering (before ++ markWords cs))) =
      dropUnderscores (unhyphen (lowering (before ++ cs))) := by
  induction cs using markWords.induct generalizing before with
  | case1 => rfl
  | case2 c => rfl
  | case3 a c rest starts ih =>
    obtain ⟨plainA, plainC⟩ := isPlainLetter_of_startsWord starts
    obtain ⟨front, back, without, inserted⟩ := lowers.insert before a c rest plainA plainC
    have later := ih (before ++ [a, '_'])
    simp only [List.append_assoc, List.cons_append, List.nil_append] at later
    rw [markWords, if_pos starts, later, inserted, without, dropUnderscores_insert]
  | case4 a c rest inner ih =>
    have later := ih (before ++ [a])
    simp only [List.append_assoc, List.cons_append, List.nil_append] at later
    rw [markWords, if_neg inner, later]

/-! ## The form -/

/-- The form of a name over any lower-casing is a normal form. -/
theorem Lowers.isNormalForm (lowers : Lowers lowering) (name : List Char) :
    IsNormalForm lowering name (snakeCaseWith lowering name) := by
  have spelled : snakeCaseWith lowering name = unhyphen (lowering (markWords name)) :=
    lowers.hyphens _
  have capital : ∀ c ∈ snakeCaseWith lowering name, isCapital c = false := lowers.capital _
  have hyphen : '-' ∉ snakeCaseWith lowering name := by
    rw [spelled]
    exact hyphen_not_mem_unhyphen _
  refine ⟨capital, hyphen, ?_, ?_⟩
  · calc snakeCaseWith lowering (snakeCaseWith lowering name)
        = lowering (snakeCaseWith lowering name) := by
          rw [snakeCaseWith, markWords_eq_self capital, unhyphen_eq_self hyphen]
      _ = snakeCaseWith lowering name := lowers.again _
  · rw [spelled]
    exact dropUnderscores_lowering_markWords lowers [] name

/-- The snake_case form is a normal form of names, over any lower-casing and over that of the case
tables, so that a column named by it needs no other name. -/
theorem snakeCase_isNormalForm :
    (∀ lowering, Lowers lowering → ∀ name,
      IsNormalForm lowering name (snakeCaseWith lowering name)) ∧
    ∀ name, IsNormalForm lowerChars name.toList (snakeCase name).toList ∧
      snakeCase (snakeCase name) = snakeCase name ∧ needsColumnMap (snakeCase name) = false := by
  refine ⟨fun _ lowers name => lowers.isNormalForm name, fun name => ?_⟩
  have form := lowers_lowerChars.isNormalForm name.toList
  have again : snakeCase (snakeCase name) = snakeCase name := by
    simp only [snakeCase, String.toList_ofList, form.itself]
  refine ⟨?_, again, ?_⟩
  · rw [snakeCase, String.toList_ofList]
    exact form
  · rw [needsColumnMap, again, bne_self_eq_false]

/-- A name with a run of capitals, a hyphen, an underscore of its own and a final sigma. -/
def station : String := "HTTPServer2Id-_\u039f\u0394\u039f\u03a3"

theorem snakeCase_isNormalForm_station : Lowers lowerChars ∧
    snakeCase station = "http_server2_id__\u03bf\u03b4\u03bf\u03c2" ∧
    IsNormalForm lowerChars station.toList (snakeCase station).toList ∧
    needsColumnMap (snakeCase station) = false := by
  have form := snakeCase_isNormalForm.1 lowerChars lowers_lowerChars station.toList
  obtain ⟨_, _, unmapped⟩ := snakeCase_isNormalForm.2 station
  refine ⟨lowers_lowerChars, by decide +kernel, ?_, unmapped⟩
  rw [snakeCase, String.toList_ofList]
  exact form

end SchemaCompiler.Text
