import SchemaCompiler.Proofs.Text.CamelCase
import SchemaCompiler.Proofs.Text.Case

/-!
# Lower case of a text

The lower case of a text is in lower case: no run of the case table leads to a letter that a run
begins with, so lower-casing twice is lower-casing once (`lowerChars_idem`). Whether a sigma is final
is told by the nearest characters that are not ignorable (`nearCased`). A letter or a digit of ASCII
is not ignorable, and an underscore is as little cased as a hyphen is. So an underscore between two
such letters stays where it is and changes nothing else (`lowerChars_insert`), and hyphens may be
written as underscores before or after (`lowerChars_unhyphen`).
-/

set_option autoImplicit false

namespace SchemaCompiler.Text

variable {c d : Char} {cs before before' after after' : List Char} {n k : Nat}

/-! ## Runs of the table -/

/-- A run holds a number. -/
def OnRun (r : Nat × Nat × Nat × Nat) (n : Nat) : Prop :=
  r.1 ≤ n ∧ n ≤ r.2.1 ∧ (n - r.1) % r.2.2.1 = 0

/-- A run holds no number from `low` to `high`, or only the numbers between those that count, where
every other one does. -/
def isClear (low high : Nat) (sparse : Bool) (s : Nat × Nat × Nat × Nat) : Bool :=
  Nat.blt s.2.1 low || Nat.blt high s.1 || (sparse && s.2.2.1 == 2 && (low + s.1) % 2 == 1)

/-- A run leads to no number that is on a run. -/
def isUnchained (runs : List (Nat × Nat × Nat × Nat)) (r : Nat × Nat × Nat × Nat) : Bool :=
  runs.all (isClear r.2.2.2 (r.2.2.2 + (r.2.1 - r.1)) (r.1 == r.2.1 || r.2.2.1 == 2))

theorem exists_run {runs : List (Nat × Nat × Nat × Nat)} (h : applyRuns runs n = some k) :
    ∃ r ∈ runs, OnRun r n ∧ k = r.2.2.2 + (n - r.1) := by
  unfold applyRuns at h
  split at h
  · next first last step target found =>
    cases h
    have fits := List.find?_some found
    simp only [Bool.and_eq_true, decide_eq_true_eq, beq_iff_eq, and_assoc] at fits
    exact ⟨_, List.mem_of_find?_eq_some found, fits, rfl⟩
  · cases h

theorem not_onRun_of_unchained {runs : List (Nat × Nat × Nat × Nat)} {r s : Nat × Nat × Nat × Nat}
    (unchained : isUnchained runs r = true) (mem : s ∈ runs) (source : OnRun r n) :
    ¬ OnRun s (r.2.2.2 + (n - r.1)) := by
  obtain ⟨first, last, step, target⟩ := r
  obtain ⟨first', last', step', target'⟩ := s
  obtain ⟨low, high, even⟩ := source
  rintro ⟨low', high', even'⟩
  have clear := List.all_eq_true.mp unchained _ mem
  simp only [isClear, Bool.or_eq_true, Bool.and_eq_true, Nat.blt_eq, beq_iff_eq]
    at clear low high even low' high' even'
  rcases clear with (short | beyond) | ⟨⟨single | every, every'⟩, odd⟩
  · omega
  · omega
  · subst every'
    omega
  · subst every every'
    omega

/-- What the table leads to has no lower case of its own. -/
theorem applyRuns_target (h : applyRuns lowerRuns n = some k) : applyRuns lowerRuns k = none := by
  have unchained : lowerRuns.all (isUnchained lowerRuns) = true := by decide +kernel
  rw [Option.eq_none_iff_forall_ne_some]
  intro again found
  obtain ⟨r, mem, source, rfl⟩ := exists_run h
  obtain ⟨s, mem', source', _⟩ := exists_run found
  exact not_onRun_of_unchained (List.all_eq_true.mp unchained r mem) mem' source source'

/-! ## Letters in lower case -/

/-- A letter that is its own lower case. -/
def IsLowered (c : Char) : Prop := lowerLetter c = [c]

instance (c : Char) : Decidable (IsLowered c) := inferInstanceAs (Decidable (_ = _))

theorem isLowered_of_ascii (ascii : c.toNat < 0x80) (other : isCapital c = false) :
    IsLowered c := by
  unfold IsLowered lowerLetter
  rw [if_pos ascii, other]
  rfl

/-- A letter that is its own lower case is no capital of ASCII. -/
theorem IsLowered.isCapital_eq_false (h : IsLowered c) : isCapital c = false := by
  refine eq_false_of_ne_true fun capital => ?_
  have range := isCapital_iff.mp capital
  have shifted : lowerLetter c = [Char.ofNat (c.toNat + 32)] := by
    unfold lowerLetter
    rw [if_pos (by omega), if_pos capital]
  have same := congrArg Char.toNat (List.singleton_inj.mp (shifted.symm.trans h))
  rw [toNat_small capital] at same
  omega

theorem isLowered_of_target (h : applyRuns lowerRuns n = some k) : IsLowered (Char.ofNat k) := by
  by_cases valid : k.isValidChar
  · have itself : (Char.ofNat k).toNat = k := by
      have same : Char.ofNat k = Char.ofNatAux k valid := dif_pos valid
      rw [same]
      rfl
    -- the table leads neither to a capital of ASCII nor to the dotted capital I
    have others : apart (runTargets lowerRuns) [(0x41, 0x5a), (0x130, 0x130)] = true := by
      decide +kernel
    have outside := not_inRanges_of_apart others (inRanges_runTargets h)
    unfold IsLowered lowerLetter
    split
    · next ascii =>
      rw [if_neg]
      intro capital
      have range := isCapital_iff.mp capital
      rw [itself] at range
      exact ne_true_of_eq_false outside
        (inRanges_iff.mpr ⟨(0x41, 0x5a), List.mem_cons_self, range.1, range.2⟩)
    · rw [if_neg, itself, applyRuns_target h]
      intro dotted
      have same : k = 0x130 := itself.symm.trans (congrArg Char.toNat (eq_of_beq dotted))
      subst same
      cases outside
  · have first : Char.ofNat k = '\u0000' := dif_neg valid
    rw [first]
    decide

/-- The lower case of a letter is in lower case. -/
theorem isLowered_of_mem_lowerLetter (mem : d ∈ lowerLetter c) : IsLowered d := by
  unfold lowerLetter at mem
  split at mem
  · next ascii =>
    obtain rfl := List.mem_singleton.mp mem
    split
    · next capital =>
      have range := isCapital_iff.mp capital
      have small := toNat_small capital
      refine isLowered_of_ascii (by omega) (eq_false_of_ne_true fun again => ?_)
      have range' := isCapital_iff.mp again
      omega
    · next other => exact isLowered_of_ascii ascii (eq_false_of_ne_true other)
  · next wide =>
    split at mem
    · rcases List.mem_pair.mp mem with rfl | rfl <;> decide +kernel
    · next plain =>
      split at mem
      · next found =>
        obtain rfl := List.mem_singleton.mp mem
        exact isLowered_of_target found
      · next unlisted =>
        obtain rfl := List.mem_singleton.mp mem
        unfold IsLowered lowerLetter
        rw [if_neg wide, if_neg plain, unlisted]

/-- A text consists of letters in lower case once it is lower-cased. -/
theorem isLowered_of_mem_lowerAfter (mem : d ∈ lowerAfter before cs) : IsLowered d := by
  induction cs generalizing before with
  | nil => cases mem
  | cons c cs ih =>
    unfold lowerAfter at mem
    rcases List.mem_append.mp mem with here | later
    · split at here
      · obtain rfl := List.mem_singleton.mp here
        split <;> decide +kernel
      · exact isLowered_of_mem_lowerLetter here
    · exact ih later

theorem lowerAfter_cons_of_ne (other : c ≠ '\u03a3') :
    lowerAfter before (c :: cs) = lowerLetter c ++ lowerAfter (c :: before) cs := by
  rw [lowerAfter]
  simp only [beq_eq_false_iff_ne.mpr other, Bool.false_eq_true, ↓reduceIte]

theorem lowerAfter_of_lowered (each : ∀ c ∈ cs, IsLowered c) : lowerAfter before cs = cs := by
  induction cs generalizing before with
  | nil => rfl
  | cons c cs ih =>
    obtain ⟨here, later⟩ := List.forall_mem_cons.mp each
    have other : c ≠ '\u03a3' := by
      rintro rfl
      exact absurd here (by decide +kernel)
    rw [lowerAfter_cons_of_ne other, here, ih later]
    rfl

/-- Lower-casing twice is lower-casing once. -/
theorem lowerChars_idem (cs : List Char) : lowerChars (lowerChars cs) = lowerChars cs :=
  lowerAfter_of_lowered fun _ mem => isLowered_of_mem_lowerAfter mem

/-! ## Neighbours of a sigma -/

/-- The nearest character that is not ignorable is cased. -/
def nearCased (cs : List Char) : Bool := (cs.dropWhile isCaseIgnorable).head?.any isCased

theorem isFinalSigma_eq : isFinalSigma before after = (nearCased before && !nearCased after) := rfl

theorem nearCased_cons :
    nearCased (c :: cs) = if isCaseIgnorable c then nearCased cs else isCased c := by
  unfold nearCased
  rw [List.dropWhile_cons]
  split <;> rfl

theorem nearCased_cons_of_solid (solid : isCaseIgnorable c = false) :
    nearCased (c :: cs) = isCased c := by
  rw [nearCased_cons, if_neg (ne_true_of_eq_false solid)]

theorem nearCased_append_congr (same : nearCased after = nearCased after') :
    nearCased (cs ++ after) = nearCased (cs ++ after') := by
  induction cs with
  | nil => exact same
  | cons c cs ih => rw [List.cons_append, List.cons_append, nearCased_cons, nearCased_cons, ih]

/-- What comes before a text matters by its nearest character alone. -/
theorem lowerAfter_congr (same : nearCased before = nearCased before') :
    lowerAfter before cs = lowerAfter before' cs := by
  induction cs generalizing before before' with
  | nil => rfl
  | cons c cs ih =>
    have next : nearCased (c :: before) = nearCased (c :: before') := by
      rw [nearCased_cons, nearCased_cons, same]
    rw [lowerAfter, lowerAfter, isFinalSigma_eq, isFinalSigma_eq, same, ih next]

/-- What comes behind a text matters by its nearest character alone. -/
theorem exists_lowerAfter_append (before cs : List Char) (same : nearCased after = nearCased after') :
    ∃ front, lowerAfter before (cs ++ after) = front ++ lowerAfter (cs.reverse ++ before) after ∧
      lowerAfter before (cs ++ after') = front ++ lowerAfter (cs.reverse ++ before) after' := by
  induction cs generalizing before with
  | nil => exact ⟨[], rfl, rfl⟩
  | cons c cs ih =>
    obtain ⟨front, first, second⟩ := ih (c :: before)
    rw [List.cons_append, List.cons_append, lowerAfter, lowerAfter, isFinalSigma_eq,
      isFinalSigma_eq, nearCased_append_congr same, first, second, List.reverse_cons,
      List.append_assoc, List.singleton_append]
    exact ⟨_, (List.append_assoc ..).symm, (List.append_assoc ..).symm⟩

/-! ## Underscores -/

theorem isCaseIgnorable_of_plain (plain : isPlainLetter c = true) : isCaseIgnorable c = false := by
  have range := isPlainLetter_iff.mp plain
  have unlisted : inRanges caseIgnorableRanges c.toNat = false := by
    have others : apart [(0x30, 0x7a)] caseIgnorableRanges = true := by decide +kernel
    exact not_inRanges_of_apart others
      (inRanges_iff.mpr ⟨(0x30, 0x7a), List.mem_cons_self, by omega, by omega⟩)
  unfold isCaseIgnorable
  simp only [unlisted, Bool.or_false, Bool.or_eq_false_iff, beq_eq_false_iff_ne, ne_eq,
    eq_iff_toNat_eq, Char.reduceToNat]
  omega

theorem ne_sigma_of_plain (plain : isPlainLetter c = true) : c ≠ '\u03a3' := by
  rintro rfl
  cases plain

/-- An underscore between letters or digits of ASCII stays where it is and changes nothing else. -/
theorem lowerChars_insert (plainC : isPlainLetter c = true) (plainD : isPlainLetter d = true) :
    ∃ front back, lowerChars (before ++ c :: d :: after) = front ++ back ∧
      lowerChars (before ++ c :: '_' :: d :: after) = front ++ '_' :: back := by
  have solidC := isCaseIgnorable_of_plain plainC
  have solidD := isCaseIgnorable_of_plain plainD
  -- neither side of the underscore is looked at from the other one
  have ahead : nearCased (c :: d :: after) = nearCased (c :: '_' :: d :: after) := by
    rw [nearCased_cons_of_solid solidC, nearCased_cons_of_solid solidC]
  have behind (earlier : List Char) :
      lowerAfter ('_' :: earlier) (d :: after) = lowerAfter earlier (d :: after) := by
    have near : nearCased (d :: '_' :: earlier) = nearCased (d :: earlier) := by
      rw [nearCased_cons_of_solid solidD, nearCased_cons_of_solid solidD]
    rw [lowerAfter_cons_of_ne (ne_sigma_of_plain plainD),
      lowerAfter_cons_of_ne (ne_sigma_of_plain plainD), lowerAfter_congr near]
  obtain ⟨front, without, inserted⟩ := exists_lowerAfter_append [] before ahead
  refine ⟨front ++ lowerLetter c, lowerAfter (c :: (before.reverse ++ [])) (d :: after), ?_, ?_⟩
  · rw [lowerChars, without, lowerAfter_cons_of_ne (ne_sigma_of_plain plainC), List.append_assoc]
  · rw [lowerChars, inserted, lowerAfter_cons_of_ne (ne_sigma_of_plain plainC),
      lowerAfter_cons_of_ne (by decide : '_' ≠ '\u03a3'), behind, List.append_assoc]
    rfl

/-! ## Hyphens -/

theorem unhyphen_cons :
    unhyphen (c :: cs) = (if c == '-' then '_' else c) :: unhyphen cs := rfl

theorem unhyphen_append (front back : List Char) :
    unhyphen (front ++ back) = unhyphen front ++ unhyphen back :=
  List.map_append

theorem hyphen_not_mem_unhyphen (cs : List Char) : '-' ∉ unhyphen cs := by
  intro mem
  obtain ⟨c, _, made⟩ := List.mem_map.mp mem
  split at made
  · cases made
  · next other => exact other (beq_iff_eq.mpr made)

theorem nearCased_unhyphen (cs : List Char) : nearCased (unhyphen cs) = nearCased cs := by
  induction cs with
  | nil => rfl
  | cons c cs ih =>
    rw [unhyphen_cons]
    split
    · next hyphen =>
      obtain rfl := eq_of_beq hyphen
      rw [nearCased_cons_of_solid (by decide +kernel), nearCased_cons_of_solid (by decide +kernel)]
      decide +kernel
    · rw [nearCased_cons, nearCased_cons, ih]

theorem lowerLetter_unhyphen (c : Char) :
    lowerLetter (if c == '-' then '_' else c) = unhyphen (lowerLetter c) := by
  split
  · next hyphen =>
    rw [eq_of_beq hyphen]
    rfl
  · next other =>
    -- the case table leads to no hyphen
    have others : apart lowerTargets [(0x2d, 0x2d)] = true := by decide +kernel
    have dark : inRanges [(0x2d, 0x2d)] c.toNat = false := by
      refine eq_false_of_ne_true fun within => other ?_
      obtain ⟨r, mem, low, high⟩ := inRanges_iff.mp within
      obtain rfl := List.mem_singleton.mp mem
      exact beq_iff_eq.mpr (eq_iff_toNat_eq.mpr (Nat.le_antisymm high low))
    refine (unhyphen_eq_self fun mem => ?_).symm
    cases avoids_of_targets others (lowerLetter_targets c) dark '-' mem

theorem lowerAfter_unhyphen (before cs : List Char) :
    lowerAfter (unhyphen before) (unhyphen cs) = unhyphen (lowerAfter before cs) := by
  induction cs generalizing before with
  | nil => rfl
  | cons c cs ih =>
    have later := ih (c :: before)
    rw [unhyphen_cons] at later
    have sigma : ((if c == '-' then '_' else c) == '\u03a3') = (c == '\u03a3') := by
      split
      · next hyphen =>
        obtain rfl := eq_of_beq hyphen
        rfl
      · rfl
    rw [unhyphen_cons, lowerAfter, lowerAfter, later, unhyphen_append, isFinalSigma_eq,
      isFinalSigma_eq, nearCased_unhyphen, nearCased_unhyphen, lowerLetter_unhyphen, sigma]
    congr 1
    split
    · split <;> rfl
    · rfl

/-- Hyphens may be written as underscores before or after a text is lower-cased. -/
theorem lowerChars_unhyphen (cs : List Char) : lowerChars (unhyphen cs) = unhyphen (lowerChars cs) :=
  lowerAfter_unhyphen [] cs

end SchemaCompiler.Text
