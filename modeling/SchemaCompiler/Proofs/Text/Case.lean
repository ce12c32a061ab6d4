import SchemaCompiler.Proofs.Text.Class
import SchemaCompiler.Text.Naming

/-!
# What a case map makes

A letter in lower or upper case is the letter itself or one that the case tables lead to. A class of
characters that meets none of those is therefore kept out of a text by either map
(`avoids_lowerAfter`, `avoids_upper`): no case map makes a blank or a line separator. One letter
becomes one letter or two, so a name in lower case at its first letter is about as long as the name
(`lowerFirst_length`).
-/

set_option autoImplicit false

namespace SchemaCompiler.Text

variable {rs : List (Nat × Nat)} {cs ds : List Char} {c : Char} {n k : Nat}

/-- A text without characters in some ranges. -/
def Avoids (rs : List (Nat × Nat)) (cs : List Char) : Prop :=
  ∀ c ∈ cs, inRanges rs c.toNat = false

theorem Avoids.append (first : Avoids rs cs) (second : Avoids rs ds) : Avoids rs (cs ++ ds) :=
  List.forall_mem_append.mpr ⟨first, second⟩

theorem avoids_flatMap {f : Char → List Char} (each : ∀ c ∈ cs, Avoids rs (f c)) :
    Avoids rs (cs.flatMap f) := by
  intro d mem
  obtain ⟨c, within, made⟩ := List.mem_flatMap.mp mem
  exact each c within d made

/-! ## Tables -/

/-- What the runs of a case table lead to, as ranges. -/
def runTargets (runs : List (Nat × Nat × Nat × Nat)) : List (Nat × Nat) :=
  runs.map fun (first, last, _, target) => (target, target + (last - first))

/-- What the lower case of another letter consists of, as ranges. -/
def lowerTargets : List (Nat × Nat) :=
  [(0, 0), (0x61, 0x7a), (0x307, 0x307), (0x3c2, 0x3c3)] ++ runTargets lowerRuns

/-- What the upper case of another letter consists of, as ranges. -/
def upperTargets : List (Nat × Nat) :=
  [(0, 0), (0x41, 0x5a)] ++ (upperExpansions.flatMap (·.2)).map (fun n => (n, n)) ++
    runTargets upperRuns

theorem inRanges_runTargets {runs : List (Nat × Nat × Nat × Nat)}
    (h : applyRuns runs n = some k) : inRanges (runTargets runs) k = true := by
  unfold applyRuns at h
  split at h
  · next first last step target found =>
    cases h
    have fits := List.find?_some found
    simp only [Bool.and_eq_true, decide_eq_true_eq] at fits
    refine inRanges_iff.mpr ⟨_, List.mem_map_of_mem (List.mem_of_find?_eq_some found), ?_, ?_⟩
    · show target ≤ target + (n - first)
      omega
    · show target + (n - first) ≤ target + (last - first)
      omega
  · cases h

/-- A code point that no character has stands for the first character of all. -/
theorem inRanges_toNat_ofNat {ss : List (Nat × Nat)} (zero : inRanges ss 0 = true)
    (h : inRanges ss n = true) : inRanges ss (Char.ofNat n).toNat = true := by
  by_cases valid : n.isValidChar
  · have itself : Char.ofNat n = Char.ofNatAux n valid := dif_pos valid
    rw [itself]
    exact h
  · have first : Char.ofNat n = '\u0000' := dif_neg valid
    rw [first]
    exact zero

theorem inRanges_left {ss : List (Nat × Nat)} (h : inRanges rs n = true) :
    inRanges (rs ++ ss) n = true := by
  rw [inRanges_append, h, Bool.true_or]

theorem inRanges_right {ss : List (Nat × Nat)} (h : inRanges ss n = true) :
    inRanges (rs ++ ss) n = true := by
  rw [inRanges_append, h, Bool.or_true]

/-! ## Lower case -/

/-- The lower case of a letter is the letter or consists of what the tables lead to. -/
theorem lowerLetter_targets (c : Char) :
    lowerLetter c = [c] ∨ ∀ d ∈ lowerLetter c, inRanges lowerTargets d.toNat = true := by
  unfold lowerLetter
  split
  · split
    · next capital =>
      refine .inr (List.forall_mem_singleton.mpr (inRanges_toNat_ofNat (by decide) ?_))
      unfold isCapital at capital
      simp only [Bool.and_eq_true, decide_eq_true_eq, le_iff_toNat_le, Char.reduceToNat] at capital
      exact inRanges_left (inRanges_iff.mpr
        ⟨(0x61, 0x7a), List.mem_cons_of_mem _ List.mem_cons_self, by omega, by omega⟩)
    · exact .inl rfl
  · split
    · exact .inr (List.all_eq_true.mp (by decide +kernel))
    · split
      · next found =>
        exact .inr (List.forall_mem_singleton.mpr
          (inRanges_toNat_ofNat (by decide) (inRanges_right (inRanges_runTargets found))))
      · exact .inl rfl

theorem avoids_of_targets {f : Char → List Char} {targets : List (Nat × Nat)}
    (safe : apart targets rs = true)
    (made : f c = [c] ∨ ∀ d ∈ f c, inRanges targets d.toNat = true)
    (h : inRanges rs c.toNat = false) : Avoids rs (f c) := by
  rcases made with same | led
  · rw [same]
    exact List.forall_mem_singleton.mpr h
  · exact fun d mem => not_inRanges_of_apart safe (led d mem)

theorem avoids_lowerAfter (safe : apart lowerTargets rs = true) (before : List Char)
    (h : Avoids rs cs) : Avoids rs (lowerAfter before cs) := by
  induction cs generalizing before with
  | nil => exact h
  | cons c cs ih =>
    obtain ⟨here, later⟩ := List.forall_mem_cons.mp h
    unfold lowerAfter
    refine Avoids.append ?_ (ih (c :: before) later)
    split
    · have sigma : ∀ d ∈ ['\u03c2', '\u03c3'], inRanges lowerTargets d.toNat = true :=
        List.all_eq_true.mp (by decide +kernel)
      refine List.forall_mem_singleton.mpr (not_inRanges_of_apart safe (sigma _ ?_))
      split
      · exact List.mem_cons_self
      · exact List.mem_cons_of_mem _ List.mem_cons_self
    · exact avoids_of_targets safe (lowerLetter_targets c) here

/-! ## Upper case -/

/-- The upper case of a letter is the letter or consists of what the tables lead to. -/
theorem upperLetter_targets (c : Char) :
    upperLetter c = [c] ∨ ∀ d ∈ upperLetter c, inRanges upperTargets d.toNat = true := by
  unfold upperLetter
  split
  · split
    · next small =>
      refine .inr (List.forall_mem_singleton.mpr (inRanges_toNat_ofNat (by decide) ?_))
      unfold isSmall at small
      simp only [Bool.and_eq_true, decide_eq_true_eq, le_iff_toNat_le, Char.reduceToNat] at small
      exact inRanges_left (inRanges_iff.mpr
        ⟨(0x41, 0x5a), List.mem_cons_of_mem _ List.mem_cons_self, by omega, by omega⟩)
    · exact .inl rfl
  · split
    · next letters found =>
      refine .inr (List.forall_mem_map.mpr fun n mem => inRanges_toNat_ofNat (by decide) ?_)
      have listed : n ∈ upperExpansions.flatMap (·.2) :=
        List.mem_flatMap.mpr ⟨_, List.mem_of_find?_eq_some found, mem⟩
      exact inRanges_left (inRanges_right
        (inRanges_iff.mpr ⟨(n, n), List.mem_map_of_mem listed, Nat.le_refl n, Nat.le_refl n⟩))
    · split
      · next found =>
        exact .inr (List.forall_mem_singleton.mpr
          (inRanges_toNat_ofNat (by decide) (inRanges_right (inRanges_runTargets found))))
      · exact .inl rfl

theorem avoids_upper (safe : apart upperTargets rs = true) (h : Avoids rs cs) :
    Avoids rs (cs.flatMap upperLetter) :=
  avoids_flatMap fun c mem => avoids_of_targets safe (upperLetter_targets c) (h c mem)

/-! ## Lengths -/

theorem lowerLetter_length (c : Char) :
    1 ≤ (lowerLetter c).length ∧ (lowerLetter c).length ≤ 2 := by
  unfold lowerLetter
  split
  · exact ⟨Nat.le_refl 1, Nat.le_succ 1⟩
  · split
    · exact ⟨Nat.le_succ 1, Nat.le_refl 2⟩
    · split <;> exact ⟨Nat.le_refl 1, Nat.le_succ 1⟩

theorem lowerChars_singleton_length (c : Char) :
    1 ≤ (lowerChars [c]).length ∧ (lowerChars [c]).length ≤ 2 := by
  unfold lowerChars lowerAfter
  simp only [lowerAfter, List.append_nil]
  split
  · exact ⟨Nat.le_refl 1, Nat.le_succ 1⟩
  · exact lowerLetter_length c

/-- A name keeps its length in lower case at its first letter, or gains one letter. -/
theorem lowerFirst_length (name : String) :
    name.length ≤ (lowerFirst name).length ∧ (lowerFirst name).length ≤ name.length + 1 := by
  unfold lowerFirst
  split
  · exact ⟨Nat.le_refl _, Nat.le_succ _⟩
  · next c rest letters =>
    have total : name.length = rest.length + 1 := by
      rw [← String.length_toList, letters, List.length_cons]
    have first := lowerChars_singleton_length c
    rw [String.length_ofList, List.length_append, total]
    omega

end SchemaCompiler.Text
