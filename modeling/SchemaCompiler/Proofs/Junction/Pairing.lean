import Mathlib.Data.List.Permutation
import SchemaCompiler.Junction.Plan

/-!
# Pairing declarations

Planning takes the declarations of one pair of models and matches each with the first of the later
ones that fits. The pairing loses and invents nothing (`pairUp_perm`) and only pairs what matches
(`isMatch_of_mem_pairUp`), so it is without fault exactly for no declaration at all and for two
that match each other (`planGroup_problems_eq_nil_iff`): with three or more declarations either one
stays alone or a second junction is asked for, in whatever order they come.
-/

set_option autoImplicit false

namespace SchemaCompiler.Junction

/-! ## Pairs of names -/

theorem canonicalPair_comm (a b : String) : canonicalPair a b = canonicalPair b a := by
  unfold canonicalPair
  by_cases ab : a ≤ b
  · by_cases ba : b ≤ a
    · rw [String.le_antisymm ab ba]
    · rw [if_pos ab, if_neg ba]
  · rw [if_neg ab, if_pos ((String.le_total a b).resolve_left ab)]

theorem canonicalPair_le (a b : String) : (canonicalPair a b).1 ≤ (canonicalPair a b).2 := by
  unfold canonicalPair
  split
  · next ab => exact ab
  · next ab => exact (String.le_total a b).resolve_left ab

/-- The canonical pair has the two names in one order or the other. -/
theorem canonicalPair_eq_or (a b : String) :
    canonicalPair a b = (a, b) ∨ canonicalPair a b = (b, a) := by
  unfold canonicalPair
  split
  · exact .inl rfl
  · exact .inr rfl

theorem canonicalPair_of_le {a b : String} (h : a ≤ b) : canonicalPair a b = (a, b) := if_pos h

/-! ## Matching -/

namespace Declaration

/-- A declaration joins two models, whichever of them it stands in. -/
def Joins (d : Declaration) (a b : String) : Prop :=
  d.model = a ∧ d.relation.target = b ∨ d.model = b ∧ d.relation.target = a

theorem pair_eq_iff {d : Declaration} {a b : String} :
    d.pair = canonicalPair a b ↔ d.Joins a b := by
  unfold pair Joins
  constructor
  · intro h
    rcases canonicalPair_eq_or d.model d.relation.target with h₁ | h₁ <;>
      rcases canonicalPair_eq_or a b with h₂ | h₂ <;>
      rw [h₁, h₂, Prod.mk.injEq] at h <;> tauto
  · rintro (⟨rfl, rfl⟩ | ⟨rfl, rfl⟩)
    · rfl
    · exact canonicalPair_comm _ _

/-- Matching does not look at which of the two declarations comes first. -/
theorem isMatch_comm (a b : Declaration) : a.isMatch b = b.isMatch a := by
  rw [Bool.eq_iff_iff]
  simp only [isMatch, Bool.and_eq_true, Bool.or_eq_true, beq_iff_eq, bne_iff_ne]
  constructor
  · rintro ⟨⟨⟨⟨ab, ba⟩, agreeA⟩, agreeB⟩, named⟩
    refine ⟨⟨⟨⟨ba, ab⟩, agreeB⟩, agreeA⟩, ?_⟩
    rcases named with (differ | namesB) | namesA
    · exact .inl (.inl differ.symm)
    · exact .inr namesB
    · exact .inl (.inr namesA)
  · rintro ⟨⟨⟨⟨ba, ab⟩, agreeB⟩, agreeA⟩, named⟩
    refine ⟨⟨⟨⟨ab, ba⟩, agreeA⟩, agreeB⟩, ?_⟩
    rcases named with (differ | namesA) | namesB
    · exact .inl (.inl differ.symm)
    · exact .inr namesA
    · exact .inl (.inr namesB)

theorem target_of_isMatch {a b : Declaration} (h : a.isMatch b = true) :
    a.relation.target = b.model ∧ b.relation.target = a.model := by
  simp only [isMatch, Bool.and_eq_true, beq_iff_eq] at h
  exact h.1.1.1

end Declaration

/-! ## Taking the first match -/

/-- What is taken matches, and taking it loses nothing. -/
theorem takeMatch_eq_some {d found : Declaration} {ds others : List Declaration}
    (h : takeMatch d ds = some (found, others)) :
    d.isMatch found = true ∧ ds.Perm (found :: others) := by
  induction ds generalizing others with
  | nil => cases h
  | cons other rest ih =>
    unfold takeMatch at h
    split at h
    · next fits =>
      cases h
      exact ⟨fits, .refl _⟩
    · obtain ⟨⟨later, left⟩, taken, same⟩ := Option.map_eq_some_iff.mp h
      cases same
      obtain ⟨fits, perm⟩ := ih taken
      exact ⟨fits, (perm.cons other).trans (.swap _ _ _)⟩

theorem takeMatch_singleton {d other : Declaration} (h : d.isMatch other = true) :
    takeMatch d [other] = some (other, []) := by
  unfold takeMatch
  rw [if_pos h]

/-! ## Pairing up -/

theorem pairUp_nil : pairUp [] = ([], []) := by
  rw [pairUp]

theorem pairUp_cons_some {d partner : Declaration} {rest others : List Declaration}
    (h : takeMatch d rest = some (partner, others)) :
    pairUp (d :: rest) = ((d, partner) :: (pairUp others).1, (pairUp others).2) := by
  rw [pairUp]
  split
  · next taken =>
    rw [h] at taken
    cases taken
    rfl
  · next none =>
    rw [h] at none
    cases none

theorem pairUp_cons_none {d : Declaration} {rest : List Declaration}
    (h : takeMatch d rest = none) :
    pairUp (d :: rest) = ((pairUp rest).1, d :: (pairUp rest).2) := by
  rw [pairUp]
  split
  · next taken =>
    rw [h] at taken
    cases taken
  · rfl

/-- Pairing up is a rearrangement: every declaration ends in one pair or alone. -/
theorem pairUp_perm (ds : List Declaration) :
    ds.Perm ((pairUp ds).1.flatMap (fun p => [p.1, p.2]) ++ (pairUp ds).2) := by
  induction ds using pairUp.induct with
  | case1 =>
    rw [pairUp_nil]
    exact .nil
  | case2 d rest partner others taken _ _ _ _ ih =>
    rw [pairUp_cons_some taken]
    exact ((takeMatch_eq_some taken).2.trans (ih.cons partner)).cons d
  | case3 d rest none _ _ _ ih =>
    rw [pairUp_cons_none none]
    exact (ih.cons d).trans List.perm_middle.symm

/-- Only declarations that match are paired. -/
theorem isMatch_of_mem_pairUp {ds : List Declaration} {p : Declaration × Declaration}
    (h : p ∈ (pairUp ds).1) : p.1.isMatch p.2 = true := by
  induction ds using pairUp.induct with
  | case1 =>
    rw [pairUp_nil] at h
    cases h
  | case2 d rest partner others taken _ _ _ _ ih =>
    rw [pairUp_cons_some taken] at h
    rcases List.mem_cons.mp h with rfl | later
    · exact (takeMatch_eq_some taken).1
    · exact ih later
  | case3 d rest none _ _ _ ih =>
    rw [pairUp_cons_none none] at h
    exact ih h

/-- Two declarations that match each other are paired. -/
theorem pairUp_two {a b : Declaration} (h : a.isMatch b = true) :
    pairUp [a, b] = ([(a, b)], []) := by
  rw [pairUp_cons_some (takeMatch_singleton h), pairUp_nil]

/-! ## One pair of models -/

/-- The declarations of one pair of models that need nothing but one junction: two that match each
other. -/
def Settled (ds : List Declaration) : Prop := ∃ a b, ds = [a, b] ∧ a.isMatch b = true

/-- A pair of models is planned without a problem exactly if it has no declarations or two that
match each other. -/
theorem planGroup_problems_eq_nil_iff {pair : String × String} {ds : List Declaration} :
    (planGroup pair ds).problems = [] ↔ ds = [] ∨ Settled ds := by
  have opened : (planGroup pair ds).problems = [] ↔
      (pairUp ds).2 = [] ∧ (pairUp ds).1.tail = [] := by
    unfold planGroup
    simp only [List.append_eq_nil_iff, List.map_eq_nil_iff]
  rw [opened]
  constructor
  · rintro ⟨alone, single⟩
    have perm := pairUp_perm ds
    rw [alone, List.append_nil] at perm
    cases matched : (pairUp ds).1 with
    | nil =>
      rw [matched] at perm
      exact .inl perm.eq_nil
    | cons p later =>
      obtain rfl : later = [] := by simpa only [matched, List.tail_cons] using single
      have fits := isMatch_of_mem_pairUp (matched ▸ List.mem_cons_self : p ∈ (pairUp ds).1)
      rw [matched] at perm
      rcases List.perm_pair.mp perm with same | same
      · exact .inr ⟨_, _, same, fits⟩
      · exact .inr ⟨_, _, same, p.2.isMatch_comm p.1 ▸ fits⟩
  · rintro (rfl | ⟨a, b, rfl, fits⟩)
    · rw [pairUp_nil]
      exact ⟨rfl, rfl⟩
    · rw [pairUp_two fits]
      exact ⟨rfl, rfl⟩

/-- Two declarations that match become the junction of their models. -/
theorem planGroup_junction_two {pair : String × String} {a b : Declaration}
    (h : a.isMatch b = true) : (planGroup pair [a, b]).junction = some (ofMatch pair a b) := by
  unfold planGroup
  rw [pairUp_two h]
  rfl

/-- A junction always comes from two declarations of the group that match. -/
theorem planGroup_junction_eq_some {pair : String × String} {ds : List Declaration} {j : Implicit}
    (h : (planGroup pair ds).junction = some j) :
    ∃ a ∈ ds, ∃ b ∈ ds, a.isMatch b = true ∧ j = ofMatch pair a b := by
  obtain ⟨⟨a, b⟩, first, made⟩ := Option.map_eq_some_iff.mp h
  have mem : (a, b) ∈ (pairUp ds).1 := List.mem_of_mem_head? first
  have there : ∀ d ∈ [a, b], d ∈ ds := fun d within =>
    (pairUp_perm ds).mem_iff.mpr
      (List.mem_append_left _ (List.mem_flatMap.mpr ⟨(a, b), mem, within⟩))
  exact ⟨a, there a List.mem_cons_self, b, there b (List.mem_cons_of_mem a List.mem_cons_self),
    isMatch_of_mem_pairUp mem, made.symm⟩

end SchemaCompiler.Junction
