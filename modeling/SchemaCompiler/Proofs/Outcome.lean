import Mathlib.Data.List.Forall2

/-!
# Computations that may fail

When a sequence of computations comes to an end, each of its steps did (`bind_ok_iff`). Passing a
function over a list yields the results of the items, one for each (`mapM_ok_iff`), comes to an end
when it does at every item (`exists_mapM_ok`), and fails as the first item does that has no result
(`mapM_error_iff`). Items in another order have their results in another order (`mapM_perm`).

Where there is only one way to fail, a computation is described by the condition under which it
comes to an end (`EndsIf`), and a sequence of such computations by all their conditions.
-/

set_option autoImplicit false

namespace SchemaCompiler.Outcome

variable {ε α β : Type}

theorem bind_ok_iff {x : Except ε α} {f : α → Except ε β} {b : β} :
    (x >>= f) = .ok b ↔ ∃ a, x = .ok a ∧ f a = .ok b := by
  cases x with
  | error e => exact ⟨fun h => (nomatch h), fun ⟨_, h, _⟩ => (nomatch h)⟩
  | ok a => exact ⟨fun h => ⟨a, rfl, h⟩, fun ⟨_, same, h⟩ => Except.ok.inj same ▸ h⟩

/-- What follows either of two computations follows the one that is chosen. -/
theorem ite_bind {c : Prop} [Decidable c] (x y : Except ε α) (f : α → Except ε β) :
    (if c then x else y) >>= f = if c then x >>= f else y >>= f := by
  split <;> rfl

theorem map_ok_iff {x : Except ε α} {f : α → β} {b : β} :
    x.map f = .ok b ↔ ∃ a, x = .ok a ∧ f a = b := by
  cases x with
  | error e => exact ⟨fun h => (nomatch h), fun ⟨_, h, _⟩ => (nomatch h)⟩
  | ok a =>
    refine ⟨fun h => ⟨a, rfl, Except.ok.inj h⟩, fun ⟨_, same, h⟩ => ?_⟩
    cases same
    exact congrArg _ h

theorem mapError_ok_iff {ε' : Type} {x : Except ε α} {f : ε → ε'} {a : α} :
    x.mapError f = .ok a ↔ x = .ok a := by
  cases x with
  | error e => exact ⟨fun h => (nomatch h), fun h => (nomatch h)⟩
  | ok b => exact ⟨fun h => congrArg _ (Except.ok.inj h), fun h => congrArg _ (Except.ok.inj h)⟩

theorem bind_error_iff {x : Except ε α} {f : α → Except ε β} {e : ε} :
    (x >>= f) = .error e ↔ x = .error e ∨ ∃ a, x = .ok a ∧ f a = .error e := by
  cases x with
  | error e' => exact ⟨fun h => .inl (congrArg _ (Except.error.inj h)), fun h => h.elim
      (fun same => congrArg _ (Except.error.inj same)) fun ⟨_, other, _⟩ => (nomatch other)⟩
  | ok a => exact ⟨fun h => .inr ⟨a, rfl, h⟩, fun h => h.elim
      (fun other => (nomatch other)) fun ⟨_, same, h⟩ => Except.ok.inj same ▸ h⟩

theorem ok_bind (a : α) (f : α → Except ε β) : ((.ok a : Except ε α) >>= f) = f a := rfl

/-- Passing over a list yields the results of its items, one for each. -/
theorem mapM_ok_iff {f : α → Except ε β} {as : List α} {bs : List β} :
    as.mapM f = .ok bs ↔ List.Forall₂ (fun a b => f a = .ok b) as bs := by
  induction as generalizing bs with
  | nil =>
    rw [List.mapM_nil, List.forall₂_nil_left_iff]
    exact ⟨fun h => (Except.ok.inj h).symm, fun h => h ▸ rfl⟩
  | cons a as ih =>
    rw [List.mapM_cons, bind_ok_iff]
    constructor
    · rintro ⟨b, here, rest⟩
      obtain ⟨later, there, done⟩ := bind_ok_iff.mp rest
      cases done
      exact .cons here (ih.mp there)
    · rintro (_ | ⟨here, there⟩)
      exact ⟨_, here, bind_ok_iff.mpr ⟨_, ih.mpr there, rfl⟩⟩

/-- Passing over a list comes to an end if it does at every item. -/
theorem exists_mapM_ok {f : α → Except ε β} {as : List α} (h : ∀ a ∈ as, ∃ b, f a = .ok b) :
    ∃ bs, as.mapM f = .ok bs := by
  induction as with
  | nil => exact ⟨[], rfl⟩
  | cons a as ih =>
    obtain ⟨b, here⟩ := h a List.mem_cons_self
    obtain ⟨bs, there⟩ := ih fun x mem => h x (List.mem_cons_of_mem a mem)
    exact ⟨b :: bs, mapM_ok_iff.mpr (.cons here (mapM_ok_iff.mp there))⟩

/-- Passing over a list fails as its first item does that has no result. -/
theorem mapM_error_iff {f : α → Except ε β} {as : List α} {e : ε} :
    as.mapM f = .error e ↔ ∃ before a after, as = before ++ a :: after ∧
      (∀ x ∈ before, ∃ b, f x = .ok b) ∧ f a = .error e := by
  induction as with
  | nil =>
    refine iff_of_false (fun h => (nomatch h)) ?_
    rintro ⟨before, _, _, split, _⟩
    cases before <;> cases split
  | cons a as ih =>
    rw [List.mapM_cons, bind_error_iff]
    constructor
    · rintro (here | ⟨b, here, rest⟩)
      · exact ⟨[], a, as, rfl, fun _ mem => (nomatch mem), here⟩
      · rcases bind_error_iff.mp rest with there | ⟨_, _, done⟩
        · obtain ⟨before, a', after, rfl, made, failed⟩ := ih.mp there
          exact ⟨a :: before, a', after, rfl, List.forall_mem_cons.mpr ⟨⟨b, here⟩, made⟩, failed⟩
        · cases done
    · rintro ⟨before, a', after, split, made, failed⟩
      cases before with
      | nil =>
        cases split
        exact .inl failed
      | cons x before =>
        cases split
        obtain ⟨⟨b, here⟩, made⟩ := List.forall_mem_cons.mp made
        have there := ih.mpr ⟨before, a', after, rfl, made, failed⟩
        exact .inr ⟨b, here, bind_error_iff.mpr (.inl there)⟩

theorem mapM_congr {f g : α → Except ε β} {as : List α} (h : ∀ a ∈ as, f a = g a) :
    as.mapM f = as.mapM g := by
  induction as with
  | nil => rfl
  | cons a as ih =>
    rw [List.mapM_cons, List.mapM_cons, h a List.mem_cons_self,
      ih fun x mem => h x (List.mem_cons_of_mem a mem)]

/-- The results of a list come in the order of its items. -/
theorem mapM_perm {f : α → Except ε β} {as as' : List α} {bs : List β} (perm : as.Perm as')
    (h : as.mapM f = .ok bs) : ∃ bs', as'.mapM f = .ok bs' ∧ bs.Perm bs' := by
  induction perm generalizing bs with
  | nil => exact ⟨bs, h, .refl bs⟩
  | cons a _ ih =>
    obtain ⟨b, here, rest⟩ := bind_ok_iff.mp ((List.mapM_cons ..).symm.trans h)
    obtain ⟨later, there, done⟩ := bind_ok_iff.mp rest
    cases done
    obtain ⟨later', there', same⟩ := ih there
    exact ⟨b :: later', mapM_ok_iff.mpr (.cons here (mapM_ok_iff.mp there')), same.cons b⟩
  | swap a a' rest =>
    cases mapM_ok_iff.mp h with
    | cons first later =>
      cases later with
      | cons second others =>
        exact ⟨_, mapM_ok_iff.mpr (.cons second (.cons first others)), .swap _ _ _⟩
  | trans _ _ ihFirst ihSecond =>
    obtain ⟨between, there, same⟩ := ihFirst h
    obtain ⟨last, there', same'⟩ := ihSecond there
    exact ⟨last, there', same.trans same'⟩

/-- Every item has a result. -/
theorem exists_of_mem_left {f : α → Except ε β} {as : List α} {bs : List β}
    (h : as.mapM f = .ok bs) {a : α} (mem : a ∈ as) : ∃ b ∈ bs, f a = .ok b := by
  have paired := mapM_ok_iff.mp h
  clear h
  induction paired with
  | nil => cases mem
  | @cons _ b _ bs here _ ih =>
    rcases List.mem_cons.mp mem with rfl | later
    · exact ⟨b, List.mem_cons_self, here⟩
    · obtain ⟨b', within, made⟩ := ih later
      exact ⟨b', List.mem_cons_of_mem b within, made⟩

/-- Every result stems from an item. -/
theorem exists_of_mem_right {f : α → Except ε β} {as : List α} {bs : List β}
    (h : as.mapM f = .ok bs) {b : β} (mem : b ∈ bs) : ∃ a ∈ as, f a = .ok b := by
  have paired := mapM_ok_iff.mp h
  clear h
  induction paired with
  | nil => cases mem
  | @cons a _ as _ here _ ih =>
    rcases List.mem_cons.mp mem with rfl | later
    · exact ⟨a, List.mem_cons_self, here⟩
    · obtain ⟨a', within, made⟩ := ih later
      exact ⟨a', List.mem_cons_of_mem a within, made⟩

/-- What is known of a result from its item is known of all results. -/
theorem map_eq_of_mapM {γ : Type} {f : α → Except ε β} {as : List α} {bs : List β} {g : α → γ}
    {g' : β → γ} (h : as.mapM f = .ok bs) (known : ∀ a b, f a = .ok b → g' b = g a) :
    bs.map g' = as.map g := by
  have paired := mapM_ok_iff.mp h
  clear h
  induction paired with
  | nil => rfl
  | cons here _ ih => rw [List.map_cons, List.map_cons, ih, known _ _ here]

/-- Where one item alone has a result of some kind, its result is the only one of that kind. -/
theorem filter_mapM_eq_singleton {f : α → Except ε β} {as : List α} {bs : List β}
    (h : as.mapM f = .ok bs) (distinct : as.Nodup) {a : α} (mem : a ∈ as) {b : β}
    (here : f a = .ok b) {p : β → Bool}
    (only : ∀ x ∈ as, ∀ y, f x = .ok y → (p y = true ↔ x = a)) : bs.filter p = [b] := by
  have paired := mapM_ok_iff.mp h
  clear h
  induction paired with
  | nil => cases mem
  | @cons x y as bs done _ ih =>
    obtain ⟨new, distinct⟩ := List.nodup_cons.mp distinct
    have only' : ∀ x' ∈ as, ∀ y, f x' = .ok y → (p y = true ↔ x' = a) :=
      fun x' later => only x' (List.mem_cons_of_mem x later)
    have kind := only x List.mem_cons_self y done
    by_cases same : x = a
    · subst same
      cases here.symm.trans done
      rw [List.filter_cons_of_pos (kind.mpr rfl)]
      congr 1
      apply List.filter_eq_nil_iff.mpr
      intro y' result taken
      obtain ⟨x', item, made⟩ := exists_of_mem_right (mapM_ok_iff.mpr ‹_›) result
      exact new ((only' x' item y' made).mp taken ▸ item)
    · have later : a ∈ as := (List.mem_cons.mp mem).resolve_left (Ne.symm same)
      rw [List.filter_cons_of_neg (fun taken => same (kind.mp taken))]
      exact ih distinct later only'

/-! ## One way to fail -/

/-- A computation comes to an end if a condition holds, and fails in a known way if it does not. -/
structure EndsIf (x : Except ε α) (e : ε) (condition : Prop) : Prop where
  ends : condition → ∃ a, x = .ok a
  fails : ¬ condition → x = .error e

namespace EndsIf

variable {x : Except ε α} {e : ε} {p q : Prop}

theorem of_ok {a : α} (done : x = .ok a) (holds : p) : EndsIf x e p :=
  ⟨fun _ => ⟨a, done⟩, fun fails => absurd holds fails⟩

theorem congr (h : EndsIf x e p) (same : p ↔ q) : EndsIf x e q :=
  ⟨fun holds => h.ends (same.mpr holds), fun fails => h.fails fun holds => fails (same.mp holds)⟩

theorem ok_iff (h : EndsIf x e p) : (∃ a, x = .ok a) ↔ p := by
  refine ⟨fun ⟨a, done⟩ => ?_, h.ends⟩
  by_contra fails
  cases done.symm.trans (h.fails fails)

/-- There is no other way to fail. -/
theorem error {e' : ε} (h : EndsIf x e p) (failed : x = .error e') : e' = e := by
  by_cases holds : p
  · obtain ⟨_, done⟩ := h.ends holds
    cases done.symm.trans failed
  · exact Except.error.inj (failed.symm.trans (h.fails holds))

theorem bind {f : α → Except ε β} (first : EndsIf x e p)
    (rest : ∀ a, x = .ok a → EndsIf (f a) e q) : EndsIf (x >>= f) e (p ∧ q) := by
  by_cases holds : p
  · obtain ⟨a, done⟩ := first.ends holds
    rw [done, ok_bind]
    exact (rest a done).congr (and_iff_right holds).symm
  · refine ⟨fun both => absurd both.1 holds, fun _ => ?_⟩
    rw [first.fails holds]
    rfl

theorem map (h : EndsIf x e p) (f : α → β) : EndsIf (x.map f) e p where
  ends holds := by
    obtain ⟨a, done⟩ := h.ends holds
    exact ⟨f a, congrArg (Except.map f) done⟩
  fails fails := congrArg (Except.map f) (h.fails fails)

theorem mapError {ε' : Type} (h : EndsIf x e p) (f : ε → ε') : EndsIf (x.mapError f) (f e) p where
  ends holds := by
    obtain ⟨a, done⟩ := h.ends holds
    exact ⟨a, congrArg (Except.mapError f) done⟩
  fails fails := congrArg (Except.mapError f) (h.fails fails)

/-- Passing over a list comes to an end if it does at every item. -/
theorem mapM {f : α → Except ε β} {as : List α} {p : α → Prop}
    (each : ∀ a ∈ as, EndsIf (f a) e (p a)) : EndsIf (as.mapM f) e (∀ a ∈ as, p a) := by
  induction as with
  | nil => exact of_ok rfl (List.forall_mem_nil _)
  | cons a as ih =>
    obtain ⟨here, there⟩ := List.forall_mem_cons.mp each
    rw [List.mapM_cons]
    refine (here.bind fun b _ => (ih there).bind fun bs _ => of_ok rfl trivial).congr ?_
    rw [and_true, List.forall_mem_cons]

end EndsIf

end SchemaCompiler.Outcome
