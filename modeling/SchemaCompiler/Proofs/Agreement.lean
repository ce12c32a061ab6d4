import SchemaCompiler.Proofs.Outcome

/-!
# Computations that agree

Two computations agree when both come to results that are related, or neither comes to one. A
failure that is excused may stand alone. Computations that agree may be continued by others that do
(`Agree.bind`), and passing over a list agrees where it does at each item (`Agree.mapM`).
-/

set_option autoImplicit false

namespace SchemaCompiler

/-- Both are results that are related, or both are failures, or the only failure is excused. -/
inductive Agree {ε α β : Type} (excused : ε → Prop) (related : α → β → Prop) :
    Except ε α → Except ε β → Prop
  | ok {a : α} {b : β} (same : related a b) : Agree excused related (.ok a) (.ok b)
  | error (e e' : ε) : Agree excused related (.error e) (.error e')
  | left {e : ε} (alone : excused e) (b : β) : Agree excused related (.error e) (.ok b)
  | right (a : α) {e : ε} (alone : excused e) : Agree excused related (.ok a) (.error e)

namespace Agree

variable {ε α β γ δ : Type} {excused : ε → Prop} {related : α → β → Prop} {onwards : γ → δ → Prop}
  {x : Except ε α} {y : Except ε β}

theorem refl (z : Except ε γ) : Agree excused Eq z z := by
  cases z with
  | error e => exact .error e e
  | ok a => exact .ok rfl

/-- What follows computations that agree agrees if it does for related results. -/
theorem bind {f : α → Except ε γ} {g : β → Except ε δ} (first : Agree excused related x y)
    (next : ∀ a b, related a b → Agree excused onwards (f a) (g b)) :
    Agree excused onwards (x >>= f) (y >>= g) := by
  cases first with
  | ok same => exact next _ _ same
  | error e e' => exact .error e e'
  | left alone b =>
    show Agree excused onwards (.error _) (g b)
    cases g b with
    | error e' => exact .error _ e'
    | ok d => exact .left alone d
  | right a alone =>
    show Agree excused onwards (f a) (.error _)
    cases f a with
    | error e' => exact .error e' _
    | ok c => exact .right c alone

/-- Passing over a list agrees in the results' images where it does at each item. -/
theorem mapM {image : β → δ} {f g : α → Except ε β} {as : List α}
    (each : ∀ a ∈ as, Agree excused (fun b b' => image b = image b') (f a) (g a)) :
    Agree excused (fun bs bs' => bs.map image = bs'.map image) (as.mapM f) (as.mapM g) := by
  induction as with
  | nil => exact .ok rfl
  | cons a as ih =>
    rw [List.mapM_cons, List.mapM_cons]
    refine (each a List.mem_cons_self).bind fun b b' here => ?_
    refine (ih fun x mem => each x (List.mem_cons_of_mem a mem)).bind fun bs bs' later => ?_
    apply Agree.ok
    rw [List.map_cons, List.map_cons, here, later]

theorem mono {weaker : α → β → Prop} (h : Agree excused related x y)
    (imp : ∀ a b, related a b → weaker a b) : Agree excused weaker x y := by
  cases h with
  | ok same => exact .ok (imp _ _ same)
  | error e e' => exact .error e e'
  | left alone b => exact .left alone b
  | right a alone => exact .right a alone

end Agree

end SchemaCompiler
