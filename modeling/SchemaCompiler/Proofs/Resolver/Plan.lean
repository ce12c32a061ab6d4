import SchemaCompiler.Resolver.Basic

/-!
# The plan that a resolver keeps

Asked for the plan of some models, a resolver answers with the plan it keeps under their names, if
there is one, and makes their plan otherwise (`plan_fst`). It keeps what it answered (`plan_snd`).
-/

set_option autoImplicit false

namespace SchemaCompiler.Resolver

open Junction (Plan)

/-- The plan that is kept under a list of names. -/
def keptUnder (r : Resolver) (names : List String) : Option Plan :=
  r.kept.bind fun (kept, plan) => if kept == names then some plan else none

theorem keptUnder_fresh (names : List String) : fresh.keptUnder names = none := rfl

theorem keptUnder_eq_some {r : Resolver} {names : List String} {plan : Plan} :
    r.keptUnder names = some plan ↔ r.kept = some (names, plan) := by
  obtain ⟨kept⟩ := r
  cases kept with
  | none => exact ⟨fun h => (nomatch h), fun h => (nomatch h)⟩
  | some last =>
    obtain ⟨before, made⟩ := last
    unfold keptUnder
    simp only [Option.bind_some, beq_iff_eq, Option.ite_none_right_eq_some, Option.some.injEq,
      Prod.mk.injEq]

/-- The answer is what is kept under the names, or the plan of the models. -/
theorem plan_fst (r : Resolver) (models : List Model) :
    (r.plan models).1 = (r.keptUnder (models.map (·.name))).getD (Plan.ofModels models) := by
  obtain ⟨kept⟩ := r
  unfold plan keptUnder
  cases kept with
  | none => rfl
  | some last =>
    simp only [Option.bind_some]
    split <;> rfl

/-- What was answered is kept. -/
theorem plan_snd (r : Resolver) (models : List Model) :
    (r.plan models).2 = ⟨some (models.map (·.name), (r.plan models).1)⟩ := by
  obtain ⟨kept⟩ := r
  unfold plan
  cases kept with
  | none => rfl
  | some last =>
    simp only
    split
    · next same => rw [← eq_of_beq same]
    · rfl

/-- Asked for other names, a resolver makes the plan. -/
theorem plan_of_other {r : Resolver} {models : List Model}
    (h : r.keptUnder (models.map (·.name)) = none) : (r.plan models).1 = Plan.ofModels models := by
  rw [plan_fst, h, Option.getD_none]

/-- Asked for the same names again, a resolver answers the same. -/
theorem plan_again (r : Resolver) {models others : List Model}
    (names : others.map (·.name) = models.map (·.name)) :
    ((r.plan models).2.plan others).1 = (r.plan models).1 := by
  have kept : (r.plan models).2.keptUnder (others.map (·.name)) = some (r.plan models).1 :=
    keptUnder_eq_some.mpr (by rw [plan_snd, names])
  rw [plan_fst, kept, Option.getD_some]

end SchemaCompiler.Resolver
