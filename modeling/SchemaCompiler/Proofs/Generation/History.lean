import SchemaCompiler.Proofs.Generation.Result
import SchemaCompiler.Proofs.Resolver.Accepted

/-!
# Generations one after the other

One resolver serves a sequence of generations, and the plan that one of them leaves is taken by the
next one whose models have the same names, whatever their relations are. What it keeps is always the
plan of some models of these names (`honest_resolverAfter`), so a generation yields what it would
yield with a fresh resolver whenever no plan is kept under its names, or one that joins the same
pairs (`asFresh_of_pairs`).
-/

set_option autoImplicit false

namespace SchemaCompiler.Generation

open Junction (Plan)

/-- What one generation is asked for. -/
structure Request where
  now : Timestamp
  models : List Model
  baseline : Option String

namespace Request

/-- The names of the models. -/
def names (q : Request) : List String := q.models.map (·.name)

/-- The generation with a resolver that earlier ones may have used. -/
def run (o : Options) (r : Resolver) (q : Request) : Run := generate o r q.now q.models q.baseline

end Request

/-- The resolver after a sequence of generations. -/
def resolverAfter (o : Options) (history : List Request) : Resolver :=
  history.foldl (fun r q => (q.run o r).resolver) .fresh

/-- A request yields with some resolver what it yields with a fresh one. -/
def AsFresh (o : Options) (r : Resolver) (q : Request) : Prop :=
  (q.run o r).result = (q.run o .fresh).result

/-! ## What a resolver keeps -/

/-- What a resolver keeps has a property, together with the names that it is kept under. -/
def Keeps (P : List String → Plan → Prop) (r : Resolver) : Prop :=
  ∀ names plan, r.keptUnder names = some plan → P names plan

variable {P : List String → Plan → Prop} {o : Options} {r after : Resolver} {now : Timestamp}
  {models : List Model} {baseline : Option String} {q : Request}

namespace Keeps

theorem fresh : Keeps P .fresh := fun _ _ kept => (nomatch kept)

/-- What a resolver answers has what the plan of the models has. -/
theorem plan_fst (h : Keeps P r) (own : P (models.map (·.name)) (.ofModels models)) :
    P (models.map (·.name)) (r.plan models).1 := by
  rw [Resolver.plan_fst]
  cases kept : r.keptUnder (models.map (·.name)) with
  | none => exact own
  | some plan => exact h _ plan kept

theorem plan_snd (h : Keeps P r) (own : P (models.map (·.name)) (.ofModels models)) :
    Keeps P (r.plan models).2 := by
  intro names plan kept
  rw [Resolver.keptUnder_eq_some, Resolver.plan_snd] at kept
  cases kept
  exact h.plan_fst own

theorem askedAbout (h : Keeps P r) (own : P (models.map (·.name)) (.ofModels models))
    (asked : AskedAbout models r after) : Keeps P after := by
  rcases asked with rfl | rfl
  · exact h
  · exact h.plan_snd own

/-- A generation asks about the models if they are accepted, and then about all models if those of
the junctions are made. -/
theorem generate (h : Keeps P r)
    (own : Validation.Accepted models → P (models.map (·.name)) (.ofModels models))
    (beside : ∀ junctions, Validation.Accepted models →
      Resolver.junctionModels (r.plan models).1 models = .ok junctions →
      P ((models ++ junctions).map (·.name)) (.ofModels (models ++ junctions))) :
    Keeps P (generate o r now models baseline).resolver := by
  by_cases clean : Validation.Clean (Validation.validate models)
  · have accepted := Validation.accepted_of_clean clean
    obtain ⟨warnings, same⟩ := generate_resolver_of_clean o r now baseline clean
    rw [same]
    rcases generateValid_resolver r warnings with left | ⟨junctions, made, asked⟩
    · rw [left]
      exact h.plan_snd (own accepted)
    · exact (h.plan_snd (own accepted)).askedAbout (beside junctions accepted made) asked
  · rw [generate_resolver_of_not_clean r clean]
    exact h

/-- What every generation preserves holds after any sequence of them. -/
theorem resolverAfter (step : ∀ r (q : Request), Keeps P r → Keeps P (q.run o r).resolver)
    (history : List Request) : Keeps P (resolverAfter o history) := by
  induction history using List.reverseRecOn with
  | nil => exact fresh
  | append_singleton history q ih =>
    unfold Generation.resolverAfter
    rw [List.foldl_append]
    exact step _ q ih

end Keeps

/-- What a resolver keeps is the plan of some models of the names that it is kept under, and all of
them are named. -/
def Honest (r : Resolver) : Prop :=
  ∀ names plan, r.keptUnder names = some plan →
    (∃ models : List Model, models.map (·.name) = names ∧ plan = .ofModels models) ∧
      ∀ name ∈ names, name ≠ ""

/-- What an honest resolver answers is the plan of some models of these names. -/
theorem Honest.plan_fst (h : Honest r) (models : List Model) :
    ∃ others : List Model, others.map (·.name) = models.map (·.name) ∧
      (r.plan models).1 = .ofModels others := by
  have kept : Keeps (fun names plan => ∃ others : List Model,
      others.map (·.name) = names ∧ plan = .ofModels others) r :=
    fun names plan kept => (h names plan kept).1
  exact kept.plan_fst ⟨models, rfl, rfl⟩

/-- The names of synthesized models are no empty ones. -/
theorem synthesized_named {declared junctions : List Model}
    (made : Resolver.junctionModels (.ofModels declared) models = .ok junctions) :
    ∀ name ∈ junctions.map (·.name), name ≠ "" := by
  intro name mem empty
  rw [Resolver.names_of_junctionModels made] at mem
  obtain ⟨j, planned, same⟩ := List.mem_map.mp mem
  obtain ⟨_, _, _, _, _, _, _, _, _, eq⟩ := Plan.eq_between_of_mem planned
  have between : j.name = j.pair.1 ++ "To" ++ j.pair.2 := by
    rw [eq]
    rfl
  have length := congrArg String.length (between.symm.trans (same.trans empty))
  have two : "To".length = 2 := by decide
  rw [String.length_append, String.length_append, two, String.length_empty] at length
  omega

/-- A generation keeps its resolver honest. -/
theorem Honest.generate (h : Honest r) :
    Honest (generate o r now models baseline).resolver := by
  have named (accepted : Validation.Accepted models) : ∀ name ∈ models.map (·.name), name ≠ "" :=
    List.forall_mem_map.mpr accepted.named
  refine Keeps.generate h (fun accepted => ⟨⟨models, rfl, rfl⟩, named accepted⟩) ?_
  intro junctions accepted made
  obtain ⟨others, _, plan⟩ := h.plan_fst models
  rw [plan] at made
  refine ⟨⟨models ++ junctions, rfl, rfl⟩, fun name mem => ?_⟩
  rw [List.map_append] at mem
  exact (List.mem_append.mp mem).elim (named accepted name) (synthesized_named made name)

/-- After any sequence of generations the resolver is honest. -/
theorem honest_resolverAfter (o : Options) (history : List Request) :
    Honest (resolverAfter o history) :=
  Keeps.resolverAfter (fun _ _ => Honest.generate) history

/-! ## Generations that yield what they would yield alone -/

/-- A request yields what it would yield with a fresh resolver if a plan that is kept under its
names joins the pairs that its own plan joins. -/
theorem asFresh_of_pairs (h : Honest r)
    (pairs : ∀ plan, r.keptUnder q.names = some plan →
      plan.junctions.map (·.pair) = (Plan.ofModels q.models).junctions.map (·.pair)) :
    AsFresh o r q := by
  unfold AsFresh Request.run
  rw [generate_result, generate_result, Resolver.plan_of_other (Resolver.keptUnder_fresh _)]
  cases Validation.validate q.models with
  | error b => rfl
  | ok report =>
    simp only
    split
    · rw [Resolver.plan_fst]
      cases kept : r.keptUnder (q.models.map (·.name)) with
      | none => rfl
      | some plan =>
        obtain ⟨others, _, rfl⟩ := (h _ plan kept).1
        exact resultUnder_congr (pairs _ kept)
    · rfl

/-- A generation that passes validation and synthesizes no model leaves the plan it went by. -/
theorem keptUnder_generate (clean : Validation.Clean (Validation.validate models))
    (none : (r.plan models).1.junctions = []) :
    (generate o r now models baseline).resolver.keptUnder (models.map (·.name)) =
      some (r.plan models).1 := by
  obtain ⟨warnings, same⟩ := generate_resolver_of_clean o r now baseline clean
  have made : Resolver.junctionModels (r.plan models).1 models = .ok [] := by
    unfold Resolver.junctionModels
    rw [none]
    rfl
  rw [same, Resolver.keptUnder_eq_some]
  rcases generateValid_resolver r warnings with left | ⟨junctions, made', asked⟩
  · rw [left, Resolver.plan_snd]
  · rw [made] at made'
    cases made'
    rw [List.append_nil] at asked
    rcases asked with left | left
    · rw [left, Resolver.plan_snd]
    · rw [left, Resolver.plan_snd, r.plan_again rfl]

end SchemaCompiler.Generation
