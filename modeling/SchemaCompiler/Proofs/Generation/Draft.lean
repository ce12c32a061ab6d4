import SchemaCompiler.Generation.Draft
import SchemaCompiler.Proofs.Outcome
import SchemaCompiler.Proofs.Resolver.Plan

/-!
# Drafts under a plan

Drafting asks the resolver for the plan of all models whenever it comes to a block, and gets the
same plan each time. A draft is therefore the one that the first answer determines
(`Draft.make_fst`), and nothing of the plan but its junctions matters (`Draft.under_congr`).
-/

set_option autoImplicit false

namespace SchemaCompiler.Generation

/-- A resolver that was asked about some models or was not asked anything. -/
def AskedAbout (models : List Model) (r after : Resolver) : Prop :=
  after = r ∨ after = (r.plan models).2

namespace AskedAbout

variable {models : List Model} {r after last : Resolver}

theorem refl (models : List Model) (r : Resolver) : AskedAbout models r r := .inl rfl

/-- Asking does not change the answer. -/
theorem plan_eq (h : AskedAbout models r after) : (after.plan models).1 = (r.plan models).1 := by
  rcases h with rfl | rfl
  · rfl
  · exact r.plan_again rfl

theorem trans (first : AskedAbout models r after) (second : AskedAbout models after last) :
    AskedAbout models r last := by
  rcases second with rfl | rfl
  · exact first
  · rcases first with rfl | rfl
    · exact .inr rfl
    · refine .inr ?_
      rw [Resolver.plan_snd (r.plan models).2, r.plan_again rfl, ← Resolver.plan_snd]

end AskedAbout

variable {o : Options} {f : Formatter} {models : List Model}

/-- The block of a model has its name, the columns made with its foreign keys, and its members. -/
theorem blockUnder_ok {plan : Junction.Plan} {m : Model} {b : ModelBlock}
    (h : blockUnder o f plan m models = .ok b) :
    b.name = m.name ∧
      (∃ keys, Resolver.foreignKeys m models = .ok keys ∧ columns o m keys = .ok b.columns) ∧
      Resolver.members plan m models = .ok b.relations := by
  obtain ⟨keys, made, rest⟩ := Outcome.bind_ok_iff.mp h
  obtain ⟨columns, mapped, rest⟩ := Outcome.bind_ok_iff.mp rest
  obtain ⟨relations, members, rest⟩ := Outcome.bind_ok_iff.mp rest
  obtain ⟨indexes, _, done⟩ := Outcome.bind_ok_iff.mp rest
  cases done
  exact ⟨rfl, ⟨keys, made, mapped⟩, members⟩

/-- The block of a model has its table, its composite key and its description. -/
theorem blockUnder_frame {plan : Junction.Plan} {m : Model} {b : ModelBlock}
    (h : blockUnder o f plan m models = .ok b) :
    b.table = some m.table ∧ b.compositeKey = m.compositeKey.getD [] ∧
      b.description = m.description.getD "" := by
  obtain ⟨_, _, rest⟩ := Outcome.bind_ok_iff.mp h
  obtain ⟨_, _, rest⟩ := Outcome.bind_ok_iff.mp rest
  obtain ⟨_, _, rest⟩ := Outcome.bind_ok_iff.mp rest
  obtain ⟨_, _, done⟩ := Outcome.bind_ok_iff.mp rest
  cases done
  exact ⟨rfl, rfl, rfl⟩

/-- A block is the one under the plan that the resolver answers with. -/
theorem block_fst (r : Resolver) (m : Model) :
    (block o f r m models).1 = blockUnder o f (r.plan models).1 m models := by
  unfold block blockUnder
  cases Resolver.foreignKeys m models with
  | error e => rfl
  | ok keys =>
    simp only [Outcome.ok_bind]
    cases columns o m keys <;> rfl

theorem block_snd (r : Resolver) (m : Model) :
    AskedAbout models r (block o f r m models).2 := by
  unfold block
  simp only
  split
  · exact .inl rfl
  · exact .inr rfl

/-- The attempts at some models are those under one plan. -/
theorem attemptAll_eq (r : Resolver) (members : List Model) :
    (attemptAll o f models r members).1 =
        members.map (fun m => ⟨m, blockUnder o f (r.plan models).1 m models⟩) ∧
      AskedAbout models r (attemptAll o f models r members).2 := by
  induction members generalizing r with
  | nil => exact ⟨rfl, .refl models r⟩
  | cons m rest ih =>
    have asked : AskedAbout models r (block o f r m models).2 := block_snd r m
    obtain ⟨later, after⟩ := ih (block o f r m models).2
    rw [asked.plan_eq] at later
    refine ⟨?_, asked.trans after⟩
    rw [List.map_cons, ← later, ← block_fst]
    rfl

/-- The attempts at the models of some modules are those under one plan. -/
theorem attemptGroups_eq (r : Resolver) (groups : List (String × List Model)) :
    (attemptGroups o f models r groups).1 =
        groups.map (fun (module, members) =>
          ⟨module, members.map fun m => ⟨m, blockUnder o f (r.plan models).1 m models⟩⟩) ∧
      AskedAbout models r (attemptGroups o f models r groups).2 := by
  induction groups generalizing r with
  | nil => exact ⟨rfl, .refl models r⟩
  | cons group rest ih =>
    obtain ⟨module, members⟩ := group
    obtain ⟨first, asked⟩ : _ ∧ AskedAbout models r (attemptAll o f models r members).2 :=
      attemptAll_eq r members
    obtain ⟨later, after⟩ := ih (attemptAll o f models r members).2
    rw [asked.plan_eq] at later
    refine ⟨?_, asked.trans after⟩
    rw [List.map_cons, ← later]
    simp only [← first]
    rfl

namespace Draft

/-- The draft of declared and synthesized models under a plan. -/
def under (o : Options) (plan : Junction.Plan) (models junctions : List Model) : Draft :=
  let grouped := groupAll models junctions
  let formatter := Formatter.make o.outputFormat o.dialect (grouped.any fun g => g.1 != coreModule)
  { models, junctions, formatter
    groups := grouped.map fun (module, members) =>
      ⟨module, members.map fun m =>
        ⟨m, blockUnder o formatter plan m (models ++ junctions)⟩⟩ }

variable {junctions : List Model}

/-- A draft is the one under the plan that the resolver answers with. -/
theorem make_fst (r : Resolver) :
    (make o r models junctions).1 = under o (r.plan (models ++ junctions)).1 models junctions := by
  unfold make under
  simp only [(attemptGroups_eq _ _).1]

theorem make_snd (r : Resolver) :
    AskedAbout (models ++ junctions) r (make o r models junctions).2 :=
  (attemptGroups_eq _ _).2

/-- Of the plan only the junctions matter. -/
theorem under_congr {plan other : Junction.Plan} (h : plan.junctions = other.junctions) :
    under o plan models junctions = under o other models junctions := by
  have alone (p : Junction.Plan) :
      under o p models junctions = under o ⟨p.junctions, []⟩ models junctions := rfl
  rw [alone plan, alone other, h]

end Draft

end SchemaCompiler.Generation
