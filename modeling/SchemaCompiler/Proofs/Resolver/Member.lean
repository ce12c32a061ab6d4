import SchemaCompiler.Proofs.Resolver.ForeignKey
import SchemaCompiler.Resolver.Member

/-!
# Members that can be made

The relation members of a model are made whenever each of its relations can be placed
(`exists_members`): its target and its explicit junction are registered, a `belongsTo` relation has
a key to reference and a label to carry, and an implicit many-to-many relation has a side of a
junction.
-/

set_option autoImplicit false

namespace SchemaCompiler.Resolver

open Junction (Plan)

/-- Everything that the member of a relation is made from is there. -/
structure Placeable (plan : Plan) (m : Model) (models : List Model) (r : Relation) : Prop where
  target : ∃ target, Model.find? models r.target = some target
  referable : r.isBelongsTo = true → Referable m models r
  label : r.isBelongsTo = true → ∃ label, ownerLabel plan m r r.expectedForeignKey = .ok label
  through : ∀ t, r.through = some t → ∃ junction, Model.find? models t.model = some junction
  side : r.isManyToMany = true → r.through = none → ∃ s, plan.side? m.name r.name = some s

variable {plan : Plan} {m : Model} {models : List Model} {r : Relation} {keys : List ForeignKey}

/-- The member of a `belongsTo` relation is made if its foreign key is among those of the model. -/
theorem exists_belongsToMember (target : Model)
    (made : ∃ key ∈ keys, key.field.name = r.expectedForeignKey)
    (label : ∃ label, ownerLabel plan m r r.expectedForeignKey = .ok label) :
    ∃ column, belongsToMember plan m r target keys = .ok column := by
  obtain ⟨label, labelled⟩ := label
  obtain ⟨key, mem, name⟩ := made
  obtain ⟨ref, _, same, found⟩ := exists_find?_of_mem (·.field.name == r.expectedForeignKey)
    (List.mem_reverse.mpr mem) (beq_iff_eq.mpr name)
  unfold belongsToMember
  simp only [found, eq_of_beq same, labelled]
  exact ⟨_, rfl⟩

/-- The member of a many-to-many relation is made if its junction is there. -/
theorem exists_manyToManyMember (placeable : Placeable plan m models r)
    (many : r.isManyToMany = true) :
    ∃ column, manyToManyMember plan m r models = .ok column := by
  unfold manyToManyMember
  cases declared : r.through with
  | some t =>
    obtain ⟨junction, found⟩ := placeable.through t declared
    simp only [found]
    exact ⟨_, rfl⟩
  | none =>
    obtain ⟨s, found⟩ := placeable.side many declared
    simp only [found]
    exact ⟨_, rfl⟩

/-- The member of a relation that can be placed is made. -/
theorem exists_member (placeable : Placeable plan m models r)
    (made : r.isBelongsTo = true → ∃ key ∈ keys, key.field.name = r.expectedForeignKey) :
    ∃ column, member plan m models keys r = .ok column := by
  obtain ⟨target, found⟩ := placeable.target
  unfold member
  simp only [found]
  cases kind : r.kind with
  | none => exact ⟨_, rfl⟩
  | some kind' =>
    cases kind' with
    | belongsTo =>
      have belongs : r.isBelongsTo = true := beq_iff_eq.mpr kind
      obtain ⟨column, done⟩ :=
        exists_belongsToMember target (made belongs) (placeable.label belongs)
      simp only [done]
      exact ⟨_, rfl⟩
    | hasOne => exact ⟨_, rfl⟩
    | hasMany => exact ⟨_, rfl⟩
    | manyToMany =>
      obtain ⟨column, done⟩ := exists_manyToManyMember placeable (beq_iff_eq.mpr kind)
      simp only [done]
      exact ⟨_, rfl⟩

/-- A model whose relations can be placed has its foreign keys and its members. -/
theorem exists_members (h : ∀ r ∈ m.relations, Placeable plan m models r) :
    (∃ keys, foreignKeys m models = .ok keys) ∧ ∃ columns, members plan m models = .ok columns := by
  obtain ⟨keys, done, made⟩ := exists_foreignKeys fun r mem => (h r mem).referable
  obtain ⟨found, all⟩ : ∃ found, m.relations.mapM (member plan m models keys) = .ok found :=
    Outcome.exists_mapM_ok fun r mem => exists_member (h r mem) (made r mem)
  refine ⟨⟨keys, done⟩, found.filterMap id, ?_⟩
  unfold members
  rw [done, Outcome.ok_bind, all, Outcome.ok_bind]
  rfl

end SchemaCompiler.Resolver
