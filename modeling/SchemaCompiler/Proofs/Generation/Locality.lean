import SchemaCompiler.Proofs.Generation.Contribution
import SchemaCompiler.Proofs.Junction.Order
import SchemaCompiler.Proofs.Resolver.Label

/-!
# Blocks are local

The block of a model draws on other models for its foreign keys, for the relations that point back
at it, for explicit junctions, and for the junctions of the plan. Of a model that it mentions it
sees the name, the relations and the key to reference, and of all others nothing: even the side of a
junction that a relation uses can be told from the declaring model alone (`Plan.side?_congr`). So
two lists of models that agree on what a model mentions yield the same block of it, whatever else
they hold and in whatever order (`block_local`).
-/

set_option autoImplicit false

namespace SchemaCompiler

/-- Two models that the blocks of others cannot tell apart: they have one name, the same relations
and the same key to reference. -/
structure Model.Alike (t t' : Model) : Prop where
  name : t.name = t'.name
  relations : t.relations = t'.relations
  key : t.referenceKey = t'.referenceKey

/-! ## The side that a relation uses -/

namespace Junction

variable {models others : List Model} {m : Model} {r : Relation} {pair : String × String}

/-- Concatenating over a list where only one entry contributes. -/
theorem flatMap_eq_of_mem {α β : Type} {f : α → List β} {as : List α} {a : α} (mem : a ∈ as)
    (distinct : as.Nodup) (rest : ∀ b ∈ as, b ≠ a → f b = []) : as.flatMap f = f a := by
  induction as with
  | nil => cases mem
  | cons x xs ih =>
    obtain ⟨new, distinct⟩ := List.nodup_cons.mp distinct
    rw [List.flatMap_cons]
    by_cases first : x = a
    · have nothing : xs.flatMap f = [] := by
        apply List.flatMap_eq_nil_iff.mpr
        intro b there
        apply rest b (List.mem_cons_of_mem x there)
        rintro rfl
        exact new (first ▸ there)
      rw [nothing, first, List.append_nil]
    · have later : a ∈ xs := (List.mem_cons.mp mem).resolve_left (Ne.symm first)
      rw [rest x List.mem_cons_self first, List.nil_append]
      exact ih later distinct fun b there => rest b (List.mem_cons_of_mem x there)

/-- A declaration joins a model with itself exactly if the model declares it and is its target. -/
theorem canonicalPair_eq_self_iff {a b name : String} :
    canonicalPair a b = (name, name) ↔ a = name ∧ b = name := by
  constructor
  · intro canonical
    rcases canonicalPair_eq_or a b with same | same
    · cases same.symm.trans canonical
      exact ⟨rfl, rfl⟩
    · cases same.symm.trans canonical
      exact ⟨rfl, rfl⟩
  · rintro ⟨rfl, rfl⟩
    exact canonicalPair_of_le (String.le_refl _)

/-- The relations that join a model with itself, as its declarations. -/
def selfDeclarations (m : Model) : List Declaration :=
  (m.relations.filter fun r => r.isManyToMany && r.through.isNone && r.target == m.name).map
    fun r => ⟨m.name, r⟩

theorem filter_ownDeclarations_self (mem : m ∈ models) :
    (ownDeclarations models m).filter (·.pair == (m.name, m.name)) = selfDeclarations m := by
  unfold ownDeclarations selfDeclarations
  rw [List.filter_map, List.filter_filter]
  congr 1
  apply List.filter_congr
  intro r _
  have registered : models.any (·.name == m.name) = true :=
    List.any_eq_true.mpr ⟨m, mem, beq_self_eq_true m.name⟩
  have joined : ((⟨m.name, r⟩ : Declaration).pair == (m.name, m.name)) = (r.target == m.name) := by
    rw [Bool.eq_iff_iff, beq_iff_eq, beq_iff_eq]
    exact canonicalPair_eq_self_iff.trans (and_iff_right rfl)
  rw [Function.comp_apply, joined]
  cases target : r.target == m.name with
  | false => simp only [Bool.false_and, Bool.and_false]
  | true => rw [eq_of_beq target, registered, Bool.true_and]

/-- The declarations that join a model with itself are its own, in its order. -/
theorem groupOf_self (names : (models.map (·.name)).Nodup) (mem : m ∈ models) :
    groupOf models (m.name, m.name) = selfDeclarations m := by
  unfold groupOf
  rw [declarations_eq_flatMap, List.filter_flatMap, flatMap_eq_of_mem mem names.of_map,
    filter_ownDeclarations_self mem]
  intro other there differs
  apply List.filter_eq_nil_iff.mpr
  intro d own joined
  obtain ⟨r, _, rfl⟩ := List.mem_map.mp own
  have same : other.name = m.name := (canonicalPair_eq_self_iff.mp (eq_of_beq joined)).1
  exact differs (List.inj_on_of_nodup_map names there mem same)

namespace Plan

/-- The junction of a pair is the one that the declarations of the pair make. -/
theorem planGroup_of_mem {j : Implicit} (planned : j ∈ (ofModels models).junctions) :
    (planGroup j.pair (groupOf models j.pair)).junction = some j := by
  obtain ⟨pair, _, made⟩ := mem_junctions.mp planned
  obtain ⟨a, _, b, _, _, same⟩ := planGroup_junction_eq_some made
  have about : j.pair = pair := by
    rw [same]
    rfl
  rw [about]
  exact made

/-- A side of a junction is that of the first model of the pair or that of the second. -/
theorem side_eq_or {j : Implicit} (planned : j ∈ (ofModels models).junctions) {s : Side}
    (side : s ∈ j.sides) :
    s = ⟨nameOf j.pair, j.pair.1, s.relation, firstKey j.pair⟩ ∨
      s = ⟨nameOf j.pair, j.pair.2, s.relation, secondKey j.pair⟩ := by
  obtain ⟨x, y, _, _, _, _, _, _, _, made⟩ := eq_between_of_mem planned
  rw [made] at side
  rcases List.mem_pair.mp side with rfl | rfl
  · exact .inl rfl
  · exact .inr rfl

/-- The two sides of a junction of a model with itself are used by different relations. -/
theorem side_eq_of_relation (names : (models.map (·.name)).Nodup)
    (relations : ∀ m ∈ models, (m.relations.map (·.name)).Nodup)
    (clear : (ofModels models).problems = []) {j : Implicit}
    (planned : j ∈ (ofModels models).junctions) (self : j.pair.1 = j.pair.2) {s s' : Side}
    (side : s ∈ j.sides) (side' : s' ∈ j.sides) (same : s.relation = s'.relation) : s = s' := by
  obtain ⟨d, _, eligible, _, _, pair, _⟩ := eq_between_of_mem planned
  obtain ⟨x, y, differ, _, group, first, second, made⟩ :=
    exists_partners names relations clear eligible
  have only : j = .between d.pair x.relation.name y.relation.name :=
    List.inj_on_of_nodup_map junctions_pairs_nodup planned made pair.symm
  have apart : x.relation.name ≠ y.relation.name := by
    intro equal
    apply differ
    apply eligible_unique names relations ((group x).mpr (.inl rfl)).1 ((group y).mpr (.inr rfl)).1
    · rw [first, second, pair, self]
    · exact equal
  rw [only] at side side'
  rcases List.mem_pair.mp side with rfl | rfl <;> rcases List.mem_pair.mp side' with rfl | rfl
  · rfl
  · exact absurd same apart
  · exact absurd same.symm apart
  · rfl

/-- In plans without problems a relation uses the same side whatever the other models are: of a
junction between two models each side belongs to one of them, and the sides of a junction of a model
with itself follow the order of its relations. -/
theorem side?_congr (names : (models.map (·.name)).Nodup) (names' : (others.map (·.name)).Nodup)
    (relations : ∀ m ∈ models, (m.relations.map (·.name)).Nodup)
    (relations' : ∀ m ∈ others, (m.relations.map (·.name)).Nodup)
    (clear : (ofModels models).problems = []) (clear' : (ofModels others).problems = [])
    (mem : m ∈ models) (mem' : m ∈ others) (eligible : Eligible models ⟨m.name, r⟩)
    (eligible' : Eligible others ⟨m.name, r⟩) :
    (ofModels models).side? m.name r.name = (ofModels others).side? m.name r.name := by
  obtain ⟨j, planned, pair, s, side, _, model, relation, found⟩ :=
    side_of_eligible names relations clear eligible
  obtain ⟨j', planned', pair', s', side', _, model', relation', found'⟩ :=
    side_of_eligible names' relations' clear' eligible'
  rw [found, found']
  have pairs : j'.pair = j.pair := pair'.trans pair.symm
  have named : s.relation = s'.relation := relation.trans relation'.symm
  have first := side_eq_or planned side
  have second := side_eq_or planned' side'
  rw [pairs] at second
  by_cases self : j.pair.1 = j.pair.2
  · have own : j.pair = (m.name, m.name) := by
      have modelled : j.pair.1 = m.name := by
        rcases first with side | side
        · exact (congrArg Side.model side).symm.trans model
        · exact self.trans ((congrArg Side.model side).symm.trans model)
      exact Prod.ext modelled (self.symm.trans modelled)
    have same : j' = j := by
      have here := planGroup_of_mem planned
      have there := planGroup_of_mem planned'
      rw [own, groupOf_self names mem] at here
      rw [pairs, own, groupOf_self names' mem'] at there
      exact Option.some.inj (there.symm.trans here)
    rw [same] at side'
    rw [side_eq_of_relation names relations clear planned self side side' named]
  · rcases first with here | here <;> rcases second with there | there
    · rw [here, there, named]
    · refine absurd ?_ self
      exact (congrArg Side.model here).symm.trans
        (model.trans (model'.symm.trans (congrArg Side.model there)))
    · refine absurd ?_ self
      exact (congrArg Side.model there).symm.trans
        (model'.trans (model.symm.trans (congrArg Side.model here)))
    · rw [here, there, named]

end Plan

end Junction

/-! ## Keys and members -/

namespace Resolver

open Junction (Plan)

/-- A name stands for models in both lists that others cannot tell apart. -/
def AlikeAmong (models others : List Model) (name : String) : Prop :=
  ∃ t t', Model.find? models name = some t ∧ Model.find? others name = some t' ∧ t.Alike t'

variable {models others : List Model} {m t t' : Model} {r : Relation} {plan plan' : Plan}
  {keys : List ForeignKey}

theorem foreignKeyOf_congr (alike : t.Alike t') (key : Field) :
    foreignKeyOf m r t key = foreignKeyOf m r t' key := by
  unfold foreignKeyOf synthesize counterpartOfBelongsTo backReferences
  rw [alike.name, alike.relations]

theorem foreignKeysFrom_congr {rs : List Relation}
    (targets : ∀ r ∈ rs, AlikeAmong models others r.target) (seen : List String) :
    foreignKeysFrom m models seen rs = foreignKeysFrom m others seen rs := by
  induction rs generalizing seen with
  | nil => rfl
  | cons r rest ih =>
    obtain ⟨t, t', found, found', alike⟩ := targets r List.mem_cons_self
    have later := ih fun r' mem => targets r' (List.mem_cons_of_mem r mem)
    unfold foreignKeysFrom
    simp only [found, found', alike.key, alike.name, later, foreignKeyOf_congr alike]

theorem foreignKeys_congr (targets : ∀ r ∈ m.relations, AlikeAmong models others r.target) :
    foreignKeys m models = foreignKeys m others :=
  foreignKeysFrom_congr (fun r mem => targets r (List.mem_of_mem_filter mem)) []

/-- The member of a relation sees of its target and of its explicit junction what models that are
alike share, and of the plan the label and the side of the relation. -/
theorem member_congr (target : AlikeAmong models others r.target)
    (through : ∀ t, r.through = some t → AlikeAmong models others t.model)
    (label : ∀ key, ownerLabel plan m r key = ownerLabel plan' m r key)
    (side : r.isManyToMany = true → r.through = none →
      plan.side? m.name r.name = plan'.side? m.name r.name) :
    member plan m models keys r = member plan' m others keys r := by
  obtain ⟨t, t', found, found', alike⟩ := target
  unfold member
  simp only [found, found']
  cases kind : r.kind with
  | none => rfl
  | some kind' =>
    cases kind' with
    | belongsTo =>
      unfold belongsToMember
      simp only [label, alike.name]
    | hasOne =>
      unfold backReferenceMember counterpartOfBackReference owners Model.relationsOf
      simp only [alike.name, alike.relations]
    | hasMany =>
      unfold backReferenceMember counterpartOfBackReference owners Model.relationsOf
      simp only [alike.name, alike.relations]
    | manyToMany =>
      unfold manyToManyMember
      cases explicit : r.through with
      | some junction =>
        obtain ⟨j, j', there, there', same⟩ := through junction explicit
        unfold throughOwner Model.relationsOf
        simp only [there, there', same.name, same.relations]
      | none =>
        have used := side (beq_iff_eq.mpr kind) explicit
        simp only [used]

theorem members_congr (targets : ∀ r ∈ m.relations, AlikeAmong models others r.target)
    (members' : ∀ keys, ∀ r ∈ m.relations,
      member plan m models keys r = member plan' m others keys r) :
    members plan m models = members plan' m others := by
  unfold members
  rw [foreignKeys_congr targets]
  cases foreignKeys m others with
  | error e => rfl
  | ok keys =>
    simp only [Outcome.ok_bind]
    rw [Outcome.mapM_congr (members' keys)]

end Resolver

/-! ## Blocks -/

namespace Generation

open Junction (Plan)
open Resolver (AlikeAmong Asked requiredJunctions)
open Validation (Accepted Clean validate)

variable {o : Options} {f : Formatter} {models others junctions junctions' : List Model} {m : Model}

/-- The block of a model sees of others what models that are alike share. -/
theorem blockUnder_congr {plan plan' : Plan}
    (targets : ∀ r ∈ m.relations, AlikeAmong models others r.target)
    (members : Resolver.members plan m models = Resolver.members plan' m others) :
    blockUnder o f plan m models = blockUnder o f plan' m others := by
  unfold blockUnder assembleBlock
  rw [Resolver.foreignKeys_congr targets, members]

/-- Models that are alike among declared ones are alike beside the synthesized ones. -/
theorem alikeAmong_beside (accepted : Accepted models) (accepted' : Accepted others)
    (made : requiredJunctions models = .ok junctions)
    (made' : requiredJunctions others = .ok junctions') {name : String}
    (alike : AlikeAmong models others name) :
    AlikeAmong (models ++ junctions) (others ++ junctions') name := by
  obtain ⟨t, t', found, found', same⟩ := alike
  exact ⟨t, t', Resolver.find?_beside accepted made found,
    Resolver.find?_beside accepted' made' found', same⟩

/-- A relation that needs a side of a junction declares it. -/
theorem eligible_of_accepted (accepted : Accepted models) (mem : m ∈ models) {r : Relation}
    (declared : r ∈ m.relations) (many : r.isManyToMany = true) (implicit : r.through = none) :
    Junction.Eligible models ⟨m.name, r⟩ := by
  obtain ⟨t, found, _⟩ := (accepted.resolvable m mem r declared).target
  exact ⟨⟨m, mem, rfl, declared⟩, beq_iff_eq.mp many, implicit, t, Model.mem_of_find? found,
    Model.name_of_find? found⟩

/-- Two lists of models with distinct names that validation accepts yield the same block of a model,
or the same failure, if every name that the relations of the model mention stands in both for models
with the same relations and the same key to reference. -/
theorem block_local (names : (models.map (·.name)).Nodup) (names' : (others.map (·.name)).Nodup)
    (clean : Clean (validate models)) (clean' : Clean (validate others))
    (made : requiredJunctions models = .ok junctions)
    (made' : requiredJunctions others = .ok junctions') (mem : m ∈ models) (mem' : m ∈ others)
    (alike : ∀ r ∈ m.relations, ∀ name, r.Mentions name →
      ∃ t ∈ models, ∃ t' ∈ others, t.name = name ∧ t.Alike t')
    {r r' : Resolver} (asked : Asked models junctions r) (asked' : Asked others junctions' r') :
    (block o f r m (models ++ junctions)).1 = (block o f r' m (others ++ junctions')).1 := by
  have accepted := Validation.accepted_of_clean clean
  have accepted' := Validation.accepted_of_clean clean'
  have beside := Resolver.ofModels_beside accepted made
  have beside' := Resolver.ofModels_beside accepted' made'
  have mentioned : ∀ r ∈ m.relations, ∀ name, r.Mentions name →
      AlikeAmong (models ++ junctions) (others ++ junctions') name := by
    intro r declared name mentions
    obtain ⟨t, there, t', there', rfl, same⟩ := alike r declared name mentions
    refine alikeAmong_beside accepted accepted' made made' ⟨t, t', ?_, ?_, same⟩
    · exact (Model.find?_eq_some_iff names).mpr ⟨there, rfl⟩
    · exact (Model.find?_eq_some_iff names').mpr ⟨there', same.name.symm⟩
  have targets : ∀ r ∈ m.relations,
      AlikeAmong (models ++ junctions) (others ++ junctions') r.target :=
    fun r declared => mentioned r declared r.target (.inl rfl)
  rw [block_fst, block_fst,
    Resolver.plan_of_keptUnder (Resolver.keptUnder_of_asked beside asked) beside,
    Resolver.plan_of_keptUnder (Resolver.keptUnder_of_asked beside' asked') beside']
  apply blockUnder_congr targets
  apply Resolver.members_congr targets
  intro keys r declared
  apply Resolver.member_congr (targets r declared)
  · intro t explicit
    exact mentioned r declared t.model (.inr ⟨t, explicit, rfl⟩)
  · intro key
    unfold Resolver.ownerLabel
    rw [Resolver.junction?_eq_none accepted mem, Resolver.junction?_eq_none accepted' mem']
  · intro many implicit
    exact Plan.side?_congr names names' accepted.distinct accepted'.distinct accepted.paired
      accepted'.paired mem mem' (eligible_of_accepted accepted mem declared many implicit)
      (eligible_of_accepted accepted' mem' declared many implicit)

/-- A book with readers and a shelf. -/
def book : Model :=
  .entity "Book" [.plain "readers" .manyToMany "Reader", .plain "shelf" .belongsTo "Shelf"]

/-- The books of a reading room. -/
def readingRoom : List Model :=
  [book, .entity "Reader" [.plain "books" .manyToMany "Book"], .entity "Shelf" []]

/-- A branch has other models too, its models come in another order, and its shelves have labels. -/
def branch : List Model :=
  [.entity "Desk" [],
    { Model.entity "Shelf" [] with
      fields := [Field.identifier, .plain "label" (some (.known .string))] },
    .entity "Reader" [.plain "books" .manyToMany "Book"], book]

theorem readingRoom_clean : Clean (validate readingRoom) :=
  Validation.clean_of_plain (by decide) (by cbv) (Validation.clean_iff_toOption.mpr (by cbv))

theorem branch_clean : Clean (validate branch) :=
  Validation.clean_of_plain (by decide) (by cbv) (Validation.clean_iff_toOption.mpr (by cbv))

/-- The block of a book is the same in the reading room and in the branch. -/
theorem block_local_book : (readingRoom.map (·.name)).Nodup ∧ (branch.map (·.name)).Nodup ∧
    Clean (validate readingRoom) ∧ Clean (validate branch) ∧ book ∈ readingRoom ∧ book ∈ branch ∧
    ∃ junctions junctions', requiredJunctions readingRoom = .ok junctions ∧
      requiredJunctions branch = .ok junctions' ∧ ∀ f : Formatter,
        (block .standard f .fresh book (readingRoom ++ junctions)).1 =
          (block .standard f .fresh book (branch ++ junctions')).1 := by
  have names : (readingRoom.map (·.name)).Nodup := by decide
  have names' : (branch.map (·.name)).Nodup := by decide
  have checked : ∀ m ∈ readingRoom, m.Checked := Model.entities_checked
    [("Book", book.relations), ("Reader", [.plain "books" .manyToMany "Book"]), ("Shelf", [])]
  have checked' : ∀ m ∈ branch, m.Checked := by
    have shelf : ∀ f ∈ [Field.identifier, .plain "label" (some (.known .string))], f.Checked :=
      List.forall_mem_cons.mpr ⟨fun _ => nofun, List.forall_mem_singleton.mpr fun _ => nofun⟩
    exact List.forall_mem_cons.mpr ⟨Model.entity_checked _ _, List.forall_mem_cons.mpr ⟨shelf,
      Model.entities_checked [("Reader", [.plain "books" .manyToMany "Book"]),
        ("Book", book.relations)]⟩⟩
  obtain ⟨junctions, made⟩ :=
    Resolver.exists_junctionModels (Validation.accepted_of_clean readingRoom_clean) checked
  obtain ⟨junctions', made'⟩ :=
    Resolver.exists_junctionModels (Validation.accepted_of_clean branch_clean) checked'
  have mem : book ∈ readingRoom := List.mem_cons_self
  have mem' : book ∈ branch := List.mem_of_mem_getLast? rfl
  refine ⟨names, names', readingRoom_clean, branch_clean, mem, mem', junctions, junctions', made,
    made', fun f => ?_⟩
  refine block_local names names' readingRoom_clean branch_clean made made' mem mem' ?_ .fresh
    .fresh
  intro r declared name mentions
  rcases List.mem_pair.mp declared with rfl | rfl
  · obtain rfl | ⟨_, explicit, _⟩ := mentions
    · refine ⟨_, List.mem_cons_of_mem _ List.mem_cons_self, _,
        List.mem_cons_of_mem _ (List.mem_cons_of_mem _ List.mem_cons_self), rfl, rfl, rfl, rfl⟩
    · cases explicit
  · obtain rfl | ⟨_, explicit, _⟩ := mentions
    · refine ⟨_, List.mem_of_mem_getLast? rfl, _,
        List.mem_cons_of_mem _ List.mem_cons_self, rfl, rfl, rfl, rfl⟩
    · cases explicit

end Generation

end SchemaCompiler
