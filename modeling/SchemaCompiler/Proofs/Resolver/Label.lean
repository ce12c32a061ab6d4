import SchemaCompiler.Proofs.Resolver.Accepted
import SchemaCompiler.Proofs.Validation.ForeignKey

/-!
# Relation labels

A label ties two members together: the `belongsTo` member that owns the key, and the member of the
other model that points back. The two are rendered in two blocks and each computes the label on its
own. The members of one model own labels that differ (`filter_owned_eq_singleton`), and whatever
label a member carries without owning its key is owned by one member of the model it points at,
which points back at the first model (`exists_owner_of_label`).
-/

set_option autoImplicit false

namespace SchemaCompiler

/-- The label of a member that owns its key: that of a `belongsTo` member. -/
def Column.ownedLabel? (c : Column) : Option String :=
  c.attributes.findSome? fun
    | .relation label (some _) => some label
    | _ => none

/-- A relation mentions a model as its target or as its explicit junction. -/
def Relation.Mentions (r : Relation) (name : String) : Prop :=
  r.target = name ∨ ∃ through, r.through = some through ∧ through.model = name

namespace Resolver

open Junction (Plan Implicit Side)
open Validation (Accepted Clean validate)

variable {plan : Plan} {m t : Model} {models junctions : List Model} {keys : List ForeignKey}
  {r : Relation} {c : Column} {columns : List Column} {label : String}

/-! ## Members and their relations -/

/-- The members of a model are those of its relations, in their order. -/
theorem members_ok (rendered : members plan m models = .ok columns) :
    ∃ keys found, foreignKeys m models = .ok keys ∧
      m.relations.mapM (member plan m models keys) = .ok found ∧
      columns = found.filterMap id := by
  obtain ⟨keys, made, rest⟩ := Outcome.bind_ok_iff.mp rendered
  obtain ⟨found, all, done⟩ := Outcome.bind_ok_iff.mp rest
  exact ⟨keys, found, made, all, (Except.ok.inj done).symm⟩

theorem mem_members (rendered : members plan m models = .ok columns) (mem : c ∈ columns) :
    ∃ keys, foreignKeys m models = .ok keys ∧
      ∃ r ∈ m.relations, member plan m models keys r = .ok (some c) := by
  obtain ⟨keys, found, made, all, rfl⟩ := members_ok rendered
  obtain ⟨some, within, same⟩ := List.mem_filterMap.mp mem
  cases same
  exact ⟨keys, made, Outcome.exists_of_mem_right all within⟩

/-- What a member can be: the owner of a key, a back reference, or one end of a junction. -/
theorem member_cases (made : member plan m models keys r = .ok (some c)) :
    ∃ target, Model.find? models r.target = some target ∧
      (r.isBelongsTo = true ∧ belongsToMember plan m r target keys = .ok c ∨
        r.isBackReference = true ∧ c = backReferenceMember m r target (r.kind == some .hasOne) ∨
        r.isManyToMany = true ∧ manyToManyMember plan m r models = .ok c) := by
  have done {x : Except BlockFailure Column} (h : x.map some = .ok (some c)) : x = .ok c := by
    obtain ⟨_, done, same⟩ := Outcome.map_ok_iff.mp h
    cases same
    exact done
  unfold member at made
  split at made
  · cases made
  · next target found =>
    refine ⟨target, found, ?_⟩
    split at made
    · next kind => exact .inl ⟨beq_iff_eq.mpr kind, done made⟩
    · next kind =>
      cases made
      refine .inr (.inl ⟨?_, ?_⟩)
      · simp only [Relation.isBackReference, kind, beq_self_eq_true, Bool.true_or]
      · rw [kind, beq_self_eq_true]
    · next kind =>
      cases made
      refine .inr (.inl ⟨?_, ?_⟩)
      · simp only [Relation.isBackReference, kind, beq_self_eq_true, Bool.or_true]
      · rw [kind]
        rfl
    · next kind => exact .inr (.inr ⟨beq_iff_eq.mpr kind, done made⟩)
    · cases made

/-- A relation has a member exactly if it has a kind. -/
theorem member_isSome {own : Option Column} (made : member plan m models keys r = .ok own) :
    own.isSome = r.kind.isSome := by
  unfold member at made
  split at made
  · cases made
  · split at made
    · next kind =>
      obtain ⟨_, _, rfl⟩ := Outcome.map_ok_iff.mp made
      rw [kind]
      rfl
    · next kind =>
      cases made
      rw [kind]
      rfl
    · next kind =>
      cases made
      rw [kind]
      rfl
    · next kind =>
      obtain ⟨_, _, rfl⟩ := Outcome.map_ok_iff.mp made
      rw [kind]
      rfl
    · next kind =>
      cases made
      rw [kind]
      rfl

/-- A `belongsTo` relation has a member that owns its key. -/
theorem exists_of_belongsTo {own : Option Column} (belongs : r.isBelongsTo = true)
    (made : member plan m models keys r = .ok own) :
    ∃ target c, Model.find? models r.target = some target ∧ own = some c ∧
      belongsToMember plan m r target keys = .ok c := by
  have kind : r.kind = some .belongsTo := eq_of_beq belongs
  unfold member at made
  rw [kind] at made
  split at made
  · cases made
  · next target found =>
    obtain ⟨c, done, rfl⟩ := Outcome.map_ok_iff.mp made
    exact ⟨target, c, found, rfl, done⟩

/-- A `belongsTo` member is about the target, and owns the label of its relation together with the
key. -/
theorem belongsToMember_eq (made : belongsToMember plan m r t keys = .ok c) :
    ∃ label ref, ownerLabel plan m r r.expectedForeignKey = .ok label ∧
      keys.reverse.find? (·.field.name == r.expectedForeignKey) = some ref ∧
      c = { name := r.name, type := .one t.name, optional := !(r.required || ref.field.required)
            attributes :=
              [.relation label (some ⟨r.expectedForeignKey, ref.key.name, r.onDelete⟩)] } := by
  unfold belongsToMember at made
  split at made
  · cases made
  · next ref first =>
    have name : ref.field.name = r.expectedForeignKey := eq_of_beq (List.find?_some first :)
    obtain ⟨label, labelled, done⟩ := Outcome.bind_ok_iff.mp made
    cases done
    rw [name] at labelled ⊢
    exact ⟨label, ref, labelled, first, rfl⟩

/-- A member of a junction's end is about a junction that is declared and named by the relation, or
about the side of a planned one. -/
theorem manyToManyMember_cases (made : manyToManyMember plan m r models = .ok c) :
    (∃ t junction, r.through = some t ∧ Model.find? models t.model = some junction ∧
      c = { name := r.name, type := .many junction.name, optional := false
            attributes := labelOf junction.name (throughOwner m t junction) }) ∨
    ∃ s, plan.side? m.name r.name = some s ∧
      c = { name := r.name, type := .many s.junction, optional := false
            attributes := [.relation s.label none] } := by
  unfold manyToManyMember at made
  split at made
  · next t explicit =>
    split at made
    · cases made
    · next junction found =>
      cases made
      exact .inl ⟨t, junction, explicit, found, rfl⟩
  · split at made
    · cases made
    · next s found =>
      cases made
      exact .inr ⟨s, found, rfl⟩

theorem name_of_manyToManyMember (made : manyToManyMember plan m r models = .ok c) :
    c.name = r.name := by
  obtain ⟨_, _, _, _, rfl⟩ | ⟨_, _, rfl⟩ := manyToManyMember_cases made <;> rfl

theorem name_of_member (made : member plan m models keys r = .ok (some c)) : c.name = r.name := by
  obtain ⟨target, _, ⟨_, own⟩ | ⟨_, rfl⟩ | ⟨_, many⟩⟩ := member_cases made
  · obtain ⟨_, _, _, _, rfl⟩ := belongsToMember_eq own
    rfl
  · rfl
  · exact name_of_manyToManyMember many

theorem ownedLabel?_of_labelOf {name : String} {owner : Option Relation}
    (attributes : c.attributes = labelOf name owner) : c.ownedLabel? = none := by
  unfold Column.ownedLabel?
  rw [attributes]
  cases owner <;> rfl

/-- Only a `belongsTo` member owns a label, and it is the label of its relation. -/
theorem belongsTo_of_ownedLabel (made : member plan m models keys r = .ok (some c))
    (owned : c.ownedLabel? = some label) :
    r.isBelongsTo = true ∧ ownerLabel plan m r r.expectedForeignKey = .ok label := by
  obtain ⟨target, _, ⟨belongs, own⟩ | ⟨_, rfl⟩ | ⟨_, many⟩⟩ := member_cases made
  · obtain ⟨label', ref, labelled, _, rfl⟩ := belongsToMember_eq own
    cases owned
    exact ⟨belongs, labelled⟩
  · rw [ownedLabel?_of_labelOf rfl] at owned
    cases owned
  · obtain ⟨_, _, _, _, rfl⟩ | ⟨_, _, rfl⟩ := manyToManyMember_cases many
    · rw [ownedLabel?_of_labelOf rfl] at owned
      cases owned
    · cases owned

/-- Where the member of a relation that owns no key takes its label from: a `belongsTo` relation of
the model it is about that points back at its own model, or its own side of a junction. -/
inductive LabelSource (plan : Plan) (m : Model) (models : List Model) (r : Relation) (c : Column)
    (label : String) : Prop
  | owner {t : Model} {owner : Relation} (mentioned : r.Mentions t.name)
      (found : Model.find? models t.name = some t) (about : c.type.model? = some t.name)
      (declared : owner ∈ t.relations) (belongs : owner.isBelongsTo = true)
      (target : owner.target = m.name) (same : label = belongsToLabel t.name owner.name)
  | side {s : Side} (planned : s ∈ plan.allSides) (about : c.type.model? = some s.junction)
      (target : s.model = m.name) (same : label = s.label)

theorem label_of_labelOf {owner : Option Relation} {name : String}
    {reference : Option KeyReference} (carried : .relation label reference ∈ labelOf name owner) :
    ∃ r, owner = some r ∧ label = belongsToLabel name r.name := by
  cases owner with
  | none => cases carried
  | some r =>
    cases List.mem_singleton.mp carried
    exact ⟨r, rfl, rfl⟩

theorem find?_name {name : String} (found : Model.find? models name = some t) :
    Model.find? models t.name = some t := by
  rw [Model.name_of_find? found]
  exact found

/-- What is picked is a candidate. -/
theorem mem_of_pick {name : String} {candidates : List Relation} {r : Relation}
    (picked : pick name candidates = some r) : r ∈ candidates := by
  unfold pick at picked
  split at picked
  · next found =>
    cases picked
    exact List.mem_of_find?_eq_some found
  · split at picked
    · cases picked
      exact List.mem_cons_self
    · cases picked

/-- What a back reference finds is a `belongsTo` relation of its target that points back. -/
theorem mem_owners_of_counterpart {owner : Relation}
    (found : counterpartOfBackReference m r t = some owner) : owner ∈ owners m r t := by
  unfold counterpartOfBackReference at found
  split at found
  · exact List.mem_of_find?_eq_some found
  · exact mem_of_pick found

theorem labelSource_of_backReference {target : Model} {single : Bool}
    (found : Model.find? models r.target = some target)
    {reference : Option KeyReference}
    (carried : .relation label reference ∈ (backReferenceMember m r target single).attributes) :
    LabelSource plan m models r (backReferenceMember m r target single) label := by
  obtain ⟨owner, counterpart, same⟩ := label_of_labelOf carried
  obtain ⟨within, fits⟩ := List.mem_filter.mp (mem_owners_of_counterpart counterpart)
  obtain ⟨declared, kind⟩ := List.mem_filter.mp within
  simp only [Bool.and_eq_true, beq_iff_eq] at fits
  refine .owner (.inl (Model.name_of_find? found).symm) (find?_name found) ?_ declared kind fits.1
    same
  unfold backReferenceMember
  cases single <;> rfl

theorem labelSource_of_manyToMany (made : manyToManyMember plan m r models = .ok c)
    {reference : Option KeyReference} (carried : .relation label reference ∈ c.attributes) :
    LabelSource plan m models r c label := by
  obtain ⟨through, junction, explicit, found, rfl⟩ | ⟨s, found, rfl⟩ := manyToManyMember_cases made
  · obtain ⟨owner, points, same⟩ := label_of_labelOf carried
    obtain ⟨declared, kind⟩ := List.mem_filter.mp (List.mem_of_find?_eq_some points)
    have fits := List.find?_some points
    simp only [Bool.and_eq_true, beq_iff_eq] at fits
    have named : through.model = junction.name := (Model.name_of_find? found).symm
    exact .owner (.inr ⟨through, explicit, named⟩) (find?_name found) rfl declared kind fits.1 same
  · cases List.mem_singleton.mp carried
    have fits := List.find?_some found
    simp only [Bool.and_eq_true, beq_iff_eq] at fits
    exact .side (List.mem_reverse.mp (List.mem_of_find?_eq_some found)) rfl fits.1 rfl

/-- A relation that is no `belongsTo` takes its label from the other end. -/
theorem labelSource_of_member (other : r.isBelongsTo = false)
    (made : member plan m models keys r = .ok (some c)) {reference : Option KeyReference}
    (carried : .relation label reference ∈ c.attributes) : LabelSource plan m models r c label := by
  obtain ⟨target, found, ⟨belongs, _⟩ | ⟨back, rfl⟩ | ⟨many, done⟩⟩ := member_cases made
  · rw [other] at belongs
    cases belongs
  · exact labelSource_of_backReference found carried
  · exact labelSource_of_manyToMany done carried

/-! ## Owned labels -/

/-- Members that are there can be searched before or after the others are dropped. -/
theorem filter_filterMap_id {α : Type} (p : α → Bool) (found : List (Option α)) :
    (found.filterMap id).filter p = (found.filter (·.any p)).filterMap id := by
  rw [List.filter_filterMap, List.filterMap_filter]
  apply List.filterMap_congr
  intro o _
  cases o with
  | none => rfl
  | some a =>
    simp only [id_eq, Option.any_some]
    cases kept : p a with
    | true => simp only [Option.filter_some, kept, ↓reduceIte]
    | false => simp only [Option.filter_some, kept, Bool.false_eq_true, ↓reduceIte]

/-- The labels of a model tell its `belongsTo` relations apart. -/
structure LabelsDiffer (plan : Plan) (t : Model) : Prop where
  distinct : t.relations.Nodup
  kinds : ∀ r ∈ t.relations, r.kind.isSome = true
  apart : ∀ a ∈ t.relations, ∀ b ∈ t.relations, ∀ label,
    a.isBelongsTo = true → b.isBelongsTo = true →
    ownerLabel plan t a a.expectedForeignKey = .ok label →
    ownerLabel plan t b b.expectedForeignKey = .ok label → a = b

/-- Where the labels of a model differ, the label of a `belongsTo` relation is owned by its member
alone. -/
theorem filter_owned_eq_singleton (differ : LabelsDiffer plan t)
    (rendered : members plan t models = .ok columns) {owner : Relation}
    (declared : owner ∈ t.relations) (belongs : owner.isBelongsTo = true)
    (labelled : ownerLabel plan t owner owner.expectedForeignKey = .ok label) :
    ∃ c, columns.filter (·.ownedLabel? == some label) = [c] ∧ c.name = owner.name ∧
      c.type = .one owner.target := by
  obtain ⟨keys, found, made, all, rfl⟩ := members_ok rendered
  obtain ⟨own, _, here⟩ := Outcome.exists_of_mem_left all declared
  obtain ⟨target, c, registered, rfl, owns⟩ := exists_of_belongsTo belongs here
  -- the member of the relation itself
  have itself : c.ownedLabel? = some label ∧ c.type = .one owner.target := by
    obtain ⟨label', ref, labelled', _, rfl⟩ := belongsToMember_eq owns
    cases labelled.symm.trans labelled'
    exact ⟨rfl, congrArg MemberType.one (Model.name_of_find? registered)⟩
  refine ⟨c, ?_, name_of_member here, itself.2⟩
  have single : found.filter (·.any (·.ownedLabel? == some label)) = [some c] := by
    apply Outcome.filter_mapM_eq_singleton all differ.distinct declared here
    intro r within other result
    constructor
    · intro taken
      cases other with
      | none => cases taken
      | some c' =>
        obtain ⟨belongs', labelled'⟩ := belongsTo_of_ownedLabel result (eq_of_beq taken)
        exact differ.apart r within owner declared label belongs' belongs labelled' labelled
    · rintro rfl
      cases here.symm.trans result
      exact beq_iff_eq.mpr itself.1
  rw [filter_filterMap_id, single]
  rfl

/-! ## Declared models -/

theorem ownerLabel_of_mem (accepted : Accepted models) (mem : m ∈ models) (r : Relation)
    (key : String) :
    ownerLabel (Plan.ofModels models) m r key = .ok (belongsToLabel m.name r.name) := by
  unfold ownerLabel
  rw [junction?_eq_none accepted mem]

theorem belongsToLabel_inj {model a b : String}
    (same : belongsToLabel model a = belongsToLabel model b) : a = b := by
  unfold belongsToLabel at same
  exact String.append_right_inj _ |>.mp same

theorem labelsDiffer_of_mem (accepted : Accepted models) (mem : m ∈ models)
    (keyed : ∀ r ∈ m.relations, Validation.Keyed models m r) :
    LabelsDiffer (Plan.ofModels models) m where
  distinct := (accepted.distinct m mem).of_map
  kinds := fun r within => (keyed r within).kind
  apart := by
    intro a memA b memB label _ _ labelA labelB
    rw [ownerLabel_of_mem accepted mem] at labelA labelB
    have same : belongsToLabel m.name a.name = belongsToLabel m.name b.name :=
      Except.ok.inj (labelA.trans labelB.symm)
    exact List.inj_on_of_nodup_map (accepted.distinct m mem) memA memB (belongsToLabel_inj same)

/-! ## Junction models -/

/-- The relation of a side carries the label of the side. -/
theorem ownerLabel_of_side (accepted : Accepted models) {j : Implicit}
    (planned : j ∈ (Plan.ofModels models).junctions) (represents : Represents j m) {s : Side}
    (side : s ∈ j.sides) :
    ownerLabel (Plan.ofModels models) m (sideRelation s) (sideRelation s).expectedForeignKey =
      .ok s.label := by
  obtain ⟨_, expected, found⟩ := side_of_planned planned side
  unfold ownerLabel
  simp only [junction?_of_represents accepted planned represents, expected, found]

theorem labelsDiffer_of_represents (accepted : Accepted models) {j : Implicit}
    (planned : j ∈ (Plan.ofModels models).junctions) (represents : Represents j m) :
    LabelsDiffer (Plan.ofModels models) m where
  distinct := by
    rw [represents.relations]
    exact (expectedForeignKeys_nodup planned).of_map
  kinds := by
    intro r mem
    rw [represents.relations] at mem
    obtain ⟨s, _, rfl⟩ := List.mem_map.mp mem
    rfl
  apart := by
    intro a memA b memB label _ _ labelA labelB
    rw [represents.relations] at memA memB
    obtain ⟨s, sideS, rfl⟩ := List.mem_map.mp memA
    obtain ⟨s', sideS', rfl⟩ := List.mem_map.mp memB
    rw [ownerLabel_of_side accepted planned represents sideS] at labelA
    rw [ownerLabel_of_side accepted planned represents sideS'] at labelB
    have same : s.label = s'.label := Except.ok.inj (labelA.trans labelB.symm)
    obtain ⟨junctionS, _, foundS⟩ := side_of_planned planned sideS
    obtain ⟨junctionS', _, foundS'⟩ := side_of_planned planned sideS'
    have keys : s.foreignKey = s'.foreignKey := by
      unfold Side.label at same
      rw [junctionS, junctionS'] at same
      exact (String.append_right_inj _).mp same
    rw [keys, foundS'] at foundS
    rw [Option.some.inj foundS]

/-! ## The owner of a label -/

/-- The model that stands for a junction is found under the name of the junction. -/
theorem find?_junctionModel (accepted : Accepted models)
    (made : junctionModels (Plan.ofModels models) models = .ok junctions) {j : Implicit}
    (planned : j ∈ (Plan.ofModels models).junctions) :
    ∃ t, Represents j t ∧ t ∈ junctions ∧ Model.find? (models ++ junctions) j.name = some t := by
  obtain ⟨t, mem, done⟩ := Outcome.exists_of_mem_left made planned
  have represents := represents_of_junctionModel done
  have names : (junctions.map (·.name)).Nodup := by
    rw [names_of_junctionModels made]
    exact accepted.junctions
  have found := (Model.find?_eq_some_iff names).mpr ⟨mem, represents.name⟩
  refine ⟨t, represents, mem, ?_⟩
  rw [Model.find?_append, found]
  rfl

/-- Whatever a resolver was asked about some models before, its plan for all of them is the plan of
the declared ones. -/
theorem plan_of_asked (accepted : Accepted models)
    (made : requiredJunctions models = .ok junctions) {r : Resolver}
    (asked : Asked models junctions r) :
    (r.plan (models ++ junctions)).1 = Plan.ofModels models := by
  have beside := ofModels_beside accepted made
  exact plan_of_keptUnder (keptUnder_of_asked beside asked) beside

/-- The relations of declared models mention declared models only. -/
theorem mem_of_mentioned (accepted : Accepted models)
    (made : junctionModels (Plan.ofModels models) models = .ok junctions) (mem : m ∈ models)
    (declared : r ∈ m.relations) (mentioned : r.Mentions t.name)
    (found : Model.find? (models ++ junctions) t.name = some t) : t ∈ models := by
  have resolvable := accepted.resolvable m mem r declared
  obtain ⟨t', there⟩ : ∃ t', Model.find? models t.name = some t' := by
    rcases mentioned with target | ⟨through, explicit, junction⟩
    · obtain ⟨t', there, _⟩ := resolvable.target
      exact ⟨t', target ▸ there⟩
    · obtain ⟨t', there⟩ := resolvable.through through explicit
      exact ⟨t', junction ▸ there⟩
  cases (find?_beside accepted made there).symm.trans found
  exact Model.mem_of_find? there

/-- In models that validation accepts, the label of every member that is no `belongsTo` is owned by
one member of the model that the first member is about. That one is the member of a `belongsTo`
relation and is about the first one's model. Its block has members unless the type of some field was
never checked. -/
theorem exists_owner_of_label (names : (models.map (·.name)).Nodup) {report : Validation.Report}
    (passed : Validation.validate models = .ok report) (valid : report.isValid = true)
    (made : requiredJunctions models = .ok junctions) {resolver : Resolver}
    (asked : Asked models junctions resolver) (mem : m ∈ models ++ junctions)
    (rendered : members (resolver.plan (models ++ junctions)).1 m (models ++ junctions) =
      .ok columns)
    (declared : r ∈ m.relations) (other : r.isBelongsTo = false) (within : c ∈ columns)
    (own : c.name = r.name) {reference : Option KeyReference}
    (carried : .relation label reference ∈ c.attributes) :
    ∃ name t, c.type.model? = some name ∧ Model.find? (models ++ junctions) name = some t ∧
      ((∀ m ∈ models, m.Checked) → ∃ others,
        members (resolver.plan (models ++ junctions)).1 t (models ++ junctions) = .ok others) ∧
      ∀ others, members (resolver.plan (models ++ junctions)).1 t (models ++ junctions) =
          .ok others →
        ∃ b ∈ t.relations, b.isBelongsTo = true ∧ ∃ owner,
          others.filter (·.ownedLabel? == some label) = [owner] ∧ owner.name = b.name ∧
            owner.type = .one m.name := by
  have clean : Validation.Clean (Validation.validate models) := ⟨report, passed, valid⟩
  have accepted := Validation.accepted_of_clean clean
  have sound := (Validation.validate_clean_iff.mp clean).1
  rw [plan_of_asked accepted made asked] at rendered ⊢
  have renders {t : Model} (there : t ∈ models ++ junctions) (checked : ∀ m ∈ models, m.Checked) :
      ∃ others, members (Plan.ofModels models) t (models ++ junctions) = .ok others :=
    (exists_members_beside accepted checked names made there).2
  -- only declared models have relations that are no belongsTo
  have registered : m ∈ models := by
    refine (List.mem_append.mp mem).resolve_right ?_
    intro synthesized
    obtain ⟨j, _, represents⟩ := exists_represents made synthesized
    rw [represents.relations] at declared
    obtain ⟨s, _, rfl⟩ := List.mem_map.mp declared
    cases other
  obtain ⟨keys, _, r', declared', done⟩ := mem_members rendered within
  have same : r' = r := List.inj_on_of_nodup_map (accepted.distinct m registered) declared' declared
    ((name_of_member done).symm.trans own)
  subst same
  cases labelSource_of_member other done carried with
  | @owner t owner mentioned found about declaredOwner belongs target same =>
    have memT := mem_of_mentioned accepted made registered declared mentioned found
    have keyed := (Validation.checkRelations_keyed (sound t memT).relations).1
    refine ⟨t.name, t, about, found, renders (List.mem_append_left _ memT), ?_⟩
    intro others renderedOthers
    rw [same, ← target]
    exact ⟨owner, declaredOwner, belongs, filter_owned_eq_singleton
      (labelsDiffer_of_mem accepted memT keyed) renderedOthers declaredOwner belongs
      (ownerLabel_of_mem accepted memT _ _)⟩
  | @side s planned about target same =>
    obtain ⟨j, plannedJ, side⟩ := List.mem_flatMap.mp planned
    obtain ⟨t, represents, memT, found⟩ := find?_junctionModel accepted made plannedJ
    obtain ⟨junction, _, _⟩ := side_of_planned plannedJ side
    refine ⟨s.junction, t, about, junction ▸ found, renders (List.mem_append_right _ memT), ?_⟩
    intro others renderedOthers
    rw [same, ← target]
    have declaredSide : sideRelation s ∈ t.relations := by
      rw [represents.relations]
      exact List.mem_map_of_mem side
    exact ⟨sideRelation s, declaredSide, rfl, filter_owned_eq_singleton
      (labelsDiffer_of_represents accepted plannedJ represents) renderedOthers declaredSide rfl
      (ownerLabel_of_side accepted plannedJ represents side)⟩

/-- A reader with a card and loans. -/
def reader : Model :=
  .entity "Reader" [.plain "card" .hasOne "Card", .plain "loans" .hasMany "Loan"]

/-- A card has a holder. -/
def card : Model := .entity "Card" [.plain "holder" .belongsTo "Reader"]

/-- Readers, their cards and their loans. -/
def lending : List Model := [reader, card, .entity "Loan" [.plain "reader" .belongsTo "Reader"]]

theorem lending_clean : Clean (validate lending) := by
  have sound : ∀ m ∈ lending, Validation.Sound lending m :=
    Validation.entities_sound (by decide : ∀ e ∈ [("Reader", _), ("Card", _), ("Loan", _)], _)
  exact
    Validation.validate_clean_iff.mpr ⟨sound, by cbv, Validation.clean_iff_toOption.mpr (by cbv)⟩

/-- The loans of a reader carry the label that the reader of a loan owns. -/
theorem exists_owner_of_label_lending : (lending.map (·.name)).Nodup ∧ Clean (validate lending) ∧
    requiredJunctions lending = .ok [] ∧ Asked lending [] fresh ∧ reader ∈ lending ++ [] ∧
    ∃ columns, members (fresh.plan (lending ++ [])).1 reader (lending ++ []) = .ok columns ∧
      ∃ loans ∈ reader.relations, loans.isBelongsTo = false ∧ ∃ c ∈ columns,
        c.name = loans.name ∧ .relation "Loan_reader" none ∈ c.attributes ∧
        ∃ name t, c.type.model? = some name ∧ Model.find? (lending ++ []) name = some t ∧
          ∃ others, members (fresh.plan (lending ++ [])).1 t (lending ++ []) = .ok others ∧
            ∃ b ∈ t.relations, b.isBelongsTo = true ∧ ∃ owner,
              others.filter (·.ownedLabel? == some "Loan_reader") = [owner] ∧
                owner.name = b.name ∧ owner.type = .one reader.name := by
  have checked : ∀ m ∈ lending, m.Checked := Model.entities_checked [(_, _), (_, _), (_, _)]
  have names : (lending.map (·.name)).Nodup := by decide
  obtain ⟨report, passed, valid⟩ := lending_clean
  have made : requiredJunctions lending = .ok [] := rfl
  have mem : reader ∈ lending ++ [] := List.mem_cons_self
  obtain ⟨columns, rendered, within⟩ : ∃ columns,
      members (fresh.plan (lending ++ [])).1 reader (lending ++ []) = .ok columns ∧
        (⟨"loans", .many "Loan", false, [.relation "Loan_reader" none]⟩ : Column) ∈ columns :=
    ⟨[_, _], rfl, List.mem_cons_of_mem _ List.mem_cons_self⟩
  have declared : .plain "loans" .hasMany "Loan" ∈ reader.relations :=
    List.mem_cons_of_mem _ List.mem_cons_self
  obtain ⟨name, t, about, found, renders, owned⟩ := exists_owner_of_label names passed valid made
    .fresh mem rendered declared rfl within rfl List.mem_cons_self
  obtain ⟨others, renderedOthers⟩ := renders checked
  exact ⟨names, ⟨report, passed, valid⟩, made, .fresh, mem, columns, rendered, _, declared, rfl, _,
    within, rfl, List.mem_cons_self, name, t, about, found, others, renderedOthers,
    owned others renderedOthers⟩

end Resolver

end SchemaCompiler
