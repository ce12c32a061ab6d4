import SchemaCompiler.Proofs.Generation.Optional
import SchemaCompiler.Proofs.Generation.PrimaryKey

/-!
# Keys behind single rows

A `hasOne` relation promises one row of its target, which holds if no two rows of the target have
one value of the foreign key that owns the label. A declared key is taken as it was declared, so its
column is marked exactly if the field is unique or the primary key of its model
(`backed_of_hasOne`). A synthesized key is unique if what its relation finds on the other side holds
one row, and where no relation is contested that is the `hasOne` relation itself.
-/

set_option autoImplicit false

namespace SchemaCompiler

/-- No two rows have one value of a column: it is marked as unique or as the primary key. -/
def Column.HoldsOnce (c : Column) : Prop := .unique ∈ c.attributes ∨ .id ∈ c.attributes

instance (c : Column) : Decidable c.HoldsOnce := inferInstanceAs (Decidable (_ ∨ _))

namespace FieldMapper

variable {mapper : FieldMapper} {f : Field} {model : String} {role : ColumnRole} {c : Column}

/-- The column of a field holds every value once exactly if the field is unique or mapped as a
key. -/
theorem holdsOnce_of_mapField (made : mapper.mapField f model role = .ok c) :
    c.HoldsOnce ↔ f.unique = true ∨ mapsKey f role = true := by
  obtain ⟨_, _, _, _, _, _, rfl⟩ := exists_columnOf made
  unfold Column.HoldsOnce
  simp only [mem_columnOf_iff, reduceCtorEq, false_and, and_false, exists_false, false_or, or_false,
    true_and]
  cases mapsKey f role <;> simp

end FieldMapper

namespace Generation

open Junction (Plan)
open Resolver (Asked Owns PointsBack Uncontested belongsToLabel card counterpartOfBackReference
  counterpartOfBelongsTo lending members reader requiredJunctions)
open Validation (Accepted Clean validate)

variable {o : Options} {f : Formatter} {plan : Plan} {m t : Model} {models junctions : List Model}
  {columns : List Column} {b : ModelBlock} {r owner : Relation} {c : Column} {label : String}

/-! ## The owner of a label -/

/-- The relations of junctions are `belongsTo` relations, so any other one is declared. -/
theorem registered_of_other (made : requiredJunctions models = .ok junctions)
    (mem : m ∈ models ++ junctions) (declared : r ∈ m.relations) (other : r.isBelongsTo = false) :
    m ∈ models := by
  refine (List.mem_append.mp mem).resolve_right fun synthesized => ?_
  obtain ⟨j, _, represents⟩ := Resolver.exists_represents made synthesized
  rw [represents.relations] at declared
  obtain ⟨s, _, rfl⟩ := List.mem_map.mp declared
  cases other

/-- The label of a `hasOne` member is that of the relation that it finds in its target. -/
theorem exists_owner_of_hasOne (accepted : Accepted models)
    (made : requiredJunctions models = .ok junctions) (mem : m ∈ models)
    (rendered : members plan m (models ++ junctions) = .ok columns) (declared : r ∈ m.relations)
    (single : r.kind = some .hasOne) (within : c ∈ columns) (own : c.name = r.name)
    {reference : Option KeyReference} (carried : .relation label reference ∈ c.attributes) :
    ∃ t ∈ models, ∃ owner, Owns t m owner ∧ PointsBack t m r ∧
      counterpartOfBackReference m r t = some owner ∧ label = belongsToLabel t.name owner.name := by
  obtain ⟨keys, _, r', declared', done⟩ := Resolver.mem_members rendered within
  obtain rfl : r' = r := List.inj_on_of_nodup_map (accepted.distinct m mem) declared' declared
    ((Resolver.name_of_member done).symm.trans own)
  obtain ⟨t, found, ⟨belongs, _⟩ | ⟨back, rfl⟩ | ⟨many, _⟩⟩ := Resolver.member_cases done
  · rw [Relation.isBelongsTo, single] at belongs
    cases belongs
  · obtain ⟨owner, counterpart, same⟩ := Resolver.label_of_labelOf carried
    obtain ⟨owns, _⟩ :=
      Resolver.mem_owners.mp (Resolver.mem_owners_of_counterpart counterpart)
    have target : r'.target = t.name := (Model.name_of_find? found).symm
    have registered : t ∈ models := Resolver.mem_of_mentioned accepted made mem declared
      (.inl target) (Resolver.find?_name found)
    exact ⟨t, registered, owner, owns, ⟨declared, back, target⟩, counterpart, same⟩
  · rw [Relation.isManyToMany, single] at many
    cases many

/-- In the block of a declared model the label of a `belongsTo` relation is owned by one member,
that of the relation, and the member references through the foreign key of the relation. -/
theorem exists_owningMember (clean : Clean (validate models)) (mem : t ∈ models)
    (owns : Owns t m owner)
    (rendered : members (Plan.ofModels models) t (models ++ junctions) = .ok columns) :
    ∃ c key, columns.filter (·.ownedLabel? == some (belongsToLabel t.name owner.name)) = [c] ∧
      c.name = owner.name ∧ c.attributes = [.relation (belongsToLabel t.name owner.name)
        (some ⟨owner.expectedForeignKey, key, owner.onDelete⟩)] := by
  have accepted := Validation.accepted_of_clean clean
  have sound := (Validation.validate_clean_iff.mp clean).1 t mem
  have keyed := (Validation.checkRelations_keyed sound.relations).1
  obtain ⟨c, only, named, _⟩ := Resolver.filter_owned_eq_singleton
    (Resolver.labelsDiffer_of_mem accepted mem keyed) rendered owns.declared owns.belongs
    (Resolver.ownerLabel_of_mem accepted mem _ _)
  obtain ⟨keys, fk, target, label, _, _, _, _, alone⟩ := Resolver.exists_referencingMember
    (accepted.distinct t mem) rendered owns.declared owns.belongs
  obtain ⟨within, owned⟩ := List.mem_filter.mp (only ▸ List.mem_singleton_self c)
  -- the member that owns the label is the only one of its name
  have itself : c ∈ columns.filter (·.name == owner.name) :=
    List.mem_filter.mpr ⟨within, beq_iff_eq.mpr named⟩
  rw [alone] at itself
  obtain rfl := List.mem_singleton.mp itself
  obtain rfl : label = belongsToLabel t.name owner.name := Option.some.inj (eq_of_beq owned)
  exact ⟨_, fk.key.name, only, named, rfl⟩

/-! ## The column of a key -/

/-- The column of a declared field holds every value once exactly if the field is unique or the
primary key. -/
theorem exists_markedColumn (keyed : (Validation.checkPrimaryKey t).isValid = true)
    (distinct : t.fieldNames.Nodup) (rendered : blockUnder o f plan t models = .ok b) {d : Field}
    (mem : d ∈ t.fields) : ∃ k, b.columns.filter (·.name == d.name) = [k] ∧
      (k.HoldsOnce ↔ d.unique = true ∨ t.referenceKey = some d) := by
  obtain ⟨k, only, mapped⟩ := exists_fieldColumn distinct rendered mem
  refine ⟨k, only, (FieldMapper.holdsOnce_of_mapField mapped).trans (or_congr_right ?_)⟩
  cases composite : t.compositeKey with
  | some names =>
    rw [FieldMapper.mapsKey_of_composite composite, Model.referenceKey_eq_some_iff, composite]
    exact iff_of_false Bool.false_ne_true nofun
  | none =>
    obtain ⟨key, referenced⟩ := Validation.exists_referenceKey keyed composite
    rw [FieldMapper.mapsKey_iff_of_single distinct referenced _ mem, referenced, Option.some.injEq,
      eq_comm]

/-- The column of a key that a relation synthesizes holds every value once if what the relation
finds on the other side holds one row. -/
theorem exists_uniqueColumn (clean : Clean (validate models))
    (made : requiredJunctions models = .ok junctions) (mem : t ∈ models) (owns : Owns t m owner)
    (found : Model.find? (models ++ junctions) owner.target = some m)
    (undeclared : t.field? owner.expectedForeignKey = none)
    (rendered : blockUnder o f plan t (models ++ junctions) = .ok b) :
    ∃ k, b.columns.filter (·.name == owner.expectedForeignKey) = [k] ∧
      ∀ h, counterpartOfBelongsTo t owner m = some h → h.kind = some .hasOne → k.HoldsOnce := by
  obtain ⟨keys, keyed, _⟩ := (blockUnder_ok rendered).2.1
  obtain ⟨fk, among, named⟩ :=
    (Resolver.foreignKeys_stem keyed).2.2 owner owns.declared owns.belongs
  obtain ⟨copied, k, only, mapped⟩ :=
    exists_undeclaredColumn clean made mem owns undeclared found rendered keyed among named
  refine ⟨k, only, fun h counterpart single => ?_⟩
  refine (FieldMapper.holdsOnce_of_mapField mapped).mpr (.inl ?_)
  rw [Resolver.unique_of_synthesize copied, counterpart, Option.any_some, single, beq_self_eq_true]

/-- What a block has behind the label of a `hasOne` member of another model: one member that owns
the label, and one column for the key of that member. -/
structure Backed (t m : Model) (owner : Relation) (label : String) (b : ModelBlock) : Prop where
  /-- The label is owned by the member of one relation, which references through its key. -/
  member : ∃ c key, b.relations.filter (·.ownedLabel? == some label) = [c] ∧ c.name = owner.name ∧
    c.attributes = [.relation label (some ⟨owner.expectedForeignKey, key, owner.onDelete⟩)]
  /-- A key that is declared is marked as it is declared. A key that is not declared is marked if
  its relation finds a single row on the other side, and if no relation is contested. -/
  column : ∃ k, b.columns.filter (·.name == owner.expectedForeignKey) = [k] ∧
    (∀ d, t.field? owner.expectedForeignKey = some d →
      (k.HoldsOnce ↔ d.unique = true ∨ t.referenceKey = some d)) ∧
    (t.field? owner.expectedForeignKey = none →
      (∃ h, counterpartOfBelongsTo t owner m = some h ∧ h.kind = some .hasOne) ∨ Uncontested t m →
        k.HoldsOnce)

/-- In models that validation accepts, the label of a `hasOne` member is owned by one member of its
target, and the column of the foreign key of that member carries `@unique` or `@id` exactly if the
field is declared so, where the key is declared. Where it is synthesized the column carries
`@unique` whenever what the owner finds holds one row, as it does where no relation between the two
models is contested. -/
theorem backed_of_hasOne (names : (models.map (·.name)).Nodup) {report : Validation.Report}
    (passed : validate models = .ok report) (valid : report.isValid = true)
    (made : requiredJunctions models = .ok junctions) {resolver : Resolver}
    (mem : m ∈ models ++ junctions)
    (rendered : members (resolver.plan (models ++ junctions)).1 m (models ++ junctions) =
      .ok columns)
    (declared : r ∈ m.relations) (single : r.kind = some .hasOne) (within : c ∈ columns)
    (own : c.name = r.name) {reference : Option KeyReference}
    (carried : .relation label reference ∈ c.attributes) :
    ∃ t ∈ models, t.name = r.target ∧ ∃ owner, Owns t m owner ∧
      ∀ {o : Options} {f : Formatter} {resolver : Resolver} {b : ModelBlock},
        Asked models junctions resolver → (block o f resolver t (models ++ junctions)).1 = .ok b →
          Backed t m owner label b := by
  have clean : Clean (validate models) := ⟨report, passed, valid⟩
  have accepted := Validation.accepted_of_clean clean
  have registered : m ∈ models := registered_of_other made mem declared
    (by rw [Relation.isBelongsTo, single]; rfl)
  obtain ⟨t, memT, owner, owns, points, counterpart, rfl⟩ :=
    exists_owner_of_hasOne accepted made registered rendered declared single within own carried
  refine ⟨t, memT, points.target.symm, owner, owns, fun asked renderedT => ?_⟩
  rw [block_fst, Resolver.plan_of_asked accepted made asked] at renderedT
  have sound := (Validation.validate_clean_iff.mp clean).1 t memT
  refine ⟨exists_owningMember clean memT owns (blockUnder_ok renderedT).2.2, ?_⟩
  cases field : t.field? owner.expectedForeignKey with
  | some d =>
    obtain ⟨k, only, marked⟩ := exists_markedColumn sound.keyed
      (fieldNames_nodup clean made (List.mem_append_left junctions memT)) renderedT
      (List.mem_of_find?_eq_some field)
    have named : d.name = owner.expectedForeignKey := eq_of_beq (List.find?_some field :)
    exact ⟨k, named ▸ only, fun d' same => Option.some.inj same ▸ marked,
      fun absent => absurd absent (Option.some_ne_none d)⟩
  | none =>
    have found : Model.find? (models ++ junctions) owner.target = some m :=
      owns.target ▸ Resolver.find?_beside accepted made
        ((Model.find?_eq_some_iff names).mpr ⟨registered, rfl⟩)
    obtain ⟨k, only, once⟩ := exists_uniqueColumn clean made memT owns found field renderedT
    refine ⟨k, only, fun d declared => absurd declared.symm (Option.some_ne_none d),
      fun _ finds => ?_⟩
    rcases finds with ⟨h, found, one⟩ | uncontested
    · exact once h found one
    · have finds := (Resolver.counterpart_iff_of_uncontested (accepted.distinct t memT)
        (accepted.distinct m registered) uncontested owns points).mp counterpart
      exact once r finds single

/-- The key that is synthesized for the holder of a card is unique: a reader has one card. -/
theorem backed_of_hasOne_card : (lending.map (·.name)).Nodup ∧ Clean (validate lending) ∧
    requiredJunctions lending = .ok [] ∧ Asked lending [] Resolver.fresh ∧ reader ∈ lending ++ [] ∧
    ∃ columns, members (Resolver.fresh.plan (lending ++ [])).1 reader (lending ++ []) =
        .ok columns ∧
      ∃ r ∈ reader.relations, r.kind = some .hasOne ∧ ∃ c ∈ columns, c.name = r.name ∧
        .relation "Card_holder" none ∈ c.attributes ∧
        ∃ b, (block unsized layout .fresh card (lending ++ [])).1 = .ok b ∧
          ∃ k, b.columns.filter (·.name == "holderId") = [k] ∧ k.HoldsOnce := by
  have names : (lending.map (·.name)).Nodup := by decide
  obtain ⟨report, passed, valid⟩ := Resolver.lending_clean
  have made : requiredJunctions lending = .ok [] := rfl
  have mem : reader ∈ lending ++ [] := List.mem_cons_self
  obtain ⟨columns, rendered, within⟩ : ∃ columns,
      members (Resolver.fresh.plan (lending ++ [])).1 reader (lending ++ []) = .ok columns ∧
        (⟨"card", .one "Card", true, [.relation "Card_holder" none]⟩ : Column) ∈ columns :=
    ⟨[_, _], rfl, List.mem_cons_self⟩
  have declared : .plain "card" .hasOne "Card" ∈ reader.relations := List.mem_cons_self
  obtain ⟨t, memT, target, owner, owns, backed⟩ := backed_of_hasOne names passed valid made mem
    rendered declared rfl within rfl List.mem_cons_self
  obtain rfl : t = card := List.inj_on_of_nodup_map names memT
    (List.mem_cons_of_mem _ List.mem_cons_self) target
  obtain rfl := List.mem_singleton.mp owns.declared
  obtain ⟨b, renderedCard⟩ : ∃ b, (block unsized layout .fresh card (lending ++ [])).1 = .ok b :=
    ⟨_, rfl⟩
  obtain ⟨k, only, _, unique⟩ := (backed .fresh renderedCard).column
  exact ⟨names, ⟨report, passed, valid⟩, made, .fresh, mem, columns, rendered, _, declared, rfl, _,
    within, rfl, List.mem_cons_self, b, renderedCard, k, only,
    unique rfl (.inl ⟨_, rfl, rfl⟩)⟩

/-- A driver has one licence. -/
def driver : Model := .entity "Driver" [.plain "licence" .hasOne "Licence"]

/-- A licence has a driver, and declares the key for it without saying that it is unique. -/
def licence : Model :=
  { Model.entity "Licence" [.plain "driver" .belongsTo "Driver"] with
    fields := [Field.identifier, Field.plain "driverId" (some (.known .integer))] }

/-- A driver's licence passes validation and carries the label that the driver of a licence owns,
and the column of the key for the driver may have one value in many rows. -/
theorem licences_of_one_driver : ([driver, licence].map (·.name)).Nodup ∧
    Clean (validate [driver, licence]) ∧ requiredJunctions [driver, licence] = .ok [] ∧
    (∃ r ∈ driver.relations, r.kind = some .hasOne ∧
      ∃ b, (block unsized layout .fresh driver [driver, licence]).1 = .ok b ∧
        ∃ c, b.relations.filter (·.name == r.name) = [c] ∧
          c.attributes = [.relation "Licence_driver" none]) ∧
    ∃ b, (block unsized layout .fresh licence [driver, licence]).1 = .ok b ∧
      (∃ c, b.relations.filter (·.ownedLabel? == some "Licence_driver") = [c] ∧
        c.attributes = [.relation "Licence_driver" (some ⟨"driverId", "id", none⟩)]) ∧
      ∃ k, b.columns.filter (·.name == "driverId") = [k] ∧ ¬ k.HoldsOnce := by
  have clean : Clean (validate [driver, licence]) :=
    Validation.clean_of_plain (by decide) rfl (by decide)
  obtain ⟨b, rendered, member⟩ :
      ∃ b, (block unsized layout .fresh driver [driver, licence]).1 = .ok b ∧
        b.relations.filter (·.name == "licence") =
          [⟨"licence", .one "Licence", true, [.relation "Licence_driver" none]⟩] :=
    ⟨_, rfl, rfl⟩
  obtain ⟨b', rendered', owner, key⟩ :
      ∃ b, (block unsized layout .fresh licence [driver, licence]).1 = .ok b ∧
        b.relations.filter (·.ownedLabel? == some "Licence_driver") = [⟨"driver", .one "Driver",
          true, [.relation "Licence_driver" (some ⟨"driverId", "id", none⟩)]⟩] ∧
        b.columns.filter (·.name == "driverId") =
          [⟨"driverId", .scalar .int, true, [.map "driver_id"]⟩] :=
    ⟨_, rfl, rfl, rfl⟩
  exact ⟨by decide, clean, rfl, ⟨_, List.mem_cons_self, rfl, b, rendered, _, member, rfl⟩, b',
    rendered', ⟨_, owner, rfl⟩, _, key, by decide⟩

end Generation

end SchemaCompiler
