import SchemaCompiler.Proofs.Resolver.Label

/-!
# Counterparts

A `belongsTo` relation looks for the relation that points back at it, and that relation looks for
the `belongsTo` relation. Both searches have the same candidates in mind and settle for one of them
on their own, so each can find what does not find it back: two relations that point back may both
find one owner, which finds one of them at most. The searches agree exactly where no relation is
contested in this way (`counterparts_agree_iff`). There a label ties one relation to its owner, and
a synthesized key is unique exactly if what points back at it under its label holds one row.
-/

set_option autoImplicit false

namespace SchemaCompiler.Resolver

open Junction (Plan)
open Validation (Clean validate)

/-- A `belongsTo` relation of one model that targets the other. -/
structure Owns (x y : Model) (b : Relation) : Prop where
  declared : b ∈ x.relations
  belongs : b.isBelongsTo = true
  target : b.target = y.name

/-- A relation of the second model that points back at the first. -/
structure PointsBack (x y : Model) (h : Relation) : Prop where
  declared : h ∈ y.relations
  back : h.isBackReference = true
  target : h.target = x.name

/-- No relation between two models is asked for by several of the other side. A relation that names
no inverse is named as the inverse of one relation at most, and of two relations that name none, one
is the only candidate of the other if the other is its only candidate. -/
structure Uncontested (x y : Model) : Prop where
  owner : ∀ b, Owns x y b → b.inverse = none → ∀ h h', PointsBack x y h → PointsBack x y h' →
    h.inverse = some b.name → h'.inverse = some b.name → h = h'
  back : ∀ h, PointsBack x y h → h.inverse = none → ∀ b b', Owns x y b → Owns x y b' →
    b.inverse = some h.name → b'.inverse = some h.name → b = b'
  silent : ∀ b h, Owns x y b → PointsBack x y h → b.inverse = none → h.inverse = none →
    (backReferences x b y = [h] ↔ owners y h x = [b])

/-- A relation is rendered under a label that its member does not own, whatever the plan and the
keys. -/
def Labelled (m : Model) (models : List Model) (r : Relation) (label : String) : Prop :=
  ∃ c, (∀ plan keys, member plan m models keys r = .ok (some c)) ∧
    .relation label none ∈ c.attributes

variable {x y : Model} {b h : Relation} {models junctions : List Model}

/-! ## Picking a candidate -/

/-- A candidate that does not name the relation is picked only if there is no other. -/
theorem pick_eq_some_iff {name : String} {candidates : List Relation} {r : Relation}
    (silent : r.inverse ≠ some name) : pick name candidates = some r ↔ candidates = [r] := by
  unfold pick
  split
  · next r' found =>
    have naming := List.find?_some found
    constructor
    · rintro ⟨⟩
      exact absurd (eq_of_beq naming) silent
    · rintro rfl
      cases List.mem_singleton.mp (List.mem_of_find?_eq_some found)
      exact absurd (eq_of_beq naming) silent
  · split
    · exact ⟨fun same => Option.some.inj same ▸ rfl, fun same => (List.cons.inj same).1 ▸ rfl⟩
    · next several => exact ⟨nofun, fun same => absurd same (several r)⟩

/-- The only candidate that names the relation is picked. -/
theorem pick_of_unique {name : String} {candidates : List Relation} {r : Relation}
    (mem : r ∈ candidates) (naming : r.inverse = some name)
    (unique : ∀ r' ∈ candidates, r'.inverse = some name → r' = r) :
    pick name candidates = some r := by
  have found : candidates.find? (·.inverse == some name) = some r :=
    find?_of_unique mem (beq_iff_eq.mpr naming) fun r' there same =>
      unique r' there (eq_of_beq same)
  unfold pick
  rw [found]

/-- A candidate beside which there is no other is picked. -/
theorem pick_of_only {name : String} {candidates : List Relation} {r : Relation}
    (mem : r ∈ candidates) (distinct : candidates.Nodup) (only : ∀ r' ∈ candidates, r' = r) :
    pick name candidates = some r := by
  by_cases naming : r.inverse = some name
  · exact pick_of_unique mem naming fun r' there _ => only r' there
  · exact (pick_eq_some_iff naming).mpr (eq_singleton_of_unique distinct mem only)

/-! ## Candidates -/

theorem links_iff : links b h = true ↔
    (∀ name, b.inverse = some name → name = h.name) ∧
      ∀ name, h.inverse = some name → name = b.name := by
  unfold links
  simp only [Bool.and_eq_true, Option.all_eq_true, beq_iff_eq]

theorem mem_backReferences : h ∈ backReferences x b y ↔ PointsBack x y h ∧ links b h = true := by
  unfold backReferences
  simp only [List.mem_filter, Bool.and_eq_true, beq_iff_eq]
  exact ⟨fun ⟨declared, ⟨back, target⟩, fits⟩ => ⟨⟨declared, back, target⟩, fits⟩,
    fun ⟨⟨declared, back, target⟩, fits⟩ => ⟨declared, ⟨back, target⟩, fits⟩⟩

theorem mem_owners : b ∈ owners y h x ↔ Owns x y b ∧ links b h = true := by
  unfold owners Model.relationsOf
  simp only [List.mem_filter, Bool.and_eq_true, beq_iff_eq]
  exact ⟨fun ⟨⟨declared, kind⟩, target, fits⟩ => ⟨⟨declared, beq_iff_eq.mpr kind, target⟩, fits⟩,
    fun ⟨⟨declared, belongs, target⟩, fits⟩ => ⟨⟨declared, eq_of_beq belongs⟩, target, fits⟩⟩

/-- A relation that names no inverse picks its owner. -/
theorem counterpartOfBackReference_of_silent (silent : h.inverse = none) :
    counterpartOfBackReference y h x = pick h.name (owners y h x) := by
  unfold counterpartOfBackReference
  rw [silent]

/-! ## Searches from both sides -/

section Searches

variable (namesX : (x.relations.map (·.name)).Nodup) (namesY : (y.relations.map (·.name)).Nodup)

include namesX in
/-- A relation that names its owner finds it. -/
theorem counterpartOfBackReference_of_named (owns : Owns x y b) (fits : links b h = true)
    (naming : h.inverse = some b.name) : counterpartOfBackReference y h x = some b := by
  unfold counterpartOfBackReference
  rw [naming]
  apply find?_of_unique (mem_owners.mpr ⟨owns, fits⟩) (beq_self_eq_true b.name)
  intro b' there same
  exact List.inj_on_of_nodup_map namesX (mem_owners.mp there).1.declared owns.declared
    (eq_of_beq same)

include namesY in
/-- A `belongsTo` relation that names its inverse finds it. -/
theorem counterpartOfBelongsTo_of_named (points : PointsBack x y h) (fits : links b h = true)
    (naming : b.inverse = some h.name) : counterpartOfBelongsTo x b y = some h := by
  apply pick_of_only (mem_backReferences.mpr ⟨points, fits⟩) (namesY.of_map.filter _)
  intro h' there
  obtain ⟨points', fits'⟩ := mem_backReferences.mp there
  exact List.inj_on_of_nodup_map namesY points'.declared points.declared
    ((links_iff.mp fits').1 h.name naming).symm

include namesX namesY in
/-- Between models without contested relations what one search finds finds it back. -/
theorem counterpart_iff_of_uncontested (uncontested : Uncontested x y) (owns : Owns x y b)
    (points : PointsBack x y h) :
    counterpartOfBackReference y h x = some b ↔ counterpartOfBelongsTo x b y = some h := by
  have fitting : counterpartOfBackReference y h x = some b ∨ counterpartOfBelongsTo x b y = some h →
      links b h = true := by
    rintro (found | found)
    · exact (mem_owners.mp (mem_owners_of_counterpart found)).2
    · exact (mem_backReferences.mp (mem_of_pick found)).2
  by_cases fits : links b h = true
  · obtain ⟨inverseB, inverseH⟩ := links_iff.mp fits
    cases namedH : h.inverse with
    | some name =>
      -- the relation that points back names its owner, which nobody else may do
      have naming : h.inverse = some b.name := inverseH name namedH ▸ namedH
      refine iff_of_true (counterpartOfBackReference_of_named namesX owns fits naming) ?_
      cases namedB : b.inverse with
      | some back =>
        exact counterpartOfBelongsTo_of_named namesY points fits (inverseB back namedB ▸ namedB)
      | none =>
        apply pick_of_unique (mem_backReferences.mpr ⟨points, fits⟩) naming
        intro h' there naming'
        exact uncontested.owner b owns namedB h' h (mem_backReferences.mp there).1 points naming'
          naming
    | none =>
      rw [counterpartOfBackReference_of_silent namedH]
      cases namedB : b.inverse with
      | some back =>
        -- the owner names what points back at it, which no other owner may do
        have naming : b.inverse = some h.name := inverseB back namedB ▸ namedB
        refine iff_of_true ?_ (counterpartOfBelongsTo_of_named namesY points fits naming)
        apply pick_of_unique (mem_owners.mpr ⟨owns, fits⟩) naming
        intro b' there naming'
        exact uncontested.back h points namedH b' b (mem_owners.mp there).1 owns naming' naming
      | none =>
        rw [pick_eq_some_iff (namedB ▸ nofun)]
        refine (uncontested.silent b h owns points namedB namedH).symm.trans ?_
        exact (pick_eq_some_iff (namedH ▸ nofun)).symm
  · exact iff_of_false (fun found => fits (fitting (.inl found)))
      fun found => fits (fitting (.inr found))

include namesX namesY in
/-- Relations that are found back by what they find are not contested. -/
theorem uncontested_of_counterpart_iff (agree : ∀ b h, Owns x y b → PointsBack x y h →
    (counterpartOfBackReference y h x = some b ↔ counterpartOfBelongsTo x b y = some h)) :
    Uncontested x y where
  owner := by
    intro b owns silent h h' points points' naming naming'
    have found {h : Relation} (points : PointsBack x y h) (naming : h.inverse = some b.name) :
        counterpartOfBelongsTo x b y = some h := by
      have fits : links b h = true := links_iff.mpr ⟨by simp [silent], by simp [naming]⟩
      exact (agree b h owns points).mp (counterpartOfBackReference_of_named namesX owns fits naming)
    exact Option.some.inj ((found points naming).symm.trans (found points' naming'))
  back := by
    intro h points silent b b' owns owns' naming naming'
    have found {b : Relation} (owns : Owns x y b) (naming : b.inverse = some h.name) :
        counterpartOfBackReference y h x = some b := by
      have fits : links b h = true := links_iff.mpr ⟨by simp [naming], by simp [silent]⟩
      exact (agree b h owns points).mpr (counterpartOfBelongsTo_of_named namesY points fits naming)
    exact Option.some.inj ((found owns naming).symm.trans (found owns' naming'))
  silent := by
    intro b h owns points silentB silentH
    rw [← pick_eq_some_iff (silentH ▸ nofun : h.inverse ≠ some b.name),
      ← pick_eq_some_iff (silentB ▸ nofun : b.inverse ≠ some h.name),
      ← counterpartOfBackReference_of_silent silentH]
    exact (agree b h owns points).symm

end Searches

/-! ## Labels and keys -/

/-- A relation that points back is labelled exactly by the owner that it finds. -/
theorem labelled_iff {label : String} (points : PointsBack x y h)
    (found : Model.find? models h.target = some x) :
    Labelled y models h label ↔
      ∃ b, counterpartOfBackReference y h x = some b ∧ label = belongsToLabel x.name b.name := by
  constructor
  · rintro ⟨c, every, carried⟩
    obtain ⟨target, found', ⟨belongs, _⟩ | ⟨_, rfl⟩ | ⟨many, _⟩⟩ :=
      member_cases (every (Plan.ofModels models) [])
    · have back := points.back
      simp only [Relation.isBackReference, eq_of_beq belongs] at back
      cases back
    · cases found.symm.trans found'
      exact label_of_labelOf carried
    · have back := points.back
      simp only [Relation.isBackReference, eq_of_beq many] at back
      cases back
  · rintro ⟨b, counterpart, rfl⟩
    refine ⟨backReferenceMember y h x (h.kind == some .hasOne), ?_, ?_⟩
    · intro plan keys
      have kinds : h.kind = some .hasOne ∨ h.kind = some .hasMany := by
        simpa [Relation.isBackReference] using points.back
      unfold member
      rcases kinds with kind | kind <;> simp only [found, kind] <;> rfl
    · unfold backReferenceMember labelOf
      rw [counterpart]
      exact List.mem_singleton_self _

/-- Between models without contested relations what points back at the first one under the label of
a relation is what the relation finds. -/
theorem labelled_iff_counterpart (namesX : (x.relations.map (·.name)).Nodup)
    (namesY : (y.relations.map (·.name)).Nodup) (uncontested : Uncontested x y) (owns : Owns x y b)
    (points : PointsBack x y h) (found : Model.find? models h.target = some x) :
    Labelled y models h (belongsToLabel x.name b.name) ↔ counterpartOfBelongsTo x b y = some h := by
  rw [labelled_iff points found,
    ← counterpart_iff_of_uncontested namesX namesY uncontested owns points]
  constructor
  · rintro ⟨b', counterpart, same⟩
    obtain ⟨owns', _⟩ := mem_owners.mp (mem_owners_of_counterpart counterpart)
    rwa [List.inj_on_of_nodup_map namesX owns.declared owns'.declared (belongsToLabel_inj same)]
  · exact fun counterpart => ⟨b, counterpart, rfl⟩

/-- A synthesized key holds different values if what its relation finds holds one row. -/
theorem unique_of_synthesize {key field : Field} (made : synthesize x b y key = .ok field) :
    field.unique = (counterpartOfBelongsTo x b y).any (·.kind == some .hasOne) := by
  obtain ⟨_, rfl⟩ := exists_type_of_buildField made
  rfl

/-- The key that a relation synthesizes is synthesized for no other relation. -/
theorem synthesize_of_mem (distinct :
      ((x.relations.filter (Validation.synthesizes x)).map (·.expectedForeignKey)).Nodup)
    (owns : Owns x y b) (undeclared : x.field? b.expectedForeignKey = none)
    (found : Model.find? models b.target = some y) {keys : List ForeignKey}
    (made : foreignKeys x models = .ok keys) {fk : ForeignKey} (mem : fk ∈ keys)
    (named : fk.field.name = b.expectedForeignKey) :
    y.referenceKey = some fk.key ∧ synthesize x b y fk.key = .ok fk.field := by
  obtain ⟨r, target, key, first, found', referenced, here⟩ := (foreignKeys_stem made).2.1 fk mem
  have expected : r.expectedForeignKey = b.expectedForeignKey :=
    (eq_of_beq (List.find?_some first :)).trans named
  obtain ⟨declaredR, kindR⟩ := List.mem_filter.mp (List.mem_of_find?_eq_some first)
  have same : r = b := Validation.eq_of_synthesizes distinct declaredR kindR owns.declared
    owns.belongs expected undeclared
  subst same
  cases found.symm.trans found'
  obtain ⟨rfl, ⟨declared, _⟩ | ⟨_, _, synthesized⟩⟩ := foreignKeyOf_cases here
  · cases undeclared.symm.trans declared
  · exact ⟨referenced, synthesized⟩

/-- In models that validation accepts, the searches from both sides of two models agree exactly if
none of their relations are contested. Where they agree, no other relation that points back at the
first model is rendered under the label of one, and the key that a relation synthesizes is unique
exactly if what is rendered under the label of the relation holds one row. -/
theorem counterparts_agree_iff (names : (models.map (·.name)).Nodup) {report : Validation.Report}
    (passed : validate models = .ok report) (valid : report.isValid = true)
    (made : requiredJunctions models = .ok junctions) (memX : x ∈ models) (memY : y ∈ models) :
    ((∀ b h, Owns x y b → PointsBack x y h →
        (counterpartOfBackReference y h x = some b ↔ counterpartOfBelongsTo x b y = some h)) ↔
      Uncontested x y) ∧
    (Uncontested x y →
      (∀ h, PointsBack x y h → ∀ y' ∈ models, ∀ h', PointsBack x y' h' → ∀ label,
        Labelled y (models ++ junctions) h label → Labelled y' (models ++ junctions) h' label →
        y' = y ∧ h' = h) ∧
      ∀ b, Owns x y b → x.field? b.expectedForeignKey = none → ∀ keys,
        foreignKeys x (models ++ junctions) = .ok keys → ∀ key ∈ keys,
        key.field.name = b.expectedForeignKey →
        (key.field.unique = true ↔ ∃ h, PointsBack x y h ∧ h.kind = some .hasOne ∧
          Labelled y (models ++ junctions) h (belongsToLabel x.name b.name))) := by
  have clean : Clean (validate models) := ⟨report, passed, valid⟩
  have accepted := Validation.accepted_of_clean clean
  have sound := (Validation.validate_clean_iff.mp clean).1
  have namesX := accepted.distinct x memX
  have namesY := accepted.distinct y memY
  have found {m : Model} (mem : m ∈ models) : Model.find? (models ++ junctions) m.name = some m :=
    find?_beside accepted made ((Model.find?_eq_some_iff names).mpr ⟨mem, rfl⟩)
  refine ⟨⟨uncontested_of_counterpart_iff namesX namesY, fun uncontested b h =>
    counterpart_iff_of_uncontested namesX namesY uncontested⟩, ?_⟩
  intro uncontested
  have labelled {b h : Relation} (owns : Owns x y b) (points : PointsBack x y h) :=
    labelled_iff_counterpart namesX namesY uncontested owns points (points.target ▸ found memX)
  constructor
  · intro h points y' memY' h' points' label carried carried'
    obtain ⟨b, counterpart, rfl⟩ := (labelled_iff points (points.target ▸ found memX)).mp carried
    obtain ⟨b', counterpart', same⟩ :=
      (labelled_iff points' (points'.target ▸ found memX)).mp carried'
    obtain ⟨owns, _⟩ := mem_owners.mp (mem_owners_of_counterpart counterpart)
    obtain ⟨owns', _⟩ := mem_owners.mp (mem_owners_of_counterpart counterpart')
    have sameOwner : b = b' := List.inj_on_of_nodup_map namesX owns.declared owns'.declared
      (belongsToLabel_inj same)
    subst sameOwner
    have sameModel : y' = y := List.inj_on_of_nodup_map names memY' memY
      (owns'.target.symm.trans owns.target)
    subst sameModel
    have finds := (labelled owns points).mp carried
    have finds' := (labelled owns points').mp carried'
    exact ⟨rfl, Option.some.inj (finds'.symm.trans finds)⟩
  · intro b owns undeclared keys done key mem name
    obtain ⟨_, synthesized⟩ := synthesize_of_mem
      (Validation.checkRelations_keyed (sound x memX).relations).2 owns undeclared
      (owns.target ▸ found memY) done mem name
    rw [unique_of_synthesize synthesized, Option.any_eq_true]
    constructor
    · rintro ⟨h, counterpart, single⟩
      obtain ⟨points, _⟩ := mem_backReferences.mp (mem_of_pick counterpart)
      exact ⟨h, points, eq_of_beq single, (labelled owns points).mpr counterpart⟩
    · rintro ⟨h, points, single, carried⟩
      exact ⟨h, (labelled owns points).mp carried, beq_iff_eq.mpr single⟩

/-- The holder of a card and the card of a reader find each other. -/
theorem counterparts_agree_lending : (lending.map (·.name)).Nodup ∧ Clean (validate lending) ∧
    requiredJunctions lending = .ok [] ∧ card ∈ lending ∧ reader ∈ lending ∧
    Uncontested card reader ∧ Owns card reader (.plain "holder" .belongsTo "Reader") ∧
    card.field? "holderId" = none ∧ ∃ keys, foreignKeys card (lending ++ []) = .ok keys ∧
      ∃ key ∈ keys, key.field.name = "holderId" ∧ (key.field.unique = true ↔
        ∃ h, PointsBack card reader h ∧ h.kind = some .hasOne ∧
          Labelled reader (lending ++ []) h "Card_holder") := by
  have names : (lending.map (·.name)).Nodup := by decide
  obtain ⟨report, passed, valid⟩ := lending_clean
  have made : requiredJunctions lending = .ok [] := rfl
  have memReader : reader ∈ lending := List.mem_cons_self
  have memCard : card ∈ lending := List.mem_cons_of_mem _ List.mem_cons_self
  obtain ⟨agree, onwards⟩ := counterparts_agree_iff names passed valid made memCard memReader
  have uncontested : Uncontested card reader := by
    refine agree.mp fun b h owns points => ?_
    obtain rfl := List.mem_singleton.mp owns.declared
    obtain rfl | rfl := List.mem_pair.mp points.declared
    · exact iff_of_true rfl rfl
    · exact absurd points.target (by decide)
  have owns : Owns card reader (.plain "holder" .belongsTo "Reader") :=
    ⟨List.mem_singleton_self _, rfl, rfl⟩
  have keyed := (onwards uncontested).2 _ owns rfl _ rfl _ (List.mem_singleton_self _) rfl
  exact ⟨names, ⟨report, passed, valid⟩, made, memCard, memReader, uncontested, owns, rfl, _, rfl,
    _, List.mem_singleton_self _, rfl, keyed⟩

/-- A person with a passport among other documents. -/
def person : Model := .entity "Person" [
  { Relation.plain "documents" .hasMany "Document" with inverse := some "holder" },
  .plain "passport" .hasOne "Document"]

/-- A document has a holder. -/
def document : Model := .entity "Document" [.plain "holder" .belongsTo "Person"]

/-- A passport finds the holder that finds all documents instead. Both carry the label of the
holder, and the key of the holder is not unique although a person has one passport. -/
theorem passport_contests_documents : ([person, document].map (·.name)).Nodup ∧
    Clean (validate [person, document]) ∧ requiredJunctions [person, document] = .ok [] ∧
    ∃ documents passport holder, PointsBack document person documents ∧
      PointsBack document person passport ∧ Owns document person holder ∧
      ¬ (counterpartOfBackReference person passport document = some holder ↔
        counterpartOfBelongsTo document holder person = some passport) ∧
      documents ≠ passport ∧ Labelled person [person, document] documents "Document_holder" ∧
      Labelled person [person, document] passport "Document_holder" ∧
      passport.kind = some .hasOne ∧ document.field? "holderId" = none ∧
      ∃ keys, foreignKeys document [person, document] = .ok keys ∧
        keys.map (fun key => (key.field.name, key.field.unique)) = [("holderId", false)] := by
  have sound : ∀ m ∈ [person, document], Validation.Sound [person, document] m :=
    Validation.entities_sound (by decide : ∀ e ∈ [("Person", _), ("Document", _)], _)
  have clean : Clean (validate [person, document]) :=
    Validation.validate_clean_iff.mpr ⟨sound, by cbv, Validation.clean_iff_toOption.mpr (by cbv)⟩
  refine ⟨by decide, clean, rfl, _, .plain "passport" .hasOne "Document",
    .plain "holder" .belongsTo "Person", ⟨List.mem_cons_self, rfl, rfl⟩,
    ⟨List.mem_cons_of_mem _ List.mem_cons_self, rfl, rfl⟩, ⟨List.mem_singleton_self _, rfl, rfl⟩,
    by decide, by decide, ?_, ?_, rfl, rfl, _, rfl, rfl⟩
  · exact ⟨_, fun _ _ => rfl, List.mem_singleton_self _⟩
  · exact ⟨_, fun _ _ => rfl, List.mem_singleton_self _⟩

end SchemaCompiler.Resolver
