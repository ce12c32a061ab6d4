import SchemaCompiler.Proofs.Generation.Dialect
import SchemaCompiler.Proofs.Generation.Optional
import SchemaCompiler.Proofs.Resolver.Legible
import SchemaCompiler.Proofs.Validation.DeclaredKey
import SchemaCompiler.Proofs.Validation.PrimaryKey

/-!
# Junctions under the checks of declared models

The models of junctions are made after validation, and nobody checks them. Their keys and fields
would pass, but their relations need not: the relation of a side is named for its participant, and
where the name of one participant is that of the other with the ending of a key, it is the name of
the other side's key. The checks of a junction are clean exactly if this is not so and the keys
of the participants are spelled as abstract types, as those of checked models are
(`junction_sound_iff`).
-/

set_option autoImplicit false

namespace SchemaCompiler

/-! ## Names of keys and relations -/

namespace Junction

/-- Neither of two names, with its first letter in lower case, is the other with the ending of a
key. -/
def Apart (a b : String) : Prop :=
  Text.lowerFirst a ≠ Text.lowerFirst b ++ "Id" ∧ Text.lowerFirst b ≠ Text.lowerFirst a ++ "Id"

instance (a b : String) : Decidable (Apart a b) := inferInstanceAs (Decidable (_ ∧ _))

theorem ne_append_id (stem : String) : stem ≠ stem ++ "Id" := by
  intro same
  have length := congrArg String.length same
  have ending : "Id".length = 2 := by decide
  rw [String.length_append, ending] at length
  omega

/-- The key of the second side, without the ending. -/
def secondStem (pair : String × String) : String :=
  if firstKey pair == Text.lowerFirst pair.2 ++ "Id" then "related" ++ pair.2
  else Text.lowerFirst pair.2

theorem secondKey_eq (pair : String × String) : secondKey pair = secondStem pair ++ "Id" := by
  unfold secondKey secondStem
  split <;> rfl

/-- No key of a junction has the name of the other one without the ending exactly if the names of
the participants are apart. -/
theorem stems_apart_iff (pair : String × String) :
    Text.lowerFirst pair.1 ≠ secondKey pair ∧ secondStem pair ≠ firstKey pair ↔
      Apart pair.1 pair.2 := by
  by_cases same : firstKey pair = Text.lowerFirst pair.2 ++ "Id"
  · -- the second key has a prefix that makes it longer than the first name and the first key
    have stem : secondStem pair = "related" ++ pair.2 := if_pos (beq_iff_eq.mpr same)
    have prefixed : "related".length = 7 := by decide
    have ending : "Id".length = 2 := by decide
    have first := congrArg String.length same
    have lower := (Text.lowerFirst_length pair.2).2
    unfold Apart
    rw [secondKey_eq, stem, same]
    unfold firstKey at same first
    rw [← same]
    simp only [String.length_append] at first
    refine iff_of_true ⟨fun equal => ?_, fun equal => ?_⟩ ⟨ne_append_id _, ?_⟩
    · have length := congrArg String.length equal
      simp only [String.length_append, prefixed, ending] at length
      omega
    · have length := congrArg String.length equal
      simp only [String.length_append, prefixed, ending] at length
      omega
    · rw [same]
      exact ne_append_id _
  · have stem : secondStem pair = Text.lowerFirst pair.2 :=
      if_neg fun equal => same (beq_iff_eq.mp equal)
    rw [secondKey_eq, stem]
    exact Iff.rfl

end Junction

/-! ## The types of copied keys -/

/-- The type of a field is spelled as an abstract type, be it checked or not. -/
def Field.SpelledAbstract (f : Field) : Prop :=
  ∀ type, f.type = some type → ∃ kind : FieldKind, type.spelling = kind.name

/-- The types of checked fields are abstract types. -/
theorem Field.Checked.spelledAbstract {f : Field} (checked : f.Checked) : f.SpelledAbstract := by
  intro type typed
  cases type with
  | known kind => exact ⟨kind, rfl⟩
  | unchecked spelling => exact absurd typed (checked spelling)

namespace Resolver

variable {key f : Field} {name : String} {required unique : Bool}

/-- The type of a built field is an abstract type, the one that the given type is spelled as if it
is spelled as one. -/
theorem type_of_buildField {given built : Field} {type : FieldType} (typed : given.type = some type)
    (h : buildField given = .ok built) : ∃ kind, built.type = some (.known kind) ∧
      ∀ kind' : FieldKind, type.spelling = kind'.name → kind = kind' := by
  unfold buildField Field.checked at h
  rw [typed] at h
  cases type with
  | known kind =>
    cases h
    exact ⟨kind, rfl, fun kind' same => FieldKind.eq_of_same (beq_iff_eq.mpr same)⟩
  | unchecked spelling =>
    unfold FieldType.read FieldType.parse at h
    simp only at h
    cases spelled : FieldKind.ofSpelling? spelling with
    | none =>
      rw [spelled] at h
      cases h
    | some kind =>
      rw [spelled] at h
      cases h
      refine ⟨kind, rfl, ?_⟩
      rintro kind' rfl
      exact Option.some.inj (spelled.symm.trans (FieldKind.ofSpelling?_name kind'))

/-- The copy of a key has its type exactly if the type of the key is spelled as an abstract type. -/
theorem sameType_of_copy_iff (typed : key.type.isSome = true)
    (built : buildField { keyCopy name key with required, unique } = .ok f) :
    Validation.SameType f key ↔ key.SpelledAbstract := by
  obtain ⟨type, typed⟩ := Option.isSome_iff_exists.mp typed
  obtain ⟨kind, known, only⟩ := type_of_buildField (by exact typed) built
  constructor
  · intro same type' typed'
    exact ⟨kind, (eq_of_beq (same _ _ known typed')).symm⟩
  · intro spelled s t typeS typeT
    obtain ⟨kind', spelling⟩ := spelled t typeT
    cases known.symm.trans typeS
    cases typed.symm.trans typeT
    rw [only kind' spelling]
    exact beq_iff_eq.mpr spelling.symm

/-- The copy of a key that can be taken can be taken under another name. -/
theorem takeable_of_copy (named : name ≠ "") (takeable : Validation.Takeable key)
    (built : buildField { keyCopy name key with required, unique } = .ok f) :
    Validation.Takeable f := by
  obtain ⟨type, typed⟩ := Option.isSome_iff_exists.mp takeable.typed
  obtain ⟨kind, known, _⟩ := type_of_buildField (by exact typed) built
  obtain ⟨type', rfl⟩ := exists_type_of_buildField built
  obtain ⟨limit, sized, showable⟩ := takeable.limited
  exact ⟨named, known ▸ rfl, limit, (maxLength_keyCopy name key).trans sized, showable⟩

end Resolver

namespace Generation

open Junction (Apart Implicit Plan Side firstKey secondKey secondStem)
open Resolver (buildField junctionModel keyCopy relationNameOf requiredJunctions sideRelation)
open Validation (Clean DeclaresKey SameType checkFields checkPrimaryKey checkRelations validate)

variable {models junctions : List Model} {m : Model} {j : Implicit} {s : Side}

/-- The keys of a junction and the names of its relations, in the order of its sides. -/
theorem names_of_planned (planned : j ∈ (Plan.ofModels models).junctions) :
    j.sides.map (·.model) = [j.pair.1, j.pair.2] ∧
      j.sides.map (·.foreignKey) = [firstKey j.pair, secondKey j.pair] ∧
      j.sides.map (fun s => relationNameOf s.foreignKey) =
        [Text.lowerFirst j.pair.1, secondStem j.pair] := by
  obtain ⟨x, y, _, _, _, _, _, _, _, between⟩ := Plan.eq_between_of_mem planned
  rw [between]
  refine ⟨rfl, rfl, ?_⟩
  show [relationNameOf (firstKey j.pair), relationNameOf (secondKey j.pair)] = _
  rw [Junction.secondKey_eq, Resolver.relationNameOf_append]
  unfold firstKey
  rw [Resolver.relationNameOf_append]
  rfl

/-- The key on a side of a junction's model is a copy of the key of the side's participant. -/
theorem exists_participant (planned : j ∈ (Plan.ofModels models).junctions)
    (here : junctionModel models j = .ok m) (side : s ∈ j.sides) :
    ∃ d p key, m.field? s.foreignKey = some d ∧ Model.find? models s.model = some p ∧
      p.referenceKey = some key ∧
      buildField { keyCopy s.foreignKey key with required := true } = .ok d := by
  obtain ⟨_, _, fields⟩ := Resolver.junctionModel_ok here
  obtain ⟨d, there, copied⟩ := Outcome.exists_of_mem_left fields side
  obtain ⟨p, key, found, referenced, built⟩ := Resolver.sideField_ok copied
  refine ⟨d, p, key, ?_, found, referenced, built⟩
  rw [← Resolver.name_of_sideField copied]
  refine Model.field?_of_mem ?_ there
  rw [Resolver.fieldNames_of_junctionModel here]
  exact Plan.foreignKeys_nodup planned

/-! ## The checks -/

/-- The composite key of a junction passes its check. -/
theorem checkPrimaryKey_of_junctionModel (planned : j ∈ (Plan.ofModels models).junctions)
    (here : junctionModel models j = .ok m) : (checkPrimaryKey m).isValid = true := by
  have distinct : m.fieldNames.Nodup := by
    rw [Resolver.fieldNames_of_junctionModel here]
    exact Plan.foreignKeys_nodup planned
  have composite : m.compositeKey = some m.fieldNames := by
    obtain ⟨_, _, _, _, _, _, _, _, _, key⟩ := Resolver.texts_of_junctionModel here
    have names := Resolver.fieldNames_of_junctionModel here
    rw [(names_of_planned planned).2.1] at names
    unfold Model.fieldNames at names ⊢
    unfold Model.compositeKey
    rw [key, names]
  refine (Validation.checkPrimaryKey_composite_iff composite).mpr
    ⟨?_, fun name among => ?_, distinct⟩
  · refine List.filter_eq_nil_iff.mpr fun f within => ?_
    obtain ⟨s, _, copied⟩ :=
      Outcome.exists_of_mem_right (Resolver.junctionModel_ok here).2.2 within
    obtain ⟨_, _, _, _, built⟩ := Resolver.sideField_ok copied
    obtain ⟨_, rfl⟩ := Resolver.exists_type_of_buildField built
    exact Bool.false_ne_true
  · obtain ⟨f, within, rfl⟩ := List.mem_map.mp among
    rw [Model.field?_of_mem distinct within]
    rfl

section Accepted

variable (clean : Clean (validate models)) (made : requiredJunctions models = .ok junctions)

include clean in
/-- The fields of a junction pass their check. -/
theorem checkFields_of_junctionModel (planned : j ∈ (Plan.ofModels models).junctions)
    (here : junctionModel models j = .ok m) : Clean (checkFields m) := by
  refine Validation.checkFields_clean_iff.mpr ⟨?_, fun f within => ?_, ?_⟩
  · rw [Resolver.fieldNames_of_junctionModel here]
    exact Plan.foreignKeys_nodup planned
  · obtain ⟨s, side, copied⟩ :=
      Outcome.exists_of_mem_right (Resolver.junctionModel_ok here).2.2 within
    obtain ⟨p, key, found, referenced, built⟩ := Resolver.sideField_ok copied
    have sound := (Validation.validate_clean_iff.mp clean).1 p (Model.mem_of_find? found)
    have takeable := (Validation.checkFields_clean_iff.mp sound.fields).2.1 key
      (Model.mem_of_referenceKey referenced)
    exact Resolver.takeable_of_copy (Plan.foreignKey_ne_empty planned side) takeable built
  · unfold Validation.checkConstraints
    rw [Resolver.constraints_of_junctionModel here]
    rfl

include clean in
/-- The relation of a side names everything that a relation has to. -/
theorem missingParts_of_side (planned : j ∈ (Plan.ofModels models).junctions)
    (here : junctionModel models j = .ok m) (side : s ∈ j.sides) :
    Validation.missingParts (sideRelation s) = [] := by
  have accepted := Validation.accepted_of_clean clean
  have target {s : Side} (side : s ∈ j.sides) : s.model ≠ "" := by
    obtain ⟨_, p, _, _, found, _⟩ := exists_participant planned here side
    exact Model.name_of_find? found ▸ accepted.named p (Model.mem_of_find? found)
  obtain ⟨participants, _, names⟩ := names_of_planned planned
  have lowered {name : String} (among : name ∈ j.sides.map (·.model)) :
      Text.lowerFirst name ≠ "" := by
    obtain ⟨s, side, rfl⟩ := List.mem_map.mp among
    intro empty
    have length := (Text.lowerFirst_length s.model).1
    rw [empty] at length
    exact target side (String.length_eq_zero_iff.mp (Nat.le_zero.mp length))
  have name : relationNameOf s.foreignKey ≠ "" := by
    have among : relationNameOf s.foreignKey ∈ j.sides.map (fun s => relationNameOf s.foreignKey) :=
      List.mem_map_of_mem side
    rw [names] at among
    rcases List.mem_pair.mp among with first | second
    · rw [first]
      exact lowered (participants ▸ List.mem_cons_self)
    · rw [second]
      unfold secondStem
      split
      · intro empty
        have length := congrArg String.length empty
        rw [String.length_append] at length
        have prefixed : "related".length = 7 := by decide
        have none : "".length = 0 := by decide
        omega
      · exact lowered (participants ▸ List.mem_cons_of_mem _ List.mem_cons_self)
  unfold Validation.missingParts sideRelation
  simp only [beq_iff_eq, name, target side, ↓reduceIte]
  rfl

include clean made in
/-- The relation of a side declares its key in a junction's model. -/
theorem declaresKey_of_side (planned : j ∈ (Plan.ofModels models).junctions)
    (here : junctionModel models j = .ok m) (side : s ∈ j.sides) {d key : Field} {p : Model}
    (field : m.field? s.foreignKey = some d) (found : Model.find? models s.model = some p)
    (referenced : p.referenceKey = some key) :
    DeclaresKey (models ++ junctions) m (sideRelation s) d key := by
  have accepted := Validation.accepted_of_clean clean
  exact {
    complete := missingParts_of_side clean planned here side
    belongs := rfl
    implicit := rfl
    target := ⟨p, Resolver.find?_beside accepted made found, referenced⟩
    field := (Resolver.side_of_planned planned side).2.1 ▸ field }

/-- No relation of a junction has the name of a field exactly if the names of the participants are
apart. -/
theorem sideNames_free_iff (planned : j ∈ (Plan.ofModels models).junctions)
    (here : junctionModel models j = .ok m) :
    (∀ s ∈ j.sides, m.field? (sideRelation s).name = none) ↔ Apart j.pair.1 j.pair.2 := by
  obtain ⟨_, keys, names⟩ := names_of_planned planned
  have listed : (∀ s ∈ j.sides, m.field? (sideRelation s).name = none) ↔
      ∀ name ∈ j.sides.map (fun s => relationNameOf s.foreignKey), name ∉ m.fieldNames := by
    simp only [List.forall_mem_map, Model.field?_eq_none_iff]
    exact Iff.rfl
  rw [listed, names, Resolver.fieldNames_of_junctionModel here, keys, ← Junction.stems_apart_iff,
    List.forall_mem_cons, List.forall_mem_singleton]
  have own : Text.lowerFirst j.pair.1 ≠ firstKey j.pair := Junction.ne_append_id _
  have own' : secondStem j.pair ≠ secondKey j.pair :=
    Junction.secondKey_eq j.pair ▸ Junction.ne_append_id _
  simp only [List.mem_cons, List.not_mem_nil, or_false, not_or, own, own', ne_eq,
    not_false_eq_true, true_and]

include clean made in
/-- The key of a side has the type of the key that it copies exactly if that is spelled as an
abstract type. -/
theorem sameType_of_side_iff (planned : j ∈ (Plan.ofModels models).junctions)
    (here : junctionModel models j = .ok m) {s : Side} (side : s ∈ j.sides) :
    (∀ d key, DeclaresKey (models ++ junctions) m (sideRelation s) d key → SameType d key) ↔
      ∀ p key, Model.find? models s.model = some p → p.referenceKey = some key →
        key.SpelledAbstract := by
  have accepted := Validation.accepted_of_clean clean
  obtain ⟨d, p, key, field, found, referenced, built⟩ := exists_participant planned here side
  have declares := declaresKey_of_side clean made planned here side field found referenced
  have sound := (Validation.validate_clean_iff.mp clean).1 p (Model.mem_of_find? found)
  have copied : SameType d key ↔ key.SpelledAbstract := Resolver.sameType_of_copy_iff
    ((Validation.checkFields_clean sound.fields).2 key (Model.mem_of_referenceKey referenced))
    built
  constructor
  · intro same p' key' found' referenced'
    cases found.symm.trans found'
    cases referenced.symm.trans referenced'
    exact copied.mp (same d key declares)
  · intro spelled d' key' declares'
    obtain ⟨t, found', referenced'⟩ := declares'.target
    cases (Resolver.find?_beside accepted made found).symm.trans found'
    cases referenced.symm.trans referenced'
    cases declares.field.symm.trans declares'.field
    exact copied.mpr (spelled p key found referenced)

include clean made in
/-- The check of a junction's relations is clean exactly if the names of the participants are apart
and the keys that their sides copy are spelled as abstract types. -/
theorem checkRelations_of_junctionModel_iff (planned : j ∈ (Plan.ofModels models).junctions)
    (here : junctionModel models j = .ok m) : Clean (checkRelations (models ++ junctions) m) ↔
      Apart j.pair.1 j.pair.2 ∧ ∀ s ∈ j.sides, ∀ p key, Model.find? models s.model = some p →
        p.referenceKey = some key → key.SpelledAbstract := by
  obtain ⟨_, relations, _⟩ := Resolver.junctionModel_ok here
  have distinct : (m.relations.map (·.name)).Nodup :=
    Resolver.relationNames_nodup_of_represents planned (Resolver.represents_of_junctionModel here)
  have each : ∀ r ∈ m.relations, ∃ d key, DeclaresKey (models ++ junctions) m r d key := by
    rw [relations]
    refine List.forall_mem_map.mpr fun s side => ?_
    obtain ⟨d, p, key, field, found, referenced, _⟩ := exists_participant planned here side
    exact ⟨d, key, declaresKey_of_side clean made planned here side field found referenced⟩
  rw [Validation.checkRelations_declared_iff each, and_iff_right distinct, relations,
    List.forall_mem_map, ← sideNames_free_iff planned here]
  constructor
  · intro all
    exact ⟨fun s side => (all s side).1, fun s side =>
      (sameType_of_side_iff clean made planned here side).mp (all s side).2⟩
  · rintro ⟨apart, spelled⟩ s side
    exact ⟨apart s side,
      (sameType_of_side_iff clean made planned here side).mpr (spelled s side)⟩

end Accepted

/-- In models that validation accepts, the model of a junction passes the checks of its key and of
its fields among the declared and the synthesized models. It passes that of its relations exactly if
neither participant's name, with its first letter in lower case, is the other's with the ending of a
key, and the keys of both are spelled as abstract types. So the models of all junctions between
checked models pass where the names of the participants are apart. -/
theorem junction_sound_iff {report : Validation.Report} (passed : validate models = .ok report)
    (valid : report.isValid = true) (made : requiredJunctions models = .ok junctions)
    (mem : m ∈ junctions) :
    (checkPrimaryKey m).isValid = true ∧ Clean (checkFields m) ∧
    ∃ a ∈ models, ∃ b ∈ models, m.name = Junction.nameOf (a.name, b.name) ∧
      ∃ keyA keyB, a.referenceKey = some keyA ∧ b.referenceKey = some keyB ∧
        (Clean (checkRelations (models ++ junctions) m) ↔
          Apart a.name b.name ∧ keyA.SpelledAbstract ∧ keyB.SpelledAbstract) ∧
        ((∀ m ∈ models, m.Checked) →
          (Clean (checkRelations (models ++ junctions) m) ↔ Apart a.name b.name)) := by
  have clean : Clean (validate models) := ⟨report, passed, valid⟩
  obtain ⟨j, planned, here⟩ := Resolver.exists_planned made mem
  obtain ⟨x, y, _, _, _, _, _, _, _, between⟩ := Plan.eq_between_of_mem planned
  have sides : j.sides = [j.first, j.second] := rfl
  have first : j.first.model = j.pair.1 := by rw [between]; rfl
  have second : j.second.model = j.pair.2 := by rw [between]; rfl
  have name : m.name = Junction.nameOf j.pair := by
    rw [(Resolver.junctionModel_ok here).1, between]
    rfl
  obtain ⟨_, a, keyA, _, foundA, referencedA, _⟩ :=
    exists_participant planned here (s := j.first) List.mem_cons_self
  obtain ⟨_, b, keyB, _, foundB, referencedB, _⟩ :=
    exists_participant planned here (s := j.second) (List.mem_cons_of_mem _ List.mem_cons_self)
  have nameA : j.pair.1 = a.name := first ▸ (Model.name_of_find? foundA).symm
  have nameB : j.pair.2 = b.name := second ▸ (Model.name_of_find? foundB).symm
  have related : Clean (checkRelations (models ++ junctions) m) ↔
      Apart a.name b.name ∧ keyA.SpelledAbstract ∧ keyB.SpelledAbstract := by
    have only {name : String} {p : Model} {key : Field} (found : Model.find? models name = some p)
        (referenced : p.referenceKey = some key) :
        (∀ p key, Model.find? models name = some p → p.referenceKey = some key →
          key.SpelledAbstract) ↔ key.SpelledAbstract := by
      refine ⟨fun all => all p key found referenced, fun spelled p' key' found' referenced' => ?_⟩
      cases found.symm.trans found'
      cases referenced.symm.trans referenced'
      exact spelled
    rw [checkRelations_of_junctionModel_iff clean made planned here, nameA, nameB, sides,
      List.forall_mem_cons, List.forall_mem_singleton, only foundA referencedA,
      only foundB referencedB]
  refine ⟨checkPrimaryKey_of_junctionModel planned here, checkFields_of_junctionModel clean planned
    here, a, Model.mem_of_find? foundA, b, Model.mem_of_find? foundB, ?_, keyA, keyB, referencedA,
    referencedB, related, fun checked => ?_⟩
  · rw [name, ← nameA, ← nameB]
  · have spelled {p : Model} {key : Field} (found : p ∈ models)
        (referenced : p.referenceKey = some key) : key.SpelledAbstract :=
      (checked p found key (Model.mem_of_referenceKey referenced)).spelledAbstract
    rw [related, and_iff_left ⟨spelled (Model.mem_of_find? foundA) referencedA,
      spelled (Model.mem_of_find? foundB) referencedB⟩]

/-! ## Names with and without the ending -/

/-- Two models that are joined with each other. -/
def joinedPair (a b : String) : List Model := Model.entities
  [(a, [.plain "others" .manyToMany b]), (b, [.plain "others" .manyToMany a])]

/-- The junction of persons and badges passes all checks. -/
theorem junction_sound_badges : Clean (validate (joinedPair "Badge" "Person")) ∧
    (∀ m ∈ joinedPair "Badge" "Person", m.Checked) ∧
    ∃ junctions, requiredJunctions (joinedPair "Badge" "Person") = .ok junctions ∧
      ∃ m ∈ junctions, (checkPrimaryKey m).isValid = true ∧ Clean (checkFields m) ∧
        Clean (checkRelations (joinedPair "Badge" "Person" ++ junctions) m) := by
  have clean : Clean (validate (joinedPair "Badge" "Person")) :=
    Validation.validate_clean_iff.mpr ⟨Validation.entities_sound (by decide), by cbv,
      Validation.clean_iff_toOption.mpr (by cbv)⟩
  obtain ⟨report, passed, valid⟩ := clean
  have checked : ∀ m ∈ joinedPair "Badge" "Person", m.Checked := Model.entities_checked _
  have joined : (Plan.ofModels (joinedPair "Badge" "Person")).junctions.length = 1 := by cbv
  obtain ⟨j, planned⟩ := List.exists_mem_of_length_pos (joined ▸ Nat.zero_lt_one)
  obtain ⟨junctions, made⟩ := Resolver.exists_junctionModels
    (Validation.accepted_of_clean ⟨report, passed, valid⟩) checked
  obtain ⟨m, mem, _⟩ := Outcome.exists_of_mem_left made planned
  obtain ⟨keyed, fields, a, memA, b, memB, _, _, _, _, _, _, related⟩ :=
    junction_sound_iff passed valid made mem
  have apart : ∀ a ∈ joinedPair "Badge" "Person", ∀ b ∈ joinedPair "Badge" "Person",
      Apart a.name b.name := by
    decide
  exact ⟨⟨report, passed, valid⟩, checked, junctions, made, m, mem, keyed, fields,
    (related checked).mpr (apart a memA b memB)⟩

/-- The junction of persons and their identifiers has a relation of the name of one of its keys,
which the check of its relations finds. -/
theorem identifiers_junction_unsound : ((joinedPair "Person" "PersonId").map (·.name)).Nodup ∧
    Clean (validate (joinedPair "Person" "PersonId")) ∧
    ∃ junctions, requiredJunctions (joinedPair "Person" "PersonId") = .ok junctions ∧
      ∃ m ∈ junctions, ∃ report,
        checkRelations (joinedPair "Person" "PersonId" ++ junctions) m = .ok report ∧
        report.errors = [.ofRelation "PersonToPersonId" "personId"
          (.relationNamedAsField "personId")] := by
  have clean : Clean (validate (joinedPair "Person" "PersonId")) :=
    Validation.validate_clean_iff.mpr ⟨Validation.entities_sound (by decide), by cbv,
      Validation.clean_iff_toOption.mpr (by cbv)⟩
  let models := joinedPair "Person" "PersonId"
  have found : (requiredJunctions models).map (fun junctions => junctions.map fun m =>
      (checkRelations (models ++ junctions) m).map (·.errors)) =
        .ok [.ok [.ofRelation "PersonToPersonId" "personId"
          (.relationNamedAsField "personId")]] := by
    cbv
  obtain ⟨junctions, made, checked⟩ := Outcome.map_ok_iff.mp found
  obtain ⟨m, rfl, here⟩ := List.map_eq_singleton_iff.mp checked
  obtain ⟨report, done, errors⟩ := Outcome.map_ok_iff.mp here
  exact ⟨by decide, clean, [m], made, m, List.mem_singleton_self m, report, done, errors⟩

end Generation

end SchemaCompiler
