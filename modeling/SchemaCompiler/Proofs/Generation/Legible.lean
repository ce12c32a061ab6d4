import SchemaCompiler.Proofs.Column.Legible
import SchemaCompiler.Proofs.Document.Index
import SchemaCompiler.Proofs.Generation.Closure
import SchemaCompiler.Proofs.Generation.ForeignKey
import SchemaCompiler.Proofs.Resolver.Legible

/-!
# Legible blocks of models

Among legible models, declared and synthesized, the block of each is legible
(`legible_of_blockUnder`): a relation member has the name of its relation, the name of a model for a
type, and a label made of names, and a directive begins with an at sign.
-/

set_option autoImplicit false

namespace SchemaCompiler

open Junction (Implicit Plan Side)
open Text (IsName NoBlank OneLine)

namespace Resolver

variable {models junctions : List Model} {m t : Model} {r : Relation} {c : Column} {j : Implicit}
  {s : Side} {keys : List ForeignKey} {label : String}

/-! ## Labels -/

theorem oneLine_belongsToLabel {model relation : String} (h : OneLine model)
    (own : OneLine relation) : OneLine (belongsToLabel model relation) :=
  (h.append (by decide)).append own

theorem marked_of_mem_labelOf {name : String} {owner : Option Relation} (h : OneLine name)
    (own : ∀ r, owner = some r → OneLine r.name) {a : Attribute} (mem : a ∈ labelOf name owner) :
    Marked a.render := by
  obtain ⟨r, found, rfl⟩ := Option.map_eq_some_iff.mp (Option.mem_toList.mp mem)
  exact Attribute.marked_relation (oneLine_belongsToLabel h (own r found)) nofun

/-- The labels of a junction's sides have one line. -/
theorem oneLine_label (planned : j ∈ (Plan.ofModels models).junctions)
    (names : ∀ m ∈ models, NoBlank m.name) (named : OneLine j.name) (mem : s ∈ j.sides) :
    OneLine s.label := by
  have junction : OneLine s.junction := (side_of_planned planned mem).1 ▸ named
  exact (junction.append (by decide)).append (noBlank_foreignKey planned names mem).oneLine

theorem oneLine_ownerLabel (names : ∀ m ∈ models, NoBlank m.name) (h : m.Legible)
    (own : r.Legible) {key : String}
    (made : ownerLabel (Plan.ofModels models) m r key = .ok label) : OneLine label := by
  unfold ownerLabel at made
  split at made
  · cases made
    exact oneLine_belongsToLabel h.name.oneLine own.name.oneLine
  · next j found =>
    split at made
    · next s side =>
      cases made
      have planned := List.mem_reverse.mp (List.mem_of_find?_eq_some found)
      have named : j.name = m.name := eq_of_beq (List.find?_some found :)
      exact oneLine_label planned names (named ▸ h.name.oneLine) (List.mem_of_find?_eq_some side)
    · cases made

/-! ## Members -/

section Members

variable (made : junctionModels (Plan.ofModels models) models = .ok junctions)
  (legible : ∀ m ∈ models ++ junctions, m.Legible)

include made legible

/-- The attributes of a member begin with an at sign. -/
theorem marked_of_member (mem : m ∈ models ++ junctions) (declared : r ∈ m.relations)
    (keyed : ∀ k ∈ keys, NoBlank k.key.name)
    (here : member (Plan.ofModels models) m (models ++ junctions) keys r = .ok (some c))
    {a : Attribute} (within : a ∈ c.attributes) : Marked a.render := by
  have names : ∀ m ∈ models, NoBlank m.name := fun m mem =>
    (legible m (List.mem_append_left _ mem)).name.noBlank
  have own := (legible m mem).relations r declared
  have relation {t : Model} {name : String}
      (found : Model.find? (models ++ junctions) name = some t) {r : Relation}
      (declared : r ∈ t.relations) : OneLine r.name :=
    ((legible t (Model.mem_of_find? found)).relations r declared).name.oneLine
  have model {t : Model} {name : String} (found : Model.find? (models ++ junctions) name = some t) :
      OneLine t.name := (legible t (Model.mem_of_find? found)).name.oneLine
  obtain ⟨target, found, ⟨_, owns⟩ | ⟨_, rfl⟩ | ⟨_, many⟩⟩ := member_cases here
  · obtain ⟨label, ref, labelled, first, rfl⟩ := belongsToMember_eq owns
    rw [List.mem_singleton.mp within]
    refine Attribute.marked_relation (oneLine_ownerLabel names (legible m mem) own labelled) ?_
    intro reference is
    cases is
    have key := keyed ref (List.mem_reverse.mp (List.mem_of_find?_eq_some first))
    exact ⟨own.expectedForeignKey.oneLine, key.oneLine⟩
  · refine marked_of_mem_labelOf (model found) (fun owner counterpart => ?_) within
    have owned := List.mem_of_mem_filter (mem_owners_of_counterpart counterpart)
    exact relation found (List.mem_of_mem_filter owned)
  · obtain ⟨_, junction, _, there, rfl⟩ | ⟨s, found, rfl⟩ := manyToManyMember_cases many
    · refine marked_of_mem_labelOf (model there) (fun owner points => ?_) within
      exact relation there (List.mem_of_mem_filter (List.mem_of_find?_eq_some points))
    · rw [List.mem_singleton.mp within]
      refine Attribute.marked_relation ?_ nofun
      obtain ⟨j, planned, side⟩ :=
        List.mem_flatMap.mp (List.mem_reverse.mp (List.mem_of_find?_eq_some found))
      obtain ⟨t, there, same⟩ := exists_junction_of_side made found
      have named : j.name = t.name := (side_of_planned planned side).1.symm.trans same
      have junction := legible t (List.mem_append_right _ there)
      exact oneLine_label planned names (named ▸ junction.name.oneLine) side

/-- The members of a legible model are legible. -/
theorem legible_of_mem_members (mem : m ∈ models ++ junctions) {columns : List Column}
    (keyed : ∀ keys, foreignKeys m (models ++ junctions) = .ok keys →
      ∀ k ∈ keys, NoBlank k.key.name)
    (rendered : members (Plan.ofModels models) m (models ++ junctions) = .ok columns)
    (within : c ∈ columns) : c.Legible := by
  obtain ⟨keys, referenced, r, declared, here⟩ := mem_members rendered within
  refine ⟨?_, ?_, fun a given => ?_⟩
  · rw [name_of_member here]
    exact ((legible m mem).relations r declared).name
  · obtain ⟨t, there, about⟩ := exists_model_of_member made here
    have name := Quiet.of_isName (legible t there).name
    cases type : c.type with
    | scalar s =>
      rw [type] at about
      cases about
    | one model =>
      rw [type] at about
      cases about
      exact name
    | many model =>
      rw [type] at about
      cases about
      exact name.append (by decide +kernel)
    | written text =>
      rw [type] at about
      cases about
  · exact (marked_of_member made legible mem declared (keyed keys referenced) here given).quiet

end Members

end Resolver

namespace Generation

open Resolver (foreignKeys requiredJunctions)

variable {o : Options} {f : Formatter} {models junctions : List Model} {m : Model}
  {keys : List ForeignKey} {b : ModelBlock} {c : Column} {table : String}

/-! ## Foreign keys -/

/-- The foreign keys of legible models and the keys that they reference are legible. -/
theorem legible_of_foreignKey {all : List Model} (legible : ∀ m ∈ all, m.Legible) (mem : m ∈ all)
    (made : foreignKeys m all = .ok keys) {k : ForeignKey} (within : k ∈ keys) :
    k.field.Legible ∧ k.key.Legible := by
  refine Resolver.holds_of_foreignKey (fun m mem => (legible m mem).fields) mem ?_ made within
  intro r declared key f unique own built
  have named := ((legible m mem).relations r declared).expectedForeignKey
  exact Resolver.legible_of_buildField named own built

/-- The columns of a legible model are legible. -/
theorem legible_of_mem_columns {columns : List Column} (legible : m.Legible)
    (keyed : ∀ k ∈ keys, k.field.Legible ∧ k.key.Legible)
    (made : Generation.columns o m keys = .ok columns) (mem : c ∈ columns) : c.Legible := by
  rcases column_cases made mem with ⟨f, within, here⟩ | ⟨k, within, here⟩ | ⟨name, among, here⟩
  · refine FieldMapper.legible_of_mapField (legible.fields f within) (fun key found => ?_) here
    obtain ⟨k, there, rfl⟩ := Resolver.exists_of_referencedKey found
    exact (keyed k there).2
  · obtain ⟨field, referenced⟩ := keyed k (List.mem_of_mem_filter within)
    have follows (key : Field) (is : some k.key = some key) : key.Legible :=
      Option.some.inj is ▸ referenced
    exact FieldMapper.legible_of_mapField field follows here
  · exact FieldMapper.legible_of_auditColumn (free_of_mem_auditNamesOf among).1 here

/-! ## Directives -/

theorem marked_keyDirective {names : List String} (h : ∀ name ∈ names, OneLine name) :
    Marked (ModelBlock.keyDirective names) :=
  (Marked.append ⟨rfl, by decide⟩ (Text.oneLine_intercalate (by decide) h)).append (by decide)

theorem marked_index {kind : ConstraintKind} {names : List String} (named : OneLine table)
    (h : ∀ name ∈ names, OneLine name) : Marked (Index.ofColumns table kind names).render := by
  have columns : OneLine (", ".intercalate names) := Text.oneLine_intercalate (by decide) h
  have name : OneLine (Index.ofColumns table kind names).name := by
    refine Text.oneLine_intercalate (by decide) (List.forall_mem_cons.mpr ⟨?_,
      List.forall_mem_cons.mpr ⟨named, List.forall_mem_map.mpr fun name mem => ?_⟩⟩)
    · cases kind <;> decide
    · exact Text.oneLine_snakeCase (h name mem)
  have listed (directive : String) (h : Marked directive) : Marked (directive ++ "([" ++
      ", ".intercalate names ++ "], map: \"" ++ (Index.ofColumns table kind names).name ++ "\")") :=
    ((((h.append (by decide)).append columns).append (by decide)).append name).append (by decide)
  cases kind
  · exact listed "@@unique" ⟨rfl, by decide⟩
  · exact listed "@@index" ⟨rfl, by decide⟩

/-- The columns of an index of a legible model have names of one line. -/
theorem oneLine_of_request (legible : m.Legible) {foreignKeys : List String}
    (keyed : ∀ name ∈ foreignKeys, OneLine name) {request : ConstraintKind × List String}
    (mem : request ∈ Index.requests m foreignKeys) : ∀ name ∈ request.2, OneLine name := by
  have constrained {kind : ConstraintKind} {fields : List String}
      (mem : fields ∈ Index.constrained m kind) : ∀ name ∈ fields, OneLine name := by
    obtain ⟨c, within, rfl⟩ := List.mem_map.mp mem
    exact legible.constraints c (List.mem_of_mem_filter within)
  unfold Index.requests at mem
  simp only [List.mem_append, or_assoc] at mem
  rcases mem with unique | key | indexed | index
  · obtain ⟨fields, within, rfl⟩ := List.mem_map.mp unique
    exact constrained within
  · obtain ⟨name, within, rfl⟩ := List.mem_map.mp key
    exact List.forall_mem_singleton.mpr (keyed name (List.mem_of_mem_filter within))
  · obtain ⟨name, within, rfl⟩ := List.mem_map.mp indexed
    obtain ⟨f, flagged, rfl⟩ := List.mem_map.mp (List.mem_of_mem_filter within)
    have field := legible.fields f (List.mem_of_mem_filter flagged)
    exact List.forall_mem_singleton.mpr field.name.oneLine
  · obtain ⟨fields, within, rfl⟩ := List.mem_map.mp index
    exact constrained within

/-- The indexes of a legible model begin with an at sign. -/
theorem marked_of_mem_indexes (legible : m.Legible) (keyed : ∀ k ∈ keys, k.field.Legible)
    {indexes : List Index} (made : Generation.indexes o f m keys = .ok indexes) {i : Index}
    (mem : i ∈ indexes) : Marked i.render := by
  unfold Generation.indexes at made
  split at made
  · have made := Outcome.mapError_ok_iff.mp made
    unfold Index.ofModel at made
    split at made
    · cases made
    · cases made
      obtain ⟨request, within, rfl⟩ := List.mem_map.mp mem
      refine marked_index (legible.captioned.physicalTable f)
        (oneLine_of_request legible (fun name among => ?_) (Index.distinct_subset within))
      obtain ⟨k, there, rfl⟩ := List.mem_map.mp among
      exact (keyed k (List.mem_of_mem_filter there)).name.oneLine
  · cases made
    cases mem

/-- The directives that map a block to its table begin with an at sign. -/
theorem marked_of_mem_tableDirectives (legible : m.Legible) {t : String}
    (mem : t ∈ f.tableDirectives m.table) : Marked t := by
  unfold Formatter.tableDirectives at mem
  rcases List.mem_cons.mp mem with rfl | schema
  · exact (Marked.append ⟨rfl, by decide⟩ (legible.captioned.physicalTable f)).append (by decide)
  · split at schema
    · rw [List.mem_singleton.mp schema]
      refine (Marked.append ⟨rfl, by decide⟩ ?_).append (by decide)
      unfold Formatter.schemaName
      split
      · decide
      · exact legible.captioned.homeModule
    · cases schema

/-! ## Blocks -/

/-- The block of a legible model among legible models is legible. -/
theorem legible_of_blockUnder (made : requiredJunctions models = .ok junctions)
    (legible : ∀ m ∈ models ++ junctions, m.Legible) (mem : m ∈ models ++ junctions)
    (block : blockUnder o f (Plan.ofModels models) m (models ++ junctions) = .ok b) :
    b.Legible f := by
  obtain ⟨keys, referenced, rest⟩ := Outcome.bind_ok_iff.mp block
  obtain ⟨columns, mapped, rest⟩ := Outcome.bind_ok_iff.mp rest
  obtain ⟨relations, rendered, rest⟩ := Outcome.bind_ok_iff.mp rest
  obtain ⟨indexes, indexed, done⟩ := Outcome.bind_ok_iff.mp rest
  cases done
  have own := legible m mem
  have keyed := fun k => legible_of_foreignKey legible mem referenced (k := k)
  have named (again : List ForeignKey) (made : foreignKeys m (models ++ junctions) = .ok again) :
      ∀ k ∈ again, NoBlank k.key.name := by
    cases referenced.symm.trans made
    exact fun k within => (keyed k within).2.name
  have declared : ∀ c ∈ columns, c.Legible := fun _ => legible_of_mem_columns own keyed mapped
  have related : ∀ c ∈ relations, c.Legible := fun _ =>
    Resolver.legible_of_mem_members made legible mem named rendered
  refine ⟨own.name, ?_, List.forall_mem_append.mpr ⟨declared, related⟩, fun t directive => ?_⟩
  · cases described : m.description with
    | none => exact (by decide : OneLine "")
    | some t => exact own.description t described
  · unfold ModelBlock.directives at directive
    simp only [List.mem_append, or_assoc] at directive
    rcases directive with key | index | table
    · split at key
      · cases key
      · rw [List.mem_singleton.mp key]
        refine (marked_keyDirective fun name within => ?_).quiet
        cases composite : m.compositeKey with
        | none =>
          rw [composite] at within
          cases within
        | some names =>
          rw [composite] at within
          exact own.compositeKey composite name within
    · obtain ⟨i, within, rfl⟩ := List.mem_map.mp index
      exact (marked_of_mem_indexes own (fun k mem => (keyed k mem).1) indexed within).quiet
    · exact (marked_of_mem_tableDirectives own table).quiet

end Generation

end SchemaCompiler
