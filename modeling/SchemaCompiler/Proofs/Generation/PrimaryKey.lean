import SchemaCompiler.Proofs.Column.KeyMark
import SchemaCompiler.Proofs.Document.Opening
import SchemaCompiler.Proofs.Generation.JunctionCheck

/-!
# The primary key of a block

The mark of a primary key is put on a column field by field, and the directive of a composite key is
written when the block is printed. The two agree for every model whose key passes its check
(`hasOneKey`): either one column carries the mark, that of the field which other models reference,
and there is no directive, or no column carries it and one directive lists the composite key. An
audit column never carries the mark, nor does a foreign key that is synthesized, nor a relation.
Junctions have composite keys. What is left to the premises is that no field is given the mark for
its native type, which is written as it is given.
-/

set_option autoImplicit false

namespace SchemaCompiler

/-! ## Directives -/

namespace ModelBlock

/-- A directive declares a key. -/
def declaresKey (directive : String) : Bool := Text.startsWith directive.toList "@@id".toList

/-- The directives of a block that declare a key. -/
def keyDirectives (f : Formatter) (b : ModelBlock) : List String :=
  (b.directives f).filter declaresKey

/-- However a directive that begins like this goes on, it does not declare a key. -/
def Keyless (head : String) : Prop :=
  ∀ rest, declaresKey (head ++ rest) = false

theorem Keyless.append {head : String} (keyless : Keyless head) (more : String) :
    Keyless (head ++ more) := by
  intro rest
  rw [String.append_assoc]
  exact keyless (more ++ rest)

/-- A text that is long enough tells how everything that it begins begins. -/
theorem keyless_of_long {head : String} (long : "@@id".length ≤ head.length)
    (other : declaresKey head = false) : Keyless head := by
  intro rest
  unfold declaresKey at other ⊢
  rw [← Bool.not_eq_true, Block.startsWith_iff] at other ⊢
  rw [String.toList_append]
  intro begins
  refine other (List.prefix_of_prefix_length_le begins (List.prefix_append _ _) ?_)
  rw [String.length_toList, String.length_toList]
  exact long

theorem Keyless.itself {directive : String} (keyless : Keyless directive) :
    ¬ declaresKey directive = true := by
  have plain := keyless ""
  rw [String.append_empty] at plain
  rw [plain]
  exact Bool.false_ne_true

/-- A block has the directive of its composite key, and no other directive declares a key. -/
theorem keyDirectives_eq (f : Formatter) (b : ModelBlock) : b.keyDirectives f =
    if b.compositeKey.isEmpty then [] else [keyDirective b.compositeKey] := by
  have index (i : Index) : Keyless i.render := by
    unfold Index.render
    refine .append (.append (.append (.append (.append ?_ _) _) _) _) _
    cases i.kind <;> exact keyless_of_long (by decide) (by decide)
  have table (t : TableRef) : ∀ d ∈ f.tableDirectives t, Keyless d := by
    unfold Formatter.tableDirectives
    refine List.forall_mem_cons.mpr
      ⟨.append (.append (keyless_of_long (by decide) (by decide)) _) _, ?_⟩
    split
    · exact List.forall_mem_singleton.mpr
        (.append (.append (keyless_of_long (by decide) (by decide)) _) _)
    · exact List.forall_mem_nil _
  have indexes : (b.indexes.map (·.render)).filter declaresKey = [] :=
    List.filter_eq_nil_iff.mpr (List.forall_mem_map.mpr fun i _ => (index i).itself)
  have tables (t : TableRef) : (f.tableDirectives t).filter declaresKey = [] :=
    List.filter_eq_nil_iff.mpr fun d mem => (table t d mem).itself
  have declares : declaresKey (keyDirective b.compositeKey) = true := by
    unfold declaresKey keyDirective
    refine Block.startsWith_iff.mpr ?_
    rw [String.append_assoc, String.toList_append]
    exact List.IsPrefix.trans (by decide) (List.prefix_append _ _)
  unfold keyDirectives directives
  rw [List.filter_append, List.filter_append, indexes, List.append_nil]
  cases b.table with
  | none =>
    rw [List.filter_nil, List.append_nil]
    split
    · rfl
    · rw [List.filter_cons_of_pos declares, List.filter_nil]
  | some t =>
    simp only [tables, List.append_nil]
    split
    · rfl
    · rw [List.filter_cons_of_pos declares, List.filter_nil]

end ModelBlock

/-! ## The fields that are mapped as keys -/

namespace FieldMapper

variable {m : Model} {d key : Field} {names : List String}

/-- No field of a model with a composite key is mapped as a key on its own. -/
theorem mapsKey_of_composite (composite : m.compositeKey = some names)
    (references : String → Option Field) (d : Field) :
    mapsKey d (roleOf m references d) = false := by
  have nonempty : names.isEmpty = false :=
    List.isEmpty_eq_false_iff.mpr (Model.compositeKey_eq_some_iff.mp composite).2
  unfold mapsKey roleOf
  simp only [composite, Option.getD_some, nonempty, Bool.false_and, Bool.and_false]

/-- The field of a model that is mapped as a key is the one that others reference. -/
theorem mapsKey_iff_of_single (distinct : m.fieldNames.Nodup)
    (referenced : m.referenceKey = some key) (references : String → Option Field)
    (mem : d ∈ m.fields) :
    mapsKey d (roleOf m references d) = true ↔ d = key := by
  constructor
  · intro maps
    obtain ⟨_, only⟩ := Model.referenceKey_eq_some_iff.mp referenced
    unfold mapsKey roleOf at maps
    simp only [only, List.map_cons, List.map_nil, Bool.and_eq_true, List.contains_iff_mem,
      List.mem_singleton] at maps
    exact List.inj_on_of_nodup_map distinct mem (Model.mem_of_referenceKey referenced) maps.1.2.2
  · rintro rfl
    exact Generation.isKey_of_referenceKey referenced references

end FieldMapper

namespace Generation

open FieldMapper (mapsKey roleOf)
open Junction (Plan)
open Resolver (foreignKeys keyBehind requiredJunctions)
open Validation (Clean checkPrimaryKey validate)

variable {o : Options} {f : Formatter} {plan : Plan} {m : Model} {all models junctions : List Model}
  {b : ModelBlock}

/-- One member of a block carries the mark of a primary key: the column of the field that other
models reference, which is never empty. No directive declares a key. -/
def MarksKey (f : Formatter) (m : Model) (b : ModelBlock) : Prop :=
  ∃ k ∈ b.columns, ∃ key, b.members.filter (·.hasId) = [k] ∧ m.referenceKey = some key ∧
    k.name = key.name ∧ k.optional = false ∧ b.keyDirectives f = []

/-- No member of a block carries the mark of a primary key. One directive declares the composite
key, and each column that it lists is there and never empty. -/
def DirectsKey (f : Formatter) (m : Model) (b : ModelBlock) : Prop :=
  ∃ names, b.members.filter (·.hasId) = [] ∧ m.compositeKey = some names ∧
    b.keyDirectives f = [ModelBlock.keyDirective names] ∧
    ∀ name ∈ names, ∃ k, b.columns.filter (·.name == name) = [k] ∧ k.optional = false

/-! ## The members that carry the mark -/

/-- No relation carries the mark of a primary key. -/
theorem hasId_of_member {keys : List ForeignKey} {r : Relation} {c : Column}
    (made : Resolver.member plan m models keys r = .ok (some c)) : c.hasId = false := by
  have relation (label : String) (reference : Option KeyReference) :
      [Attribute.relation label reference].any (·.render == "@id") = false := by
    rw [List.any_cons, List.any_nil, Attribute.render_eq_mark]
    rfl
  have labelled (model : String) (owner : Option Relation) :
      (Resolver.labelOf model owner).any (·.render == "@id") = false := by
    unfold Resolver.labelOf
    cases owner with
    | none => rfl
    | some r => exact relation _ none
  unfold Column.hasId
  obtain ⟨target, _, ⟨_, owns⟩ | ⟨_, rfl⟩ | ⟨_, joins⟩⟩ := Resolver.member_cases made
  · obtain ⟨label, fk, _, _, rfl⟩ := Resolver.belongsToMember_eq owns
    exact relation _ _
  · exact labelled _ _
  · obtain ⟨_, _, _, _, rfl⟩ | ⟨_, _, rfl⟩ := Resolver.manyToManyMember_cases joins
    · exact labelled _ _
    · exact relation _ _

/-- Foreign keys and the keys that they reference are given native types if the fields of all models
are. -/
theorem native_of_foreignKey (native : ∀ m ∈ all, ∀ d ∈ m.fields, d.Native) (mem : m ∈ all)
    {keys : List ForeignKey} (made : foreignKeys m all = .ok keys) {fk : ForeignKey}
    (among : fk ∈ keys) : fk.field.Native ∧ fk.key.Native := by
  refine Resolver.holds_of_foreignKey native mem (fun r _ key d unique own built => ?_) made among
  obtain ⟨_, rfl⟩ := Resolver.exists_type_of_buildField built
  exact own

/-- The members that carry the mark are among the columns of the fields. -/
theorem exists_declared (native : ∀ m ∈ all, ∀ d ∈ m.fields, d.Native) (mem : m ∈ all)
    (rendered : blockUnder o f plan m all = .ok b) :
    ∃ declared, (mapperOf o).mapFields m (keyBehind m all) = .ok declared ∧
      (∀ c ∈ declared, c ∈ b.columns) ∧
      b.members.filter (·.hasId) = declared.filter (·.hasId) := by
  obtain ⟨_, ⟨keys, made, mapped⟩, listed⟩ := blockUnder_ok rendered
  obtain ⟨declared, synthesized, audit, maps, copied, audited, parts⟩ := columns_parts mapped
  rw [funext (Resolver.referencedKey_eq made)] at maps
  have unmarked {cs : List Column} (each : ∀ c ∈ cs, c.hasId = false) :
      cs.filter (·.hasId) = [] :=
    List.filter_eq_nil_iff.mpr fun c within => Bool.eq_false_iff.mp (each c within)
  have ofKeys : ∀ c ∈ synthesized, c.hasId = false := by
    intro c within
    obtain ⟨fk, among, here⟩ := Outcome.exists_of_mem_right copied within
    obtain ⟨own, key⟩ := native_of_foreignKey native mem made (List.mem_of_mem_filter among)
    have follows (other : Field) (is : some fk.key = some other) : other.Native :=
      Option.some.inj is ▸ key
    rw [FieldMapper.hasId_of_mapField own follows here, FieldMapper.mapsKey_of_not_inline _ rfl]
  have ofAudit : ∀ c ∈ audit, c.hasId = false := by
    intro c within
    obtain ⟨name, among, here⟩ := Outcome.exists_of_mem_right audited within
    exact FieldMapper.hasId_of_auditColumn (free_of_mem_auditNamesOf among).1 here
  have ofRelations : ∀ c ∈ b.relations, c.hasId = false := by
    intro c within
    obtain ⟨keys', _, r, _, here⟩ := Resolver.mem_members listed within
    exact hasId_of_member here
  refine ⟨declared, maps, fun c within => ?_, ?_⟩
  · rw [parts]
    exact List.mem_append_left _ (List.mem_append_left _ within)
  · unfold ModelBlock.members
    rw [parts, List.filter_append, List.filter_append, List.filter_append, unmarked ofKeys,
      unmarked ofAudit, unmarked ofRelations, List.append_nil, List.append_nil, List.append_nil]

/-- The column of a declared field carries the mark exactly if the field is mapped as a key. -/
theorem hasId_of_declared (native : ∀ m ∈ all, ∀ d ∈ m.fields, d.Native) (mem : m ∈ all)
    {d : Field} (within : d ∈ m.fields) {c : Column}
    (mapped : (mapperOf o).mapField d m.name (roleOf m (keyBehind m all) d) = .ok c) :
    c.hasId = mapsKey d (roleOf m (keyBehind m all) d) := by
  refine FieldMapper.hasId_of_mapField (native m mem d within) (fun key behind => ?_) mapped
  obtain ⟨_, _, rest⟩ := Option.bind_eq_some_iff.mp behind
  obtain ⟨t, found, referenced⟩ := Option.bind_eq_some_iff.mp rest
  exact native t (Model.mem_of_find? found) key (Model.mem_of_referenceKey referenced)

/-! ## The key of a block -/

/-- A block with a composite key has its directive and no mark. -/
theorem directsKey_of_composite (distinct : m.fieldNames.Nodup)
    (keyed : (checkPrimaryKey m).isValid = true)
    (native : ∀ m ∈ all, ∀ d ∈ m.fields, d.Native) (mem : m ∈ all)
    (rendered : blockUnder o f plan m all = .ok b) {names : List String}
    (composite : m.compositeKey = some names) : DirectsKey f m b := by
  obtain ⟨_, listed, _⟩ := (Validation.checkPrimaryKey_composite_iff composite).mp keyed
  obtain ⟨declared, maps, _, marked⟩ := exists_declared native mem rendered
  refine ⟨names, ?_, composite, ?_, fun name among => ?_⟩
  · rw [marked]
    refine List.filter_eq_nil_iff.mpr fun c there => Bool.eq_false_iff.mp ?_
    obtain ⟨d, within, here⟩ := Outcome.exists_of_mem_right maps there
    rw [hasId_of_declared native mem within here]
    exact FieldMapper.mapsKey_of_composite composite _ d
  · have nonempty : ¬ names.isEmpty = true := fun empty =>
      (Model.compositeKey_eq_some_iff.mp composite).2 (List.isEmpty_iff.mp empty)
    rw [ModelBlock.keyDirectives_eq, (blockUnder_frame rendered).2.1, composite,
      Option.getD_some, if_neg nonempty]
  · obtain ⟨d, field⟩ := Option.isSome_iff_exists.mp (listed name among)
    have within := List.mem_of_find?_eq_some field
    obtain rfl : d.name = name := eq_of_beq (List.find?_some field :)
    obtain ⟨k, only, optional⟩ := exists_declaredColumn distinct rendered within
    refine ⟨k, only, Bool.eq_false_iff.mpr fun may => ?_⟩
    exact (optional.mp may).2
      ((Model.mem_primaryKeyFields_iff_of_composite distinct within composite).mpr among)

/-- A block without a composite key has the mark at the column of the field that others
reference. -/
theorem marksKey_of_single (distinct : m.fieldNames.Nodup)
    (keyed : (checkPrimaryKey m).isValid = true)
    (native : ∀ m ∈ all, ∀ d ∈ m.fields, d.Native) (mem : m ∈ all)
    (rendered : blockUnder o f plan m all = .ok b) (single : m.compositeKey = none) :
    MarksKey f m b := by
  obtain ⟨key, referenced⟩ := Validation.exists_referenceKey keyed single
  obtain ⟨declared, maps, columns, marked⟩ := exists_declared native mem rendered
  have field := Model.mem_of_referenceKey referenced
  obtain ⟨k, there, mapped⟩ := Outcome.exists_of_mem_left maps field
  refine ⟨k, columns k there, key, ?_, referenced, (FieldMapper.mapField_ok mapped).1, ?_, ?_⟩
  · rw [marked]
    refine Outcome.filter_mapM_eq_singleton maps distinct.of_map field mapped ?_
    intro d within c here
    rw [hasId_of_declared native mem within here]
    exact FieldMapper.mapsKey_iff_of_single distinct referenced _ within
  · refine Bool.eq_false_iff.mpr fun may => ?_
    have other := ((FieldMapper.optional_of_mapField mapped).mp may).2.1
    rw [isKey_of_referenceKey referenced] at other
    cases other
  · rw [ModelBlock.keyDirectives_eq, (blockUnder_frame rendered).2.1, single]
    rfl

/-- In models that validation accepts, and none of whose fields is given the mark of a primary key
for its native type, every block of a declared or synthesized model has exactly one primary key.
Either one column carries the mark, it is that of the field which other models reference, it is
never empty, and no directive declares a key; or no member carries the mark, one directive declares
the composite key in its order, and the columns that it lists are there and never empty. -/
theorem hasOneKey {report : Validation.Report} (passed : validate models = .ok report)
    (valid : report.isValid = true) (made : requiredJunctions models = .ok junctions)
    (native : ∀ m ∈ models, ∀ d ∈ m.fields, d.Native) (mem : m ∈ models ++ junctions)
    {resolver : Resolver} (rendered : (block o f resolver m (models ++ junctions)).1 = .ok b) :
    MarksKey f m b ∨ DirectsKey f m b := by
  have clean : Clean (validate models) := ⟨report, passed, valid⟩
  rw [block_fst] at rendered
  have distinct := fieldNames_nodup clean made mem
  have keyed : (checkPrimaryKey m).isValid = true := by
    rcases List.mem_append.mp mem with registered | synthesized
    · exact ((Validation.validate_clean_iff.mp clean).1 m registered).keyed
    · obtain ⟨j, planned, here⟩ := Resolver.exists_planned made synthesized
      exact checkPrimaryKey_of_junctionModel planned here
  have native : ∀ m ∈ models ++ junctions, ∀ d ∈ m.fields, d.Native := by
    intro m mem d within
    rcases List.mem_append.mp mem with registered | synthesized
    · exact native m registered d within
    · obtain ⟨j, _, here⟩ := Resolver.exists_planned made synthesized
      obtain ⟨s, _, copied⟩ :=
        Outcome.exists_of_mem_right (Resolver.junctionModel_ok here).2.2 within
      obtain ⟨p, key, found, referenced, built⟩ := Resolver.sideField_ok copied
      obtain ⟨_, rfl⟩ := Resolver.exists_type_of_buildField built
      exact native p (Model.mem_of_find? found) key (Model.mem_of_referenceKey referenced)
  cases composite : m.compositeKey with
  | some names => exact .inr (directsKey_of_composite distinct keyed native mem rendered composite)
  | none => exact .inl (marksKey_of_single distinct keyed native mem rendered composite)

/-- A shelf is identified by its room and its number, and has a field that is named like a key. -/
def shelf : Model :=
  { Model.entity "Shelf" [] with
    primaryKey := some ["room", "number"]
    fields := [Field.identifier, Field.plain "number" (some (.known .integer)),
      { Field.plain "room" (some (.known .string)) with dbType := some "Char(4)" }] }

/-- Customers and shelves. -/
def storehouse : List Model := [customer, shelf]

theorem storehouse_clean : Clean (validate storehouse) :=
  Validation.clean_of_plain (by decide) rfl (by decide)

/-- The column of a customer's identifier carries the mark, and that of a shelf does not. -/
theorem hasOneKey_storehouse : Clean (validate storehouse) ∧
    requiredJunctions storehouse = .ok [] ∧ (∀ m ∈ storehouse, ∀ d ∈ m.fields, d.Native) ∧
    (customer ∈ storehouse ++ [] ∧
      ∃ b, (block unsized layout .fresh customer (storehouse ++ [])).1 = .ok b ∧
        MarksKey layout customer b) ∧
    shelf ∈ storehouse ++ [] ∧
      ∃ b, (block unsized layout .fresh shelf (storehouse ++ [])).1 = .ok b ∧
        DirectsKey layout shelf b := by
  obtain ⟨report, passed, valid⟩ := storehouse_clean
  have made : requiredJunctions storehouse = .ok [] := rfl
  have native : ∀ m ∈ storehouse, ∀ d ∈ m.fields, d.Native := by decide
  have first : customer ∈ storehouse ++ [] := List.mem_cons_self
  have second : shelf ∈ storehouse ++ [] := List.mem_cons_of_mem _ List.mem_cons_self
  obtain ⟨b, rendered⟩ : ∃ b, (block unsized layout .fresh customer (storehouse ++ [])).1 = .ok b :=
    ⟨_, rfl⟩
  obtain ⟨b', rendered'⟩ : ∃ b, (block unsized layout .fresh shelf (storehouse ++ [])).1 = .ok b :=
    ⟨_, rfl⟩
  refine ⟨⟨report, passed, valid⟩, made, native, ⟨first, b, rendered, ?_⟩, second, b', rendered',
    ?_⟩
  · refine (hasOneKey passed valid made native first rendered).resolve_right ?_
    rintro ⟨_, _, composite, _⟩
    cases composite
  · refine (hasOneKey passed valid made native second rendered').resolve_left ?_
    rintro ⟨_, _, _, _, referenced, _⟩
    cases referenced

end Generation

end SchemaCompiler
