import SchemaCompiler.Proofs.Column.Mapping
import SchemaCompiler.Proofs.Generation.Draft
import SchemaCompiler.Proofs.Resolver.Counterpart
import SchemaCompiler.Proofs.Resolver.Reference
import SchemaCompiler.Proofs.Validation.Field

/-!
# Both ends of a foreign key

The column of a foreign key and the column of the key that it references are made in two blocks. The
scalar types agree in all models that validation accepts. The native types need not: a foreign key
takes the type that the referenced key has on its own, while the column of that key may itself
follow another key, and a field that serves several relations follows the key of the first. They
agree exactly if these two sources have one native type (`foreignKey_agrees_iff`).
-/

set_option autoImplicit false

namespace SchemaCompiler.Generation

open FieldMapper (explicitType? followed)
open Junction (Plan)
open Resolver (exists_target foreignKeys keyBehind requiredJunctions)
open Validation (Clean SameType validate)

variable {o : Options} {f : Formatter} {plan : Plan} {m t : Model} {models junctions : List Model}
  {keys : List ForeignKey} {b : ModelBlock} {r : Relation} {key : Field}

/-! ## The columns of a block -/

/-- An audit column has the name it is asked for. -/
theorem name_of_auditColumn {mapper : FieldMapper} {name : String} {c : Column}
    (h : mapper.auditColumn name = .ok c) : c.name = name := by
  obtain ⟨column, mapped, which⟩ := FieldMapper.auditColumn_cases h
  obtain ⟨_, _, _, _, field⟩ := mapper.auditField_eq name
  have named : column.name = name := (FieldMapper.mapField_ok (field ▸ mapped)).1
  rcases which with rfl | rfl
  · exact named
  · exact named

/-- The names of the audit columns of a model: those that no member takes. -/
def auditNamesOf (o : Options) (m : Model) (keys : List ForeignKey) : List String :=
  if o.includeAuditFields && m.timestamps then
    FieldMapper.auditNames.filter fun name => !(takenNames m keys).contains name
  else []

theorem auditColumnsOf_eq :
    auditColumnsOf o m keys = (auditNamesOf o m keys).mapM (mapperOf o).auditColumn := by
  unfold auditColumnsOf auditNamesOf FieldMapper.auditColumns
  split <;> rfl

theorem auditNamesOf_nodup : (auditNamesOf o m keys).Nodup := by
  unfold auditNamesOf
  split
  · exact (by decide : FieldMapper.auditNames.Nodup).filter _
  · exact List.nodup_nil

/-- The name of an audit column is one of the four, and no member takes it. -/
theorem free_of_mem_auditNamesOf {name : String} (mem : name ∈ auditNamesOf o m keys) :
    name ∈ FieldMapper.auditNames ∧ name ∉ takenNames m keys := by
  unfold auditNamesOf at mem
  split at mem
  · obtain ⟨among, free⟩ := List.mem_filter.mp mem
    refine ⟨among, ?_⟩
    simpa only [Bool.not_eq_true', List.contains_eq_mem, decide_eq_false_iff_not] using free
  · cases mem

/-- A key is synthesized only if no field has its name. -/
theorem undeclared_of_synthesized (made : foreignKeys m models = .ok keys) {fk : ForeignKey}
    (mem : fk ∈ synthesizedKeys keys) : fk.field.name ∉ m.fieldNames := by
  obtain ⟨within, synthesized⟩ := List.mem_filter.mp mem
  obtain ⟨_, other⟩ | ⟨undeclared, _⟩ :=
    ((Resolver.foreignKeys_stem made).2.1 fk within).declared_or_synthesized
  · rw [synthesized] at other
    cases other
  · intro field
    obtain ⟨d, there, same⟩ := List.mem_map.mp field
    exact List.find?_eq_none.mp undeclared d there (beq_iff_eq.mpr same)

/-- The columns of a model are those of its fields, those of the synthesized keys and the audit
columns. -/
theorem columns_parts {columns : List Column} (h : Generation.columns o m keys = .ok columns) :
    ∃ declared synthesized audit,
      (mapperOf o).mapFields m (Resolver.referencedKey keys) = .ok declared ∧
        (synthesizedKeys keys).mapM (keyColumn (mapperOf o) m) = .ok synthesized ∧
        (auditNamesOf o m keys).mapM (mapperOf o).auditColumn = .ok audit ∧
        columns = declared ++ synthesized ++ audit := by
  obtain ⟨declared, mapped, rest⟩ := Outcome.bind_ok_iff.mp h
  obtain ⟨synthesized, copied, rest⟩ := Outcome.bind_ok_iff.mp rest
  obtain ⟨audit, audited, done⟩ := Outcome.bind_ok_iff.mp rest
  exact ⟨declared, synthesized, audit, mapped, copied, auditColumnsOf_eq.symm.trans audited,
    (Except.ok.inj done).symm⟩

/-- Every column of a model is that of a field, that of a synthesized key or one of the audit. -/
theorem column_cases {columns : List Column} (h : Generation.columns o m keys = .ok columns)
    {c : Column} (mem : c ∈ columns) :
    (∃ d ∈ m.fields, (mapperOf o).mapField d m.name
        (FieldMapper.roleOf m (Resolver.referencedKey keys) d) = .ok c) ∨
      (∃ fk ∈ synthesizedKeys keys, keyColumn (mapperOf o) m fk = .ok c) ∨
      ∃ name ∈ auditNamesOf o m keys, (mapperOf o).auditColumn name = .ok c := by
  obtain ⟨declared, synthesized, audit, mapped, copied, audited, rfl⟩ := columns_parts h
  rcases List.mem_append.mp mem with early | late
  · rcases List.mem_append.mp early with field | key
    · exact .inl (Outcome.exists_of_mem_right mapped field)
    · exact .inr (.inl (Outcome.exists_of_mem_right copied key))
  · exact .inr (.inr (Outcome.exists_of_mem_right audited late))

/-- The names of the columns of a model: those of its fields, of its synthesized keys and of its
audit columns. -/
def columnNames (o : Options) (m : Model) (keys : List ForeignKey) : List String :=
  m.fieldNames ++ (synthesizedKeys keys).map (·.field.name) ++ auditNamesOf o m keys

theorem names_of_columns {columns : List Column} (h : Generation.columns o m keys = .ok columns) :
    columns.map (·.name) = columnNames o m keys := by
  obtain ⟨declared, synthesized, audit, mapped, copied, audited, rfl⟩ := columns_parts h
  have namesD : declared.map (·.name) = m.fieldNames :=
    Outcome.map_eq_of_mapM mapped fun _ _ here => (FieldMapper.mapField_ok here).1
  have namesS : synthesized.map (·.name) = (synthesizedKeys keys).map (·.field.name) :=
    Outcome.map_eq_of_mapM copied fun _ _ here => (FieldMapper.mapField_ok here).1
  have namesA : audit.map (·.name) = (auditNamesOf o m keys).map id :=
    Outcome.map_eq_of_mapM audited fun _ _ => name_of_auditColumn
  unfold columnNames
  rw [List.map_append, List.map_append, namesD, namesS, namesA, List.map_id]

/-- The columns of a model whose fields have distinct names have distinct names. -/
theorem columnNames_nodup (distinct : m.fieldNames.Nodup)
    (made : foreignKeys m models = .ok keys) : (columnNames o m keys).Nodup := by
  have distinctK := (Resolver.foreignKeys_stem made).1
  refine List.nodup_append.mpr ⟨List.nodup_append.mpr ⟨distinct, ?_, ?_⟩, auditNamesOf_nodup, ?_⟩
  · exact distinctK.sublist (List.filter_sublist.map _)
  · rintro _ field _ synthesized rfl
    obtain ⟨fk, mem, rfl⟩ := List.mem_map.mp synthesized
    exact undeclared_of_synthesized made mem field
  · rintro name taken _ audit rfl
    exact (free_of_mem_auditNamesOf audit).2 (List.mem_append_left _ taken)

/-- A field has one column in the block of its model, mapped with the key behind it. -/
theorem exists_fieldColumn (distinct : m.fieldNames.Nodup)
    (rendered : blockUnder o f plan m models = .ok b) {d : Field} (mem : d ∈ m.fields) :
    ∃ c, b.columns.filter (·.name == d.name) = [c] ∧ (mapperOf o).mapField d m.name
      (FieldMapper.roleOf m (keyBehind m models) d) = .ok c := by
  obtain ⟨keys, made, mapped⟩ := (blockUnder_ok rendered).2.1
  have names : (b.columns.map (·.name)).Nodup :=
    names_of_columns mapped ▸ columnNames_nodup distinct made
  obtain ⟨declared, synthesized, audit, declares, _, _, parts⟩ := columns_parts mapped
  obtain ⟨c, within, here⟩ := Outcome.exists_of_mem_left declares mem
  rw [funext (Resolver.referencedKey_eq made)] at here
  have there : c ∈ b.columns :=
    parts ▸ List.mem_append_left _ (List.mem_append_left _ within)
  refine ⟨c, ?_, here⟩
  rw [← (FieldMapper.mapField_ok here).1]
  exact filter_name_eq_singleton names there

/-- A synthesized key has one column in the block of its model. -/
theorem exists_synthesizedColumn (distinct : m.fieldNames.Nodup)
    (rendered : blockUnder o f plan m models = .ok b) (made : foreignKeys m models = .ok keys)
    {fk : ForeignKey} (mem : fk ∈ keys) (synthesized : fk.synthesized = true) :
    ∃ c, b.columns.filter (·.name == fk.field.name) = [c] ∧
      keyColumn (mapperOf o) m fk = .ok c := by
  obtain ⟨keys', made', mapped⟩ := (blockUnder_ok rendered).2.1
  cases made.symm.trans made'
  have names : (b.columns.map (·.name)).Nodup :=
    names_of_columns mapped ▸ columnNames_nodup distinct made
  obtain ⟨declared, copies, audit, _, copied, _, parts⟩ := columns_parts mapped
  obtain ⟨c, within, here⟩ :=
    Outcome.exists_of_mem_left copied (List.mem_filter.mpr ⟨mem, synthesized⟩)
  have there : c ∈ b.columns :=
    parts ▸ List.mem_append_left _ (List.mem_append_right _ within)
  refine ⟨c, ?_, here⟩
  rw [← (FieldMapper.mapField_ok here).1]
  exact filter_name_eq_singleton names there

/-- A foreign key has one column in the block of its model, mapped with the key it references. -/
theorem exists_keyColumn (distinct : m.fieldNames.Nodup)
    (rendered : blockUnder o f plan m models = .ok b) (made : foreignKeys m models = .ok keys)
    {fk : ForeignKey} (mem : fk ∈ keys) :
    ∃ c role, b.columns.filter (·.name == fk.field.name) = [c] ∧ role.references = some fk.key ∧
      (mapperOf o).mapField fk.field m.name role = .ok c := by
  have stem := (Resolver.foreignKeys_stem made).2.1 fk mem
  obtain ⟨declared, _⟩ | ⟨_, synthesized⟩ := stem.declared_or_synthesized
  · obtain ⟨c, only, mapped⟩ :=
      exists_fieldColumn distinct rendered (List.mem_of_find?_eq_some declared)
    exact ⟨c, _, only, stem.keyBehind, mapped⟩
  · obtain ⟨c, only, mapped⟩ := exists_synthesizedColumn distinct rendered made mem synthesized
    exact ⟨c, _, only, rfl, mapped⟩

/-- The key that other models reference carries the mark of the primary key. -/
theorem isKey_of_referenceKey (referenced : t.referenceKey = some key)
    (references : String → Option Field) :
    FieldMapper.mapsKey key (FieldMapper.roleOf t references key) = true := by
  obtain ⟨single, only⟩ := Model.referenceKey_eq_some_iff.mp referenced
  have flagged := Model.flagged_of_mem_primaryKeyFields single (only ▸ List.mem_cons_self)
  simp [FieldMapper.mapsKey, FieldMapper.roleOf, single, only, flagged]

/-! ## The ends of a foreign key -/

/-- A foreign key field takes the native type of a key: it has the type of the key, and it has no
explicit native type or that of the key. -/
structure Takes (field key : Field) : Prop where
  typed : ∃ type, key.type = some type
  same : SameType field key
  explicit : explicitType? field = none ∨ explicitType? field = explicitType? key

/-- A copy of a key takes its native type. -/
theorem takes_keyCopy {kind : FieldKind} (typed : key.type = some (.known kind)) {name : String}
    {required unique : Bool} {field : Field}
    (built : Resolver.buildField { Resolver.keyCopy name key with required, unique } = .ok field) :
    Takes field key := by
  have checked : key.Checked := by
    intro spelling unchecked
    cases typed.symm.trans unchecked
  cases (Resolver.buildField_keyCopy checked required unique).symm.trans built
  refine ⟨⟨_, typed⟩, ?_, .inr rfl⟩
  intro s t typeS typeT
  cases typeS.symm.trans typeT
  exact beq_self_eq_true s.spelling

/-- The column of a foreign key has the native type that the key it references has on its own. -/
theorem keyNativeType_of_takes {mapper : FieldMapper} {field : Field} (takes : Takes field key)
    {model : String} {role : ColumnRole} (references : role.references = some key) {c : Column}
    (mapped : mapper.mapField field model role = .ok c) :
    mapper.keyNativeType key = .ok c.nativeType? := by
  obtain ⟨_, kind, typed, _, native⟩ := FieldMapper.mapField_ok mapped
  obtain ⟨type, typedKey⟩ := takes.typed
  have same : type.same (.known kind) = true :=
    FieldType.same_symm (takes.same _ _ typed typedKey)
  rw [references, FieldMapper.nativeType_of_reference typedKey same takes.explicit] at native
  exact native

section Accepted

variable (clean : Clean (validate models)) (made : requiredJunctions models = .ok junctions)

include clean made in
/-- The fields of a declared or synthesized model have distinct names. -/
theorem fieldNames_nodup (mem : m ∈ models ++ junctions) : m.fieldNames.Nodup := by
  rcases List.mem_append.mp mem with registered | synthesized
  · have sound := (Validation.validate_clean_iff.mp clean).1 m registered
    exact (Validation.checkFields_clean sound.fields).1
  · obtain ⟨j, planned, here⟩ := Outcome.exists_of_mem_right made synthesized
    rw [Resolver.fieldNames_of_junctionModel here]
    exact Plan.foreignKeys_nodup planned

include clean made in
/-- A field that a registered model declares for a relation has the type of the key that the
relation references, and that key has a type. -/
theorem sameType_of_declared (mem : m ∈ models) (declared : r ∈ m.relations)
    (belongs : r.isBelongsTo = true) (found : Model.find? (models ++ junctions) r.target = some t)
    (referenced : t.referenceKey = some key) {d : Field}
    (field : m.field? r.expectedForeignKey = some d) :
    (∃ type, key.type = some type) ∧ SameType d key := by
  have accepted := Validation.accepted_of_clean clean
  have sound := (Validation.validate_clean_iff.mp clean).1
  obtain ⟨t', key', found', referenced', same⟩ :=
    ((Validation.checkRelations_keyed (sound m mem).relations).1 r declared).key belongs
  cases found.symm.trans (Resolver.find?_beside accepted made found')
  cases referenced.symm.trans referenced'
  have fields := (sound t (Model.mem_of_find? found')).fields
  have typed := (Validation.checkFields_clean fields).2 key (Model.mem_of_referenceKey referenced)
  exact ⟨Option.isSome_iff_exists.mp typed, same d field⟩

include clean made in
/-- The foreign key that a relation of a registered model uses takes the native type of the key that
it references, and has the type of the key that the relation references. -/
theorem takes_of_registered (mem : m ∈ models) (declared : r ∈ m.relations)
    (belongs : r.isBelongsTo = true)
    (implicit : ∀ d, m.field? r.expectedForeignKey = some d → explicitType? d = none)
    (found : Model.find? (models ++ junctions) r.target = some t)
    (referenced : t.referenceKey = some key) {kind : FieldKind}
    (typed : key.type = some (.known kind)) (keyed : foreignKeys m (models ++ junctions) = .ok keys)
    {fk : ForeignKey} (among : fk ∈ keys) (named : fk.field.name = r.expectedForeignKey) :
    Takes fk.field fk.key ∧ SameType fk.field key := by
  have sound := (Validation.validate_clean_iff.mp clean).1 m mem
  cases field : m.field? r.expectedForeignKey with
  | some d =>
    obtain ⟨first, target, key', uses, found', referenced', here⟩ :=
      (Resolver.foreignKeys_stem keyed).2.1 fk among
    obtain ⟨within, kindF⟩ := List.mem_filter.mp (List.mem_of_find?_eq_some uses)
    have expected : first.expectedForeignKey = r.expectedForeignKey :=
      (eq_of_beq (List.find?_some uses :)).trans named
    have fieldF : m.field? first.expectedForeignKey = some d := expected ▸ field
    obtain ⟨rfl, ⟨own, _⟩ | ⟨undeclared, _⟩⟩ := Resolver.foreignKeyOf_cases here
    · cases field.symm.trans (expected ▸ own)
      obtain ⟨typedF, sameF⟩ :=
        sameType_of_declared clean made mem within kindF found' referenced' fieldF
      have same := sameType_of_declared clean made mem declared belongs found referenced field
      exact ⟨⟨typedF, sameF, .inl (implicit _ field)⟩, same.2⟩
    · cases fieldF.symm.trans undeclared
  | none =>
    have owns : Resolver.Owns m t r := ⟨declared, belongs, (Model.name_of_find? found).symm⟩
    obtain ⟨same, synthesized⟩ := Resolver.synthesize_of_mem
      (Validation.checkRelations_keyed sound.relations).2 owns field found keyed among named
    cases referenced.symm.trans same
    have takes := takes_keyCopy typed synthesized
    exact ⟨takes, takes.same⟩

include clean made in
/-- A relation of a junction is that of a side, and the field of the side is its foreign key. -/
theorem exists_side (mem : m ∈ junctions) (declared : r ∈ m.relations) :
    ∃ j s d, s ∈ j.sides ∧ r = Resolver.sideRelation s ∧
      m.field? r.expectedForeignKey = some d ∧ Resolver.sideField models j s = .ok d := by
  obtain ⟨j, planned, here⟩ := Outcome.exists_of_mem_right made mem
  obtain ⟨_, relations, fields⟩ := Resolver.junctionModel_ok here
  rw [relations] at declared
  obtain ⟨s, side, rfl⟩ := List.mem_map.mp declared
  obtain ⟨d, there, copied⟩ := Outcome.exists_of_mem_left fields side
  have field := Model.field?_of_mem
    (fieldNames_nodup clean made (List.mem_append_right _ mem)) there
  rw [Resolver.name_of_sideField copied, ← (Resolver.side_of_planned planned side).2.1] at field
  exact ⟨j, s, d, side, rfl, field, copied⟩

include clean made in
/-- The foreign key on a side of a junction takes the native type of the key of its participant. -/
theorem takes_of_synthesized (mem : m ∈ junctions) (declared : r ∈ m.relations)
    (found : Model.find? (models ++ junctions) r.target = some t)
    (referenced : t.referenceKey = some key) {kind : FieldKind}
    (typed : key.type = some (.known kind)) (keyed : foreignKeys m (models ++ junctions) = .ok keys)
    {fk : ForeignKey} (among : fk ∈ keys) (named : fk.field.name = r.expectedForeignKey) :
    Takes fk.field fk.key ∧ SameType fk.field key := by
  have accepted := Validation.accepted_of_clean clean
  obtain ⟨j, s, d, side, rfl, field, copied⟩ := exists_side clean made mem declared
  obtain ⟨p, own, foundP, referencedP, built⟩ := Resolver.sideField_ok copied
  cases found.symm.trans (Resolver.find?_beside accepted made foundP)
  cases referenced.symm.trans referencedP
  have takes := takes_keyCopy typed built
  obtain ⟨first, target, key', uses, found', referenced', from'⟩ :=
    (Resolver.foreignKeys_stem keyed).2.1 fk among
  obtain ⟨within, belongs⟩ := List.mem_filter.mp (List.mem_of_find?_eq_some uses)
  -- the key is used by the relation of its side only
  obtain rfl : first = Resolver.sideRelation s :=
    Resolver.only_user clean made (List.mem_append_right _ mem) declared rfl (.inl mem) within
      belongs ((eq_of_beq (List.find?_some uses :)).trans named)
  cases found.symm.trans found'
  cases referenced.symm.trans referenced'
  obtain ⟨rfl, ⟨declared, _⟩ | ⟨undeclared, _⟩⟩ := Resolver.foreignKeyOf_cases from'
  · cases field.symm.trans declared
    exact ⟨takes, takes.same⟩
  · cases field.symm.trans undeclared

include clean made in
/-- The column of a key has its scalar type, and the native type that the key it follows has on its
own. -/
theorem exists_referencedColumn (mem : t ∈ models) (referenced : t.referenceKey = some key)
    (rendered : blockUnder o f plan t (models ++ junctions) = .ok b) :
    ∃ k kind, b.columns.filter (·.name == key.name) = [k] ∧ key.type = some (.known kind) ∧
      k.type = .scalar ((mapperOf o).profile.scalar kind) ∧
      (mapperOf o).keyNativeType (followed (keyBehind t (models ++ junctions) key.name) key) =
        .ok k.nativeType? := by
  have distinct := fieldNames_nodup clean made (List.mem_append_left _ mem)
  have declared := Model.mem_of_referenceKey referenced
  obtain ⟨k, only, mapped⟩ := exists_fieldColumn distinct rendered declared
  obtain ⟨_, kind, typed, scalar, native⟩ := FieldMapper.mapField_ok mapped
  refine ⟨k, kind, only, typed, scalar, ?_⟩
  rw [isKey_of_referenceKey referenced, FieldMapper.nativeType_of_key typed] at native
  · exact native
  · -- what the key references has its type, since the key is declared
    intro other behind
    obtain ⟨first, uses, rest⟩ := Option.bind_eq_some_iff.mp behind
    obtain ⟨target, found, referencedT⟩ := Option.bind_eq_some_iff.mp rest
    obtain ⟨within, belongs⟩ := List.mem_filter.mp (List.mem_of_find?_eq_some uses)
    have field := Model.field?_of_mem distinct declared
    rw [← eq_of_beq (List.find?_some uses :)] at field
    obtain ⟨⟨type, typedOther⟩, same⟩ :=
      sameType_of_declared clean made mem within belongs found referencedT field
    exact ⟨type, typedOther, FieldType.same_symm (same _ _ typed typedOther)⟩

end Accepted

/-- In models that validation accepts, the column of a foreign key that has no native type of its
own has the scalar type of the column of the key that its relation references. It has the native
type of that column exactly if the key behind the first relation that uses the foreign key and the
key that the referenced one follows have one native type on their own. So the columns agree if no
earlier relation uses the foreign key and the referenced key has an explicit native type or
references nothing. -/
theorem foreignKey_agrees_iff {report : Validation.Report}
    (passed : validate models = .ok report) (valid : report.isValid = true)
    (made : requiredJunctions models = .ok junctions) (mem : m ∈ models ++ junctions)
    (declared : r ∈ m.relations) (belongs : r.isBelongsTo = true)
    (implicit : m ∈ models → ∀ d, m.field? r.expectedForeignKey = some d → explicitType? d = none)
    {resolver : Resolver} (rendered : (block o f resolver m (models ++ junctions)).1 = .ok b) :
    ∃ t ∈ models, ∃ key, Model.find? (models ++ junctions) r.target = some t ∧
      t.referenceKey = some key ∧
      ∀ (resolver' : Resolver) (b' : ModelBlock),
        (block o f resolver' t (models ++ junctions)).1 = .ok b' →
        ∃ c k first, b.columns.filter (·.name == r.expectedForeignKey) = [c] ∧
          b'.columns.filter (·.name == key.name) = [k] ∧ c.type = k.type ∧
          keyBehind m (models ++ junctions) r.expectedForeignKey = some first ∧
          (c.nativeType? = k.nativeType? ↔ (mapperOf o).keyNativeType first =
            (mapperOf o).keyNativeType
              (followed (keyBehind t (models ++ junctions) key.name) key)) ∧
          ((m.relationsOf .belongsTo).find? (·.expectedForeignKey == r.expectedForeignKey) =
              some r →
            (explicitType? key).isSome = true ∨ keyBehind t (models ++ junctions) key.name = none →
            c.nativeType? = k.nativeType?) := by
  have clean : Clean (validate models) := ⟨report, passed, valid⟩
  rw [block_fst] at rendered
  obtain ⟨t, there, key, found, referenced⟩ := exists_target clean made mem declared belongs
  refine ⟨t, there, key, found, referenced, ?_⟩
  intro resolver' b' rendered'
  rw [block_fst] at rendered'
  obtain ⟨k, kind, onlyK, typed, scalarK, nativeK⟩ :=
    exists_referencedColumn clean made there referenced rendered'
  obtain ⟨keys, keyed, _⟩ := (blockUnder_ok rendered).2.1
  obtain ⟨_, stems, uses⟩ := Resolver.foreignKeys_stem keyed
  obtain ⟨fk, among, named⟩ := uses r declared belongs
  obtain ⟨takes, same⟩ : Takes fk.field fk.key ∧ SameType fk.field key := by
    rcases List.mem_append.mp mem with registered | synthesized
    · exact takes_of_registered clean made registered declared belongs (implicit registered) found
        referenced typed keyed among named
    · exact takes_of_synthesized clean made synthesized declared found referenced typed keyed among
        named
  obtain ⟨c, role, onlyC, references, mapped⟩ :=
    exists_keyColumn (fieldNames_nodup clean made mem) rendered keyed among
  obtain ⟨_, kindC, typedC, scalarC, _⟩ := FieldMapper.mapField_ok mapped
  have nativeC := keyNativeType_of_takes takes references mapped
  have behind := (stems fk among).keyBehind
  rw [named] at onlyC behind
  have agree : c.nativeType? = k.nativeType? ↔ (mapperOf o).keyNativeType fk.key =
      (mapperOf o).keyNativeType (followed (keyBehind t (models ++ junctions) key.name) key) := by
    rw [nativeC, nativeK]
    exact ⟨congrArg Except.ok, Except.ok.inj⟩
  refine ⟨c, k, fk.key, onlyC, onlyK, ?_, behind, agree, ?_⟩
  · rw [scalarC, scalarK, FieldKind.eq_of_same (same _ _ typedC typed)]
  · intro first plain
    have itself : fk.key = key := by
      unfold keyBehind at behind
      rw [first, Option.bind_some, found, Option.bind_some, referenced] at behind
      exact (Option.some.inj behind).symm
    have follows : followed (keyBehind t (models ++ junctions) key.name) key = key := by
      unfold followed
      rcases plain with explicit | none
      · rw [if_pos explicit]
      · rw [none, Option.getD_none, ite_self]
    rw [agree, itself, follows]

/-! ## A key that follows another -/

/-- An account has a key of its own size. -/
def account : Model :=
  { Model.entity "Account" [] with
    fields := [{ Field.plain "id" (some (.known .string)) with dbType := some "Char(26)" }] }

/-- A profile has the key of its account. -/
def profile : Model :=
  { Model.entity "Profile"
      [{ Relation.plain "account" .belongsTo "Account" with foreignKey := some "id" }] with
    fields := [Field.plain "id" (some (.known .string))] }

/-- A badge belongs to a profile. -/
def badge : Model := .entity "Badge" [.plain "profile" .belongsTo "Profile"]

/-- Accounts, and what follows them. -/
def membership : List Model := [account, profile, badge]

theorem membership_clean : Clean (validate membership) :=
  Validation.clean_of_plain (by decide) rfl (by decide)

/-- The standard options for a database that gives strings no length. -/
def unsized : Options := { Options.standard with dialect := .postgresql }

/-- The layout of those options. -/
def layout : Formatter := Formatter.make .pretty .postgresql false

/-- A profile takes the native type of the key of its account. -/
theorem foreignKey_agrees_profile : Clean (validate membership) ∧
    requiredJunctions membership = .ok [] ∧ profile ∈ membership ++ [] ∧
    ∃ r ∈ profile.relations, r.isBelongsTo = true ∧
      (∀ d, profile.field? r.expectedForeignKey = some d → explicitType? d = none) ∧
      ∃ b, (block unsized layout .fresh profile (membership ++ [])).1 = .ok b ∧
        ∃ t ∈ membership, ∃ key, Model.find? (membership ++ []) r.target = some t ∧
          t.referenceKey = some key ∧
          ∃ b', (block unsized layout .fresh t (membership ++ [])).1 = .ok b' ∧
            ∃ c k, b.columns.filter (·.name == r.expectedForeignKey) = [c] ∧
              b'.columns.filter (·.name == key.name) = [k] ∧ c.type = k.type ∧
              c.nativeType? = k.nativeType? := by
  obtain ⟨report, passed, valid⟩ := membership_clean
  have made : requiredJunctions membership = .ok [] := rfl
  have mem : profile ∈ membership ++ [] := List.mem_cons_of_mem _ List.mem_cons_self
  have implicit : ∀ d, profile.field? "id" = some d → explicitType? d = none := by
    rintro d ⟨⟩
    rfl
  obtain ⟨b, rendered⟩ : ∃ b, (block unsized layout .fresh profile (membership ++ [])).1 = .ok b :=
    ⟨_, rfl⟩
  obtain ⟨t, there, key, found, referenced, ends⟩ := foreignKey_agrees_iff passed valid made mem
    List.mem_cons_self rfl (fun _ => implicit) rendered
  obtain rfl : account = t := Option.some.inj found
  obtain rfl : { Field.plain "id" (some (.known .string)) with dbType := some "Char(26)" } = key :=
    Option.some.inj referenced
  obtain ⟨b', rendered'⟩ :
      ∃ b, (block unsized layout .fresh account (membership ++ [])).1 = .ok b := ⟨_, rfl⟩
  obtain ⟨c, k, _, onlyC, onlyK, scalar, _, _, native⟩ := ends .fresh b' rendered'
  exact ⟨⟨report, passed, valid⟩, made, mem, _, List.mem_cons_self, rfl, implicit, b, rendered,
    account, there, _, found, referenced, b', rendered', c, k, onlyC, onlyK, scalar,
    native rfl (.inl rfl)⟩

/-- The key of a badge's profile is that of an account, and yet the badge takes the native type that
the profile would have without its account. -/
theorem badge_differs_from_profile : (membership.map (·.name)).Nodup ∧ Clean (validate membership) ∧
    requiredJunctions membership = .ok [] ∧ badge ∈ membership ∧
    ∃ r ∈ badge.relations, r.isBelongsTo = true ∧ badge.field? r.expectedForeignKey = none ∧
      Model.find? membership r.target = some profile ∧
      ∃ key b b', profile.referenceKey = some key ∧
        (block unsized layout .fresh badge membership).1 = .ok b ∧
        (block unsized layout .fresh profile membership).1 = .ok b' ∧
        ∃ c k, b.columns.filter (·.name == r.expectedForeignKey) = [c] ∧
          b'.columns.filter (·.name == key.name) = [k] ∧ c.nativeType? = none ∧
          k.nativeType? = some "@db.Char(26)" :=
  ⟨by decide, membership_clean, rfl,
    List.mem_cons_of_mem _ (List.mem_cons_of_mem _ List.mem_cons_self), _, List.mem_cons_self, rfl,
    rfl, rfl, _, _, _, rfl, rfl, rfl, _, _, rfl, rfl, rfl, rfl⟩

end SchemaCompiler.Generation
