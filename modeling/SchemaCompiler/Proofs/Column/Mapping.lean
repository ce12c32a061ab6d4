import SchemaCompiler.Column.Mapping
import SchemaCompiler.Proofs.Model.Checked
import SchemaCompiler.Proofs.Outcome

/-!
# Columns of mapped fields

A field of a known type that has a default and a native type, or does without, is mapped to one
column (`mapField_of_known`), and whatever holds of the columns of fields is read off that column
(`exists_columnOf`): the name, the scalar type and the native type (`mapField_ok`), whether the
column may be empty (`optional_of_mapField`), and which attributes it has (`mem_columnOf_iff`). The
columns of the audit are mapped from fields that say little else (`auditField_eq`,
`auditColumn_cases`). A column that references a key takes the native type that the key has on its
own (`nativeType_of_reference`), whatever the column of the key has. The column of a key has that
type too, unless the key follows another one (`nativeType_of_key`).
-/

set_option autoImplicit false

namespace SchemaCompiler

/-- The native type that an attribute gives. -/
def Attribute.native? : Attribute → Option String
  | .native type => some type
  | _ => none

/-- The native type that a column is given, if it is given one. -/
def Column.nativeType? (c : Column) : Option String := c.attributes.findSome? (·.native?)

theorem FieldType.same_symm {s t : FieldType} (same : s.same t = true) : t.same s = true :=
  beq_iff_eq.mpr (eq_of_beq same).symm

theorem FieldKind.ofName?_name (kind : FieldKind) : FieldKind.ofName? kind.name = some kind := by
  cases kind <;> rfl

/-- Abstract types that are spelled the same are the same. -/
theorem FieldKind.eq_of_same {a b : FieldKind} (same : (FieldType.known a).same (.known b) = true) :
    a = b := by
  have spelled : a.name = b.name := eq_of_beq same
  have found := FieldKind.ofName?_name a
  rw [spelled, FieldKind.ofName?_name] at found
  exact (Option.some.inj found).symm

namespace FieldMapper

variable {mapper : FieldMapper} {f key : Field} {kind : FieldKind} {isKey : Bool}

/-- The native type that a key has on its own, with what the key references left out. -/
def keyNativeType (mapper : FieldMapper) (key : Field) : Except BlockFailure (Option String) :=
  if !mapper.profile.hasNativeTypes then .ok none
  else match key.type with
    | some type => mapper.ownNativeType key type true
    | none => .ok none

/-- The key whose own native type the column of a key takes: the key it references, unless its
native type is explicit. -/
def followed (references : Option Field) (key : Field) : Field :=
  if (explicitType? key).isSome then key else references.getD key

/-! ## The column of a field -/

/-- A field is mapped as a key. -/
def mapsKey (f : Field) (role : ColumnRole) : Bool :=
  (f.primaryKey || f.name == "id") && role.inlineId && !role.inCompositeKey

/-- A field that carries no mark of a key in its model is not mapped as one. -/
theorem mapsKey_of_not_inline (f : Field) {role : ColumnRole} (h : role.inlineId = false) :
    mapsKey f role = false := by
  unfold mapsKey
  rw [h, Bool.and_false, Bool.false_and]

/-- The column of a field of a type, given its default and its native type. -/
def columnOf (mapper : FieldMapper) (f : Field) (role : ColumnRole) (kind : FieldKind)
    (default native : Option String) : Column where
  name := f.name
  type := .scalar (mapper.profile.scalar kind)
  optional := !(f.required || mapsKey f role || role.inCompositeKey)
  attributes :=
    (if mapsKey f role then [Attribute.id] else []) ++ (default.map Attribute.default).toList ++
      (if f.unique && !mapsKey f role then [Attribute.unique] else []) ++
      (native.map Attribute.native).toList ++
      (if Text.needsColumnMap f.name then [Attribute.map (Text.snakeCase f.name)] else [])

/-- A field of a known type is mapped to the column of its default and its native type. -/
theorem mapField_of_known (typed : f.type = some (.known kind)) (model : String)
    (role : ColumnRole) : mapper.mapField f model role = (do
      let default ← Column.defaultExpression mapper.profile f kind model
      let native ← mapper.nativeType f kind (mapsKey f role) role.references
      return mapper.columnOf f role kind default native) := by
  unfold mapField
  rw [typed]
  rfl

/-- A field without a known type is not mapped. -/
theorem mapField_of_unknown (unknown : ¬ ∃ kind, f.type = some (.known kind)) (model : String)
    (role : ColumnRole) : mapper.mapField f model role = .error (.field model f.name
      (.unmappedType f.name (typeLiteral f.type) mapper.profile.dialect.name)) := by
  unfold mapField
  split
  · next kind typed => exact absurd ⟨kind, typed⟩ unknown
  · rfl

/-- A field that is mapped has a known type, and its column follows from its default and its native
type. -/
theorem exists_columnOf {model : String} {role : ColumnRole} {c : Column}
    (h : mapper.mapField f model role = .ok c) :
    ∃ kind default native, f.type = some (.known kind) ∧
      Column.defaultExpression mapper.profile f kind model = .ok default ∧
      mapper.nativeType f kind (mapsKey f role) role.references = .ok native ∧
      c = mapper.columnOf f role kind default native := by
  by_cases known : ∃ kind, f.type = some (.known kind)
  · obtain ⟨kind, typed⟩ := known
    rw [mapField_of_known typed] at h
    obtain ⟨default, expressed, rest⟩ := Outcome.bind_ok_iff.mp h
    obtain ⟨native, found, done⟩ := Outcome.bind_ok_iff.mp rest
    exact ⟨kind, default, native, typed, expressed, found, (Except.ok.inj done).symm⟩
  · rw [mapField_of_unknown known] at h
    cases h

section ColumnOf

variable {role : ColumnRole} {default native : Option String}

theorem mem_columnOf_iff {a : Attribute} :
    a ∈ (mapper.columnOf f role kind default native).attributes ↔
      a = .id ∧ mapsKey f role = true ∨ (∃ text, default = some text ∧ a = .default text) ∨
        a = .unique ∧ f.unique = true ∧ mapsKey f role = false ∨
        (∃ text, native = some text ∧ a = .native text) ∨
        a = .map (Text.snakeCase f.name) ∧ Text.needsColumnMap f.name = true := by
  have mark {b : Attribute} {p : Bool} : a ∈ (if p then [b] else []) ↔ a = b ∧ p = true := by
    cases p <;> simp
  have given {F : String → Attribute} {o : Option String} :
      a ∈ (o.map F).toList ↔ ∃ text, o = some text ∧ a = F text := by
    cases o <;> simp
  unfold columnOf
  simp only [List.mem_append, mark, given, or_assoc]
  rw [Bool.and_eq_true, Bool.not_eq_true']

/-- What is looked for in the attributes of a column is found at the first of them that has it. -/
theorem findSome?_columnOf {α : Type} (g : Attribute → Option α) :
    (mapper.columnOf f role kind default native).attributes.findSome? g =
      (if mapsKey f role then g .id else none).or ((default.bind (g ∘ .default)).or
        ((if f.unique && !mapsKey f role then g .unique else none).or
          ((native.bind (g ∘ .native)).or
            (if Text.needsColumnMap f.name then g (.map (Text.snakeCase f.name)) else none)))) := by
  have mark {a : Attribute} {p : Bool} :
      (if p then [a] else []).findSome? g = if p then g a else none := by
    cases p <;> simp
  have given {F : String → Attribute} {o : Option String} :
      (o.map F).toList.findSome? g = o.bind (g ∘ F) := by
    cases o <;> simp
  unfold columnOf
  simp only [List.findSome?_append, mark, given, Option.or_assoc]

end ColumnOf

/-- The column of a field has the name of the field, its scalar type and its native type. -/
theorem mapField_ok {model : String} {role : ColumnRole} {c : Column}
    (h : mapper.mapField f model role = .ok c) :
    c.name = f.name ∧ ∃ kind, f.type = some (.known kind) ∧
      c.type = .scalar (mapper.profile.scalar kind) ∧
      mapper.nativeType f kind (mapsKey f role) role.references = .ok c.nativeType? := by
  obtain ⟨kind, default, native, typed, _, found, rfl⟩ := exists_columnOf h
  refine ⟨rfl, kind, typed, rfl, found.trans (congrArg Except.ok ?_)⟩
  unfold Column.nativeType?
  rw [findSome?_columnOf]
  simp [Attribute.native?, Function.comp_def]

/-- The column of a field may be empty unless the field is required or takes part in the primary
key. -/
theorem optional_of_mapField {model : String} {role : ColumnRole} {c : Column}
    (h : mapper.mapField f model role = .ok c) :
    c.optional = true ↔ f.required = false ∧ mapsKey f role = false ∧
      role.inCompositeKey = false := by
  obtain ⟨_, _, _, _, _, _, rfl⟩ := exists_columnOf h
  simp only [columnOf, Bool.not_eq_true', Bool.or_eq_false_iff, and_assoc]

/-! ## Audit columns -/

/-- An audit field has a known type, may be required and may have the current time as its default,
and nothing else is said about it. -/
theorem auditField_eq (mapper : FieldMapper) (name : String) :
    ∃ kind required default, (default = .null ∨ default = .str "now") ∧
      mapper.auditField name =
        { Field.plain name (some (.known kind)) with required, default } := by
  unfold auditField
  split
  · exact ⟨.datetime, true, .str "now", .inr rfl, rfl⟩
  · split
    · exact ⟨.datetime, true, .null, .inl rfl, rfl⟩
    · exact ⟨mapper.actorType, false, .null, .inl rfl, rfl⟩

/-- An audit column is mapped from its field, and may be refreshed on every write. -/
theorem auditColumn_cases {name : String} {c : Column} (h : mapper.auditColumn name = .ok c) :
    ∃ column, mapper.mapField (mapper.auditField name) "" ⟨true, false, none⟩ = .ok column ∧
      (c = column ∨ c = { column with attributes := .updatedAt :: column.attributes }) := by
  obtain ⟨column, mapped, done⟩ := Outcome.bind_ok_iff.mp h
  refine ⟨column, mapped, ?_⟩
  split at done
  · exact .inr (Except.ok.inj done).symm
  · exact .inl (Except.ok.inj done).symm

/-! ## Native types -/

theorem ownNativeType_of_explicit {type : FieldType} {explicit : String}
    (h : explicitType? f = some explicit) :
    mapper.ownNativeType f type isKey = .ok (some explicit) := by
  unfold ownNativeType
  rw [h]

/-- A column takes the native type that the key it references has on its own, if it has no explicit
one or that of the key. -/
theorem nativeType_of_reference {type : FieldType} (typed : key.type = some type)
    (same : type.same (.known kind) = true)
    (explicit : explicitType? f = none ∨ explicitType? f = explicitType? key) :
    mapper.nativeType f kind isKey (some key) = mapper.keyNativeType key := by
  unfold nativeType keyNativeType
  split
  · rfl
  · simp only [Option.bind_some, typed, same, ↓reduceIte]
    cases own : explicitType? f with
    | none => rfl
    | some e =>
      have there : explicitType? key = some e := by
        rcases explicit with none | shared
        · rw [own] at none
          cases none
        · exact shared.symm.trans own
      rw [ownNativeType_of_explicit own, ownNativeType_of_explicit there]

/-- The column of a key takes the native type that the key it follows has on its own. -/
theorem nativeType_of_key {references : Option Field} (typed : key.type = some (.known kind))
    (same : ∀ other, references = some other →
      ∃ type, other.type = some type ∧ type.same (.known kind) = true) :
    mapper.nativeType key kind true references =
      mapper.keyNativeType (followed references key) := by
  unfold followed
  cases own : explicitType? key with
  | some e =>
    unfold nativeType keyNativeType
    rw [own, Option.isSome_some, if_pos rfl, typed]
  | none =>
    rw [Option.isSome_none, if_neg Bool.false_ne_true]
    cases references with
    | none =>
      unfold nativeType keyNativeType
      rw [own, Option.getD_none, typed]
      rfl
    | some other =>
      obtain ⟨type, typedOther, alike⟩ := same other rfl
      exact nativeType_of_reference typedOther alike (.inl own)

end FieldMapper

end SchemaCompiler
