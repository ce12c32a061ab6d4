import SchemaCompiler.Proofs.Agreement
import SchemaCompiler.Proofs.Column.Mapping
import SchemaCompiler.Proofs.Value.Literal

/-!
# Columns in two dialects

A dialect decides the scalar type of a column, its native type and the text of its default. It does
not decide whether a default can be written (`defaultExpression_agrees`), and whether a native type
can is decided alike by the dialects that write native types: it can unless the length limit has too
many digits (`nativeType_agrees`). So a field has columns of one outline in any two dialects, or in
none of them, or it has one only where native types are left out (`mapField_agrees`).
-/

set_option autoImplicit false

namespace SchemaCompiler

/-- An attribute that every dialect writes, and writes alike. -/
def Attribute.isLogical : Attribute → Bool
  | .id | .unique | .updatedAt | .map _ | .relation _ _ => true
  | .default _ | .native _ | .written _ => false

/-- What a column says in every dialect. -/
structure ColumnOutline where
  name : String
  optional : Bool
  attributes : List Attribute
  deriving DecidableEq, Inhabited, Repr

/-- The outline of a column: its name, its mark of an optional one, and its logical attributes. -/
def Column.outline (c : Column) : ColumnOutline :=
  ⟨c.name, c.optional, c.attributes.filter (·.isLogical)⟩

/-- A field of some models has a length limit. -/
def LimitAmong (models : List Model) (n : Int) : Prop :=
  ∃ m ∈ models, ∃ f ∈ m.fields, f.maxLength = .ok (some n)

/-- The length limit of a field can be read, and if there is one it is a limit among models. -/
def Field.LimitedBy (models : List Model) (f : Field) : Prop :=
  ∃ limit, f.maxLength = .ok limit ∧ ∀ n, limit = some n → LimitAmong models n

/-- A failure that one of two dialects may have alone: it writes native types, the other does not,
and a length limit among models has too many digits. -/
structure OneSided (a b : Dialect) (models : List Model) (e : BlockFailure) : Prop where
  failure : e = .broken (.limit .tooLong)
  native : (Profile.ofDialect a).hasNativeTypes ≠ (Profile.ofDialect b).hasNativeTypes
  limit : ∃ n, LimitAmong models n ∧ IsOverlong n

/-! ## Native types -/

/-- The lengths that dialects supply can be written. -/
theorem not_isOverlong_of_supplied {d : Dialect} {n : Int} (isKey : Bool)
    (supplied : (if isKey then (Profile.ofDialect d).keyLength
      else (Profile.ofDialect d).stringLength) = some n) : ¬ IsOverlong n := by
  have small : n.natAbs < Nat.pow 10 3 := by
    cases d <;> cases isKey <;> cases supplied <;> decide
  exact not_isOverlong_of_lt (by decide) small

namespace Profile

variable {d : Dialect} {type : FieldType} {limit : Option Int} {isKey : Bool}

/-- A native type that needs a length with too many digits. -/
def NeedsOverlong (type : FieldType) (limit : Option Int) : Prop :=
  FieldKind.ofName? type.spelling = some .string ∧ ∃ n, limit = some n ∧ IsOverlong n

theorem nativeTypeOf_of_overlong (native : (ofDialect d).hasNativeTypes = true)
    (long : NeedsOverlong type limit) :
    (ofDialect d).nativeTypeOf type limit isKey = .error .tooLong := by
  obtain ⟨string, n, rfl, long⟩ := long
  unfold nativeTypeOf nativeType boundedString
  simp only [string, native, Bool.not_true, Bool.false_eq_true, ↓reduceIte, Option.some_or,
    integerText_of_overlong long]
  rfl

theorem exists_nativeTypeOf (isKey : Bool) (native : (ofDialect d).hasNativeTypes = true)
    (short : ¬ NeedsOverlong type limit) :
    ∃ t, (ofDialect d).nativeTypeOf type limit isKey = .ok t := by
  unfold nativeTypeOf
  cases spelled : FieldKind.ofName? type.spelling with
  | none => exact ⟨none, rfl⟩
  | some kind =>
    unfold nativeType
    simp only [native, Bool.not_true, Bool.false_eq_true, ↓reduceIte]
    split
    · split
      · next n sized =>
        have writable : ¬ IsOverlong n := by
          cases limit with
          | none => exact not_isOverlong_of_supplied isKey sized
          | some l =>
            cases sized
            exact fun long => short ⟨spelled, n, rfl, long⟩
        unfold boundedString
        rw [integerText_of_not_overlong writable]
        exact ⟨_, rfl⟩
      · exact ⟨none, rfl⟩
    · exact ⟨_, rfl⟩

/-- The native types that a dialect supplies: those of its table, and texts of limited length. -/
def Supplies (p : Profile) (text : String) : Prop :=
  (∃ n, boundedString n = .ok text) ∨ ∃ e ∈ p.nativeTypes, e.2 = text

theorem supplies_of_nativeType {p : Profile} {kind : FieldKind} {text : String}
    (made : p.nativeType kind limit isKey = .ok (some text)) : p.Supplies text := by
  unfold nativeType at made
  split at made
  · cases made
  · split at made
    · split at made
      · next n _ =>
        obtain ⟨_, bounded, same⟩ := Outcome.map_ok_iff.mp made
        cases same
        exact .inl ⟨n, bounded⟩
      · cases made
    · obtain ⟨e, found, named⟩ := Option.map_eq_some_iff.mp (Except.ok.inj made)
      exact .inr ⟨e, List.mem_of_find?_eq_some found, named⟩

end Profile

namespace FieldMapper

variable {a b : Dialect} {models : List Model} {actor actor' : FieldKind} {f : Field}

/-- What a dialect that writes native types makes of a field whose limit can be read: a native type,
or none because its limit has too many digits. -/
theorem ownNativeType_cases {d : Dialect} (actor : FieldKind)
    (native : (Profile.ofDialect d).hasNativeTypes = true) {limit : Option Int}
    (sized : f.maxLength = .ok limit) (type : FieldType) (isKey : Bool) :
    (∃ t, ownNativeType ⟨.ofDialect d, actor⟩ f type isKey = .ok t) ∧
        (explicitType? f ≠ none ∨ ¬ Profile.NeedsOverlong type limit) ∨
      ownNativeType ⟨.ofDialect d, actor⟩ f type isKey = .error (.broken (.limit .tooLong)) ∧
        explicitType? f = none ∧ Profile.NeedsOverlong type limit := by
  unfold ownNativeType columnLength
  cases explicit : explicitType? f with
  | some e => exact .inl ⟨⟨_, rfl⟩, .inl nofun⟩
  | none =>
    rw [sized]
    by_cases long : Profile.NeedsOverlong type limit
    · refine .inr ⟨?_, rfl, long⟩
      show Except.mapError _ (Profile.nativeTypeOf _ type limit isKey) = _
      rw [Profile.nativeTypeOf_of_overlong native long]
      rfl
    · obtain ⟨t, made⟩ := Profile.exists_nativeTypeOf isKey native long
      refine .inl ⟨⟨t, ?_⟩, .inr long⟩
      show Except.mapError _ (Profile.nativeTypeOf _ type limit isKey) = _
      rw [made]
      rfl

/-- A native type is that of one field on its own, the same field in every dialect that writes
native types. -/
theorem exists_nativeType_eq (f : Field) (kind : FieldKind) (isKey : Bool)
    (references : Option Field) :
    ∃ g type isKey', (g = f ∨ references = some g) ∧ ∀ mapper : FieldMapper,
      mapper.nativeType f kind isKey references =
        if !mapper.profile.hasNativeTypes then .ok none
        else mapper.ownNativeType g type isKey' := by
  cases explicit : explicitType? f with
  | some e =>
    refine ⟨f, .known kind, isKey, .inl rfl, fun mapper => ?_⟩
    unfold nativeType
    rw [explicit]
  | none =>
    cases referenced : references.bind fun key =>
        key.type.bind fun type => if type.same (.known kind) then some (key, type) else none with
    | none =>
      refine ⟨f, .known kind, isKey, .inl rfl, fun mapper => ?_⟩
      unfold nativeType
      simp only [explicit, referenced]
    | some found =>
      obtain ⟨key, there, same⟩ := Option.bind_eq_some_iff.mp referenced
      obtain ⟨type, _, fits⟩ := Option.bind_eq_some_iff.mp same
      obtain rfl : (key, type) = found := by
        rw [Option.ite_none_right_eq_some] at fits
        exact Option.some.inj fits.2
      refine ⟨key, type, true, .inr there, fun mapper => ?_⟩
      unfold nativeType
      simp only [explicit, referenced]

/-- An explicit type is written after an at sign, which is added where it is missing. -/
theorem explicitType?_eq_some {text : String} (given : explicitType? f = some text) :
    ∃ written, f.dbType = some written ∧
      text = if written.toList.head? == some '@' then written else "@db." ++ written := by
  unfold explicitType? at given
  split at given
  · next written filtered =>
    obtain ⟨db, _⟩ := Option.filter_eq_some_iff.mp filtered
    exact ⟨written, db, (Option.some.inj given).symm⟩
  · cases given

/-- The native type of a column is an explicit one, of the field or of the key it references, or one
that the dialect supplies. -/
theorem nativeType_eq_some {mapper : FieldMapper} {kind : FieldKind} {isKey : Bool}
    {references : Option Field} {text : String}
    (made : mapper.nativeType f kind isKey references = .ok (some text)) :
    (∃ g, (g = f ∨ references = some g) ∧ explicitType? g = some text) ∨
      mapper.profile.Supplies text := by
  obtain ⟨g, type, isKey', which, own⟩ := exists_nativeType_eq f kind isKey references
  rw [own] at made
  split at made
  · cases made
  · unfold ownNativeType at made
    split at made
    · next explicit given =>
      cases made
      exact .inl ⟨g, which, given⟩
    · obtain ⟨length, _, rest⟩ := Outcome.bind_ok_iff.mp made
      unfold Profile.nativeTypeOf at rest
      split at rest
      · exact .inr (Profile.supplies_of_nativeType (Outcome.mapError_ok_iff.mp rest))
      · cases rest

/-- In any two dialects a column has a native type or not, unless only one of them writes it and its
limit has too many digits. -/
theorem nativeType_agrees (limited : f.LimitedBy models) {references : Option Field}
    (keyed : ∀ key, references = some key → key.LimitedBy models) (kind : FieldKind)
    (isKey : Bool) :
    Agree (OneSided a b models) (fun _ _ => True)
      (nativeType ⟨.ofDialect a, actor⟩ f kind isKey references)
      (nativeType ⟨.ofDialect b, actor'⟩ f kind isKey references) := by
  obtain ⟨g, type, isKey', which, own⟩ := exists_nativeType_eq f kind isKey references
  obtain ⟨limit, sized, among⟩ : g.LimitedBy models := by
    rcases which with rfl | there
    · exact limited
    · exact keyed g there
  have long (needs : Profile.NeedsOverlong type limit) :
      ∃ n, LimitAmong models n ∧ IsOverlong n := by
    obtain ⟨_, n, same, overlong⟩ := needs
    exact ⟨n, among n same, overlong⟩
  rw [own, own]
  cases first : (Profile.ofDialect a).hasNativeTypes <;>
    cases second : (Profile.ofDialect b).hasNativeTypes
  · exact .ok trivial
  · rcases ownNativeType_cases actor' second sized type isKey' with
      ⟨⟨t, made⟩, _⟩ | ⟨failed, _, needs⟩
    · simp only [made]
      exact .ok trivial
    · simp only [failed]
      exact .right _ ⟨rfl, by rw [first, second]; decide, long needs⟩
  · rcases ownNativeType_cases actor first sized type isKey' with
      ⟨⟨t, made⟩, _⟩ | ⟨failed, _, needs⟩
    · simp only [made]
      exact .ok trivial
    · simp only [failed]
      exact .left ⟨rfl, by rw [first, second]; decide, long needs⟩ _
  · rcases ownNativeType_cases actor first sized type isKey' with
      ⟨⟨t, made⟩, short⟩ | ⟨failed, plain, needs⟩ <;>
    rcases ownNativeType_cases actor' second sized type isKey' with
      ⟨⟨t', made'⟩, short'⟩ | ⟨failed', plain', needs'⟩
    · simp only [made, made']
      exact .ok trivial
    · exact absurd needs' (short.resolve_left fun other => other plain')
    · exact absurd needs (short'.resolve_left fun other => other plain)
    · simp only [failed, failed']
      exact .error _ _

/-! ## Columns -/

/-- In any two dialects the default of a field can be written or not. -/
theorem defaultExpression_agrees {excused : BlockFailure → Prop} (p q : Profile) (f : Field)
    (kind : FieldKind) (model : String) :
    Agree excused (fun _ _ => True) (Column.defaultExpression p f kind model)
      (Column.defaultExpression q f kind model) := by
  unfold Column.defaultExpression
  simp only
  split
  · exact .ok trivial
  · split
    · cases kind
      case string => exact .ok trivial
      case integer => exact .ok trivial
      all_goals exact .error _ _
    · split
      · exact .ok trivial
      · exact (Agree.refl _).mono fun _ _ _ => trivial

/-- In any two dialects a field has columns of one outline or no column, unless its native type or
that of the key it references is in the way in one of them. -/
theorem mapField_agrees (limited : f.LimitedBy models) (role : ColumnRole)
    (keyed : ∀ key, role.references = some key → key.LimitedBy models) (model : String) :
    Agree (OneSided a b models) (fun c c' : Column => c.outline = c'.outline)
      (mapField ⟨.ofDialect a, actor⟩ f model role)
      (mapField ⟨.ofDialect b, actor'⟩ f model role) := by
  by_cases known : ∃ kind, f.type = some (.known kind)
  · obtain ⟨kind, typed⟩ := known
    rw [mapField_of_known typed, mapField_of_known typed]
    refine (defaultExpression_agrees _ _ _ _ _).bind fun default default' _ => ?_
    refine (nativeType_agrees limited keyed _ _).bind fun native native' _ => .ok ?_
    have plain (given : Option String) :
        ((given.map Attribute.default).toList.filter (·.isLogical)) = [] := by
      cases given <;> rfl
    have physical (given : Option String) :
        ((given.map Attribute.native).toList.filter (·.isLogical)) = [] := by
      cases given <;> rfl
    unfold Column.outline columnOf
    simp only [List.filter_append, plain, physical]
  · rw [mapField_of_unknown known, mapField_of_unknown known]
    exact .error _ _

/-- The fields of the audit have no length limit. -/
theorem limitedBy_of_auditField (mapper : FieldMapper) (name : String) :
    (auditField mapper name).LimitedBy models := by
  obtain ⟨kind, required, default, _, field⟩ := auditField_eq mapper name
  rw [field]
  exact ⟨none, rfl, nofun⟩

theorem auditColumn_agrees (actor : FieldKind) (name : String) :
    Agree (OneSided a b models) (fun c c' : Column => c.outline = c'.outline)
      (auditColumn ⟨.ofDialect a, actor⟩ name) (auditColumn ⟨.ofDialect b, actor⟩ name) := by
  unfold auditColumn
  have alone (key : Field) (is : none = some key) : key.LimitedBy models :=
    absurd is (Option.some_ne_none key).symm
  refine (mapField_agrees (limitedBy_of_auditField _ name) ⟨true, false, none⟩ alone "").bind
    fun c c' same => ?_
  unfold Column.outline at same
  obtain ⟨name, optional, attributes⟩ := ColumnOutline.mk.inj same
  split
  · refine .ok ?_
    unfold Column.outline
    have first (rest : List Attribute) : (Attribute.updatedAt :: rest).filter (·.isLogical) =
        Attribute.updatedAt :: rest.filter (·.isLogical) := List.filter_cons_of_pos rfl
    rw [first, first, name, optional, attributes]
  · exact .ok same

end FieldMapper

end SchemaCompiler
