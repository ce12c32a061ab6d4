import SchemaCompiler.Proofs.Column.Dialect

/-!
# Columns that carry the mark of a key

The mark of a primary key is an attribute of a column, and a native type is written as it is given,
so a field could be given the mark for a type. Where no field is, the column of a field carries the
mark exactly if the field is mapped as a key (`hasId_of_mapField`).
-/

set_option autoImplicit false

namespace SchemaCompiler

/-- One of the attributes reads as the mark of a primary key. -/
def Column.hasId (c : Column) : Bool := c.attributes.any (·.render == "@id")

/-- The native type that the field is given is not the mark of a primary key. -/
def Field.Native (f : Field) : Prop := f.dbType ≠ some "@id"

instance (f : Field) : Decidable f.Native := inferInstanceAs (Decidable (_ ≠ _))

/-! ## Texts that are not the mark -/

/-- A text is longer than the mark of a primary key. -/
def Long (text : String) : Prop := "@id".length < text.length

instance (text : String) : Decidable (Long text) := inferInstanceAs (Decidable (_ < _))

theorem Long.append {head : String} (long : Long head) (rest : String) : Long (head ++ rest) := by
  unfold Long
  rw [String.length_append]
  exact Nat.lt_of_lt_of_le long (Nat.le_add_right _ _)

theorem Long.ne_mark {text : String} (long : Long text) : text ≠ "@id" :=
  fun same => Nat.lt_irrefl _ (same ▸ long)

namespace Attribute

/-- The attributes that read as the mark are the mark itself and what is taken as it is written. -/
theorem render_eq_mark (a : Attribute) : (a.render == "@id") = match a with
    | id => true
    | native text | written text => text == "@id"
    | _ => false := by
  cases a with
  | id => rfl
  | native text => rfl
  | written text => rfl
  | unique => rfl
  | updatedAt => rfl
  | default expression =>
    have long : Long ("@default(" ++ expression ++ ")") := .append (.append (by decide) _) _
    exact beq_eq_false_iff_ne.mpr long.ne_mark
  | map column =>
    have long : Long ("@map(\"" ++ column ++ "\")") := .append (.append (by decide) _) _
    exact beq_eq_false_iff_ne.mpr long.ne_mark
  | relation label reference =>
    have long : Long ("@relation(\"" ++ label) := .append (by decide) _
    cases reference with
    | none => exact beq_eq_false_iff_ne.mpr (long.append _).ne_mark
    | some r =>
      have rest := ((((long.append "\", fields: [").append r.field).append
        "], references: [").append r.key).append "]"
      exact beq_eq_false_iff_ne.mpr ((rest.append _).append _).ne_mark

end Attribute

namespace Profile

variable {d : Dialect} {text : String}

/-- No native type that a dialect supplies is the mark of a primary key. -/
theorem Supplies.long (h : (ofDialect d).Supplies text) : Long text := by
  have listed : ∀ e ∈ (ofDialect d).nativeTypes, Long e.2 := by
    cases d <;> decide
  obtain ⟨n, bounded⟩ | ⟨e, mem, rfl⟩ := h
  · obtain ⟨digits, _, rfl⟩ := Outcome.map_ok_iff.mp bounded
    exact .append (.append (by decide) _) _
  · exact listed e mem

end Profile

namespace FieldMapper

variable {d : Dialect} {actor : FieldKind} {f : Field} {c : Column} {text : String}

/-- The explicit type of a field that is not given the mark is not the mark. -/
theorem explicitType_ne_mark (native : f.Native) (given : explicitType? f = some text) :
    text ≠ "@id" := by
  obtain ⟨written, db, rfl⟩ := explicitType?_eq_some given
  split
  · exact fun same => native (same ▸ db)
  · have long : Long ("@db." ++ written) := .append (by decide) _
    exact long.ne_mark

/-- The native type of a column is not the mark, be it that of the field or that of the key it
references. -/
theorem nativeType_ne_mark {kind : FieldKind} {isKey : Bool} {references : Option Field}
    (native : f.Native) (keyed : ∀ key, references = some key → key.Native)
    (made : nativeType ⟨.ofDialect d, actor⟩ f kind isKey references = .ok (some text)) :
    text ≠ "@id" := by
  obtain ⟨g, rfl | there, given⟩ | supplied := nativeType_eq_some made
  · exact explicitType_ne_mark native given
  · exact explicitType_ne_mark (keyed g there) given
  · exact supplied.long.ne_mark

/-- The column of a field carries the mark of a primary key exactly if the field is mapped as a
key. -/
theorem hasId_of_mapField {model : String} {role : ColumnRole} (native : f.Native)
    (keyed : ∀ key, role.references = some key → key.Native)
    (made : mapField ⟨.ofDialect d, actor⟩ f model role = .ok c) :
    c.hasId = mapsKey f role := by
  obtain ⟨kind, default, type, _, _, typed, rfl⟩ := exists_columnOf made
  unfold Column.hasId
  rw [Bool.eq_iff_iff, List.any_eq_true]
  constructor
  · rintro ⟨a, mem, reads⟩
    rw [Attribute.render_eq_mark] at reads
    rcases mem_columnOf_iff.mp mem with ⟨rfl, maps⟩ | ⟨_, _, rfl⟩ | ⟨rfl, _⟩ | ⟨text, rfl, rfl⟩ |
      ⟨rfl, _⟩
    · exact maps
    · cases reads
    · cases reads
    · exact absurd (eq_of_beq reads) (nativeType_ne_mark native keyed typed)
    · cases reads
  · intro maps
    exact ⟨.id, mem_columnOf_iff.mpr (.inl ⟨rfl, maps⟩), rfl⟩

/-- An audit column does not carry the mark of a primary key. -/
theorem hasId_of_auditColumn {name : String} (among : name ∈ auditNames)
    (made : auditColumn ⟨.ofDialect d, actor⟩ name = .ok c) : c.hasId = false := by
  have other : ∀ name ∈ auditNames, (name == "id") = false := by decide
  obtain ⟨column, mapped, which⟩ := auditColumn_cases made
  obtain ⟨kind, required, default, _, field⟩ := auditField_eq ⟨.ofDialect d, actor⟩ name
  have native : (auditField ⟨.ofDialect d, actor⟩ name).Native := by
    rw [field]
    exact nofun
  have alone (key : Field) (is : none = some key) : key.Native := nomatch is
  have unmarked : column.hasId = false := by
    rw [hasId_of_mapField native alone mapped, field]
    show ((false || name == "id") && true && !false) = false
    rw [other name among]
    rfl
  rcases which with rfl | rfl
  · exact unmarked
  · exact unmarked

end FieldMapper

end SchemaCompiler
