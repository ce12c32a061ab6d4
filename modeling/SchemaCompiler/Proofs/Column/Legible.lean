import SchemaCompiler.Proofs.Column.Breakdown
import SchemaCompiler.Proofs.Document.Legible
import SchemaCompiler.Proofs.Model.Legible

/-!
# Legible columns

The column of a legible field is legible (`legible_of_mapField`). Its type is the name of a scalar
type, and all its attributes begin with an at sign, also a native type that the field writes out.
The default stands in parentheses behind one, so only its lines matter and not its braces.
-/

set_option autoImplicit false

namespace SchemaCompiler

open Text (NoBlank OneLine)

variable {d : Dialect} {f : Field} {kind : FieldKind} {text : String} {actor : FieldKind}

/-! ## Attributes -/

namespace Attribute

theorem marked_default (h : OneLine text) : Marked (default text).render :=
  (Marked.append ⟨rfl, by decide⟩ h).append (by decide)

theorem marked_map (h : OneLine text) : Marked (map text).render :=
  (Marked.append ⟨rfl, by decide⟩ h).append (by decide)

/-- A relation attribute is legible if its label and the names of its keys have one line. -/
theorem marked_relation {label : String} {reference : Option KeyReference} (h : OneLine label)
    (keys : ∀ r, reference = some r → OneLine r.field ∧ OneLine r.key) :
    Marked (relation label reference).render := by
  have labelled : Marked ("@relation(\"" ++ label) := .append ⟨rfl, by decide⟩ h
  cases reference with
  | none => exact labelled.append (by decide)
  | some r =>
    obtain ⟨field, key⟩ := keys r rfl
    have keyed := (((labelled.append (by decide : OneLine "\", fields: [")).append field).append
      (by decide : OneLine "], references: [")).append key
    refine ((keyed.append (by decide)).append ?_).append (by decide)
    cases r.onDelete with
    | none => decide
    | some a => cases a <;> decide

end Attribute

/-! ## Defaults -/

namespace Column

/-- The literal of a default has one line, since texts are quoted. -/
theorem oneLine_defaultLiteral {value : Value} (payload : ∀ negative signalling digits,
      value = .decimal (.nan negative signalling digits) → OneLine digits)
    (made : defaultLiteral? kind value = .ok (some text)) : OneLine text := by
  unfold defaultLiteral? at made
  split at made
  case h_4 n | h_5 n =>
    obtain ⟨_, rfl⟩ := integerLiteral?_ok_iff.mp made
    exact Text.oneLine_toString _
  case h_8 =>
    obtain rfl := Option.some.inj (Except.ok.inj made)
    split
    · decide
    · exact Text.oneLine_quoted _
  case h_9 =>
    unfold jsonLiteral? at made
    split at made
    · cases made
      exact Text.oneLine_quoted _
    all_goals cases made
  all_goals cases made
  · exact Text.oneLine_quoted _
  · exact Text.oneLine_quoted _
  · split <;> decide
  · exact Text.oneLine_render _
  · exact Text.oneLine_numeral fun negative signalling digits same =>
      payload negative signalling digits (congrArg Value.decimal same)

/-- A default is written as its literal of the type that the type of the field is spelled like. -/
theorem exists_literal_of_formatDefault {model : String} (made : formatDefault f model = .ok text) :
    ∃ kind, defaultLiteral? kind f.default = .ok (some text) := by
  unfold formatDefault at made
  split at made
  · next kind _ =>
    obtain ⟨literal, found, rest⟩ := Outcome.bind_ok_iff.mp made
    simp only at rest
    split at rest
    · cases rest
      exact ⟨kind, Outcome.mapError_ok_iff.mp found⟩
    · cases rest
  · obtain ⟨literal, found, rest⟩ := Outcome.bind_ok_iff.mp made
    cases found
    cases rest

/-- The default of a legible field has one line. -/
theorem oneLine_defaultExpression {model : String} (h : f.Legible)
    (made : defaultExpression (.ofDialect d) f kind model = .ok (some text)) : OneLine text := by
  unfold defaultExpression at made
  simp only at made
  split at made
  · next given =>
    cases made
    unfold rawDefault
    split
    · decide
    · cases raw : f.dbDefault with
      | none => exact (by decide : OneLine "")
      | some t => exact h.dbDefault t raw
  · split at made
    · split at made
      · cases made
        decide
      · cases made
        cases d <;> decide
      · cases made
    · split at made
      · cases made
      · obtain ⟨t, written, same⟩ := Outcome.map_ok_iff.mp made
        cases same
        obtain ⟨kind, literal⟩ := exists_literal_of_formatDefault written
        exact oneLine_defaultLiteral h.payload literal

end Column

/-! ## Native types -/

namespace Profile

/-- A native type that a dialect supplies begins with an at sign. -/
theorem Supplies.marked (h : (ofDialect d).Supplies text) : Marked text := by
  have listed : ∀ e ∈ (ofDialect d).nativeTypes, e.2.toList.head? = some '@' ∧ OneLine e.2 := by
    cases d <;> decide
  obtain ⟨n, bounded⟩ | ⟨e, mem, rfl⟩ := h
  · unfold boundedString integerText at bounded
    split at bounded
    · cases bounded
      exact (Marked.append ⟨rfl, by decide⟩ (Text.oneLine_toString n)).append (by decide)
    · cases bounded
  · obtain ⟨first, line⟩ := listed e mem
    exact ⟨first, line⟩

end Profile

namespace FieldMapper

variable {c : Column} {isKey : Bool}

theorem marked_explicitType (h : f.Legible) (given : explicitType? f = some text) :
    Marked text := by
  obtain ⟨written, db, rfl⟩ := explicitType?_eq_some given
  have line := h.dbType written db
  split
  · next first => exact ⟨eq_of_beq first, line⟩
  · exact Marked.append ⟨rfl, by decide⟩ line

/-- A native type begins with an at sign, be it that of the field or that of the key it
references. -/
theorem marked_nativeType {references : Option Field} (h : f.Legible)
    (keyed : ∀ key, references = some key → key.Legible)
    (made : nativeType ⟨.ofDialect d, actor⟩ f kind isKey references = .ok (some text)) :
    Marked text := by
  obtain ⟨g, rfl | there, given⟩ | supplied := nativeType_eq_some made
  · exact marked_explicitType h given
  · exact marked_explicitType (keyed g there) given
  · exact supplied.marked

/-! ## Columns -/

/-- The column of a legible field, which may follow a legible key, is legible. -/
theorem legible_of_mapField {model : String} {role : ColumnRole} (h : f.Legible)
    (keyed : ∀ key, role.references = some key → key.Legible)
    (made : mapField ⟨.ofDialect d, actor⟩ f model role = .ok c) : c.Legible := by
  obtain ⟨kind, default, native, _, expressed, typed, rfl⟩ := exists_columnOf made
  refine ⟨h.name, ?_, fun a mem => Marked.quiet ?_⟩
  · show Quiet (Scalar.name _)
    generalize Profile.scalar _ _ = s
    cases s <;> decide +kernel
  · rcases mem_columnOf_iff.mp mem with ⟨rfl, _⟩ | ⟨text, rfl, rfl⟩ | ⟨rfl, _⟩ | ⟨text, rfl, rfl⟩ |
      ⟨rfl, _⟩
    · exact ⟨rfl, by decide⟩
    · exact Attribute.marked_default (Column.oneLine_defaultExpression h expressed)
    · exact ⟨rfl, by decide⟩
    · exact marked_nativeType h keyed typed
    · exact Attribute.marked_map (Text.oneLine_snakeCase h.name.oneLine)

/-- The audit columns are legible. -/
theorem legible_of_auditColumn {name : String} (among : name ∈ auditNames)
    (made : auditColumn ⟨.ofDialect d, actor⟩ name = .ok c) : c.Legible := by
  have named : ∀ name ∈ auditNames, NoBlank name := by decide
  obtain ⟨column, mapped, which⟩ := auditColumn_cases made
  obtain ⟨kind, required, default, plain, field⟩ := auditField_eq ⟨.ofDialect d, actor⟩ name
  have own : (auditField ⟨.ofDialect d, actor⟩ name).Legible := by
    rw [field]
    refine ⟨named name among, fun _ => nofun, fun _ => nofun, ?_⟩
    rintro _ _ _ rfl
    rcases plain with other | other <;> cases other
  have alone (key : Field) (is : none = some key) : key.Legible :=
    absurd is (Option.some_ne_none key).symm
  have legible := legible_of_mapField own alone mapped
  rcases which with rfl | rfl
  · exact legible
  · refine ⟨legible.name, legible.type, List.forall_mem_cons.mpr ⟨?_, legible.attributes⟩⟩
    exact (Marked.mk rfl (by decide)).quiet

end FieldMapper

end SchemaCompiler
