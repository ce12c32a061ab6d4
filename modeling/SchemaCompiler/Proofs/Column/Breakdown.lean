import SchemaCompiler.Proofs.Column.Dialect

/-!
# Columns that break down

A field that cannot be mapped is refused with its place. Beyond that only two things keep a checked
field from its column: a default of type JSON with keys that have no order, and an integer with more
digits than can be written, be it a length limit or in a default (`mapField_broken_iff`).
-/

set_option autoImplicit false

namespace SchemaCompiler

/-- The default of a field is to be written as JSON, and the keys of a dictionary in it have no
order. -/
structure Field.Unordered (f : Field) : Prop where
  json : f.type = some (.known .json)
  raw : f.dbDefault.getD "" = ""
  given : f.autoIncrement = false
  unordered : f.default.toJson .compact = .error .decimalNaN

open Outcome (EndsIf)

namespace Column

variable {f : Field} {kind : FieldKind} {b : Breakdown}

theorem jsonLiteral?_error_iff {value : Value} : jsonLiteral? value = .error b ↔
    b = .unorderedKeys ∧ value.toJson .compact = .error .decimalNaN := by
  unfold jsonLiteral?
  split
  case h_4 written =>
    exact ⟨fun h => ⟨(Except.error.inj h).symm, written⟩, fun ⟨same, _⟩ => congrArg _ same.symm⟩
  all_goals
    next written =>
      exact iff_of_false (fun h => (nomatch h)) fun ⟨_, other⟩ => nomatch written.symm.trans other

/-- An integer has a literal unless it has too many digits. -/
theorem integerLiteral?_endsIf (n : Int) :
    EndsIf (integerLiteral? n) (.limit .tooLong) (¬ IsOverlong n) :=
  ((integerText_endsIf n).map some).mapError Breakdown.limit

theorem integerLiteral?_ok_iff {n : Int} {text : String} :
    integerLiteral? n = .ok (some text) ↔ ¬ IsOverlong n ∧ text = toString n := by
  unfold integerLiteral?
  constructor
  · intro fits
    obtain ⟨written, done, same⟩ :=
      Outcome.map_ok_iff.mp (Outcome.mapError_ok_iff.mp fits)
    cases same
    exact ⟨(integerText_endsIf n).ok_iff.mp ⟨_, done⟩, integerText_eq done⟩
  · rintro ⟨short, rfl⟩
    rw [integerText_of_not_overlong short]
    rfl

/-- But for integers with too many digits, only a default of type JSON breaks down. -/
theorem defaultLiteral?_error_iff {value : Value} (sized : b ≠ .limit .tooLong) :
    defaultLiteral? kind value = .error b ↔
      b = .unorderedKeys ∧ kind = .json ∧ value.toJson .compact = .error .decimalNaN := by
  by_cases json : kind = .json
  · subst json
    rw [eq_self, true_and]
    exact jsonLiteral?_error_iff
  · refine iff_of_false ?_ fun ⟨_, same, _⟩ => json same
    unfold defaultLiteral?
    split
    case h_4 n | h_5 n => exact fun failed => sized ((integerLiteral?_endsIf n).error failed)
    case h_9 => exact absurd rfl json
    all_goals exact fun h => (nomatch h)

/-- A default that does not fit its type is refused if it can be shown. -/
theorem misfit_of_isShort (model : String) (typed : f.type = some (.known kind))
    (short : f.default.IsShort) : misfit f model =
      .field model f.name (.invalidDefault f.default.literal kind.name f.name) := by
  obtain ⟨text, shown⟩ := (Value.literal?_endsIf f.default).ends short
  unfold misfit Value.literal
  rw [typed, shown]

theorem misfit_of_not_isShort (model : String) (long : ¬ f.default.IsShort) :
    misfit f model = .broken (.limit .tooLong) := by
  unfold misfit
  rw [(Value.literal?_endsIf f.default).fails long]

theorem misfit_ne_broken (model : String) (typed : f.type = some (.known kind))
    (sized : b ≠ .limit .tooLong) : misfit f model ≠ .broken b := by
  by_cases short : f.default.IsShort
  · rw [misfit_of_isShort model typed short]
    exact nofun
  · rw [misfit_of_not_isShort model short]
    exact fun same => sized (BlockFailure.broken.inj same).symm

/-! ## The literal of a default -/

/-- The kind that the type of a field is spelled like, checked or not. -/
def spelledKind? (f : Field) : Option FieldKind :=
  f.type.bind fun t => FieldKind.ofName? t.spelling

theorem spelledKind?_of_known (typed : f.type = some (.known kind)) :
    spelledKind? f = some kind := by
  unfold spelledKind?
  rw [typed]
  exact FieldKind.ofName?_name kind

/-- A default is formatted as its literal of the type that the type of its field is spelled like. -/
theorem formatDefault_eq (model : String) (spelled : spelledKind? f = some kind) :
    formatDefault f model = ((defaultLiteral? kind f.default).mapError .broken >>= fun literal =>
      literal.elim (.error (misfit f model)) .ok) := by
  unfold spelledKind? at spelled
  unfold formatDefault
  rw [spelled]
  dsimp only
  cases defaultLiteral? kind f.default with
  | error => rfl
  | ok literal => cases literal <;> rfl

variable {text : String}

theorem formatDefault_of_literal (model : String) (spelled : spelledKind? f = some kind)
    (fits : defaultLiteral? kind f.default = .ok (some text)) :
    formatDefault f model = .ok text := by
  rw [formatDefault_eq model spelled, fits]
  rfl

theorem formatDefault_of_unfit (model : String) (spelled : spelledKind? f = some kind)
    (unfit : defaultLiteral? kind f.default = .ok none) :
    formatDefault f model = .error (misfit f model) := by
  rw [formatDefault_eq model spelled, unfit]
  rfl

theorem formatDefault_of_broken (model : String) (spelled : spelledKind? f = some kind)
    (failed : defaultLiteral? kind f.default = .error b) :
    formatDefault f model = .error (.broken b) := by
  rw [formatDefault_eq model spelled, failed]
  rfl

theorem formatDefault_broken_iff (model : String) (typed : f.type = some (.known kind))
    (sized : b ≠ .limit .tooLong) :
    formatDefault f model = .error (.broken b) ↔ defaultLiteral? kind f.default = .error b := by
  have spelled := spelledKind?_of_known typed
  refine ⟨fun failed => ?_, formatDefault_of_broken model spelled⟩
  cases outcome : defaultLiteral? kind f.default with
  | error b' =>
    have same := (formatDefault_of_broken model spelled outcome).symm.trans failed
    exact congrArg _ (BlockFailure.broken.inj (Except.error.inj same))
  | ok literal =>
    cases literal with
    | some text => cases (formatDefault_of_literal model spelled outcome).symm.trans failed
    | none =>
      have same := (formatDefault_of_unfit model spelled outcome).symm.trans failed
      exact absurd (Except.error.inj same) (misfit_ne_broken model typed sized)

/-- But for integers with too many digits, the default of a field with a checked type breaks down
only over the order of its keys. -/
theorem defaultExpression_broken_iff (p : Profile) (model : String)
    (typed : f.type = some (.known kind)) (sized : b ≠ .limit .tooLong) :
    defaultExpression p f kind model = .error (.broken b) ↔ b = .unorderedKeys ∧ f.Unordered := by
  unfold defaultExpression
  simp only
  split
  · next raw =>
    exact iff_of_false (fun h => (nomatch h)) fun ⟨_, unordered⟩ => bne_iff_ne.mp raw unordered.raw
  · next raw =>
    have raw : f.dbDefault.getD "" = "" := by simpa using raw
    split
    · next given =>
      refine iff_of_false ?_ fun ⟨_, unordered⟩ => ?_
      · cases kind <;> exact fun h => (nomatch h)
      · cases given.symm.trans unordered.given
    · next given =>
      have given : f.autoIncrement = false := Bool.eq_false_iff.mpr given
      have json : f.type = some (.known .json) ↔ kind = .json := by
        rw [typed, Option.some.injEq, FieldType.known.injEq]
      have stated : f.Unordered ↔ kind = .json ∧ f.default.toJson .compact = .error .decimalNaN :=
        ⟨fun u => ⟨json.mp u.json, u.unordered⟩, fun ⟨k, u⟩ => ⟨json.mpr k, raw, given, u⟩⟩
      have formatted := formatDefault_broken_iff model typed sized
      rw [stated, ← defaultLiteral?_error_iff sized, ← formatted]
      split
      · next null =>
        refine iff_of_false (fun h => (nomatch h)) fun failed => ?_
        obtain ⟨_, _, other⟩ := (defaultLiteral?_error_iff sized).mp (formatted.mp failed)
        rw [null] at other
        cases other
      · cases formatDefault f model with
        | ok text => exact iff_of_false (fun h => (nomatch h)) fun h => (nomatch h)
        | error e =>
          exact ⟨fun h => congrArg _ (Except.error.inj h), fun h => congrArg _ (Except.error.inj h)⟩

end Column

namespace FieldMapper

variable {d : Dialect} {actor : FieldKind} {models : List Model} {f : Field} {b : Breakdown}

/-- A native type fails only because a limit has too many digits. -/
theorem nativeType_error (limited : f.LimitedBy models) {references : Option Field}
    (keyed : ∀ key, references = some key → key.LimitedBy models) {kind : FieldKind} {isKey : Bool}
    {e : BlockFailure}
    (failed : nativeType ⟨.ofDialect d, actor⟩ f kind isKey references = .error e) :
    e = .broken (.limit .tooLong) := by
  obtain ⟨g, type, isKey', which, own⟩ := exists_nativeType_eq f kind isKey references
  obtain ⟨limit, sized, _⟩ : g.LimitedBy models := by
    rcases which with rfl | there
    · exact limited
    · exact keyed g there
  rw [own] at failed
  cases native : (Profile.ofDialect d).hasNativeTypes with
  | false =>
    simp only [native] at failed
    cases failed
  | true =>
    simp only [native] at failed
    rcases ownNativeType_cases actor native sized type isKey' with ⟨⟨t, made⟩, _⟩ | ⟨other, _⟩
    · cases failed.symm.trans made
    · exact Except.error.inj (failed.symm.trans other)

/-- Mapping a field breaks down, but for a limit with too many digits, exactly if its default has
keys without an order. -/
theorem mapField_broken_iff (limited : f.LimitedBy models) {role : ColumnRole}
    (keyed : ∀ key, role.references = some key → key.LimitedBy models) {model : String}
    (sized : b ≠ .limit .tooLong) :
    mapField ⟨.ofDialect d, actor⟩ f model role = .error (.broken b) ↔
      b = .unorderedKeys ∧ f.Unordered := by
  by_cases known : ∃ kind, f.type = some (.known kind)
  · obtain ⟨kind, typed⟩ := known
    have expression := Column.defaultExpression_broken_iff (.ofDialect d) model typed sized
    rw [mapField_of_known typed, ← expression, Outcome.bind_error_iff]
    refine or_iff_left ?_
    rintro ⟨default, _, rest⟩
    rcases Outcome.bind_error_iff.mp rest with failed | ⟨_, _, done⟩
    · exact sized (BlockFailure.broken.inj (nativeType_error limited keyed failed))
    · cases done
  · rw [mapField_of_unknown known]
    constructor
    · intro refused
      cases refused
    · rintro ⟨_, unordered⟩
      exact absurd ⟨.json, unordered.json⟩ known

end FieldMapper

end SchemaCompiler
