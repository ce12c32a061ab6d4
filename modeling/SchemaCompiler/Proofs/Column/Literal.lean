import SchemaCompiler.Proofs.Column.Default
import SchemaCompiler.Proofs.Value.Numeral

/-!
# Literals of a type

A default of a kind that the type of its field takes is formatted as a literal of the type, and any
other is refused as one that does not fit the type. Three kinds of values stray from this
(`formatDefault_literal_iff`): numbers that are not finite, which are taken and written as words,
dictionaries whose keys cannot be sorted because one of them is a NaN and one a decimal, and values
with an integer of too many digits, which have no literal and cannot be shown in a refusal either.
-/

set_option autoImplicit false

namespace SchemaCompiler.Column

open Json (IsLiteral parse?)
open Notation (IsInteger IsNumeral)

variable {f : Field} {kind : FieldKind} {v : Value} {text : String}

/-- A line of JSON that is a string. -/
def IsString (text : String) : Prop := IsLiteral text ∧ ∃ s, parse? text = some (.str s)

/-- A text is a literal of a type. -/
def IsLiteralOf : FieldKind → String → Prop
  | .boolean, text => text = "true" ∨ text = "false"
  | .integer, text => IsInteger text.toList
  | .decimal, text => IsNumeral text.toList
  | .datetime, text => text = "now()" ∨ IsString text
  | .string, text | .text, text | .json, text => IsString text

/-- A value is of a kind that a type takes. -/
inductive Takes : FieldKind → Value → Prop
  | string (s : String) : Takes .string (.str s)
  | text (s : String) : Takes .text (.str s)
  | datetime (s : String) : Takes .datetime (.str s)
  | boolean (b : Bool) : Takes .boolean (.bool b)
  | integer {n : Int} (short : ¬ IsOverlong n) : Takes .integer (.int n)
  | whole {n : Int} (short : ¬ IsOverlong n) : Takes .decimal (.int n)
  | double (x : Binary64) : Takes .decimal (.float x)
  | decimal (d : Numeral) : Takes .decimal (.decimal d)
  | json {v : Value} {text : String} (written : v.toJson .compact = .ok text) : Takes .json v

/-- A number that is infinite or no number at all. -/
inductive IsSpecial : Value → Prop
  | double {x : Binary64} (special : x.isFinite = false) : IsSpecial (.float x)
  | infinity (negative : Bool) : IsSpecial (.decimal (.infinity negative))
  | nan (negative signalling : Bool) (payload : String) :
    IsSpecial (.decimal (.nan negative signalling payload))

/-- A value is not refused for a type, though it has no literal of the type. -/
inductive Strays : FieldKind → Value → Prop
  | special {v : Value} (special : IsSpecial v) : Strays .decimal v
  | keys {v : Value} (unordered : v.toJson .compact = .error .decimalNaN) : Strays .json v
  | long {kind : FieldKind} {v : Value} {n : Int} (other : ¬ Takes kind v)
    (within : v.HoldsInteger n) (overlong : IsOverlong n) : Strays kind v

theorem isString_quoted (s : String) : IsString (Json.quoted s) :=
  ⟨Json.isLiteral_quoted s, s, Json.parse?_quoted s⟩

theorem not_isSpecial_double_iff {x : Binary64} : x.isFinite = true ↔ ¬ IsSpecial (.float x) := by
  constructor
  · rintro finite ⟨special⟩
    cases special.symm.trans finite
  · intro regular
    exact Bool.not_eq_false _ ▸ fun special => regular (.double special)

theorem not_isSpecial_decimal_iff {d : Numeral} :
    (∃ negative n e, d = .finite negative n e) ↔ ¬ IsSpecial (.decimal d) := by
  cases d with
  | finite negative n e => exact iff_of_true ⟨negative, n, e, rfl⟩ nofun
  | infinity negative => exact iff_of_false nofun fun regular => regular (.infinity negative)
  | nan negative signalling payload =>
    exact iff_of_false nofun fun regular => regular (.nan negative signalling payload)

/-! ## The literal of a value -/

/-- JSON is written as a string. -/
theorem exists_quoted_of_json (fits : jsonLiteral? v = .ok (some text)) :
    ∃ s, v.toJson .compact = .ok s ∧ Json.quoted s = text := by
  unfold jsonLiteral? at fits
  split at fits
  · next s written => exact ⟨s, written, Option.some.inj (Except.ok.inj fits)⟩
  all_goals cases fits

/-- A type has a literal for the values that it takes. -/
theorem exists_literal_iff :
    (∃ text, defaultLiteral? kind v = .ok (some text)) ↔ Takes kind v := by
  constructor
  · rintro ⟨text, fits⟩
    unfold defaultLiteral? at fits
    split at fits
    case h_4 => exact .integer (integerLiteral?_ok_iff.mp fits).1
    case h_5 => exact .whole (integerLiteral?_ok_iff.mp fits).1
    case h_9 =>
      obtain ⟨s, written, _⟩ := exists_quoted_of_json fits
      exact .json written
    case h_10 => cases fits
    all_goals constructor
  · intro takes
    cases takes with
    | integer short | whole short => exact ⟨_, integerLiteral?_ok_iff.mpr ⟨short, rfl⟩⟩
    | json written =>
      unfold defaultLiteral? jsonLiteral?
      simp only [written]
      exact ⟨_, rfl⟩
    | _ => exact ⟨_, rfl⟩

/-- A value that fits a type is written as a literal of the type, but for special numbers. -/
theorem isLiteralOf_iff (fits : defaultLiteral? kind v = .ok (some text)) :
    IsLiteralOf kind text ↔ ¬ (kind = .decimal ∧ IsSpecial v) := by
  unfold defaultLiteral? at fits
  split at fits
  case h_4 n =>
    obtain ⟨_, rfl⟩ := integerLiteral?_ok_iff.mp fits
    exact iff_of_true (Notation.isInteger_toString n) nofun
  case h_5 n =>
    obtain ⟨_, rfl⟩ := integerLiteral?_ok_iff.mp fits
    exact iff_of_true (Notation.isInteger_toString n).isNumeral nofun
  case h_9 =>
    obtain ⟨s, _, rfl⟩ := exists_quoted_of_json fits
    exact iff_of_true (isString_quoted s) nofun
  case h_10 => cases fits
  all_goals obtain rfl := Option.some.inj (Except.ok.inj fits)
  case h_1 s | h_2 s => exact iff_of_true (isString_quoted s) nofun
  case h_3 b =>
    refine iff_of_true ?_ nofun
    cases b
    · exact .inr rfl
    · exact .inl rfl
  case h_6 x =>
    rw [eq_self, true_and]
    exact (Notation.isNumeral_render_double_iff x).trans not_isSpecial_double_iff
  case h_7 d =>
    rw [eq_self, true_and]
    exact (Notation.isNumeral_render_iff d).trans not_isSpecial_decimal_iff
  case h_8 s =>
    refine iff_of_true ?_ nofun
    split
    · exact .inl rfl
    · exact .inr (isString_quoted s)

/-! ## Values that stray -/

/-- Of the values that a type takes only special numbers stray. -/
theorem strays_iff_of_takes (takes : Takes kind v) :
    Strays kind v ↔ kind = .decimal ∧ IsSpecial v := by
  constructor
  · intro strays
    cases strays with
    | special special => exact ⟨rfl, special⟩
    | keys unordered =>
      cases takes with
      | json written => cases written.symm.trans unordered
    | long other => exact absurd takes other
  · rintro ⟨rfl, special⟩
    exact .special special

/-- What fails before it can be told whether it fits the type strays. -/
theorem strays_of_broken {b : Breakdown} (failed : defaultLiteral? kind v = .error b) :
    Strays kind v := by
  -- an integer breaks down where its type takes integers, so it is too long
  have long {kind : FieldKind} {n : Int} (literal : defaultLiteral? kind (.int n) = .error b)
      (integer : defaultLiteral? kind (.int n) = integerLiteral? n) : Strays kind (.int n) := by
    refine .long (fun takes => ?_) .int ?_
    · obtain ⟨_, done⟩ := exists_literal_iff.mpr takes
      cases done.symm.trans literal
    · by_contra short
      obtain ⟨_, done⟩ := (integerLiteral?_endsIf n).ends short
      cases (done.symm.trans integer.symm).trans literal
  unfold defaultLiteral? at failed
  split at failed
  case h_4 n | h_5 n => exact long failed rfl
  case h_9 => exact .keys (jsonLiteral?_error_iff.mp failed).2
  all_goals cases failed

/-- A value that does not fit its type strays only if it cannot be shown. -/
theorem strays_iff_of_unfit (unfit : defaultLiteral? kind v = .ok none) :
    Strays kind v ↔ ¬ v.IsShort := by
  have other : ¬ Takes kind v := by
    intro takes
    obtain ⟨_, done⟩ := exists_literal_iff.mpr takes
    cases done.symm.trans unfit
  constructor
  · intro strays short
    cases strays with
    | special special => cases special <;> cases unfit
    | keys unordered =>
      have failed := jsonLiteral?_error_iff.mpr ⟨rfl, unordered⟩
      cases failed.symm.trans unfit
    | long _ within overlong => exact short _ within overlong
  · intro long
    obtain ⟨n, within, overlong⟩ := Value.not_isShort_iff.mp long
    exact .long other within overlong

/-! ## The literal of a default -/

/-- The default of a field with a type is refused or formatted as a literal of the type exactly if
it does not stray. It is formatted exactly if it is of a kind that the type takes, and a refusal is
about the field and shows the default and the type. -/
theorem formatDefault_literal_iff (model : String) (typed : f.type = some (.known kind)) :
    (((∃ r, formatDefault f model = .error (.refused r)) ∨
      ∃ text, formatDefault f model = .ok text ∧ IsLiteralOf kind text) ↔
        ¬ Strays kind f.default) ∧
    ((∃ text, formatDefault f model = .ok text) ↔ Takes kind f.default) ∧
    ∀ r, formatDefault f model = .error (.refused r) →
      r = ⟨model, some f.name, .invalidDefault f.default.literal kind.name f.name⟩ := by
  have spelled := spelledKind?_of_known typed
  have takes : (∃ text, defaultLiteral? kind f.default = .ok (some text)) ↔
      Takes kind f.default := exists_literal_iff
  have broken {b : Breakdown} (failed : formatDefault f model = .error (.broken b))
      (strays : Strays kind f.default) :
      ((∃ r, formatDefault f model = .error (.refused r)) ∨
        ∃ text, formatDefault f model = .ok text ∧ IsLiteralOf kind text) ↔
          ¬ Strays kind f.default := by
    rw [failed]
    refine iff_of_false ?_ (not_not_intro strays)
    rintro (⟨r, refused⟩ | ⟨text, done, _⟩)
    · cases refused
    · cases done
  rw [← takes]
  cases outcome : defaultLiteral? kind f.default with
  | error b =>
    have failed := formatDefault_of_broken model spelled outcome
    refine ⟨broken failed (strays_of_broken outcome), ?_⟩
    rw [failed]
    exact ⟨iff_of_false nofun nofun, nofun⟩
  | ok literal =>
    cases literal with
    | none =>
      have unfit := formatDefault_of_unfit model spelled outcome
      -- a refusal shows the value, which takes that its integers can be written
      by_cases short : f.default.IsShort
      · rw [unfit, misfit_of_isShort model typed short]
        refine ⟨iff_of_true (.inl ⟨_, rfl⟩) ?_, iff_of_false nofun nofun, ?_⟩
        · exact fun strays => (strays_iff_of_unfit outcome).mp strays short
        · rintro r ⟨⟩
          rfl
      · rw [misfit_of_not_isShort model short] at unfit
        refine ⟨broken unfit ((strays_iff_of_unfit outcome).mpr short), ?_⟩
        rw [unfit]
        exact ⟨iff_of_false nofun nofun, nofun⟩
    | some text =>
      rw [formatDefault_of_literal model spelled outcome,
        strays_iff_of_takes (takes.mp ⟨text, outcome⟩), ← isLiteralOf_iff outcome]
      refine ⟨⟨?_, fun literal => .inr ⟨text, rfl, literal⟩⟩,
        iff_of_true ⟨text, rfl⟩ ⟨text, rfl⟩, nofun⟩
      rintro (⟨r, refused⟩ | ⟨text', done, literal⟩)
      · cases refused
      · cases done
        exact literal

/-- A rate of type decimal. -/
def rate (v : Value) : Field :=
  { Field.plain "rate" (some (.known .decimal)) with default := v }

/-- A decimal in scientific notation is a literal of its type; a text, be it a numeral, is
refused. -/
theorem formatDefault_literal_iff_rate :
    (rate (.decimal (.finite true 15 3))).type = some (.known .decimal) ∧
    formatDefault (rate (.decimal (.finite true 15 3))) "Club" = .ok "-1.5E+4" ∧
    IsLiteralOf .decimal "-1.5E+4" ∧
    ∃ r, formatDefault (rate (.str "1.5")) "Club" = .error (.refused r) ∧
      r.diagnostic.text = "[Club.rate] default '1.5' is not valid for decimal field 'rate'" := by
  have typed : (rate (.decimal (.finite true 15 3))).type = some (.known .decimal) := rfl
  have formatted : formatDefault (rate (.decimal (.finite true 15 3))) "Club" = .ok "-1.5E+4" :=
    formatDefault_of_literal "Club" rfl (by rfl)
  refine ⟨typed, formatted, ?_, ?_⟩
  · have regular : ¬ Strays .decimal (.decimal (.finite true 15 3)) := by
      rw [strays_iff_of_takes (.decimal _)]
      exact nofun
    rcases (formatDefault_literal_iff "Club" typed).1.mpr regular with
      ⟨r, refused⟩ | ⟨_, done, literal⟩
    · cases formatted.symm.trans refused
    · cases formatted.symm.trans done
      exact literal
  · refine ⟨_, formatDefault_of_unfit "Club" rfl rfl, ?_⟩
    decide +kernel

/-- A rate that is not a number is neither refused nor formatted as a numeral. -/
theorem nan_not_literal :
    (rate (.float .nan)).type = some (.known .decimal) ∧
    formatDefault (rate (.float .nan)) "Club" = .ok "nan" ∧
    (∀ r, formatDefault (rate (.float .nan)) "Club" ≠ .error (.refused r)) ∧
    ¬ IsLiteralOf .decimal "nan" := by
  have formatted : formatDefault (rate (.float .nan)) "Club" = .ok "nan" :=
    formatDefault_of_literal "Club" rfl (by rfl)
  refine ⟨rfl, formatted, fun r refused => ?_, ?_⟩
  · cases formatted.symm.trans refused
  · exact Notation.not_isNumeral_of_letter (c := 'n') .none (by decide) nofun

end SchemaCompiler.Column
