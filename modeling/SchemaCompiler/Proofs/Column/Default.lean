import SchemaCompiler.Proofs.Column.Breakdown
import SchemaCompiler.Proofs.Value.JsonReader

/-!
# Defaults that decode

A default of type string or text is quoted once, and one of type JSON is written as JSON, with
sorted keys, and the text quoted (`formatDefault_decodes`). Either way the literal is one line of
printable ASCII, and what was put in is read back from it: the string at once, the value from the
string that the literal is read as. Values that differ in the order of entries alone have one
literal. A value of type JSON with an integer of too many digits has none, and cannot be refused
either (`formatDefault_endsIf`).
-/

set_option autoImplicit false

namespace SchemaCompiler.Column

open Json (IsLiteral parse?)
open Outcome (EndsIf)

variable {f g : Field} {kind : FieldKind} {text s : String}

/-- A value that can be written as JSON is formatted as its quoted text. -/
theorem formatDefault_of_json (model : String) (spelled : spelledKind? f = some .json)
    (written : f.default.toJson .compact = .ok text) :
    formatDefault f model = .ok (Json.quoted text) := by
  refine formatDefault_of_literal model spelled ?_
  unfold defaultLiteral? jsonLiteral?
  simp only [written]

/-- A value that JSON has is formatted as the default of a field of type JSON, unless an integer in
it has too many digits. Then it cannot be refused either. -/
theorem formatDefault_endsIf (model : String) (spelled : spelledKind? f = some .json)
    (json : f.default.IsJson) :
    EndsIf (formatDefault f model) (.broken (.limit .tooLong)) f.default.IsShort where
  ends short := by
    obtain ⟨text, written⟩ := Value.exists_toJson .compact json short
    exact ⟨_, formatDefault_of_json model spelled written⟩
  fails long := by
    have unfit : defaultLiteral? .json f.default = .ok none := by
      unfold defaultLiteral? jsonLiteral?
      simp only [(Value.toJson_endsIf .compact json).fails long]
    rw [formatDefault_of_unfit model spelled unfit, misfit_of_not_isShort model long]

/-- A text as the default of a field of type string or text is formatted as the quoted text. -/
theorem formatDefault_of_text (model : String)
    (spelled : spelledKind? f = some .string ∨ spelledKind? f = some .text)
    (given : f.default = .str s) : formatDefault f model = .ok (Json.quoted s) := by
  rcases spelled with spelled | spelled <;>
    exact formatDefault_of_literal model spelled (by rw [given]; rfl)

/-- The default of a field of type string or text is formatted as one line of printable ASCII that
reads as the default. That of a field of type JSON is formatted as such a line that reads as a text
that reads as the default, up to the order of entries, and that order makes no difference to the
line; there is no such line, and no other, exactly if an integer in the default has too many
digits. -/
theorem formatDefault_decodes (f : Field) (model : String) :
    (∀ s, spelledKind? f = some .string ∨ spelledKind? f = some .text → f.default = .str s →
      ∃ line, formatDefault f model = .ok line ∧ IsLiteral line ∧ parse? line = some (.str s)) ∧
    (spelledKind? f = some .json → f.default.IsJson →
      ((∃ line, formatDefault f model = .ok line) ↔ f.default.IsShort) ∧
      (∀ line, formatDefault f model = .ok line → IsLiteral line ∧ ∃ text v,
        parse? line = some (.str text) ∧ parse? text = some v ∧ f.default.Reordered v) ∧
      ∀ (g : Field) (other : String), spelledKind? g = some .json →
        f.default.Reordered g.default → formatDefault g other = formatDefault f model) := by
  refine ⟨fun s spelled given => ⟨_, formatDefault_of_text model spelled given,
    Json.isLiteral_quoted s, Json.parse?_quoted s⟩, fun spelled json => ?_⟩
  have ends := formatDefault_endsIf model spelled json
  refine ⟨ends.ok_iff, fun line done => ?_, fun g other spelledG reordered => ?_⟩
  · obtain ⟨text, v, written, read, reordered⟩ :=
      Json.parse?_toJson Json.readable_compact json (ends.ok_iff.mp ⟨line, done⟩)
    cases (formatDefault_of_json model spelled written).symm.trans done
    exact ⟨Json.isLiteral_quoted text, text, v, Json.parse?_quoted text, read, reordered⟩
  · by_cases short : f.default.IsShort
    · obtain ⟨text, written⟩ := Value.exists_toJson .compact json short
      have same : f.default.toJson .compact = g.default.toJson .compact :=
        reordered.toJson_eq rfl json
      rw [formatDefault_of_json model spelled written,
        formatDefault_of_json other spelledG (same.symm.trans written)]
    · have long : ¬ g.default.IsShort := fun short' => short (reordered.isShort_iff.mpr short')
      have endsG := formatDefault_endsIf other spelledG (reordered.isJson json)
      rw [ends.fails short, endsG.fails long]

/-- A motto with a quote, a line break, a character beyond ASCII and one beyond the basic plane. -/
def motto : Field :=
  { Field.plain "motto" (some (.known .text)) with default := .str "\"é\"\n\x7f😀" }

/-- Settings of type JSON. -/
def settings (v : Value) : Field :=
  { Field.plain "settings" (some (.known .json)) with default := v }

/-- A title, and a size that may be anything. -/
def titled : List (Value × Value) :=
  [(.str "title", .str "\\ö"), (.str "size", .list [.null, .bool true, .int (-12)])]

/-- The motto and the settings are read back from their literals, and settings in another order have
the same literal. -/
theorem formatDefault_decodes_settings :
    (∃ line, formatDefault motto "Club" = .ok line ∧ IsLiteral line ∧
      parse? line = some (.str "\"é\"\n\x7f😀")) ∧
    (.dict titled : Value).IsJson ∧ (.dict titled : Value).IsShort ∧
    (∃ line text v, formatDefault (settings (.dict titled)) "Club" = .ok line ∧ IsLiteral line ∧
      parse? line = some (.str text) ∧ parse? text = some v ∧ (.dict titled : Value).Reordered v) ∧
    (.dict titled : Value).Reordered (.dict titled.reverse) ∧
    formatDefault (settings (.dict titled.reverse)) "Club" =
      formatDefault (settings (.dict titled)) "Club" := by
  have json : (.dict titled : Value).IsJson := by
    refine .dict (by simp [titled]) (by simp [titled]) ?_
    refine List.forall_mem_cons.mpr ⟨.str _, List.forall_mem_singleton.mpr (.list ?_)⟩
    refine List.forall_mem_cons.mpr ⟨.null, List.forall_mem_cons.mpr ⟨.bool true, ?_⟩⟩
    exact List.forall_mem_singleton.mpr (.int (-12))
  have reordered : (.dict titled : Value).Reordered (.dict titled.reverse) :=
    .entries titled.reverse_perm.symm
  have decoded := (formatDefault_decodes motto "Club").1 _ (.inr rfl) rfl
  obtain ⟨ends, read, alike⟩ := (formatDefault_decodes (settings (.dict titled)) "Club").2 rfl json
  have short : (.dict titled : Value).IsShort := by
    have few : ¬ IsOverlong (-12) := not_isOverlong_of_lt (k := 2) (by decide) (by decide)
    simp [titled, few]
  obtain ⟨line, done⟩ := ends.mpr short
  obtain ⟨oneLine, text, v, first, second, same⟩ := read line done
  exact ⟨decoded, json, short, ⟨line, text, v, done, oneLine, first, second, same⟩, reordered,
    alike (settings (.dict titled.reverse)) "Club" rfl reordered⟩

/-- Settings that are an integer with too many digits have no literal, and a truth value and the
integer that it is the same key as have two. -/
theorem settings_without_one_literal :
    (∀ v ∈ [.int (Int.pow 10 digitLimit), .bool true, .int 1],
      (settings v).default.IsJson ∧ spelledKind? (settings v) = some .json) ∧
    (∀ line, formatDefault (settings (.int (Int.pow 10 digitLimit))) "Club" ≠ .ok line) ∧
    Value.sameKey (.bool true) (.int 1) = true ∧
    formatDefault (settings (.bool true)) "Club" = .ok "\"true\"" ∧
    formatDefault (settings (.int 1)) "Club" = .ok "\"1\"" := by
  have spelled (v : Value) : spelledKind? (settings v) = some .json := rfl
  have one : integerText 1 = .ok "1" :=
    integerText_of_not_overlong (not_isOverlong_of_lt (k := 1) (by decide) (by decide))
  have number : (Value.int 1).toJson .compact = .ok "1" := by
    rw [Value.toJson, Value.integerJson, one]
    rfl
  have truth : (Value.bool true).toJson .compact = .ok "true" := by
    rw [Value.toJson]
    rfl
  refine ⟨?_, fun line done => ?_, by decide, ?_, ?_⟩
  · simp only [List.forall_mem_cons, spelled, and_true]
    exact ⟨.int _, .bool _, .int _, List.forall_mem_nil _⟩
  · have short := (formatDefault_endsIf "Club" (spelled _) (.int _)).ok_iff.mp ⟨line, done⟩
    exact Value.isShort_int_iff.mp short isOverlong_pow
  · rw [formatDefault_of_json "Club" (spelled _) truth]
    exact congrArg Except.ok (by decide +kernel)
  · rw [formatDefault_of_json "Club" (spelled _) number]
    exact congrArg Except.ok (by decide +kernel)

end SchemaCompiler.Column
