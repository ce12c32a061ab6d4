import Mathlib.Data.List.Nodup
import SchemaCompiler.Proofs.Validation.Report

/-!
# Fields that pass their checks

The check of a model's fields is clean exactly if each of them can be taken on its own, their names
differ and the constraints pass (`checkFields_clean_iff`). A field can be taken if it has a name and
a type and its length limit can be read; a limit so large that it is shown has to be written, too.
-/

set_option autoImplicit false

namespace SchemaCompiler.Validation

open Report

variable {m : Model} {f : Field} {position : Nat} {seen : List String}

/-- A length limit that is too large can be shown in the advice. -/
def Showable (limit : Option Int) : Prop :=
  ∀ n, limit = some n → largeLimit < n → ∃ text, integerText n = .ok text

theorem checkLimit_clean_iff {limit : Option Int} :
    Clean (checkLimit m f limit) ↔ Showable limit := by
  unfold checkLimit
  cases limit with
  | none => exact iff_of_true (clean_ok_iff.mpr isValid_empty) fun _ => nofun
  | some n =>
    simp only
    split
    · next large =>
      cases written : integerText n with
      | ok text =>
        refine iff_of_true (clean_ok_iff.mpr (isValid_advise _)) fun n' same _ => ?_
        cases same
        exact ⟨text, written⟩
      | error failure =>
        refine iff_of_false (not_clean_error _) fun showable => ?_
        obtain ⟨text, other⟩ := showable n rfl large
        cases written.symm.trans other
    · next small =>
      refine iff_of_true (clean_ok_iff.mpr isValid_empty) fun n' same large => ?_
      cases same
      exact absurd large small

/-- A field has a name and a type, and its length limit can be read and shown. -/
structure Takeable (f : Field) : Prop where
  named : f.name ≠ ""
  typed : f.type.isSome = true
  limited : ∃ limit, f.maxLength = .ok limit ∧ Showable limit

/-- The check of one field is clean exactly if the field can be taken and its name is new. -/
theorem checkField_clean_iff :
    Clean (checkField m position seen f) ↔ Takeable f ∧ f.name ∉ seen := by
  unfold checkField
  simp only
  split
  · next unnamed =>
    exact iff_of_false (fun clean => nomatch clean_ok_iff.mp clean)
      fun ⟨takeable, _⟩ => takeable.named (beq_iff_eq.mp unnamed)
  · next named =>
    have named : f.name ≠ "" := fun empty => named (beq_iff_eq.mpr empty)
    split
    · next untyped =>
      refine iff_of_false (fun clean => nomatch clean_ok_iff.mp clean) fun ⟨takeable, _⟩ => ?_
      have typed := takeable.typed
      rw [Option.isNone_iff_eq_none.mp untyped] at typed
      cases typed
    · next typed =>
      have typed : f.type.isSome = true := by
        simpa only [Option.isNone_iff_eq_none, ← ne_eq, Option.isSome_iff_ne_none] using typed
      split
      · next failure unread =>
        refine iff_of_false (not_clean_error _) fun ⟨takeable, _⟩ => ?_
        obtain ⟨_, read, _⟩ := takeable.limited
        cases unread.symm.trans read
      · next limit read =>
        rw [clean_bind_iff]
        constructor
        · rintro ⟨large, checked, clean⟩
          have valid := clean_ok_iff.mp clean
          simp only [isValid_append, isValid_when, isValid_issue, Bool.or_false, Bool.and_eq_true,
            Bool.not_eq_true', List.contains_eq_mem, decide_eq_false_iff_not] at valid
          have showable := checkLimit_clean_iff.mp ⟨large, checked, valid.2⟩
          exact ⟨⟨named, typed, limit, read, showable⟩, valid.1.1⟩
        · rintro ⟨⟨_, _, limit', read', showable⟩, new⟩
          cases read.symm.trans read'
          obtain ⟨large, checked, valid⟩ := checkLimit_clean_iff.mpr showable
          refine ⟨large, checked, clean_ok_iff.mpr ?_⟩
          simp only [List.contains_eq_mem, new, decide_false, isValid_append, isValid_when,
            isValid_advise, valid, Bool.not_false, Bool.true_or, Bool.or_true, Bool.and_self]

/-- The check of fields is clean exactly if each of them can be taken and their names are new and
differ. -/
theorem checkFieldsFrom_clean_iff {fs : List Field} : Clean (checkFieldsFrom m position seen fs) ↔
    (fs.map (·.name)).Nodup ∧ ∀ f ∈ fs, Takeable f ∧ f.name ∉ seen := by
  induction fs generalizing position seen with
  | nil =>
    exact iff_of_true (clean_ok_iff.mpr isValid_empty) ⟨List.nodup_nil, List.forall_mem_nil _⟩
  | cons f rest ih =>
    unfold checkFieldsFrom
    rw [clean_append_iff, ih, checkField_clean_iff, List.map_cons, List.nodup_cons,
      List.forall_mem_cons]
    have complete (takeable : Takeable f) : isComplete f = true := by
      simp only [isComplete, takeable.typed, Bool.and_true, bne_iff_ne, ne_eq, takeable.named,
        not_false_eq_true]
    constructor
    · rintro ⟨⟨takeable, new⟩, distinct, later⟩
      rw [if_pos (complete takeable)] at later
      refine ⟨⟨fun again => ?_, distinct⟩, ⟨takeable, new⟩, fun f' mem => ?_⟩
      · obtain ⟨f', mem, same⟩ := List.mem_map.mp again
        exact (later f' mem).2 (same ▸ List.mem_cons_self)
      · exact ⟨(later f' mem).1, fun known => (later f' mem).2 (List.mem_cons_of_mem _ known)⟩
    · rintro ⟨⟨apart, distinct⟩, ⟨takeable, new⟩, later⟩
      rw [if_pos (complete takeable)]
      refine ⟨⟨takeable, new⟩, distinct, fun f' mem => ⟨(later f' mem).1, fun known => ?_⟩⟩
      rcases List.mem_cons.mp known with same | before
      · exact apart (List.mem_map.mpr ⟨f', mem, same⟩)
      · exact (later f' mem).2 before

/-- The check of a model's fields is clean exactly if each of them can be taken, their names differ
and the constraints pass. -/
theorem checkFields_clean_iff : Clean (checkFields m) ↔
    m.fieldNames.Nodup ∧ (∀ f ∈ m.fields, Takeable f) ∧ (checkConstraints m).isValid = true := by
  have fields : Clean (checkFieldsFrom m 1 [] m.fields) ↔
      m.fieldNames.Nodup ∧ ∀ f ∈ m.fields, Takeable f := by
    simp only [checkFieldsFrom_clean_iff, List.not_mem_nil, not_false_eq_true, and_true]
    exact Iff.rfl
  rw [← and_assoc, ← fields]
  unfold checkFields
  rw [clean_bind_iff]
  constructor
  · rintro ⟨report, checked, clean⟩
    have valid := clean_ok_iff.mp clean
    rw [isValid_append, Bool.and_eq_true] at valid
    exact ⟨⟨report, checked, valid.1⟩, valid.2⟩
  · rintro ⟨⟨report, checked, valid⟩, constraints⟩
    refine ⟨report, checked, clean_ok_iff.mpr ?_⟩
    rw [isValid_append, valid, constraints, Bool.and_self]

theorem checkFields_clean (h : Clean (checkFields m)) :
    (m.fields.map (·.name)).Nodup ∧ ∀ f ∈ m.fields, f.type.isSome = true := by
  obtain ⟨distinct, takeable, _⟩ := checkFields_clean_iff.mp h
  exact ⟨distinct, fun f mem => (takeable f mem).typed⟩

end SchemaCompiler.Validation
