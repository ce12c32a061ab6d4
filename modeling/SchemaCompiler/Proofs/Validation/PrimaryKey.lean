import Mathlib.Data.List.Perm.Subperm
import SchemaCompiler.Proofs.Model.Lookup
import SchemaCompiler.Proofs.Text.Order
import SchemaCompiler.Proofs.Validation.Report

/-!
# Primary keys that pass their check

A model that passes the check of its primary key has a key of one of two forms: a composite key of
fields that it declares, each listed once, with no field flagged beside it
(`checkPrimaryKey_composite_iff`), or one field that other models can reference
(`exists_referenceKey`).
-/

set_option autoImplicit false

namespace SchemaCompiler.Validation

open Report

variable {m : Model} {names : List String}

/-- A check for unknown fields passes exactly if every name is that of a field. -/
theorem unknownNames_isValid_iff {found : String → Issue} :
    (concat ((names.filter fun name => (m.field? name).isNone).map fun name =>
        issue (found name))).isValid = true ↔ ∀ name ∈ names, (m.field? name).isSome = true := by
  rw [isValid_concat, List.all_map, List.all_filter, List.all_eq_true]
  refine forall₂_congr fun name _ => ?_
  cases m.field? name <;> simp

theorem length_eraseDups_iff : names.eraseDups.length = names.length ↔ names.Nodup := by
  constructor
  · intro same
    have sub : names.eraseDups ⊆ names := fun name mem => List.mem_eraseDups.mp mem
    have perm : names.eraseDups.Perm names :=
      (List.subperm_of_subset (Text.nodup_eraseDups names) sub).perm_of_length_le
        (Nat.le_of_eq same.symm)
    exact perm.nodup_iff.mp (Text.nodup_eraseDups names)
  · intro distinct
    refine List.Perm.length_eq ?_
    refine (List.perm_ext_iff_of_nodup (Text.nodup_eraseDups names) distinct).mpr fun name => ?_
    exact List.mem_eraseDups

/-- A model with a composite key passes the check exactly if it flags no field and lists declared
fields, each once. -/
theorem checkPrimaryKey_composite_iff (composite : m.compositeKey = some names) :
    (checkPrimaryKey m).isValid = true ↔ m.flaggedFields = [] ∧
      (∀ name ∈ names, (m.field? name).isSome = true) ∧ names.Nodup := by
  obtain ⟨listed, nonempty⟩ := Model.compositeKey_eq_some_iff.mp composite
  have some : names.isEmpty = false := List.isEmpty_eq_false_iff.mpr nonempty
  have full : (m.primaryKey == Option.some []) = false := by
    rw [listed]
    exact beq_eq_false_iff_ne.mpr fun empty => nonempty (Option.some.inj empty)
  unfold checkPrimaryKey
  simp only [composite, Option.getD_some, some, full, Bool.and_false, Bool.false_eq_true,
    ↓reduceIte, isValid_append, isValid_when, isValid_issue, Bool.or_false, Bool.not_false,
    Bool.true_and, Bool.and_eq_true, unknownNames_isValid_iff, Bool.not_eq_true',
    bne_eq_false_iff_eq, length_eraseDups_iff, List.isEmpty_map, Bool.not_eq_false',
    List.isEmpty_iff, List.length_map, and_assoc]
  refine and_congr_right fun unflagged => and_iff_right ?_
  rw [unflagged]
  rfl

/-- A model without a composite key that passes the check has a field for others to reference. -/
theorem exists_referenceKey (valid : (checkPrimaryKey m).isValid = true)
    (single : m.compositeKey = none) : ∃ key, m.referenceKey = some key := by
  suffices only : ∃ key, m.primaryKeyFields = [key] by
    obtain ⟨key, only⟩ := only
    exact ⟨key, Model.referenceKey_eq_some_iff.mpr ⟨single, only⟩⟩
  unfold checkPrimaryKey at valid
  simp only [single, Option.getD_none, List.isEmpty_nil, Bool.and_true, List.isEmpty_map] at valid
  unfold Model.primaryKeyFields
  rw [single]
  cases flagged : m.flaggedFields with
  | nil =>
    cases conventional : m.field? "id" with
    | none =>
      simp only [flagged, conventional, List.isEmpty_nil, Option.isNone_none, Bool.and_self,
        ↓reduceIte, isValid_append, isValid_issue, Bool.and_false, Bool.false_eq_true] at valid
    | some key => exact ⟨key, rfl⟩
  | cons key rest =>
    simp only [flagged, List.isEmpty_cons, Bool.false_and, Bool.false_eq_true, ↓reduceIte,
      isValid_append, isValid_when, isValid_issue, Bool.or_false, Bool.and_eq_true,
      Bool.not_eq_true', decide_eq_false_iff_not, List.length_map, List.length_cons,
      Nat.not_lt] at valid
    obtain ⟨⟨⟨_, few⟩, _⟩, _⟩ := valid
    obtain rfl : rest = [] := List.length_eq_zero_iff.mp (by omega)
    exact ⟨key, rfl⟩

end SchemaCompiler.Validation
