import SchemaCompiler.Proofs.Outcome
import SchemaCompiler.Validation.Check

/-!
# Clean checks

A check is clean when it comes to an end and finds no fault. A sequence of checks is clean exactly
if each of them is (`clean_append_iff`, `isValid_concat`), so what a clean validation says about
its models can be read off check by check.
-/

set_option autoImplicit false

namespace SchemaCompiler.Validation

namespace Report

@[simp] theorem isValid_empty : empty.isValid = true := rfl

@[simp] theorem isValid_issue (i : Issue) : (issue i).isValid = false := rfl

@[simp] theorem isValid_advise (a : Advice) : (advise a).isValid = true := rfl

@[simp] theorem isValid_append (a b : Report) : (a ++ b).isValid = (a.isValid && b.isValid) := by
  obtain ⟨errors, _⟩ := a
  cases errors <;> rfl

@[simp] theorem isValid_when (condition : Bool) (report : Report) :
    (when condition report).isValid = (!condition || report.isValid) := by
  cases condition <;> rfl

@[simp] theorem isValid_concat (reports : List Report) :
    (concat reports).isValid = reports.all (·.isValid) := by
  induction reports with
  | nil => rfl
  | cons report reports ih =>
    have step : concat (report :: reports) = report ++ concat reports := rfl
    rw [step, isValid_append, ih, List.all_cons]

end Report

/-- A check that comes to an end and finds no fault. -/
def Clean (check : Except Breakdown Report) : Prop :=
  ∃ report, check = .ok report ∧ report.isValid = true

theorem clean_ok_iff {report : Report} : Clean (.ok report) ↔ report.isValid = true :=
  ⟨fun ⟨_, same, valid⟩ => Except.ok.inj same ▸ valid, fun valid => ⟨report, rfl, valid⟩⟩

theorem not_clean_error (b : Breakdown) : ¬ Clean (.error b) := fun h => nomatch h.choose_spec.1

/-- A check is clean if its result says so. -/
theorem clean_iff_toOption {check : Except Breakdown Report} :
    Clean check ↔ check.toOption.map (·.isValid) = some true := by
  cases check with
  | error b => exact ⟨fun h => absurd h (not_clean_error b), fun h => nomatch h⟩
  | ok report => exact clean_ok_iff.trans ⟨congrArg some, Option.some.inj⟩

instance (check : Except Breakdown Report) : Decidable (Clean check) :=
  decidable_of_iff _ clean_iff_toOption.symm

theorem clean_bind_iff {α : Type} {x : Except Breakdown α} {f : α → Except Breakdown Report} :
    Clean (x >>= f) ↔ ∃ a, x = .ok a ∧ Clean (f a) := by
  constructor
  · rintro ⟨report, done, valid⟩
    obtain ⟨a, came, rest⟩ := Outcome.bind_ok_iff.mp done
    exact ⟨a, came, report, rest, valid⟩
  · rintro ⟨a, came, report, rest, valid⟩
    exact ⟨report, Outcome.bind_ok_iff.mpr ⟨a, came, rest⟩, valid⟩

/-- Two checks one after the other come to an end if both do, and find what they find. -/
theorem append_ok_iff {x y : Except Breakdown Report} {report : Report} :
    (do return (← x) ++ (← y)) = .ok report ↔
      ∃ a b, x = .ok a ∧ y = .ok b ∧ report = a ++ b := by
  constructor
  · intro done
    obtain ⟨a, came, rest⟩ := Outcome.bind_ok_iff.mp done
    obtain ⟨b, next, same⟩ := Outcome.bind_ok_iff.mp rest
    exact ⟨a, b, came, next, (Except.ok.inj same).symm⟩
  · rintro ⟨a, b, came, next, rfl⟩
    exact Outcome.bind_ok_iff.mpr ⟨a, came, Outcome.bind_ok_iff.mpr ⟨b, next, rfl⟩⟩

/-- Two checks one after the other are clean if both are. -/
theorem clean_append_iff {x y : Except Breakdown Report} :
    Clean (do return (← x) ++ (← y)) ↔ Clean x ∧ Clean y := by
  constructor
  · rintro ⟨_, done, valid⟩
    obtain ⟨a, b, came, next, rfl⟩ := append_ok_iff.mp done
    rw [Report.isValid_append, Bool.and_eq_true] at valid
    exact ⟨⟨a, came, valid.1⟩, ⟨b, next, valid.2⟩⟩
  · rintro ⟨⟨a, came, validA⟩, ⟨b, next, validB⟩⟩
    refine ⟨a ++ b, append_ok_iff.mpr ⟨a, b, came, next, rfl⟩, ?_⟩
    rw [Report.isValid_append, validA, validB, Bool.and_self]

end SchemaCompiler.Validation
