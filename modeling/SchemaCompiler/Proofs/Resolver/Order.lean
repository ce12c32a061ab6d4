import SchemaCompiler.Proofs.Resolver.Accepted
import SchemaCompiler.Proofs.Validation.Order

/-!
# Registration order

The same models in another order get the same verdict, and if they are valid the same junction
models, in another order at most (`verdict_and_junctions_perm`).
-/

set_option autoImplicit false

namespace SchemaCompiler.Resolver

open Junction (Plan Implicit)
open Validation (Clean validate)

variable {models others : List Model}

/-- The model of a junction is made from the participants that its names stand for. -/
theorem junctionModel_congr (same : Model.find? models = Model.find? others) :
    junctionModel models = junctionModel others := by
  have sides : sideField models = sideField others := by
    funext j s
    unfold sideField participant
    rw [same]
  funext j
  unfold junctionModel participant
  rw [same, sides]

/-- A plan without problems yields the same junction models in any order of the models. -/
theorem requiredJunctions_of_perm (names : (models.map (·.name)).Nodup) (perm : models.Perm others)
    (clear : (Plan.ofModels models).problems = []) {made : List Model}
    (done : requiredJunctions models = .ok made) :
    ∃ made', requiredJunctions others = .ok made' ∧ made.Perm made' := by
  have planned := Plan.junctions_perm names perm clear
  obtain ⟨made', done', same⟩ := Outcome.mapM_perm planned done
  rw [junctionModel_congr (Model.find?_perm names perm)] at done'
  exact ⟨made', done', same⟩

/-- Models with distinct names, in whatever order they are registered: the validation comes to no
end in either order, or it comes to an end in both with the same verdict. Valid models need the same
junction models in both orders, which are made unless a field was given a type that nobody has
checked. -/
theorem verdict_and_junctions_perm (names : (models.map (·.name)).Nodup)
    (named : ∀ m ∈ models, m.name ≠ "") (perm : models.Perm others) :
    ((∃ b, validate models = .error b) ∧ (∃ b, validate others = .error b) ∨
      ∃ report report', validate models = .ok report ∧ validate others = .ok report' ∧
        report.isValid = report'.isValid) ∧
    (Clean (validate models) →
      (∃ made made', requiredJunctions models = .ok made ∧ requiredJunctions others = .ok made' ∧
        made.Perm made') ∨
      (¬ ∀ m ∈ models, m.Checked) ∧ (∃ e, requiredJunctions models = .error e) ∧
        ∃ e, requiredJunctions others = .error e) := by
  have names' : (others.map (·.name)).Nodup := (perm.map _).nodup_iff.mp names
  have named' : ∀ m ∈ others, m.name ≠ "" := fun m mem => named m (perm.mem_iff.mpr mem)
  constructor
  · cases first : validate models with
    | error b =>
      left
      cases second : validate others with
      | error b' => exact ⟨⟨b, rfl⟩, b', rfl⟩
      | ok report =>
        have ends := Validation.exists_validate_of_perm names' named' perm.symm ⟨report, second⟩
        rw [first] at ends
        exact nomatch ends.choose_spec
    | ok report =>
      right
      obtain ⟨report', second⟩ :=
        Validation.exists_validate_of_perm names named perm ⟨report, first⟩
      have verdict := Validation.clean_validate_perm names perm
      rw [first, second, Validation.clean_ok_iff, Validation.clean_ok_iff] at verdict
      exact ⟨report, report', rfl, second, Bool.eq_iff_iff.mpr verdict⟩
  · intro clean
    have accepted := Validation.accepted_of_clean clean
    have accepted' :=
      Validation.accepted_of_clean ((Validation.clean_validate_perm names perm).mp clean)
    cases first : requiredJunctions models with
    | ok made =>
      obtain ⟨made', second, same⟩ :=
        requiredJunctions_of_perm names perm accepted.paired first
      exact .inl ⟨made, made', rfl, second, same⟩
    | error e =>
      have unmade : ∀ made, requiredJunctions models ≠ .ok made := by
        intro made done
        rw [first] at done
        cases done
      refine .inr ⟨?_, ⟨e, rfl⟩, ?_⟩
      · intro checked
        obtain ⟨made, done⟩ := exists_junctionModels accepted checked
        exact unmade made done
      · cases second : requiredJunctions others with
        | error e' => exact ⟨e', rfl⟩
        | ok made' =>
          obtain ⟨made, done, _⟩ :=
            requiredJunctions_of_perm names' perm.symm accepted'.paired second
          exact absurd done (unmade made)

/-- Readers who follow each other, and books with tags and readers. -/
def library : List Model := Model.entities [
  ("Tag", [.plain "books" .manyToMany "Book"]),
  ("Reader", [.plain "books" .manyToMany "Book",
    { Relation.plain "follows" .manyToMany "Reader" with inverse := some "followers" },
    .plain "followers" .manyToMany "Reader"]),
  ("Book", [.plain "tags" .manyToMany "Tag", .plain "readers" .manyToMany "Reader"])]

theorem verdict_and_junctions_perm_library : (library.map (·.name)).Nodup ∧
    (∀ m ∈ library, m.name ≠ "") ∧ library.Perm library.reverse ∧
    (∃ report report', validate library = .ok report ∧ validate library.reverse = .ok report' ∧
      report.isValid = report'.isValid) ∧
    Clean (validate library) ∧ ∃ made made', requiredJunctions library = .ok made ∧
      requiredJunctions library.reverse = .ok made' ∧ made.Perm made' := by
  have names : (library.map (·.name)).Nodup := by decide
  have named : ∀ m ∈ library, m.name ≠ "" := by decide
  have perm : library.Perm library.reverse := library.reverse_perm.symm
  have sound : ∀ m ∈ library, Validation.Sound library m := Validation.entities_sound (by decide)
  have clean : Clean (validate library) :=
    Validation.validate_clean_iff.mpr ⟨sound, by cbv, Validation.clean_iff_toOption.mpr (by cbv)⟩
  obtain ⟨verdict, junctions⟩ := verdict_and_junctions_perm names named perm
  refine ⟨names, named, perm, verdict.resolve_left ?_, clean, (junctions clean).resolve_right ?_⟩
  · rintro ⟨⟨b, broken⟩, _⟩
    exact Validation.not_clean_error b (broken ▸ clean)
  · rintro ⟨unchecked, _⟩
    exact unchecked (Model.entities_checked _)

end SchemaCompiler.Resolver
