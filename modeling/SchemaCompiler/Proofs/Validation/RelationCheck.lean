import SchemaCompiler.Proofs.Validation.Report

/-!
# The check of one relation

The check of a relation reports what is wrong with it, and leaves behind what the relations after it
must not repeat: its name, and that of the key that is synthesized for it. All that a check without
findings says is in `checkRelation_clean_iff`, and about the key alone in
`checkForeignKey_clean_iff`. Advice is no finding, so nothing is said about inverses.
-/

set_option autoImplicit false

namespace SchemaCompiler.Validation

open Report

/-- A check comes to an end, finds no fault and leaves something behind for those after it. -/
def CleanLeaving {α : Type} (check : Except Breakdown (Report × α)) (after : α) : Prop :=
  ∃ report, check = .ok (report, after) ∧ report.isValid = true

theorem cleanLeaving_ok_iff {α : Type} {report : Report} {left after : α} :
    CleanLeaving (.ok (report, left)) after ↔ report.isValid = true ∧ left = after := by
  constructor
  · rintro ⟨_, same, valid⟩
    cases same
    exact ⟨valid, rfl⟩
  · rintro ⟨valid, rfl⟩
    exact ⟨report, rfl, valid⟩

/-- Two fields whose types are both known have the same type. -/
def SameType (a b : Field) : Prop :=
  ∀ s t, a.type = some s → b.type = some t → s.same t = true

/-- The key of a relation is declared with the type of the key that it references, or it is
synthesized under a name that is new and no relation's. -/
inductive KeyPasses (m : Model) (r : Relation) (key : Field) (before : Synthesized) :
    Synthesized → Prop
  | declared {field : Field} (own : m.field? r.expectedForeignKey = some field)
      (same : SameType field key) : KeyPasses m r key before before
  | synthesized (undeclared : m.field? r.expectedForeignKey = none)
      (new : r.expectedForeignKey ∉ before.map (·.1))
      (free : m.relation? r.expectedForeignKey = none) :
      KeyPasses m r key before (before ++ [(r.expectedForeignKey, r.name)])

/-- A relation to a registered model passes its check after some others: it is complete, its name is
new and no field's, its explicit junction is as it should be, and so is the key that a `belongsTo`
relation needs. -/
structure RelationPasses (registered : List Model) (m : Model) (r : Relation) (target : Model)
    (seen after : Seen) : Prop where
  complete : missingParts r = []
  new : r.name ∉ seen.names
  free : m.field? r.name = none
  found : Model.find? registered r.target = some target
  through : ∀ t, r.through = some t → (checkThrough registered m r t).isValid = true
  names : after.names = r.name :: seen.names
  keyed : r.isBelongsTo = true → ∃ key, target.referenceKey = some key ∧
    KeyPasses m r key seen.synthesized after.synthesized
  unkeyed : r.isBelongsTo = false → after.synthesized = seen.synthesized

variable {registered : List Model} {m target : Model} {r : Relation}

theorem sameType_iff {a b : Field} {s t : FieldType} (typeA : a.type = some s)
    (typeB : b.type = some t) : SameType a b ↔ s.same t = true := by
  refine ⟨fun same => same s t typeA typeB, fun same s' t' typeA' typeB' => ?_⟩
  cases typeA.symm.trans typeA'
  cases typeB.symm.trans typeB'
  exact same

/-- The check of a declared key is clean exactly if it has the type of the key that it
references. -/
theorem checkDeclaredKey_clean_iff {key declared : Field} :
    Clean (checkDeclaredKey m r target key declared) ↔ SameType declared key := by
  unfold checkDeclaredKey
  split
  · next a b own referenced =>
    rw [sameType_iff own referenced]
    by_cases same : a.same b = true
    · rw [if_pos same]
      exact iff_of_true (clean_ok_iff.mpr isValid_empty) same
    · rw [if_neg same]
      refine iff_of_false (fun clean => ?_) same
      obtain ⟨_, _, rest⟩ := clean_bind_iff.mp clean
      obtain ⟨_, _, mismatch⟩ := clean_bind_iff.mp rest
      exact Bool.noConfusion (clean_ok_iff.mp mismatch)
  · next unknown =>
    exact iff_of_true (clean_ok_iff.mpr isValid_empty)
      fun a b own referenced => absurd referenced (unknown a b own)

theorem find?_eq_none_iff {synthesized : Synthesized} {name : String} :
    synthesized.find? (·.1 == name) = none ↔ name ∉ synthesized.map (·.1) := by
  simp only [List.find?_eq_none, beq_iff_eq, List.mem_map, not_exists, not_and]

/-- The check of a key is clean exactly if the target has a key to reference and the key passes. -/
theorem checkForeignKey_clean_iff {before after : Synthesized} :
    CleanLeaving (checkForeignKey m r target before) after ↔
      ∃ key, target.referenceKey = some key ∧ KeyPasses m r key before after := by
  unfold checkForeignKey
  cases referenced : target.referenceKey with
  | none =>
    refine iff_of_false (fun clean => ?_) fun ⟨_, none_is, _⟩ => nomatch none_is
    exact Bool.noConfusion (cleanLeaving_ok_iff.mp clean).1
  | some key =>
    simp only [Option.some.injEq, exists_eq_left']
    cases own : m.field? r.expectedForeignKey with
    | some declared =>
      constructor
      · rintro ⟨report, checked, valid⟩
        obtain ⟨_, done, same⟩ := Outcome.bind_ok_iff.mp checked
        cases same
        exact .declared own (checkDeclaredKey_clean_iff.mp ⟨report, done, valid⟩)
      · rintro (⟨found, same⟩ | ⟨undeclared, _, _⟩)
        · cases own.symm.trans found
          obtain ⟨report, done, valid⟩ := checkDeclaredKey_clean_iff.mpr same
          exact ⟨report, Outcome.bind_ok_iff.mpr ⟨report, done, rfl⟩, valid⟩
        · cases own.symm.trans undeclared
    | none =>
      cases first : before.find? (·.1 == r.expectedForeignKey) with
      | some earlier =>
        refine iff_of_false (fun clean => ?_) ?_
        · exact Bool.noConfusion (cleanLeaving_ok_iff.mp clean).1
        · rintro (⟨found, _⟩ | ⟨_, new, _⟩)
          · cases own.symm.trans found
          · cases first.symm.trans (find?_eq_none_iff.mpr new)
      | none =>
        simp only [cleanLeaving_ok_iff, isValid_when, isValid_issue, Bool.or_false,
          Bool.not_eq_true', Option.isSome_eq_false_iff, Option.isNone_iff_eq_none]
        constructor
        · rintro ⟨free, rfl⟩
          exact .synthesized own (find?_eq_none_iff.mp first) free
        · rintro (⟨found, _⟩ | ⟨_, _, free⟩)
          · cases own.symm.trans found
          · exact ⟨free, rfl⟩

/-- The check of the key of a relation, which only a `belongsTo` relation needs. -/
theorem keyCheck_clean_iff {before after : Synthesized} :
    CleanLeaving (if r.isBelongsTo then checkForeignKey m r target before
      else .ok (Report.empty, before)) after ↔
        (r.isBelongsTo = true → ∃ key, target.referenceKey = some key ∧
          KeyPasses m r key before after) ∧ (r.isBelongsTo = false → after = before) := by
  cases r.isBelongsTo with
  | true => simp only [↓reduceIte, checkForeignKey_clean_iff, forall_const, reduceCtorEq,
      IsEmpty.forall_iff, and_true]
  | false => simp only [Bool.false_eq_true, ↓reduceIte, cleanLeaving_ok_iff, isValid_empty, true_and,
      IsEmpty.forall_iff, forall_const, eq_comm]

/-- The report on a relation whose target is registered is clean if no relation and no field has its
name, and the reports on its junction and its key are. -/
theorem isValid_relation_iff {names : List String} {name : String} {field : Option Field}
    {i j : Issue} {through key advice : Report} (harmless : advice.isValid = true) :
    (when (names.contains name) (issue i) ++ when field.isSome (issue j) ++ through ++ key
      ++ advice).isValid = true ↔
        name ∉ names ∧ field = none ∧ through.isValid = true ∧ key.isValid = true := by
  simp only [isValid_append, isValid_when, isValid_issue, Bool.or_false, Bool.and_eq_true,
    Bool.not_eq_true', List.contains_eq_mem, decide_eq_false_iff_not, Option.isSome_eq_false_iff,
    Option.isNone_iff_eq_none, harmless, and_true, and_assoc]

/-- The check of a relation after some others is clean exactly if its target is registered and the
relation passes. -/
theorem checkRelation_clean_iff {seen after : Seen} :
    CleanLeaving (checkRelation registered m seen r) after ↔
      ∃ target, RelationPasses registered m r target seen after := by
  unfold checkRelation
  simp only
  split
  · next incomplete =>
    refine iff_of_false (fun clean => ?_) fun ⟨_, passes⟩ => ?_
    · exact Bool.noConfusion (cleanLeaving_ok_iff.mp clean).1
    · rw [passes.complete] at incomplete
      cases incomplete
  · next complete =>
    have whole : missingParts r = [] := by simpa using complete
    cases found : Model.find? registered r.target with
    | none =>
      refine iff_of_false (fun clean => ?_) fun ⟨_, passes⟩ => ?_
      · have valid := (cleanLeaving_ok_iff.mp clean).1
        rw [isValid_append, isValid_issue, Bool.and_false] at valid
        cases valid
      · cases found.symm.trans passes.found
    | some target =>
      have harmless {a b : Bool} {x y : Advice} :
          (when a (advise x) ++ when b (advise y)).isValid = true := by
        simp only [isValid_append, isValid_when, isValid_advise, Bool.or_true, Bool.and_self]
      -- what follows the check of the key stands behind both of its branches
      simp only [← Outcome.ite_bind]
      constructor
      · rintro ⟨report, checked, valid⟩
        obtain ⟨⟨key, synthesized⟩, keyChecked, done⟩ := Outcome.bind_ok_iff.mp checked
        cases done
        obtain ⟨new, free, through, clean⟩ := (isValid_relation_iff harmless).mp valid
        obtain ⟨keyed, unkeyed⟩ := keyCheck_clean_iff.mp ⟨key, keyChecked, clean⟩
        refine ⟨target, whole, new, free, found, fun t declared => ?_, rfl, keyed, unkeyed⟩
        rwa [declared] at through
      · rintro ⟨target', passes⟩
        cases found.symm.trans passes.found
        obtain ⟨key, keyChecked, clean⟩ := keyCheck_clean_iff.mpr ⟨passes.keyed, passes.unkeyed⟩
        rw [keyChecked]
        refine cleanLeaving_ok_iff.mpr
          ⟨(isValid_relation_iff harmless).mpr ⟨passes.new, passes.free, ?_, clean⟩, ?_⟩
        · split
          · next t declared => exact passes.through t declared
          · exact isValid_empty
        · rw [← passes.names]

end SchemaCompiler.Validation
