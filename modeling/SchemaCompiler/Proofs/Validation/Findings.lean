import SchemaCompiler.Proofs.Model.Lookup
import SchemaCompiler.Proofs.Validation.Ending

/-!
# Findings of one model

Every finding of a validation is located at a model, and the check of a model locates its findings
at that model (`checkModel_located`). Problems of the plan and of its junctions are located at
models that declare an implicit many-to-many relation. So what a report says about a model that
declares none is what the check of that model finds (`about_validate`), and that check looks at no
other models than the relations name: however broken the others are, they neither hide a finding nor
add one (`about_agrees`).
-/

set_option autoImplicit false

namespace SchemaCompiler

/-- The relation is many-to-many and has no explicit junction. -/
def Relation.IsImplicit (r : Relation) : Prop := r.kind = some .manyToMany ∧ r.through = none

instance (r : Relation) : Decidable r.IsImplicit := inferInstanceAs (Decidable (_ ∧ _))

namespace Validation

open Junction (Plan)

/-- The model that a piece of advice is about. -/
def Advice.model : Advice → String
  | reservedModelName model => model
  | reservedFieldName model _ => model
  | largeLimit model _ _ => model
  | noInverse model _ => model
  | unknownInverse model _ _ _ => model

namespace Report

variable {p : String → Prop} {a b r : Report} {name : String}

/-- The findings about one model, in the order of the report. -/
def about (name : String) (r : Report) : Report :=
  ⟨r.errors.filter (·.location.model == name), r.warnings.filter (·.model == name)⟩

theorem about_append (name : String) (a b : Report) :
    (a ++ b).about name = a.about name ++ b.about name := by
  show Report.mk _ _ = Report.mk _ _
  rw [Report.mk.injEq]
  exact ⟨List.filter_append .., List.filter_append ..⟩

/-- Every finding of a report is about a model with a property. -/
def Located (p : String → Prop) (r : Report) : Prop :=
  (∀ i ∈ r.errors, p i.location.model) ∧ ∀ a ∈ r.warnings, p a.model

@[simp] theorem located_empty : empty.Located p := ⟨List.forall_mem_nil _, List.forall_mem_nil _⟩

@[simp] theorem located_issue {i : Issue} : (issue i).Located p ↔ p i.location.model := by
  simp [Located, issue]

@[simp] theorem located_advise {a : Advice} : (advise a).Located p ↔ p a.model := by
  simp [Located, advise]

@[simp] theorem located_append : (a ++ b).Located p ↔ a.Located p ∧ b.Located p := by
  show (∀ i ∈ a.errors ++ b.errors, _) ∧ (∀ i ∈ a.warnings ++ b.warnings, _) ↔ _
  rw [List.forall_mem_append, List.forall_mem_append]
  exact and_and_and_comm

@[simp] theorem located_when {condition : Bool} :
    (when condition r).Located p ↔ (condition = true → r.Located p) := by
  cases condition <;> simp [when]

theorem located_concat {reports : List Report} :
    (concat reports).Located p ↔ ∀ r ∈ reports, r.Located p := by
  induction reports with
  | nil => simp [concat]
  | cons r reports ih =>
    have step : concat (r :: reports) = r ++ concat reports := rfl
    rw [step, located_append, ih, List.forall_mem_cons]

@[simp] theorem located_concat_map {α : Type} {as : List α} {found : α → Report} :
    (concat (as.map found)).Located p ↔ ∀ a ∈ as, (found a).Located p := by
  rw [located_concat, List.forall_mem_map]

/-- A report on one model is all about it. -/
theorem about_of_located (located : r.Located (· = name)) : r.about name = r := by
  unfold about
  rw [List.filter_eq_self.mpr fun i mem => beq_iff_eq.mpr (located.1 i mem),
    List.filter_eq_self.mpr fun a mem => beq_iff_eq.mpr (located.2 a mem)]

/-- A report on other models says nothing about one. -/
theorem about_of_located_ne (located : r.Located (· ≠ name)) : r.about name = empty := by
  have errors : r.errors.filter (·.location.model == name) = [] := by
    simpa [List.filter_eq_nil_iff] using located.1
  have warnings : r.warnings.filter (·.model == name) = [] := by
    simpa [List.filter_eq_nil_iff] using located.2
  unfold about
  rw [errors, warnings]
  rfl

@[simp] theorem empty_append (r : Report) : empty ++ r = r := rfl

@[simp] theorem append_empty (r : Report) : r ++ empty = r := by
  show Report.mk (r.errors ++ []) (r.warnings ++ []) = r
  rw [List.append_nil, List.append_nil]

end Report

open Report

variable {registered models others : List Model} {m x : Model} {report : Report}
  {p : String → Prop}

/-! ## The check of a model -/

theorem checkPrimaryKey_located (m : Model) : (checkPrimaryKey m).Located (· = m.name) := by
  unfold checkPrimaryKey
  simp only
  split <;> simp [Issue.ofModel]

theorem checkField_located {position : Nat} {seen : List String} {f : Field}
    (done : checkField m position seen f = .ok report) : report.Located (· = m.name) := by
  unfold checkField at done
  simp only at done
  split at done
  · cases done
    simp
  · split at done
    · cases done
      simp
    · split at done
      · cases done
      · obtain ⟨large, limit, same⟩ := Outcome.bind_ok_iff.mp done
        cases same
        have limited : large.Located (· = m.name) := by
          unfold checkLimit at limit
          split at limit
          · cases limit
            exact located_empty
          · split at limit
            · split at limit <;> cases limit
              simp [Advice.model]
            · cases limit
              exact located_empty
        simp [limited, Advice.model]

theorem checkFieldsFrom_located {position : Nat} {seen : List String} {fs : List Field}
    (done : checkFieldsFrom m position seen fs = .ok report) : report.Located (· = m.name) := by
  induction fs generalizing position seen report with
  | nil =>
    cases done
    exact located_empty
  | cons f rest ih =>
    obtain ⟨here, later, first, second, rfl⟩ := append_ok_iff.mp done
    exact located_append.mpr ⟨checkField_located first, ih second⟩

theorem checkFields_located (done : checkFields m = .ok report) : report.Located (· = m.name) := by
  obtain ⟨fields, first, same⟩ := Outcome.bind_ok_iff.mp done
  cases same
  have constraints : (checkConstraints m).Located (· = m.name) := by
    refine located_concat.mpr fun r mem => ?_
    obtain ⟨c, _, among⟩ := List.mem_flatMap.mp mem
    obtain ⟨name, _, rfl⟩ := List.mem_map.mp among
    simp [Issue.ofModel]
  exact located_append.mpr ⟨checkFieldsFrom_located first, constraints⟩

theorem checkThrough_located (registered : List Model) (m : Model) (r : Relation) (t : Through) :
    (checkThrough registered m r t).Located (· = m.name) := by
  unfold checkThrough
  simp only
  split <;> simp [Issue.ofRelation]

theorem checkForeignKey_located {r : Relation} {target : Model} {before after : Synthesized}
    (done : checkForeignKey m r target before = .ok (report, after)) :
    report.Located (· = m.name) := by
  unfold checkForeignKey at done
  simp only at done
  split at done
  · cases done
    simp [Issue.ofRelation]
  · split at done
    · obtain ⟨found, declared, same⟩ := Outcome.bind_ok_iff.mp done
      cases same
      unfold checkDeclaredKey at declared
      split at declared
      · split at declared
        · cases declared
          exact located_empty
        · obtain ⟨_, _, rest⟩ := Outcome.bind_ok_iff.mp declared
          obtain ⟨_, _, same⟩ := Outcome.bind_ok_iff.mp rest
          cases same
          simp [Issue.ofField]
      · cases declared
        exact located_empty
    · split at done <;> cases done <;> simp [Issue.ofRelation]

theorem checkRelation_located {seen after : Seen} {r : Relation}
    (done : checkRelation registered m seen r = .ok (report, after)) :
    report.Located (· = m.name) := by
  unfold checkRelation at done
  simp only at done
  split at done
  · cases done
    simp
  · split at done
    · cases done
      simp [Issue.ofRelation]
    · next target found =>
      have through := checkThrough_located registered m r
      split at done
      · obtain ⟨⟨key, synthesized⟩, checked, same⟩ := Outcome.bind_ok_iff.mp done
        cases same
        have keyed := checkForeignKey_located checked
        cases r.through <;> simp [keyed, through, Issue.ofRelation, Advice.model]
      · cases done
        cases r.through <;> simp [through, Issue.ofRelation, Advice.model]

theorem checkRelationsFrom_located {seen : Seen} {rs : List Relation}
    (done : checkRelationsFrom registered m seen rs = .ok report) :
    report.Located (· = m.name) := by
  induction rs generalizing seen report with
  | nil =>
    cases done
    exact located_empty
  | cons r rest ih =>
    obtain ⟨⟨here, after⟩, first, continued⟩ := Outcome.bind_ok_iff.mp done
    obtain ⟨later, second, same⟩ := Outcome.bind_ok_iff.mp continued
    cases same
    exact located_append.mpr ⟨checkRelation_located first, ih second⟩

/-- The check of a model finds nothing but what is located at the model. -/
theorem checkModel_located {position : Nat}
    (done : checkModel registered position m = .ok report) : report.Located (· = m.name) := by
  unfold checkModel at done
  split at done
  · next unnamed =>
    cases done
    simp [Issue.ofModel, eq_of_beq unnamed]
  · split at done
    · cases done
      simp [Issue.ofModel]
    · obtain ⟨fields, first, continued⟩ := Outcome.bind_ok_iff.mp done
      obtain ⟨relations, second, same⟩ := Outcome.bind_ok_iff.mp continued
      cases same
      simp [checkPrimaryKey_located, checkFields_located first, checkRelationsFrom_located second,
        Advice.model]

/-! ## The checks of all models -/

theorem checkModelsFrom_located {position : Nat} (each : ∀ m ∈ models, p m.name)
    (done : checkModelsFrom registered position models = .ok report) : report.Located p := by
  induction models generalizing position report with
  | nil =>
    cases done
    exact located_empty
  | cons m rest ih =>
    obtain ⟨here, later, first, second, rfl⟩ := append_ok_iff.mp done
    obtain ⟨own, others⟩ := List.forall_mem_cons.mp each
    obtain ⟨errors, warnings⟩ := checkModel_located first
    refine located_append.mpr ⟨⟨?_, ?_⟩, ih others second⟩
    · intro i mem
      exact errors i mem ▸ own
    · intro a mem
      exact warnings a mem ▸ own

/-- What the checks of models of distinct names find about one of them is what its own check
finds. -/
theorem about_checkModelsFrom {position : Nat} (names : (models.map (·.name)).Nodup)
    (mem : x ∈ models) (done : checkModelsFrom registered position models = .ok report) :
    ∃ position', checkModel registered position' x = .ok (report.about x.name) := by
  induction models generalizing position report with
  | nil => cases mem
  | cons m rest ih =>
    obtain ⟨here, later, first, second, rfl⟩ := append_ok_iff.mp done
    obtain ⟨new, distinct⟩ := List.nodup_cons.mp names
    rw [about_append]
    rcases List.mem_cons.mp mem with rfl | within
    · have silent : later.Located (· ≠ x.name) := by
        refine checkModelsFrom_located (fun m there same => new ?_) second
        exact List.mem_map.mpr ⟨m, there, same⟩
      rw [about_of_located (checkModel_located first), about_of_located_ne silent, append_empty]
      exact ⟨position, first⟩
    · have other : here.Located (· ≠ x.name) := by
        have differ : m.name ≠ x.name := fun same => new (List.mem_map.mpr ⟨x, within, same.symm⟩)
        obtain ⟨errors, warnings⟩ := checkModel_located first
        exact ⟨fun i mem => errors i mem ▸ differ, fun a mem => warnings a mem ▸ differ⟩
      rw [about_of_located_ne other, empty_append]
      exact ih distinct within second

/-! ## The plan -/

/-- A problem of a plan is located at a model that declares an implicit many-to-many relation. -/
theorem exists_declaration_of_problem {problem : Junction.PlanProblem}
    (mem : problem ∈ (Plan.ofModels models).problems) :
    ∃ d, Junction.Eligible models d ∧ d.model = problem.model := by
  unfold Plan.ofModels at mem
  obtain ⟨group, among, within⟩ := List.mem_flatMap.mp mem
  obtain ⟨pair, _, rfl⟩ := List.mem_map.mp among
  have declared {d : Junction.Declaration} (there : d ∈ Junction.groupOf models pair) :
      Junction.Eligible models d := (Junction.mem_groupOf.mp there).1
  have perm := Junction.pairUp_perm (Junction.groupOf models pair)
  rcases List.mem_append.mp within with alone | extra
  · obtain ⟨d, there, rfl⟩ := List.mem_map.mp alone
    exact ⟨d, declared (perm.mem_iff.mpr (List.mem_append_right _ there)), rfl⟩
  · obtain ⟨⟨d, partner⟩, there, rfl⟩ := List.mem_map.mp extra
    refine ⟨d, declared (perm.mem_iff.mpr (List.mem_append_left _ ?_)), rfl⟩
    exact List.mem_flatMap.mpr ⟨_, List.mem_of_mem_tail there, List.mem_cons_self⟩

/-- What is wrong with a plan is located at models that declare an implicit relation. -/
theorem planReport_located (each : ∀ d, Junction.Eligible models d → p d.model) :
    (planReport (Plan.ofModels models)).Located p := by
  unfold planReport
  simp only [located_concat_map, located_issue]
  intro problem mem
  obtain ⟨d, eligible, same⟩ := exists_declaration_of_problem mem
  exact same ▸ each d eligible

theorem checkJunction_located {earlier : List (String × (String × String))}
    {j : Junction.Implicit} (first : p j.pair.1) (sides : ∀ s ∈ j.sides, p s.model)
    (done : checkJunction registered earlier j = .ok report) : report.Located p := by
  obtain ⟨reports, participants, same⟩ := Outcome.bind_ok_iff.mp done
  cases same
  have each : ∀ r ∈ reports, r.Located p := by
    intro r mem
    obtain ⟨s, side, checked⟩ := Outcome.exists_of_mem_right participants mem
    split at checked <;> cases checked
    simp [Issue.ofRelation, sides s side]
  refine located_append.mpr ⟨located_append.mpr ⟨?_, ?_⟩, located_concat.mpr each⟩
  · split <;> simp [Issue.ofModel, first]
  · simp [Issue.ofModel, first]

theorem checkJunctionsFrom_located {earlier : List (String × (String × String))}
    {js : List Junction.Implicit} (each : ∀ j ∈ js, p j.pair.1 ∧ ∀ s ∈ j.sides, p s.model)
    (done : checkJunctionsFrom registered earlier js = .ok report) : report.Located p := by
  induction js generalizing earlier report with
  | nil =>
    cases done
    exact located_empty
  | cons j rest ih =>
    obtain ⟨here, later, first, second, rfl⟩ := append_ok_iff.mp done
    obtain ⟨⟨pair, sides⟩, others⟩ := List.forall_mem_cons.mp each
    exact located_append.mpr ⟨checkJunction_located pair sides first, ih others second⟩

/-- The junctions of a plan are reported at models that declare an implicit relation. -/
theorem checkPlanned_located (each : ∀ d, Junction.Eligible models d → p d.model)
    (done : checkJunctionsFrom registered [] (Plan.ofModels models).junctions = .ok report) :
    report.Located p := by
  refine checkJunctionsFrom_located (fun j planned => ?_) done
  obtain ⟨a, b, declaredA, declaredB, _, _, _, first, second, made⟩ :=
    Plan.eq_between_of_mem planned
  have left : p j.pair.1 := first ▸ each a declaredA
  have right : p j.pair.2 := second ▸ each b declaredB
  refine ⟨left, fun s side => ?_⟩
  rw [made] at side
  rcases List.mem_pair.mp side with rfl | rfl
  · exact left
  · exact right

/-! ## Validation -/

/-- A model without an implicit many-to-many relation declares none under its name. -/
theorem model_ne_of_eligible (names : (models.map (·.name)).Nodup) (mem : x ∈ models)
    (explicit : ∀ r ∈ x.relations, ¬ r.IsImplicit) {d : Junction.Declaration}
    (eligible : Junction.Eligible (plannable models) d) : d.model ≠ x.name := by
  intro same
  obtain ⟨m, there, name, within⟩ := eligible.declared
  obtain rfl : m = x :=
    List.inj_on_of_nodup_map names (List.mem_of_mem_filter there) mem (name.trans same)
  exact explicit d.relation within ⟨eligible.manyToMany, eligible.implicit⟩

/-- What a validation finds about a model without an implicit many-to-many relation is what the
check of the model finds. -/
theorem about_validate (names : (models.map (·.name)).Nodup) (mem : x ∈ models)
    (named : x.name ≠ "") (explicit : ∀ r ∈ x.relations, ¬ r.IsImplicit)
    (done : validate models = .ok report) :
    checkModel (models.filter (·.name != "")) 1 x = .ok (report.about x.name) := by
  obtain ⟨each, collected, rest⟩ := Outcome.bind_ok_iff.mp done
  obtain ⟨junctions, checked, same⟩ := Outcome.bind_ok_iff.mp rest
  cases same
  have apart : ∀ d, Junction.Eligible (plannable models) d → d.model ≠ x.name :=
    fun d => model_ne_of_eligible names mem explicit
  rw [about_append, about_append, about_of_located_ne (planReport_located apart),
    about_of_located_ne (checkPlanned_located apart checked), append_empty, append_empty]
  obtain ⟨position, own⟩ := about_checkModelsFrom names mem collected
  rw [checkModel_position _ named 1 position, own]

/-- Two validations that come to an end find the same about a model without an implicit
many-to-many relation if the names in its relations stand for the same models: what the check of the
model finds, in the same order. -/
theorem about_agrees {report' : Report} (mem : x ∈ models) (mem' : x ∈ others)
    (names : (models.map (·.name)).Nodup) (names' : (others.map (·.name)).Nodup)
    (named : ∀ m ∈ models, m.name ≠ "") (named' : ∀ m ∈ others, m.name ≠ "")
    (explicit : ∀ r ∈ x.relations, ¬ r.IsImplicit)
    (same : ∀ r ∈ x.relations, ∀ name ∈ r.mentioned, SameUnder models others name)
    (done : validate models = .ok report) (done' : validate others = .ok report') :
    report.about x.name = report'.about x.name ∧
      checkModel models 1 x = .ok (report.about x.name) := by
  have own := about_validate names mem (named x mem) explicit done
  have own' := about_validate names' mem' (named x mem) explicit done'
  rw [filter_named named] at own
  rw [filter_named named', ← checkModel_congr same 1] at own'
  exact ⟨Except.ok.inj (own.symm.trans own'), own⟩

/-- A loan of a copy that belongs to no registered model, to a reader, with unnamed reminders. -/
def loan : Model :=
  .entity "Loan" [.plain "copy" .belongsTo "Copy", .plain "reader" .belongsTo "Reader",
    .plain "reminders" .hasMany "Reminder"]

/-- A reader without a key, who follows topics. -/
def reader : Model :=
  { Model.entity "Reader" [.plain "topics" .manyToMany "Topic"] with
    fields := [.plain "card" (some (.known .string))] }

/-- Reminders that name no target. -/
def reminder : Model := .entity "Reminder" [.plain "loan" .belongsTo ""]

/-- A lending library, where nobody follows topics back. -/
def lending : List Model := [reminder, reader, .entity "Topic" [], loan]

/-- A reading room of the same readers, with a repeated field, and topics that follow back. -/
def readingRoom : List Model := [
  { Model.entity "Group" [] with fields := [.identifier, .identifier] }, loan, reader, reminder,
  .entity "Topic" [.plain "readers" .manyToMany "Reader"]]

/-- A loan is found to lack its copy and the key of its reader, and advised on its reminders,
wherever it stands and whatever is wrong with the readers, groups and topics around it. -/
theorem about_agrees_loan :
    (loan ∈ lending ∧ loan ∈ readingRoom) ∧
    ((lending.map (·.name)).Nodup ∧ (readingRoom.map (·.name)).Nodup) ∧
    ((∀ m ∈ lending, m.name ≠ "") ∧ ∀ m ∈ readingRoom, m.name ≠ "") ∧
    (∀ r ∈ loan.relations, ¬ r.IsImplicit) ∧
    (∀ r ∈ loan.relations, ∀ name ∈ r.mentioned, SameUnder lending readingRoom name) ∧
    ∃ report report', validate lending = .ok report ∧ validate readingRoom = .ok report' ∧
      report.about "Loan" = report'.about "Loan" ∧ report.about "Loan" =
        ⟨[.ofRelation "Loan" "copy" (.unknownTarget "Copy"),
          .ofRelation "Loan" "reader" (.targetWithoutKey "Reader")],
          [.noInverse "Loan" "reminders"]⟩ := by
  have lent : loan ∈ lending := by simp [lending]
  have read : loan ∈ readingRoom := by simp [readingRoom]
  have names : (lending.map (·.name)).Nodup := by decide
  have names' : (readingRoom.map (·.name)).Nodup := by decide
  have named : ∀ m ∈ lending, m.name ≠ "" := by decide
  have named' : ∀ m ∈ readingRoom, m.name ≠ "" := by decide
  have explicit : ∀ r ∈ loan.relations, ¬ r.IsImplicit := by decide
  have same : ∀ r ∈ loan.relations, ∀ name ∈ r.mentioned, SameUnder lending readingRoom name := by
    have each : ∀ name ∈ ["Copy", "Reader", "Reminder"], SameUnder lending readingRoom name := by
      simp only [List.forall_mem_cons]
      exact ⟨rfl, rfl, rfl, List.forall_mem_nil _⟩
    exact fun r mem name mentioned => each name (List.mem_flatMap.mpr ⟨r, mem, mentioned⟩)
  have checked : ∀ m ∈ lending, m.Checked := by decide
  have checked' : ∀ m ∈ readingRoom, m.Checked := by decide
  obtain ⟨report, done⟩ := (exists_validate_checked_iff checked).mpr (by decide +kernel)
  obtain ⟨report', done'⟩ := (exists_validate_checked_iff checked').mpr (by decide +kernel)
  obtain ⟨agree, own⟩ :=
    about_agrees lent read names names' named named' explicit same done done'
  exact ⟨⟨lent, read⟩, ⟨names, names'⟩, ⟨named, named'⟩, explicit, same, report, report', done,
    done', agree, Except.ok.inj (own.symm.trans rfl)⟩

end Validation

end SchemaCompiler
