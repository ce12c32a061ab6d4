import SchemaCompiler.Proofs.Model.Checked
import SchemaCompiler.Proofs.Model.Lookup
import SchemaCompiler.Proofs.Validation.Field
import SchemaCompiler.Proofs.Validation.Order

/-!
# Validations that come to an end

A validation is to collect what is wrong with every model. One thing in a checked descriptor keeps
it from coming to an end: the length limit of a complete field that stands for no integer, or for
one that is too large to be shown. Relations, constraints, keys, and names that are empty or come
twice do not (`validate_ends_iff`). A report that is returned has the findings of each model, as the
check of that model alone would return them (`checkModelsFrom_collects`).
-/

set_option autoImplicit false

namespace SchemaCompiler.Validation

open Report

variable {registered models : List Model} {m : Model} {f : Field}

/-- Two checks one after the other come to an end exactly if both do. -/
theorem exists_append_iff {x y : Except Breakdown Report} :
    (∃ report, (do return (← x) ++ (← y)) = Except.ok report) ↔
      (∃ a, x = .ok a) ∧ ∃ b, y = .ok b := by
  constructor
  · rintro ⟨report, done⟩
    obtain ⟨a, first, rest⟩ := Outcome.bind_ok_iff.mp done
    obtain ⟨b, second, _⟩ := Outcome.bind_ok_iff.mp rest
    exact ⟨⟨a, first⟩, b, second⟩
  · rintro ⟨⟨a, first⟩, b, second⟩
    exact ⟨a ++ b, Outcome.bind_ok_iff.mpr ⟨a, first, Outcome.bind_ok_iff.mpr ⟨b, second, rfl⟩⟩⟩

/-! ## Fields -/

/-- The length limit of a field can be read, and shown if it is too large. -/
def Measurable (f : Field) : Prop := ∃ limit, f.maxLength = .ok limit ∧ Showable limit

theorem showable_iff {limit : Option Int} :
    Showable limit ↔ ∀ n ∈ limit, largeLimit < n → n.natAbs < Nat.pow 10 digitLimit := by
  refine forall₃_congr fun n _ _ => ?_
  unfold integerText
  constructor
  · rintro ⟨text, written⟩
    by_contra long
    rw [if_neg long] at written
    cases written
  · exact fun short => ⟨_, if_pos short⟩

instance (limit : Option Int) : Decidable (Showable limit) :=
  decidable_of_iff _ showable_iff.symm

instance (f : Field) : Decidable (Measurable f) :=
  match read : f.maxLength with
  | .ok limit => decidable_of_iff (Showable limit)
      ⟨fun showable => ⟨limit, read, showable⟩,
        fun ⟨_, again, showable⟩ => Except.ok.inj (read.symm.trans again) ▸ showable⟩
  | .error _ => isFalse fun ⟨_, again, _⟩ => nomatch read.symm.trans again

/-- The check of a length limit finds no fault when it comes to an end. -/
theorem exists_checkLimit_iff {limit : Option Int} :
    (∃ report, checkLimit m f limit = .ok report) ↔ Showable limit := by
  rw [← checkLimit_clean_iff (m := m) (f := f)]
  refine ⟨fun ⟨report, done⟩ => ⟨report, done, ?_⟩, fun ⟨report, done, _⟩ => ⟨report, done⟩⟩
  unfold checkLimit at done
  split at done
  · cases done
    exact isValid_empty
  · split at done
    · split at done
      · cases done
        exact isValid_advise _
      · cases done
    · cases done
      exact isValid_empty

/-- The check of a field comes to an end exactly if the field lacks a name or a type, or its length
limit can be measured. -/
theorem exists_checkField_iff {position : Nat} {seen : List String} :
    (∃ report, checkField m position seen f = .ok report) ↔
      (isComplete f = true → Measurable f) := by
  unfold checkField
  simp only
  split
  · next unnamed =>
    have incomplete : isComplete f ≠ true := by simp [isComplete, eq_of_beq unnamed]
    exact iff_of_true ⟨_, rfl⟩ fun complete => absurd complete incomplete
  · next named =>
    split
    · next untyped =>
      have incomplete : isComplete f ≠ true := by
        simp [isComplete, Option.isNone_iff_eq_none.mp untyped]
      exact iff_of_true ⟨_, rfl⟩ fun complete => absurd complete incomplete
    · next typed =>
      have complete : isComplete f = true := by
        simpa [isComplete, Option.isSome_iff_ne_none] using And.intro named typed
      rw [forall_prop_of_true complete]
      split
      · next failure unread =>
        refine iff_of_false ?_ ?_
        · rintro ⟨_, done⟩
          cases done
        · rintro ⟨limit, read, _⟩
          cases unread.symm.trans read
      · next limit read =>
        constructor
        · rintro ⟨report, done⟩
          obtain ⟨large, checked, _⟩ := Outcome.bind_ok_iff.mp done
          exact ⟨limit, read, exists_checkLimit_iff.mp ⟨large, checked⟩⟩
        · rintro ⟨limit', read', showable⟩
          cases read.symm.trans read'
          obtain ⟨large, checked⟩ := exists_checkLimit_iff.mpr showable
          exact ⟨_, Outcome.bind_ok_iff.mpr ⟨large, checked, rfl⟩⟩

theorem exists_checkFieldsFrom_iff {position : Nat} {seen : List String} {fs : List Field} :
    (∃ report, checkFieldsFrom m position seen fs = .ok report) ↔
      ∀ f ∈ fs, isComplete f = true → Measurable f := by
  induction fs generalizing position seen with
  | nil => exact iff_of_true ⟨_, rfl⟩ (List.forall_mem_nil _)
  | cons f rest ih =>
    unfold checkFieldsFrom
    rw [exists_append_iff, exists_checkField_iff, ih, List.forall_mem_cons]

theorem exists_checkFields_iff : (∃ report, checkFields m = .ok report) ↔
    ∀ f ∈ m.fields, isComplete f = true → Measurable f := by
  rw [← exists_checkFieldsFrom_iff (m := m)]
  unfold checkFields
  constructor
  · rintro ⟨report, done⟩
    obtain ⟨fields, checked, _⟩ := Outcome.bind_ok_iff.mp done
    exact ⟨fields, checked⟩
  · rintro ⟨fields, checked⟩
    exact ⟨_, Outcome.bind_ok_iff.mpr ⟨fields, checked, rfl⟩⟩

/-! ## Relations -/

/-- The check of a declared foreign key comes to an end if the types that it would name are
checked. -/
theorem exists_checkDeclaredKey {r : Relation} {t : Model} {key declared : Field}
    (own : declared.Checked) (referenced : key.Checked) :
    ∃ report, checkDeclaredKey m r t key declared = .ok report := by
  have spelled {g : Field} {type : FieldType} (checked : g.Checked) (typed : g.type = some type) :
      ∃ spelling, checkedSpelling type = .ok spelling := by
    cases type with
    | known kind => exact ⟨_, rfl⟩
    | unchecked spelling => exact absurd typed (checked spelling)
  unfold checkDeclaredKey
  split
  · next a b typeA typeB =>
    split
    · exact ⟨_, rfl⟩
    · obtain ⟨found, first⟩ := spelled own typeA
      obtain ⟨expected, second⟩ := spelled referenced typeB
      rw [first, second]
      exact ⟨_, rfl⟩
  · exact ⟨_, rfl⟩

theorem exists_checkForeignKey (checked : m.Checked) {r : Relation} {target : Model}
    (known : target.Checked) (before : Synthesized) :
    ∃ found, checkForeignKey m r target before = .ok found := by
  unfold checkForeignKey
  simp only
  split
  · exact ⟨_, rfl⟩
  · next key keyed =>
    split
    · next declared own =>
      obtain ⟨report, done⟩ := exists_checkDeclaredKey (m := m) (r := r) (t := target)
        (checked declared (List.mem_of_find?_eq_some own))
        (known key (Model.mem_of_referenceKey keyed))
      rw [done]
      exact ⟨_, rfl⟩
    · split <;> exact ⟨_, rfl⟩

theorem exists_checkRelation (checked : m.Checked) (known : ∀ t ∈ registered, t.Checked)
    (seen : Seen) (r : Relation) : ∃ found, checkRelation registered m seen r = .ok found := by
  unfold checkRelation
  simp only
  split
  · exact ⟨_, rfl⟩
  · split
    · exact ⟨_, rfl⟩
    · next target found =>
      split
      · obtain ⟨key, done⟩ := exists_checkForeignKey (r := r) checked
          (known target (Model.mem_of_find? found)) seen.synthesized
        rw [done]
        exact ⟨_, rfl⟩
      · exact ⟨_, rfl⟩

theorem exists_checkRelationsFrom (checked : m.Checked) (known : ∀ t ∈ registered, t.Checked)
    (seen : Seen) (rs : List Relation) :
    ∃ report, checkRelationsFrom registered m seen rs = .ok report := by
  induction rs generalizing seen with
  | nil => exact ⟨_, rfl⟩
  | cons r rest ih =>
    obtain ⟨⟨here, after⟩, done⟩ := exists_checkRelation checked known seen r
    obtain ⟨later, continued⟩ := ih after
    exact ⟨_, Outcome.bind_ok_iff.mpr
      ⟨_, done, Outcome.bind_ok_iff.mpr ⟨later, continued, rfl⟩⟩⟩

/-! ## Models -/

/-- The check of a model among checked ones comes to an end exactly if the model has no name, or the
limits of its complete fields can be measured. -/
theorem exists_checkModel_iff (checked : m.Checked) (known : ∀ t ∈ registered, t.Checked)
    (position : Nat) : (∃ report, checkModel registered position m = .ok report) ↔
      (m.name ≠ "" → ∀ f ∈ m.fields, isComplete f = true → Measurable f) := by
  unfold checkModel
  split
  · next unnamed =>
    exact iff_of_true ⟨_, rfl⟩ fun named => absurd (eq_of_beq unnamed) named
  · next named =>
    rw [forall_prop_of_true fun empty => named (beq_iff_eq.mpr empty)]
    split
    · next empty =>
      rw [List.isEmpty_iff.mp empty]
      exact iff_of_true ⟨_, rfl⟩ (List.forall_mem_nil _)
    · rw [← exists_checkFields_iff]
      constructor
      · rintro ⟨report, done⟩
        obtain ⟨fields, first, _⟩ := Outcome.bind_ok_iff.mp done
        exact ⟨fields, first⟩
      · rintro ⟨fields, first⟩
        obtain ⟨relations, second⟩ :=
          exists_checkRelationsFrom checked known ⟨[], []⟩ m.relations
        exact ⟨_, Outcome.bind_ok_iff.mpr
          ⟨fields, first, Outcome.bind_ok_iff.mpr ⟨relations, second, rfl⟩⟩⟩

namespace Report

/-- The findings of one report are, in their order, among those of another. -/
def Within (a b : Report) : Prop := a.errors.Sublist b.errors ∧ a.warnings.Sublist b.warnings

theorem within_append_left (a b : Report) : Within a (a ++ b) :=
  ⟨List.sublist_append_left _ _, List.sublist_append_left _ _⟩

theorem within_append_right (a b : Report) : Within b (a ++ b) :=
  ⟨List.sublist_append_right _ _, List.sublist_append_right _ _⟩

theorem Within.trans {a b c : Report} (first : Within a b) (second : Within b c) : Within a c :=
  ⟨first.1.trans second.1, first.2.trans second.2⟩

end Report

/-- A check of models that comes to an end has the findings of each of them. -/
theorem checkModelsFrom_collects {position : Nat} {before after : List Model} {report : Report}
    (done : checkModelsFrom registered position (before ++ m :: after) = .ok report) :
    ∃ own, checkModel registered (position + before.length) m = .ok own ∧ own.Within report := by
  induction before generalizing position report with
  | nil =>
    obtain ⟨own, here, rest⟩ := Outcome.bind_ok_iff.mp done
    obtain ⟨later, _, all⟩ := Outcome.bind_ok_iff.mp rest
    cases all
    exact ⟨own, here, within_append_left own later⟩
  | cons x before ih =>
    obtain ⟨first, _, rest⟩ := Outcome.bind_ok_iff.mp done
    obtain ⟨later, continued, all⟩ := Outcome.bind_ok_iff.mp rest
    cases all
    obtain ⟨own, here, within⟩ := ih continued
    refine ⟨own, ?_, within.trans (within_append_right first later)⟩
    rwa [List.length_cons, Nat.add_comm before.length 1, ← Nat.add_assoc]

theorem exists_validate_checked_iff (checked : ∀ m ∈ models, m.Checked) :
    (∃ report, validate models = .ok report) ↔
      ∀ m ∈ models, m.name ≠ "" → ∀ f ∈ m.fields, isComplete f = true → Measurable f := by
  have known : ∀ t ∈ models.filter (·.name != ""), t.Checked :=
    fun t mem => checked t (List.mem_of_mem_filter mem)
  rw [exists_validate_iff]
  exact forall₂_congr fun m mem => exists_checkModel_iff (checked m mem) known 1

/-- A validation of checked models, whatever their names, relations, constraints and rules, comes to
an end exactly if the length limit of every complete field of a named model can be read, and shown
if it is too large. Its report then has the findings of every model. -/
theorem validate_ends_iff (checked : ∀ m ∈ models, m.Checked) :
    ((∃ report, validate models = .ok report) ↔
      ∀ m ∈ models, m.name ≠ "" → ∀ f ∈ m.fields, isComplete f = true → Measurable f) ∧
    ∀ report, validate models = .ok report →
      ∀ before m after, models = before ++ m :: after →
        ∃ own, checkModel (models.filter (·.name != "")) (before.length + 1) m = .ok own ∧
          own.Within report := by
  refine ⟨exists_validate_checked_iff checked, fun report done before m after split => ?_⟩
  obtain ⟨each, collected, rest⟩ := Outcome.bind_ok_iff.mp done
  obtain ⟨junctions, _, all⟩ := Outcome.bind_ok_iff.mp rest
  cases all
  obtain ⟨own, here, within⟩ := checkModelsFrom_collects (split ▸ collected)
  refine ⟨own, ?_, within.trans ?_⟩
  · rwa [Nat.add_comm before.length 1, split]
  · exact (within_append_left each _).trans (within_append_left _ junctions)

/-- A text field with a length limit as it was given. -/
def limited (name : String) (limit : Value) : Field :=
  { Field.plain name (some (.known .string)) with rules := [⟨.maxLength, limit, none⟩] }

/-- A model without a name, and two of one name: the first with a limit so large that it is shown
and a field that comes twice, the second without a key and with a relation to nothing. -/
def inventory : List Model := [
  Model.entity "" [],
  { Model.entity "Item" [] with
    fields := [Field.identifier, limited "label" (.int 20000), limited "label" .null] },
  { Model.entity "Item" [.plain "shelf" .belongsTo "Shelf"] with
    fields := [limited "code" (.str " 1_2 ")], constraints := [⟨.unique, ["shelf"]⟩] }]

/-- The report on an inventory is returned, and has what is wrong with each of its models. -/
theorem validate_ends_iff_inventory : (∀ m ∈ inventory, m.Checked) ∧
    ∃ report, validate inventory = .ok report ∧
      ∀ before m after, inventory = before ++ m :: after →
        ∃ own, checkModel (inventory.filter (·.name != "")) (before.length + 1) m = .ok own ∧
          own.Within report := by
  have checked : ∀ m ∈ inventory, m.Checked := by decide
  have measured : ∀ m ∈ inventory, m.name ≠ "" →
      ∀ f ∈ m.fields, isComplete f = true → Measurable f := by decide +kernel
  obtain ⟨ends, collects⟩ := validate_ends_iff checked
  obtain ⟨report, done⟩ := ends.mpr measured
  exact ⟨checked, report, done, collects report done⟩

/-- A parcel whose label is to be short, and a stamp without a key. -/
def parcels : List Model := [
  { Model.entity "Parcel" [] with
    fields := [Field.identifier, limited "label" (.str "short")] },
  { Model.entity "Stamp" [] with fields := [limited "motif" .null] }]

/-- The limit of the parcel's label breaks the validation off before the stamp is checked, whose
fault is not reported. -/
theorem parcels_unreported : (∀ m ∈ parcels, m.Checked) ∧
    validate parcels = .error (.limit (.invalidText "'short'")) ∧
    ∃ report, validate parcels.tail = .ok report ∧
      report.errors = [.ofModel "Stamp" .noPrimaryKey] := by
  have checked : ∀ m ∈ parcels, m.Checked := by decide
  exact ⟨checked, rfl, _, rfl, rfl⟩

end SchemaCompiler.Validation
