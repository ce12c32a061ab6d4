import SchemaCompiler.Proofs.Column.Breakdown
import SchemaCompiler.Proofs.Generation.Dialect

/-!
# Blocks that break down

Validation is to leave nothing to a block but refusals, which name their place. Two things get by
it: a unique constraint over no fields, when there are to be indexes, and a default of type JSON
with keys that have no order. The block of a checked model of valid ones breaks down over these and,
but for length limits with more digits than can be written, over nothing else
(`block_broken_iff`). The blocks of junctions do not break down (`not_breaks_of_junction`).
-/

set_option autoImplicit false

namespace SchemaCompiler.Generation

open FieldMapper (roleOf)
open Junction (Plan)
open Resolver (Asked foreignKeys referencedKey requiredJunctions)
open Validation (Clean validate)

variable {o : Options} {f : Formatter} {plan : Plan} {m : Model} {models junctions : List Model}
  {keys : List ForeignKey} {b : Breakdown}

/-- A declared field has a column. -/
def Mapped (o : Options) (m : Model) (keys : List ForeignKey) (d : Field) : Prop :=
  ∃ c, (mapperOf o).mapField d m.name (roleOf m (referencedKey keys) d) = .ok c

/-- How the block of a model breaks down: over the default of the first field without a column, or
over a constraint once there are all columns. -/
inductive Breaks (o : Options) (m : Model) (keys : List ForeignKey) : Breakdown → Prop
  | unordered {before after : List Field} {d : Field} (split : m.fields = before ++ d :: after)
      (mapped : ∀ e ∈ before, Mapped o m keys e) (unordered : d.Unordered) :
      Breaks o m keys .unorderedKeys
  | constraint {cs : List Column} (made : columns o m keys = .ok cs)
      (asked : o.includeIndexes = true) {c : Constraint} (mem : c ∈ m.constraints)
      (unique : c.kind = .unique) (empty : c.fields = []) : Breaks o m keys .emptyConstraint

/-! ## Columns -/

/-- A synthesized key has no default that could break down. -/
theorem not_unordered_of_synthesized (made : foreignKeys m models = .ok keys) {k : ForeignKey}
    (mem : k ∈ synthesizedKeys keys) : ¬ k.field.Unordered := by
  obtain ⟨within, synthesized⟩ := List.mem_filter.mp mem
  obtain ⟨_, _, _, _, _, _, here⟩ := (Resolver.foreignKeys_stem made).2.1 k within
  obtain ⟨_, ⟨_, other⟩ | ⟨_, _, copied⟩⟩ := Resolver.foreignKeyOf_cases here
  · cases synthesized.symm.trans other
  · obtain ⟨_, built⟩ := Resolver.exists_type_of_buildField copied
    intro unordered
    have written := unordered.unordered
    rw [built] at written
    cases written

/-- The columns of the audit do not break down, but for a limit. -/
theorem auditColumnsOf_broken (sized : b ≠ .limit .tooLong) :
    auditColumnsOf o m keys ≠ .error (.broken b) := by
  rw [auditColumnsOf_eq]
  intro failed
  obtain ⟨_, name, _, _, _, failed⟩ := Outcome.mapM_error_iff.mp failed
  have plain : ¬ (FieldMapper.auditField (mapperOf o) name).Unordered := by
    intro unordered
    obtain ⟨_, _, _, plain, field⟩ := FieldMapper.auditField_eq (mapperOf o) name
    have written := unordered.unordered
    rw [field] at written
    rcases plain with rfl | rfl <;> cases written
  rcases Outcome.bind_error_iff.mp failed with here | ⟨_, _, done⟩
  · have limited : (FieldMapper.auditField (mapperOf o) name).LimitedBy [] :=
      FieldMapper.limitedBy_of_auditField _ name
    have alone (key : Field) (is : none = some key) : key.LimitedBy [] :=
      absurd is (Option.some_ne_none key).symm
    exact plain ((FieldMapper.mapField_broken_iff limited alone sized).mp here).2
  · split at done <;> cases done

/-- The columns of a model break down, but for a limit, over the first field without a column if
its default has keys without an order. -/
theorem columns_broken_iff (limited : ∀ d ∈ m.fields, d.LimitedBy models)
    (keyed : ∀ k ∈ keys, k.field.LimitedBy models ∧ k.key.LimitedBy models)
    (plain : ∀ k ∈ synthesizedKeys keys, ¬ k.field.Unordered) (sized : b ≠ .limit .tooLong) :
    columns o m keys = .error (.broken b) ↔ b = .unorderedKeys ∧ ∃ before d after,
      m.fields = before ++ d :: after ∧ (∀ e ∈ before, Mapped o m keys e) ∧ d.Unordered := by
  have follows (d : Field) (key : Field)
      (is : (roleOf m (referencedKey keys) d).references = some key) : key.LimitedBy models := by
    obtain ⟨k, there, rfl⟩ := Resolver.exists_of_referencedKey is
    exact (keyed k there).2
  have declared : (mapperOf o).mapFields m (referencedKey keys) = .error (.broken b) ↔
      b = .unorderedKeys ∧ ∃ before d after,
        m.fields = before ++ d :: after ∧ (∀ e ∈ before, Mapped o m keys e) ∧ d.Unordered := by
    unfold FieldMapper.mapFields
    rw [Outcome.mapM_error_iff]
    constructor
    · rintro ⟨before, d, after, split, mapped, failed⟩
      have mem : d ∈ m.fields := split ▸ List.mem_append_right _ List.mem_cons_self
      obtain ⟨same, unordered⟩ :=
        (FieldMapper.mapField_broken_iff (limited d mem) (follows d) sized).mp failed
      exact ⟨same, before, d, after, split, mapped, unordered⟩
    · rintro ⟨same, before, d, after, split, mapped, unordered⟩
      have mem : d ∈ m.fields := split ▸ List.mem_append_right _ List.mem_cons_self
      exact ⟨before, d, after, split, mapped,
        (FieldMapper.mapField_broken_iff (limited d mem) (follows d) sized).mpr ⟨same, unordered⟩⟩
  rw [← declared]
  unfold columns
  rw [Outcome.bind_error_iff]
  refine or_iff_left ?_
  rintro ⟨_, _, rest⟩
  rcases Outcome.bind_error_iff.mp rest with failed | ⟨_, _, rest⟩
  · obtain ⟨_, k, _, split, _, failed⟩ := Outcome.mapM_error_iff.mp failed
    have mem : k ∈ synthesizedKeys keys := split ▸ List.mem_append_right _ List.mem_cons_self
    obtain ⟨own, other⟩ := keyed k (List.mem_of_mem_filter mem)
    have references (key : Field) (is : some k.key = some key) : key.LimitedBy models :=
      Option.some.inj is ▸ other
    exact plain k mem ((FieldMapper.mapField_broken_iff own references sized).mp failed).2
  · rcases Outcome.bind_error_iff.mp rest with failed | ⟨_, _, done⟩
    · exact auditColumnsOf_broken sized failed
    · cases done

/-! ## Indexes -/

/-- The indexes of a model fail exactly over a unique constraint over no fields. -/
theorem indexes_error_iff {e : BlockFailure} : indexes o f m keys = .error e ↔
    e = .broken .emptyConstraint ∧ o.includeIndexes = true ∧
      ∃ c ∈ m.constraints, c.kind = .unique ∧ c.fields = [] := by
  have empty : (Index.constrained m .unique).any (·.isEmpty) = true ↔
      ∃ c ∈ m.constraints, c.kind = .unique ∧ c.fields = [] := by
    simp [Index.constrained]
  unfold indexes
  split
  · next asked =>
    rw [← empty, and_iff_right asked]
    unfold Index.ofModel
    split
    · next found =>
      rw [and_iff_left found]
      exact ⟨fun h => (Except.error.inj h).symm, fun h => congrArg _ h.symm⟩
    · next free => exact iff_of_false (fun h => (nomatch h)) fun ⟨_, found⟩ => free found
  · next off => exact iff_of_false (fun h => (nomatch h)) fun ⟨_, asked, _⟩ => off asked

/-! ## Blocks -/

/-- A block with foreign keys and members fails as its columns do, or as its indexes do. -/
theorem blockUnder_error_iff (keyed : foreignKeys m models = .ok keys) {relations : List Column}
    (listed : Resolver.members plan m models = .ok relations) {e : BlockFailure} :
    blockUnder o f plan m models = .error e ↔ columns o m keys = .error e ∨
      ∃ cs, columns o m keys = .ok cs ∧ indexes o f m keys = .error e := by
  unfold blockUnder assembleBlock
  rw [keyed, Outcome.ok_bind, Outcome.bind_error_iff]
  refine or_congr_right (exists_congr fun cs => and_congr_right fun _ => ?_)
  rw [listed, Outcome.ok_bind, Outcome.bind_error_iff]
  exact or_iff_left fun ⟨_, _, done⟩ => (nomatch done)

section Accepted

variable (clean : Clean (validate models)) (made : requiredJunctions models = .ok junctions)

include clean made in
/-- With foreign keys and members, the block of a valid model breaks down, but for a limit, over an
unordered default or an empty constraint. -/
theorem blockUnder_broken_iff (mem : m ∈ models ++ junctions)
    (keyed : foreignKeys m (models ++ junctions) = .ok keys) {relations : List Column}
    (listed : Resolver.members plan m (models ++ junctions) = .ok relations)
    (sized : b ≠ .limit .tooLong) :
    blockUnder o f plan m (models ++ junctions) = .error (.broken b) ↔ Breaks o m keys b := by
  have limited := limitedBy_of_made clean made
  have columned := columns_broken_iff (o := o) (limited m mem)
    (fun k => Resolver.limitedBy_of_foreignKey limited mem keyed)
    (fun k => not_unordered_of_synthesized keyed) sized
  rw [blockUnder_error_iff keyed listed, columned, indexes_error_iff]
  constructor
  · rintro (⟨rfl, before, d, after, split, mapped, unordered⟩ |
      ⟨cs, made, same, asked, c, there, unique, empty⟩)
    · exact .unordered split mapped unordered
    · cases same
      exact .constraint made asked there unique empty
  · rintro (⟨split, mapped, unordered⟩ | ⟨made, asked, there, unique, empty⟩)
    · exact .inl ⟨rfl, _, _, _, split, mapped, unordered⟩
    · exact .inr ⟨_, made, rfl, asked, _, there, unique, empty⟩

include made in
/-- The block of a junction has no default and no constraint to break down over. -/
theorem not_breaks_of_junction (mem : m ∈ junctions) : ¬ Breaks o m keys b := by
  obtain ⟨j, _, own⟩ := Outcome.exists_of_mem_right made mem
  rintro (⟨split, _, unordered⟩ | ⟨_, _, there, _, _⟩)
  · obtain ⟨s, _, here⟩ := Outcome.exists_of_mem_right (Resolver.junctionModel_ok own).2.2
      (split ▸ List.mem_append_right _ List.mem_cons_self)
    obtain ⟨_, _, _, _, built⟩ := Resolver.sideField_ok here
    obtain ⟨_, rfl⟩ := Resolver.exists_type_of_buildField built
    have written := unordered.unordered
    cases written
  · rw [Resolver.constraints_of_junctionModel own] at there
    cases there

end Accepted

/-- For checked models of distinct names that validation accepts, the models of their junctions and
the foreign keys of every model are made. A block of a declared or synthesized model is rendered or
refused, or a length limit with too many digits is in its way, unless it breaks down over a default
with keys without an order or over a unique constraint over no fields. The blocks of junctions never
do. -/
theorem block_broken_iff (checked : ∀ m ∈ models, m.Checked) (names : (models.map (·.name)).Nodup)
    {report : Validation.Report} (passed : validate models = .ok report)
    (valid : report.isValid = true) :
    ∃ junctions, requiredJunctions models = .ok junctions ∧
      (∀ m ∈ models ++ junctions, ∃ keys, foreignKeys m (models ++ junctions) = .ok keys ∧
        ∀ o f r, Asked models junctions r → ∀ b, b ≠ .limit .tooLong →
          ((block o f r m (models ++ junctions)).1 = .error (.broken b) ↔ Breaks o m keys b)) ∧
      ∀ m ∈ junctions, ∀ o keys b, ¬ Breaks o m keys b := by
  have clean : Clean (validate models) := ⟨report, passed, valid⟩
  have accepted := Validation.accepted_of_clean clean
  obtain ⟨junctions, made⟩ := Resolver.exists_junctionModels accepted checked
  refine ⟨junctions, made, ?_, fun m mem o keys b => not_breaks_of_junction made mem⟩
  intro m mem
  obtain ⟨⟨keys, keyed⟩, relations, listed⟩ :=
    Resolver.exists_members_beside accepted checked names made mem
  refine ⟨keys, keyed, ?_⟩
  intro o f r asked b sized
  have beside := Resolver.ofModels_beside accepted made
  rw [block_fst, Resolver.plan_of_keptUnder (Resolver.keptUnder_of_asked beside asked) beside]
  exact blockUnder_broken_iff clean made mem keyed listed sized

/-- A survey counts answers under keys of which one is no number. -/
def survey : Model :=
  { Model.entity "Survey" [] with
    fields := [Field.identifier, { Field.plain "counts" (some (.known .json)) with
      default := .dict [(.decimal (.nan false false ""), .int 1),
        (.decimal (.finite false 1 0), .int 2)] }] }

/-- A ledger with a unique constraint over no fields. -/
def ledger : Model := { Model.entity "Ledger" [] with constraints := [⟨.unique, []⟩] }

/-- Surveys and ledgers. -/
def records : List Model := [survey, ledger]

theorem records_clean : Clean (validate records) := by decide +kernel

/-- The blocks of the records are rendered or refused unless they break down. -/
theorem block_broken_iff_records : (∀ m ∈ records, m.Checked) ∧ (records.map (·.name)).Nodup ∧
    Clean (validate records) ∧
    ∃ junctions, requiredJunctions records = .ok junctions ∧
      (∀ m ∈ records ++ junctions, ∃ keys, foreignKeys m (records ++ junctions) = .ok keys ∧
        ∀ o f r, Asked records junctions r → ∀ b, b ≠ .limit .tooLong →
          ((block o f r m (records ++ junctions)).1 = .error (.broken b) ↔ Breaks o m keys b)) ∧
      ∀ m ∈ junctions, ∀ o keys b, ¬ Breaks o m keys b := by
  have checked : ∀ m ∈ records, m.Checked := by decide
  have names : (records.map (·.name)).Nodup := by decide
  obtain ⟨report, passed, valid⟩ := records_clean
  exact ⟨checked, names, records_clean, block_broken_iff checked names passed valid⟩

/-- In the standard options both records break down, in any layout. -/
theorem records_break_down : (∀ m ∈ records, m.Checked) ∧ (records.map (·.name)).Nodup ∧
    Clean (validate records) ∧ requiredJunctions records = .ok [] ∧ ∀ f,
    (block .standard f .fresh survey (records ++ [])).1 = .error (.broken .unorderedKeys) ∧
    (block .standard f .fresh ledger (records ++ [])).1 = .error (.broken .emptyConstraint) :=
  ⟨by decide, by decide, records_clean, rfl, fun _ => ⟨rfl, rfl⟩⟩

end SchemaCompiler.Generation
