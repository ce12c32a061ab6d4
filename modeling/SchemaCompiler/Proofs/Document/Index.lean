import Mathlib.Data.List.Induction
import SchemaCompiler.Document.Index
import SchemaCompiler.Proofs.Model.Lookup
import SchemaCompiler.Proofs.Validation.PrimaryKey

/-!
# Indexes that cover what is looked up

A request for an index is dropped only for an earlier one over the same columns, so the columns of
the directives are distinct (`distinct_nodup`) and those of the requests (`mem_columns_distinct`).
The requests of unique constraints come first, and no later request can take their directives away
(`distinct_extends`). What remains is which columns ask for an index of their own: the wanted ones
that neither the primary key nor a unique field or constraint leads with (`mem_leading_iff`).
-/

set_option autoImplicit false

namespace SchemaCompiler.Index

variable {m : Model} {keys : List String} {name : String} {fields : List String}
  {rs : List (ConstraintKind × List String)} {r : ConstraintKind × List String}

/-! ## Requests for the same columns -/

theorem any_columns_iff : rs.any (·.2 == r.2) = true ↔ r.2 ∈ rs.map (·.2) := by
  simp only [List.any_eq_true, beq_iff_eq, List.mem_map]

/-- One more request is kept unless an earlier one has its columns. -/
theorem distinct_concat : distinct (rs ++ [r]) =
    if r.2 ∈ (distinct rs).map (·.2) then distinct rs else distinct rs ++ [r] := by
  unfold distinct
  simp only [List.foldl_append, List.foldl_cons, List.foldl_nil, any_columns_iff]

/-- The first of several requests for the same columns is one of the requests. -/
theorem distinct_subset : distinct rs ⊆ rs := by
  induction rs using List.reverseRecOn with
  | nil => exact List.nil_subset []
  | append_singleton rs r ih =>
    rw [distinct_concat]
    split
    · exact List.subset_append_of_subset_left [r] ih
    · exact List.append_subset.mpr
        ⟨List.subset_append_of_subset_left [r] ih, List.subset_append_right rs [r]⟩

theorem distinct_nodup : ((distinct rs).map (·.2)).Nodup := by
  induction rs using List.reverseRecOn with
  | nil => exact List.nodup_nil
  | append_singleton rs r ih =>
    rw [distinct_concat]
    split
    · exact ih
    · next new =>
      rw [List.map_append, List.map_singleton, ← List.concat_eq_append]
      exact ih.concat new

/-- Every request has a directive with its columns. -/
theorem mem_columns_distinct : fields ∈ (distinct rs).map (·.2) ↔ fields ∈ rs.map (·.2) := by
  constructor
  · intro kept
    exact List.map_subset _ distinct_subset kept
  · induction rs using List.reverseRecOn with
    | nil => exact id
    | append_singleton rs r ih =>
      intro asked
      rw [List.map_append, List.mem_append, List.map_singleton, List.mem_singleton] at asked
      rw [distinct_concat]
      split
      · next old => exact asked.elim ih fun same => same ▸ old
      · rw [List.map_append, List.mem_append]
        exact asked.imp ih List.mem_singleton.mpr

/-- Later requests take nothing away from the directives of earlier ones. -/
theorem distinct_extends (later : List (ConstraintKind × List String)) :
    distinct rs <+: distinct (rs ++ later) := by
  induction later using List.reverseRecOn with
  | nil => exact (List.append_nil rs).symm ▸ List.prefix_rfl
  | append_singleton later r ih =>
    rw [← List.append_assoc, distinct_concat]
    split
    · exact ih
    · exact ih.trans (List.prefix_append _ [r])

/-! ## What leads with a column -/

/-- The primary key, a unique field or a unique constraint of a model leads with a column. -/
inductive Leads (m : Model) (name : String) : Prop where
  | key (first : m.primaryKeyFields.head?.map (·.name) = some name)
  | field (f : Field) (mem : f ∈ m.fields) (unique : f.unique = true) (named : f.name = name)
  | constraint (c : Constraint) (mem : c ∈ m.constraints) (kind : c.kind = .unique)
      (first : c.fields.head? = some name)

/-- A column that rows are looked up by: a foreign key, or a field flagged as indexed. -/
def Wanted (m : Model) (keys : List String) (name : String) : Prop :=
  name ∈ keys ∨ ∃ f ∈ m.fields, f.indexed = true ∧ f.name = name

theorem mem_constrained_iff {kind : ConstraintKind} :
    fields ∈ constrained m kind ↔ ∃ c ∈ m.constraints, c.kind = kind ∧ c.fields = fields := by
  simp only [constrained, List.mem_map, List.mem_filter, beq_iff_eq, and_assoc]

/-- The fields of a composite key that passes its check are those that it names. -/
theorem names_of_composite (keyed : (Validation.checkPrimaryKey m).isValid = true)
    {names : List String} (composite : m.compositeKey = some names) :
    m.primaryKeyFields.map (·.name) = names := by
  obtain ⟨_, declared, _⟩ := (Validation.checkPrimaryKey_composite_iff composite).mp keyed
  unfold Model.primaryKeyFields
  simp only [composite]
  clear * - declared
  induction names with
  | nil => rfl
  | cons name names ih =>
    obtain ⟨f, found⟩ := Option.isSome_iff_exists.mp (declared name List.mem_cons_self)
    rw [List.filterMap_cons_some found, List.map_cons, ih fun n mem =>
      declared n (List.mem_cons_of_mem name mem)]
    rw [eq_of_beq (List.find?_some found :)]

/-- A primary key that passes its check leads with one column. -/
theorem mem_leadingKeys_iff (keyed : (Validation.checkPrimaryKey m).isValid = true) :
    name ∈ leadingKeys m ↔ m.primaryKeyFields.head?.map (·.name) = some name ∨
      ∃ f ∈ m.fields, f.unique = true ∧ f.name = name := by
  unfold leadingKeys
  rw [List.mem_append]
  apply or_congr
  · rw [← List.head?_map]
    cases composite : m.compositeKey with
    | some names =>
      rw [names_of_composite keyed composite]
      simp only [List.take_one, Option.mem_toList]
    | none =>
      obtain ⟨key, reference⟩ := Validation.exists_referenceKey keyed composite
      obtain ⟨_, only⟩ := Model.referenceKey_eq_some_iff.mp reference
      rw [only]
      simp only [List.map_cons, List.map_nil, List.mem_singleton, List.head?_cons,
        Option.some.injEq, eq_comm]
  · simp only [List.mem_map, List.mem_filter, and_assoc]

/-- The columns that get no index of their own are those that something leads with. -/
theorem mem_leading_iff (keyed : (Validation.checkPrimaryKey m).isValid = true) :
    name ∈ leadingKeys m ++ (constrained m .unique).filterMap (·.head?) ↔ Leads m name := by
  simp only [List.mem_append, mem_leadingKeys_iff keyed, List.mem_filterMap, mem_constrained_iff]
  constructor
  · rintro ((first | ⟨f, mem, unique, named⟩) | ⟨_, ⟨c, mem, kind, rfl⟩, first⟩)
    · exact .key first
    · exact .field f mem unique named
    · exact .constraint c mem kind first
  · rintro (first | ⟨f, mem, unique, named⟩ | ⟨c, mem, kind, first⟩)
    · exact .inl (.inl first)
    · exact .inl (.inr ⟨f, mem, unique, named⟩)
    · exact .inr ⟨c.fields, ⟨c, mem, kind, rfl⟩, first⟩

/-! ## Requests -/

/-- What asks for an index: every constraint, and every wanted column that nothing leads with. -/
theorem mem_requests_iff (keyed : (Validation.checkPrimaryKey m).isValid = true)
    {kind : ConstraintKind} : (kind, fields) ∈ requests m keys ↔
      fields ∈ constrained m kind ∨
        kind = .index ∧ ∃ name, Wanted m keys name ∧ ¬ Leads m name ∧ fields = [name] := by
  unfold requests
  simp only [List.mem_append, List.mem_map, List.mem_filter, Bool.not_eq_true',
    List.contains_eq_mem, decide_eq_false_iff_not, ← mem_leading_iff keyed, Prod.mk.injEq]
  constructor
  · rintro (((⟨_, mem, rfl, rfl⟩ | ⟨name, ⟨key, free⟩, rfl, rfl⟩) |
      ⟨name, ⟨⟨f, ⟨mem, indexed⟩, named⟩, free⟩, rfl, rfl⟩) | ⟨_, mem, rfl, rfl⟩)
    · exact .inl mem
    · exact .inr ⟨rfl, name, .inl key, free, rfl⟩
    · exact .inr ⟨rfl, name, .inr ⟨f, mem, indexed, named⟩, free, rfl⟩
    · exact .inl mem
  · rintro (mem | ⟨rfl, name, key | ⟨f, mem, indexed, named⟩, free, rfl⟩)
    · cases kind with
      | unique => exact .inl (.inl (.inl ⟨fields, mem, rfl, rfl⟩))
      | index => exact .inr ⟨fields, mem, rfl, rfl⟩
    · exact .inl (.inl (.inr ⟨name, ⟨key, free⟩, rfl, rfl⟩))
    · exact .inl (.inr ⟨name, ⟨⟨f, ⟨mem, indexed⟩, named⟩, free⟩, rfl, rfl⟩)

/-! ## Directives -/

/-- What the index directives of a model have to be. -/
structure Covering (m : Model) (keys : List String) (indexes : List Index) : Prop where
  /-- No two directives have the same columns. -/
  distinct : (indexes.map (·.fields)).Nodup
  /-- Every wanted column leads something. -/
  leading : ∀ name, Wanted m keys name →
    Leads m name ∨ ∃ i ∈ indexes, i.fields.head? = some name
  /-- The unique directives are the unique constraints. -/
  unique : ∀ columns, (∃ i ∈ indexes, i.kind = .unique ∧ i.fields = columns) ↔
    ∃ c ∈ m.constraints, c.kind = .unique ∧ c.fields = columns
  /-- Every index constraint has a directive of either kind. -/
  index : ∀ c ∈ m.constraints, c.kind = .index → ∃ i ∈ indexes, i.fields = c.fields
  /-- A plain directive is an index constraint, or a wanted column that nothing leads with. -/
  needed : ∀ i ∈ indexes, i.kind = .index →
    (∃ c ∈ m.constraints, c.kind = .index ∧ c.fields = i.fields) ∨
      ∃ name, Wanted m keys name ∧ ¬ Leads m name ∧ i.fields = [name]

variable {f : Formatter} {indexes : List Index}

/-- Unless a unique constraint is over no fields, the directives are made from the requests. -/
theorem ofModel_of_nonempty
    (nonempty : ∀ c ∈ m.constraints, c.kind = .unique → c.fields ≠ []) :
    ofModel f m keys = .ok ((distinct (requests m keys)).map fun (kind, fields) =>
      ofColumns (f.physicalTable m.table) kind fields) := by
  unfold ofModel
  refine if_neg fun empty => ?_
  obtain ⟨fields, mem, is⟩ := List.any_eq_true.mp empty
  obtain ⟨c, within, kind, rfl⟩ := mem_constrained_iff.mp mem
  exact nonempty c within kind (List.isEmpty_iff.mp is)

/-- The requests for unique directives are the unique constraints, and none of them comes after
another request for its columns. -/
theorem unique_mem_distinct_iff (keyed : (Validation.checkPrimaryKey m).isValid = true)
    (keys : List String) :
    (.unique, fields) ∈ distinct (requests m keys) ↔ fields ∈ constrained m .unique := by
  constructor
  · intro kept
    refine ((mem_requests_iff keyed).mp (distinct_subset kept)).resolve_right ?_
    rintro ⟨kind, _⟩
    cases kind
  · intro mem
    let first := (constrained m .unique).map fun fields => (ConstraintKind.unique, fields)
    have asked : fields ∈ (distinct first).map (·.2) :=
      mem_columns_distinct.mpr (List.mem_map.mpr ⟨_, List.mem_map_of_mem mem, rfl⟩)
    obtain ⟨r, kept, rfl⟩ := List.mem_map.mp asked
    obtain ⟨_, _, rfl⟩ := List.mem_map.mp (distinct_subset kept)
    unfold requests
    simp only [List.append_assoc]
    exact (distinct_extends _).subset kept

/-- The directives of a model with a primary key that passes its check cover all lookups: their
columns are distinct, every wanted column leads something, the unique directives are the unique
constraints, and every plain directive has a reason. -/
theorem exists_covering (keyed : (Validation.checkPrimaryKey m).isValid = true)
    (nonempty : ∀ c ∈ m.constraints, c.kind = .unique → c.fields ≠ []) (f : Formatter)
    (keys : List String) : ∃ indexes, ofModel f m keys = .ok indexes ∧ Covering m keys indexes := by
  refine ⟨_, ofModel_of_nonempty nonempty, ?_⟩
  have directive {columns : List String} (asked : columns ∈ (requests m keys).map (·.2)) :
      ∃ i ∈ (distinct (requests m keys)).map fun (kind, fields) =>
        ofColumns (f.physicalTable m.table) kind fields, i.fields = columns := by
    obtain ⟨r, kept, rfl⟩ := List.mem_map.mp (mem_columns_distinct.mpr asked)
    exact ⟨_, List.mem_map_of_mem kept, rfl⟩
  constructor
  case distinct =>
    rw [List.map_map]
    exact distinct_nodup
  case leading =>
    intro name wanted
    by_cases led : Leads m name
    · exact .inl led
    · have asked : (.index, [name]) ∈ requests m keys :=
        (mem_requests_iff keyed).mpr (.inr ⟨rfl, name, wanted, led, rfl⟩)
      obtain ⟨i, mem, columns⟩ := directive (List.mem_map_of_mem asked)
      exact .inr ⟨i, mem, columns ▸ rfl⟩
  case unique =>
    intro columns
    rw [← mem_constrained_iff, ← unique_mem_distinct_iff keyed keys]
    constructor
    · rintro ⟨i, mem, kind, rfl⟩
      obtain ⟨r, kept, rfl⟩ := List.mem_map.mp mem
      exact kind ▸ kept
    · intro kept
      exact ⟨_, List.mem_map_of_mem kept, rfl, rfl⟩
  case index =>
    intro c mem kind
    have asked : (.index, c.fields) ∈ requests m keys :=
      (mem_requests_iff keyed).mpr (.inl (mem_constrained_iff.mpr ⟨c, mem, kind, rfl⟩))
    exact directive (List.mem_map_of_mem asked)
  case needed =>
    intro i mem kind
    obtain ⟨⟨_, fields⟩, kept, rfl⟩ := List.mem_map.mp mem
    obtain rfl : _ = ConstraintKind.index := kind
    refine ((mem_requests_iff keyed).mp (distinct_subset kept)).imp mem_constrained_iff.mp ?_
    rintro ⟨_, name, wanted, free, columns⟩
    exact ⟨name, wanted, free, columns⟩

/-- A booking of a room: rooms are looked up by day, guests by their number or by their mail. -/
def booking : Model :=
  { Model.entity "Booking" [] with
    fields := [Field.identifier, Field.plain "roomId" (some (.known .integer)),
      { Field.plain "guestId" (some (.known .integer)) with indexed := true },
      { Field.plain "mail" (some (.known .string)) with unique := true, indexed := true }]
    constraints := [⟨.index, ["day"]⟩, ⟨.unique, ["roomId", "day"]⟩] }

/-- Rooms have the unique directive for them, and guests get one of their own. -/
theorem exists_covering_booking : (Validation.checkPrimaryKey booking).isValid = true ∧
    (∀ c ∈ booking.constraints, c.kind = .unique → c.fields ≠ []) ∧
    ∃ indexes, ofModel (.make .pretty .postgresql false) booking ["roomId", "guestId"] =
        .ok indexes ∧ Covering booking ["roomId", "guestId"] indexes ∧
      indexes.map (·.fields) = [["roomId", "day"], ["guestId"], ["day"]] := by
  have keyed : (Validation.checkPrimaryKey booking).isValid = true := by decide
  have nonempty : ∀ c ∈ booking.constraints, c.kind = .unique → c.fields ≠ [] := by decide
  obtain ⟨indexes, made, covering⟩ :=
    exists_covering keyed nonempty (.make .pretty .postgresql false) ["roomId", "guestId"]
  refine ⟨keyed, nonempty, indexes, made, covering, ?_⟩
  obtain rfl := Except.ok.inj ((ofModel_of_nonempty nonempty).symm.trans made)
  decide

end SchemaCompiler.Index
