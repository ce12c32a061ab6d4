import SchemaCompiler.Proofs.Generation.ForeignKey

/-!
# Relations that may be empty

The member of a relation and the column of its foreign key are made by two passes, and each decides
on its own whether there may be nothing. A synthesized key is required if its relation is, and the
keys and relations of a junction are all required, so there the two agree. A declared key is as it
was declared: the member may be empty exactly if neither the relation nor the key is required, so a
required relation has a member that is never empty, also where its key may be (`optional_iff`).
-/

set_option autoImplicit false

namespace SchemaCompiler.Generation

open Junction (Plan)
open Resolver (foreignKeys requiredJunctions)
open Validation (Clean validate)

variable {o : Options} {f : Formatter} {plan : Plan} {m : Model} {models junctions : List Model}
  {keys : List ForeignKey} {b : ModelBlock} {r : Relation} {d : Field} {k : Column}

/-! ## Columns that may be empty -/

/-- A declared field is mapped as a key exactly if it is one of the primary key. -/
theorem keyRole_iff (distinct : m.fieldNames.Nodup) (mem : d ∈ m.fields)
    (references : String → Option Field) :
    FieldMapper.mapsKey d (FieldMapper.roleOf m references d) = false ∧
      (FieldMapper.roleOf m references d).inCompositeKey = false ↔ d ∉ m.primaryKeyFields := by
  unfold FieldMapper.mapsKey FieldMapper.roleOf
  cases composite : m.compositeKey with
  | some names =>
    have nonempty : names.isEmpty = false :=
      List.isEmpty_eq_false_iff.mpr (Model.compositeKey_eq_some_iff.mp composite).2
    rw [Model.mem_primaryKeyFields_iff_of_composite distinct mem composite]
    simp only [Option.getD_some, nonempty, Bool.false_and, Bool.and_false, true_and,
      List.contains_eq_mem, decide_eq_false_iff_not]
  | none =>
    simp only [Option.getD_none, List.isEmpty_nil, List.contains_nil, Bool.true_and, Bool.not_false,
      Bool.and_true, and_true]
    rw [← Bool.not_eq_true, Bool.and_eq_true, List.contains_iff_mem]
    refine not_congr ⟨fun ⟨_, named⟩ => ?_, fun key => ?_⟩
    · obtain ⟨e, key, same⟩ := List.mem_map.mp named
      have there := Model.mem_fields_of_mem_primaryKeyFields key
      exact List.inj_on_of_nodup_map distinct there mem same ▸ key
    · exact ⟨Model.flagged_of_mem_primaryKeyFields composite key, List.mem_map_of_mem key⟩

/-- The column of a declared field may be empty unless the field is required or one of the primary
key. -/
theorem exists_declaredColumn (distinct : m.fieldNames.Nodup)
    (rendered : blockUnder o f plan m models = .ok b) (mem : d ∈ m.fields) :
    ∃ k, b.columns.filter (·.name == d.name) = [k] ∧
      (k.optional = true ↔ d.required = false ∧ d ∉ m.primaryKeyFields) := by
  obtain ⟨k, only, mapped⟩ := exists_fieldColumn distinct rendered mem
  refine ⟨k, only, ?_⟩
  rw [FieldMapper.optional_of_mapField mapped, keyRole_iff distinct mem]

/-- The column of a synthesized key may be empty unless the key is required. -/
theorem optional_of_keyColumn {mapper : FieldMapper} {fk : ForeignKey}
    (mapped : keyColumn mapper m fk = .ok k) : k.optional = true ↔ fk.field.required = false := by
  rw [FieldMapper.optional_of_mapField mapped, FieldMapper.mapsKey_of_not_inline _ rfl]
  exact ⟨And.left, fun free => ⟨free, rfl, rfl⟩⟩

/-! ## Required keys -/

/-- A synthesized key is required exactly if its relation is. -/
theorem required_of_synthesize {target : Model} {key field : Field}
    (h : Resolver.synthesize m r target key = .ok field) : field.required = r.required := by
  obtain ⟨_, rfl⟩ := Resolver.exists_type_of_buildField h
  rfl

section Accepted

variable (clean : Clean (validate models)) (made : requiredJunctions models = .ok junctions)

include clean made in
/-- The relations of a junction are required, and so are their foreign keys. -/
theorem required_of_junction (mem : m ∈ junctions) (declared : r ∈ m.relations) :
    r.required = true ∧ ∃ d, m.field? r.expectedForeignKey = some d ∧ d.required = true := by
  obtain ⟨j, s, d, _, rfl, field, copied⟩ := exists_side clean made mem declared
  obtain ⟨_, _, _, _, built⟩ := Resolver.sideField_ok copied
  obtain ⟨_, rfl⟩ := Resolver.exists_type_of_buildField built
  exact ⟨rfl, _, field, rfl⟩

include clean made in
/-- The member of a relation whose key is declared may be empty exactly if neither the relation nor
the key is required. -/
theorem optional_of_declared (mem : m ∈ models ++ junctions) (declared : r ∈ m.relations)
    (belongs : r.isBelongsTo = true) (field : m.field? r.expectedForeignKey = some d)
    (rendered : blockUnder o f plan m (models ++ junctions) = .ok b) :
    ∃ c k, b.relations.filter (·.name == r.name) = [c] ∧
      b.columns.filter (·.name == r.expectedForeignKey) = [k] ∧
      (c.optional = true ↔ r.required = false ∧ d.required = false) ∧
      (k.optional = true ↔ d.required = false ∧ d ∉ m.primaryKeyFields) := by
  obtain ⟨keys, fk, target, label, keyed, among, named, _, only⟩ :=
    Resolver.exists_referencingMember (Resolver.relationNames_nodup clean made mem)
      (blockUnder_ok rendered).2.2 declared belongs
  have own : fk.field = d := by
    rcases ((Resolver.foreignKeys_stem keyed).2.1 fk among).declared_or_synthesized with
      ⟨there, _⟩ | ⟨undeclared, _⟩
    · exact Option.some.inj (there.symm.trans (named ▸ field))
    · cases undeclared.symm.trans (named ▸ field)
  subst own
  obtain ⟨k, onlyK, free⟩ := exists_declaredColumn (fieldNames_nodup clean made mem) rendered
    (List.mem_of_find?_eq_some field)
  rw [named] at onlyK
  refine ⟨_, k, only, onlyK, ?_, free⟩
  simp only [Bool.not_eq_true', Bool.or_eq_false_iff]

include clean made in
/-- A key that a relation uses and its model does not declare is synthesized for the relation, and
has a column of its own. -/
theorem exists_undeclaredColumn (mem : m ∈ models) {target : Model}
    (owns : Resolver.Owns m target r) (undeclared : m.field? r.expectedForeignKey = none)
    (found : Model.find? (models ++ junctions) r.target = some target)
    (rendered : blockUnder o f plan m (models ++ junctions) = .ok b)
    (keyed : foreignKeys m (models ++ junctions) = .ok keys) {fk : ForeignKey} (among : fk ∈ keys)
    (named : fk.field.name = r.expectedForeignKey) :
    Resolver.synthesize m r target fk.key = .ok fk.field ∧
      ∃ k, b.columns.filter (·.name == r.expectedForeignKey) = [k] ∧
        keyColumn (mapperOf o) m fk = .ok k := by
  have sound := (Validation.validate_clean_iff.mp clean).1 m mem
  obtain ⟨_, copied⟩ := Resolver.synthesize_of_mem
    (Validation.checkRelations_keyed sound.relations).2 owns undeclared found keyed among named
  have synthesized : fk.synthesized = true := by
    rcases ((Resolver.foreignKeys_stem keyed).2.1 fk among).declared_or_synthesized with
      ⟨there, _⟩ | ⟨_, synthesized⟩
    · cases undeclared.symm.trans (named ▸ there)
    · exact synthesized
  obtain ⟨k, only, mapped⟩ := exists_synthesizedColumn
    (fieldNames_nodup clean made (List.mem_append_left junctions mem)) rendered keyed among
    synthesized
  exact ⟨copied, k, named ▸ only, mapped⟩

include clean made in
/-- The member of a relation whose key is synthesized and the column of the key may be empty exactly
if the relation is not required. -/
theorem optional_of_undeclared (mem : m ∈ models) (declared : r ∈ m.relations)
    (belongs : r.isBelongsTo = true) (undeclared : m.field? r.expectedForeignKey = none)
    (rendered : blockUnder o f plan m (models ++ junctions) = .ok b) :
    ∃ c k, b.relations.filter (·.name == r.name) = [c] ∧
      b.columns.filter (·.name == r.expectedForeignKey) = [k] ∧
      (c.optional = true ↔ r.required = false) ∧ (k.optional = true ↔ r.required = false) := by
  have within := List.mem_append_left junctions mem
  obtain ⟨keys, fk, target, label, keyed, among, named, found, only⟩ :=
    Resolver.exists_referencingMember (Resolver.relationNames_nodup clean made within)
      (blockUnder_ok rendered).2.2 declared belongs
  have owns : Resolver.Owns m target r := ⟨declared, belongs, (Model.name_of_find? found).symm⟩
  obtain ⟨copied, k, onlyK, mapped⟩ :=
    exists_undeclaredColumn clean made mem owns undeclared found rendered keyed among named
  have required := required_of_synthesize copied
  refine ⟨_, k, only, onlyK, ?_, ?_⟩
  · simp only [required, Bool.or_self, Bool.not_eq_true']
  · rw [optional_of_keyColumn mapped, required]

end Accepted

/-- In models that validation accepts, the member of a relation may be empty exactly if the relation
is not required and the column of its foreign key may be empty. It may be empty exactly if the
column may where the relation is not required, where its foreign key is synthesized, and in a
junction. Nothing is said of a declared foreign key that is one of its model's primary key where
neither the field nor the relation is required. -/
theorem optional_iff {report : Validation.Report} (passed : validate models = .ok report)
    (valid : report.isValid = true) (made : requiredJunctions models = .ok junctions)
    (mem : m ∈ models ++ junctions) (declared : r ∈ m.relations) (belongs : r.isBelongsTo = true)
    (required : m ∈ models → ∀ d, m.field? r.expectedForeignKey = some d →
      d ∈ m.primaryKeyFields → d.required = true ∨ r.required = true)
    {resolver : Resolver} (rendered : (block o f resolver m (models ++ junctions)).1 = .ok b) :
    ∃ c k, b.relations.filter (·.name == r.name) = [c] ∧
      b.columns.filter (·.name == r.expectedForeignKey) = [k] ∧
      (c.optional = true ↔ r.required = false ∧ k.optional = true) ∧
      (r.required = false ∨ m.field? r.expectedForeignKey = none ∨ m ∈ junctions →
        (c.optional = true ↔ k.optional = true)) := by
  have clean : Clean (validate models) := ⟨report, passed, valid⟩
  rw [block_fst] at rendered
  by_cases synthesized : m ∈ junctions
  · obtain ⟨mandatory, d, field, filled⟩ := required_of_junction clean made synthesized declared
    obtain ⟨c, k, onlyC, onlyK, freeC, freeK⟩ :=
      optional_of_declared clean made mem declared belongs field rendered
    refine ⟨c, k, onlyC, onlyK, ?_, fun _ => ?_⟩
    · rw [freeC, mandatory]
      exact iff_of_false (fun h => nomatch h.1) (fun h => nomatch h.1)
    · rw [freeC, freeK, mandatory, filled]
      exact iff_of_false (fun h => nomatch h.1) (fun h => nomatch h.1)
  · have registered := (List.mem_append.mp mem).resolve_right synthesized
    cases field : m.field? r.expectedForeignKey with
    | some d =>
      obtain ⟨c, k, onlyC, onlyK, freeC, freeK⟩ :=
        optional_of_declared clean made mem declared belongs field rendered
      have agree : c.optional = true ↔ r.required = false ∧ k.optional = true := by
        rw [freeC, freeK]
        refine ⟨fun ⟨free, may⟩ => ⟨free, may, fun key => ?_⟩, fun ⟨free, may, _⟩ => ⟨free, may⟩⟩
        rcases required registered d field key with filled | mandatory
        · cases may.symm.trans filled
        · cases free.symm.trans mandatory
      refine ⟨c, k, onlyC, onlyK, agree, fun which => ?_⟩
      have free : r.required = false :=
        which.resolve_right fun other => other.elim nofun synthesized
      rw [agree]
      exact ⟨And.right, fun may => ⟨free, may⟩⟩
    | none =>
      obtain ⟨c, k, onlyC, onlyK, freeC, freeK⟩ :=
        optional_of_undeclared clean made registered declared belongs field rendered
      refine ⟨c, k, onlyC, onlyK, ?_, fun _ => freeC.trans freeK.symm⟩
      rw [freeC, freeK, and_self]

/-! ## A required relation with an optional key -/

/-- A customer has an identifier. -/
def customer : Model := .entity "Customer" []

/-- A wallet shares the identifier of its owner. -/
def wallet : Model :=
  { Model.entity "Wallet"
      [{ Relation.plain "owner" .belongsTo "Customer" with foreignKey := some "id" }] with
    fields := [{ Field.identifier with required := true }] }

/-- A purse is a wallet whose identifier is not said to be required. -/
def purse : Model :=
  { Model.entity "Purse"
      [{ Relation.plain "owner" .belongsTo "Customer" with foreignKey := some "id" }] with
    fields := [Field.identifier] }

/-- An invoice has a payer, and a key for it that may be empty. -/
def invoice : Model :=
  { Model.entity "Invoice"
      [{ Relation.plain "payer" .belongsTo "Customer" with required := true }] with
    fields := [Field.identifier, Field.plain "payerId" (some (.known .integer))] }

/-- Customers, what they carry and their invoices. -/
def billing : List Model := [customer, wallet, purse, invoice]

theorem billing_clean : Clean (validate billing) :=
  Validation.clean_of_plain (by decide) rfl (by decide)

/-- The key of a wallet's owner is required, and the wallet has an owner. -/
theorem optional_iff_wallet : Clean (validate billing) ∧ requiredJunctions billing = .ok [] ∧
    wallet ∈ billing ++ [] ∧ ∃ r ∈ wallet.relations, r.isBelongsTo = true ∧
      (∀ d, wallet.field? r.expectedForeignKey = some d → d ∈ wallet.primaryKeyFields →
        d.required = true ∨ r.required = true) ∧
      ∃ b, (block unsized layout .fresh wallet (billing ++ [])).1 = .ok b ∧
        ∃ c k, b.relations.filter (·.name == r.name) = [c] ∧
          b.columns.filter (·.name == r.expectedForeignKey) = [k] ∧
          (c.optional = true ↔ k.optional = true) := by
  obtain ⟨report, passed, valid⟩ := billing_clean
  have made : requiredJunctions billing = .ok [] := rfl
  have mem : wallet ∈ billing ++ [] := List.mem_cons_of_mem _ List.mem_cons_self
  have required : ∀ d, wallet.field? "id" = some d → d ∈ wallet.primaryKeyFields →
      d.required = true ∨ false = true := by
    rintro d ⟨⟩ _
    exact .inl rfl
  obtain ⟨b, rendered⟩ : ∃ b, (block unsized layout .fresh wallet (billing ++ [])).1 = .ok b :=
    ⟨_, rfl⟩
  obtain ⟨c, k, onlyC, onlyK, _, agree⟩ := optional_iff passed valid made mem List.mem_cons_self
    rfl (fun _ => required) rendered
  exact ⟨⟨report, passed, valid⟩, made, mem, _, List.mem_cons_self, rfl, required, b, rendered,
    c, k, onlyC, onlyK, agree (.inl rfl)⟩

/-- The member of an invoice's payer is never empty, and yet the column of its key may be. The
member of a purse's owner may be empty, and yet the column of its key, the identifier, never is. -/
theorem billing_keys_disagree : (billing.map (·.name)).Nodup ∧ Clean (validate billing) ∧
    requiredJunctions billing = .ok [] ∧
    (invoice ∈ billing ∧ ∃ r ∈ invoice.relations, r.isBelongsTo = true ∧
      ∃ b, (block unsized layout .fresh invoice billing).1 = .ok b ∧
        ∃ c k, b.relations.filter (·.name == r.name) = [c] ∧
          b.columns.filter (·.name == r.expectedForeignKey) = [k] ∧
          c.optional = false ∧ k.optional = true) ∧
    purse ∈ billing ∧ ∃ r ∈ purse.relations, r.isBelongsTo = true ∧
      ∃ b, (block unsized layout .fresh purse billing).1 = .ok b ∧
        ∃ c k, b.relations.filter (·.name == r.name) = [c] ∧
          b.columns.filter (·.name == r.expectedForeignKey) = [k] ∧
          c.optional = true ∧ k.optional = false := by
  refine ⟨by decide, billing_clean, rfl, ⟨?_, ?_⟩, ?_, ?_⟩
  · simp [billing]
  · exact ⟨_, List.mem_cons_self, rfl, _, rfl, _, _, rfl, rfl, rfl, rfl⟩
  · simp [billing]
  · exact ⟨_, List.mem_cons_self, rfl, _, rfl, _, _, rfl, rfl, rfl, rfl⟩

end SchemaCompiler.Generation
