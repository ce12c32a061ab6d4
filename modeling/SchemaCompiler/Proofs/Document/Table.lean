import SchemaCompiler.Document.Formatter
import SchemaCompiler.Proofs.Model.Lookup
import SchemaCompiler.Proofs.Text.Separator

/-!
# Tables that share a place

A table is written into the database under its bare name in the schema of its module, or, where
there is one schema, under its name with the module in front. Core tables are written under their
bare names, in the schema that is called public. The names are joined by an underscore, which
modules and tables may hold themselves, and a module may be called public, so different tables can
come to one place. They do so in three ways only, and the directives of a block say no more than the
place of its table (`place_eq_iff`).
-/

set_option autoImplicit false

namespace SchemaCompiler.Formatter

/-- The place of a table in the database: its schema, if there are several, and its name there. -/
def place (f : Formatter) (t : TableRef) : Option String × String :=
  (if f.multiSchema then some (f.schemaName t) else none, f.physicalTable t)

/-- A table takes the place of another one. -/
inductive Clash (f : Formatter) (s t : TableRef) : Prop
  /-- A core table and one of a module that is called as the schema of core tables. -/
  | schema (several : f.multiSchema = true) (core : s.isCore = true)
      (called : t.module = coreSchema) (tables : s.table = t.table)
  /-- A core table whose name begins with the module of the other one. -/
  | core (single : f.multiSchema = false) (core : s.isCore = true) (other : t.isCore = false)
      (tables : s.table = t.module ++ "_" ++ t.table)
  /-- A table of a module whose name goes on as the other table begins. -/
  | module (rest : String) (single : f.multiSchema = false) (first : s.isCore = false)
      (second : t.isCore = false) (modules : s.module = t.module ++ "_" ++ rest)
      (tables : t.table = rest ++ "_" ++ s.table)

variable {f : Formatter} {s t : TableRef}

theorem module_of_isCore (core : t.isCore = true) : t.module = coreModule := eq_of_beq core

/-! ## Several schemas -/

theorem schemaName_of_isCore (core : t.isCore = true) : f.schemaName t = coreSchema := if_pos core

theorem schemaName_of_module (other : t.isCore = false) : f.schemaName t = t.module :=
  if_neg (ne_true_of_eq_false other)

/-- Where there are several schemas, a place is that of a schema and a bare name. -/
theorem place_of_several (several : f.multiSchema = true) (t : TableRef) :
    f.place t = (some (f.schemaName t), t.table) := by
  unfold place physicalTable
  simp only [several, Bool.or_true, if_true]

/-- Tables of one schema belong to one module, or one to the core and the other to a module that is
called as the schema of the core. -/
theorem schemaName_eq_iff : f.schemaName s = f.schemaName t ↔ s.module = t.module ∨
    s.isCore = true ∧ t.module = coreSchema ∨ t.isCore = true ∧ s.module = coreSchema := by
  cases coreS : s.isCore with
  | true =>
    rw [schemaName_of_isCore coreS, module_of_isCore coreS]
    cases coreT : t.isCore with
    | true => simp only [schemaName_of_isCore coreT, module_of_isCore coreT, true_or]
    | false =>
      have other : coreModule ≠ t.module := fun same => by
        rw [TableRef.isCore, ← same] at coreT
        cases coreT
      simp only [schemaName_of_module coreT, other, false_or, true_and, Bool.false_eq_true,
        false_and, or_false, eq_comm]
  | false =>
    rw [schemaName_of_module coreS]
    cases coreT : t.isCore with
    | true =>
      have other : s.module ≠ coreModule := fun same => by
        rw [TableRef.isCore, same] at coreS
        cases coreS
      simp only [schemaName_of_isCore coreT, module_of_isCore coreT, other, false_or, true_and,
        Bool.false_eq_true, false_and]
    | false =>
      simp only [schemaName_of_module coreT, Bool.false_eq_true, false_and, or_false]

/-! ## One schema -/

theorem place_of_core (single : f.multiSchema = false) (core : t.isCore = true) :
    f.place t = (none, t.table) := by
  unfold place physicalTable
  simp only [single, core, Bool.true_or, if_true, Bool.false_eq_true, if_false]

theorem place_of_module (single : f.multiSchema = false) (other : t.isCore = false) :
    f.place t = (none, t.module ++ "_" ++ t.table) := by
  unfold place physicalTable
  simp only [single, other, Bool.or_self, Bool.false_eq_true, if_false]

/-! ## Clashes -/

theorem Clash.place_eq (clash : Clash f s t) : f.place s = f.place t := by
  cases clash with
  | schema several core called tables =>
    have schemas := schemaName_eq_iff (f := f) (s := s) (t := t) |>.mpr (.inr (.inl ⟨core, called⟩))
    rw [place_of_several several, place_of_several several, schemas, tables]
  | core single core other tables =>
    rw [place_of_core single core, place_of_module single other, tables]
  | module rest single first second modules tables =>
    have joined := Text.join_eq_iff.mpr (.inr (.inl ⟨rest, modules, tables⟩))
    rw [place_of_module single first, place_of_module single second, joined]

/-- Tables that share a place are the same, or one takes the place of the other. -/
theorem clash_of_place_eq (shared : f.place s = f.place t) :
    s = t ∨ Clash f s t ∨ Clash f t s := by
  cases several : f.multiSchema with
  | true =>
    rw [place_of_several several, place_of_several several] at shared
    obtain ⟨schemas, tables⟩ := Prod.mk.inj shared
    rcases schemaName_eq_iff.mp (Option.some.inj schemas) with
      same | ⟨core, called⟩ | ⟨core, called⟩
    · exact .inl (TableRef.mk.injEq .. |>.mpr ⟨same, tables⟩)
    · exact .inr (.inl (.schema several core called tables))
    · exact .inr (.inr (.schema several core called tables.symm))
  | false =>
    cases coreS : s.isCore with
    | true =>
      rw [place_of_core several coreS] at shared
      cases coreT : t.isCore with
      | true =>
        rw [place_of_core several coreT] at shared
        have modules : s.module = t.module :=
          (module_of_isCore coreS).trans (module_of_isCore coreT).symm
        exact .inl (TableRef.mk.injEq .. |>.mpr ⟨modules, (Prod.mk.inj shared).2⟩)
      | false =>
        rw [place_of_module several coreT] at shared
        exact .inr (.inl (.core several coreS coreT (Prod.mk.inj shared).2))
    | false =>
      rw [place_of_module several coreS] at shared
      cases coreT : t.isCore with
      | true =>
        rw [place_of_core several coreT] at shared
        exact .inr (.inr (.core several coreT coreS (Prod.mk.inj shared).2.symm))
      | false =>
        rw [place_of_module several coreT] at shared
        rcases Text.join_eq_iff.mp (Prod.mk.inj shared).2 with
          ⟨modules, tables⟩ | ⟨rest, modules, tables⟩ | ⟨rest, modules, tables⟩
        · exact .inl (TableRef.mk.injEq .. |>.mpr ⟨modules, tables⟩)
        · exact .inr (.inl (.module rest several coreS coreT modules tables))
        · exact .inr (.inr (.module rest several coreT coreS modules tables))

/-- The directives of a block tell the place of its table and nothing else. -/
theorem tableDirectives_eq_iff :
    f.tableDirectives s = f.tableDirectives t ↔ f.place s = f.place t := by
  have quoted {head a b : String} : head ++ a ++ "\")" = head ++ b ++ "\")" ↔ a = b := by
    rw [String.append_left_inj, String.append_right_inj]
  unfold tableDirectives place
  cases f.multiSchema with
  | true =>
    simp only [if_true, List.cons.injEq, quoted, and_true, Prod.mk.injEq, Option.some.injEq]
    exact and_comm
  | false =>
    simp only [Bool.false_eq_true, if_false, List.cons.injEq, quoted, and_true, Prod.mk.injEq,
      true_and]

/-- Two tables are written with the same directives exactly if they share a place in the database,
and that exactly if they are the same or one takes the place of the other in one of three ways. -/
theorem place_eq_iff (f : Formatter) (s t : TableRef) :
    (f.tableDirectives s = f.tableDirectives t ↔ f.place s = f.place t) ∧
      (f.place s = f.place t ↔ s = t ∨ Clash f s t ∨ Clash f t s) := by
  refine ⟨tableDirectives_eq_iff, clash_of_place_eq, ?_⟩
  rintro (rfl | clash | clash)
  · rfl
  · exact clash.place_eq
  · exact clash.place_eq.symm

/-- An invoice of the module for billing. -/
def invoice : Model := { Model.entity "Invoice" [] with module := "billing" }

/-- A billing invoice of the core. -/
def billingInvoice : Model := .entity "BillingInvoice" []

/-- Where there is one schema, invoices of billing and billing invoices of the core are one table,
and so are the order items of a shop and the items of its orders. Where there are several, users of
the core and of a module that is called public are one table. -/
theorem invoices_share_place :
    (invoice.table ≠ billingInvoice.table ∧
      (make .pretty .mysql false).place invoice.table =
        (make .pretty .mysql false).place billingInvoice.table) ∧
    ((⟨"shop", "order_item"⟩ : TableRef) ≠ ⟨"shop_order", "item"⟩ ∧
      (make .pretty .mysql false).place ⟨"shop", "order_item"⟩ =
        (make .pretty .mysql false).place ⟨"shop_order", "item"⟩) ∧
    (⟨coreModule, "user"⟩ : TableRef) ≠ ⟨"public", "user"⟩ ∧
      (make .pretty .postgresql true).place ⟨coreModule, "user"⟩ =
        (make .pretty .postgresql true).place ⟨"public", "user"⟩ :=
  ⟨⟨by decide, by decide⟩, ⟨by decide, by decide⟩, by decide, by decide⟩

end SchemaCompiler.Formatter
