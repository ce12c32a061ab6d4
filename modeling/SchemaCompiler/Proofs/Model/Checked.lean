import Mathlib.Data.List.Basic
import SchemaCompiler.Model.Reader
import SchemaCompiler.Proofs.Model.Lookup

/-!
# Checked models

A field is checked when its type is left out or is one of the abstract types. Every model that is
read from a descriptor has checked fields only (`Model.checked_of_read`), and a checked field passes
a second check unchanged (`Field.checked_eq`). A field whose type was not checked passes a check if
the type is a spelling of an abstract type (`Field.exists_checked_iff`).
-/

set_option autoImplicit false

namespace SchemaCompiler

namespace Reading

variable {α β : Type}

/-- Everything that a reading may yield has a property. -/
def Yields (p : α → Prop) (r : Reading α) : Prop := ∀ a, r = .ok a → p a

namespace Yields

variable {p : α → Prop}

theorem any (r : Reading α) : Yields (fun _ => True) r := fun _ _ => trivial

theorem accept {a : α} (h : p a) : Yields p (accept a) := fun _ done => Except.ok.inj done ▸ h

theorem refuse (kind : ProblemKind) (input : Value) : Yields p (refuse kind input) :=
  fun _ done => (nomatch done)

theorem map {q : β → Prop} {f : α → β} {r : Reading α} (h : Yields p r)
    (keeps : ∀ a, p a → q (f a)) : Yields q (f <$> r) := by
  intro b done
  cases r with
  | error problems => cases done
  | ok a =>
    cases done
    exact keeps a (h a rfl)

/-- Two parts are read together from what each of them yields. -/
theorem seq {p : (α → β) → Prop} {q : α → Prop} {s : β → Prop} {f : Reading (α → β)}
    {r : Reading α} (hf : Yields p f) (hr : Yields q r) (keeps : ∀ g a, p g → q a → s (g a)) :
    Yields s (f <*> r) := by
  intro b done
  cases f with
  | error problems => cases r <;> cases done
  | ok g =>
    cases r with
    | error problems => cases done
    | ok a =>
      cases done
      exact keeps g a (hf g rfl) (hr a rfl)

/-- A part that is read whatever it is leaves what is known. -/
theorem seq_any {s : β → Prop} {f : Reading (α → β)} {r : Reading α}
    (hf : Yields (fun g => ∀ a, s (g a)) f) : Yields s (f <*> r) :=
  hf.seq (any r) fun _ a known _ => known a

theorem under {r : Reading α} (h : Yields p r) (step : PathStep) : Yields p (under step r) := by
  intro a done
  cases r with
  | error problems => cases done
  | ok b =>
    cases done
    exact h a rfl

theorem part {es : List (Value × Value)} {key : String} {absent : α} {read : Value → Reading α}
    (usual : p absent) (h : ∀ v, Yields p (read v)) : Yields p (part es key absent read) := by
  unfold Reading.part
  split
  · next v _ => exact (h v).under _
  · exact accept usual

theorem itemsFrom {read : Value → Reading α} (h : ∀ v, Yields p (read v)) (i : Int)
    (vs : List Value) : Yields (fun as => ∀ a ∈ as, p a) (itemsFrom read i vs) := by
  induction vs generalizing i with
  | nil => exact accept fun _ mem => (nomatch mem)
  | cons v vs ih =>
    refine seq (((h v).under _).map (q := fun g => ∀ as, (∀ a ∈ as, p a) → ∀ a ∈ g as, p a) ?_)
      (ih (i + 1)) fun _ as keeps all => keeps as all
    exact fun a here as all => List.forall_mem_cons.mpr ⟨here, all⟩

theorem list {read : Value → Reading α} (h : ∀ v, Yields p (read v)) (v : Value) :
    Yields (fun as => ∀ a ∈ as, p a) (list read v) := by
  unfold Reading.list
  split
  · exact itemsFrom h 0 _
  · exact itemsFrom h 0 _
  · exact refuse _ _

theorem record {name : String} {read : List (Value × Value) → Reading α}
    (h : ∀ es, Yields p (read es)) (v : Value) : Yields p (record name read v) := by
  unfold Reading.record
  split
  · exact h _
  · exact refuse _ _

end Yields

end Reading

open Reading

/-- The type of a field is left out or one of the abstract types. -/
def Field.Checked (f : Field) : Prop := ∀ spelling, f.type ≠ some (.unchecked spelling)

instance (f : Field) : Decidable f.Checked :=
  match typed : f.type with
  | some (.unchecked spelling) => isFalse fun checked => checked spelling typed
  | some (.known _) | none => isTrue fun _ unchecked => nomatch typed.symm.trans unchecked

/-- Every field is checked. -/
def Model.Checked (m : Model) : Prop := ∀ f ∈ m.fields, f.Checked

instance (m : Model) : Decidable m.Checked := List.decidableBAll _ _

theorem Model.entity_checked (name : String) (relations : List Relation) :
    (Model.entity name relations).Checked :=
  List.forall_mem_singleton.mpr fun _ => nofun

theorem Model.entities_checked (given : List (String × List Relation)) :
    ∀ m ∈ Model.entities given, m.Checked :=
  List.forall_mem_map.mpr fun e _ => Model.entity_checked e.1 e.2

/-- The name of an abstract type is a spelling of it. -/
theorem FieldKind.ofSpelling?_name (kind : FieldKind) :
    FieldKind.ofSpelling? kind.name = some kind := by
  cases kind <;> decide +kernel

/-- The types that are read are abstract types. -/
theorem FieldType.read_yields (v : Value) :
    Yields (fun type => ∀ spelling, type ≠ some (.unchecked spelling)) (FieldType.read v) := by
  unfold FieldType.read
  split
  · next kind _ =>
    refine .accept fun spelling => ?_
    cases kind <;> exact nofun
  · exact .refuse _ _

theorem FieldType.part_yields (es : List (Value × Value)) :
    Yields (fun type => ∀ spelling, type ≠ some (.unchecked spelling))
      (part es "type" none FieldType.read) :=
  .part (fun _ => nofun) FieldType.read_yields

namespace Field

theorem read_yields (v : Value) : Yields Checked (read v) := by
  refine .record (fun es => ?_) v
  have named : Yields (fun g => ∃ name, g = Field.mk name) (Field.mk <$> part es "name" "" text) :=
    (Yields.any _).map fun name _ => ⟨name, rfl⟩
  -- what is read after the type does not touch it
  iterate 12 refine .seq_any ?_
  refine named.seq (FieldType.part_yields es) ?_
  rintro _ type ⟨name, rfl⟩ known
  intros
  exact known

/-- A checked field passes its check unchanged. -/
theorem checked_eq {f : Field} (h : f.Checked) : f.checked = .ok f := by
  unfold checked
  split
  · next none => rw [← none]; rfl
  · next kind known => rw [← known]; rfl
  · next spelling unchecked => exact absurd unchecked (h spelling)

/-- The type of a field is left out, one of the abstract types, or a spelling of one that nobody
has checked. -/
def Copyable (f : Field) : Prop :=
  ∀ spelling, f.type = some (.unchecked spelling) → (FieldKind.ofSpelling? spelling).isSome = true

theorem Checked.copyable {f : Field} (h : f.Checked) : f.Copyable :=
  fun spelling unchecked => absurd unchecked (h spelling)

/-- A field passes a check exactly if its type is a spelling of an abstract type. -/
theorem exists_checked_iff {f : Field} : (∃ g, f.checked = .ok g) ↔ f.Copyable := by
  by_cases h : f.Checked
  · exact iff_of_true ⟨f, checked_eq h⟩ h.copyable
  · obtain ⟨spelling, unchecked⟩ : ∃ spelling, f.type = some (.unchecked spelling) := by
      simpa [Checked] using h
    have copyable : f.Copyable ↔ (FieldKind.ofSpelling? spelling).isSome = true := by
      unfold Copyable
      rw [unchecked]
      exact ⟨fun all => all spelling rfl, fun spelled _ same => by cases same; exact spelled⟩
    rw [copyable]
    unfold checked FieldType.read FieldType.parse
    simp only [unchecked]
    cases FieldKind.ofSpelling? spelling with
    | some kind => exact iff_of_true ⟨_, rfl⟩ rfl
    | none => exact iff_of_false (fun ⟨_, done⟩ => nomatch done) Bool.false_ne_true

end Field

namespace Model

/-- The fields of a model that is read have what every field that is read has. -/
theorem fields_of_read {p : Field → Prop} (reads : ∀ v, Yields p (Field.read v)) {v : Value}
    {m : Model} (h : Model.read v = .ok m) : ∀ f ∈ m.fields, p f := by
  refine Yields.record (p := fun m => ∀ f ∈ m.fields, p f) (fun es => ?_) v m h
  have named : Yields (fun g => ∃ name module table, g = Model.mk name module table)
      (Model.mk <$> part es "name" "" text <*> part es "module" coreModule text
        <*> part es "table_name" none (optional text)) := by
    have first : Yields (fun g => ∃ name, g = Model.mk name)
        (Model.mk <$> part es "name" "" text) := (Yields.any _).map fun name _ => ⟨name, rfl⟩
    have second : Yields (fun g => ∃ name module, g = Model.mk name module)
        (Model.mk <$> part es "name" "" text <*> part es "module" coreModule text) :=
      first.seq (.any _) fun _ module ⟨name, same⟩ _ => ⟨name, module, same ▸ rfl⟩
    exact second.seq (.any _) fun _ table ⟨name, module, same⟩ _ =>
      ⟨name, module, table, same ▸ rfl⟩
  -- what is read after the fields does not touch them
  iterate 8 refine .seq_any ?_
  refine named.seq (.part (fun _ mem => (nomatch mem)) (.list reads)) ?_
  rintro _ fields ⟨name, module, table, rfl⟩ known
  intro _ _ _ _ _ _ _ _
  exact known

/-- Every model that is read is checked. -/
theorem checked_of_read {v : Value} {m : Model} (h : Model.read v = .ok m) : m.Checked :=
  fields_of_read Field.read_yields h

end Model

end SchemaCompiler
