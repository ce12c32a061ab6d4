import SchemaCompiler.Model.Printer
import SchemaCompiler.Proofs.Model.Checked
import SchemaCompiler.Proofs.Value.Entries

/-!
# Reading what was rendered

A descriptor that is rendered in full is read back as it is. For most of its parts this holds
whatever they are, since every kind has a spelling that is read as the kind. A field has to be one
that was read (`Field.AsRead`): one that nobody has checked is rendered as it was given. So a model
that was read is read back from its rendering, however its descriptor was spelled
(`Model.read_rendering`).
-/

set_option autoImplicit false

namespace SchemaCompiler

open Value (ofText? texts)

namespace Reading

variable {α β : Type} {a : α} {read : Value → Reading α} {write : α → Value}

@[simp] theorem map_accept (f : α → β) : f <$> accept a = accept (f a) := rfl

@[simp] theorem seq_accept (f : α → β) : accept f <*> accept a = accept (f a) := rfl

@[simp] theorem under_accept (step : PathStep) : under step (accept a) = accept a := rfl

@[simp] theorem record_record (name : String) (read : List (Value × Value) → Reading α)
    (entries : List (String × Value)) :
    record name read (.record entries) = read (entries.map fun e => (.str e.1, e.2)) := rfl

/-! ## Values of one kind -/

@[simp] theorem text_str (s : String) : text (.str s) = accept s := rfl

@[simp] theorem truth_bool (b : Bool) : truth (.bool b) = accept b := rfl

/-- What is rendered item by item is read item by item. -/
theorem list_map {as : List α} (back : ∀ a ∈ as, read (write a) = accept a) :
    list read (.list (as.map write)) = accept as := by
  show itemsFrom read 0 (as.map write) = accept as
  generalize (0 : Int) = i
  induction as generalizing i with
  | nil => rfl
  | cons a as ih =>
    obtain ⟨here, later⟩ := List.forall_mem_cons.mp back
    rw [List.map_cons, itemsFrom, here, ih later]
    rfl

@[simp] theorem list_texts (items : List String) : list text (texts items) = accept items :=
  list_map fun s _ => text_str s

/-- What may be missing is read from what it is rendered as, if that is never null. -/
theorem optional_getD {o : Option α} (back : ∀ a, read (write a) = accept a)
    (solid : ∀ a, write a ≠ .null) : optional read ((o.map write).getD .null) = accept o := by
  cases o with
  | none => rfl
  | some a =>
    rw [Option.map_some, Option.getD_some]
    unfold optional
    split
    · next null => exact absurd null (solid a)
    · rw [back]
      rfl

@[simp] theorem optional_text (s : Option String) : optional text (ofText? s) = accept s :=
  optional_getD text_str fun _ => nofun

@[simp] theorem optional_texts (items : Option (List String)) :
    optional (list text) ((items.map texts).getD .null) = accept items :=
  optional_getD list_texts fun _ => nofun

section Choice

variable {allowed : List String} {find : String → Option α} {name : α → String}

/-- A choice is read from its spelling. -/
theorem choice_name (back : ∀ a, find (name a) = some a) (a : α) :
    choice allowed find (.str (name a)) = accept a := by
  unfold choice
  simp only [back]

theorem optional_choice (back : ∀ a, find (name a) = some a) (o : Option α) :
    optional (choice allowed find) (ofText? (o.map name)) = accept o := by
  unfold ofText?
  rw [Option.map_map]
  exact optional_getD (choice_name back) fun _ => nofun

end Choice

/-- A dictionary under texts is read as it is. -/
theorem dictionary_dict {es : List (Value × Value)} (named : ∀ e ∈ es, ∃ s, e.1 = .str s) :
    dictionary (.dict es) = accept es := by
  show entries es = accept es
  induction es with
  | nil => rfl
  | cons e es ih =>
    obtain ⟨⟨s, here⟩, later⟩ := List.forall_mem_cons.mp named
    obtain ⟨k, v⟩ := e
    cases here
    rw [entries, ih later]
    rfl

/-- The keys of a dictionary that is read are texts. -/
theorem dictionary_yields (v : Value) :
    Yields (fun es => ∀ e ∈ es, ∃ s, e.1 = Value.str s) (dictionary v) := by
  unfold dictionary
  split
  · next es =>
    induction es with
    | nil => exact .accept (List.forall_mem_nil _)
    | cons e es ih =>
      have first : Yields (fun g => ∀ more, (∀ e ∈ more, ∃ s, e.1 = Value.str s) →
          ∀ e ∈ g more, ∃ s, e.1 = Value.str s)
          ((fun name more => (Value.str name, e.2) :: more) <$>
            under (keyStep e.1) (under (.key "[key]") (text e.1))) :=
        (Yields.any _).map fun name _ _ all => List.forall_mem_cons.mpr ⟨⟨name, rfl⟩, all⟩
      exact first.seq ih fun _ more keeps all => keeps more all
  · exact .refuse _ _

end Reading

open Reading

/-! ## Spellings -/

theorem RuleKind.ofSpelling?_name (kind : RuleKind) :
    RuleKind.ofSpelling? kind.name = some kind := by
  cases kind <;> rfl

theorem RelationKind.ofSpelling?_name (kind : RelationKind) :
    RelationKind.ofSpelling? kind.name = some kind := by
  cases kind <;> rfl

theorem ReferentialAction.ofName?_name (action : ReferentialAction) :
    ReferentialAction.ofName? action.name = some action := by
  cases action <;> rfl

theorem ConstraintKind.ofName?_name (kind : ConstraintKind) :
    ConstraintKind.ofName? kind.name = some kind := by
  cases kind <;> rfl

/-- The type of a checked field is read from its spelling. -/
theorem FieldType.read_spelling {type : Option FieldType}
    (checked : ∀ spelling, type ≠ some (.unchecked spelling)) :
    FieldType.read (ofText? (type.map (·.spelling))) = accept type := by
  cases type with
  | none => rfl
  | some type =>
    cases type with
    | known kind =>
      show FieldType.read (.str kind.name) = accept _
      unfold FieldType.read FieldType.parse
      simp only [FieldKind.ofSpelling?_name]
      rfl
    | unchecked spelling => exact absurd rfl (checked spelling)

/-! ## Parts of a model -/

theorem Rule.read_toValue (r : Rule) : Rule.read r.toValue = accept r := by
  simp [Rule.read, Rule.toValue, requiredPart, part, choice_name RuleKind.ofSpelling?_name]

theorem Through.read_toValue (t : Through) : Through.read t.toValue = accept t := by
  simp [Through.read, Through.toValue, requiredPart]

theorem Relation.read_toValue (r : Relation) : Relation.read r.toValue = accept r := by
  have through : optional Through.read ((r.through.map (·.toValue)).getD .null) =
      accept r.through := optional_getD Through.read_toValue fun _ => nofun
  simp [Relation.read, Relation.toValue, part, through,
    optional_choice RelationKind.ofSpelling?_name, optional_choice ReferentialAction.ofName?_name]

theorem Constraint.read_toValue (c : Constraint) : Constraint.read c.toValue = accept c := by
  simp [Constraint.read, Constraint.toValue, requiredPart, choice_name ConstraintKind.ofName?_name]

theorem Access.ofValue_toValue (a : Access) : Access.ofValue a.toValue = accept a := by
  simp [Access.ofValue, Access.toValue, part]

theorem Ownership.read_toValue (o : Ownership) : Ownership.read o.toValue = accept o := by
  simp [Ownership.read, Ownership.toValue, requiredPart, part]

theorem Events.read_toValue (e : Events) : Events.read e.toValue = accept e := by
  simp [Events.read, Events.toValue, part]

/-! ## Fields -/

/-- What every field that is read has: a type that is left out or an abstract one, presentation
data under texts, and nothing to be rendered as it was given. -/
structure Field.AsRead (f : Field) : Prop where
  checked : f.Checked
  named : ∀ e ∈ f.ui, ∃ s, e.1 = Value.str s
  plain : f.asGiven = []

namespace Field

theorem read_asRead (v : Value) : Yields AsRead (read v) := by
  refine .record (fun es => ?_) v
  have name : Yields (fun g => ∃ name, g = Field.mk name) (Field.mk <$> part es "name" "" text) :=
    (Yields.any _).map fun name _ => ⟨name, rfl⟩
  have ui : Yields (fun ui => ∀ e ∈ ui, ∃ s, e.1 = Value.str s) (part es "ui" [] dictionary) :=
    .part (List.forall_mem_nil _) dictionary_yields
  have plain : Yields (fun given => given = []) (accept ([] : List (Value × Value))) := .accept rfl
  refine .seq (p := fun g => ∀ given, given = [] → AsRead (g given)) ?_ plain
    fun g given keeps plain => keeps given plain
  refine .seq (p := fun g : List (Value × Value) → List (Value × Value) → Field =>
      ∀ ui, (∀ e ∈ ui, ∃ s, e.1 = Value.str s) → ∀ given, given = [] → AsRead (g ui given))
    ?_ ui fun g ui keeps named => keeps ui named
  -- what is read between the type and the presentation data does not touch them
  iterate 10 refine .seq_any ?_
  refine name.seq (FieldType.part_yields es) ?_
  rintro _ type ⟨name, rfl⟩ checked
  intro _ _ _ _ _ _ _ _ _ _ ui named given plain
  exact ⟨checked, named, plain⟩

theorem read_toValue {f : Field} (h : f.AsRead) : Field.read f.toValue = accept f := by
  have type := FieldType.read_spelling h.checked
  have rules : list Rule.read (.list (f.rules.map (·.toValue))) = accept f.rules :=
    list_map fun r _ => r.read_toValue
  have ui := dictionary_dict h.named
  calc Field.read f.toValue = accept { f with asGiven := [] } := by
        simp [Field.read, Field.toValue, part, h.plain, type, rules, ui]
    _ = accept f := by rw [← h.plain]

end Field

/-! ## Models -/

namespace Model

variable {m : Model} {v : Value}

/-- A model with fields that were read is read from its rendering. -/
theorem read_toValue_of_asRead (h : ∀ f ∈ m.fields, f.AsRead) :
    Model.read m.toValue = accept m := by
  have fields : list Field.read (.list (m.fields.map (·.toValue))) = accept m.fields :=
    list_map fun f mem => Field.read_toValue (h f mem)
  have relations : list Relation.read (.list (m.relations.map (·.toValue))) = accept m.relations :=
    list_map fun r _ => r.read_toValue
  have constraints : list Constraint.read (.list (m.constraints.map (·.toValue))) =
      accept m.constraints := list_map fun c _ => c.read_toValue
  have access : optional Access.ofValue ((m.access.map (·.toValue)).getD .null) =
      accept m.access := optional_getD Access.ofValue_toValue fun _ => nofun
  have ownership : optional Ownership.read ((m.ownership.map (·.toValue)).getD .null) =
      accept m.ownership := optional_getD Ownership.read_toValue fun _ => nofun
  have events : optional Events.read ((m.events.map (·.toValue)).getD .null) = accept m.events :=
    optional_getD Events.read_toValue fun _ => nofun
  have config : readTimestamps (.record [("timestamps", .bool m.timestamps)]) =
      accept m.timestamps := by
    simp [readTimestamps, part]
  simp [Model.read, Model.readWith, Model.toValue, part, fields, relations, constraints, access,
    ownership, events, config]

/-- Reading is undone by rendering: whatever a model was read from, its rendering in full is read
as the same model. -/
theorem read_rendering (h : Model.read v = .ok m) : Model.read m.toValue = .ok m :=
  read_toValue_of_asRead (fields_of_read Field.read_asRead h)

/-- A descriptor in older spellings: a tuple of fields, types and kinds by other names, and truth
values as words and numbers. -/
def lenient : Value :=
  .record [("name", .str "Article"), ("fields", .tuple [
      .record [("name", .bytes [0x69, 0x64]), ("type", .str " UUID "), ("primary_key", .str "Yes")],
      .record [("name", .str "title"), ("type", .str "str"), ("required", .int 1),
        ("validation", .list [.record [("kind", .str "maxLength"), ("value", .str "80")]]),
        ("ui", .dict [(.bytes [0x78], .tuple [.null])])]]),
    ("relations", .list [.record [("name", .str "tags"), ("kind", .str "many"),
      ("target", .str "Tag")]]),
    ("config", .record [("timestamps", .str "off")])]

theorem read_rendering_lenient : ∃ m, Model.read lenient = .ok m ∧ Model.read m.toValue = .ok m ∧
    m.fields.map (·.type) = [some (.known .string), some (.known .string)] ∧
    m.relations.map (·.kind) = [some .hasMany] ∧ m.timestamps = false :=
  ⟨_, rfl, read_rendering (v := lenient) rfl, rfl, rfl, rfl⟩

end Model

end SchemaCompiler
