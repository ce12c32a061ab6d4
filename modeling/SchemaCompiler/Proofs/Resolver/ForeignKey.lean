import SchemaCompiler.Proofs.Model.Checked
import SchemaCompiler.Proofs.Model.Lookup
import SchemaCompiler.Proofs.Outcome
import SchemaCompiler.Resolver.ForeignKey

/-!
# The foreign keys of a model

The foreign keys of a model are made whenever each of its `belongsTo` relations has a registered
target with a key, and either declares its own key or can copy that of the target
(`exists_foreignKeys`). Each relation then has a foreign key of the expected name, no two keys have
one name, and each stems from the first relation that uses it (`foreignKeys_stem`).
-/

set_option autoImplicit false

namespace SchemaCompiler.Resolver

/-- A relation of a model has a key to reference, and the model declares the foreign key or the key
can be copied. -/
def Referable (m : Model) (models : List Model) (r : Relation) : Prop :=
  ∃ target key, Model.find? models r.target = some target ∧ target.referenceKey = some key ∧
    ((m.field? r.expectedForeignKey).isSome ∨ key.Checked)

/-- A copy of a checked key passes the check of a column's field. -/
theorem buildField_keyCopy {name : String} {key : Field} (h : key.Checked)
    (required unique : Bool) :
    buildField { keyCopy name key with required, unique } =
      .ok { keyCopy name key with required, unique } := by
  have copied : Field.Checked { keyCopy name key with required, unique } := h
  unfold buildField
  rw [Field.checked_eq copied]
  rfl

/-- A field can be built for a column exactly if it passes a check. -/
theorem exists_buildField_iff {f : Field} : (∃ built, buildField f = .ok built) ↔ f.Copyable := by
  rw [← Field.exists_checked_iff]
  unfold buildField
  cases f.checked with
  | error problems =>
    exact iff_of_false (fun ⟨_, done⟩ => nomatch done) fun ⟨_, done⟩ => nomatch done
  | ok g => exact iff_of_true ⟨g, rfl⟩ ⟨g, rfl⟩

/-- A field that is built for a column changes in its type at most. -/
theorem exists_type_of_buildField {f built : Field} (h : buildField f = .ok built) :
    ∃ type, built = { f with type } := by
  have kept : Reading.Yields (fun g : Field => ∃ type, g = { f with type }) f.checked :=
    (Reading.Yields.any _).map fun type _ => ⟨type, rfl⟩
  unfold buildField at h
  cases done : f.checked with
  | error problems =>
    rw [done] at h
    cases h
  | ok g =>
    rw [done] at h
    cases h
    exact kept _ done

theorem name_of_buildField {f built : Field} (h : buildField f = .ok built) :
    built.name = f.name := by
  obtain ⟨type, rfl⟩ := exists_type_of_buildField h
  rfl

/-! ## Where a foreign key stems from -/

/-- What the foreign key of a relation is: the field of the expected name that the model declares,
or the one synthesized for it. -/
theorem foreignKeyOf_cases {m : Model} {r : Relation} {target : Model} {key : Field}
    {made : ForeignKey} (h : foreignKeyOf m r target key = .ok made) :
    made.key = key ∧
      (m.field? r.expectedForeignKey = some made.field ∧ made.synthesized = false ∨
        m.field? r.expectedForeignKey = none ∧ made.synthesized = true ∧
          synthesize m r target key = .ok made.field) := by
  unfold foreignKeyOf at h
  split at h
  · next declared =>
    cases h
    exact ⟨rfl, .inl ⟨declared, rfl⟩⟩
  · next undeclared =>
    cases done : synthesize m r target key with
    | error e =>
      rw [done] at h
      cases h
    | ok field =>
      rw [done] at h
      cases h
      exact ⟨rfl, .inr ⟨undeclared, rfl, rfl⟩⟩

theorem name_of_foreignKeyOf {m : Model} {r : Relation} {target : Model} {key : Field}
    {made : ForeignKey} (h : foreignKeyOf m r target key = .ok made) :
    made.field.name = r.expectedForeignKey := by
  obtain ⟨_, ⟨declared, _⟩ | ⟨_, _, synthesized⟩⟩ := foreignKeyOf_cases h
  · exact eq_of_beq (List.find?_some declared :)
  · exact name_of_buildField synthesized

/-- A foreign key is that of the first of some relations that uses its name. -/
def Stems (m : Model) (models : List Model) (rs : List Relation) (made : ForeignKey) : Prop :=
  ∃ r target key, rs.find? (·.expectedForeignKey == made.field.name) = some r ∧
    Model.find? models r.target = some target ∧ target.referenceKey = some key ∧
    foreignKeyOf m r target key = .ok made

/-- A foreign key is the field of its name, if the model declares one, and is synthesized
otherwise. -/
theorem Stems.declared_or_synthesized {m : Model} {models : List Model} {rs : List Relation}
    {made : ForeignKey} (stem : Stems m models rs made) :
    m.field? made.field.name = some made.field ∧ made.synthesized = false ∨
      m.field? made.field.name = none ∧ made.synthesized = true := by
  obtain ⟨r, target, key, _, _, _, here⟩ := stem
  rw [name_of_foreignKeyOf here]
  obtain ⟨_, declared | ⟨undeclared, synthesized, _⟩⟩ := foreignKeyOf_cases here
  · exact .inl declared
  · exact .inr ⟨undeclared, synthesized⟩

/-- A key of a later relation stems from the same one if the first relation uses another name. -/
theorem Stems.later {m : Model} {models : List Model} {r : Relation} {rs : List Relation}
    {made : ForeignKey} (stem : Stems m models rs made)
    (other : r.expectedForeignKey ≠ made.field.name) : Stems m models (r :: rs) made := by
  obtain ⟨r', target, key, first, found⟩ := stem
  refine ⟨r', target, key, ?_, found⟩
  rw [List.find?_cons_of_neg (by simpa using other)]
  exact first

/-- Passing over a relation finds the key that it references, and makes a foreign key if the name of
that is new. -/
theorem foreignKeysFrom_cons_ok {m : Model} {models : List Model} {seen : List String}
    {r : Relation} {rest : List Relation} {keys : List ForeignKey}
    (h : foreignKeysFrom m models seen (r :: rest) = .ok keys) :
    ∃ target key, Model.find? models r.target = some target ∧ target.referenceKey = some key ∧
      (r.expectedForeignKey ∈ seen ∧ foreignKeysFrom m models seen rest = .ok keys ∨
        r.expectedForeignKey ∉ seen ∧ ∃ made later, foreignKeyOf m r target key = .ok made ∧
          foreignKeysFrom m models (r.expectedForeignKey :: seen) rest = .ok later ∧
          keys = made :: later) := by
  unfold foreignKeysFrom at h
  split at h
  · cases h
  · next target found =>
    split at h
    · cases h
    · next key keyed =>
      refine ⟨target, key, found, keyed, ?_⟩
      simp only [List.contains_iff_mem] at h
      split at h
      · next known => exact .inl ⟨known, h⟩
      · next new =>
        obtain ⟨made, here, rest'⟩ := Outcome.bind_ok_iff.mp h
        obtain ⟨later, there, done⟩ := Outcome.bind_ok_iff.mp rest'
        exact .inr ⟨new, made, later, here, there, (Except.ok.inj done).symm⟩

/-- Passing over relations makes foreign keys of different names, all new. Each of them stems from
the first relation that uses it, and each new name has one. -/
theorem foreignKeysFrom_stem {m : Model} {models : List Model} {seen : List String}
    {rs : List Relation} {keys : List ForeignKey}
    (h : foreignKeysFrom m models seen rs = .ok keys) :
    (keys.map (·.field.name)).Nodup ∧
      (∀ made ∈ keys, made.field.name ∉ seen ∧ Stems m models rs made) ∧
      ∀ r ∈ rs, r.expectedForeignKey ∉ seen →
        ∃ made ∈ keys, made.field.name = r.expectedForeignKey := by
  induction rs generalizing seen keys with
  | nil =>
    cases h
    exact ⟨List.nodup_nil, fun _ mem => (nomatch mem), fun _ mem => (nomatch mem)⟩
  | cons r rest ih =>
    obtain ⟨target, key, found, keyed, ⟨known, h⟩ | ⟨new, made, later, here, there, rfl⟩⟩ :=
      foreignKeysFrom_cons_ok h
    · obtain ⟨distinct, each, all⟩ := ih h
      refine ⟨distinct, fun made mem => ?_, fun r' mem new => ?_⟩
      · obtain ⟨new, stem⟩ := each made mem
        exact ⟨new, stem.later fun same => new (same ▸ known)⟩
      · rcases List.mem_cons.mp mem with rfl | within
        · exact absurd known new
        · exact all r' within new
    · have name := name_of_foreignKeyOf here
      obtain ⟨distinct, each, all⟩ := ih there
      refine ⟨List.nodup_cons.mpr ⟨?_, distinct⟩, List.forall_mem_cons.mpr ⟨?_, ?_⟩, ?_⟩
      · intro again
        obtain ⟨made', mem, same⟩ := List.mem_map.mp again
        exact (each made' mem).1 (same.trans name ▸ List.mem_cons_self)
      · refine ⟨name ▸ new, r, target, key, ?_, found, keyed, here⟩
        exact List.find?_cons_of_pos (beq_iff_eq.mpr name.symm)
      · intro made' mem
        obtain ⟨unseen, stem⟩ := each made' mem
        rw [List.mem_cons, not_or] at unseen
        exact ⟨unseen.2, stem.later (Ne.symm unseen.1)⟩
      · intro r' mem unseen
        by_cases same : r'.expectedForeignKey = r.expectedForeignKey
        · exact ⟨made, List.mem_cons_self, name.trans same.symm⟩
        · have within : r' ∈ rest :=
            (List.mem_cons.mp mem).resolve_left fun equal => same (equal ▸ rfl)
          obtain ⟨made', there, name'⟩ := all r' within fun known =>
            (List.mem_cons.mp known).elim same unseen
          exact ⟨made', List.mem_cons_of_mem made there, name'⟩

/-- The foreign keys of a model have different names, each stems from the first relation that uses
it, and each `belongsTo` relation uses one. -/
theorem foreignKeys_stem {m : Model} {models : List Model} {keys : List ForeignKey}
    (h : foreignKeys m models = .ok keys) :
    (keys.map (·.field.name)).Nodup ∧
      (∀ made ∈ keys, Stems m models (m.relationsOf .belongsTo) made) ∧
      ∀ r ∈ m.relations, r.isBelongsTo = true →
        ∃ made ∈ keys, made.field.name = r.expectedForeignKey := by
  obtain ⟨distinct, each, all⟩ := foreignKeysFrom_stem h
  exact ⟨distinct, fun made mem => (each made mem).2, fun r mem belongs =>
    all r (List.mem_filter.mpr ⟨mem, belongs⟩) List.not_mem_nil⟩

/-- A key that a foreign key field references is that of a foreign key. -/
theorem exists_of_referencedKey {keys : List ForeignKey} {name : String} {key : Field}
    (found : referencedKey keys name = some key) : ∃ k ∈ keys, k.key = key := by
  obtain ⟨k, there, rfl⟩ := Option.map_eq_some_iff.mp found
  exact ⟨k, List.mem_reverse.mp (List.mem_of_find?_eq_some there), rfl⟩

/-- What holds of all fields of some models, and of the copy of a key if it holds of the key, holds
of a foreign key and of the key that it references. -/
theorem holds_of_foreignKey {P : Field → Prop} {m : Model} {models : List Model}
    {keys : List ForeignKey} (declared : ∀ m ∈ models, ∀ f ∈ m.fields, P f) (mem : m ∈ models)
    (copied : ∀ r ∈ m.relations, ∀ key f unique, P key →
      buildField { keyCopy r.expectedForeignKey key with required := r.required, unique } = .ok f →
        P f)
    (made : foreignKeys m models = .ok keys) {k : ForeignKey} (within : k ∈ keys) :
    P k.field ∧ P k.key := by
  obtain ⟨r, target, key, first, found, keyed, here⟩ := (foreignKeys_stem made).2.1 k within
  have referenced : P key :=
    declared target (Model.mem_of_find? found) key (Model.mem_of_referenceKey keyed)
  obtain ⟨same, ⟨own, _⟩ | ⟨_, _, synthesized⟩⟩ := foreignKeyOf_cases here
  · exact ⟨declared m mem _ (List.mem_of_find?_eq_some own), same ▸ referenced⟩
  · have relation := List.mem_of_mem_filter (List.mem_of_find?_eq_some first)
    exact ⟨copied r relation key _ _ referenced synthesized, same ▸ referenced⟩

/-- The key that the foreign key field of a name references: that of the target of the first
relation that uses the field. -/
def keyBehind (m : Model) (models : List Model) (name : String) : Option Field :=
  ((m.relationsOf .belongsTo).find? (·.expectedForeignKey == name)).bind fun r =>
    (Model.find? models r.target).bind (·.referenceKey)

theorem Stems.keyBehind {m : Model} {models : List Model} {made : ForeignKey}
    (stem : Stems m models (m.relationsOf .belongsTo) made) :
    keyBehind m models made.field.name = some made.key := by
  obtain ⟨r, target, key, first, found, referenced, here⟩ := stem
  unfold Resolver.keyBehind
  rw [first, Option.bind_some, found, Option.bind_some, referenced, (foreignKeyOf_cases here).1]

/-- Among the foreign keys of a model a field references the key behind it. -/
theorem referencedKey_eq {m : Model} {models : List Model} {keys : List ForeignKey}
    (h : foreignKeys m models = .ok keys) (name : String) :
    referencedKey keys name = keyBehind m models name := by
  obtain ⟨_, stems, uses⟩ := foreignKeys_stem h
  unfold referencedKey
  cases found : keys.reverse.find? (·.field.name == name) with
  | some made =>
    have mem : made ∈ keys := List.mem_reverse.mp (List.mem_of_find?_eq_some found)
    have named : made.field.name = name := eq_of_beq (List.find?_some found :)
    rw [← named, (stems made mem).keyBehind]
    rfl
  | none =>
    have unused : (m.relationsOf .belongsTo).find? (·.expectedForeignKey == name) = none := by
      apply List.find?_eq_none.mpr
      intro r within same
      obtain ⟨declared, belongs⟩ := List.mem_filter.mp within
      obtain ⟨made, mem, named⟩ := uses r declared belongs
      exact List.find?_eq_none.mp found made (List.mem_reverse.mpr mem)
        (beq_iff_eq.mpr (named.trans (eq_of_beq same)))
    unfold keyBehind
    rw [unused]
    rfl

/-! ## Making foreign keys -/

/-- The foreign key of a relation is declared, or made from a key that was checked. -/
theorem exists_foreignKeyOf {m : Model} {r : Relation} (target : Model) {key : Field}
    (h : (m.field? r.expectedForeignKey).isSome ∨ key.Checked) :
    ∃ made, foreignKeyOf m r target key = .ok made := by
  unfold foreignKeyOf
  cases declared : m.field? r.expectedForeignKey with
  | some field => exact ⟨_, rfl⟩
  | none =>
    have checked := h.resolve_left fun some => by
      rw [declared] at some
      cases some
    unfold synthesize
    simp only [buildField_keyCopy checked]
    exact ⟨_, rfl⟩

theorem exists_foreignKeysFrom {m : Model} {models : List Model} (seen : List String)
    {rs : List Relation} (h : ∀ r ∈ rs, Referable m models r) :
    ∃ keys, foreignKeysFrom m models seen rs = .ok keys := by
  induction rs generalizing seen with
  | nil => exact ⟨[], rfl⟩
  | cons r rest ih =>
    obtain ⟨target, key, found, keyed, makeable⟩ := h r List.mem_cons_self
    have later (seen : List String) := ih seen fun r' mem => h r' (List.mem_cons_of_mem r mem)
    unfold foreignKeysFrom
    simp only [found, keyed]
    split
    · exact later seen
    · obtain ⟨made, here⟩ := exists_foreignKeyOf target makeable
      obtain ⟨keys, done⟩ := later (r.expectedForeignKey :: seen)
      refine ⟨made :: keys, ?_⟩
      rw [here, Outcome.ok_bind, done]
      rfl

/-- The foreign keys of a model are made, one of the expected name for each relation. -/
theorem exists_foreignKeys {m : Model} {models : List Model}
    (h : ∀ r ∈ m.relations, r.isBelongsTo = true → Referable m models r) :
    ∃ keys, foreignKeys m models = .ok keys ∧ ∀ r ∈ m.relations, r.isBelongsTo = true →
      ∃ made ∈ keys, made.field.name = r.expectedForeignKey := by
  obtain ⟨keys, done⟩ := exists_foreignKeysFrom [] fun r mem =>
    h r (List.mem_of_mem_filter mem) (List.of_mem_filter mem)
  exact ⟨keys, done, (foreignKeys_stem done).2.2⟩

end SchemaCompiler.Resolver
