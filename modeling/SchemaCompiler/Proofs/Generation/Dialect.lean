import SchemaCompiler.Proofs.Column.Dialect
import SchemaCompiler.Proofs.Generation.Closure
import SchemaCompiler.Proofs.Generation.ForeignKey

/-!
# Documents in two dialects

The dialect decides how columns are typed and how tables are named, and nothing of the logical
schema: in any two dialects a model has blocks of one outline, or no block (`blockUnder_agrees`).
There is one way out. A negative length limit may have too many digits to be written, and validation
does not write it; a dialect with native types then leaves the model out, and one without native
types does not. Wherever that does not happen, two documents leave out the same models and show the
same outlines in the same order (`logical_schema_agrees`).
-/

set_option autoImplicit false

namespace SchemaCompiler

/-- What a block says in every dialect. -/
structure BlockOutline where
  name : String
  columns : List ColumnOutline
  relations : List Column
  compositeKey : List String
  /-- The kinds and the columns of the indexes, without their names. -/
  indexes : List (ConstraintKind × List String)
  deriving DecidableEq, Inhabited, Repr

/-- The outline of a block. -/
def ModelBlock.outline (b : ModelBlock) : BlockOutline :=
  ⟨b.name, b.columns.map (·.outline), b.relations, b.compositeKey,
    b.indexes.map fun i => (i.kind, i.fields)⟩

/-- The same options for another dialect. -/
def Options.inDialect (o : Options) (d : Dialect) : Options := { o with dialect := d }

/-! ## Length limits -/

section Limits

variable {models : List Model} {m : Model} {f key : Field}

namespace Validation

/-- The length limits of valid models can be read. -/
theorem limitedBy_of_clean (clean : Clean (validate models)) (mem : m ∈ models)
    (within : f ∈ m.fields) : f.LimitedBy models := by
  have sound := (validate_clean_iff.mp clean).1 m mem
  obtain ⟨_, takeable, _⟩ := checkFields_clean_iff.mp sound.fields
  obtain ⟨limit, sized, _⟩ := (takeable f within).limited
  exact ⟨limit, sized, fun n same => ⟨m, mem, f, within, same ▸ sized⟩⟩

end Validation

namespace Resolver

/-- A copy of a key has the limit of the key. -/
theorem maxLength_keyCopy (name : String) (key : Field) :
    (keyCopy name key).maxLength = key.maxLength := by
  have rule : (keyCopy name key).rule? .maxLength = key.rule? .maxLength := by
    unfold Field.rule? keyCopy Field.lengthRules
    rw [List.find?_filter]
    simp only [and_self, Bool.decide_eq_true]
  unfold Field.maxLength
  rw [rule]

theorem limitedBy_of_copy {name : String} {required unique : Bool}
    (limited : key.LimitedBy models)
    (built : buildField { keyCopy name key with required, unique } = .ok f) :
    f.LimitedBy models := by
  obtain ⟨limit, sized, among⟩ := limited
  obtain ⟨type, rfl⟩ := exists_type_of_buildField built
  exact ⟨limit, (maxLength_keyCopy name key).trans sized, among⟩

variable {junctions : List Model}

/-- The limits of synthesized models are those of declared ones. -/
theorem limitedBy_of_junction (limited : ∀ m ∈ models, ∀ f ∈ m.fields, f.LimitedBy models)
    (made : requiredJunctions models = .ok junctions) (mem : m ∈ junctions)
    (within : f ∈ m.fields) : f.LimitedBy models := by
  obtain ⟨j, _, own⟩ := Outcome.exists_of_mem_right made mem
  obtain ⟨s, _, here⟩ := Outcome.exists_of_mem_right (junctionModel_ok own).2.2 within
  obtain ⟨p, key, found, keyed, built⟩ := sideField_ok here
  have referenced := limited p (Model.mem_of_find? found) key (Model.mem_of_referenceKey keyed)
  exact limitedBy_of_copy referenced built

/-- The limits of foreign keys and of the keys that they reference are those of fields. -/
theorem limitedBy_of_foreignKey {all : List Model}
    (limited : ∀ m ∈ all, ∀ f ∈ m.fields, f.LimitedBy models) (mem : m ∈ all)
    {keys : List ForeignKey} (made : foreignKeys m all = .ok keys) {k : ForeignKey}
    (within : k ∈ keys) : k.field.LimitedBy models ∧ k.key.LimitedBy models := by
  exact holds_of_foreignKey limited mem (fun _ _ _ _ _ => limitedBy_of_copy) made within

end Resolver

end Limits

namespace Generation

open Junction (Plan)
open Resolver (requiredJunctions)
open Validation (Clean validate)

variable {o : Options} {a b : Dialect} {models all : List Model} {m : Model} {f f' : Formatter}

/-! ## Blocks -/

/-- Columns that have the same outlines one by one. -/
def SameOutlines (cs cs' : List Column) : Prop := cs.map Column.outline = cs'.map Column.outline

/-- In any two dialects the columns of a model have the same outlines. -/
theorem columns_agree (limited : ∀ f ∈ m.fields, f.LimitedBy models) {keys : List ForeignKey}
    (keyed : ∀ k ∈ keys, k.field.LimitedBy models ∧ k.key.LimitedBy models) :
    Agree (OneSided a b models) SameOutlines (columns (o.inDialect a) m keys)
      (columns (o.inDialect b) m keys) := by
  let first := mapperOf (o.inDialect a)
  let second := mapperOf (o.inDialect b)
  have declared : Agree (OneSided a b models) SameOutlines
      (first.mapFields m (Resolver.referencedKey keys))
      (second.mapFields m (Resolver.referencedKey keys)) := by
    refine Agree.mapM fun f mem => FieldMapper.mapField_agrees (limited f mem) _ ?_ m.name
    intro key found
    obtain ⟨k, there, rfl⟩ := Resolver.exists_of_referencedKey found
    exact (keyed k there).2
  have synthesized : Agree (OneSided a b models) SameOutlines
      ((synthesizedKeys keys).mapM (keyColumn first m))
      ((synthesizedKeys keys).mapM (keyColumn second m)) := by
    refine Agree.mapM fun k mem => ?_
    obtain ⟨own, other⟩ := keyed k (List.mem_of_mem_filter mem)
    have follows (key : Field) (is : some k.key = some key) : key.LimitedBy models :=
      Option.some.inj is ▸ other
    exact FieldMapper.mapField_agrees own ⟨false, false, some k.key⟩ follows m.name
  have audit : Agree (OneSided a b models) SameOutlines (auditColumnsOf (o.inDialect a) m keys)
      (auditColumnsOf (o.inDialect b) m keys) := by
    rw [auditColumnsOf_eq, auditColumnsOf_eq]
    exact Agree.mapM fun name _ => FieldMapper.auditColumn_agrees o.auditActorType name
  refine declared.bind fun _ _ same => synthesized.bind fun _ _ same' =>
    audit.bind fun _ _ same'' => .ok ?_
  unfold SameOutlines at same same' same'' ⊢
  simp only [List.map_append, same, same', same'']

/-- In any two dialects the indexes of a model have the same kinds and columns. -/
theorem indexes_agree {excused : BlockFailure → Prop} (keys : List ForeignKey) :
    Agree excused (fun is is' => is.map (fun i : Index => (i.kind, i.fields)) =
        is'.map fun i : Index => (i.kind, i.fields))
      (indexes (o.inDialect a) f m keys) (indexes (o.inDialect b) f' m keys) := by
  unfold indexes Index.ofModel
  show Agree _ _ (if o.includeIndexes then _ else _) (if o.includeIndexes then _ else _)
  split
  · split
    · exact .error _ _
    · refine .ok ?_
      simp only [List.map_map]
      rfl
  · exact .ok rfl

/-- In any two dialects a model has blocks of one outline or no block, unless only one of them
writes native types and a length limit has too many digits. -/
theorem blockUnder_agrees (limited : ∀ m ∈ all, ∀ f ∈ m.fields, f.LimitedBy models)
    (mem : m ∈ all) (plan : Plan) :
    Agree (OneSided a b models) (fun c c' : ModelBlock => c.outline = c'.outline)
      (blockUnder (o.inDialect a) f plan m all) (blockUnder (o.inDialect b) f' plan m all) := by
  unfold blockUnder
  cases made : Resolver.foreignKeys m all with
  | error e => exact .error e e
  | ok keys =>
    simp only [Outcome.ok_bind]
    have keyed := fun k => Resolver.limitedBy_of_foreignKey limited mem made (k := k)
    refine (columns_agree (limited m mem) keyed).bind fun columns columns' same => ?_
    unfold SameOutlines at same
    unfold assembleBlock
    refine (Agree.refl _).bind fun relations _ equal => ?_
    refine (indexes_agree keys).bind fun indexes indexes' same' => .ok ?_
    unfold ModelBlock.outline
    simp only [same, equal, same']

/-! ## Documents -/

/-- The models of a draft in the order of the attempts. -/
def inOrder (models junctions : List Model) : List Model :=
  (groupAll models junctions).flatMap (·.2)

theorem attempts_eq (o : Options) (plan : Plan) (models junctions : List Model) :
    (Draft.under o plan models junctions).attempts = (inOrder models junctions).map fun m =>
      ⟨m, blockUnder o (Draft.under o plan models junctions).formatter plan m
        (models ++ junctions)⟩ := by
  unfold Draft.attempts Draft.under inOrder
  simp only [List.flatMap_map, List.map_flatMap]

theorem mem_of_mem_inOrder {junctions : List Model} (mem : m ∈ inOrder models junctions) :
    m ∈ models ++ junctions := by
  rw [← assigned_models]
  obtain ⟨g, grouped, within⟩ := List.mem_flatMap.mp mem
  have listed : (g.1, m) ∈ assigned models junctions :=
    (groupByKey_perm (assigned models junctions)).mem_iff.mp
      (List.mem_flatMap.mpr ⟨g, grouped, List.mem_map_of_mem within⟩)
  exact List.mem_map_of_mem listed

/-- The length limits of the fields of valid models and of their junctions can be read, and stem
from the models. -/
theorem limitedBy_of_made {junctions : List Model} (clean : Clean (validate models))
    (made : requiredJunctions models = .ok junctions) :
    ∀ m ∈ models ++ junctions, ∀ f ∈ m.fields, f.LimitedBy models := by
  have declared : ∀ m ∈ models, ∀ f ∈ m.fields, f.LimitedBy models :=
    fun m mem f within => Validation.limitedBy_of_clean clean mem within
  intro m mem f within
  rcases List.mem_append.mp mem with own | synthesized
  · exact declared m own f within
  · exact Resolver.limitedBy_of_junction declared made synthesized within

/-- The attempts at one model agree. -/
structure AttemptsAgree (excused : BlockFailure → Prop) (x y : Attempt) : Prop where
  model : x.model = y.model
  outcome : Agree excused (fun c c' : ModelBlock => c.outline = c'.outline) x.outcome y.outcome

/-- Attempts that agree without an excuse leave out the same models and come to the same
outlines. -/
theorem failures_and_outlines_eq {excused : BlockFailure → Prop} {xs ys : List Attempt}
    (paired : List.Forall₂ (AttemptsAgree excused) xs ys) (none : ∀ e, ¬ excused e) :
    (xs.filterMap fun x => x.failure?.map fun e => (x.model, e)).map (·.1.name) =
        (ys.filterMap fun y => y.failure?.map fun e => (y.model, e)).map (·.1.name) ∧
      (xs.filterMap (·.block?)).map (·.outline) = (ys.filterMap (·.block?)).map (·.outline) := by
  induction paired with
  | nil => exact ⟨rfl, rfl⟩
  | @cons x y xs ys here _ ih =>
    obtain ⟨model, outcome⟩ := x
    obtain ⟨_, outcome'⟩ := y
    obtain ⟨rfl, agree⟩ := here
    obtain ⟨failures, outlines⟩ := ih
    cases agree with
    | ok same => exact ⟨failures, congrArg₂ List.cons same outlines⟩
    | error e e' => exact ⟨congrArg (List.cons _) failures, outlines⟩
    | left alone _ => exact absurd alone (none _)
    | right _ alone => exact absurd alone (none _)

variable {now : Timestamp} {baseline : Option String} {doc doc' : Document} {d d' : Draft}

/-- The drafts in two dialects attempt the same models in the same order, and the attempts agree. -/
theorem WrittenFrom.attempts_agree
    (first : WrittenFrom (o.inDialect a) now models baseline doc d)
    (second : WrittenFrom (o.inDialect b) now models baseline doc' d') :
    List.Forall₂ (AttemptsAgree (OneSided a b models)) d.attempts d'.attempts := by
  have junctions : d.junctions = d'.junctions :=
    Except.ok.inj (first.junctions.symm.trans second.junctions)
  have limited := limitedBy_of_made first.clean first.junctions
  rw [first.eq_under, second.eq_under, ← junctions, attempts_eq, attempts_eq,
    List.forall₂_map_left_iff, List.forall₂_map_right_iff, List.forall₂_same]
  intro m mem
  exact ⟨rfl, blockUnder_agrees limited (mem_of_mem_inOrder mem) _⟩

/-- A generation in one dialect yields a document exactly if it does in another. -/
theorem exists_document_inDialect (a b : Dialect)
    (done : ∃ doc, (generate (o.inDialect a) .fresh now models baseline).result = .ok doc) :
    ∃ doc, (generate (o.inDialect b) .fresh now models baseline).result = .ok doc := by
  obtain ⟨doc, done⟩ := done
  obtain ⟨d, from'⟩ := exists_draft done
  obtain ⟨made, _, dated, _⟩ := from'.written
  have dated : Document.stamp (o.inDialect b) now = .ok made := dated
  exact exists_document from'.clean from'.junctions dated baseline

/-- In two dialects the same models yield a document. Their drafts attempt the same models in the
same order, and at each model come to blocks of one outline or to none. Where they do not, the one
dialect writes native types and the other does not, and the one leaves the model out because a
length limit has too many digits to be written. So the documents leave out the same models and show
the same outlines in the same order, if both dialects write native types or neither does, or if
every length limit can be written. -/
theorem logical_schema_agrees (a b : Dialect) (o : Options) (now : Timestamp) (models : List Model)
    (baseline : Option String) :
    ((∃ doc, (generate (o.inDialect a) .fresh now models baseline).result = .ok doc) ↔
      ∃ doc, (generate (o.inDialect b) .fresh now models baseline).result = .ok doc) ∧
    ∀ doc doc', (generate (o.inDialect a) .fresh now models baseline).result = .ok doc →
      (generate (o.inDialect b) .fresh now models baseline).result = .ok doc' →
      ∃ d d', WrittenFrom (o.inDialect a) now models baseline doc d ∧
        WrittenFrom (o.inDialect b) now models baseline doc' d' ∧
        List.Forall₂ (AttemptsAgree (OneSided a b models)) d.attempts d'.attempts ∧
        ((Profile.ofDialect a).hasNativeTypes = (Profile.ofDialect b).hasNativeTypes ∨
            (∀ n, LimitAmong models n → ¬ IsOverlong n) →
          doc.skipped = doc'.skipped ∧ d.contributions.map (·.2.outline) =
            d'.contributions.map (·.2.outline)) := by
  refine ⟨⟨exists_document_inDialect a b, exists_document_inDialect b a⟩, ?_⟩
  intro doc doc' done done'
  obtain ⟨d, first⟩ := exists_draft done
  obtain ⟨d', second⟩ := exists_draft done'
  have paired := first.attempts_agree second
  refine ⟨d, d', first, second, paired, fun alike => ?_⟩
  have none : ∀ e, ¬ OneSided a b models e := by
    rintro e ⟨_, differ, n, among, long⟩
    rcases alike with native | short
    · exact differ native
    · exact short n among long
  obtain ⟨failures, outlines⟩ := failures_and_outlines_eq paired none
  rw [← Draft.contributions_blocks, ← Draft.contributions_blocks, List.map_map,
    List.map_map] at outlines
  rw [first.skipped_eq, second.skipped_eq]
  exact ⟨failures, outlines⟩

/-- The documents of a restaurant in MySQL and in SQLite leave out the kitchen and show the same
outlines. -/
theorem logical_schema_agrees_restaurant : Clean (validate restaurant) ∧
    (∀ n, LimitAmong restaurant n → ¬ IsOverlong n) ∧ ∃ doc doc',
      (generate (Options.standard.inDialect .mysql) .fresh (.whole 0) restaurant none).result =
        .ok doc ∧
      (generate (Options.standard.inDialect .sqlite) .fresh (.whole 0) restaurant none).result =
        .ok doc' ∧
      ∃ d d', WrittenFrom (Options.standard.inDialect .mysql) (.whole 0) restaurant none doc d ∧
        WrittenFrom (Options.standard.inDialect .sqlite) (.whole 0) restaurant none doc' d' ∧
        doc.skipped = doc'.skipped ∧
        d.contributions.map (·.2.outline) = d'.contributions.map (·.2.outline) := by
  have limitless : ∀ n, LimitAmong restaurant n → ¬ IsOverlong n := by
    rintro n ⟨m, mem, f, within, sized⟩
    have ruleless : ∀ m ∈ restaurant, ∀ f ∈ m.fields, f.rules.isEmpty = true := by decide
    unfold Field.maxLength Field.rule? at sized
    rw [List.isEmpty_iff.mp (ruleless m mem f within)] at sized
    cases sized
  have made : requiredJunctions restaurant = .ok [] := rfl
  have dated (d : Dialect) : Document.stamp (Options.standard.inDialect d) (.whole 0) = .ok none :=
    rfl
  obtain ⟨doc, done⟩ := exists_document restaurant_clean made (dated .mysql) none
  obtain ⟨exists', agree⟩ :=
    logical_schema_agrees .mysql .sqlite .standard (.whole 0) restaurant none
  obtain ⟨doc', done'⟩ := exists'.mp ⟨doc, done⟩
  obtain ⟨d, d', first, second, _, same⟩ := agree doc doc' done done'
  obtain ⟨skipped, outlines⟩ := same (.inr limitless)
  exact ⟨restaurant_clean, limitless, doc, doc', done, done', d, d', first, second, skipped,
    outlines⟩

/-- A parcel has a label whose length limit is negative and has more digits than can be written. -/
def parcel : Model :=
  { Model.entity "Parcel" [] with
    fields := [Field.identifier, { Field.plain "label" (some (.known .string)) with
      rules := [⟨.maxLength, .decimal (.finite true 1 4300), none⟩] }] }

/-- The document of a parcel in MySQL leaves it out, the one in SQLite does not. -/
theorem parcel_left_out_in_mysql : ([parcel].map (·.name)).Nodup ∧ Clean (validate [parcel]) ∧
    ∃ doc doc',
      (generate (Options.standard.inDialect .mysql) .fresh (.whole 0) [parcel] none).result =
        .ok doc ∧
      (generate (Options.standard.inDialect .sqlite) .fresh (.whole 0) [parcel] none).result =
        .ok doc' ∧ doc.skipped ≠ doc'.skipped := by
  have clean : Clean (validate [parcel]) := by decide +kernel
  have made : requiredJunctions [parcel] = .ok [] := rfl
  have dated (d : Dialect) : Document.stamp (Options.standard.inDialect d) (.whole 0) = .ok none :=
    rfl
  obtain ⟨doc, done⟩ := exists_document clean made (dated .mysql) none
  obtain ⟨doc', done'⟩ := exists_document clean made (dated .sqlite) none
  obtain ⟨d, first⟩ := exists_draft done
  obtain ⟨d', second⟩ := exists_draft done'
  have none : d.junctions = [] := (Except.ok.inj (made.symm.trans first.junctions)).symm
  have none' : d'.junctions = [] := (Except.ok.inj (made.symm.trans second.junctions)).symm
  refine ⟨by decide, clean, doc, doc', done, done', ?_⟩
  rw [first.skipped_eq, second.skipped_eq, first.eq_under, second.eq_under, none, none']
  decide +kernel

end Generation

end SchemaCompiler
