import SchemaCompiler.Proofs.Document.Index
import SchemaCompiler.Proofs.Generation.DatabaseName
import SchemaCompiler.Proofs.Text.CamelCase
import SchemaCompiler.Proofs.Text.Separator

/-!
# Names of indexes

The directives of a block are kept apart by their columns and named by joining the column names
with underscores, which the names may hold themselves. So two directives of one kind have one name
exactly if the words of their columns are the same, however they are divided among the columns
(`indexName_eq_iff`). Directives of different kinds are marked differently, and directives over
columns that are words by themselves are told apart by their names.
-/

set_option autoImplicit false

namespace SchemaCompiler

namespace Index

/-- The words of the columns of a directive, in a row: what underscores separate in their
snake_case forms. -/
def words (i : Index) : List (List Char) :=
  i.fields.flatMap fun column => Text.pieces (Text.snakeCase column)

/-- A column that is a word by itself: nothing in it starts another one. -/
def IsWord (column : String) : Prop := Text.snakeCase column = column ∧ '_' ∉ column.toList

instance (column : String) : Decidable (IsWord column) := inferInstanceAs (Decidable (_ ∧ _))

/-- A directive of a model that has the name its columns give it. -/
def Named (table : String) (i : Index) : Prop := i = ofColumns table i.kind i.fields

variable {table : String} {i j : Index} {f : Formatter} {m : Model} {keys : List String}
  {indexes : List Index}

/-- The words of the name of a directive: its mark, those of the table and those of the columns. -/
theorem pieces_name (named : Named table i) :
    Text.pieces i.name = (mark i.kind).toList :: (Text.pieces table ++ i.words) := by
  have marked : Text.pieces (mark i.kind) = [(mark i.kind).toList] :=
    Text.pieces_of_free (by cases i.kind <;> decide)
  have joined : i.name =
      "_".intercalate (mark i.kind :: table :: i.fields.map Text.snakeCase) :=
    congrArg Index.name named
  rw [joined, Text.pieces_intercalate (List.cons_ne_nil _ _), List.flatMap_cons, List.flatMap_cons,
    marked, List.flatMap_map]
  rfl

/-- Two directives of a table have one name exactly if they are of one kind and their columns have
the same words. -/
theorem name_eq_iff (namedI : Named table i) (namedJ : Named table j) :
    i.name = j.name ↔ i.kind = j.kind ∧ i.words = j.words := by
  have marks : (mark i.kind).toList = (mark j.kind).toList ↔ i.kind = j.kind := by
    cases i.kind <;> cases j.kind <;> decide
  rw [← Text.pieces_injective.eq_iff, pieces_name namedI, pieces_name namedJ, List.cons.injEq,
    List.append_cancel_left_eq, marks]

/-- The directives of a model are named by their columns, and their columns are distinct. -/
theorem named_of_ofModel (made : ofModel f m keys = .ok indexes) :
    (∀ i ∈ indexes, Named (f.physicalTable m.table) i) ∧ (indexes.map (·.fields)).Nodup := by
  unfold ofModel at made
  split at made
  · cases made
  · obtain rfl := Except.ok.inj made
    constructor
    · intro i mem
      obtain ⟨r, _, rfl⟩ := List.mem_map.mp mem
      rfl
    · rw [List.map_map]
      exact distinct_nodup

/-- Columns that are words by themselves are the words of their directive. -/
theorem words_of_isWord (each : ∀ column ∈ i.fields, IsWord column) :
    i.words = i.fields.map String.toList := by
  unfold words
  rw [List.map_eq_flatMap]
  refine List.flatMap_congr fun column mem => ?_
  obtain ⟨same, free⟩ := each column mem
  rw [same, Text.pieces_of_free free]

/-- Columns that are words by themselves are told apart by their words. -/
theorem fields_eq_of_isWord (eachI : ∀ column ∈ i.fields, IsWord column)
    (eachJ : ∀ column ∈ j.fields, IsWord column) (same : i.words = j.words) :
    i.fields = j.fields := by
  rw [words_of_isWord eachI, words_of_isWord eachJ] at same
  exact List.map_injective_iff.mpr (fun _ _ => String.toList_injective) same

/-- Single columns in camel case are told apart by their words. -/
theorem fields_eq_of_isCamel (oneI : ∃ column, i.fields = [column] ∧ Text.IsCamel column)
    (oneJ : ∃ column, j.fields = [column] ∧ Text.IsCamel column) (same : i.words = j.words) :
    i.fields = j.fields := by
  obtain ⟨a, onlyI, camelA⟩ := oneI
  obtain ⟨b, onlyJ, camelB⟩ := oneJ
  unfold words at same
  rw [onlyI, onlyJ, List.flatMap_singleton, List.flatMap_singleton] at same
  rw [onlyI, onlyJ, Text.snakeCase_inj_of_isCamel camelA camelB (Text.pieces_injective same)]

end Index

namespace Generation

open Validation (Clean validate)

variable {o : Options} {f : Formatter} {m : Model} {models : List Model} {b : ModelBlock}

/-- The directives of a block are named by their columns, and their columns are distinct. -/
theorem named_indexes {plan : Junction.Plan} (rendered : blockUnder o f plan m models = .ok b) :
    (∀ i ∈ b.indexes, Index.Named (f.physicalTable m.table) i) ∧
      (b.indexes.map (·.fields)).Nodup := by
  obtain ⟨keys, _, rest⟩ := Outcome.bind_ok_iff.mp rendered
  obtain ⟨columns, _, rest⟩ := Outcome.bind_ok_iff.mp rest
  obtain ⟨relations, _, rest⟩ := Outcome.bind_ok_iff.mp rest
  obtain ⟨indexes, made, done⟩ := Outcome.bind_ok_iff.mp rest
  cases done
  unfold Generation.indexes at made
  split at made
  · exact Index.named_of_ofModel (Outcome.mapError_ok_iff.mp made)
  · cases made
    exact ⟨List.forall_mem_nil _, List.nodup_nil⟩

/-- Directives with distinct columns have distinct names exactly if the name of each tells its
columns. -/
theorem indexNames_nodup_iff {indexes : List Index} (distinct : (indexes.map (·.fields)).Nodup) :
    (indexes.map (·.name)).Nodup ↔
      ∀ i ∈ indexes, ∀ j ∈ indexes, i.name = j.name → i.fields = j.fields := by
  constructor
  · intro names i memI j memJ same
    rw [List.inj_on_of_nodup_map names memI memJ same]
  · intro apart
    refine (List.Nodup.of_map _ distinct).map_on fun i memI j memJ same => ?_
    exact List.inj_on_of_nodup_map distinct memI memJ (apart i memI j memJ same)

/-- Two directives of a block have one name exactly if they are of one kind and the words of their
columns are the same. So the names are distinct exactly if, among the directives of one kind, the
words tell the columns; and they do where every column is a word by itself, and where every
directive is over one column in camel case. -/
theorem indexName_eq_iff (resolver : Resolver)
    (rendered : (block o f resolver m models).1 = .ok b) :
    (∀ i ∈ b.indexes, ∀ j ∈ b.indexes, i.name = j.name ↔ i.kind = j.kind ∧ i.words = j.words) ∧
      ((b.indexes.map (·.name)).Nodup ↔ ∀ i ∈ b.indexes, ∀ j ∈ b.indexes,
        i.kind = j.kind → i.words = j.words → i.fields = j.fields) ∧
      ((∀ i ∈ b.indexes, ∀ column ∈ i.fields, Index.IsWord column) ∨
          (∀ i ∈ b.indexes, ∃ column, i.fields = [column] ∧ Text.IsCamel column) →
        (b.indexes.map (·.name)).Nodup) := by
  rw [block_fst] at rendered
  obtain ⟨named, distinct⟩ := named_indexes rendered
  have names (i) (memI : i ∈ b.indexes) (j) (memJ : j ∈ b.indexes) :
      i.name = j.name ↔ i.kind = j.kind ∧ i.words = j.words :=
    Index.name_eq_iff (named i memI) (named j memJ)
  refine ⟨names, ?_, fun legible => ?_⟩
  · rw [indexNames_nodup_iff distinct]
    refine forall₄_congr fun i memI j memJ => ?_
    rw [names i memI j memJ, and_imp]
  · refine (indexNames_nodup_iff distinct).mpr fun i memI j memJ same => ?_
    obtain ⟨_, words⟩ := (names i memI j memJ).mp same
    rcases legible with each | one
    · exact Index.fields_eq_of_isWord (each i memI) (each j memJ) words
    · exact Index.fields_eq_of_isCamel (one i memI) (one j memJ) words

/-- A meeting is looked up by its start and by its host. -/
def visit : Model :=
  { meeting with constraints := [⟨.index, ["startsAt"]⟩] }

/-- The start and the host of a visit have an index each. -/
theorem indexName_eq_iff_visit :
    ∃ b, (block unsized layout .fresh visit [customer, visit]).1 = .ok b ∧
      b.indexes.map (·.name) = ["idx_meeting_host_id", "idx_meeting_starts_at"] ∧
      (b.indexes.map (·.name)).Nodup := by
  obtain ⟨b, rendered, names, fields⟩ :
      ∃ b, (block unsized layout .fresh visit [customer, visit]).1 = .ok b ∧
        b.indexes.map (·.name) = ["idx_meeting_host_id", "idx_meeting_starts_at"] ∧
        b.indexes.map (·.fields) = [["hostId"], ["startsAt"]] :=
    ⟨_, rfl, rfl, rfl⟩
  obtain ⟨_, _, legible⟩ := indexName_eq_iff .fresh rendered
  refine ⟨b, rendered, names, legible (.inr fun i mem => ?_)⟩
  have among : i.fields ∈ [["hostId"], ["startsAt"]] := fields ▸ List.mem_map_of_mem mem
  rcases List.mem_pair.mp among with one | one
  · exact ⟨_, one, by decide⟩
  · exact ⟨_, one, by decide⟩

/-- A slot is looked up by its room and day, and by the day of its room. -/
def slot : Model :=
  { Model.entity "Slot" [] with
    fields := [Field.identifier, Field.plain "room" (some (.known .integer)),
      Field.plain "day" (some (.known .integer)), Field.plain "roomDay" (some (.known .integer))]
    constraints := [⟨.index, ["room", "day"]⟩, ⟨.index, ["roomDay"]⟩] }

/-- A slot passes validation, and two of its indexes have one name. -/
theorem slot_indexed_twice : Clean (validate [slot]) ∧
    ∃ b, (block unsized layout .fresh slot [slot]).1 = .ok b ∧
      b.indexes.map (·.fields) = [["room", "day"], ["roomDay"]] ∧
      b.indexes.map (·.name) = ["idx_slot_room_day", "idx_slot_room_day"] ∧
      ¬ (b.indexes.map (·.name)).Nodup := by
  have plain : ∀ f ∈ slot.fields, f.name ≠ "" ∧ f.type.isSome = true ∧ f.rules.isEmpty = true := by
    decide
  have fields : Clean (Validation.checkFields slot) := by
    refine Validation.checkFields_clean_iff.mpr ⟨by decide, fun f mem => ?_, by decide⟩
    obtain ⟨named, typed, ruleless⟩ := plain f mem
    exact Validation.takeable_of_plain named typed ruleless
  have sound : Validation.Sound [slot] slot :=
    ⟨by decide, by decide, by decide, fields, by decide⟩
  have clean : Clean (validate [slot]) :=
    Validation.validate_clean_iff.mpr
      ⟨List.forall_mem_singleton.mpr sound, rfl, by decide⟩
  obtain ⟨b, rendered, columns, names⟩ :
      ∃ b, (block unsized layout .fresh slot [slot]).1 = .ok b ∧
        b.indexes.map (·.fields) = [["room", "day"], ["roomDay"]] ∧
        b.indexes.map (·.name) = ["idx_slot_room_day", "idx_slot_room_day"] :=
    ⟨_, rfl, rfl, rfl⟩
  refine ⟨clean, b, rendered, columns, names, ?_⟩
  rw [names]
  decide

end Generation

end SchemaCompiler
