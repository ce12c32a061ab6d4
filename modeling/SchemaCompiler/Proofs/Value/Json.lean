import Mathlib.Data.List.Perm.Basic
import Mathlib.Data.String.Basic
import SchemaCompiler.Proofs.Value.Literal
import SchemaCompiler.Proofs.Value.Sorting
import SchemaCompiler.Value.Json

/-!
# Values that JSON has

Null, truth values, integers, texts, lists and dictionaries under distinct names are written,
however the layout is, unless an integer has too many digits (`toJson_endsIf`). A dictionary is
written entry by entry, in an order that is one of its own entries (`exists_entryTexts`). Where the
layout sorts keys, that order is the same for all dictionaries of the same entries, so values that
differ in the order of entries alone, at any depth, are written alike (`Reordered.toJson_eq`).
-/

set_option autoImplicit false

namespace SchemaCompiler.Value

open Outcome (EndsIf)

/-- A value that JSON has, with texts as the keys of dictionaries. -/
inductive IsJson : Value → Prop
  | null : IsJson null
  | bool (b : Bool) : IsJson (bool b)
  | int (n : Int) : IsJson (int n)
  | str (s : String) : IsJson (str s)
  | list {items : List Value} (each : ∀ v ∈ items, IsJson v) : IsJson (list items)
  | dict {entries : List (Value × Value)} (named : ∀ e ∈ entries, ∃ s, e.1 = .str s)
    (distinct : (entries.map (·.1)).Nodup) (each : ∀ e ∈ entries, IsJson e.2) :
    IsJson (dict entries)

/-- Two values are equal up to the order of the entries of dictionaries. -/
inductive Reordered : Value → Value → Prop
  | refl (v : Value) : Reordered v v
  | trans {u v w : Value} (first : Reordered u v) (second : Reordered v w) : Reordered u w
  | entries {entries others : List (Value × Value)} (perm : entries.Perm others) :
    Reordered (dict entries) (dict others)
  | item {v w : Value} (before after : List Value) (changed : Reordered v w) :
    Reordered (list (before ++ v :: after)) (list (before ++ w :: after))
  | entry {v w : Value} (before after : List (Value × Value)) (key : Value)
    (changed : Reordered v w) :
    Reordered (dict (before ++ (key, v) :: after)) (dict (before ++ (key, w) :: after))

variable {v w : Value} {items others : List Value} {entries : List (Value × Value)}
  {layout : JsonLayout}

theorem isJson_list_iff : IsJson (list items) ↔ ∀ v ∈ items, IsJson v :=
  ⟨fun | .list each => each, .list⟩

theorem isJson_dict_iff : IsJson (dict entries) ↔ (∀ e ∈ entries, ∃ s, e.1 = .str s) ∧
    (entries.map (·.1)).Nodup ∧ ∀ e ∈ entries, IsJson e.2 :=
  ⟨fun | .dict named distinct each => ⟨named, distinct, each⟩,
    fun ⟨named, distinct, each⟩ => .dict named distinct each⟩

/-! ## Order of entries -/

namespace Reordered

/-- Lists of values that differ in the order of entries. -/
theorem of_items (each : List.Forall₂ Reordered items others) :
    Reordered (list items) (list others) := by
  -- the items are changed one by one, behind those that were changed before
  suffices rest : ∀ before, Reordered (list (before ++ items)) (list (before ++ others)) from
    rest []
  intro before
  induction each generalizing before with
  | nil => exact .refl _
  | @cons v w items others changed _ ih =>
    refine .trans (.item before items changed) ?_
    have later := ih (before ++ [w])
    rwa [List.append_assoc, List.append_assoc] at later

/-- Dictionaries under the same keys of values that differ in the order of entries. -/
theorem of_values {others : List (Value × Value)}
    (each : List.Forall₂ (fun e e' => e.1 = e'.1 ∧ Reordered e.2 e'.2) entries others) :
    Reordered (dict entries) (dict others) := by
  suffices rest : ∀ before, Reordered (dict (before ++ entries)) (dict (before ++ others)) from
    rest []
  intro before
  induction each generalizing before with
  | nil => exact .refl _
  | @cons e e' entries others changed _ ih =>
    obtain ⟨key, v⟩ := e
    obtain ⟨key', w⟩ := e'
    obtain ⟨rfl, changed⟩ := changed
    refine .trans (.entry before entries key changed) ?_
    have later := ih (before ++ [(key, w)])
    rwa [List.append_assoc, List.append_assoc] at later

/-- A value stays one that JSON has. -/
theorem isJson (reordered : Reordered v w) (json : IsJson v) : IsJson w := by
  induction reordered with
  | refl => exact json
  | trans _ _ first second => exact second (first json)
  | entries perm =>
    obtain ⟨named, distinct, each⟩ := isJson_dict_iff.mp json
    exact .dict (fun e mem => named e (perm.symm.subset mem))
      ((perm.map _).nodup_iff.mp distinct) fun e mem => each e (perm.symm.subset mem)
  | item before after _ ih =>
    rw [isJson_list_iff, List.forall_mem_append, List.forall_mem_cons] at json ⊢
    exact ⟨json.1, ih json.2.1, json.2.2⟩
  | entry before after key _ ih =>
    rw [isJson_dict_iff, List.map_append, List.map_cons] at json ⊢
    simp only [List.forall_mem_append, List.forall_mem_cons] at json ⊢
    obtain ⟨named, distinct, front, here, back⟩ := json
    exact ⟨named, distinct, front, ih here, back⟩

/-- The same integers stand in a value in any order of entries. -/
theorem isShort_iff (reordered : Reordered v w) : v.IsShort ↔ w.IsShort := by
  induction reordered with
  | refl => exact .rfl
  | trans _ _ first second => exact first.trans second
  | entries perm => simp only [isShort_dict_iff, perm.mem_iff]
  | item before after _ ih =>
    simp only [isShort_list_iff, List.forall_mem_append, List.forall_mem_cons, ih]
  | entry before after key _ ih =>
    simp only [isShort_dict_iff, List.forall_mem_append, List.forall_mem_cons, ih]

end Reordered

/-! ## Writing -/

theorem itemsJson_eq (items : List Value) :
    itemsJson layout items = items.mapM (·.toJson layout) := by
  induction items with
  | nil => rfl
  | cons v rest ih =>
    unfold itemsJson
    rw [ih, List.mapM_cons]

theorem entriesJson_eq (entries : List (Value × Value)) :
    entriesJson layout entries = entries.map fun e => (e.1, e.2.toJson layout) := by
  induction entries with
  | nil => rfl
  | cons e rest ih =>
    unfold entriesJson
    rw [ih, List.map_cons]

theorem toJson_list : (list items).toJson layout = (do
    return "[" ++ layout.itemSeparator.intercalate (← items.mapM (·.toJson layout)) ++ "]") := by
  rw [toJson, itemsJson_eq]

/-- The name of an entry under a text. -/
def nameOf {α : Type} (e : Value × α) : String :=
  match e.1 with
  | str s => s
  | _ => ""

/-- Entries whose keys are texts compare by their names. -/
theorem follows_names {α : Type} {entries : List (Value × α)}
    (named : ∀ e ∈ entries, ∃ s, e.1 = .str s) :
    Sorting.Follows (fun a b : Value × α => keyLt a.1 b.1) nameOf entries := by
  intro a memA b memB
  obtain ⟨s, nameA⟩ := named a memA
  obtain ⟨t, nameB⟩ := named b memB
  change keyLt a.1 b.1 = .ok (decide (nameOf a < nameOf b))
  unfold nameOf
  rw [nameA, nameB, keyLt]

/-- Entries under distinct texts have distinct names. -/
theorem nodup_names {α : Type} {entries : List (Value × α)}
    (named : ∀ e ∈ entries, ∃ s, e.1 = .str s) (distinct : (entries.map (·.1)).Nodup) :
    (entries.map nameOf).Nodup := by
  refine (List.Nodup.of_map _ distinct).map_on fun a memA b memB same => ?_
  refine List.inj_on_of_nodup_map distinct memA memB ?_
  obtain ⟨s, nameA⟩ := named a memA
  obtain ⟨t, nameB⟩ := named b memB
  unfold nameOf at same
  rw [nameA, nameB] at same ⊢
  exact congrArg Value.str same

/-- The entries of a dictionary in the order in which a layout writes them. -/
def arrange {α : Type} (layout : JsonLayout) (entries : List (Value × α)) :
    Except JsonFailure (List (Value × α)) :=
  if layout.sortKeys then sortEntries entries else .ok entries

/-- Entries under texts are arranged in some order, which is their own where keys are not sorted.
What stands under a key makes no difference. -/
theorem exists_arrange {α β : Type} (layout : JsonLayout) {entries : List (Value × α)}
    (named : ∀ e ∈ entries, ∃ s, e.1 = .str s) (write : Value × α → Value × β)
    (keys : ∀ e, (write e).1 = e.1) :
    ∃ ordered : List (Value × α), ordered.Perm entries ∧
      (layout.sortKeys = false → ordered = entries) ∧
      arrange layout (entries.map write) = .ok (ordered.map write) := by
  unfold arrange
  split
  · next sorts =>
    have names : ∀ e ∈ entries.map write, ∃ s, e.1 = .str s := by
      refine List.forall_mem_map.mpr fun e mem => ?_
      rw [keys e]
      exact named e mem
    obtain ⟨arranged, sorted, perm, _⟩ := Sorting.exists_sort (follows_names names)
    -- what is arranged are the entries in some order, each as it is written
    obtain ⟨ordered, rfl, permO⟩ : ∃ ordered : List (Value × α),
        arranged = ordered.map write ∧ ordered.Perm entries := by
      have composed : Relation.Comp (fun a b => a = List.map write b) List.Perm arranged entries := by
        rw [List.eq_map_comp_perm]
        exact perm
      exact composed
    refine ⟨ordered, permO, fun unsorted => ?_, Outcome.mapError_ok_iff.mpr sorted⟩
    rw [unsorted] at sorts
    cases sorts
  · exact ⟨entries, .refl entries, fun _ => rfl, rfl⟩

/-- Where keys are sorted, the order of entries under distinct texts does not matter. -/
theorem arrange_of_perm {α : Type} (sorts : layout.sortKeys = true)
    {entries others : List (Value × α)} (named : ∀ e ∈ entries, ∃ s, e.1 = .str s)
    (distinct : (entries.map (·.1)).Nodup) (perm : entries.Perm others) :
    arrange layout entries = arrange layout others := by
  unfold arrange sortEntries
  rw [if_pos sorts, if_pos sorts,
    Sorting.sort_of_perm (follows_names named) (nodup_names named distinct) perm]

theorem toJson_dict : (dict entries).toJson layout = (do
    let ordered ← arrange layout (entries.map fun e => (e.1, e.2.toJson layout))
    let texts ← ordered.mapM fun e => entryText layout e.1 e.2
    return "\x7b" ++ layout.itemSeparator.intercalate texts ++ "\x7d") := by
  rw [toJson, entriesJson_eq]
  unfold arrange
  cases layout.sortKeys <;> rfl

/-- An integer is written as JSON unless it has too many digits. -/
theorem integerJson_endsIf (n : Int) :
    EndsIf (integerJson n) (.integer .tooLong) (¬ IsOverlong n) :=
  (integerText_endsIf n).mapError JsonFailure.integer

/-- An entry under a text is written if its value is. -/
theorem entryText_endsIf (s : String) (h : EndsIf (v.toJson layout) (.integer .tooLong) v.IsShort) :
    EndsIf (entryText layout (str s) (v.toJson layout)) (.integer .tooLong) v.IsShort :=
  (h.bind fun _ _ => .of_ok rfl trivial).congr (and_iff_left trivial)

/-- A dictionary under texts is written entry by entry, in some order of its entries, which is their
own where keys are not sorted. -/
theorem exists_entryTexts (named : ∀ e ∈ entries, ∃ s, e.1 = .str s) {text : Value × Value → String}
    (written : ∀ e ∈ entries, e.2.toJson layout = .ok (text e)) :
    ∃ ordered : List (Value × Value), ordered.Perm entries ∧
      (layout.sortKeys = false → ordered = entries) ∧ (dict entries).toJson layout =
      .ok ("\x7b" ++ layout.itemSeparator.intercalate (ordered.map fun e =>
        Json.quoted (nameOf e) ++ layout.keySeparator ++ text e) ++ "\x7d") := by
  let write (e : Value × Value) : Value × Except JsonFailure String := (e.1, e.2.toJson layout)
  obtain ⟨ordered, perm, kept, done⟩ := exists_arrange layout named write fun _ => rfl
  have entry (e) (mem : e ∈ ordered) : entryText layout (write e).1 (write e).2 =
      .ok (Json.quoted (nameOf e) ++ layout.keySeparator ++ text e) := by
    obtain ⟨name, key⟩ := named e (perm.subset mem)
    unfold entryText nameOf
    simp only [write, key, written e (perm.subset mem)]
    rfl
  have texts : (ordered.map write).mapM (fun e => entryText layout e.1 e.2) =
      .ok (ordered.map fun e => Json.quoted (nameOf e) ++ layout.keySeparator ++ text e) :=
    Outcome.mapM_ok_iff.mpr (List.forall₂_map_left_iff.mpr
      (List.forall₂_map_right_iff.mpr (List.forall₂_same.mpr entry)))
  refine ⟨ordered, perm, kept, ?_⟩
  rw [toJson_dict, done, Outcome.ok_bind, texts]
  rfl

/-- A value that JSON has is written in any layout, unless an integer has too many digits. -/
theorem toJson_endsIf (layout : JsonLayout) (json : IsJson v) :
    EndsIf (v.toJson layout) (.integer .tooLong) v.IsShort := by
  induction json with
  | null => exact .of_ok rfl isShort_null
  | bool b => exact .of_ok rfl (isShort_bool b)
  | int n =>
    rw [toJson]
    exact (integerJson_endsIf n).congr isShort_int_iff.symm
  | str s => exact .of_ok rfl (isShort_str s)
  | list _ ih =>
    rw [toJson_list]
    refine ((EndsIf.mapM ih).bind fun _ _ => .of_ok rfl trivial).congr ?_
    rw [and_true, isShort_list_iff]
  | @dict entries named _ _ ih =>
    let write (e : Value × Value) : Value × Except JsonFailure String := (e.1, e.2.toJson layout)
    -- entries are arranged by their keys, before any value is looked at
    obtain ⟨ordered, perm, _, arranged⟩ := exists_arrange layout named write fun _ => rfl
    have each : ∀ e ∈ ordered,
        EndsIf (entryText layout (write e).1 (write e).2) (.integer .tooLong) e.2.IsShort := by
      intro e mem
      obtain ⟨s, key⟩ := named e (perm.subset mem)
      simp only [write, key]
      exact entryText_endsIf s (ih e (perm.subset mem))
    rw [toJson_dict, arranged, Outcome.ok_bind, List.mapM_map]
    refine ((EndsIf.mapM each).bind fun _ _ => .of_ok rfl trivial).congr ?_
    rw [and_true, isShort_dict_iff]
    refine ⟨fun short e mem => ⟨?_, short e (perm.symm.subset mem)⟩,
      fun short e mem => (short e (perm.subset mem)).2⟩
    obtain ⟨s, key⟩ := named e mem
    rw [key]
    exact isShort_str s

/-- A value that JSON has can be written if no integer in it has too many digits. -/
theorem exists_toJson (layout : JsonLayout) (json : IsJson v) (short : v.IsShort) :
    ∃ text, v.toJson layout = .ok text := (toJson_endsIf layout json).ends short

/-- Where keys are sorted, values that JSON has and that differ in the order of entries alone are
written alike. -/
theorem Reordered.toJson_eq (sorts : layout.sortKeys = true) (reordered : Reordered v w)
    (json : IsJson v) : v.toJson layout = w.toJson layout := by
  induction reordered with
  | refl => rfl
  | trans first _ ihF ihS => exact (ihF json).trans (ihS (first.isJson json))
  | @entries entries others perm =>
    obtain ⟨named, distinct, _⟩ := isJson_dict_iff.mp json
    let write (e : Value × Value) : Value × Except JsonFailure String := (e.1, e.2.toJson layout)
    have names : ∀ e ∈ entries.map write, ∃ s, e.1 = .str s := List.forall_mem_map.mpr named
    have keys : ((entries.map write).map (·.1)).Nodup := by
      rw [List.map_map]
      exact distinct
    have arranged := arrange_of_perm sorts names keys (perm.map write)
    rw [toJson_dict, toJson_dict, arranged]
  | item before after _ ih =>
    have here := (List.forall_mem_append.mp (isJson_list_iff.mp json)).2
    rw [toJson_list, toJson_list, List.mapM_append, List.mapM_append, List.mapM_cons,
      List.mapM_cons, ih (here _ List.mem_cons_self)]
  | entry before after key _ ih =>
    obtain ⟨_, _, each⟩ := isJson_dict_iff.mp json
    have here := each _ (List.mem_append_right before List.mem_cons_self)
    rw [toJson_dict, toJson_dict, List.map_append, List.map_append, List.map_cons, List.map_cons,
      ih here]

end SchemaCompiler.Value
