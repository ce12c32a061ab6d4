import Mathlib.Data.List.Induction
import SchemaCompiler.Proofs.Value.Json

/-!
# Entries of dictionaries

A name stands for the last entry that has it, so a dictionary that goes on is looked up from behind
(`lookup?_append`). Where names are distinct each entry is found under its own, and of entries that
are left out when their value holds nothing, those that are left (`lookup?_present`).
-/

set_option autoImplicit false

namespace SchemaCompiler.Value

variable {v : Value} {name : String} {entries : List (String × Value)}

/-! ## Lookups -/

@[simp] theorem lookup?_nil (key : String) : lookup? [] key = none := rfl

/-- Later entries override earlier ones. -/
theorem lookup?_append (earlier later : List (Value × Value)) (key : String) :
    lookup? (earlier ++ later) key = (lookup? later key).or (lookup? earlier key) := by
  unfold lookup?
  rw [List.foldl_append]
  generalize earlier.foldl _ none = found
  induction later using List.reverseRecOn with
  | nil => rfl
  | append_singleton later e ih =>
    simp only [List.foldl_append, List.foldl_cons, List.foldl_nil]
    split
    · split
      · rfl
      · exact ih
    · exact ih

/-- A later entry of a dictionary overrides the first one. -/
@[simp] theorem lookup?_cons (name key : String) (v : Value) (rest : List (Value × Value)) :
    lookup? ((.str name, v) :: rest) key =
      (lookup? rest key).or (if name = key then some v else none) := by
  have first : lookup? [(.str name, v)] key = if name = key then some v else none := by
    simp [lookup?]
  rw [← first, ← lookup?_append, List.singleton_append]

/-! ## Entries under names -/

/-- Entries under names as a dictionary has them. -/
def underNames (entries : List (String × Value)) : List (Value × Value) :=
  entries.map fun (name, v) => (.str name, v)

theorem record_eq (entries : List (String × Value)) :
    record entries = .dict (underNames entries) := rfl

theorem underNames_append (front back : List (String × Value)) :
    underNames (front ++ back) = underNames front ++ underNames back :=
  List.map_append

theorem keys_underNames (entries : List (String × Value)) :
    (underNames entries).map (·.1) = (entries.map (·.1)).map .str := by
  unfold underNames
  rw [List.map_map, List.map_map]
  rfl

/-- A dictionary under distinct names is a value that JSON has if what it holds is. -/
theorem isJson_record (distinct : (entries.map (·.1)).Nodup) (each : ∀ e ∈ entries, e.2.IsJson) :
    (record entries).IsJson := by
  rw [record_eq]
  refine .dict ?_ ?_ ?_
  · exact List.forall_mem_map.mpr fun e _ => ⟨e.1, rfl⟩
  · rw [keys_underNames]
    exact distinct.map fun _ _ same => Value.str.inj same
  · exact List.forall_mem_map.mpr each

/-- A dictionary under names holds the integers of its values. -/
theorem isShort_record_iff : (record entries).IsShort ↔ ∀ e ∈ entries, e.2.IsShort := by
  rw [record_eq, isShort_dict_iff, underNames, List.forall_mem_map]
  simp only [isShort_str, true_and]

theorem lookup?_underNames_eq_none (absent : name ∉ entries.map (·.1)) :
    lookup? (underNames entries) name = none := by
  induction entries with
  | nil => rfl
  | cons e rest ih =>
    rw [List.map_cons, List.mem_cons, not_or] at absent
    have first : lookup? (underNames (e :: rest)) name =
        (lookup? (underNames rest) name).or (if e.1 = name then some e.2 else none) :=
      lookup?_cons ..
    rw [first, ih absent.2, if_neg (Ne.symm absent.1)]
    rfl

/-- The entries whose values are present. -/
def present (entries : List (String × Value)) : List (String × Value) :=
  entries.filter (·.2.isPresent)

theorem present_append (front back : List (String × Value)) :
    present (front ++ back) = present front ++ present back :=
  List.filter_append ..

/-- Entries that are left out hold no integer that could be too long. -/
theorem isShort_present_iff :
    (∀ e ∈ present entries, e.2.IsShort) ↔ ∀ e ∈ entries, e.2.IsShort := by
  refine ⟨fun short e mem => ?_, fun short e mem => short e (List.mem_of_mem_filter mem)⟩
  cases here : e.2.isPresent with
  | false => exact isShort_of_absent here
  | true => exact short e (List.mem_filter.mpr ⟨mem, here⟩)

theorem names_present (entries : List (String × Value)) :
    ((present entries).map (·.1)).Sublist (entries.map (·.1)) :=
  List.filter_sublist.map _

/-- Among entries of distinct names each is found under its name as long as its value is present. -/
theorem lookup?_present (distinct : (entries.map (·.1)).Nodup) (mem : (name, v) ∈ entries) :
    lookup? (underNames (present entries)) name = if v.isPresent then some v else none := by
  induction entries with
  | nil => cases mem
  | cons e rest ih =>
    obtain ⟨new, distinct⟩ := List.nodup_cons.mp distinct
    have later (key : String) (w : Value) :
        lookup? (underNames ((key, w) :: present rest)) name =
          (lookup? (underNames (present rest)) name).or (if key = name then some w else none) :=
      lookup?_cons ..
    rcases List.mem_cons.mp mem with rfl | within
    · have none : lookup? (underNames (present rest)) name = none :=
        lookup?_underNames_eq_none fun again => new ((names_present rest).subset again)
      unfold present at later none ⊢
      rw [List.filter_cons]
      split
      · rw [later, none, if_pos rfl]
        rfl
      · exact none
    · have other : e.1 ≠ name := by
        rintro rfl
        exact new (List.mem_map.mpr ⟨_, within, rfl⟩)
      have found := ih distinct within
      unfold present at later found ⊢
      rw [List.filter_cons]
      split
      · rw [later, found, if_neg other, Option.or_none]
      · exact found

end SchemaCompiler.Value
