import SchemaCompiler.Proofs.Outcome
import SchemaCompiler.Value.Literal

/-!
# Integers that cannot be written

An integer can be written unless it has too many digits (`integerText_endsIf`). What is shown of a
value shows all its integers, also those in the keys of dictionaries, so a value has a literal
exactly if each of them can be written (`literal?_endsIf`), which is to be short (`IsShort`).
-/

set_option autoImplicit false

namespace SchemaCompiler

open Outcome (EndsIf)

/-- A number has too many digits to be written. -/
def IsOverlong (n : Int) : Prop := Nat.pow 10 digitLimit ≤ n.natAbs

/-- A number of few digits can be written. -/
theorem not_isOverlong_of_lt {n : Int} {k : Nat} (few : k ≤ digitLimit)
    (small : n.natAbs < Nat.pow 10 k) : ¬ IsOverlong n := by
  unfold IsOverlong
  generalize digitLimit = limit at few
  exact Nat.not_le.mpr (Nat.lt_of_lt_of_le small (Nat.pow_le_pow_right (by decide) few))

/-- The least power of ten with too many digits. -/
theorem isOverlong_pow : IsOverlong (Int.pow 10 digitLimit) := by
  unfold IsOverlong
  generalize digitLimit = limit
  have same : (Int.pow 10 limit).natAbs = Nat.pow 10 limit := Int.natAbs_pow 10 limit
  exact Nat.le_of_eq same.symm

theorem integerText_of_overlong {n : Int} (long : IsOverlong n) :
    integerText n = .error .tooLong := if_neg (Nat.not_lt.mpr long)

theorem integerText_of_not_overlong {n : Int} (short : ¬ IsOverlong n) :
    integerText n = .ok (toString n) := if_pos (Nat.not_le.mp short)

/-- An integer can be written unless it has too many digits. -/
theorem integerText_endsIf (n : Int) : EndsIf (integerText n) .tooLong (¬ IsOverlong n) :=
  ⟨fun short => ⟨_, integerText_of_not_overlong short⟩,
    fun long => integerText_of_overlong (not_not.mp long)⟩

theorem integerText_eq {n : Int} {text : String} (written : integerText n = .ok text) :
    text = toString n := by
  unfold integerText at written
  split at written
  · exact (Except.ok.inj written).symm
  · cases written

namespace Value

/-- An integer stands somewhere in a value, be it in a key of a dictionary. -/
inductive HoldsInteger (n : Int) : Value → Prop
  | int : HoldsInteger n (int n)
  | list {items : List Value} {v : Value} (mem : v ∈ items) (within : HoldsInteger n v) :
    HoldsInteger n (list items)
  | tuple {items : List Value} {v : Value} (mem : v ∈ items) (within : HoldsInteger n v) :
    HoldsInteger n (tuple items)
  | key {entries : List (Value × Value)} {e : Value × Value} (mem : e ∈ entries)
    (within : HoldsInteger n e.1) : HoldsInteger n (dict entries)
  | entry {entries : List (Value × Value)} {e : Value × Value} (mem : e ∈ entries)
    (within : HoldsInteger n e.2) : HoldsInteger n (dict entries)

/-- No integer in a value has too many digits. -/
def IsShort (v : Value) : Prop := ∀ n, v.HoldsInteger n → ¬ IsOverlong n

theorem not_isShort_iff {v : Value} : ¬ v.IsShort ↔ ∃ n, v.HoldsInteger n ∧ IsOverlong n := by
  unfold IsShort
  simp only [not_forall, not_not, exists_prop]

variable {items : List Value} {entries : List (Value × Value)}

@[simp] theorem isShort_null : null.IsShort := nofun

@[simp] theorem isShort_bool (b : Bool) : (bool b).IsShort := nofun

@[simp] theorem isShort_str (s : String) : (str s).IsShort := nofun

@[simp] theorem isShort_int_iff {n : Int} : (int n).IsShort ↔ ¬ IsOverlong n :=
  ⟨fun short => short n .int, fun short _ => fun | .int => short⟩

@[simp] theorem isShort_list_iff : (list items).IsShort ↔ ∀ v ∈ items, v.IsShort :=
  ⟨fun short _ mem n within => short n (.list mem within),
    fun each n => fun | .list mem within => each _ mem n within⟩

@[simp] theorem isShort_tuple_iff : (tuple items).IsShort ↔ ∀ v ∈ items, v.IsShort :=
  ⟨fun short _ mem n within => short n (.tuple mem within),
    fun each n => fun | .tuple mem within => each _ mem n within⟩

@[simp] theorem isShort_dict_iff :
    (dict entries).IsShort ↔ ∀ e ∈ entries, e.1.IsShort ∧ e.2.IsShort := by
  constructor
  · exact fun short e mem =>
      ⟨fun n within => short n (.key mem within), fun n within => short n (.entry mem within)⟩
  · rintro each n (_ | _ | _ | ⟨mem, within⟩ | ⟨mem, within⟩)
    · exact (each _ mem).1 n within
    · exact (each _ mem).2 n within

/-- A value that holds nothing holds no integer but zero. -/
theorem isShort_of_absent {v : Value} (absent : v.isPresent = false) : v.IsShort := by
  cases v with
  | int n =>
    have zero : n = 0 := by simpa [isPresent] using absent
    rw [isShort_int_iff, zero]
    exact not_isOverlong_of_lt (Nat.zero_le _) Nat.one_pos
  | list items | tuple items | dict items =>
    have empty : items = [] := by simpa [isPresent] using absent
    simp [empty]
  | _ => exact nofun

/-! ## Literals -/

/-- What is written of an intermediate result can be written when the result can. -/
theorem write_endsIf {α : Type} {x : Except IntegerFailure α} {p : Prop}
    (h : EndsIf x .tooLong p) (write : α → String) :
    EndsIf (do return write (← x)) .tooLong p :=
  (h.bind fun _ _ => .of_ok rfl trivial).congr (and_iff_left trivial)

mutual

/-- A value has a literal exactly if no integer in it has too many digits. -/
theorem literal?_endsIf : ∀ v : Value, EndsIf v.literal? .tooLong v.IsShort
  | null | float _ | decimal _ | bytes _ | str _ | moment _ | bool true | bool false =>
    .of_ok (by rw [literal?]) nofun
  | int n => by
    rw [literal?]
    exact (integerText_endsIf n).congr isShort_int_iff.symm
  | list items => by
    rw [literal?]
    exact (write_endsIf (literals?_endsIf items) _).congr isShort_list_iff.symm
  | tuple [] => by
    rw [literal?]
    · exact (write_endsIf (literals?_endsIf []) _).congr isShort_tuple_iff.symm
    · exact nofun
  | tuple [item] => by
    rw [literal?]
    refine (write_endsIf (literal?_endsIf item) _).congr ?_
    rw [isShort_tuple_iff, List.forall_mem_singleton]
  | tuple (first :: second :: rest) => by
    rw [literal?]
    · exact (write_endsIf (literals?_endsIf (first :: second :: rest)) _).congr
        isShort_tuple_iff.symm
    · exact nofun
  | dict entries => by
    rw [literal?]
    exact (write_endsIf (entryLiterals?_endsIf entries) _).congr isShort_dict_iff.symm

theorem literals?_endsIf :
    ∀ items : List Value, EndsIf (literals? items) .tooLong (∀ v ∈ items, v.IsShort)
  | [] => .of_ok (by rw [literals?]) (List.forall_mem_nil _)
  | v :: vs => by
    rw [literals?]
    refine ((literal?_endsIf v).bind fun _ _ =>
      (literals?_endsIf vs).bind fun _ _ => .of_ok rfl trivial).congr ?_
    rw [and_true, List.forall_mem_cons]

theorem entryLiterals?_endsIf : ∀ entries : List (Value × Value),
    EndsIf (entryLiterals? entries) .tooLong (∀ e ∈ entries, e.1.IsShort ∧ e.2.IsShort)
  | [] => .of_ok (by rw [entryLiterals?]) (List.forall_mem_nil _)
  | (k, v) :: rest => by
    rw [entryLiterals?]
    refine ((literal?_endsIf k).bind fun _ _ => (literal?_endsIf v).bind fun _ _ =>
      (entryLiterals?_endsIf rest).bind fun _ _ => .of_ok rfl trivial).congr ?_
    rw [and_true, List.forall_mem_cons, and_assoc]

end

end Value

end SchemaCompiler
