import Mathlib.Data.List.Nodup

/-!
# Names in code point order

Tables and reports list names in code point order, each once. Such a listing is a canonical form:
two lists of names with the same members are listed alike (`sortedDistinct_congr`).
-/

set_option autoImplicit false

namespace SchemaCompiler.Text

/-- Keeping the first of each value keeps no value twice. -/
theorem nodup_eraseDups {α : Type} [BEq α] [LawfulBEq α] (as : List α) : as.eraseDups.Nodup := by
  induction hn : as.length using Nat.strongRecOn generalizing as with
  | ind n ih =>
    cases as with
    | nil => exact List.nodup_nil
    | cons a as =>
      have shorter : (as.filter fun b => !b == a).length < n :=
        hn ▸ Nat.lt_succ_of_le (List.length_filter_le _ as)
      rw [List.eraseDups_cons, List.nodup_cons]
      refine ⟨fun mem => ?_, ih _ shorter _ rfl⟩
      have kept := (List.mem_filter.mp (List.mem_eraseDups.mp mem)).2
      simp only [beq_self_eq_true, Bool.not_true, Bool.false_eq_true] at kept

/-- Sorting names by code points yields an ordered list. -/
theorem pairwise_sorted (names : List String) :
    (names.mergeSort fun a b => a ≤ b).Pairwise (· ≤ ·) := by
  have sorted : (names.mergeSort fun a b => a ≤ b).Pairwise fun a b => decide (a ≤ b) = true := by
    refine List.pairwise_mergeSort (fun a b c ab bc => ?_) (fun a b => ?_) names
    · exact decide_eq_true (String.le_trans (of_decide_eq_true ab) (of_decide_eq_true bc))
    · rcases String.le_total a b with le | le
      · exact Bool.or_eq_true_iff.mpr (.inl (decide_eq_true le))
      · exact Bool.or_eq_true_iff.mpr (.inr (decide_eq_true le))
  exact sorted.imp of_decide_eq_true

/-- A sorted list holds what the unsorted one holds. -/
theorem mem_sortedDistinct {names : List String} {name : String} :
    (name ∈ names.eraseDups.mergeSort fun a b => a ≤ b) ↔ name ∈ names := by
  rw [List.mem_mergeSort, List.mem_eraseDups]

theorem nodup_sortedDistinct (names : List String) :
    (names.eraseDups.mergeSort fun a b => a ≤ b).Nodup :=
  List.nodup_mergeSort.mpr (nodup_eraseDups names)

/-- The listing of names depends on which names there are, and on nothing else. -/
theorem sortedDistinct_congr {names others : List String} (h : ∀ n, n ∈ names ↔ n ∈ others) :
    (names.eraseDups.mergeSort fun a b => a ≤ b) =
      others.eraseDups.mergeSort fun a b => a ≤ b := by
  have perm : (names.eraseDups.mergeSort fun a b => a ≤ b).Perm
      (others.eraseDups.mergeSort fun a b => a ≤ b) := by
    refine (List.perm_ext_iff_of_nodup (nodup_sortedDistinct names)
      (nodup_sortedDistinct others)).mpr fun n => ?_
    rw [mem_sortedDistinct, mem_sortedDistinct, h]
  exact perm.eq_of_pairwise (fun a b _ _ ab ba => String.le_antisymm ab ba)
    (pairwise_sorted _) (pairwise_sorted _)

end SchemaCompiler.Text
