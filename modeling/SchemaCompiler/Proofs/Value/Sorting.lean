import Mathlib.Data.List.Sort
import SchemaCompiler.Proofs.Outcome
import SchemaCompiler.Value.Sorting

/-!
# Sorted lists

Where all comparisons succeed and follow one key, sorting succeeds: the result has the items of the
list in ascending order of their keys (`exists_sort`). The binary search keeps the items before its
first bound not above the new one and those from its second bound on above it (`Bounds`), and the
run that sorting begins with is ordered one way or the other (`exists_takeRun`). If no two items
have one key, every order of the list is sorted alike (`sort_of_perm`).
-/

set_option autoImplicit false

namespace SchemaCompiler.Sorting

variable {α ε κ : Type} [LinearOrder κ] {lt : α → α → Except ε Bool} {key : α → κ}
  {items others sorted run rest : List α} {a item last : α} {low high : Nat} {downwards : Bool}

/-- The comparisons of some items succeed and follow their keys. -/
def Follows (lt : α → α → Except ε Bool) (key : α → κ) (items : List α) : Prop :=
  ∀ a ∈ items, ∀ b ∈ items, lt a b = .ok (decide (key a < key b))

/-- The keys of a list ascend. -/
def Ascends (key : α → κ) (items : List α) : Prop := items.Pairwise fun a b => key a ≤ key b

theorem Follows.of_subset (follows : Follows lt key items) (sub : others ⊆ items) :
    Follows lt key others :=
  fun a memA b memB => follows a (sub memA) b (sub memB)

/-! ## Insertion -/

/-- What a search for the place of an item knows of a list: the items before the first bound are not
above it, those from the second on are. -/
structure Bounds (key : α → κ) (item : α) (sorted : List α) (low high : Nat) : Prop where
  below : ∀ a ∈ sorted.take low, key a ≤ key item
  above : ∀ a ∈ sorted.drop high, key item < key a

/-- An item that is above the new one is the second bound. -/
theorem Bounds.of_lt (bounds : Bounds key item sorted low high) (ascends : Ascends key sorted)
    {middle : Nat} (here : sorted[middle]? = some a) (before : key item < key a) :
    Bounds key item sorted low middle := by
  obtain ⟨inside, rfl⟩ := List.getElem?_eq_some_iff.mp here
  refine ⟨bounds.below, ?_⟩
  have tail : Ascends key (sorted.drop middle) := ascends.sublist (List.drop_sublist middle sorted)
  rw [List.drop_eq_getElem_cons inside] at tail ⊢
  obtain ⟨least, _⟩ := List.pairwise_cons.mp tail
  exact List.forall_mem_cons.mpr ⟨before, fun b mem => before.trans_le (least b mem)⟩

/-- Behind an item that is not above the new one is the first bound. -/
theorem Bounds.of_le (bounds : Bounds key item sorted low high) (ascends : Ascends key sorted)
    {middle : Nat} (here : sorted[middle]? = some a) (before : key a ≤ key item) :
    Bounds key item sorted (middle + 1) high := by
  refine ⟨?_, bounds.above⟩
  have front : Ascends key (sorted.take (middle + 1)) :=
    ascends.sublist (List.take_sublist (middle + 1) sorted)
  rw [List.take_add_one, here, Option.toList_some] at front ⊢
  obtain ⟨_, _, greatest⟩ := List.pairwise_append.mp front
  refine List.forall_mem_append.mpr ⟨fun b mem => ?_, List.forall_mem_singleton.mpr before⟩
  exact (greatest b mem a (List.mem_singleton_self a)).trans before

/-- The search finds the place of an item. -/
theorem exists_place (follows : Follows lt key (item :: sorted)) (ascends : Ascends key sorted)
    (within : high ≤ sorted.length) (bounds : Bounds key item sorted low high) :
    ∃ n, place lt item sorted low high = .ok n ∧ Bounds key item sorted n n := by
  induction gap : high - low using Nat.strong_induction_on generalizing low high with
  | h gap ih =>
    unfold place
    split
    · next open' =>
      have inside : low + (high - low) / 2 < sorted.length := by omega
      have here := List.getElem?_eq_getElem inside
      have compared := follows item List.mem_cons_self _
        (List.mem_cons_of_mem item (List.getElem_mem inside))
      simp only [here, compared, Outcome.ok_bind]
      by_cases before : key item < key sorted[low + (high - low) / 2]
      · rw [decide_eq_true before, if_pos rfl]
        exact ih _ (by omega) inside.le (bounds.of_lt ascends here before) rfl
      · rw [decide_eq_false before, if_neg Bool.false_ne_true]
        exact ih _ (by omega) within (bounds.of_le ascends here (le_of_not_gt before)) rfl
    · next closed =>
      refine ⟨low, rfl, bounds.below, fun b mem => bounds.above b ?_⟩
      exact (List.drop_subset_drop_left sorted (Nat.le_of_not_lt closed)) mem

/-- An item is inserted into a sorted list. -/
theorem exists_insert (follows : Follows lt key (item :: sorted)) (ascends : Ascends key sorted) :
    ∃ more, insert lt sorted item = .ok more ∧ more.Perm (item :: sorted) ∧
      Ascends key more := by
  have start : Bounds key item sorted 0 sorted.length := by
    refine ⟨fun b mem => ?_, fun b mem => ?_⟩
    · rw [List.take_zero] at mem
      cases mem
    · rw [List.drop_length] at mem
      cases mem
  obtain ⟨n, found, below, above⟩ := exists_place follows ascends le_rfl start
  refine ⟨sorted.take n ++ item :: sorted.drop n, ?_, ?_, ?_⟩
  · unfold insert
    rw [found]
    rfl
  · rw [← List.take_append_drop n sorted]
    exact List.perm_middle.trans (by rw [List.take_append_drop])
  · have front : Ascends key (sorted.take n) := ascends.sublist (List.take_sublist n sorted)
    have back : Ascends key (sorted.drop n) := ascends.sublist (List.drop_sublist n sorted)
    refine List.pairwise_append.mpr
      ⟨front, List.pairwise_cons.mpr ⟨fun b mem => (above b mem).le, back⟩, fun b memB => ?_⟩
    exact List.forall_mem_cons.mpr
      ⟨below b memB, fun c memC => (below b memB).trans (above c memC).le⟩

/-- Items are inserted one after the other. -/
theorem exists_insertAll (follows : Follows lt key (rest ++ sorted))
    (ascends : Ascends key sorted) :
    ∃ more, rest.foldlM (insert lt) sorted = .ok more ∧ more.Perm (rest ++ sorted) ∧
      Ascends key more := by
  induction rest generalizing sorted with
  | nil => exact ⟨sorted, rfl, .refl sorted, ascends⟩
  | cons item rest ih =>
    obtain ⟨next, inserted, perm, ascending⟩ := exists_insert (follows.of_subset
      (List.cons_subset_cons item (List.subset_append_right rest sorted))) ascends
    have moved : (rest ++ next).Perm (item :: rest ++ sorted) :=
      (perm.append_left rest).trans List.perm_middle
    obtain ⟨more, done, all, ascended⟩ := ih (follows.of_subset moved.subset) ascending
    refine ⟨more, ?_, all.trans moved, ascended⟩
    rw [List.foldlM_cons, inserted]
    exact done

/-! ## Runs -/

/-- The order of a run in reverse: an upward run descends then, and a downward run ascends. -/
def Runs (key : α → κ) (downwards : Bool) (run : List α) : Prop :=
  run.Pairwise fun a b => if downwards then key a < key b else key b ≤ key a

/-- A run goes on with an item that compares with the last one as all before. -/
theorem Runs.cons (runs : Runs key downwards (last :: run))
    (goes : decide (key item < key last) = downwards) :
    Runs key downwards (item :: last :: run) := by
  obtain ⟨bound, _⟩ := List.pairwise_cons.mp runs
  cases downwards with
  | true =>
    have before : key item < key last := of_decide_eq_true goes
    exact List.pairwise_cons.mpr ⟨List.forall_mem_cons.mpr
      ⟨before, fun b mem => before.trans (bound b mem)⟩, runs⟩
  | false =>
    have after : key last ≤ key item := le_of_not_gt (of_decide_eq_false goes)
    exact List.pairwise_cons.mpr ⟨List.forall_mem_cons.mpr
      ⟨after, fun b mem => (bound b mem).trans after⟩, runs⟩

/-- A run is taken from a list up to an item that breaks it. -/
theorem exists_takeRun (follows : Follows lt key (last :: run ++ items))
    (runs : Runs key downwards (last :: run)) :
    ∃ taken rest, takeRun lt downwards last run items = .ok (taken, rest) ∧
      (taken ++ rest).Perm (last :: run ++ items) ∧ Runs key downwards taken := by
  induction items generalizing last run with
  | nil => exact ⟨last :: run, [], rfl, .refl _, runs⟩
  | cons item items ih =>
    have compared := follows item
      (List.mem_append_right _ List.mem_cons_self) last List.mem_cons_self
    unfold takeRun
    rw [compared, Outcome.ok_bind]
    by_cases goes : decide (key item < key last) = downwards
    · rw [if_pos (beq_iff_eq.mpr goes)]
      have moved : (item :: last :: run ++ items).Perm (last :: run ++ item :: items) :=
        List.perm_middle.symm
      obtain ⟨taken, rest, done, perm, taken'⟩ :=
        ih (follows.of_subset moved.subset) (runs.cons goes)
      exact ⟨taken, rest, done, perm.trans moved, taken'⟩
    · rw [if_neg fun same => goes (eq_of_beq same)]
      exact ⟨last :: run, item :: items, rfl, .refl _, runs⟩

/-- A run ascends, in reverse if it goes downwards. -/
theorem Runs.ascends (runs : Runs key downwards run) :
    Ascends key (if downwards then run else run.reverse) := by
  cases downwards with
  | true => exact runs.imp fun before => le_of_lt before
  | false => exact List.pairwise_reverse.mpr (runs.imp fun after => after)

/-! ## Sorting -/

/-- A list whose comparisons follow a key is sorted by it. -/
theorem exists_sort (follows : Follows lt key items) :
    ∃ sorted, sort lt items = .ok sorted ∧ sorted.Perm items ∧ Ascends key sorted := by
  match items with
  | [] => exact ⟨[], rfl, .refl _, List.Pairwise.nil⟩
  | [a] => exact ⟨[a], rfl, .refl _, List.pairwise_singleton _ a⟩
  | first :: second :: items =>
    have compared := follows second (List.mem_cons_of_mem first List.mem_cons_self) first
      List.mem_cons_self
    have moved : (second :: [first] ++ items).Perm (first :: second :: items) := .swap ..
    have alone : Runs key (decide (key second < key first)) [first] :=
      List.pairwise_singleton _ first
    obtain ⟨run, rest, taken, perm, runs⟩ :=
      exists_takeRun (follows.of_subset moved.subset) (alone.cons rfl)
    have turned : (rest ++ if decide (key second < key first) then run else run.reverse).Perm
        (first :: second :: items) := by
      refine List.perm_append_comm.trans (.trans (.append_right rest ?_) (perm.trans moved))
      split
      · exact .refl run
      · exact run.reverse_perm
    obtain ⟨sorted, done, all, ascends⟩ :=
      exists_insertAll (follows.of_subset turned.subset) runs.ascends
    refine ⟨sorted, ?_, all.trans turned, ascends⟩
    unfold sort
    simp only [compared, Outcome.ok_bind, taken]
    exact done

/-- Lists of the same items, of which no two have one key, are sorted alike. -/
theorem sort_of_perm (follows : Follows lt key items) (distinct : (items.map key).Nodup)
    (perm : items.Perm others) : sort lt items = sort lt others := by
  obtain ⟨sorted, done, permS, ascends⟩ := exists_sort follows
  obtain ⟨sorted', done', permS', ascends'⟩ := exists_sort (follows.of_subset perm.symm.subset)
  have same : sorted = sorted' := by
    refine List.Perm.eq_of_pairwise ?_ ascends ascends' (permS.trans (perm.trans permS'.symm))
    intro a b memA memB before after
    exact List.inj_on_of_nodup_map distinct (permS.subset memA)
      (perm.symm.subset (permS'.subset memB)) (le_antisymm before after)
  rw [done, done', same]

end SchemaCompiler.Sorting
