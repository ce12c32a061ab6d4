import Mathlib.Data.List.Cycle
import Mathlib.Data.List.TakeWhile
import SchemaCompiler.Proofs.Model.Lookup
import SchemaCompiler.Proofs.Text.Order
import SchemaCompiler.Registry.Cycle

/-!
# The listed cycles are the elementary cycles

The names of a registry are the nodes of a directed graph whose edges follow the foreign keys
(`Refers`). An elementary cycle is a closed walk of at least two names that visits none of them
twice, and where it starts does not matter: it is a `Cycle`, a list up to rotation.

The search is sound because the path behind it is a walk without repetition, so the part of it
that a step back closes is a cycle (`cyclesFrom_sound`). It is complete because it keeps no set of
visited names: started from a name of a cycle it can follow the whole cycle, and the number of
names bounds how long that takes (`mem_cyclesFrom`). Turning a cycle to its least name picks one
list of each class of rotations (`eq_of_isRotated`), which is why no cycle is listed twice.
-/

set_option autoImplicit false

namespace SchemaCompiler.Registry

/-! ## The graph -/

/-- The rows of `a` hold a foreign key to `b`: a `belongsTo` relation of `a` targets `b`, or a
`hasMany` relation of `b` targets `a`. A relation whose target is its own model or is not
registered makes no edge. -/
def Refers (r : Registry) (a b : String) : Prop :=
  ∃ m ∈ r.models, ∃ rel ∈ m.relations, rel.target ∈ r.modelNames ∧ rel.target ≠ m.name ∧
    (rel.kind = some .belongsTo ∧ a = m.name ∧ b = rel.target ∨
      rel.kind = some .hasMany ∧ a = rel.target ∧ b = m.name)

/-- An elementary cycle of a relation between names: at least two names, none twice, each related
to the next and the last to the first. -/
structure IsElementary (E : String → String → Prop) (c : Cycle String) : Prop where
  two : 2 ≤ c.length
  nodup : c.Nodup
  chain : c.Chain E

theorem mem_edgesOf {known : List String} {m : Model} {a b : String} :
    (a, b) ∈ edgesOf known m ↔ ∃ rel ∈ m.relations, rel.target ∈ known ∧ rel.target ≠ m.name ∧
      (rel.kind = some .belongsTo ∧ a = m.name ∧ b = rel.target ∨
        rel.kind = some .hasMany ∧ a = rel.target ∧ b = m.name) := by
  unfold edgesOf
  rw [List.mem_filterMap]
  refine exists_congr fun rel => and_congr_right fun _ => ?_
  by_cases known' : rel.target ∈ known
  · by_cases own : rel.target = m.name
    · simp only [own, beq_self_eq_true, Bool.or_true, ↓reduceIte, ne_eq, not_true_eq_false,
        false_and, and_false, reduceCtorEq]
    · have passes : (!known.contains rel.target || rel.target == m.name) = false := by
        rw [List.contains_iff_mem.mpr known', beq_eq_false_iff_ne.mpr own]
        rfl
      simp only [passes, Bool.false_eq_true, ↓reduceIte, known', own, ne_eq, not_false_eq_true,
        true_and]
      split
      · next kind => simp only [kind, Option.some.injEq, Prod.mk.injEq, true_and, reduceCtorEq,
          false_and, or_false, eq_comm]
      · next kind => simp only [kind, Option.some.injEq, Prod.mk.injEq, true_and, reduceCtorEq,
          false_and, false_or, eq_comm]
      · next belongs many =>
        simp only [reduceCtorEq, false_iff]
        rintro (⟨kind, _⟩ | ⟨kind, _⟩)
        · exact belongs kind
        · exact many kind
  · have stops : (!known.contains rel.target || rel.target == m.name) = true := by
      rw [List.contains_eq_mem, decide_eq_false known']
      rfl
    simp only [stops, ↓reduceIte, known', false_and, reduceCtorEq]

theorem mem_edges {r : Registry} {a b : String} : (a, b) ∈ r.edges ↔ r.Refers a b :=
  List.mem_flatMap.trans (exists_congr fun _ => and_congr_right fun _ => mem_edgesOf)

/-- No name refers to itself. -/
theorem Refers.ne {r : Registry} {a b : String} (h : r.Refers a b) : a ≠ b := by
  obtain ⟨m, _, rel, _, _, other, ⟨_, rfl, rfl⟩ | ⟨_, rfl, rfl⟩⟩ := h
  · exact other.symm
  · exact other

/-- A name that refers to something is registered. -/
theorem Refers.mem_names {r : Registry} {a b : String} (h : r.Refers a b) : a ∈ r.modelNames := by
  obtain ⟨m, mem, rel, _, known, _, ⟨_, rfl, rfl⟩ | ⟨_, rfl, rfl⟩⟩ := h
  · exact List.mem_map_of_mem mem
  · exact known

theorem mem_targets {es : List (String × String)} {a b : String} :
    b ∈ (es.filter (·.1 == a)).map (·.2) ↔ (a, b) ∈ es := by
  rw [List.mem_map]
  constructor
  · rintro ⟨⟨x, y⟩, mem, rfl⟩
    obtain ⟨within, same⟩ := List.mem_filter.mp mem
    obtain rfl : x = a := beq_iff_eq.mp same
    exact within
  · intro mem
    exact ⟨(a, b), List.mem_filter.mpr ⟨mem, beq_self_eq_true a⟩, rfl⟩

theorem mem_successors {es : List (String × String)} {a b : String} :
    b ∈ successors es a ↔ (a, b) ∈ es := by
  unfold successors
  rw [Text.mem_sortedDistinct, mem_targets]

/-- The successors of a name depend on its edges, and not on their order or number. -/
theorem successors_congr {es fs : List (String × String)} {a : String}
    (h : ∀ b, (a, b) ∈ es ↔ (a, b) ∈ fs) : successors es a = successors fs a := by
  refine Text.sortedDistinct_congr fun b => ?_
  rw [mem_targets, mem_targets, h]

/-- The successors of a name as the table of all of them lists them. -/
def tabledSuccessors (names : List String) (es : List (String × String)) (name : String) :
    List String :=
  (((adjacency names es).find? (·.1 == name)).map (·.2)).getD []

/-- The table has the successors of every name it is made for. -/
theorem tabledSuccessors_of_mem {names : List String} {es : List (String × String)} {name : String}
    (h : name ∈ names) : tabledSuccessors names es name = successors es name := by
  have listed : (name, successors es name) ∈ adjacency names es := List.mem_map_of_mem h
  obtain ⟨entry, mem, same, found⟩ :=
    exists_find?_of_mem (·.1 == name) listed (beq_self_eq_true name)
  obtain ⟨n, _, rfl⟩ := List.mem_map.mp mem
  obtain rfl : n = name := eq_of_beq same
  unfold tabledSuccessors
  rw [found, Option.map_some, Option.getD_some]

theorem tabledSuccessors_of_not_mem {names : List String} {es : List (String × String)}
    {name : String} (h : name ∉ names) : tabledSuccessors names es name = [] := by
  have none : (adjacency names es).find? (·.1 == name) = none := by
    refine List.find?_eq_none.mpr fun entry mem same => h ?_
    obtain ⟨n, within, rfl⟩ := List.mem_map.mp mem
    exact beq_iff_eq.mp same ▸ within
  unfold tabledSuccessors
  rw [none]
  rfl

/-- The search steps along the references, and along nothing else. -/
theorem mem_tabledSuccessors {r : Registry} {a b : String} :
    b ∈ tabledSuccessors r.sortedNames r.edges a ↔ r.Refers a b := by
  by_cases mem : a ∈ r.sortedNames
  · rw [tabledSuccessors_of_mem mem, mem_successors, mem_edges]
  · rw [tabledSuccessors_of_not_mem mem]
    exact ⟨fun h => (nomatch h), fun h => absurd (Text.mem_sortedDistinct.mpr h.mem_names) mem⟩

/-! ## Turning a cycle to its least name -/

theorem leastName_mem (name : String) (names : List String) :
    leastName name names ∈ name :: names := by
  induction names generalizing name with
  | nil => exact List.mem_cons_self
  | cons n rest ih =>
    unfold leastName
    rw [List.foldl_cons]
    split
    · exact List.mem_cons_of_mem name (ih n)
    · rcases List.mem_cons.mp (ih name) with own | later
      · exact List.mem_cons.mpr (.inl own)
      · exact List.mem_cons_of_mem name (List.mem_cons_of_mem n later)

theorem leastName_le (name : String) (names : List String) :
    ∀ n ∈ name :: names, leastName name names ≤ n := by
  induction names generalizing name with
  | nil =>
    intro n mem
    obtain rfl := List.mem_singleton.mp mem
    exact String.le_refl n
  | cons first rest ih =>
    unfold leastName
    rw [List.foldl_cons]
    intro n mem
    split
    · next smaller =>
      rcases List.mem_cons.mp mem with rfl | later
      · exact String.le_trans (ih first first List.mem_cons_self)
          ((String.le_total first n).resolve_right fun le => le smaller)
      · exact ih first n later
    · next notSmaller =>
      rcases List.mem_cons.mp mem with rfl | later
      · exact ih n n List.mem_cons_self
      · rcases List.mem_cons.mp later with rfl | within
        · exact String.le_trans (ih name name List.mem_cons_self) notSmaller
        · exact ih name n (List.mem_cons_of_mem name within)

/-- A list starts with the least of its names. -/
def StartsLeast (l : List String) : Prop := ∀ first ∈ l.head?, ∀ n ∈ l, first ≤ n

theorem canonicalCycle_isRotated (l : List String) : canonicalCycle l ~r l := by
  cases l with
  | nil => exact .refl []
  | cons name names =>
    have turned : (name :: names).dropWhile (· != leastName name names) ++
        (name :: names).takeWhile (· != leastName name names) ~r
          (name :: names).takeWhile (· != leastName name names) ++
            (name :: names).dropWhile (· != leastName name names) := List.isRotated_append
    rwa [List.takeWhile_append_dropWhile] at turned

theorem canonicalCycle_startsLeast (l : List String) : StartsLeast (canonicalCycle l) := by
  intro first head n mem
  have there := (canonicalCycle_isRotated l).mem_iff.mp mem
  cases l with
  | nil => cases there
  | cons name names =>
    -- the list is cut at the least name, so that one comes first
    have cut := List.head?_dropWhile_not (· != leastName name names) (name :: names)
    cases rest : (name :: names).dropWhile (· != leastName name names) with
    | nil =>
      have none := List.dropWhile_eq_nil_iff.mp rest _ (leastName_mem name names)
      simp only [bne_self_eq_false, Bool.false_eq_true] at none
    | cons a after =>
      unfold canonicalCycle at head
      simp only [rest, List.cons_append, List.head?_cons, Option.mem_some_iff] at head cut
      rw [← head, bne_eq_false_iff_eq.mp cut]
      exact leastName_le name names n there

/-- Lists of distinct names that are rotations of each other and start with their least name are
the same list. -/
theorem eq_of_isRotated {l l' : List String} (rotated : l ~r l') (nodup : l.Nodup)
    (least : StartsLeast l) (least' : StartsLeast l') : l = l' := by
  obtain ⟨n, within, rfl⟩ := List.isRotated_iff_mod.mp rotated
  rcases within.eq_or_lt with rfl | inside
  · rw [List.rotate_length]
  · have positive : 0 < l.length := Nat.zero_lt_of_lt inside
    have head : l.head? = some l[0] :=
      List.head?_eq_getElem?.trans (List.getElem?_eq_getElem positive)
    have head' : (l.rotate n).head? = some l[n] :=
      (List.head?_rotate inside).trans (List.getElem?_eq_getElem inside)
    have same : l[0] = l[n] := String.le_antisymm
      (least _ head _ (List.getElem_mem inside))
      (least' _ head' _ (List.mem_rotate.mpr (List.getElem_mem positive)))
    obtain rfl : 0 = n := (nodup.getElem_inj_iff).mp same
    rw [List.rotate_zero]

/-! ## The search -/

section Search

variable {next : String → List String}

theorem takeWhile_ne_append {before after : List String} {n : String} (fresh : n ∉ before) :
    (before ++ n :: after).takeWhile (· != n) = before := by
  have passes : ∀ a ∈ before, (a != n) = true := fun a mem =>
    bne_iff_ne.mpr fun same => fresh (same ▸ mem)
  rw [List.takeWhile_append_of_pos passes, List.takeWhile_cons, bne_self_eq_false]
  exact List.append_nil before

/-- A walk that a step leads back to its first name is a cycle. The walk is written nearest name
first, as the search writes it. -/
theorem isElementary_of_walk {name n : String} {p : List String}
    (nodup : (name :: p ++ [n]).Nodup)
    (walk : List.IsChain (fun b a => b ∈ next a) (name :: p ++ [n])) (step : n ∈ next name) :
    IsElementary (fun a b => b ∈ next a) ↑(name :: p ++ [n]).reverse := by
  have turned : (name :: p ++ [n]).reverse = n :: (p.reverse ++ [name]) := by
    rw [List.reverse_append, List.reverse_singleton, List.reverse_cons]
    rfl
  have closed : List.IsChain (fun a b => b ∈ next a) (n :: (name :: p ++ [n])).reverse :=
    List.isChain_reverse.mpr (List.isChain_cons_cons.mpr ⟨step, walk⟩)
  rw [List.reverse_cons, turned] at closed
  exact {
    two := by
      rw [Cycle.length_coe, List.length_reverse, List.length_append, List.length_cons,
        List.length_singleton]
      omega
    nodup := Cycle.nodup_coe_iff.mpr (List.nodup_reverse.mpr nodup)
    chain := by
      rw [turned]
      exact closed }

/-- What the search meets from the end of a walk without repetition are cycles, turned to start at
their least names. -/
theorem cyclesFrom_sound (irreflexive : ∀ a, a ∉ next a) (fuel : Nat) {name : String}
    {before : List String} (nodup : (name :: before).Nodup)
    (walk : List.IsChain (fun b a => b ∈ next a) (name :: before)) :
    ∀ c ∈ cyclesFrom next fuel name before,
      ∃ l, c = canonicalCycle l ∧ IsElementary (fun a b => b ∈ next a) l := by
  induction fuel generalizing name before with
  | zero => exact fun _ mem => (nomatch mem)
  | succ fuel ih =>
    intro c mem
    obtain ⟨n, step, met⟩ := List.mem_flatMap.mp mem
    split at met
    · next known =>
      -- the step leads back to a name before the last one, and closes what lies between
      have other : n ≠ name := fun same => irreflexive name (same ▸ step)
      have earlier := (List.mem_cons.mp (List.contains_iff_mem.mp known)).resolve_left other
      obtain ⟨p, after, rfl⟩ := List.append_of_mem earlier
      have path : name :: (p ++ n :: after) = name :: p ++ [n] ++ after := by
        rw [List.append_assoc]
        rfl
      have closing : (name :: p ++ [n]).Nodup := (path ▸ nodup).of_append_left
      have fresh : n ∉ name :: p := fun again =>
        List.disjoint_of_nodup_append closing again List.mem_cons_self
      have cut : (name :: (p ++ n :: after)).takeWhile (· != n) = name :: p :=
        takeWhile_ne_append fresh
      rw [cut] at met
      exact ⟨_, List.mem_singleton.mp met,
        isElementary_of_walk closing (path ▸ walk).left_of_append step⟩
    · next fresh =>
      have new : n ∉ name :: before := fun again => fresh (List.contains_iff_mem.mpr again)
      exact ih (List.nodup_cons.mpr ⟨new, nodup⟩) (List.isChain_cons_cons.mpr ⟨step, walk⟩) c met

/-- A cycle through the first name of the path is met, whatever part of it is still to be walked.
`rest` is that part; it avoids the path, so the search never closes it early. -/
theorem mem_cyclesFrom {first : String} (rest : List String) {fuel : Nat} {name : String}
    {before : List String} (start : (name :: before).getLast? = some first)
    (nodup : (rest.reverse ++ name :: before).Nodup)
    (walk : List.IsChain (fun a b => b ∈ next a) (name :: rest ++ [first]))
    (bound : rest.length < fuel) :
    canonicalCycle (rest.reverse ++ name :: before).reverse ∈ cyclesFrom next fuel name before := by
  obtain ⟨fuel, rfl⟩ := Nat.exists_eq_succ_of_ne_zero (Nat.ne_zero_of_lt bound)
  induction rest generalizing fuel name before with
  | nil =>
    have step : first ∈ next name := (List.isChain_cons_cons.mp walk).1
    obtain ⟨q, whole⟩ := List.getLast?_eq_some_iff.mp start
    have known : (name :: before).contains first = true :=
      List.contains_iff_mem.mpr (List.mem_of_getLast? start)
    have fresh : first ∉ q := fun again => by
      rw [List.reverse_nil, List.nil_append, whole] at nodup
      exact List.disjoint_of_nodup_append nodup again List.mem_cons_self
    refine List.mem_flatMap.mpr ⟨first, step, ?_⟩
    simp only [known, ↓reduceIte, List.reverse_nil, List.nil_append]
    rw [whole, takeWhile_ne_append fresh]
    exact List.mem_cons_self
  | cons n rest ih =>
    obtain ⟨step, onward⟩ := List.isChain_cons_cons.mp walk
    rw [List.reverse_cons, List.append_assoc] at nodup ⊢
    have new : (name :: before).contains n = false := by
      rw [List.contains_eq_mem]
      exact decide_eq_false (List.nodup_cons.mp (List.nodup_append.mp nodup).2.1).1
    refine List.mem_flatMap.mpr ⟨n, step, ?_⟩
    simp only [new, Bool.false_eq_true, ↓reduceIte]
    have shorter : rest.length < fuel := Nat.lt_of_succ_lt_succ bound
    obtain ⟨fuel, rfl⟩ := Nat.exists_eq_succ_of_ne_zero (Nat.ne_zero_of_lt shorter)
    exact ih (List.getLast?_cons_cons.trans start) nodup onward fuel shorter

end Search

/-! ## The listing -/

variable {r s : Registry}

theorem mem_distinctFrom {seen : Std.HashSet (List String)} {cs : List (List String)}
    {c : List String} : c ∈ distinctFrom seen cs ↔ c ∈ cs ∧ c ∉ seen := by
  induction cs generalizing seen with
  | nil => exact ⟨fun h => (nomatch h), fun h => (nomatch h.1)⟩
  | cons first rest ih =>
    unfold distinctFrom
    split
    · next known =>
      rw [ih, List.mem_cons]
      constructor
      · exact fun ⟨later, new⟩ => ⟨.inr later, new⟩
      · rintro ⟨rfl | later, new⟩
        · exact absurd known new
        · exact ⟨later, new⟩
    · next unknown =>
      rw [List.mem_cons, ih, List.mem_cons, Std.HashSet.mem_insert, beq_iff_eq]
      constructor
      · rintro (rfl | ⟨later, new⟩)
        · exact ⟨.inl rfl, unknown⟩
        · exact ⟨.inr later, fun old => new (.inr old)⟩
      · rintro ⟨same | later, new⟩
        · exact .inl same
        · by_cases same : first = c
          · exact .inl same.symm
          · exact .inr ⟨later, fun old => old.elim same new⟩

theorem nodup_distinctFrom (seen : Std.HashSet (List String)) (cs : List (List String)) :
    (distinctFrom seen cs).Nodup := by
  induction cs generalizing seen with
  | nil => exact List.nodup_nil
  | cons first rest ih =>
    unfold distinctFrom
    split
    · exact ih seen
    · refine List.nodup_cons.mpr ⟨fun again => ?_, ih _⟩
      exact (mem_distinctFrom.mp again).2 Std.HashSet.mem_insert_self

theorem cycles_eq (r : Registry) : r.cycles = distinctFrom ∅ (r.sortedNames.flatMap fun n =>
    cyclesFrom (tabledSuccessors r.sortedNames r.edges) r.sortedNames.length n []) := rfl

/-- Every listed cycle is elementary, and starts with its least name. -/
theorem cycles_sound {l : List String} (h : l ∈ r.cycles) :
    IsElementary r.Refers l ∧ StartsLeast l := by
  rw [cycles_eq, mem_distinctFrom] at h
  obtain ⟨n, _, met⟩ := List.mem_flatMap.mp h.1
  have irreflexive : ∀ a, a ∉ tabledSuccessors r.sortedNames r.edges a := fun a itself =>
    (mem_tabledSuccessors.mp itself).ne rfl
  obtain ⟨turned, rfl, elementary⟩ := cyclesFrom_sound irreflexive _ (List.nodup_singleton n)
    (List.isChain_singleton n) l met
  rw [Cycle.coe_eq_coe.mpr (canonicalCycle_isRotated turned)]
  exact ⟨⟨elementary.two, elementary.nodup,
    elementary.chain.imp fun _ _ step => mem_tabledSuccessors.mp step⟩,
    canonicalCycle_startsLeast turned⟩

/-- Along a closed walk every name leads somewhere. -/
theorem exists_next {E : String → String → Prop} {l : List String} {last : String}
    (walk : List.IsChain E (l ++ [last])) : ∀ n ∈ l, ∃ m, E n m := by
  intro n mem
  obtain ⟨before, after, rfl⟩ := List.append_of_mem mem
  rw [List.append_assoc] at walk
  obtain ⟨m, rest, onward⟩ : ∃ m rest, after ++ [last] = m :: rest := by
    cases after with
    | nil => exact ⟨last, [], rfl⟩
    | cons m rest => exact ⟨m, rest ++ [last], rfl⟩
  rw [List.cons_append, onward] at walk
  exact ⟨m, (List.isChain_append_cons_cons.mp walk).2.1⟩

/-- The names of a cycle are registered. -/
theorem IsElementary.mem_names {first : String} {rest : List String}
    (h : IsElementary r.Refers ↑(first :: rest)) : ∀ n ∈ first :: rest, n ∈ r.sortedNames := by
  intro n mem
  obtain ⟨m, refers⟩ := exists_next (l := first :: rest) h.chain n mem
  exact Text.mem_sortedDistinct.mpr refers.mem_names

/-- Every elementary cycle is listed, turned to start with its least name. -/
theorem cycles_complete {first : String} {rest : List String}
    (h : IsElementary r.Refers ↑(first :: rest)) : canonicalCycle (first :: rest) ∈ r.cycles := by
  have nodup : (first :: rest).Nodup := Cycle.nodup_coe_iff.mp h.nodup
  have turned : (rest.reverse ++ [first]).reverse = first :: rest := by
    rw [← List.reverse_cons, List.reverse_reverse]
  have fits : (first :: rest).length ≤ r.sortedNames.length :=
    (nodup.subperm h.mem_names).length_le
  have walk : List.IsChain (fun a b => b ∈ tabledSuccessors r.sortedNames r.edges a)
      (first :: rest ++ [first]) := h.chain.imp fun _ _ step => mem_tabledSuccessors.mpr step
  have met := mem_cyclesFrom rest rfl
    (by rw [← List.reverse_cons]; exact List.nodup_reverse.mpr nodup) walk fits
  rw [turned] at met
  rw [cycles_eq, mem_distinctFrom]
  exact ⟨List.mem_flatMap.mpr ⟨first, h.mem_names first List.mem_cons_self, met⟩,
    Std.HashSet.not_mem_empty⟩

/-- Rotations of one cycle are not both listed. -/
theorem eq_of_mem_cycles {l l' : List String} (h : l ∈ r.cycles) (h' : l' ∈ r.cycles)
    (rotated : l ~r l') : l = l' :=
  eq_of_isRotated rotated (Cycle.nodup_coe_iff.mp (cycles_sound h).1.nodup) (cycles_sound h).2
    (cycles_sound h').2

/-- The listing depends on the names and on the references between them, and on nothing else. -/
theorem cycles_congr (names : ∀ n, n ∈ s.modelNames ↔ n ∈ r.modelNames)
    (refers : ∀ a b, s.Refers a b ↔ r.Refers a b) : s.cycles = r.cycles := by
  have sorted : s.sortedNames = r.sortedNames := Text.sortedDistinct_congr names
  have steps : tabledSuccessors s.sortedNames s.edges = tabledSuccessors r.sortedNames r.edges := by
    funext name
    rw [sorted]
    by_cases mem : name ∈ r.sortedNames
    · rw [tabledSuccessors_of_mem mem, tabledSuccessors_of_mem mem]
      exact successors_congr fun b => by rw [mem_edges, mem_edges, refers]
    · rw [tabledSuccessors_of_not_mem mem, tabledSuccessors_of_not_mem mem]
  rw [cycles_eq, cycles_eq, steps, sorted]

/-- The listed cycles are exactly the elementary cycles of the reference graph, each once and
turned to start with its least name, and they depend on nothing but that graph. -/
theorem cycles_exact (r : Registry) :
    (∀ c : Cycle String, c ∈ r.cycles.map Cycle.ofList ↔ IsElementary r.Refers c) ∧
    (r.cycles.map Cycle.ofList).Nodup ∧
    (∀ l ∈ r.cycles, ∀ first ∈ l.head?, ∀ n ∈ l, first ≤ n) ∧
    ∀ s : Registry, (∀ n, n ∈ s.modelNames ↔ n ∈ r.modelNames) →
      (∀ a b, s.Refers a b ↔ r.Refers a b) → s.cycles = r.cycles := by
  refine ⟨fun c => ⟨fun mem => ?_, ?_⟩, ?_, fun l mem => (cycles_sound mem).2,
    fun s => cycles_congr⟩
  · obtain ⟨l, listed, rfl⟩ := List.mem_map.mp mem
    exact (cycles_sound listed).1
  · induction c using Quotient.inductionOn' with
    | h l =>
      intro elementary
      cases l with
      | nil => exact absurd elementary.two (by decide)
      | cons first rest =>
        exact List.mem_map.mpr ⟨_, cycles_complete elementary,
          Cycle.coe_eq_coe.mpr (canonicalCycle_isRotated (first :: rest))⟩
  · refine List.Nodup.map_on (fun l mem l' mem' same => ?_) (nodup_distinctFrom _ _)
    exact eq_of_mem_cycles mem mem' (Cycle.coe_eq_coe.mp same)

end SchemaCompiler.Registry
