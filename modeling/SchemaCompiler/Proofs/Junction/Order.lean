import SchemaCompiler.Proofs.Junction.Plan

/-!
# Plans in any order

A plan is made for models in the order of their registration. In another order the declarations of a
pair come in another order too, and three or more of them may then pair up differently. A pair
without a problem has two declarations only, and what it gets does not depend on which of them comes
first: the two belong to different models, or to one model that lists them itself. So models in any
order have a plan without problems or none of them has (`problems_eq_nil_of_perm`), and the
junctions of such a plan are the same (`junctions_perm`).
-/

set_option autoImplicit false

namespace SchemaCompiler.Junction

variable {models others : List Model} {pair : String × String}

/-! ## Declarations -/

/-- Concatenating over a list does not depend on its order where only one entry contributes. -/
theorem flatMap_eq_of_perm {α β : Type} {f : α → List β} {as bs : List α} (perm : as.Perm bs)
    (single : ∀ a ∈ as, ∀ b ∈ as, f a ≠ [] → f b ≠ [] → a = b) : as.flatMap f = bs.flatMap f := by
  induction perm with
  | nil => rfl
  | cons a _ ih =>
    rw [List.flatMap_cons, List.flatMap_cons]
    rw [ih fun x hx y hy => single x (List.mem_cons_of_mem a hx) y (List.mem_cons_of_mem a hy)]
  | swap a b rest =>
    simp only [List.flatMap_cons, ← List.append_assoc]
    congr 1
    by_cases emptyA : f a = []
    · rw [emptyA, List.nil_append, List.append_nil]
    by_cases emptyB : f b = []
    · rw [emptyB, List.nil_append, List.append_nil]
    have same : b = a := by
      apply single b _ a _ emptyB emptyA
      · exact List.mem_cons_self
      · exact List.mem_cons_of_mem b List.mem_cons_self
    rw [same]
  | trans first second ihFirst ihSecond =>
    rw [ihFirst single]
    apply ihSecond
    intro x hx y hy
    exact single x (first.mem_iff.mpr hx) y (first.mem_iff.mpr hy)

/-- The declarations of one model, among registered ones. -/
def ownDeclarations (models : List Model) (m : Model) : List Declaration :=
  (m.relations.filter fun r =>
    r.isManyToMany && r.through.isNone && models.any (·.name == r.target)).map fun r => ⟨m.name, r⟩

theorem declarations_eq_flatMap : declarations models = models.flatMap (ownDeclarations models) :=
  rfl

theorem ownDeclarations_perm (perm : models.Perm others) :
    ownDeclarations models = ownDeclarations others := by
  have any (name : String) : models.any (·.name == name) = others.any (·.name == name) :=
    perm.any_eq
  unfold ownDeclarations
  simp only [any]

theorem declarations_perm (perm : models.Perm others) :
    (declarations models).Perm (declarations others) := by
  rw [declarations_eq_flatMap, declarations_eq_flatMap, ownDeclarations_perm perm]
  exact perm.flatMap_right _

theorem groupOf_perm (perm : models.Perm others) (pair : String × String) :
    (groupOf models pair).Perm (groupOf others pair) :=
  (declarations_perm perm).filter _

theorem pairs_perm (perm : models.Perm others) :
    (pairs (declarations models)).Perm (pairs (declarations others)) := by
  apply (List.perm_ext_iff_of_nodup (Text.nodup_eraseDups _) (Text.nodup_eraseDups _)).mpr
  intro pair
  rw [List.mem_eraseDups, List.mem_eraseDups]
  exact ((declarations_perm perm).map _).mem_iff

/-- The declarations that join a model with itself are listed by that model alone, in its order. -/
theorem groupOf_eq_of_self (names : (models.map (·.name)).Nodup) (perm : models.Perm others)
    (self : pair.1 = pair.2) : groupOf models pair = groupOf others pair := by
  have owner : ∀ m : Model, (ownDeclarations others m).filter (·.pair == pair) ≠ [] →
      m.name = pair.1 := by
    intro m some
    obtain ⟨d, own⟩ := List.exists_mem_of_ne_nil _ some
    obtain ⟨within, joined⟩ := List.mem_filter.mp own
    obtain ⟨r, _, rfl⟩ := List.mem_map.mp within
    have canonical : canonicalPair m.name r.target = pair := eq_of_beq joined
    rcases canonicalPair_eq_or m.name r.target with same | same
    · rw [← canonical, same]
    · rw [self, ← canonical, same]
  unfold groupOf
  rw [declarations_eq_flatMap, declarations_eq_flatMap, ownDeclarations_perm perm,
    List.filter_flatMap, List.filter_flatMap]
  apply flatMap_eq_of_perm perm
  intro a memA b memB ownA ownB
  exact List.inj_on_of_nodup_map names memA memB ((owner a ownA).trans (owner b ownB).symm)

/-! ## One pair of models -/

theorem Settled.of_perm {ds es : List Declaration} (settled : Settled ds) (perm : ds.Perm es) :
    Settled es := by
  obtain ⟨a, b, rfl, fits⟩ := settled
  rcases List.perm_pair.mp perm.symm with rfl | rfl
  · exact ⟨a, b, rfl, fits⟩
  · exact ⟨b, a, rfl, b.isMatch_comm a ▸ fits⟩

/-- Two declarations of different models make the same junction in either order. -/
theorem ofMatch_comm {a b : Declaration} (pairA : a.pair = pair) (pairB : b.pair = pair)
    (differ : pair.1 ≠ pair.2) (fits : a.isMatch b = true) :
    ofMatch pair a b = ofMatch pair b a := by
  have back : b.isMatch a = true := b.isMatch_comm a ▸ fits
  obtain ⟨x, y, which, first, second, made⟩ := ofMatch_eq_between pairA fits
  obtain ⟨x', y', which', first', second', made'⟩ := ofMatch_eq_between pairB back
  rw [made, made']
  -- the relation of the first model is the same in both orders, as the models differ
  rcases which with ⟨rfl, rfl⟩ | ⟨rfl, rfl⟩ <;> rcases which' with ⟨rfl, rfl⟩ | ⟨rfl, rfl⟩
  · exact absurd (first.symm.trans second') differ
  · rfl
  · rfl
  · exact absurd (first.symm.trans second') differ

theorem planGroup_junction_perm {ds es : List Declaration} (settled : Settled ds)
    (perm : ds.Perm es) (about : ∀ d ∈ ds, d.pair = pair) (differ : pair.1 ≠ pair.2) :
    (planGroup pair ds).junction = (planGroup pair es).junction := by
  obtain ⟨a, b, rfl, fits⟩ := settled
  have pairA := about a List.mem_cons_self
  have pairB := about b (List.mem_cons_of_mem a List.mem_cons_self)
  rcases List.perm_pair.mp perm.symm with rfl | rfl
  · rfl
  · rw [planGroup_junction_two fits, planGroup_junction_two (b.isMatch_comm a ▸ fits)]
    rw [ofMatch_comm pairA pairB differ fits]

/-! ## Plans -/

namespace Plan

/-- A plan without problems has none in any other order of the models. -/
theorem problems_eq_nil_of_perm (perm : models.Perm others)
    (clear : (ofModels models).problems = []) : (ofModels others).problems = [] := by
  apply problems_eq_nil_iff.mpr
  intro pair mem
  have settled := problems_eq_nil_iff.mp clear pair ((pairs_perm perm).mem_iff.mpr mem)
  exact settled.of_perm (groupOf_perm perm pair)

/-- A plan without problems has the same junctions in any other order of the models. -/
theorem junctions_perm (names : (models.map (·.name)).Nodup) (perm : models.Perm others)
    (clear : (ofModels models).problems = []) :
    (ofModels models).junctions.Perm (ofModels others).junctions := by
  have same : ∀ pair ∈ pairs (declarations models),
      (planGroup pair (groupOf models pair)).junction =
        (planGroup pair (groupOf others pair)).junction := by
    intro pair mem
    by_cases self : pair.1 = pair.2
    · rw [groupOf_eq_of_self names perm self]
    · apply planGroup_junction_perm (problems_eq_nil_iff.mp clear pair mem) (groupOf_perm perm pair)
      · intro d within
        exact (mem_groupOf.mp within).2
      · exact self
  rw [junctions_eq, junctions_eq, List.filterMap_congr same]
  exact (pairs_perm perm).filterMap _

end Plan

end SchemaCompiler.Junction
