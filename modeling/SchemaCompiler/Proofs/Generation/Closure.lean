import SchemaCompiler.Proofs.Generation.Accounting
import SchemaCompiler.Proofs.Resolver.Label

/-!
# Documents that are closed under reference

The type of a relation member is the name of a declared or a synthesized model
(`exists_model_of_member`). A model whose block cannot be made is left out alone: the blocks that
refer to it stay. So the document holds a block for the type of a member unless the model was left
out and no earlier document has a block of it (`relation_types_held`).
-/

set_option autoImplicit false

namespace SchemaCompiler

namespace Resolver

open Junction (Plan)

variable {m : Model} {models junctions : List Model} {keys : List ForeignKey} {r : Relation}
  {c : Column} {columns : List Column}

/-- The side that a relation uses belongs to a synthesized model. -/
theorem exists_junction_of_side
    (made : junctionModels (Plan.ofModels models) models = .ok junctions) {s : Junction.Side}
    (found : (Plan.ofModels models).side? m.name r.name = some s) :
    ∃ t ∈ junctions, s.junction = t.name := by
  obtain ⟨j, planned, side⟩ :=
    List.mem_flatMap.mp (List.mem_reverse.mp (List.mem_of_find?_eq_some found))
  have named : j.name ∈ junctions.map (·.name) :=
    names_of_junctionModels made ▸ List.mem_map_of_mem planned
  obtain ⟨t, mem, same⟩ := List.mem_map.mp named
  exact ⟨t, mem, (side_of_planned planned side).1.trans same.symm⟩

/-- The type of a relation member is the name of a declared or a synthesized model. -/
theorem exists_model_of_member
    (made : junctionModels (Plan.ofModels models) models = .ok junctions)
    (here : member (Plan.ofModels models) m (models ++ junctions) keys r = .ok (some c)) :
    ∃ t ∈ models ++ junctions, c.type.model? = some t.name := by
  obtain ⟨target, found, ⟨_, owns⟩ | ⟨_, rfl⟩ | ⟨_, many⟩⟩ := member_cases here
  · obtain ⟨_, _, _, _, rfl⟩ := belongsToMember_eq owns
    exact ⟨target, Model.mem_of_find? found, rfl⟩
  · refine ⟨target, Model.mem_of_find? found, ?_⟩
    unfold backReferenceMember
    split <;> rfl
  · obtain ⟨_, junction, _, there, rfl⟩ | ⟨s, side, rfl⟩ := manyToManyMember_cases many
    · exact ⟨junction, Model.mem_of_find? there, rfl⟩
    · obtain ⟨t, mem, same⟩ := exists_junction_of_side made side
      exact ⟨t, List.mem_append_right _ mem, congrArg some same⟩

end Resolver

namespace Generation

open Resolver (requiredJunctions)
open Text (Occurs)
open Validation (Clean validate)

variable {o : Options} {now : Timestamp} {models : List Model} {baseline : Option String}
  {doc : Document} {d : Draft}

/-- A document holds a block of a model, a generated one or one that is carried over. -/
def HoldsModel (d : Draft) (baseline : Option String) (doc : Document) (name : String) : Prop :=
  (∃ module, RenderedIn d doc module name) ∨
    ∃ b ∈ keptBlocks d baseline, b.kind = .model ∧ b.name = name ∧ Occurs b.text doc.content

/-- A document holds a block of a model of the draft unless the model was left out and no earlier
document has a block of it. -/
theorem WrittenFrom.holdsModel_iff (from' : WrittenFrom o now models baseline doc d)
    (names : (models.map (·.name)).Nodup) {name : String}
    (listed : name ∈ (models ++ d.junctions).map (·.name)) :
    HoldsModel d baseline doc name ↔
      (name ∈ doc.skipped → ∃ b ∈ baselineBlocks baseline, b.kind = .model ∧ b.name = name) := by
  have h := from'.attempts
  have distinct := from'.draft_names_nodup names
  have rendered : name ∈ d.contributions.map (·.2.name) ↔ name ∉ doc.skipped := by
    rw [h.mem_rendered_iff_not_mem_skipped distinct, from'.skipped_eq, from'.models_eq]
    exact ⟨And.right, fun kept => ⟨listed, kept⟩⟩
  constructor
  · rintro (⟨module, b, _, _, only, _⟩ | ⟨b, kept, kind, same, _⟩) out
    · have mem : (module, b) ∈ d.contributions.filter (·.2.name == name) :=
        only ▸ List.mem_singleton_self _
      obtain ⟨within, same⟩ := List.mem_filter.mp mem
      exact absurd out (rendered.mp (List.mem_map.mpr ⟨_, within, eq_of_beq same⟩))
    · exact ⟨b, List.mem_of_mem_filter kept, kind, same⟩
  · intro earlier
    by_cases out : name ∈ doc.skipped
    · obtain ⟨b, mem, kind, rfl⟩ := earlier out
      have kept : b ∈ keptBlocks d baseline := by
        refine List.mem_filter.mpr ⟨mem, ?_⟩
        rw [kind, Bool.and_eq_true, Bool.not_eq_true', ← Bool.not_eq_true, List.contains_iff_mem]
        exact ⟨rfl, fun there => rendered.mp there out⟩
      have row := (from'.kept names).2
      exact .inr ⟨b, kept, kind, rfl, (Text.occurs_of_mem (List.mem_map_of_mem kept)).trans row⟩
    · obtain ⟨⟨module, b⟩, within, rfl⟩ := List.mem_map.mp (rendered.mpr out)
      have only := filter_name_eq_singleton (h.contributions_nodup distinct) within
      exact .inl ⟨module, from'.renderedIn only⟩

/-- In the document of models of distinct names the type of each relation member of each generated
block is the name of a declared or a synthesized model. The document holds a block of that model, a
generated one or one that is carried over, unless the model was left out and no earlier document has
a block of it. -/
theorem relation_types_held (names : (models.map (·.name)).Nodup)
    (done : (generate o .fresh now models baseline).result = .ok doc) :
    ∃ d, WrittenFrom o now models baseline doc d ∧
      ∀ p ∈ d.contributions, ∀ c ∈ p.2.relations, ∃ t ∈ models ++ d.junctions,
        c.type.model? = some t.name ∧
          (HoldsModel d baseline doc t.name ↔ (t.name ∈ doc.skipped →
            ∃ b ∈ baselineBlocks baseline, b.kind = .model ∧ b.name = t.name)) := by
  obtain ⟨d, from'⟩ := exists_draft done
  refine ⟨d, from', fun p mem c within => ?_⟩
  obtain ⟨m, _, made⟩ := from'.attempts.exists_outcome mem
  obtain ⟨keys, _, r, _, here⟩ := Resolver.mem_members (blockUnder_ok made).2.2 within
  obtain ⟨t, listed, about⟩ := Resolver.exists_model_of_member from'.junctions here
  exact ⟨t, listed, about, from'.holdsModel_iff names (List.mem_map_of_mem listed)⟩

/-! ## A reference to a model that is left out -/

/-- A waiter works in a kitchen. -/
def waiter : Model := .entity "Waiter" [.plain "kitchen" .belongsTo "Kitchen"]

/-- A kitchen and its waiter. -/
def restaurant : List Model := [kitchen, waiter]

theorem restaurant_clean : Clean (validate restaurant) :=
  Validation.clean_of_plain (by decide) rfl (by decide)

/-- The draft of a restaurant has the block of the waiter only. -/
theorem restaurant_draft (from' : WrittenFrom .standard now restaurant baseline doc d) :
    d.skipped = ["Kitchen"] ∧ ∃ b, d.contributions = [("core", b)] ∧
      ∃ c ∈ b.relations, c.type.model? = some "Kitchen" := by
  have made : requiredJunctions restaurant = .ok [] := rfl
  have none : d.junctions = [] := (Except.ok.inj (made.symm.trans from'.junctions)).symm
  have under := from'.eq_under
  rw [none] at under
  rw [under]
  exact ⟨rfl, _, rfl, _, List.mem_cons_self, rfl⟩

/-- The document of a restaurant holds the block of its kitchen that an earlier one has. -/
theorem relation_types_held_restaurant : (restaurant.map (·.name)).Nodup ∧ ∃ doc,
    (generate .standard .fresh (.whole 0) restaurant (some earlierKitchen)).result = .ok doc ∧
      ∃ d, WrittenFrom .standard (.whole 0) restaurant (some earlierKitchen) doc d ∧
        ∃ p ∈ d.contributions, ∃ c ∈ p.2.relations, c.type.model? = some "Kitchen" ∧
          "Kitchen" ∈ doc.skipped ∧ HoldsModel d (some earlierKitchen) doc "Kitchen" := by
  have names : (restaurant.map (·.name)).Nodup := by decide
  have made : requiredJunctions restaurant = .ok [] := rfl
  have dated : Document.stamp .standard (.whole 0) = .ok none := rfl
  obtain ⟨doc, done⟩ := exists_document restaurant_clean made dated (some earlierKitchen)
  obtain ⟨d, from', held⟩ := relation_types_held names done
  obtain ⟨out, b, only, c, within, about⟩ := restaurant_draft from'
  have mem : ("core", b) ∈ d.contributions := only ▸ List.mem_singleton_self _
  have skipped : "Kitchen" ∈ doc.skipped := by
    rw [from'.skipped_eq, out]
    exact List.mem_singleton_self _
  have earlier : ((baselineBlocks (some earlierKitchen)).any fun b =>
      b.kind == .model && b.name == "Kitchen") = true := by decide +kernel
  obtain ⟨block, there, fits⟩ := List.any_eq_true.mp earlier
  rw [Bool.and_eq_true, beq_iff_eq, beq_iff_eq] at fits
  obtain ⟨t, _, same, holds⟩ := held _ mem c within
  rw [← Option.some.inj (about.symm.trans same)] at holds
  exact ⟨names, doc, done, d, from', _, mem, c, within, about, skipped,
    holds.mpr fun _ => ⟨block, there, fits⟩⟩

/-- A waiter's block refers to the kitchen, of which the document holds no block. -/
theorem waiter_refers_to_no_kitchen : (restaurant.map (·.name)).Nodup ∧ ∃ doc,
    (generate .standard .fresh (.whole 0) restaurant none).result = .ok doc ∧
      ∃ d, WrittenFrom .standard (.whole 0) restaurant none doc d ∧
        ∃ p ∈ d.contributions, ∃ c ∈ p.2.relations, c.type.model? = some "Kitchen" ∧
          ¬ HoldsModel d none doc "Kitchen" := by
  have names : (restaurant.map (·.name)).Nodup := by decide
  have made : requiredJunctions restaurant = .ok [] := rfl
  have dated : Document.stamp .standard (.whole 0) = .ok none := rfl
  obtain ⟨doc, done⟩ := exists_document restaurant_clean made dated none
  obtain ⟨d, from'⟩ := exists_draft done
  obtain ⟨out, b, only, c, within, about⟩ := restaurant_draft from'
  have mem : ("core", b) ∈ d.contributions := only ▸ List.mem_singleton_self _
  have skipped : "Kitchen" ∈ doc.skipped := by
    rw [from'.skipped_eq, out]
    exact List.mem_singleton_self _
  have listed : "Kitchen" ∈ (restaurant ++ d.junctions).map (·.name) := by
    rw [List.map_append]
    exact List.mem_append_left _ List.mem_cons_self
  refine ⟨names, doc, done, d, from', _, mem, c, within, about, fun held => ?_⟩
  obtain ⟨_, nowhere, _⟩ := (from'.holdsModel_iff names listed).mp held skipped
  cases nowhere

end Generation

end SchemaCompiler
