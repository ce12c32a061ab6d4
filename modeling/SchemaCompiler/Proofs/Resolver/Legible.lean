import SchemaCompiler.Proofs.Model.Legible
import SchemaCompiler.Proofs.Resolver.Accepted

/-!
# Legible junctions

A junction takes its texts from its two participants, so its model is legible if those of the
participants are (`legible_of_mem_junctions`). The names of its keys hold no blank, though they need
not be words: a letter in lower case may have a mark behind it that is no letter.
-/

set_option autoImplicit false

namespace SchemaCompiler.Resolver

open Junction (Implicit Plan Side)
open Text (IsName NoBlank OneLine)

variable {models junctions : List Model} {j : Implicit} {m : Model} {s : Side}

theorem mem_of_participant {name : String} (h : participant models name = .ok m) :
    m ∈ models ∧ m.name = name := by
  unfold participant at h
  split at h
  · next found =>
    cases h
    exact ⟨Model.mem_of_find? found, Model.name_of_find? found⟩
  · cases h

/-- The texts of a junction's model, from its two participants. -/
theorem texts_of_junctionModel (h : junctionModel models j = .ok m) :
    ∃ first ∈ models, ∃ second ∈ models, first.name = j.pair.1 ∧ second.name = j.pair.2 ∧
      m.module = first.module ∧
      m.tableName = some (first.table.table ++ "_to_" ++ second.table.table) ∧
      m.description = some ("Junction for " ++ first.name ++ " <-> " ++ second.name) ∧
      m.primaryKey = some (m.fields.map (·.name)) := by
  obtain ⟨first, there, rest⟩ := Outcome.bind_ok_iff.mp h
  obtain ⟨second, there', rest⟩ := Outcome.bind_ok_iff.mp rest
  obtain ⟨fields, _, done⟩ := Outcome.bind_ok_iff.mp rest
  cases done
  obtain ⟨mem, name⟩ := mem_of_participant there
  obtain ⟨mem', name'⟩ := mem_of_participant there'
  exact ⟨first, mem, second, mem', name, name', rfl, rfl, rfl, rfl⟩

/-- A model that is made for a planned junction has the junction's name. -/
theorem exists_planned (made : requiredJunctions models = .ok junctions) (mem : m ∈ junctions) :
    ∃ j ∈ (Plan.ofModels models).junctions, junctionModel models j = .ok m :=
  Outcome.exists_of_mem_right made mem

section Made

variable (made : requiredJunctions models = .ok junctions)

include made

/-- A junction between two models has a name made of theirs. -/
theorem name_of_mem_junctions (mem : m ∈ junctions) : ∃ first ∈ models, ∃ second ∈ models,
    m.name = first.name ++ "To" ++ second.name ∧ m.module = first.module ∧
      m.tableName = some (first.table.table ++ "_to_" ++ second.table.table) ∧
      m.description = some ("Junction for " ++ first.name ++ " <-> " ++ second.name) := by
  obtain ⟨j, planned, here⟩ := exists_planned made mem
  obtain ⟨first, memF, second, memS, nameF, nameS, module, table, described, _⟩ :=
    texts_of_junctionModel here
  obtain ⟨_, _, _, _, _, _, _, _, _, between⟩ := Plan.eq_between_of_mem planned
  refine ⟨first, memF, second, memS, ?_, module, table, described⟩
  rw [(junctionModel_ok here).1, between, nameF, nameS]
  rfl

/-- The name, the module and the table of a junction have one line. -/
theorem captioned_of_mem_junctions (captioned : ∀ m ∈ models, m.Captioned) (mem : m ∈ junctions) :
    m.Captioned := by
  obtain ⟨first, memF, second, memS, name, module, table, _⟩ := name_of_mem_junctions made mem
  have headF := captioned first memF
  have headS := captioned second memS
  refine ⟨?_, ?_, ?_⟩
  · rw [name]
    exact (headF.name.append (by decide)).append headS.name
  · rw [module]
    exact headF.module
  · rintro t named
    cases table.symm.trans named
    exact (headF.table.append (by decide)).append headS.table

/-- The texts before the block of a junction have one line, and its name is a word. -/
theorem headed_of_mem_junctions (headed : ∀ m ∈ models, m.Headed) (mem : m ∈ junctions) :
    m.Headed := by
  have captioned := captioned_of_mem_junctions made (fun m mem => (headed m mem).captioned) mem
  obtain ⟨first, memF, second, memS, name, _, _, described⟩ := name_of_mem_junctions made mem
  have headF := (headed first memF).name
  have headS := (headed second memS).name
  refine ⟨?_, captioned.module, captioned.tableName, ?_⟩
  · rw [name]
    exact (headF.append (by decide)).append headS
  · rintro t text
    cases described.symm.trans text
    exact ((OneLine.append (by decide) headF.oneLine).append (by decide)).append headS.oneLine

end Made

/-! ## Keys -/

theorem noBlank_relationNameOf {key : String} (h : NoBlank key) : NoBlank (relationNameOf key) := by
  unfold relationNameOf
  split
  · next rest letters =>
    intro c mem
    rw [String.toList_ofList, List.mem_reverse] at mem
    refine h c (List.mem_reverse.mp ?_)
    rw [letters]
    exact List.mem_cons_of_mem _ (List.mem_cons_of_mem _ mem)
  · exact h

/-- The keys of a junction hold no blank. -/
theorem noBlank_foreignKey (planned : j ∈ (Plan.ofModels models).junctions)
    (names : ∀ m ∈ models, NoBlank m.name) (mem : s ∈ j.sides) : NoBlank s.foreignKey := by
  obtain ⟨x, y, first, second, _, _, _, nameF, nameS, between⟩ := Plan.eq_between_of_mem planned
  obtain ⟨m, there, same, _⟩ := first.declared
  obtain ⟨m', there', same', _⟩ := second.declared
  have blankF : NoBlank j.pair.1 := nameF ▸ same ▸ names m there
  have blankS : NoBlank j.pair.2 := nameS ▸ same' ▸ names m' there'
  have lowered {t : String} (h : NoBlank t) : NoBlank (Text.lowerFirst t ++ "Id") :=
    (Text.noBlank_lowerFirst h).append (by decide)
  rw [between] at mem
  rcases List.mem_pair.mp mem with rfl | rfl
  · exact lowered blankF
  · show NoBlank (Junction.secondKey j.pair)
    unfold Junction.secondKey
    split
    · exact (NoBlank.append (by decide) blankS).append (by decide)
    · exact lowered blankS

/-- A copy of a legible key is legible under a name without blanks. -/
theorem legible_of_buildField {name : String} {key f : Field} {required unique : Bool}
    (blank : NoBlank name) (h : key.Legible)
    (built : buildField { keyCopy name key with required, unique } = .ok f) : f.Legible := by
  obtain ⟨type, rfl⟩ := exists_type_of_buildField built
  exact ⟨blank, h.dbType, fun _ => nofun, fun _ _ _ => nofun⟩

/-- The model of a junction between legible models is legible. -/
theorem legible_of_mem_junctions (made : requiredJunctions models = .ok junctions)
    (legible : ∀ m ∈ models, m.Legible) (mem : m ∈ junctions) : m.Legible := by
  obtain ⟨j, planned, here⟩ := exists_planned made mem
  obtain ⟨first, memF, second, memS, nameF, nameS, module, table, described, key⟩ :=
    texts_of_junctionModel here
  obtain ⟨_, relations, fields⟩ := junctionModel_ok here
  have keys : ∀ s ∈ j.sides, NoBlank s.foreignKey := fun s within =>
    noBlank_foreignKey planned (fun m mem => (legible m mem).name.noBlank) within
  have declared : ∀ f ∈ m.fields, f.Legible := by
    intro f within
    obtain ⟨s, side, own⟩ := Outcome.exists_of_mem_right fields within
    obtain ⟨p, key, found, keyed, built⟩ := sideField_ok own
    have referenced := (legible p (Model.mem_of_find? found)).fields key
      (Model.mem_of_referenceKey keyed)
    exact legible_of_buildField (keys s side) referenced built
  refine ⟨headed_of_mem_junctions made (fun m mem => (legible m mem).toHeaded) mem, declared, ?_,
    ?_, ?_⟩
  · intro r within
    rw [relations] at within
    obtain ⟨s, side, rfl⟩ := List.mem_map.mp within
    refine ⟨noBlank_relationNameOf (keys s side), fun key given => ?_⟩
    cases given
    exact keys s side
  · rintro names given name within
    cases key.symm.trans given
    obtain ⟨f, among, rfl⟩ := List.mem_map.mp within
    exact (declared f among).name.oneLine
  · rw [constraints_of_junctionModel here]
    exact List.forall_mem_nil _

end SchemaCompiler.Resolver
