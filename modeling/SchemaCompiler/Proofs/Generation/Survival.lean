import SchemaCompiler.Proofs.Generation.Accounting

/-!
# Generations that survive their models

A model whose block cannot be made is left out, and the document is written without it. The models
of the junctions are made before any block is, and what fails there leaves no document at all: the
key of a participant is copied, and a copy is checked. So valid models, checked or not, yield a
document exactly if every model with an implicit many-to-many relation has a key that can be copied
(`exists_document_iff`). Whatever else cannot be mapped is left out alone.
-/

set_option autoImplicit false

namespace SchemaCompiler.Generation

open Junction (Declaration Eligible Plan)
open Resolver (requiredJunctions)
open Validation (Clean validate)

variable {o : Options} {now : Timestamp} {models : List Model} {baseline : Option String}
  {doc : Document} {d : Draft} {m : Model}

/-- The key of a model that an implicit junction copies can be copied. -/
def Joinable (m : Model) : Prop :=
  ∀ r ∈ m.relations, r.isManyToMany = true → r.through = none →
    ∀ key, m.referenceKey = some key → key.Copyable

/-- The models of the junctions of valid models are made exactly if the models can be joined. -/
theorem exists_requiredJunctions_iff (names : (models.map (·.name)).Nodup)
    (clean : Clean (validate models)) :
    (∃ made, requiredJunctions models = .ok made) ↔ ∀ m ∈ models, Joinable m := by
  have accepted := Validation.accepted_of_clean clean
  refine (Resolver.exists_junctionModels_iff accepted).trans ⟨?_, ?_⟩
  · intro copyable m mem r declared many implicit key keyed
    obtain ⟨t, found, _⟩ := (accepted.resolvable m mem r declared).target
    have eligible : Eligible models ⟨m.name, r⟩ :=
      ⟨⟨m, mem, rfl, declared⟩, eq_of_beq many, implicit,
        ⟨t, Model.mem_of_find? found, Model.name_of_find? found⟩⟩
    obtain ⟨j, planned, _, s, side, _, model, _⟩ :=
      Plan.side_of_eligible names accepted.distinct accepted.paired eligible
    exact copyable j planned s side m key
      ((Model.find?_eq_some_iff names).mpr ⟨mem, model.symm⟩) keyed
  · intro joinable j planned s side p key found keyed
    -- either side of a junction stems from a relation of its participant
    obtain ⟨r, declared, many, implicit⟩ : ∃ r ∈ p.relations, r.isManyToMany = true ∧
        r.through = none := by
      obtain ⟨x, y, ex, ey, _, _, _, first, second, made⟩ := Plan.eq_between_of_mem planned
      have owner {e : Declaration} (eligible : Eligible models e) (same : e.model = s.model) :
          ∃ r ∈ p.relations, r.isManyToMany = true ∧ r.through = none := by
        obtain ⟨q, mem, name, declared⟩ := eligible.declared
        have there := (Model.find?_eq_some_iff names).mpr ⟨mem, name.trans same⟩
        cases found.symm.trans there
        exact ⟨e.relation, declared, beq_iff_eq.mpr eligible.manyToMany, eligible.implicit⟩
      rw [made] at side
      rcases List.mem_pair.mp side with rfl | rfl
      · exact owner ex first
      · exact owner ey second
    exact joinable p (Model.mem_of_find? found) r declared many implicit key keyed

/-- A model is left out of the document exactly if a resolver that was asked nothing before makes no
block of it. -/
theorem WrittenFrom.mem_skipped_iff (from' : WrittenFrom o now models baseline doc d)
    (names : (models.map (·.name)).Nodup) (mem : m ∈ models ++ d.junctions) :
    m.name ∈ doc.skipped ↔
      ∀ b, (block o d.formatter .fresh m (models ++ d.junctions)).1 ≠ .ok b := by
  have plan : (Resolver.fresh.plan (models ++ d.junctions)).1 = Plan.ofModels models :=
    Resolver.ofModels_beside (Validation.accepted_of_clean from'.clean) from'.junctions
  have attempted : m ∈ d.models ++ d.junctions := from'.models_eq.symm ▸ mem
  rw [from'.skipped_eq, block_fst, plan,
    from'.attempts.mem_skipped_iff (from'.draft_names_nodup names) attempted,
    succeeds_eq_false_iff]

/-- Models of distinct names that validation accepts, whether their types were checked or not, yield
a document exactly if it can be dated and every model with an implicit many-to-many relation has a
key that can be copied. The document then leaves out just those declared and synthesized models that
have no block. -/
theorem exists_document_iff (names : (models.map (·.name)).Nodup) {report : Validation.Report}
    (passed : validate models = .ok report) (valid : report.isValid = true) (o : Options)
    (now : Timestamp) (baseline : Option String) :
    ((∃ doc, (generate o .fresh now models baseline).result = .ok doc) ↔
      (∃ made, Document.stamp o now = .ok made) ∧ ∀ m ∈ models, Joinable m) ∧
    ∀ doc, (generate o .fresh now models baseline).result = .ok doc →
      ∃ d, WrittenFrom o now models baseline doc d ∧ ∀ m ∈ models ++ d.junctions,
        (m.name ∈ doc.skipped ↔
          ∀ b, (block o d.formatter .fresh m (models ++ d.junctions)).1 ≠ .ok b) := by
  have clean : Clean (validate models) := ⟨report, passed, valid⟩
  refine ⟨⟨?_, ?_⟩, ?_⟩
  · rintro ⟨doc, done⟩
    obtain ⟨d, from'⟩ := exists_draft done
    obtain ⟨made, _, dated, _⟩ := from'.written
    exact ⟨⟨made, dated⟩, (exists_requiredJunctions_iff names clean).mp ⟨_, from'.junctions⟩⟩
  · rintro ⟨⟨made, dated⟩, joinable⟩
    obtain ⟨junctions, joined⟩ := (exists_requiredJunctions_iff names clean).mpr joinable
    exact exists_document clean joined dated baseline
  · intro doc done
    obtain ⟨d, from'⟩ := exists_draft done
    exact ⟨d, from', fun m mem => from'.mem_skipped_iff names mem⟩

/-- An article with a key of a type that nobody has checked, and tags that articles have. -/
def tagged (spelling : String) : List Model := [
  { Model.entity "Article" [.plain "tags" .manyToMany "Tag"] with
    fields := [Field.plain "id" (some (.unchecked spelling))] },
  .entity "Tag" [.plain "articles" .manyToMany "Article"]]

theorem tagged_clean : ∀ spelling ∈ ["int", "blob"], Clean (validate (tagged spelling)) := by
  decide +kernel

/-- The articles can be joined to their tags if the type of their key is spelled. -/
theorem joinable_tagged_iff {spelling : String} : (∀ m ∈ tagged spelling, Joinable m) ↔
    (FieldKind.ofSpelling? spelling).isSome = true := by
  constructor
  · intro joinable
    exact joinable _ List.mem_cons_self _ List.mem_cons_self rfl rfl _ rfl spelling rfl
  · intro spelled
    refine List.forall_mem_cons.mpr ⟨?_, List.forall_mem_singleton.mpr ?_⟩
    · intro r _ _ _ key keyed other unchecked
      cases keyed
      cases unchecked
      exact spelled
    · intro r _ _ _ key keyed other unchecked
      cases keyed
      cases unchecked

/-- An article whose type is spelled as another name of an integer has no block, and the document
leaves out no more. -/
theorem exists_document_iff_tagged : ((tagged "int").map (·.name)).Nodup ∧
    Clean (validate (tagged "int")) ∧
    ∃ doc, (generate .standard .fresh (.whole 0) (tagged "int") none).result = .ok doc ∧
      ∃ d, WrittenFrom .standard (.whole 0) (tagged "int") none doc d ∧
        ∀ m ∈ tagged "int" ++ d.junctions, (m.name ∈ doc.skipped ↔
          ∀ b, (block .standard d.formatter .fresh m (tagged "int" ++ d.junctions)).1 ≠ .ok b) := by
  have names : ((tagged "int").map (·.name)).Nodup := by decide
  have clean := tagged_clean "int" List.mem_cons_self
  obtain ⟨report, passed, valid⟩ := clean
  obtain ⟨survives, leaves⟩ :=
    exists_document_iff names passed valid .standard (.whole 0) none
  obtain ⟨doc, done⟩ := survives.mpr ⟨⟨none, rfl⟩, joinable_tagged_iff.mpr (by decide)⟩
  exact ⟨names, ⟨report, passed, valid⟩, doc, done, leaves doc done⟩

/-- A type that is no abstract type leaves no document of the articles and none of the tags. -/
theorem tagged_without_document : ((tagged "blob").map (·.name)).Nodup ∧
    Clean (validate (tagged "blob")) ∧
    ¬ ∃ doc, (generate .standard .fresh (.whole 0) (tagged "blob") none).result = .ok doc := by
  have names : ((tagged "blob").map (·.name)).Nodup := by decide
  refine ⟨names, tagged_clean "blob" (List.mem_cons_of_mem _ List.mem_cons_self), ?_⟩
  rintro ⟨doc, done⟩
  obtain ⟨d, from'⟩ := exists_draft done
  have joinable := (exists_requiredJunctions_iff names from'.clean).mp ⟨_, from'.junctions⟩
  exact absurd (joinable_tagged_iff.mp joinable) (by decide)

end SchemaCompiler.Generation
