import SchemaCompiler.Proofs.Generation.Accounting
import SchemaCompiler.Proofs.Resolver.Legible

/-!
# The modules of a document

A declared model stands under its home module, which is the core if it names none. A junction stands
under the module that the first model of its pair names, as it is named, so that it stands under
its home module too unless that model names none: then it is astray, under the empty module.

The modules of a document are therefore the home modules of the declared models, followed by the
empty one if some junction is astray (`WrittenFrom.modules_eq`). Whether a document spans several
database schemas is decided by its modules, and the empty one counts as a module other than the
core (`WrittenFrom.multiSchema_iff`). The directives of the blocks, the connection and the client
generator follow that decision.
-/

set_option autoImplicit false

namespace SchemaCompiler

/-- What is appended adds one name at most, if it holds no other new one. -/
theorem Text.eraseDups_append_one {as bs : List String} {s : String} (new : s ∉ as)
    (within : ∀ b ∈ bs, b = s ∨ b ∈ as) :
    (as ++ bs).eraseDups = as.eraseDups ++ if s ∈ bs then [s] else [] := by
  have added : bs.removeAll as = List.replicate (bs.count s) s := by
    rw [← List.filter_beq]
    refine List.filter_congr fun b mem => ?_
    rcases within b mem with rfl | old
    · simp [new]
    · have other : b ≠ s := fun same => new (same ▸ old)
      simp [old, other]
  rw [List.eraseDups_append, added]
  split
  next mem =>
    obtain ⟨n, more⟩ := Nat.exists_eq_add_one.mpr (List.count_pos_iff.mpr mem)
    rw [more, List.replicate_succ, List.eraseDups_cons]
    simp
  next other => rw [List.count_eq_zero.mpr other]; rfl

theorem Model.homeModule_ne_empty (m : Model) : m.homeModule ≠ "" := by
  unfold Model.homeModule
  split
  next => decide
  next named => simpa using named

theorem Model.homeModule_of_named {m : Model} (named : m.module ≠ "") : m.homeModule = m.module :=
  if_neg (by simpa using named)

/-! ## Directives and settings -/

/-- A text begins as a directive does that states the database schema of a table. -/
def IsSchemaDirective (directive : String) : Prop := "@@schema(".toList <+: directive.toList

theorem Index.not_isSchemaDirective (i : Index) : ¬ IsSchemaDirective i.render := by
  unfold IsSchemaDirective Index.render
  cases i.kind <;> simp

theorem ModelBlock.not_isSchemaDirective_keyDirective (names : List String) :
    ¬ IsSchemaDirective (ModelBlock.keyDirective names) := by
  simp [IsSchemaDirective, ModelBlock.keyDirective]

theorem Formatter.exists_schemaDirective_iff (f : Formatter) (t : TableRef) :
    (∃ s ∈ f.tableDirectives t, IsSchemaDirective s) ↔ f.multiSchema = true := by
  unfold Formatter.tableDirectives IsSchemaDirective
  cases f.multiSchema <;> simp

/-- A block with a table states its schema if there are several, and otherwise does not. -/
theorem ModelBlock.exists_schemaDirective_iff {b : ModelBlock} {t : TableRef} (f : Formatter)
    (table : b.table = some t) :
    (∃ s ∈ b.directives f, IsSchemaDirective s) ↔ f.multiSchema = true := by
  rw [← f.exists_schemaDirective_iff t]
  unfold ModelBlock.directives
  rw [table]
  constructor
  · rintro ⟨s, mem, states⟩
    rcases List.mem_append.mp mem with others | mem
    · exfalso
      rcases List.mem_append.mp others with key | index
      · split at key
        next => cases key
        next =>
          cases List.mem_singleton.mp key
          exact not_isSchemaDirective_keyDirective _ states
      · obtain ⟨i, -, rfl⟩ := List.mem_map.mp index
        exact i.not_isSchemaDirective states
    · exact ⟨s, mem, states⟩
  · rintro ⟨s, mem, states⟩
    exact ⟨s, List.mem_append_right _ mem, states⟩

namespace Document

/-- The settings of the connection. -/
def connectionEntries (o : Options) (schemas : List String) : List (String × String) :=
  [("provider", enclosed o.dialect.name), ("url", "env(" ++ enclosed o.connectionEnv ++ ")")]
    ++ listEntry "schemas" schemas

/-- The settings of the client generator. -/
def clientEntries (o : Options) (features : List String) : List (String × String) :=
  [("provider", enclosed "prisma-client-js"), ("output", enclosed o.clientOutput)]
    ++ listEntry "binaryTargets" o.binaryTargets
    ++ listEntry "previewFeatures" features

theorem datasource_eq (o : Options) (schemas : List String) :
    datasource o schemas = settings "datasource db" (connectionEntries o schemas) := rfl

theorem clientGenerator_eq (o : Options) (features : List String) :
    clientGenerator o features = settings "generator client" (clientEntries o features) := rfl

theorem mem_listEntry_keys {key other : String} {items : List String} :
    other ∈ (listEntry key items).map (·.1) ↔ other = key ∧ items ≠ [] := by
  unfold listEntry
  cases items <;> simp

theorem schemas_mem_connectionEntries {o : Options} {schemas : List String} :
    "schemas" ∈ (connectionEntries o schemas).map (·.1) ↔ schemas ≠ [] := by
  unfold connectionEntries
  rw [List.map_append, List.mem_append, mem_listEntry_keys]
  simp

/-- The feature of several database schemas is set if there are any. -/
theorem multiSchema_mem_clientEntries {o : Options} {schemas : List String} :
    ("previewFeatures", enclosedList ["multiSchema"]) ∈ clientEntries o (previewFeatures schemas) ↔
      schemas ≠ [] := by
  unfold clientEntries listEntry previewFeatures
  cases schemas <;> cases o.binaryTargets <;> simp

/-- The connection and the client generator stand in a document as they are. -/
theorem occurs_settings (o : Options) (made : Option Moment) (sections : List String)
    (legacy : List Block) (schemas : List String) {text : String}
    (mem : text ∈ [datasource o schemas, clientGenerator o (previewFeatures schemas)]) :
    Text.Occurs text (assemble o made sections legacy schemas) :=
  (Text.occurs_of_mem (List.mem_append_left _ (List.mem_append_left _
    (List.mem_cons_of_mem _ mem)))).append_right _

end Document

namespace Generation

open Junction (Plan)
open Text (Occurs)
open Validation (Clean validate)

variable {o : Options} {now : Timestamp} {models : List Model}
  {baseline : Option String} {doc : Document} {d : Draft} {j m : Model}

/-! ## Groups of models -/

/-- The first model of some pair names no module, so that their junction is astray. -/
def HasStray (models : List Model) : Prop :=
  ∃ pair ∈ (Plan.ofModels models).junctions.map (·.pair), ∃ first ∈ models,
    first.name = pair.1 ∧ first.module = ""

instance (models : List Model) : Decidable (HasStray models) :=
  inferInstanceAs (Decidable (∃ pair ∈ (Plan.ofModels models).junctions.map (·.pair),
    ∃ first ∈ models, first.name = pair.1 ∧ first.module = ""))

/-- The models call for several database schemas: the dialect has them, and some module is not the
core. -/
def SpansSchemas (o : Options) (models : List Model) : Prop :=
  o.dialect = .postgresql ∧ ((∃ m ∈ models, m.homeModule ≠ coreModule) ∨ HasStray models)

/-- A junction stands under the module that the first model of its pair names, and there alone. -/
def Draft.UnderFirst (d : Draft) (models : List Model) (j : Model) : Prop :=
  ∃ planned ∈ (Plan.ofModels models).junctions, ∃ first ∈ models,
    j.name = planned.name ∧ first.name = planned.pair.1 ∧ first.module ∈ d.modules ∧
      ∀ g ∈ d.groups, j ∈ g.attempts.map (·.model) ↔ g.module = first.module

theorem groupByKey_keys {α : Type} (keyed : List (String × α)) :
    (groupByKey keyed).map (·.1) = (keyed.map (·.1)).eraseDups := by
  unfold groupByKey
  rw [List.map_map]
  exact List.map_id _

theorem Profile.supportsSchemas_iff (dialect : Dialect) :
    (Profile.ofDialect dialect).supportsSchemas = true ↔ dialect = .postgresql := by
  cases dialect <;> decide

/-- A model is attempted in the groups that it is assigned to. -/
theorem Attempts.exists_group_iff {outcome : Model → Except BlockFailure ModelBlock}
    (h : Attempts d outcome) {module : String} :
    (∃ g ∈ d.groups, g.module = module ∧ m ∈ g.attempts.map (·.model)) ↔
      (module, m) ∈ assigned d.models d.junctions := by
  have listed := (h.once.map fun p => (p.1, p.2.model)).mem_iff (a := (module, m))
  rw [List.map_flatMap, List.map_map] at listed
  simp only [List.map_map, Function.comp_def, List.map_id'] at listed
  rw [← listed, List.mem_flatMap]
  refine exists_congr fun g => and_congr_right fun _ => ?_
  simp only [List.mem_map, Prod.mk.injEq]
  exact ⟨fun ⟨same, a, tried, is⟩ => ⟨a, tried, same, is⟩,
    fun ⟨a, tried, same, is⟩ => ⟨same, a, tried, is⟩⟩

/-- A junction is assigned to the module it names, and is no declared model. -/
theorem mem_assigned_iff {junctions : List Model} {module : String}
    (names : ((models ++ junctions).map (·.name)).Nodup) (mem : j ∈ junctions) :
    (module, j) ∈ assigned models junctions ↔ module = j.module := by
  rw [List.map_append] at names
  have synthesized : j ∉ models := fun declared =>
    List.disjoint_of_nodup_append names (List.mem_map_of_mem declared) (List.mem_map_of_mem mem)
  unfold assigned
  simp only [List.mem_append, List.mem_map, Prod.mk.injEq]
  constructor
  · rintro (⟨m, declared, _, rfl⟩ | ⟨_, _, rfl, rfl⟩)
    · exact absurd declared synthesized
    · rfl
  · rintro rfl
    exact .inr ⟨j, mem, rfl, rfl⟩

namespace WrittenFrom

variable (from' : WrittenFrom o now models baseline doc d)

include from'

theorem document_modules : doc.modules = d.modules := by
  obtain ⟨_, _, _, rfl⟩ := from'.written
  rfl

theorem modules_eq_keys : d.modules = (groupAll models d.junctions).map (·.1) := by
  rw [Draft.modules, from'.eq_under]
  exact List.map_map

/-- A junction is made for a planned one, and names the module of the first model of its pair. -/
theorem exists_first (mem : j ∈ d.junctions) : ∃ planned ∈ (Plan.ofModels models).junctions,
    ∃ first ∈ models, j.name = planned.name ∧ first.name = planned.pair.1 ∧
      j.module = first.module := by
  obtain ⟨planned, among, made⟩ := Resolver.exists_planned from'.junctions mem
  obtain ⟨first, memF, _, _, nameF, _, module, _⟩ := Resolver.texts_of_junctionModel made
  exact ⟨planned, among, first, memF, (Resolver.junctionModel_ok made).1, nameF, module⟩

/-- A junction that is not astray stands under the home module of a declared model. -/
theorem module_of_mem_junctions (mem : j ∈ d.junctions) :
    j.module = "" ∨ j.module ∈ models.map (·.homeModule) := by
  obtain ⟨_, _, first, memF, _, _, module⟩ := from'.exists_first mem
  by_cases unnamed : first.module = ""
  · exact .inl (module.trans unnamed)
  · exact .inr (List.mem_map.mpr
      ⟨first, memF, (Model.homeModule_of_named unnamed).trans module.symm⟩)

/-- The settings of the connection and of the client generator stand in the document. -/
theorem occurs_settings :
    Occurs (Document.settings "datasource db" (Document.connectionEntries o d.schemas))
        doc.content ∧
      Occurs (Document.settings "generator client"
        (Document.clientEntries o (Document.previewFeatures d.schemas))) doc.content := by
  obtain ⟨made, _, _, rfl⟩ := from'.written
  rw [← Document.datasource_eq, ← Document.clientGenerator_eq]
  exact ⟨Document.occurs_settings o made _ _ _ List.mem_cons_self,
    Document.occurs_settings o made _ _ _ (List.mem_cons_of_mem _ List.mem_cons_self)⟩

/-- A block stands in the document as it is written. -/
theorem occurs_block {c : String × ModelBlock} (mem : c ∈ d.contributions) :
    Occurs (c.2.render d.formatter) doc.content := by
  obtain ⟨_, text, _, _, among, inner⟩ := from'.attempts.exists_section mem
  obtain ⟨made, _, _, rfl⟩ := from'.written
  exact inner.trans (occurs_section o made _ among)

variable (names : (models.map (·.name)).Nodup)

include names

/-- A junction stands under the empty module exactly if the first model of a pair names none. -/
theorem hasStray_iff : HasStray models ↔ "" ∈ d.junctions.map (·.module) := by
  constructor
  · rintro ⟨_, paired, first, memF, nameF, unnamed⟩
    obtain ⟨planned, among, rfl⟩ := List.mem_map.mp paired
    obtain ⟨j, mem, made⟩ := Outcome.exists_of_mem_left from'.junctions among
    obtain ⟨first', memF', _, _, nameF', _, module, _⟩ := Resolver.texts_of_junctionModel made
    have same := List.inj_on_of_nodup_map names memF' memF (nameF'.trans nameF.symm)
    exact List.mem_map.mpr ⟨j, mem, module.trans (same ▸ unnamed)⟩
  · intro mem
    obtain ⟨j, mem, empty⟩ := List.mem_map.mp mem
    obtain ⟨planned, among, first, memF, _, nameF, module⟩ := from'.exists_first mem
    exact ⟨_, List.mem_map_of_mem among, first, memF, nameF, module.symm.trans empty⟩

/-- The modules are the home modules of the declared models, in the order of the first model of
each, and the empty one if a junction is astray. -/
theorem modules_eq : doc.modules =
    (models.map (·.homeModule)).eraseDups ++ if HasStray models then [""] else [] := by
  have new : "" ∉ models.map (·.homeModule) := fun mem => by
    obtain ⟨m, _, empty⟩ := List.mem_map.mp mem
    exact m.homeModule_ne_empty empty
  have within : ∀ module ∈ d.junctions.map (·.module),
      module = "" ∨ module ∈ models.map (·.homeModule) :=
    List.forall_mem_map.mpr fun j mem => from'.module_of_mem_junctions mem
  rw [from'.document_modules, from'.modules_eq_keys, groupAll, groupByKey_keys]
  simp only [List.map_append, List.map_map, Function.comp_def]
  rw [Text.eraseDups_append_one new within]
  exact congrArg _ (if_congr (from'.hasStray_iff names).symm rfl rfl)

/-- A document spans several schemas if its dialect has them and some module is not the core. -/
theorem multiSchema_iff : d.formatter.multiSchema = true ↔ SpansSchemas o models := by
  have decided : d.formatter.multiSchema =
      (d.modules.any (· != coreModule) && (Profile.ofDialect o.dialect).supportsSchemas) := by
    rw [from'.modules_eq_keys, List.any_map, from'.eq_under]
    rfl
  have home : (models.map (·.homeModule)).eraseDups.any (· != coreModule) = true ↔
      ∃ m ∈ models, m.homeModule ≠ coreModule := by
    simp [List.any_eq_true, List.mem_eraseDups]
  have stray : (if HasStray models then [""] else []).any (· != coreModule) = true ↔
      HasStray models := by
    split <;> simp [*, coreModule]
  rw [decided, Bool.and_eq_true, Profile.supportsSchemas_iff, and_comm, ← from'.document_modules,
    from'.modules_eq names, List.any_append, Bool.or_eq_true, home, stray]
  rfl

/-- There are schemas to list if there are several, for then there is a model. -/
theorem schemas_ne_nil_iff : d.schemas ≠ [] ↔ SpansSchemas o models := by
  rw [← from'.multiSchema_iff names]
  unfold Draft.schemas
  split
  next several =>
    refine iff_of_true ?_ several
    obtain ⟨m, mem⟩ : ∃ m, m ∈ models := by
      rcases ((from'.multiSchema_iff names).mp several).2 with
        ⟨m, mem, _⟩ | ⟨_, _, first, memF, _⟩
      · exact ⟨m, mem⟩
      · exact ⟨first, memF⟩
    have listed : m ∈ d.allModels := List.mem_append_left _ (from'.models_eq.symm ▸ mem)
    exact List.ne_nil_of_mem (Text.mem_sortedDistinct.mpr
      (List.mem_map_of_mem (f := fun m => d.formatter.schemaName m.table) listed))
  next single => exact iff_of_false (· rfl) single

/-- The directives of a block state its schema if there are several. -/
theorem exists_schemaDirective_iff {c : String × ModelBlock} (mem : c ∈ d.contributions) :
    (∃ s ∈ c.2.directives d.formatter, IsSchemaDirective s) ↔ SpansSchemas o models := by
  obtain ⟨m, _, made⟩ := from'.attempts.exists_outcome mem
  exact (ModelBlock.exists_schemaDirective_iff _ (blockUnder_frame made).1).trans
    (from'.multiSchema_iff names)

/-- A junction stands under the module that the first model of its pair names, and there alone. -/
theorem underFirst (mem : j ∈ d.junctions) : d.UnderFirst models j := by
  have attempts := from'.attempts
  have assigned {module : String} :
      (∃ g ∈ d.groups, g.module = module ∧ j ∈ g.attempts.map (·.model)) ↔ module = j.module :=
    attempts.exists_group_iff.trans (mem_assigned_iff (from'.draft_names_nodup names) mem)
  obtain ⟨planned, among, first, memF, name, nameF, module⟩ := from'.exists_first mem
  obtain ⟨own, grouped, same, here⟩ := assigned.mpr module.symm
  refine ⟨planned, among, first, memF, name, nameF, ?_, fun g grouped' => ⟨fun here' => ?_, ?_⟩⟩
  · exact same ▸ List.mem_map_of_mem grouped
  · exact (assigned.mp ⟨g, grouped', rfl, here'⟩).trans module
  · intro same'
    -- no two groups have one module
    rw [List.inj_on_of_nodup_map attempts.modules grouped' grouped (same'.trans same.symm)]
    exact here

end WrittenFrom

/-- The modules of a document are the home modules of the declared models, each once in the order of
their first models, and the empty one if a junction is astray. Each junction stands under the module
that the first model of its pair names. The blocks state database schemas, the connection lists
them, and the client generator enables them exactly if the dialect has them and there is a module
other than the core, the empty one included. -/
theorem modules_of_registered (names : (models.map (·.name)).Nodup)
    (done : (generate o .fresh now models baseline).result = .ok doc) :
    ∃ d, WrittenFrom o now models baseline doc d ∧
      doc.modules =
        (models.map (·.homeModule)).eraseDups ++ (if HasStray models then [""] else []) ∧
      (∀ j ∈ d.junctions, d.UnderFirst models j) ∧
      (∀ c ∈ d.contributions, Occurs (c.2.render d.formatter) doc.content ∧
        ((∃ s ∈ c.2.directives d.formatter, IsSchemaDirective s) ↔ SpansSchemas o models)) ∧
      (Occurs (Document.settings "datasource db" (Document.connectionEntries o d.schemas))
          doc.content ∧
        ("schemas" ∈ (Document.connectionEntries o d.schemas).map (·.1) ↔
          SpansSchemas o models)) ∧
      Occurs (Document.settings "generator client"
          (Document.clientEntries o (Document.previewFeatures d.schemas))) doc.content ∧
        (("previewFeatures", Document.enclosedList ["multiSchema"]) ∈
            Document.clientEntries o (Document.previewFeatures d.schemas) ↔
          SpansSchemas o models) := by
  obtain ⟨d, from'⟩ := exists_draft done
  have listed := from'.schemas_ne_nil_iff names
  obtain ⟨connection, client⟩ := from'.occurs_settings
  exact ⟨d, from', from'.modules_eq names, fun j mem => from'.underFirst names mem,
    fun c mem => ⟨from'.occurs_block mem, from'.exists_schemaDirective_iff names mem⟩,
    ⟨connection, Document.schemas_mem_connectionEntries.trans listed⟩, client,
    Document.multiSchema_mem_clientEntries.trans listed⟩

/-! ## A junction in place and one astray -/

/-- The standard options for a dialect that has database schemas. -/
def postgres : Options := { Options.standard with dialect := .postgresql }

/-- Articles of some module and tags of no module, which are joined. -/
def articlesIn (module : String) : List Model :=
  [{ Model.entity "Article" [.plain "tags" .manyToMany "Tag"] with module },
    { Model.entity "Tag" [.plain "articles" .manyToMany "Article"] with module := "" }]

theorem articlesIn_pairs (module : String) :
    (Plan.ofModels (articlesIn module)).junctions.map (·.pair) = [("Article", "Tag")] := by cbv

/-- Tagged articles that pass validation yield a document. -/
theorem exists_articlesIn {module : String} (clean : Clean (validate (articlesIn module))) :
    ∃ doc, (generate postgres .fresh (.whole 0) (articlesIn module) none).result = .ok doc := by
  have checked : ∀ m ∈ articlesIn module, m.Checked :=
    List.forall_mem_cons.mpr
      ⟨Model.entity_checked "Article" [.plain "tags" .manyToMany "Tag"],
        List.forall_mem_singleton.mpr
          (Model.entity_checked "Tag" [.plain "articles" .manyToMany "Article"])⟩
  obtain ⟨junctions, made⟩ :=
    Resolver.exists_junctionModels (Validation.accepted_of_clean clean) checked
  exact exists_document clean made rfl none

/-- Articles of a module of their own have their junction there. -/
theorem modules_of_registered_articles : ((articlesIn "content").map (·.name)).Nodup ∧
    ∃ doc, (generate postgres .fresh (.whole 0) (articlesIn "content") none).result = .ok doc ∧
      ∃ d, WrittenFrom postgres (.whole 0) (articlesIn "content") none doc d ∧
        doc.modules = ["content", "core"] ∧
        (∀ j ∈ d.junctions, d.UnderFirst (articlesIn "content") j) ∧
        (∀ c ∈ d.contributions, ∃ s ∈ c.2.directives d.formatter, IsSchemaDirective s) ∧
        "schemas" ∈ (Document.connectionEntries postgres d.schemas).map (·.1) ∧
        ("previewFeatures", Document.enclosedList ["multiSchema"]) ∈
          Document.clientEntries postgres (Document.previewFeatures d.schemas) := by
  have clean : Clean (validate (articlesIn "content")) :=
    Validation.clean_of_plain (by decide) (by cbv) (Validation.clean_iff_toOption.mpr (by cbv))
  have names : ((articlesIn "content").map (·.name)).Nodup := by decide
  obtain ⟨doc, done⟩ := exists_articlesIn clean
  obtain ⟨d, from', modules, under, blocks, ⟨_, connection⟩, _, client⟩ :=
    modules_of_registered names done
  have placed : ¬ HasStray (articlesIn "content") := by
    rw [HasStray, articlesIn_pairs]
    decide
  have spans : SpansSchemas postgres (articlesIn "content") :=
    ⟨rfl, .inl ⟨_, List.mem_cons_self, by decide⟩⟩
  rw [if_neg placed] at modules
  exact ⟨names, doc, done, d, from', modules, under, fun c mem => (blocks c mem).2.mpr spans,
    connection.mpr spans, client.mpr spans⟩

/-- Articles of no module are at home in the core, as tags are, and yet their junction stands under
an empty module, and the document is spread over database schemas. -/
theorem junction_astray : ((articlesIn "").map (·.name)).Nodup ∧
    (∀ m ∈ articlesIn "", m.homeModule = coreModule) ∧
    ∃ doc, (generate postgres .fresh (.whole 0) (articlesIn "") none).result = .ok doc ∧
      doc.modules = ["core", ""] ∧
      ∃ d, WrittenFrom postgres (.whole 0) (articlesIn "") none doc d ∧
        (∀ j ∈ d.junctions, ∀ g ∈ d.groups, j ∈ g.attempts.map (·.model) → g.module = "") ∧
        (∀ c ∈ d.contributions, ∃ s ∈ c.2.directives d.formatter, IsSchemaDirective s) ∧
        "schemas" ∈ (Document.connectionEntries postgres d.schemas).map (·.1) ∧
        ("previewFeatures", Document.enclosedList ["multiSchema"]) ∈
          Document.clientEntries postgres (Document.previewFeatures d.schemas) := by
  have clean : Clean (validate (articlesIn "")) :=
    Validation.clean_of_plain (by decide) (by cbv) (Validation.clean_iff_toOption.mpr (by cbv))
  have names : ((articlesIn "").map (·.name)).Nodup := by decide
  have home : ∀ m ∈ articlesIn "", m.homeModule = coreModule := by decide
  have unnamed : ∀ m ∈ articlesIn "", m.module = "" := by decide
  obtain ⟨doc, done⟩ := exists_articlesIn clean
  obtain ⟨d, from'⟩ := exists_draft done
  have astray : HasStray (articlesIn "") := by
    rw [HasStray, articlesIn_pairs]
    decide
  have spans : SpansSchemas postgres (articlesIn "") := ⟨rfl, .inr astray⟩
  have modules := from'.modules_eq names
  rw [if_pos astray] at modules
  have listed := (from'.schemas_ne_nil_iff names).mpr spans
  refine ⟨names, home, doc, done, modules, d, from', fun j mem g grouped here => ?_,
    fun c mem => (from'.exists_schemaDirective_iff names mem).mpr spans,
    Document.schemas_mem_connectionEntries.mpr listed,
    Document.multiSchema_mem_clientEntries.mpr listed⟩
  obtain ⟨_, _, first, memF, _, _, _, only⟩ := from'.underFirst names mem
  exact ((only g grouped).mp here).trans (unnamed first memF)

end Generation

end SchemaCompiler
