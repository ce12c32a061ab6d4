import SchemaCompiler.Proofs.Model.Lookup
import SchemaCompiler.Registry.Builder

/-!
# Runs of a builder

A builder serves calls one after the other. Until the first build it keeps the first model of each
name among those that the calls bring (`run_open`), and from then on it changes no more
(`run_sealed`), so all snapshots of a run are the same. A call that is refused keeps nothing of what
it was refused for: a registration leaves the builder alone, a batch leaves the models before the
one that stopped it (`registerMany_error`).
-/

set_option autoImplicit false

namespace SchemaCompiler

/-! ## The first model of each name -/

namespace Model

/-- The first model of each name, in order. -/
def firstOfEach : List Model → List Model
  | [] => []
  | m :: rest => m :: (firstOfEach rest).filter (·.name != m.name)

theorem mem_names_firstOfEach {models : List Model} {name : String} :
    name ∈ (firstOfEach models).map (·.name) ↔ name ∈ models.map (·.name) := by
  induction models with
  | nil => rfl
  | cons m rest ih =>
    by_cases same : name = m.name
    · exact iff_of_true (same ▸ List.mem_cons_self) (same ▸ List.mem_cons_self)
    · have others : name ∈ ((firstOfEach rest).filter (·.name != m.name)).map (·.name) ↔
          name ∈ (firstOfEach rest).map (·.name) := by
        simp only [List.mem_map, List.mem_filter, bne_iff_ne]
        exact exists_congr fun m' => ⟨fun ⟨⟨mem, _⟩, named⟩ => ⟨mem, named⟩,
          fun ⟨mem, named⟩ => ⟨⟨mem, named ▸ same⟩, named⟩⟩
      unfold firstOfEach
      rw [List.map_cons, List.map_cons, List.mem_cons, List.mem_cons, others, ih]

theorem nodup_names_firstOfEach (models : List Model) :
    ((firstOfEach models).map (·.name)).Nodup := by
  induction models with
  | nil => exact List.nodup_nil
  | cons m rest ih =>
    refine List.nodup_cons.mpr ⟨fun again => ?_, ih.sublist (List.filter_sublist.map _)⟩
    obtain ⟨m', mem, same⟩ := List.mem_map.mp again
    exact bne_iff_ne.mp (List.mem_filter.mp mem).2 same

/-- A model of a new name comes last. -/
theorem firstOfEach_append_of_not_mem {models : List Model} {m : Model}
    (new : m.name ∉ models.map (·.name)) :
    firstOfEach (models ++ [m]) = firstOfEach models ++ [m] := by
  induction models with
  | nil => rfl
  | cons first rest ih =>
    obtain ⟨other, later⟩ := not_or.mp (mt List.mem_cons.mpr new)
    have stays : [m].filter (·.name != first.name) = [m] :=
      List.filter_cons_of_pos (bne_iff_ne.mpr other)
    rw [List.cons_append, firstOfEach, ih later, List.filter_append, stays]
    rfl

/-- A model of a name that was there changes nothing. -/
theorem firstOfEach_append_of_mem {models : List Model} {m : Model}
    (taken : m.name ∈ models.map (·.name)) : firstOfEach (models ++ [m]) = firstOfEach models := by
  induction models with
  | nil => cases taken
  | cons first rest ih =>
    rw [List.cons_append, firstOfEach, firstOfEach]
    by_cases later : m.name ∈ rest.map (·.name)
    · rw [ih later]
    · have same : m.name = first.name := (List.mem_cons.mp taken).resolve_right later
      rw [firstOfEach_append_of_not_mem later, List.filter_append, List.filter_cons_of_neg,
        List.filter_nil, List.append_nil]
      exact fun other => bne_iff_ne.mp other same

end Model

namespace Builder

open Model (firstOfEach mem_names_firstOfEach firstOfEach_append_of_mem
  firstOfEach_append_of_not_mem)

variable {b next : Builder} {m : Model} {models brought : List Model} {skip : Bool}
  {e : RegistryError} {entry : Log.Entry}

/-! ## One registration -/

theorem find?_isSome_iff {name : String} :
    (b.find? name).isSome ↔ name ∈ b.models.map (·.name) := by
  unfold find?
  rw [List.find?_isSome, List.mem_map]
  simp only [beq_iff_eq]

/-- A sealed builder refuses every model. -/
theorem register_sealed (m : Model) (skip : Bool) (sealed' : b.built = true) :
    b.register m skip = .error (.sealed m.name) := by
  unfold register
  rw [if_pos sealed']

/-- A name that is taken is passed over or refused. -/
theorem register_taken (skip : Bool) (open' : b.built = false)
    (taken : m.name ∈ b.models.map (·.name)) :
    ∃ entry e, b.register m skip = if skip then .ok (b, entry) else .error e := by
  obtain ⟨existing, found⟩ := Option.isSome_iff_exists.mp (find?_isSome_iff.mpr taken)
  unfold register
  rw [if_neg (by rw [open']; exact Bool.false_ne_true), found]
  exact ⟨_, _, rfl⟩

/-- A model of a new name is accepted. -/
theorem register_new (skip : Bool) (open' : b.built = false)
    (new : m.name ∉ b.models.map (·.name)) :
    ∃ entry, b.register m skip = .ok ({ b with models := b.models ++ [m] }, entry) := by
  have found : b.find? m.name = none :=
    Option.not_isSome_iff_eq_none.mp ((not_congr find?_isSome_iff).mpr new)
  unfold register
  rw [if_neg (by rw [open']; exact Bool.false_ne_true), found]
  exact ⟨_, rfl⟩

/-- A registration that is not refused passes the model over or accepts it. -/
theorem register_ok (h : b.register m skip = .ok (next, entry)) :
    b.built = false ∧ (next = b ∧ skip = true ∧ m.name ∈ b.models.map (·.name) ∨
      next = { b with models := b.models ++ [m] }) := by
  by_cases sealed' : b.built = true
  · rw [register_sealed _ _ sealed'] at h
    cases h
  · have open' : b.built = false := Bool.eq_false_iff.mpr sealed'
    refine ⟨open', ?_⟩
    by_cases taken : m.name ∈ b.models.map (·.name)
    · obtain ⟨_, _, answer⟩ := register_taken skip open' taken
      rw [answer] at h
      split at h
      · next passes =>
        cases h
        exact .inl ⟨rfl, passes, taken⟩
      · cases h
    · obtain ⟨_, answer⟩ := register_new skip open' taken
      rw [answer] at h
      cases h
      exact .inr rfl

/-! ## Batches -/

/-- A batch that passes nothing over is refused as its first model is that is not accepted, and the
models before that one are kept. -/
theorem registerMany_error (h : (b.registerMany models skip).error = some e) :
    ∃ accepted m rest, models = accepted ++ m :: rest ∧
      (b.registerMany models skip).builder = { b with models := b.models ++ accepted } ∧
      ({ b with models := b.models ++ accepted } : Builder).register m skip = .error e := by
  induction models generalizing b with
  | nil => cases h
  | cons m rest ih =>
    unfold registerMany at h ⊢
    cases answer : b.register m skip with
    | error e' =>
      rw [answer] at h
      cases h
      refine ⟨[], m, rest, rfl, ?_, ?_⟩ <;> rw [List.append_nil]
      exact answer
    | ok done =>
      obtain ⟨next, entry⟩ := done
      rw [answer] at h
      obtain ⟨accepted, stop, left, split', kept, refused⟩ := ih h
      obtain ⟨open', ⟨rfl, rfl, _⟩ | rfl⟩ := register_ok answer
      · -- a builder that passes names over refuses nothing unless it is sealed
        exfalso
        by_cases taken : stop.name ∈ (next.models ++ accepted).map (·.name)
        · obtain ⟨_, _, passed⟩ :=
            register_taken (b := ⟨next.models ++ accepted, next.built⟩) true open' taken
          rw [passed, if_pos rfl] at refused
          cases refused
        · obtain ⟨_, added⟩ :=
            register_new (b := ⟨next.models ++ accepted, next.built⟩) true open' taken
          rw [added] at refused
          cases refused
      · refine ⟨m :: accepted, stop, left, by rw [split', List.cons_append], ?_, ?_⟩
        · simp only [kept, List.append_assoc, List.cons_append, List.nil_append]
        · simpa only [List.append_assoc, List.cons_append, List.nil_append] using refused

/-- The models of a batch before the first one whose name comes again. -/
def untilAgain (names : List String) : List Model → List Model
  | [] => []
  | m :: rest => if m.name ∈ names then [] else m :: untilAgain (names ++ [m.name]) rest

/-- What a batch brings: all its models if names may come again, else those until one does. -/
def batch (names : List String) (models : List Model) (skip : Bool) : List Model :=
  if skip then models else untilAgain names models

/-- A builder that keeps the first model of each name goes on to do so after a batch. -/
theorem registerMany_open (open' : b.built = false) (kept : b.models = firstOfEach brought) :
    (b.registerMany models skip).builder =
      ⟨firstOfEach (brought ++ batch (brought.map (·.name)) models skip), false⟩ := by
  induction models generalizing b brought with
  | nil =>
    have none : batch (brought.map (·.name)) [] skip = [] := by
      unfold batch
      split <;> rfl
    rw [none, List.append_nil, ← kept, ← open']
    rfl
  | cons m rest ih =>
    have names : b.models.map (·.name) = (firstOfEach brought).map (·.name) := by rw [kept]
    unfold registerMany
    by_cases taken : m.name ∈ brought.map (·.name)
    · obtain ⟨entry, e, answer⟩ := register_taken skip open'
        (names ▸ mem_names_firstOfEach.mpr taken :)
      rw [answer]
      cases skip with
      | true =>
        have same : b.models = firstOfEach (brought ++ [m]) :=
          kept.trans (firstOfEach_append_of_mem taken).symm
        simp only [↓reduceIte, ih open' same]
        simp only [batch, ↓reduceIte, List.append_assoc, List.cons_append, List.nil_append]
      | false =>
        have none : batch (brought.map (·.name)) (m :: rest) false = [] := by
          simp only [batch, untilAgain, Bool.false_eq_true, ↓reduceIte, taken]
        simp only [Bool.false_eq_true, ↓reduceIte, none, List.append_nil]
        rw [← kept, ← open']
    · obtain ⟨entry, answer⟩ := register_new skip open'
        (fun again => taken (mem_names_firstOfEach.mp (names ▸ again)))
      have same : b.models ++ [m] = firstOfEach (brought ++ [m]) := by
        rw [kept, firstOfEach_append_of_not_mem taken]
      have first : batch (brought.map (·.name)) (m :: rest) skip =
          m :: batch ((brought ++ [m]).map (·.name)) rest skip := by
        unfold batch
        rw [untilAgain, if_neg taken, List.map_append]
        split <;> rfl
      rw [answer, first]
      simp only
      rw [ih (b := { b with models := b.models ++ [m] }) open' same, List.append_assoc]
      rfl

/-! ## Calls -/

/-- What a builder is asked for. -/
inductive Call where
  | register (m : Model) (skip : Bool)
  | registerMany (models : List Model) (skip : Bool)
  | build

/-- What a call comes back with. -/
inductive Reply where
  | done
  | refused (e : RegistryError)
  | snapshot (r : Registry)

/-- The snapshot that a reply hands out. -/
def Reply.snapshot? : Reply → Option Registry
  | snapshot r => some r
  | _ => none

/-- Serves a call: the builder that it leaves, and the reply. -/
def serve (b : Builder) : Call → Builder × Reply
  | .register m skip =>
    match b.register m skip with
    | .ok (b, _) => (b, .done)
    | .error e => (b, .refused e)
  | .registerMany models skip =>
    let registration := b.registerMany models skip
    (registration.builder, match registration.error with
      | some e => .refused e
      | none => .done)
  | .build =>
    let (b, r, _) := b.build
    (b, .snapshot r)

/-- Serves calls one after the other: the builder that they leave, and the replies. -/
def run (b : Builder) : List Call → Builder × List Reply
  | [] => (b, [])
  | call :: rest =>
    let (next, reply) := b.serve call
    let (last, replies) := next.run rest
    (last, reply :: replies)

/-- The builder after some calls. -/
def after (calls : List Call) : Builder := (empty.run calls).1

/-- The snapshots that some calls hand out. -/
def snapshots (calls : List Call) : List Registry := (empty.run calls).2.filterMap (·.snapshot?)

/-- The call is the one that seals. -/
def Call.isBuild : Call → Bool
  | build => true
  | _ => false

/-- The models that a call brings, when some names were brought before. A registration is a batch of
one. -/
def Call.brings (names : List String) : Call → List Model
  | register m skip => batch names [m] skip
  | registerMany models skip => batch names models skip
  | build => []

/-- The models that calls bring until the first build, after others that were brought before. -/
def brings (before : List Model) : List Call → List Model
  | [] => before
  | call :: rest =>
    if call.isBuild then before
    else brings (before ++ call.brings (before.map (·.name))) rest

theorem run_cons (b : Builder) (call : Call) (rest : List Call) :
    b.run (call :: rest) =
      (((b.serve call).1.run rest).1, (b.serve call).2 :: ((b.serve call).1.run rest).2) := rfl

theorem mem_registries_cons {reply : Reply} {replies : List Reply} {r : Registry} :
    r ∈ (reply :: replies).filterMap (·.snapshot?) ↔
      reply = .snapshot r ∨ r ∈ replies.filterMap (·.snapshot?) := by
  cases reply with
  | done => exact ⟨.inr, fun h => h.resolve_left Reply.noConfusion⟩
  | refused e => exact ⟨.inr, fun h => h.resolve_left Reply.noConfusion⟩
  | snapshot r' =>
    rw [List.filterMap_cons, Reply.snapshot.injEq, @eq_comm _ r' r]
    exact List.mem_cons

/-- A sealed builder stays as it is. -/
theorem serve_sealed (sealed' : b.built = true) (call : Call) :
    (b.serve call).1 = b ∧ ∀ r, (b.serve call).2 = .snapshot r → r = ⟨b.models⟩ := by
  cases call with
  | register m skip =>
    simp only [serve, register_sealed m skip sealed']
    exact ⟨trivial, fun r h => (nomatch h)⟩
  | registerMany models skip =>
    cases models with
    | nil => exact ⟨rfl, fun r h => (nomatch h)⟩
    | cons m rest =>
      simp only [serve, registerMany, register_sealed m skip sealed']
      exact ⟨trivial, fun r h => (nomatch h)⟩
  | build =>
    obtain ⟨models, built⟩ := b
    cases sealed'
    exact ⟨rfl, fun r h => (Reply.snapshot.inj h).symm⟩

theorem run_sealed (sealed' : b.built = true) (calls : List Call) :
    (b.run calls).1 = b ∧ ∀ r ∈ (b.run calls).2.filterMap (·.snapshot?), r = ⟨b.models⟩ := by
  induction calls with
  | nil => exact ⟨rfl, List.forall_mem_nil _⟩
  | cons call rest ih =>
    obtain ⟨same, handed⟩ := serve_sealed sealed' call
    obtain ⟨last, later⟩ := ih
    rw [run_cons, same]
    refine ⟨last, fun r mem => ?_⟩
    rcases mem_registries_cons.mp mem with now | mem
    · exact handed r now
    · exact later r mem

/-- A builder that keeps the first model of each name goes on to do so until it is built, and hands
out no snapshot. -/
theorem serve_open (open' : b.built = false) (kept : b.models = firstOfEach brought) {call : Call}
    (other : call.isBuild = false) :
    (b.serve call).1 = ⟨firstOfEach (brought ++ call.brings (brought.map (·.name))), false⟩ ∧
      ∀ r, (b.serve call).2 ≠ .snapshot r := by
  cases call with
  | register m skip =>
    have alone : (b.serve (.register m skip)).1 = (b.registerMany [m] skip).builder := by
      simp only [serve, registerMany]
      cases b.register m skip <;> rfl
    refine ⟨alone.trans (registerMany_open open' kept), fun r => ?_⟩
    simp only [serve]
    cases b.register m skip <;> exact fun same => nomatch same
  | registerMany models skip =>
    refine ⟨registerMany_open open' kept, fun r => ?_⟩
    simp only [serve]
    cases (b.registerMany models skip).error <;> exact fun same => nomatch same
  | build => cases other

/-- From a builder that keeps the first model of each name, calls leave one that keeps those that
are brought until the first build, and every snapshot is of these. -/
theorem run_open (open' : b.built = false) (kept : b.models = firstOfEach brought)
    (calls : List Call) :
    (b.run calls).1.models = firstOfEach (brings brought calls) ∧
      (.build ∈ calls → (b.run calls).1.built = true) ∧
      ∀ r ∈ (b.run calls).2.filterMap (·.snapshot?), r = ⟨firstOfEach (brings brought calls)⟩ := by
  induction calls generalizing b brought with
  | nil => exact ⟨kept, fun mem => (nomatch mem), List.forall_mem_nil _⟩
  | cons call rest ih =>
    rw [run_cons]
    cases seals : call.isBuild with
    | false =>
      obtain ⟨left, silent⟩ := serve_open open' kept seals
      obtain ⟨last, closed, later⟩ := ih (b := (b.serve call).1) (by rw [left]) (by rw [left])
      unfold brings
      simp only [seals, Bool.false_eq_true, ↓reduceIte]
      refine ⟨last, fun mem => closed ?_, fun r mem => later r ?_⟩
      · refine (List.mem_cons.mp mem).resolve_left fun same => ?_
        rw [← same] at seals
        cases seals
      · exact (mem_registries_cons.mp mem).resolve_left (silent r)
    | true =>
      obtain rfl : call = .build := by
        cases call <;> first | rfl | cases seals
      obtain ⟨same, later⟩ := run_sealed (b := { b with built := true }) rfl rest
      refine ⟨?_, fun _ => ?_, fun r mem => ?_⟩
      · exact (congrArg (·.models) same).trans kept
      · exact congrArg (·.built) same
      · rcases mem_registries_cons.mp mem with now | mem
        · exact (Reply.snapshot.inj now).symm.trans (congrArg Registry.mk kept)
        · exact (later r mem).trans (congrArg Registry.mk kept)

/-- The builder after some calls keeps the first model of each name that was brought until the first
build, and so does every snapshot that they hand out: the names are distinct, and all snapshots are
the same. A registration that is refused leaves the builder as it was. A batch that is refused has
added just the models before the one that the builder refuses then. Once there was a build, every
registration is refused as one into a sealed registry. -/
theorem snapshots_eq_firstOfEach (calls : List Call) :
    (after calls).models = firstOfEach (brings [] calls) ∧
      (∀ r ∈ snapshots calls,
        r.models = firstOfEach (brings [] calls) ∧ r.modelNames.Nodup) ∧
      (∀ r ∈ snapshots calls, ∀ r' ∈ snapshots calls, r = r') ∧
      (∀ m skip e, ((after calls).serve (.register m skip)).2 = .refused e →
        ((after calls).serve (.register m skip)).1 = after calls) ∧
      (∀ models skip e, ((after calls).serve (.registerMany models skip)).2 = .refused e →
        ∃ accepted m rest, models = accepted ++ m :: rest ∧
          ((after calls).serve (.registerMany models skip)).1 =
            ⟨(after calls).models ++ accepted, (after calls).built⟩ ∧
          (⟨(after calls).models ++ accepted, (after calls).built⟩ : Builder).register m skip =
            .error e) ∧
      (.build ∈ calls → ∀ m skip,
        (after calls).serve (.register m skip) = (after calls, .refused (.sealed m.name)) ∧
        ∀ rest, (after calls).serve (.registerMany (m :: rest) skip) =
          (after calls, .refused (.sealed m.name))) := by
  obtain ⟨models, closed, all⟩ := run_open (b := empty) rfl (rfl : _ = firstOfEach []) calls
  refine ⟨models, fun r mem => ?_, fun r mem r' mem' => ?_, fun m skip e refused => ?_,
    fun models skip e refused => ?_, fun built m skip => ?_⟩
  · obtain rfl := all r mem
    exact ⟨rfl, Model.nodup_names_firstOfEach _⟩
  · exact (all r mem).trans (all r' mem').symm
  · unfold serve at refused ⊢
    simp only at refused ⊢
    split at refused
    · cases refused
    · rfl
  · refine registerMany_error ?_
    unfold serve at refused
    simp only at refused
    split at refused
    · next e' failed =>
      cases refused
      exact failed
    · cases refused
  · have refused : (after calls).register m skip = .error (.sealed m.name) :=
      register_sealed m skip (closed built)
    refine ⟨?_, fun rest => ?_⟩
    · simp only [serve, refused]
    · simp only [serve, registerMany, refused]

/-! ## A newsroom -/

/-- An article, its tag and its author, and an article of another module. -/
def article : Model := .entity "Article" []

def tag : Model := .entity "Tag" []

def author : Model := .entity "Author" []

def otherArticle : Model := { article with module := "archive" }

/-- A batch ends at the second article, so that the author is not accepted, and a third article
comes after the first of two builds. -/
def newsroom : List Call :=
  [.register article false, .registerMany [tag, otherArticle, author] false, .build,
    .register otherArticle true, .build]

/-- The newsroom has two snapshots of an article and its tag. Its batch was refused after the tag,
and from its first build on it refuses everything. -/
theorem snapshots_eq_firstOfEach_newsroom :
    (snapshots newsroom).length = 2 ∧
      (∀ r ∈ snapshots newsroom, r.models = [article, tag] ∧ r.modelNames.Nodup) ∧
      (∃ e accepted m rest,
        ((after [.register article false]).serve
          (.registerMany [tag, otherArticle, author] false)).2 = .refused e ∧
        [tag, otherArticle, author] = accepted ++ m :: rest ∧
        ((after [.register article false]).serve
          (.registerMany [tag, otherArticle, author] false)).1 = ⟨[article] ++ accepted, false⟩) ∧
      .build ∈ newsroom ∧ (after newsroom).serve (.register otherArticle true) =
        (after newsroom, .refused (.sealed "Article")) := by
  have built : Call.build ∈ newsroom :=
    List.mem_cons_of_mem _ (List.mem_cons_of_mem _ List.mem_cons_self)
  obtain ⟨_, all, _, _, _, closed⟩ := snapshots_eq_firstOfEach newsroom
  obtain ⟨_, _, _, _, batches, _⟩ := snapshots_eq_firstOfEach [.register article false]
  obtain ⟨accepted, m, rest, split', left, _⟩ :=
    batches [tag, otherArticle, author] false (.collision "Article" "core" "archive") rfl
  exact ⟨rfl, all, ⟨_, accepted, m, rest, rfl, split', left⟩, built, (closed built _ _).1⟩

end Builder

end SchemaCompiler
