import Mathlib.Data.List.Induction
import SchemaCompiler.Proofs.Registry.Builder
import SchemaCompiler.Registry.Gathering

/-!
# No model is missed by a collection

Whatever the order of their steps, producers and collector keep three things true, and every step
preserves them (`Sound.step`): the producers that are waited for are the expected ones without a
mark, the event is raised exactly when there are none, and a collector that waits is awake exactly
when the event is raised, so no wakeup is lost. What a builder has accepted stays in it
(`models_grow`). So a collector builds only after all marks or its timeout, and the registry has
all that was registered before (`no_model_missed`).

The collection that takes one producer's turn after the other is one of these histories
(`exists_history_of_collect`).
-/

set_option autoImplicit false

namespace SchemaCompiler

/-! ## Marks -/

namespace Readiness

variable {s : Readiness}

/-- After a mark all but that producer are waited for. -/
theorem pending_mark (s : Readiness) (producer : String) :
    (s.mark producer).1.pending = s.pending.filter (· != producer) := by
  unfold mark
  split
  · rfl
  · next unexpected =>
    refine (List.filter_eq_self.mpr fun p mem => bne_iff_ne.mpr fun same => unexpected ?_).symm
    exact List.contains_iff_mem.mpr (same ▸ mem)

/-- The event is raised exactly when nobody is waited for. -/
def Settled (s : Readiness) : Prop := s.raised = s.pending.isEmpty

theorem settled_expecting (producers : List String) : (expecting producers).Settled := rfl

/-- A mark keeps the event raised exactly when nobody is waited for. -/
theorem Settled.mark (h : s.Settled) (producer : String) : (s.mark producer).1.Settled := by
  unfold Readiness.mark
  split
  · next expected =>
    -- the producer was waited for, so the event was not raised yet
    have waits : s.raised = false := by
      rw [h, List.isEmpty_eq_false_iff_exists_mem]
      exact ⟨producer, List.contains_iff_mem.mp expected⟩
    unfold Settled
    simp only [waits, Bool.false_or]
  · exact h

/-- The event stays raised. -/
theorem raised_mark (producer : String) (h : s.raised = true) :
    (s.mark producer).1.raised = true := by
  unfold mark
  split
  · simp only [h, Bool.true_or]
  · exact h

end Readiness

namespace Builder

variable {b next : Builder} {m : Model} {skip : Bool} {entry : Log.Entry}

/-- What was accepted stays. -/
theorem models_grow_of_register (h : b.register m skip = .ok (next, entry)) :
    b.models <+: next.models := by
  obtain ⟨_, ⟨rfl, _, _⟩ | rfl⟩ := register_ok h
  · exact List.prefix_refl _
  · exact List.prefix_append _ _

end Builder

/-- A registry has a model or, where that may have been passed over, one of its name. -/
def Registry.Covers (r : Registry) (m : Model) (skip : Bool) : Prop :=
  m ∈ r.models ∨ skip = true ∧ m.name ∈ r.modelNames

/-- What a registration that is not refused brings is covered from then on. -/
theorem Registry.covers_of_register {b next : Builder} {m : Model} {skip : Bool}
    {entry : Log.Entry} {r : Registry} (h : b.register m skip = .ok (next, entry))
    (later : next.models <+: r.models) : r.Covers m skip := by
  obtain ⟨_, ⟨rfl, passes, taken⟩ | rfl⟩ := Builder.register_ok h
  · exact .inr ⟨passes, List.map_subset _ later.subset taken⟩
  · exact .inl (later.subset (List.mem_append_right _ (List.mem_singleton_self m)))

/-! ## Collectors -/

namespace Collector

/-- How the wait of a collector ended, if it has. -/
def ended? : Collector → Option Bool
  | resumed ready => some ready
  | done ready _ => some ready
  | _ => none

theorem ended?_wake (c : Collector) : c.wake.ended? = c.ended? := by
  cases c <;> rfl

/-- Only a collector that waits is woken. -/
theorem waiting_of_wake {c : Collector} {woken : Bool} (h : c.wake = .waiting woken) :
    woken = true := by
  cases c with
  | waiting _ => exact (Collector.waiting.inj h).symm
  | _ => cases h

end Collector

namespace Gathering

open Readiness (leavesTime)

variable {timeout : Option Binary64} {g g' g'' : Gathering} {steps history later : List Step}
  {s : Step} {b : Builder} {expected : List String}

/-! ## Histories -/

theorem run?_cons (timeout : Option Binary64) (g : Gathering) (step : Step) (rest : List Step) :
    g.run? timeout (step :: rest) = (g.step? timeout step).bind (·.run? timeout rest) := rfl

/-- A history goes through the state after its first part. -/
theorem run?_append (timeout : Option Binary64) (g : Gathering) (steps later : List Step) :
    g.run? timeout (steps ++ later) = (g.run? timeout steps).bind (·.run? timeout later) := by
  induction steps generalizing g with
  | nil => rfl
  | cons step rest ih =>
    rw [List.cons_append, run?_cons, run?_cons, Option.bind_assoc]
    exact congrArg _ (funext fun g => ih g)

theorem run?_append_singleton (timeout : Option Binary64) (g : Gathering) (steps : List Step)
    (step : Step) :
    g.run? timeout (steps ++ [step]) = (g.run? timeout steps).bind (·.step? timeout step) := by
  rw [run?_append]
  refine congrArg _ (funext fun g => ?_)
  rw [run?_cons]
  exact Option.bind_fun_some _

theorem run?_trans (first : g.run? timeout steps = some g')
    (second : g'.run? timeout later = some g'') : g.run? timeout (steps ++ later) = some g'' := by
  rw [run?_append, first]
  exact second

/-! ## What a step does -/

theorem step?_wait (h : g.step? timeout .wait = some g') :
    g.collector = .idle ∧ g' = { g with collector := .waiting g.signal.raised } := by
  unfold step? at h
  simp only at h
  split at h
  · next idle => exact ⟨idle, (Option.some.inj h).symm⟩
  · cases h

theorem step?_elapse (h : g.step? timeout .elapse = some g') :
    (∃ woken, g.collector = .waiting woken) ∧ timeout.isSome = true ∧
      g' = { g with elapsed := true } := by
  unfold step? at h
  simp only at h
  split at h
  · next woken waits =>
    split at h
    · next limited => exact ⟨⟨woken, waits⟩, limited, (Option.some.inj h).symm⟩
    · cases h
  · cases h

theorem step?_resume {ready : Bool} (h : g.step? timeout (.resume ready) = some g') :
    ∃ woken, g.collector = .waiting woken ∧ (if ready then woken = true else g.elapsed = true) ∧
      g' = { g with collector := .resumed ready } := by
  unfold step? at h
  simp only at h
  split at h
  · next woken waits =>
    split at h
    · next may =>
      refine ⟨woken, waits, ?_, (Option.some.inj h).symm⟩
      cases ready with
      | true => exact (Bool.and_eq_true_iff.mp may).1
      | false => exact may
    · cases h
  · cases h

theorem step?_build (h : g.step? timeout .build = some g') :
    ∃ ready, g.collector = .resumed ready ∧
      g' = { g with
        collection := ⟨{ g.builder with built := true }, g.signal⟩
        collector := .done ready ⟨g.builder.models⟩ } := by
  unfold step? at h
  simp only at h
  split at h
  · next ready resumed => exact ⟨ready, resumed, (Option.some.inj h).symm⟩
  · cases h

/-- A registration that is refused changes nothing, and any other only the builder. -/
theorem registered_eq (g : Gathering) (m : Model) (skip : Bool) :
    ∃ b, g.registered m skip = { g with collection := ⟨b, g.signal⟩ } ∧
      g.builder.models <+: b.models := by
  unfold registered
  split
  · next b entry accepted => exact ⟨b, rfl, Builder.models_grow_of_register accepted⟩
  · exact ⟨g.builder, rfl, List.prefix_refl _⟩

/-- Of the signal only marks are seen. -/
theorem signal_of_step (h : g.step? timeout s = some g') :
    (∃ producer, s = .mark producer ∧ g'.signal = (g.signal.mark producer).1) ∨
      (∀ producer, s ≠ .mark producer) ∧ g'.signal = g.signal := by
  cases s with
  | mark producer =>
    cases h
    exact .inl ⟨producer, rfl, rfl⟩
  | register producer m skip =>
    cases h
    obtain ⟨b, same, _⟩ := registered_eq g m skip
    exact .inr ⟨fun _ => Step.noConfusion, by rw [same]; rfl⟩
  | wait =>
    obtain ⟨_, rfl⟩ := step?_wait h
    exact .inr ⟨fun _ => Step.noConfusion, rfl⟩
  | elapse =>
    obtain ⟨_, _, rfl⟩ := step?_elapse h
    exact .inr ⟨fun _ => Step.noConfusion, rfl⟩
  | resume ready =>
    obtain ⟨_, _, _, rfl⟩ := step?_resume h
    exact .inr ⟨fun _ => Step.noConfusion, rfl⟩
  | build =>
    obtain ⟨_, _, rfl⟩ := step?_build h
    exact .inr ⟨fun _ => Step.noConfusion, rfl⟩

/-- What was accepted stays. -/
theorem models_grow_of_step (h : g.step? timeout s = some g') :
    g.builder.models <+: g'.builder.models := by
  cases s with
  | mark producer =>
    cases h
    exact List.prefix_refl _
  | register producer m skip =>
    cases h
    obtain ⟨b, same, more⟩ := registered_eq g m skip
    rw [same]
    exact more
  | wait =>
    obtain ⟨_, rfl⟩ := step?_wait h
    exact List.prefix_refl _
  | elapse =>
    obtain ⟨_, _, rfl⟩ := step?_elapse h
    exact List.prefix_refl _
  | resume ready =>
    obtain ⟨_, _, _, rfl⟩ := step?_resume h
    exact List.prefix_refl _
  | build =>
    obtain ⟨_, _, rfl⟩ := step?_build h
    exact List.prefix_refl _

theorem models_grow (h : g.run? timeout steps = some g') :
    g.builder.models <+: g'.builder.models := by
  induction steps generalizing g with
  | nil =>
    cases h
    exact List.prefix_refl _
  | cons step rest ih =>
    rw [run?_cons] at h
    obtain ⟨next, did, later⟩ := Option.bind_eq_some_iff.mp h
    exact (models_grow_of_step did).trans (ih later)

/-! ## What holds after every history -/

/-- After a history: who is waited for, what the event says of it, and why the collector is where it
is. -/
structure Sound (timeout : Option Binary64) (expected : List String) (history : List Step)
    (g : Gathering) : Prop where
  pending : ∀ producer, producer ∈ g.signal.pending ↔
    producer ∈ expected ∧ .mark producer ∉ history
  settled : g.signal.Settled
  /-- No wakeup is lost. -/
  alert : ∀ woken, g.collector = .waiting woken → woken = g.signal.raised
  ended : ∀ ready, g.collector.ended? = some ready →
    if ready then g.signal.raised = true else g.elapsed = true
  elapsed : g.elapsed = true → timeout.isSome = true ∧ .elapse ∈ history

theorem sound_start (timeout : Option Binary64) (b : Builder) (expected : List String) :
    Sound timeout expected [] (start b expected) where
  pending _ := List.mem_eraseDups.trans (and_iff_left List.not_mem_nil).symm
  settled := Readiness.settled_expecting expected
  alert _ h := nomatch h
  ended _ h := nomatch h
  elapsed h := nomatch h

/-- The event stays raised. -/
theorem raised_of_step (h : g.step? timeout s = some g') (raised : g.signal.raised = true) :
    g'.signal.raised = true := by
  rcases signal_of_step h with ⟨producer, _, same⟩ | ⟨_, same⟩
  · exact same ▸ Readiness.raised_mark producer raised
  · exact same ▸ raised

/-- Of the signal, what holds after a history is preserved by every step. -/
theorem Sound.signal_step (h : Sound timeout expected history g)
    (did : g.step? timeout s = some g') :
    (∀ producer, producer ∈ g'.signal.pending ↔
      producer ∈ expected ∧ .mark producer ∉ history ++ [s]) ∧ g'.signal.Settled := by
  rcases signal_of_step did with ⟨marker, rfl, same⟩ | ⟨other, same⟩
  · refine ⟨fun producer => ?_, same ▸ h.settled.mark marker⟩
    rw [same, Readiness.pending_mark, List.mem_filter, h.pending, bne_iff_ne, List.mem_append,
      List.mem_singleton, Step.mark.injEq, not_or, and_assoc]
  · refine ⟨fun producer => ?_, same ▸ h.settled⟩
    rw [same, h.pending, List.mem_append, List.mem_singleton, not_or,
      and_iff_left (Ne.symm (other producer))]

/-- A mark wakes a collector that waits if it raises the event, and no other does. -/
theorem Sound.alert_marked (h : Sound timeout expected history g) {producer : String}
    {woken : Bool} (waits : (g.marked producer).collector = .waiting woken) :
    woken = (g.marked producer).signal.raised := by
  have raised : (g.marked producer).signal.raised = (g.signal.mark producer).1.raised := rfl
  rw [raised]
  unfold marked at waits
  simp only at waits
  split at waits
  · next raises =>
    rw [(Bool.and_eq_true_iff.mp raises).1]
    exact Collector.waiting_of_wake waits
  · next silent =>
    rw [h.alert woken waits]
    cases already : g.signal.raised with
    | true => exact (Readiness.raised_mark producer already).symm
    | false =>
      rw [already, Bool.not_false, Bool.and_true] at silent
      exact (Bool.eq_false_iff.mpr silent).symm

theorem ended?_marked (g : Gathering) (producer : String) :
    (g.marked producer).collector.ended? = g.collector.ended? := by
  unfold marked
  simp only
  split
  · exact Collector.ended?_wake _
  · rfl

/-- Every step preserves what holds after a history. -/
theorem Sound.step (h : Sound timeout expected history g) (did : g.step? timeout s = some g') :
    Sound timeout expected (history ++ [s]) g' := by
  obtain ⟨pending, settled⟩ := h.signal_step did
  have later (elapsed : g.elapsed = true) :
      timeout.isSome = true ∧ .elapse ∈ history ++ [s] :=
    (h.elapsed elapsed).imp_right (List.mem_append_left _)
  have still (ready : Bool) (before : g.collector.ended? = some ready)
      (same : g.elapsed = true → g'.elapsed = true) :
      if ready then g'.signal.raised = true else g'.elapsed = true := by
    have why := h.ended ready before
    cases ready with
    | true => exact raised_of_step did why
    | false => exact same why
  cases s with
  | register producer m skip =>
    cases did
    obtain ⟨b, same, _⟩ := registered_eq g m skip
    rw [same] at pending settled still ⊢
    exact ⟨pending, settled, h.alert, fun ready ended => still ready ended id, later⟩
  | mark producer =>
    cases did
    exact ⟨pending, settled, fun _ => h.alert_marked,
      fun ready ended => still ready (ended?_marked g producer ▸ ended) id, later⟩
  | wait =>
    obtain ⟨_, rfl⟩ := step?_wait did
    exact ⟨pending, settled, fun _ waits => (Collector.waiting.inj waits).symm,
      fun _ ended => (nomatch ended), later⟩
  | elapse =>
    obtain ⟨⟨woken, waits⟩, limited, rfl⟩ := step?_elapse did
    have here : .elapse ∈ history ++ [.elapse] :=
      List.mem_append_right _ (List.mem_singleton_self _)
    exact ⟨pending, settled, h.alert, fun ready ended => still ready ended fun _ => rfl,
      fun _ => ⟨limited, here⟩⟩
  | resume ready =>
    obtain ⟨woken, waits, may, rfl⟩ := step?_resume did
    refine ⟨pending, settled, fun _ waits => (nomatch waits), fun ready' ended => ?_, later⟩
    cases ended
    cases ready with
    | true => exact (h.alert woken waits).symm.trans may
    | false => exact may
  | build =>
    obtain ⟨ready, resumed, rfl⟩ := step?_build did
    refine ⟨pending, settled, fun _ waits => (nomatch waits), fun ready' ended => ?_, later⟩
    exact still ready' (resumed ▸ ended) id

/-- What holds after every history. -/
theorem sound_of_run (reached : (start b expected).run? timeout history = some g) :
    Sound timeout expected history g := by
  induction history using List.reverseRecOn generalizing g with
  | nil =>
    cases reached
    exact sound_start timeout b expected
  | append_singleton history s ih =>
    rw [run?_append_singleton] at reached
    obtain ⟨before, first, did⟩ := Option.bind_eq_some_iff.mp reached
    exact (ih first).step did

/-- Everything is ready exactly when every expected producer has marked itself. -/
theorem Sound.isReady_iff (h : Sound timeout expected history g) :
    g.signal.isReady = true ↔ ∀ producer ∈ expected, .mark producer ∈ history := by
  unfold Readiness.isReady
  rw [h.settled, List.isEmpty_iff, List.eq_nil_iff_forall_not_mem]
  refine forall_congr' fun producer => ?_
  rw [h.pending, not_and, not_not]

theorem isReady_of_run (h : g.run? timeout steps = some g') (ready : g.signal.isReady = true) :
    g'.signal.isReady = true := by
  induction steps generalizing g with
  | nil =>
    cases h
    exact ready
  | cons s rest ih =>
    rw [run?_cons] at h
    obtain ⟨next, did, later⟩ := Option.bind_eq_some_iff.mp h
    exact ih later (raised_of_step did ready)

/-- In a history a producer brings a model that the builder does not refuse. -/
def Registers (timeout : Option Binary64) (g : Gathering) (history : List Step) (producer : String)
    (m : Model) (skip : Bool) : Prop :=
  ∃ before after g' next entry, history = before ++ .register producer m skip :: after ∧
    g.run? timeout before = some g' ∧ g'.builder.register m skip = .ok (next, entry)

/-- What was registered in a part of a history was registered in it. -/
theorem Registers.append {producer : String} {m : Model} {skip : Bool} (steps : List Step)
    (h : Registers timeout g history producer m skip) :
    Registers timeout g (history ++ steps) producer m skip := by
  obtain ⟨before, after, g', next, entry, rfl, reached, accepted⟩ := h
  refine ⟨before, after ++ steps, g', next, entry, ?_, reached, accepted⟩
  rw [List.append_assoc, List.cons_append]

/-- A registry of what is registered after a history covers what was registered in it. -/
theorem covers_of_registers {producer : String} {m : Model} {skip : Bool}
    (reached : g.run? timeout history = some g')
    (h : Registers timeout g history producer m skip) :
    (⟨g'.builder.models⟩ : Registry).Covers m skip := by
  obtain ⟨before, after, g₁, next, entry, rfl, first, accepted⟩ := h
  rw [run?_append, first, Option.bind_some, run?_cons] at reached
  obtain ⟨g₂, did, later⟩ := Option.bind_eq_some_iff.mp reached
  have left : g₂.builder = next := by
    cases did
    unfold registered
    rw [accepted]
    rfl
  exact Registry.covers_of_register accepted (left ▸ models_grow later)

/-! ## The collection that takes turns -/

/-- A gathering whose producers have come as far as a collection has. A collector that waits is
awake if the event is raised. -/
def follow (g : Gathering) (c : Collection) : Gathering :=
  { g with
    collection := c
    collector := match g.collector with
      | .waiting _ => .waiting c.signal.raised
      | other => other }

/-- A collector that waits is awake if the event is raised. -/
def Alert (g : Gathering) : Prop := g.follow g.collection = g

theorem follow_follow (g : Gathering) (c c' : Collection) :
    (g.follow c).follow c' = g.follow c' := by
  unfold follow
  cases g.collector <;> rfl

theorem alert_follow (g : Gathering) (c : Collection) : (g.follow c).Alert := follow_follow g c c

/-- While the signal is the same, nobody falls asleep or wakes up. -/
theorem Alert.follow_builder (h : g.Alert) (b : Builder) :
    g.follow ⟨b, g.signal⟩ = { g with collection := ⟨b, g.signal⟩ } := by
  have same := congrArg (fun g' : Gathering => { g' with collection := ⟨b, g.signal⟩ }) h
  exact same

/-- A mark leaves a collector that waits awake if the event is raised. -/
theorem Alert.marked_eq (h : g.Alert) (producer : String) :
    g.marked producer = g.follow ⟨g.builder, (g.signal.mark producer).1⟩ := by
  have awake := congrArg Gathering.collector h
  have kept := g.signal.raised_mark producer
  unfold marked follow
  unfold follow at awake
  simp only at awake ⊢
  cases stage : g.collector with
  | waiting woken =>
    rw [stage] at awake
    obtain rfl : g.signal.raised = woken := Collector.waiting.inj awake
    cases before : g.signal.raised with
    | true => simp only [kept before, Bool.not_true, Bool.and_false, Bool.false_eq_true, ↓reduceIte]
    | false =>
      cases (g.signal.mark producer).1.raised <;> rfl
  | _ => simp only [Collector.wake, ite_self]

/-- Registering several models is registering one after the other. -/
theorem exists_run_of_registerMany (timeout : Option Binary64) (g : Gathering) (producer : String)
    (models : List Model) : ∃ steps, g.run? timeout steps =
      some { g with collection := ⟨(g.builder.registerMany models false).builder, g.signal⟩ } := by
  induction models generalizing g with
  | nil => exact ⟨[], rfl⟩
  | cons m rest ih =>
    unfold Builder.registerMany
    cases answer : g.builder.register m false with
    | error e => exact ⟨[], rfl⟩
    | ok done =>
      obtain ⟨next, entry⟩ := done
      obtain ⟨steps, later⟩ := ih { g with collection := ⟨next, g.signal⟩ }
      refine ⟨.register producer m false :: steps, ?_⟩
      have did : g.step? timeout (.register producer m false) =
          some { g with collection := ⟨next, g.signal⟩ } := by
        unfold step? registered
        simp only [answer]
      rw [run?_cons, did]
      exact later

/-- A turn of a producer is some of its steps. -/
theorem exists_run_of_turn (timeout : Option Binary64) (alert : g.Alert) (late : LateProducer) :
    ∃ steps, g.run? timeout steps = some (g.follow (g.collection.turn late).state) := by
  obtain ⟨steps, registered⟩ := exists_run_of_registerMany timeout g late.producer late.models
  rw [← alert.follow_builder] at registered
  unfold Collection.turn
  simp only
  split
  · exact ⟨steps, registered⟩
  · refine ⟨steps ++ [.mark late.producer], ?_⟩
    rw [run?_append_singleton, registered, Option.bind_some]
    refine congrArg some (((alert_follow _ _).marked_eq late.producer).trans ?_)
    exact follow_follow _ _ _

/-- Turns of producers are some steps of theirs. -/
theorem exists_run_of_turns (timeout : Option Binary64) (enough : Collection → Nat → Bool)
    (alert : g.Alert) (taken : Nat) (late : List LateProducer) : ∃ steps,
      g.run? timeout steps =
        some (g.follow (Collection.turns enough g.collection taken late).1.state) := by
  induction late generalizing g taken with
  | nil => exact ⟨[], congrArg some alert.symm⟩
  | cons first rest ih =>
    unfold Collection.turns
    split
    · exact ⟨[], congrArg some alert.symm⟩
    · obtain ⟨steps, took⟩ := exists_run_of_turn timeout alert first
      simp only
      split
      · exact ⟨steps, took⟩
      · obtain ⟨more, later⟩ := ih (alert_follow g (g.collection.turn first).state) (taken + 1)
        rw [follow_follow] at later
        exact ⟨steps ++ more, run?_trans took later⟩

theorem exists_run_of_turnsBefore (timeout : Option Binary64) (alert : g.Alert)
    (late : List LateProducer) : ∃ steps,
    g.run? timeout steps = some (g.follow (g.collection.turnsBefore late timeout).1.state) := by
  unfold Collection.turnsBefore
  simp only
  split
  · obtain ⟨steps, ready⟩ := exists_run_of_turns timeout (fun c _ => c.signal.isReady) alert 0 late
    let first := Collection.turns (fun c _ => c.signal.isReady) g.collection 0 late
    obtain ⟨more, watched⟩ := exists_run_of_turns timeout
      (fun _ taken => timeout.isNone || decide (Collection.watcherTurns ≤ taken))
      (alert_follow g first.1.state) 0 first.2
    rw [follow_follow] at watched
    exact ⟨steps ++ more, run?_trans ready watched⟩
  · exact exists_run_of_turns timeout _ alert 0 late

/-- A wait ends if the event is raised or the collector has a timeout. -/
theorem exists_run_of_wait {raised : Bool} (waits : g.collector = .waiting raised)
    (ends : timeout.isSome = true ∨ raised = true) : ∃ steps ready elapsed,
      g.run? timeout steps = some { g with collector := .resumed ready, elapsed } := by
  by_cases heeds : (raised && timeout.all leavesTime) = true
  · refine ⟨[.resume true], true, g.elapsed, ?_⟩
    simp only [run?, step?, waits, mayResume, heeds, ↓reduceIte, Option.bind_some]
  · have limited : timeout.isSome = true := by
      refine ends.elim id fun ready => ?_
      cases timeout with
      | none =>
        rw [ready] at heeds
        exact absurd rfl heeds
      | some _ => rfl
    refine ⟨[.elapse, .resume false], false, true, ?_⟩
    simp only [run?, step?, waits, mayResume, limited, ↓reduceIte, Option.bind_some]

/-- A collection that takes one producer's turn after the other is a history, unless it waits for
ever. -/
theorem exists_history_of_collect (idle : g.collector = .idle) (late : List LateProducer)
    (ends : timeout.isSome = true ∨
      (g.collection.turnsBefore late timeout).1.state.signal.isReady = true) :
    ∃ steps g' ready, g.run? timeout steps = some g' ∧
      g'.collection = (g.collection.collect late timeout).state ∧
      g'.collector = .done ready (g.collection.collect late timeout).registry := by
  let begun : Gathering := { g with collector := .waiting g.signal.raised }
  have begins : g.run? timeout [.wait] = some begun := by
    simp only [run?, step?, idle, Option.bind_some]
    rfl
  obtain ⟨turned, took⟩ := exists_run_of_turnsBefore timeout (rfl : begun.Alert) late
  let before := g.collection.turnsBefore late timeout
  obtain ⟨woke, ready, elapsed, resumed⟩ :=
    exists_run_of_wait (g := begun.follow before.1.state) rfl ends
  let built : Gathering :=
    { begun.follow before.1.state with
      collection := ⟨{ before.1.state.builder with built := true }, before.1.state.signal⟩
      collector := .done ready ⟨before.1.state.builder.models⟩
      elapsed }
  obtain ⟨left, after⟩ := exists_run_of_turns timeout (fun _ _ => false) (rfl : built.Alert) 0
    before.2
  have builds : Gathering.run? timeout
      { begun.follow before.1.state with collector := .resumed ready, elapsed } [.build] =
        some built := rfl
  exact ⟨_, _, ready, run?_trans (run?_trans (run?_trans (run?_trans begins took) resumed) builds)
    after, rfl, rfl⟩

/-! ## The guarantees -/

/-- After any history of a collection: all is ready exactly when every expected producer has marked
itself, and stays so; a collector that waits can go on as soon as all is ready. A collector builds
only if all is ready or its timeout has elapsed, and the registry covers everything that was
registered before. If its wait ended by readiness, every expected producer has marked itself, and
what it registered before any of its marks is covered. A collection that takes turns, unless it
waits for ever, is a history too. -/
theorem no_model_missed (reached : (start b expected).run? timeout history = some g) :
    (g.signal.isReady = true ↔ ∀ producer ∈ expected, .mark producer ∈ history) ∧
      (∀ later g', g.run? timeout later = some g' →
        g.signal.isReady = true → g'.signal.isReady = true) ∧
      (∀ woken, g.collector = .waiting woken → g.signal.isReady = true →
        timeout.all leavesTime = true → ∃ g', g.step? timeout (.resume true) = some g') ∧
      (∀ g', g.step? timeout .build = some g' → ∃ ready snapshot,
        g'.collector = .done ready snapshot ∧
        (if ready then g.signal.isReady = true
          else timeout.isSome = true ∧ .elapse ∈ history) ∧
        (∀ m ∈ b.models, m ∈ snapshot.models) ∧
        (∀ producer m skip, Registers timeout (start b expected) history producer m skip →
          snapshot.Covers m skip) ∧
        (ready = true → ∀ producer ∈ expected, .mark producer ∈ history ∧
          ∀ before after, history = before ++ .mark producer :: after →
            ∀ m skip, Registers timeout (start b expected) before producer m skip →
              snapshot.Covers m skip)) ∧
      (g.collector = .idle → ∀ late : List LateProducer,
        timeout.isSome = true ∨
          (g.collection.turnsBefore late timeout).1.state.signal.isReady = true →
        ∃ later g' ready, g.run? timeout later = some g' ∧
          g'.collection = (g.collection.collect late timeout).state ∧
          g'.collector = .done ready (g.collection.collect late timeout).registry) := by
  have sound := sound_of_run reached
  refine ⟨sound.isReady_iff, fun later g' => isReady_of_run, fun woken waits ready heeds => ?_,
    fun g' did => ?_, exists_history_of_collect⟩
  · have awake : woken = true := (sound.alert woken waits).trans ready
    refine ⟨{ g with collector := .resumed true }, ?_⟩
    simp only [step?, waits, mayResume, awake, heeds, Bool.and_true, ↓reduceIte]
  · obtain ⟨ready, resumed, rfl⟩ := step?_build did
    have why := sound.ended ready (by rw [resumed]; rfl)
    have covered (producer : String) (m : Model) (skip : Bool)
        (brought : Registers timeout (start b expected) history producer m skip) :
        (⟨g.builder.models⟩ : Registry).Covers m skip := covers_of_registers reached brought
    refine ⟨ready, ⟨g.builder.models⟩, rfl, ?_, fun m mem => (models_grow reached).subset mem,
      covered, ?_⟩
    · cases ready with
      | true => exact why
      | false => exact sound.elapsed why
    · rintro rfl producer mem
      refine ⟨sound.isReady_iff.mp why producer mem, fun before after split' m skip brought => ?_⟩
      exact covered producer m skip (split' ▸ brought.append _)

/-! ## A press -/

/-- The shop is ready before it has registered anything, and the blog, which the collector waits
for, after it has registered an article. -/
def press : List Step :=
  [.register "blog" Builder.article false, .mark "shop", .wait, .mark "blog",
    .register "shop" Builder.tag false, .resume true]

/-- The registry of the press has the article, which was registered before the mark that was waited
for, and the tag, which was registered between that mark and the build. -/
theorem no_model_missed_press : ∃ g g' snapshot,
    (start .empty ["blog", "shop"]).run? none press = some g ∧
      g.step? none .build = some g' ∧ g'.collector = .done true snapshot ∧
      g.signal.isReady = true ∧ snapshot.Covers Builder.article false ∧
      snapshot.Covers Builder.tag false := by
  obtain ⟨g, reached⟩ : ∃ g, (start .empty ["blog", "shop"]).run? none press = some g := ⟨_, rfl⟩
  obtain ⟨g', did⟩ : ∃ g', g.step? none .build = some g' := by
    cases reached
    exact ⟨_, rfl⟩
  obtain ⟨_, _, _, built, _⟩ := no_model_missed reached
  obtain ⟨ready, snapshot, done, why, _, covered, _⟩ := built g' did
  obtain rfl : ready = true := by
    cases reached
    cases did
    cases done
    rfl
  refine ⟨g, g', snapshot, reached, did, done, why, covered "blog" _ _ ?_, covered "shop" _ _ ?_⟩
  · exact ⟨[], press.drop 1, _, _, _, rfl, rfl, rfl⟩
  · exact ⟨press.take 4, [.resume true], _, _, _, rfl, rfl, rfl⟩

end Gathering

end SchemaCompiler
