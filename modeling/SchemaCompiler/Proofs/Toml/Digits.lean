import SchemaCompiler.Proofs.Outcome
import SchemaCompiler.Proofs.Toml.Within
import SchemaCompiler.Toml.Document

/-!
# Digits of a TOML document

The one failure that is about the size of a number has its digits in the text: somewhere in it
stands a run of more digits than are read (`hasLongRun_of_parse`). The reason is that every reader
stays within the text, and that no change of a table fails over digits (`NeverDigits`). Nothing is
said here about the other failures, nor about long runs in strings and comments, which are read.
-/

set_option autoImplicit false

namespace SchemaCompiler.Toml

variable {α β : Type} {cs rest : List Char} {cause : Cause}

/-! ## Tables -/

/-- No change of a table fails over digits. -/
def NeverDigits (outcome : Except Cause α) : Prop :=
  ∀ cause, outcome = .error cause → cause.isPlain = true

theorem neverDigits_ok (a : α) : NeverDigits (.ok a) := nofun

theorem neverDigits_error (plain : cause.isPlain = true) :
    NeverDigits (.error cause : Except Cause α) := by
  rintro _ ⟨⟩
  exact plain

theorem NeverDigits.bind {outcome : Except Cause α} {next : α → Except Cause β}
    (first : NeverDigits outcome) (second : ∀ a, NeverDigits (next a)) :
    NeverDigits (outcome >>= next) := by
  intro cause failed
  rcases Outcome.bind_error_iff.mp failed with early | ⟨a, _, late⟩
  · exact first cause early
  · exact second a cause late

theorem NeverDigits.map {outcome : Except Cause α} (first : NeverDigits outcome) (f : α → β) :
    NeverDigits (outcome.map f) := by
  intro cause failed
  cases outcome with
  | ok a => cases failed
  | error cause' =>
    cases failed
    exact first _ rfl

theorem inTable_neverDigits {change : Table → Except Cause Table}
    (each : ∀ t, NeverDigits (change t)) (v : Value) : NeverDigits (Table.inTable change v) := by
  unfold Table.inTable
  split
  · exact (each _).map _
  · exact neverDigits_error rfl

theorem inLast_neverDigits {change : Value → Except Cause Value}
    (each : ∀ v, NeverDigits (change v)) (items : List Value) :
    NeverDigits (Table.inLast change items) := by
  unfold Table.inLast
  split
  · exact (each _).map _
  · exact neverDigits_error rfl

theorem update_neverDigits {throughArrays : Bool} {change : Table → Except Cause Table}
    (each : ∀ t, NeverDigits (change t)) (path : List String) (t : Table) :
    NeverDigits (Table.update throughArrays change path t) := by
  induction path generalizing t with
  | nil => exact each t
  | cons name path ih =>
    have below := inTable_neverDigits ih
    unfold Table.update
    simp only
    split
    · exact (below _).bind fun _ => neverDigits_ok _
    · split
      · exact (inLast_neverDigits below _).bind fun _ => neverDigits_ok _
      · exact neverDigits_error rfl
    · exact (below _).bind fun _ => neverDigits_ok _

theorem add_neverDigits {taken : Cause} (plain : taken.isPlain = true) (key : String) (v : Value)
    (t : Table) : NeverDigits (Table.add key v taken t) := by
  unfold Table.add
  split
  · exact neverDigits_error plain
  · exact neverDigits_ok _

theorem appendTable_neverDigits (key : String) (t : Table) :
    NeverDigits (Table.appendTable key t) := by
  unfold Table.appendTable
  split
  · exact neverDigits_ok _
  · exact neverDigits_ok _
  · exact neverDigits_error rfl

/-! ## Values -/

theorem skipFiller_within (fuel : Nat) (cs : List Char) : Within id cs (skipFiller fuel cs) := by
  induction fuel generalizing cs with
  | zero => exact .ok List.suffix_rfl
  | succ fuel ih =>
    unfold skipFiller
    have blanks : skipSpacesAndBreaks cs <:+ cs := List.dropWhile_suffix _
    refine ((skipComment_within _).mono blanks).bind fun rest behind => ?_
    split
    · exact .ok behind
    · exact (ih rest).mono behind

theorem scalar_within (cs : List Char) : Within Prod.snd cs (scalar cs) := by
  unfold scalar
  split
  · next outcome found =>
    exact (string?_within found).bind fun _ behind => .ok behind
  · split
    · next found => exact .ok (truth?_suffix found)
    · split
      · next found => exact moment?_within found
      · split
        · next found => exact number?_within found
        · split
          · next found => exact .ok (specialFloat?_suffix found)
          · exact .failAt rfl

theorem inlineAdd_within (t : InlineTable) (key : List String) (v : Value)
    (rest cs : List Char) : Within (fun _ => []) cs (t.add key v rest) := by
  unfold InlineTable.add
  simp only
  split
  · exact .failAt rfl
  · split
    · next cause failed =>
      exact .failAt (update_neverDigits (add_neverDigits rfl _ v) _ _ cause failed)
    · exact .ok List.nil_suffix

/-- Each of the readers of values leaves an end of the text. -/
structure ReadsWithin (fuel : Nat) : Prop where
  value : ∀ cs, Within Prod.snd cs (Toml.value fuel cs)
  items : ∀ cs, Within Prod.snd cs (arrayItems fuel cs)
  entries : ∀ t cs, Within Prod.snd cs (inlineEntries fuel t cs)
  entry : ∀ cs, Within (·.2.2) cs (Toml.entry fuel cs)

variable {fuel : Nat}

theorem skipFiller_from (behind : rest <:+ cs) (fuel : Nat) :
    Within id cs (skipFiller fuel rest) := (skipFiller_within fuel rest).mono behind

theorem value_within (reads : ReadsWithin fuel) (cs : List Char) :
    Within Prod.snd cs (Toml.value (fuel + 1) cs) := by
  unfold Toml.value
  split
  · next first =>
    refine (skipFiller_from (List.suffix_cons _ _) _).bind fun rest behind => ?_
    split
    · exact .ok ((List.suffix_cons _ _).trans behind)
    · exact ((reads.items rest).mono behind).bind fun _ behind => .ok behind
  · next first =>
    have behind := suffix_cons (c := '\x7b') (skipSpaces_suffix first)
    split
    · next same => exact .ok ((List.suffix_cons _ _).trans (same ▸ behind))
    · exact (reads.entries _ _).mono behind
  · exact scalar_within _

theorem arrayItems_within (reads : ReadsWithin fuel) (cs : List Char) :
    Within Prod.snd cs (arrayItems (fuel + 1) cs) := by
  unfold arrayItems
  refine (reads.value cs).bind fun ⟨v, rest⟩ behind => ?_
  refine (skipFiller_from behind _).bind fun rest behind => ?_
  split
  · exact .ok ((List.suffix_cons _ _).trans behind)
  · refine (skipFiller_from ((List.suffix_cons _ _).trans behind) _).bind fun rest behind => ?_
    split
    · exact .ok ((List.suffix_cons _ _).trans behind)
    · exact ((reads.items rest).mono behind).bind fun _ behind => .ok behind
  · exact .failAt rfl

theorem inlineEntries_within (reads : ReadsWithin fuel) (t : InlineTable) (cs : List Char) :
    Within Prod.snd cs (inlineEntries (fuel + 1) t cs) := by
  unfold inlineEntries
  refine (reads.entry cs).bind fun ⟨key, v, rest⟩ behind => ?_
  refine (inlineAdd_within t key v rest cs).bind fun t _ => ?_
  have spaces := (skipSpaces_suffix rest).trans behind
  split
  · next same => exact .ok ((List.suffix_cons _ _).trans (same ▸ spaces))
  · next more same =>
    have later := (List.suffix_cons _ _).trans (same ▸ spaces)
    exact (reads.entries _ _).mono ((skipSpaces_suffix more).trans later)
  · exact .failAt rfl

theorem entry_within (reads : ReadsWithin fuel) (cs : List Char) :
    Within (·.2.2) cs (Toml.entry (fuel + 1) cs) := by
  unfold Toml.entry
  refine (key_within cs).bind fun ⟨key, rest⟩ behind => ?_
  simp only
  split
  · next more =>
    have later := (skipSpaces_suffix more).trans ((List.suffix_cons _ _).trans behind)
    exact ((reads.value _).mono later).bind fun _ behind => .ok behind
  · exact .failAt rfl

theorem readsWithin (fuel : Nat) : ReadsWithin fuel := by
  induction fuel with
  | zero =>
    exact ⟨fun _ => .failAt rfl, fun _ => .failAt rfl, fun _ _ => .failAt rfl,
      fun _ => .failAt rfl⟩
  | succ fuel ih =>
    exact ⟨value_within ih, arrayItems_within ih, inlineEntries_within ih, entry_within ih⟩

/-! ## Documents -/

theorem located_within {outcome : Except Cause α} (never : NeverDigits outcome)
    (rest cs : List Char) : Within (fun _ => []) cs (located rest outcome) := by
  unfold located
  split
  · exact .ok List.nil_suffix
  · exact .failAt (never _ rfl)

theorem addEntry_neverDigits (s : State) (key : List String) (v : Value) :
    NeverDigits (s.addEntry key v) := by
  unfold State.addEntry
  simp only
  split
  · exact neverDigits_error rfl
  · split
    · exact neverDigits_error rfl
    · exact (update_neverDigits (add_neverDigits rfl _ v) _ _).bind fun _ => neverDigits_ok _

theorem beginTable_neverDigits (s : State) (key : List String) :
    NeverDigits (s.beginTable key) := by
  unfold State.beginTable
  split
  · exact neverDigits_error rfl
  · exact (update_neverDigits neverDigits_ok _ _).bind fun _ => neverDigits_ok _

theorem beginArrayTable_neverDigits (s : State) (key : List String) :
    NeverDigits (s.beginArrayTable key) := by
  unfold State.beginArrayTable
  split
  · exact neverDigits_error rfl
  · exact (update_neverDigits (appendTable_neverDigits _) _ _).bind fun _ => neverDigits_ok _

theorem tableHeader_within (s : State) (cs : List Char) :
    Within Prod.snd cs (tableHeader s cs) := by
  refine ((key_within _).mono (skipSpaces_suffix cs)).bind fun ⟨key, rest⟩ behind => ?_
  refine (located_within (beginTable_neverDigits _ _) _ _).bind fun s _ => ?_
  split
  · exact .ok ((List.suffix_cons _ _).trans behind)
  · exact .failAt rfl

theorem arrayTableHeader_within (s : State) (cs : List Char) :
    Within Prod.snd cs (arrayTableHeader s cs) := by
  refine ((key_within _).mono (skipSpaces_suffix cs)).bind fun ⟨key, rest⟩ behind => ?_
  refine (located_within (beginArrayTable_neverDigits _ _) _ _).bind fun s _ => ?_
  split
  · exact .ok ((suffix_cons (List.suffix_cons _ _)).trans behind)
  · exact .failAt rfl

theorem entryStatement_within (s : State) (cs : List Char) :
    Within Prod.snd cs (entryStatement s cs) := by
  refine ((readsWithin _).entry cs).bind fun ⟨key, v, rest⟩ behind => ?_
  exact (located_within (addEntry_neverDigits s key v) _ _).bind fun _ _ => .ok behind

theorem statement_within (s : State) (cs : List Char) : Within Prod.snd cs (statement s cs) := by
  unfold statement
  split
  · exact (arrayTableHeader_within s _).mono (suffix_cons (List.suffix_cons _ _))
  · exact (tableHeader_within s _).mono (List.suffix_cons _ _)
  · exact .ok List.suffix_rfl
  · split
    · exact entryStatement_within s _
    · exact .failAt rfl
  · exact .ok List.suffix_rfl

theorem statements_within (fuel : Nat) (s : State) (cs : List Char) :
    Within (fun _ => []) cs (statements fuel s cs) := by
  induction fuel generalizing s cs with
  | zero => exact .ok List.nil_suffix
  | succ fuel ih =>
    have spaces := skipSpaces_suffix cs
    unfold statements
    split
    · exact .ok List.nil_suffix
    · next rest same => exact (ih s rest).mono ((List.suffix_cons _ _).trans (same ▸ spaces))
    · refine ((statement_within s _).mono spaces).bind fun ⟨s, rest⟩ behind => ?_
      have later := (skipSpaces_suffix rest).trans behind
      refine ((skipComment_within _).mono later).bind fun rest behind => ?_
      split
      · exact .ok List.nil_suffix
      · exact (ih s _).mono ((List.suffix_cons _ _).trans behind)
      · exact .failAt rfl

/-- A text that fails over too many digits has a run of that many somewhere. -/
theorem hasLongRun_of_parse {text : String} {failure : Failure} {count : Nat}
    (failed : parse text = .error failure) (digits : failure.cause = .tooManyDigits count) :
    HasLongRun text.toList := by
  have within := statements_within (text.toList.length + 1) .empty text.toList
  refine within.digits failure count ?_ digits
  unfold parse at failed
  simp only at failed
  cases read : statements (text.toList.length + 1) .empty text.toList with
  | ok s =>
    rw [read] at failed
    cases failed
  | error failure' =>
    rw [read] at failed
    exact congrArg _ (Except.error.inj failed)

end SchemaCompiler.Toml
