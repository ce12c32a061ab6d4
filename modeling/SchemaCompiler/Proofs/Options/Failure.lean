import SchemaCompiler.Proofs.Options.Layers
import SchemaCompiler.Proofs.Toml.Digits

/-!
# Failures of loading options

Loading options is to end with options or with a diagnostic about the configuration. It does unless
the file has an integer with more digits than are read, or a path that is neither a text nor null
(`load_declared_iff`): no dialect of the environment, no override and no other value of the file
makes it end in another way. A file without a long run of digits has no such integer.
-/

set_option autoImplicit false

namespace SchemaCompiler.Options

variable {t : FileTree} {p : Path} {text key : String} {document table table' es : Entries}

/-- Options are loaded, or there is a diagnostic about the configuration. -/
def Declared (outcome : Except LoadFailure Options) : Prop :=
  (∃ o, outcome = .ok o) ∨ ∃ failure, outcome = .error (.config failure)

/-- Reading a text comes upon an integer with more digits than are read. -/
def TooLong (text : String) : Prop :=
  ∃ failure count, Toml.parse text = .error failure ∧ failure.cause = .tooManyDigits count

theorem TooLong.hasLongRun (long : TooLong text) : Toml.HasLongRun text.toList := by
  obtain ⟨failure, count, failed, cause⟩ := long
  exact Toml.hasLongRun_of_parse failed cause

/-- Reading options from entries always ends as declared. -/
theorem declared_ofEntries (es : Entries) : Declared (ofEntries es) := by
  unfold ofEntries
  cases (read (.dict es)).result with
  | ok o => exact .inl ⟨o, rfl⟩
  | error problems => exact .inr ⟨.invalidOptions problems, rfl⟩

theorem seatPath_error {directory : Path} {e : LoadFailure}
    (failed : seatPath directory key es = .error e) : e = .pathValue key := by
  unfold seatPath at failed
  split at failed <;> cases failed
  rfl

/-- The entries of a table fail over a path. -/
theorem tableEntries_error {e : LoadFailure} (holds : Holds document table)
    (failed : tableEntries p document = .error e) : ∃ name ∈ pathNames, e = .pathValue name := by
  unfold tableEntries at failed
  rw [holds] at failed
  rcases Outcome.bind_error_iff.mp failed with output | ⟨seated, _, baseline⟩
  · exact ⟨"output_path", by decide, seatPath_error output⟩
  · exact ⟨"baseline_path", by decide, seatPath_error baseline⟩

theorem tableEntries_of_not_holds (other : ∀ table, ¬ Holds document table) :
    tableEntries p document = .error (.config (.notTable p)) := by
  unfold tableEntries
  split
  · next table holds => exact absurd holds (other table)
  · rfl

/-- A file that fails makes loading fail. -/
theorem load_of_fileEntries_error {e : LoadFailure} (failed : fileEntries t p = .error e)
    (provider : Option String) (overrides : Entries) :
    load t (some p) provider overrides = .error e := by
  unfold load
  simp only [failed]
  rfl

theorem load_of_fileEntries {file : Entries} (made : fileEntries t p = .ok file)
    (provider : Option String) (overrides : Entries) :
    load t (some p) provider overrides = ofEntries (layers file provider overrides) := by
  unfold load
  simp only [made, Outcome.ok_bind]

theorem not_declared {e : LoadFailure} (other : ∀ failure, e ≠ .config failure) :
    ¬ Declared (.error e) := by
  rintro (⟨o, done⟩ | ⟨failure, same⟩)
  · cases done
  · exact other failure (Except.error.inj same)

/-- A document has one table of the generator at most. -/
theorem Holds.unique (holds : Holds document table) (holds' : Holds document table') :
    table' = table :=
  Value.dict.inj (holds'.symm.trans holds)

theorem not_declared_pathValue (key : String) : ¬ Declared (.error (.pathValue key)) :=
  not_declared nofun

/-- A file that is no document ends loading as declared unless an integer in it is too long. -/
theorem declared_iff_of_unparsed {failure : Toml.Failure} (read : t.readText p = .ok text)
    (parsed : Toml.parse text = .error failure) (provider : Option String) (overrides : Entries) :
    Declared (load t (some p) provider overrides) ↔ ¬ TooLong text := by
  by_cases long : ∃ count, failure.cause = .tooManyDigits count
  · obtain ⟨count, cause⟩ := long
    have failed : fileEntries t p = .error (.number (.tooManyDigits count)) := by
      unfold fileEntries
      simp only [read, parsed, cause]
    rw [load_of_fileEntries_error failed]
    exact iff_of_false (not_declared nofun) fun short => short ⟨failure, count, parsed, cause⟩
  · have failed : fileEntries t p =
        .error (.config (.invalidToml p (failure.text text.toList))) := by
      unfold fileEntries
      simp only [read, parsed]
      split
      · next count cause => exact absurd ⟨count, cause⟩ long
      · rfl
    rw [load_of_fileEntries_error failed]
    refine iff_of_true (.inr ⟨_, rfl⟩) ?_
    rintro ⟨failure', count, parsed', cause⟩
    cases parsed.symm.trans parsed'
    exact long ⟨count, cause⟩

/-- Loading from a document ends as declared exactly if the paths of its table are texts or null. -/
theorem declared_iff_of_parsed (read : t.readText p = .ok text)
    (parsed : Toml.parse text = .ok document) (provider : Option String) (overrides : Entries) :
    Declared (load t (some p) provider overrides) ↔
      ∀ table, Holds document table → PathsArePlaces table := by
  have entries := fileEntries_of_parsed read parsed
  by_cases present : ∃ table, Holds document table
  · obtain ⟨table, holds⟩ := present
    have places : (∀ table', Holds document table' → PathsArePlaces table') ↔
        PathsArePlaces table :=
      ⟨fun each => each table holds, fun own table' holds' => holds.unique holds' ▸ own⟩
    rw [places, ← exists_tableEntries_iff (p := p) holds, ← entries]
    cases made : fileEntries t p with
    | ok file =>
      rw [load_of_fileEntries made]
      exact iff_of_true (declared_ofEntries _) ⟨file, rfl⟩
    | error e =>
      obtain ⟨name, _, rfl⟩ := tableEntries_error holds (entries.symm.trans made)
      rw [load_of_fileEntries_error made]
      exact iff_of_false (not_declared_pathValue name) fun ⟨file, done⟩ => nomatch done
  · have none : ∀ table, ¬ Holds document table := fun table holds => present ⟨table, holds⟩
    rw [load_of_fileEntries_error (entries.trans (tableEntries_of_not_holds none))]
    exact iff_of_true (.inr ⟨_, rfl⟩) fun table holds => absurd holds (none table)

/-- From a file that can be read, options are loaded or there is a diagnostic about the
configuration exactly if reading the file comes upon no integer with too many digits and each path
in the table of the generator is a text or null. An integer with too many digits is a run of them in
the file. -/
theorem load_declared_iff (read : t.readText p = .ok text) (provider : Option String)
    (overrides : Entries) :
    (Declared (load t (some p) provider overrides) ↔
      ¬ TooLong text ∧ ∀ document table, Toml.parse text = .ok document → Holds document table →
        PathsArePlaces table) ∧
    (TooLong text → Toml.HasLongRun text.toList) := by
  refine ⟨?_, TooLong.hasLongRun⟩
  cases parsed : Toml.parse text with
  | error failure =>
    rw [declared_iff_of_unparsed read parsed]
    exact ⟨fun short => ⟨short, nofun⟩, fun ⟨short, _⟩ => short⟩
  | ok document =>
    have short : ¬ TooLong text := by
      rintro ⟨failure, count, failed, _⟩
      cases parsed.symm.trans failed
    rw [declared_iff_of_parsed read parsed]
    constructor
    · intro places
      refine ⟨short, fun document' table same holds => ?_⟩
      cases same
      exact places table holds
    · rintro ⟨_, places⟩ table holds
      exact places document table rfl holds

/-- From the file whose dialect does not exist there are options or a diagnostic, whatever the
environment and the overrides say. -/
theorem load_declared_iff_mistaken :
    configurations.readText (Path.parse "conf/a.toml") = .ok mistaken ∧
    (∀ provider overrides,
      Declared (load configurations (some (Path.parse "conf/a.toml")) provider overrides)) ∧
    (load configurations (some (Path.parse "conf/a.toml")) none []).toOption = none ∧
    (load configurations (some (Path.parse "conf/a.toml")) none switches).toOption.isSome := by
  have read : configurations.readText (Path.parse "conf/a.toml") = .ok mistaken := by
    decide +kernel
  have parsed : Toml.parse mistaken = .ok [(.str "generator", .dict mistakenTable)] := by cbv
  have layered := load_eq_combined configures_mistaken pathsAreTexts_mistaken none
  refine ⟨read, fun provider overrides => ?_, ?_, ?_⟩
  · refine (load_declared_iff read provider overrides).1.mpr ⟨?_, ?_⟩
    · rintro ⟨failure, count, failed, _⟩
      cases parsed.symm.trans failed
    · intro document table same holds
      cases parsed.symm.trans same
      have here : Holds [(.str "generator", .dict mistakenTable)] mistakenTable := rfl
      rw [here.unique holds]
      exact pathsAreTexts_mistaken.places
  · rw [layered]
    decide +kernel
  · rw [layered]
    decide +kernel

/-- A file whose path is a number. -/
def misplaced : String := "[generator]\noutput_path = 5\n"

/-- A directory with this file. -/
def misplacement : FileTree :=
  (FileTree.fresh ["work"]).withFile (Path.parse "a.toml") (Text.toBytes misplaced)

/-- A path that is a number is found out before the options are read, and not as a diagnostic. -/
theorem number_not_declared :
    misplacement.readText (Path.parse "a.toml") = .ok misplaced ∧
    load misplacement (some (Path.parse "a.toml")) none [] = .error (.pathValue "output_path") ∧
    ¬ Declared (load misplacement (some (Path.parse "a.toml")) none []) := by
  have read : misplacement.readText (Path.parse "a.toml") = .ok misplaced := by decide +kernel
  have parsed : Toml.parse misplaced =
      .ok [(.str "generator", .dict [(.str "output_path", .int 5)])] := by cbv
  have failed : load misplacement (some (Path.parse "a.toml")) none [] =
      .error (.pathValue "output_path") :=
    load_of_fileEntries_error ((fileEntries_of_parsed read parsed).trans rfl) none []
  refine ⟨read, failed, ?_⟩
  rw [failed]
  exact not_declared_pathValue "output_path"

end SchemaCompiler.Options
