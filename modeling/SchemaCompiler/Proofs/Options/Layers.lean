import SchemaCompiler.Options.Load
import SchemaCompiler.Proofs.Model.Rendering
import SchemaCompiler.Proofs.Outcome

/-!
# Layers of options

What an option is read from depends on what is said about this option alone: its override, else its
value in the file, else, for the dialect, what the environment names, else its standard value
(`choice`). Loading options is reading them from these values (`load_combines`). So a value that
another one hides, valid or not, changes neither the options nor the failure.

A path in the file has to be a text, even if it is hidden. Other values than texts are not covered
here.
-/

set_option autoImplicit false

namespace SchemaCompiler

namespace Reading

/-- A part that is left out is read as its default is, if the default is written in. -/
theorem part_of_default {α : Type} {es es' : List (Value × Value)} {key : String} {absent : α}
    {read : Value → Reading α} {usual : Value}
    (same : Value.lookup? es' key = some ((Value.lookup? es key).getD usual))
    (standard : read usual = accept absent) :
    part es key absent read = part es' key absent read := by
  unfold part
  rw [same]
  cases Value.lookup? es key with
  | none => exact (congrArg (under (.key key)) standard).symm
  | some v => rfl

end Reading

namespace Options

open Reading (part_of_default record)

variable {t t' : FileTree} {path path' : Option Path} {directory : Path}
  {table table' document es es' : Entries} {name key : String}

/-- The names of the options. -/
def optionNames : List String :=
  ["dialect", "output_path", "include_audit_fields", "include_indexes", "output_format",
   "baseline_path", "connection_env", "client_output", "binary_targets", "include_timestamp",
   "audit_actor_type"]

/-- The names of the options that are paths. -/
def pathNames : List String := ["output_path", "baseline_path"]

/-! ## The file -/

/-- A value that a path of a file is read from: a text, or null for no path. -/
inductive IsPlace : Value → Prop
  | null : IsPlace .null
  | text (s : String) : IsPlace (.str s)

/-- A path as it is seen from the directory of its file. -/
def seat (directory : Path) : Value → Value
  | .str s => .str (directory.under (Path.parse s)).render
  | v => v

theorem exists_seatPath_iff : (∃ es', seatPath directory key es = .ok es') ↔
    ∀ v, Value.lookup? es key = some v → IsPlace v := by
  unfold seatPath
  split
  · next missing => simp [missing]
  · next null => simpa [null] using IsPlace.null
  · next s text => simpa [text] using IsPlace.text s
  · next v null text given =>
    refine iff_of_false (fun ⟨_, done⟩ => (nomatch done)) fun place => ?_
    cases place v given with
    | null => exact null rfl
    | text s => exact text s rfl

/-- Seating a path changes the value of the path and no other. -/
theorem lookup?_seatPath (done : seatPath directory key es = .ok es') (name : String) :
    Value.lookup? es' name =
      if name = key then (Value.lookup? es name).map (seat directory)
      else Value.lookup? es name := by
  unfold seatPath at done
  split at done
  · next missing =>
    cases done
    split
    · next same => rw [same, missing, Option.map_none]
    · rfl
  · next null =>
    cases done
    split
    · next same =>
      rw [same, null]
      rfl
    · rfl
  · next s text =>
    cases done
    rw [Value.lookup?_append, Value.lookup?_cons, Value.lookup?_nil, Option.none_or]
    by_cases same : name = key
    · rw [same, text, if_pos rfl, if_pos rfl]
      rfl
    · rw [if_neg (Ne.symm same), if_neg same, Option.none_or]
  · cases done

/-- The value of an option in a table, with the paths seated in the directory of the file. -/
def fileValue (directory : Path) (table : Entries) (name : String) : Option Value :=
  if name ∈ pathNames then (Value.lookup? table name).map (seat directory)
  else Value.lookup? table name

/-- A document has a table of the generator; without one, the table is empty. -/
def Holds (document table : Entries) : Prop :=
  (Value.lookup? document "generator").getD (.dict []) = .dict table

/-- The paths of a table are texts, as far as they are there. -/
def PathsAreTexts (table : Entries) : Prop :=
  ∀ name ∈ pathNames, ∀ v, Value.lookup? table name = some v → ∃ s, v = .str s

/-- The paths of a table are texts or null, as far as they are there. -/
def PathsArePlaces (table : Entries) : Prop :=
  ∀ name ∈ pathNames, ∀ v, Value.lookup? table name = some v → IsPlace v

theorem PathsAreTexts.places (texts : PathsAreTexts table) : PathsArePlaces table := by
  intro name mem v given
  obtain ⟨s, rfl⟩ := texts name mem v given
  exact .text s

/-- The entries of a file are there if its paths can be read. -/
theorem exists_tableEntries_iff {p : Path} (holds : Holds document table) :
    (∃ es, tableEntries p document = .ok es) ↔ PathsArePlaces table := by
  unfold tableEntries PathsArePlaces
  rw [holds]
  simp only [pathNames, List.forall_mem_cons, List.not_mem_nil, false_implies, implies_true,
    and_true]
  constructor
  · rintro ⟨es, done⟩
    obtain ⟨seated, first, second⟩ := Outcome.bind_ok_iff.mp done
    refine ⟨exists_seatPath_iff.mp ⟨seated, first⟩, fun v given => ?_⟩
    refine exists_seatPath_iff.mp ⟨es, second⟩ v ?_
    rw [lookup?_seatPath first, if_neg (by decide), given]
  · rintro ⟨output, baseline⟩
    obtain ⟨seated, first⟩ := exists_seatPath_iff.mpr output
    obtain ⟨es, second⟩ : ∃ es, seatPath p.parent "baseline_path" seated = .ok es := by
      refine exists_seatPath_iff.mpr fun v given => baseline v ?_
      rwa [lookup?_seatPath first, if_neg (by decide)] at given
    exact ⟨es, Outcome.bind_ok_iff.mpr ⟨seated, first, second⟩⟩

/-- The entries of a file are those of its table, with the paths seated. -/
theorem lookup?_tableEntries {p : Path} (holds : Holds document table)
    (done : tableEntries p document = .ok es) (name : String) :
    Value.lookup? es name = fileValue p.parent table name := by
  unfold tableEntries at done
  rw [holds] at done
  obtain ⟨seated, first, second⟩ := Outcome.bind_ok_iff.mp done
  rw [lookup?_seatPath second, lookup?_seatPath first]
  by_cases output : name = "output_path"
  · simp [output, fileValue, pathNames]
  · by_cases baseline : name = "baseline_path"
    · simp [baseline, fileValue, pathNames]
    · simp [output, baseline, fileValue, pathNames]

theorem fileEntries_of_parsed {p : Path} {text : String} (read : t.readText p = .ok text)
    (parsed : Toml.parse text = .ok document) : fileEntries t p = tableEntries p document := by
  unfold fileEntries
  simp only [read, parsed]

/-- The table that a configuration has, and the directory that its paths start from. Without a file
there is nothing in the table. -/
inductive Configures (t : FileTree) : Option Path → Path → Entries → Prop
  | none (directory : Path) : Configures t none directory []
  | file {p : Path} {text : String} {document table : Entries} (read : t.readText p = .ok text)
      (parsed : Toml.parse text = .ok document) (holds : Holds document table) :
      Configures t (some p) p.parent table

/-! ## The choice of a value -/

/-- What the environment says about an option: nothing, unless it names a dialect. -/
def environmentValue (provider : Option String) (name : String) : Option Value :=
  match provider with
  | some s =>
    if name = "dialect" ∧ s ≠ "" then some (.str (Text.lower (Text.trim s))) else none
  | none => none

/-- The value of an option when nothing is said about it. -/
def standardValue (name : String) : Value :=
  match standard.toValue with
  | .dict es => (Value.lookup? es name).getD .null
  | _ => .null

/-- The override of an option, if there is one that is not null. -/
def override? (overrides : Entries) (name : String) : Option Value :=
  Value.lookup? (givenEntries overrides) name

/-- The value that is given for an option: its override if there is one, else its value in the file,
else what the environment says. -/
def given? (directory : Path) (table : Entries) (provider : Option String) (overrides : Entries)
    (name : String) : Option Value :=
  ((override? overrides name).or (fileValue directory table name)).or
    (environmentValue provider name)

/-- The value that an option is read from: the one given for it, or else the standard one. -/
def choice (directory : Path) (table : Entries) (provider : Option String) (overrides : Entries)
    (name : String) : Value :=
  (given? directory table provider overrides name).getD (standardValue name)

/-- Every option with the value that it is read from. -/
def combined (directory : Path) (table : Entries) (provider : Option String)
    (overrides : Entries) : Entries :=
  optionNames.map fun name => (.str name, choice directory table provider overrides name)

/-- The environment stands behind the file. -/
theorem lookup?_providerEntries (file : Entries) (provider : Option String) (name : String) :
    (Value.lookup? (providerEntries file provider) name).or (Value.lookup? file name) =
      (Value.lookup? file name).or (environmentValue provider name) := by
  unfold providerEntries environmentValue
  cases provider with
  | none => cases Value.lookup? file "dialect" <;> simp
  | some s =>
    by_cases dialect : name = "dialect"
    · subst dialect
      by_cases empty : s = "" <;> cases Value.lookup? file "dialect" <;> simp [empty]
    · by_cases empty : s = "" <;> cases Value.lookup? file "dialect" <;>
        simp [empty, dialect, Ne.symm dialect]

/-- All layers give for an option what is chosen for it. -/
theorem lookup?_layers {file : Entries}
    (values : ∀ name, Value.lookup? file name = fileValue directory table name)
    (provider : Option String) (overrides : Entries) (name : String) :
    Value.lookup? (layers file provider overrides) name =
      given? directory table provider overrides name := by
  unfold layers given? override?
  rw [Value.lookup?_append, Value.lookup?_append, lookup?_providerEntries, values, Option.or_assoc]

theorem lookup?_map (names : List String) (f : String → Value) (name : String) :
    Value.lookup? (names.map fun name => (.str name, f name)) name =
      if name ∈ names then some (f name) else none := by
  induction names with
  | nil => rfl
  | cons first rest ih =>
    rw [List.map_cons, Value.lookup?_cons, ih]
    by_cases same : name = first
    · subst same
      by_cases later : name ∈ rest <;> simp [later]
    · by_cases later : name ∈ rest <;> simp [same, Ne.symm same, later]

/-! ## Loading -/

/-- Options are read from what is given for each of them, or else from its standard value. -/
theorem read_of_choice (given : ∀ name ∈ optionNames, Value.lookup? es' name =
    some ((Value.lookup? es name).getD (standardValue name))) :
    read (.dict es) = read (.dict es') := by
  simp only [optionNames, List.forall_mem_cons] at given
  obtain ⟨dialect, outputPath, audit, indexes, format, baseline, connection, client, binaries,
    timestamp, actor, _⟩ := given
  unfold read record
  simp only
  rw [part_of_default dialect, part_of_default outputPath, part_of_default audit,
    part_of_default indexes, part_of_default format, part_of_default baseline,
    part_of_default connection, part_of_default client, part_of_default binaries,
    part_of_default timestamp, part_of_default actor]
  -- the standard values are read as the standard options
  all_goals rfl

/-- A configuration whose paths are texts is read from layers over the values of its table. -/
theorem exists_load_layers (configures : Configures t path directory table)
    (texts : PathsAreTexts table) :
    ∃ file, (∀ name, Value.lookup? file name = fileValue directory table name) ∧
      ∀ provider overrides,
        load t path provider overrides = ofEntries (layers file provider overrides) := by
  cases configures with
  | none =>
    refine ⟨[], fun name => ?_, fun _ _ => rfl⟩
    unfold fileValue
    split <;> rfl
  | @file p text document table read parsed holds =>
    obtain ⟨file, made⟩ := (exists_tableEntries_iff (p := p) holds).mpr texts.places
    refine ⟨file, lookup?_tableEntries holds made, fun provider overrides => ?_⟩
    unfold load
    simp only [fileEntries_of_parsed read parsed, made, Outcome.ok_bind]

/-- Options are loaded by reading each from the value that is chosen for it. -/
theorem load_eq_combined (configures : Configures t path directory table)
    (texts : PathsAreTexts table) (provider : Option String) (overrides : Entries) :
    load t path provider overrides = ofEntries (combined directory table provider overrides) := by
  obtain ⟨file, values, loaded⟩ := exists_load_layers configures texts
  have chosen : ∀ name ∈ optionNames,
      Value.lookup? (combined directory table provider overrides) name =
        some ((Value.lookup? (layers file provider overrides) name).getD (standardValue name)) := by
    intro name mem
    rw [combined, lookup?_map, if_pos mem, lookup?_layers values]
    rfl
  rw [loaded]
  unfold ofEntries
  rw [read_of_choice chosen]

/-- Of two configurations that differ in nothing but hidden values the same is chosen. -/
theorem combined_congr {provider provider' : Option String} {overrides : Entries}
    (file : ∀ name ∈ optionNames, override? overrides name = none →
      Value.lookup? table name = Value.lookup? table' name)
    (environment : override? overrides "dialect" = none → Value.lookup? table "dialect" = none →
      provider = provider') :
    combined directory table provider overrides =
      combined directory table' provider' overrides := by
  refine List.map_congr_left fun name mem => ?_
  unfold choice given?
  cases hidden : override? overrides name with
  | some v => rfl
  | none =>
    have values : fileValue directory table name = fileValue directory table' name := by
      unfold fileValue
      rw [file name mem hidden]
    rw [values]
    by_cases dialect : name = "dialect"
    · subst dialect
      cases silent : Value.lookup? table "dialect" with
      | none => rw [environment hidden silent]
      | some v =>
        have given : fileValue directory table' "dialect" = some v := by
          rw [← values, fileValue, if_neg (by decide), silent]
        rw [given]
        rfl
    · have nothing (provider : Option String) : environmentValue provider name = none := by
        unfold environmentValue
        split <;> simp [dialect]
      rw [nothing, nothing]

/-- Options are loaded by reading each from its override, else from its value in the file, else, if
it is the dialect, from what the environment names, else from its standard value. A configuration in
the same directory that differs only in values that an override hides, or in an environment that the
dialect of an override or of the file hides, has the same options or the same failure. -/
theorem load_combines (configures : Configures t path directory table)
    (texts : PathsAreTexts table) (provider : Option String) (overrides : Entries) :
    load t path provider overrides = ofEntries (combined directory table provider overrides) ∧
    ∀ {t' : FileTree} {path' : Option Path} {table' : Entries} {provider' : Option String},
      Configures t' path' directory table' → PathsAreTexts table' →
      (∀ name ∈ optionNames, override? overrides name = none →
        Value.lookup? table name = Value.lookup? table' name) →
      (override? overrides "dialect" = none → Value.lookup? table "dialect" = none →
        provider = provider') →
      load t' path' provider' overrides = load t path provider overrides := by
  have loaded := load_eq_combined configures texts provider overrides
  refine ⟨loaded, fun configures' texts' file environment => ?_⟩
  rw [loaded, load_eq_combined configures' texts', combined_congr file environment]

/-- A file that names a dialect that does not exist. -/
def mistaken : String := "[generator]\ndialect = \"oracle\"\noutput_path = \"a.prisma\"\n"

/-- The same file without it. -/
def silent : String := "[generator]\noutput_path = \"a.prisma\"\n"

/-- A directory with both files. -/
def configurations : FileTree :=
  ((FileTree.fresh ["work"]).withFile (Path.parse "conf/a.toml") (Text.toBytes mistaken)).withFile
    (Path.parse "conf/b.toml") (Text.toBytes silent)

/-- The table of the file with the mistake. -/
def mistakenTable : Entries :=
  [(.str "dialect", .str "oracle"), (.str "output_path", .str "a.prisma")]

/-- The table of the file without it. -/
def silentTable : Entries := [(.str "output_path", .str "a.prisma")]

/-- A dialect that exists, a switch, and a format that is left out. -/
def switches : Entries :=
  [(.str "dialect", .str "sqlite"), (.str "include_indexes", .bool false),
   (.str "output_format", .null)]

theorem configures_mistaken :
    Configures configurations (some (Path.parse "conf/a.toml")) ⟨"", ["conf"]⟩ mistakenTable := by
  have read : configurations.readText (Path.parse "conf/a.toml") = .ok mistaken := by
    decide +kernel
  have parsed : Toml.parse mistaken = .ok [(.str "generator", .dict mistakenTable)] := by cbv
  exact .file read parsed rfl

theorem configures_silent :
    Configures configurations (some (Path.parse "conf/b.toml")) ⟨"", ["conf"]⟩ silentTable := by
  have read : configurations.readText (Path.parse "conf/b.toml") = .ok silent := by
    decide +kernel
  have parsed : Toml.parse silent = .ok [(.str "generator", .dict silentTable)] := by cbv
  exact .file read parsed rfl

theorem pathsAreTexts_mistaken : PathsAreTexts mistakenTable := by
  simp [PathsAreTexts, pathNames, mistakenTable]

theorem pathsAreTexts_silent : PathsAreTexts silentTable := by
  simp [PathsAreTexts, pathNames, silentTable]

/-- The dialect is overridden, so that it makes no difference which one the file names, if any, nor
what the environment names. -/
theorem load_combines_switches :
    load configurations (some (Path.parse "conf/a.toml")) (some "nowhere") switches =
      ofEntries (combined ⟨"", ["conf"]⟩ mistakenTable (some "nowhere") switches) ∧
    load configurations (some (Path.parse "conf/b.toml")) none switches =
      load configurations (some (Path.parse "conf/a.toml")) (some "nowhere") switches ∧
    (ofEntries (combined ⟨"", ["conf"]⟩ mistakenTable (some "nowhere") switches)).toOption =
      some { standard with dialect := .sqlite, includeIndexes := false,
                           outputPath := ⟨"", ["conf", "a.prisma"]⟩ } := by
  obtain ⟨loaded, agree⟩ :=
    load_combines configures_mistaken pathsAreTexts_mistaken (some "nowhere") switches
  refine ⟨loaded, agree configures_silent pathsAreTexts_silent ?_ nofun, by decide +kernel⟩
  intro name _ free
  have dialect : name ≠ "dialect" := by
    rintro rfl
    cases free
  simp [mistakenTable, silentTable, Ne.symm dialect]

end Options

end SchemaCompiler
