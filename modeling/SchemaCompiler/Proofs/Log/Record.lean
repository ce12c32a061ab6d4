import SchemaCompiler.Log.Record
import SchemaCompiler.Proofs.Text.OneLine
import SchemaCompiler.Proofs.Value.Entries
import SchemaCompiler.Proofs.Value.JsonReader

/-!
# Log lines

A record whose context is a value that JSON has becomes one line, unless its moment has no date, its
message cannot be filled in, or an integer that it shows has too many digits. The line is read as an
object that states the record (`jsonLine_states`): its moment, its level, its component and its
message, and as far as there are any its context, for a warning or worse its source, and the error
that it is about (`States`). What the message, the names and the context hold makes no difference,
as everything but printable ASCII is escaped.

The object has no other members (`States.names`), and a context that holds nothing, which zero and
false count as, is none of them.
-/

set_option autoImplicit false

namespace SchemaCompiler

/-! ## JSON on one line -/

namespace Value

variable {v : Value} {layout : JsonLayout}

/-- A value that JSON has is written on one line, where the separators have no line break. -/
theorem oneLine_toJson (items : Text.OneLine layout.itemSeparator)
    (keys : Text.OneLine layout.keySeparator) (json : v.IsJson) {text : String}
    (written : v.toJson layout = .ok text) : Text.OneLine text := by
  induction json generalizing text with
  | null =>
    cases written
    decide
  | bool b =>
    cases written
    cases b <;> decide
  | int n =>
    rw [toJson] at written
    obtain rfl := integerText_eq (Outcome.mapError_ok_iff.mp written)
    exact Text.oneLine_toString n
  | str s =>
    cases written
    exact Text.oneLine_quoted s
  | list _ ih =>
    rw [toJson_list] at written
    obtain ⟨texts, each, done⟩ := Outcome.bind_ok_iff.mp written
    cases done
    have joined : Text.OneLine (layout.itemSeparator.intercalate texts) := by
      refine Text.oneLine_intercalate items fun t mem => ?_
      obtain ⟨item, within, made⟩ := Outcome.exists_of_mem_right each mem
      exact ih item within made
    exact (Text.OneLine.append (by decide) joined).append (by decide)
  | dict named distinct each ih =>
    have json := IsJson.dict named distinct each
    have short := isShort_dict_iff.mp ((toJson_endsIf layout json).ok_iff.mp ⟨text, written⟩)
    choose! value made using fun e mem => exists_toJson layout (each e mem) (short e mem).2
    obtain ⟨ordered, perm, _, done⟩ := exists_entryTexts named made
    cases written.symm.trans done
    refine (Text.OneLine.append (by decide) ?_).append (by decide)
    refine Text.oneLine_intercalate items (List.forall_mem_map.mpr fun e mem => ?_)
    have within := perm.subset mem
    exact ((Text.oneLine_quoted _).append keys).append (ih e within (made e within))

end Value

namespace Log

open Outcome (EndsIf)

variable {r : Record} {t : Moment} {level text line : String}

/-! ## Components -/

/-- The part of a dotted name behind its last dot, or the name itself if it has none. -/
def IsLastPart (part name : String) : Prop :=
  '.' ∉ part.toList ∧ (name = part ∨ ∃ front, name = front ++ "." ++ part)

theorem isLastPart_lastPart (name : String) : IsLastPart (lastPart name) name := by
  have split : name.toList = (name.toList.reverse.dropWhile (· != '.')).reverse ++
      (lastPart name).toList := by
    rw [lastPart, String.toList_ofList, ← List.reverse_append, List.takeWhile_append_dropWhile,
      List.reverse_reverse]
  constructor
  · intro dot
    rw [lastPart, String.toList_ofList, List.mem_reverse] at dot
    have other := List.mem_takeWhile_imp dot
    exact absurd other (by decide)
  · cases left : name.toList.reverse.dropWhile (· != '.') with
    | nil =>
      rw [left, List.reverse_nil, List.nil_append] at split
      exact .inl (String.toList_inj.mp split)
    | cons c front =>
      have dot : c = '.' := by
        have first := List.head?_dropWhile_not (· != '.') name.toList.reverse
        rw [left] at first
        simpa using first
      refine .inr ⟨String.ofList front.reverse, String.toList_inj.mp ?_⟩
      rw [split, left, dot, List.reverse_cons, String.toList_append, String.toList_append,
        String.toList_ofList]
      rfl

namespace Record

/-- The component of a record is the one that it states, or else the last part of the logger's
name. -/
def IsComponent (r : Record) (component : String) : Prop :=
  r.component = some component ∧ component ≠ "" ∨
    (r.component = none ∨ r.component = some "") ∧ IsLastPart component r.logger

theorem isComponent_shownComponent (r : Record) : r.IsComponent r.shownComponent := by
  unfold shownComponent
  split
  · next component stated =>
    split
    · next empty => exact .inr ⟨.inr (eq_of_beq empty ▸ stated), isLastPart_lastPart r.logger⟩
    · next given => exact .inl ⟨stated, fun empty => given (beq_iff_eq.mpr empty)⟩
  · next unstated => exact .inr ⟨.inl unstated, isLastPart_lastPart r.logger⟩

/-! ## Statements of a record -/

/-- An object states where a record comes from, as far as it is known. A function that stands for
the body of a file is not. -/
structure Locates (r : Record) (entries : List (Value × Value)) : Prop where
  file : Value.lookup? entries "file" = if r.file = "" then none else some (.str r.file)
  line : Value.lookup? entries "line" = if r.line = 0 then none else some (.int r.line)
  function : Value.lookup? entries "function" = r.function.bind fun f =>
    if f = "" ∨ f = "<module>" then none else some (.str f)
  names : (entries.map (·.1)).Sublist (["file", "line", "function"].map .str)

/-- An object states a record. -/
structure States (r : Record) (entries : List (Value × Value)) : Prop where
  timestamp : ∃ t, r.time.universal = .ok t ∧
    Value.lookup? entries "timestamp" = some (.str t.isoText)
  level : ∃ name, levelName r.level = .ok name ∧
    Value.lookup? entries "level" = some (.str name)
  component : ∃ component, r.IsComponent component ∧
    Value.lookup? entries "component" = some (.str component)
  message : ∃ text, r.message = .ok text ∧ Value.lookup? entries "message" = some (.str text)
  context : Value.lookup? entries "context" =
    if r.context.isPresent then some r.context else none
  /-- Warnings and worse state their source, if anything is known of it. -/
  source : ∃ located, r.Locates located ∧ Value.lookup? entries "source" =
    if Level.warning.number ≤ r.level ∧ located ≠ [] then some (.dict located) else none
  exception : Value.lookup? entries "exception" = r.raised.map fun e =>
    .record [("type", .str e.kind), ("message", .str e.message)]
  /-- There are no other members, and no member is stated twice. -/
  names : (entries.map (·.1)).Sublist
    (["timestamp", "level", "component", "message", "context", "source", "exception"].map .str)

/-! ## The object of a record -/

/-- The function that a record comes from, if it is known and not the body of a file. -/
def shownFunction (r : Record) : Value :=
  match r.function with
  | some f => if f = "<module>" then .null else .str f
  | none => .null

theorem source_eq (r : Record) : r.source = Value.present
    [("file", .str r.file), ("line", .int r.line), ("function", r.shownFunction)] := by
  have file : (if r.file == "" then [] else [("file", Value.str r.file)]) =
      Value.present [("file", .str r.file)] := by
    by_cases empty : r.file = "" <;> simp [Value.present, Value.isPresent, empty]
  have line : (if r.line = 0 then [] else [("line", Value.int r.line)]) =
      Value.present [("line", .int r.line)] := by
    by_cases zero : r.line = 0 <;> simp [Value.present, Value.isPresent, zero]
  have parts : Value.present
      [("file", .str r.file), ("line", .int r.line), ("function", r.shownFunction)] =
        Value.present [("file", .str r.file)] ++ Value.present [("line", .int r.line)] ++
          Value.present [("function", r.shownFunction)] := by
    rw [← Value.present_append, ← Value.present_append]
    rfl
  unfold source
  rw [parts, file, line, shownFunction]
  congr 1
  cases r.function with
  | none => rfl
  | some f =>
    by_cases body : f = "<module>"
    · subst body
      rfl
    · by_cases empty : f = "" <;> simp [Value.present, Value.isPresent, empty, body]

/-- The source of a record states where it comes from. -/
theorem locates_source (r : Record) : r.Locates (Value.underNames r.source) := by
  have distinct : (["file", "line", "function"] : List String).Nodup := by decide
  have found {name : String} {v : Value} (mem : (name, v) ∈
      [("file", Value.str r.file), ("line", .int r.line), ("function", r.shownFunction)]) :
      Value.lookup? (Value.underNames r.source) name = if v.isPresent then some v else none := by
    rw [source_eq]
    exact Value.lookup?_present distinct mem
  refine ⟨?_, ?_, ?_, ?_⟩
  · rw [found List.mem_cons_self]
    by_cases empty : r.file = "" <;> simp [Value.isPresent, empty]
  · rw [found (List.mem_cons_of_mem _ List.mem_cons_self)]
    by_cases zero : r.line = 0 <;> simp [Value.isPresent, zero]
  · rw [found (List.mem_cons_of_mem _ (List.mem_cons_of_mem _ List.mem_cons_self)), shownFunction]
    cases r.function with
    | none => rfl
    | some f =>
      by_cases body : f = "<module>"
      · simp [Value.isPresent, body]
      · by_cases empty : f = "" <;> simp [Value.isPresent, empty, body]
  · rw [Value.keys_underNames, source_eq]
    exact (Value.names_present _).map _

/-- The source of a record, if it is shown. -/
def shownSource (r : Record) : Value :=
  if Level.warning.number ≤ r.level then .record r.source else .null

/-- The error that a record is about, if any. -/
def shownError (r : Record) : Value :=
  (r.raised.map fun e => .record [("type", .str e.kind), ("message", .str e.message)]).getD .null

/-- The members that every record has. -/
def stated (r : Record) (level : String) (t : Moment) (message : String) : List (String × Value) :=
  [("timestamp", .str t.isoText), ("level", .str level),
    ("component", .str r.shownComponent), ("message", .str message)]

/-- The members that a record may have. -/
def optional (r : Record) : List (String × Value) :=
  [("context", r.context), ("source", r.shownSource), ("exception", r.shownError)]

theorem toValue_eq (r : Record) (level : String) (t : Moment) (message : String) :
    r.toValue level t message =
      .record (r.stated level t message ++ Value.present r.optional) := by
  have context : optionalEntry "context" r.context = Value.present [("context", r.context)] := by
    unfold optionalEntry Value.present
    rw [List.filter_cons, List.filter_nil]
  have source : (if r.level ≥ Level.warning.number then
      optionalEntry "source" (Value.record r.source) else []) =
        Value.present [("source", r.shownSource)] := by
    unfold shownSource optionalEntry Value.present
    rw [List.filter_cons, List.filter_nil]
    split <;> rfl
  have parts : Value.present r.optional = Value.present [("context", r.context)] ++
      Value.present [("source", r.shownSource)] ++ Value.present [("exception", r.shownError)] := by
    rw [← Value.present_append, ← Value.present_append]
    rfl
  unfold toValue
  rw [parts, context, source, shownError, ← List.append_assoc, ← List.append_assoc]
  cases r.raised <;> rfl

/-- The members of a record have distinct names. -/
theorem names_members (r : Record) (level : String) (t : Moment) (message : String) :
    ((r.stated level t message ++ Value.present r.optional).map (·.1)).Sublist
      ["timestamp", "level", "component", "message", "context", "source", "exception"] := by
  rw [List.map_append]
  exact (List.Sublist.refl _).append (Value.names_present r.optional)

theorem isJson_source (r : Record) : (Value.record r.source).IsJson := by
  rw [source_eq]
  apply Value.isJson_record
  · have distinct : (["file", "line", "function"] : List String).Nodup := by decide
    exact distinct.sublist (Value.names_present _)
  · intro e mem
    have function : r.shownFunction.IsJson := by
      unfold shownFunction
      split
      · split
        · exact .null
        · exact .str _
      · exact .null
    have each : ∀ e ∈ [("file", Value.str r.file), ("line", .int r.line),
        ("function", r.shownFunction)], e.2.IsJson := by
      simp only [List.forall_mem_cons]
      exact ⟨.str _, .int _, function, List.forall_mem_nil _⟩
    exact each e (List.mem_of_mem_filter mem)

/-- What a record is written as is a value that JSON has if its context is one. -/
theorem isJson_toValue (json : r.context.IsJson) (level : String) (t : Moment) (message : String) :
    (r.toValue level t message).IsJson := by
  have source : r.shownSource.IsJson := by
    unfold shownSource
    split
    · exact isJson_source r
    · exact .null
  have error : r.shownError.IsJson := by
    unfold shownError
    cases r.raised with
    | none => exact .null
    | some e =>
      apply Value.isJson_record
      · show (["type", "message"] : List String).Nodup
        decide
      · simp only [List.forall_mem_cons]
        exact ⟨.str _, .str _, List.forall_mem_nil _⟩
  rw [toValue_eq]
  apply Value.isJson_record
  · exact (names_members r level t message).nodup (by decide)
  · have fixed : ∀ e ∈ r.stated level t message, e.2.IsJson := by
      simp only [stated, List.forall_mem_cons]
      exact ⟨.str _, .str _, .str _, .str _, List.forall_mem_nil _⟩
    have optional : ∀ e ∈ r.optional, e.2.IsJson := by
      simp only [Record.optional, List.forall_mem_cons]
      exact ⟨json, source, error, List.forall_mem_nil _⟩
    exact List.forall_mem_append.mpr
      ⟨fixed, fun e mem => optional e (List.mem_of_mem_filter mem)⟩

/-- The members of a record state it. -/
theorem states_members (named : levelName r.level = .ok level) (dated : r.time.universal = .ok t)
    (told : r.message = .ok text) :
    r.States (Value.underNames (r.stated level t text ++ Value.present r.optional)) := by
  have parts (name : String) :
      Value.lookup? (Value.underNames (r.stated level t text ++ Value.present r.optional)) name =
        (Value.lookup? (Value.underNames (Value.present r.optional)) name).or
          (Value.lookup? (Value.underNames (r.stated level t text)) name) := by
    rw [Value.underNames_append, Value.lookup?_append]
  have fixed {name : String} (other : name ∉ ["context", "source", "exception"]) :
      Value.lookup? (Value.underNames (r.stated level t text ++ Value.present r.optional)) name =
        Value.lookup? (Value.underNames (r.stated level t text)) name := by
    have absent : name ∉ (Value.present r.optional).map (·.1) :=
      fun mem => other ((Value.names_present r.optional).subset mem)
    rw [parts, Value.lookup?_underNames_eq_none absent, Option.none_or]
  have found {name : String} {v : Value} (mem : (name, v) ∈ r.optional)
      (other : name ∉ ["timestamp", "level", "component", "message"]) :
      Value.lookup? (Value.underNames (r.stated level t text ++ Value.present r.optional)) name =
        if v.isPresent then some v else none := by
    have distinct : (r.optional.map (·.1)).Nodup :=
      (by decide : (["context", "source", "exception"] : List String).Nodup)
    rw [parts, Value.lookup?_present distinct mem, Value.lookup?_underNames_eq_none other,
      Option.or_none]
  constructor
  · refine ⟨t, dated, ?_⟩
    rw [fixed (by decide)]
    simp [Value.underNames, stated]
  · refine ⟨level, named, ?_⟩
    rw [fixed (by decide)]
    simp [Value.underNames, stated]
  · refine ⟨_, isComponent_shownComponent r, ?_⟩
    rw [fixed (by decide)]
    simp [Value.underNames, stated]
  · refine ⟨text, told, ?_⟩
    rw [fixed (by decide)]
    simp [Value.underNames, stated]
  · exact found List.mem_cons_self (by decide)
  · refine ⟨_, locates_source r, ?_⟩
    rw [found (List.mem_cons_of_mem _ List.mem_cons_self) (by decide), shownSource]
    by_cases severe : Level.warning.number ≤ r.level
    · simp [severe, Value.record_eq, Value.isPresent]
    · simp [severe, Value.isPresent]
  · rw [found (List.mem_cons_of_mem _ (List.mem_cons_of_mem _ List.mem_cons_self)) (by decide),
      shownError]
    cases r.raised <;> rfl
  · rw [Value.keys_underNames]
    exact (names_members r level t text).map _

/-! ## Integers of a record -/

/-- No integer that a record shows has too many digits. -/
structure IsShort (r : Record) : Prop where
  level : ¬ IsOverlong r.level
  context : r.context.IsShort
  /-- Only warnings and worse show the line that they come from. -/
  line : Level.warning.number ≤ r.level → ¬ IsOverlong r.line

/-- A level has a name unless its number has too many digits. -/
theorem levelName_endsIf (n : Int) :
    EndsIf (levelName n) (.integer .tooLong) (¬ IsOverlong n) := by
  unfold levelName
  split
  · next level known =>
    refine .of_ok rfl ?_
    obtain rfl : level.number = n := by simpa using List.find?_some known
    exact not_isOverlong_of_lt (k := 2) (by decide) (by cases level <;> decide)
  · split
    · next zero =>
      refine .of_ok rfl ?_
      rw [zero]
      exact not_isOverlong_of_lt (Nat.zero_le _) Nat.one_pos
    · exact ((integerText_endsIf n).map fun digits => "Level " ++ digits).mapError
        TemplateFailure.integer

theorem isShort_shownSource_iff :
    r.shownSource.IsShort ↔ (Level.warning.number ≤ r.level → ¬ IsOverlong r.line) := by
  have function : r.shownFunction.IsShort := by
    unfold shownFunction
    cases r.function with
    | none => exact Value.isShort_null
    | some f =>
      dsimp only
      split
      · exact Value.isShort_null
      · exact Value.isShort_str f
  unfold shownSource
  split
  · next severe =>
    rw [Value.isShort_record_iff, source_eq, Value.isShort_present_iff]
    simp [function, severe]
  · next mild => exact iff_of_true Value.isShort_null fun severe => absurd severe mild

/-- The integers of a record's object are those of its context and of its source. -/
theorem isShort_toValue_iff : (r.toValue level t text).IsShort ↔
    r.context.IsShort ∧ (Level.warning.number ≤ r.level → ¬ IsOverlong r.line) := by
  have error : r.shownError.IsShort := by
    unfold shownError
    cases r.raised with
    | none => exact Value.isShort_null
    | some e => simp [Value.isShort_record_iff]
  rw [toValue_eq, Value.isShort_record_iff, List.forall_mem_append, Value.isShort_present_iff,
    ← isShort_shownSource_iff]
  simp [stated, optional, error]

/-! ## Lines -/

theorem jsonLine_ok_iff : r.jsonLine = .ok line ↔ ∃ level t text,
    levelName r.level = .ok level ∧ r.time.universal = .ok t ∧ r.message = .ok text ∧
      (r.toValue level t text).toJson .line = .ok line := by
  unfold jsonLine
  constructor
  · intro written
    obtain ⟨level, named, rest⟩ := Outcome.bind_ok_iff.mp written
    obtain ⟨t, dated, rest⟩ := Outcome.bind_ok_iff.mp rest
    obtain ⟨text, told, done⟩ := Outcome.bind_ok_iff.mp rest
    exact ⟨level, t, text, Outcome.mapError_ok_iff.mp named, Outcome.mapError_ok_iff.mp dated,
      Outcome.mapError_ok_iff.mp told, Outcome.mapError_ok_iff.mp done⟩
  · rintro ⟨level, t, text, named, dated, told, done⟩
    rw [named, dated, told]
    exact Outcome.mapError_ok_iff.mpr done

/-- A record whose context is a value that JSON has is written exactly if it has a date and a
message and no integer with too many digits. -/
theorem exists_jsonLine_iff (json : r.context.IsJson) : (∃ line, r.jsonLine = .ok line) ↔
    (∃ t, r.time.universal = .ok t) ∧ (∃ text, r.message = .ok text) ∧ r.IsShort := by
  constructor
  · rintro ⟨line, written⟩
    obtain ⟨level, t, text, named, dated, told, done⟩ := jsonLine_ok_iff.mp written
    have ends := Value.toJson_endsIf .line (isJson_toValue json level t text)
    obtain ⟨context, source⟩ := isShort_toValue_iff.mp (ends.ok_iff.mp ⟨line, done⟩)
    exact ⟨⟨t, dated⟩, ⟨text, told⟩, (levelName_endsIf _).ok_iff.mp ⟨level, named⟩, context, source⟩
  · rintro ⟨⟨t, dated⟩, ⟨text, told⟩, short⟩
    obtain ⟨level, named⟩ := (levelName_endsIf _).ends short.level
    obtain ⟨line, done⟩ := Value.exists_toJson .line (isJson_toValue json level t text)
      (isShort_toValue_iff.mpr ⟨short.context, short.line⟩)
    exact ⟨line, jsonLine_ok_iff.mpr ⟨level, t, text, named, dated, told, done⟩⟩

/-- What a record is written as is one line that is read as an object that states it. -/
theorem states_of_jsonLine (json : r.context.IsJson) (written : r.jsonLine = .ok line) :
    Text.OneLine line ∧
      ∃ entries, Json.parse? line = some (.dict entries) ∧ r.States entries := by
  obtain ⟨level, t, text, named, dated, told, done⟩ := jsonLine_ok_iff.mp written
  have json' := isJson_toValue json level t text
  have short := (Value.toJson_endsIf .line json').ok_iff.mp ⟨line, done⟩
  obtain ⟨line', done', read⟩ :=
    Json.parse?_toJson_of_unsorted Json.readable_line rfl json' short
  cases done.symm.trans done'
  refine ⟨Value.oneLine_toJson (by decide) (by decide) json' done, _, ?_,
    states_members named dated told⟩
  rw [read, toValue_eq]
  rfl

/-- A record whose context is a value that JSON has is written as one line that states it, exactly
if it has a date and a message and no integer with too many digits. -/
theorem jsonLine_states (r : Record) (json : r.context.IsJson) :
    ((∃ line, r.jsonLine = .ok line) ↔
      (∃ t, r.time.universal = .ok t) ∧ (∃ text, r.message = .ok text) ∧ r.IsShort) ∧
    ∀ line, r.jsonLine = .ok line → Text.OneLine line ∧
      ∃ entries, Json.parse? line = some (.dict entries) ∧ r.States entries :=
  ⟨exists_jsonLine_iff json, fun _ => states_of_jsonLine json⟩

/-- An error with a message of two lines, about a line of a file, with a nested context. -/
def outage : Record :=
  { level := 40, logger := "press.printing", template := "stopped:\n\"%s\" (%d)"
    values := .values [.str "\u00e9\u2028", .int 3], time := .whole 1700000000, component := some ""
    context := .dict [(.str "rolls\r", .list [.null, .bool false, .int (-12), .str "😀"]),
      (.str "", .dict [(.str "\\", .str "\x1f")])]
    file := "press.py", line := 7, function := some "<module>"
    raised := some ⟨"ValueError", "no\npaper"⟩ }

/-- The outage with a message that names what it is filled with. -/
def namedOutage : Record :=
  { outage with
    template := "%(press)s stopped (%(rolls)d)"
    values := .ofCall [.dict [(.str "rolls", .int 3), (.str "press", .str "first")]] }

theorem isJson_outage : outage.context.IsJson := by
  refine .dict (by simp) (by simp) (List.forall_mem_cons.mpr ⟨?_, ?_⟩)
  · refine .list (List.forall_mem_cons.mpr ⟨.null, List.forall_mem_cons.mpr ⟨.bool false, ?_⟩⟩)
    exact List.forall_mem_cons.mpr ⟨.int _, List.forall_mem_singleton.mpr (.str _)⟩
  · refine List.forall_mem_singleton.mpr (.dict (by simp) (by simp) ?_)
    exact List.forall_mem_singleton.mpr (.str _)

theorem isShort_outage : outage.IsShort := by
  have few {n : Int} (small : n.natAbs < Nat.pow 10 2) : ¬ IsOverlong n :=
    not_isOverlong_of_lt (by decide) small
  exact ⟨few (by decide), by simp [outage, few], fun _ => few (by decide)⟩

theorem dated_outage : outage.time.universal = .ok (.ofSeconds 1700000000) := by decide +kernel

theorem told_outage : outage.message = .ok "stopped:\n\"\u00e9\u2028\" (3)" := by decide +kernel

/-- The outage has a line that states it, also where its message names what it is filled with. -/
theorem jsonLine_states_outage : outage.context.IsJson ∧
    ∀ r ∈ [outage, namedOutage], ∃ line, r.jsonLine = .ok line ∧ Text.OneLine line ∧
      ∃ entries, Json.parse? line = some (.dict entries) ∧ r.States entries := by
  have named : namedOutage.message = .ok "first stopped (3)" := by decide +kernel
  have short := isShort_outage
  refine ⟨isJson_outage, List.forall_mem_cons.mpr ⟨?_, List.forall_mem_singleton.mpr ?_⟩⟩
  · obtain ⟨ends, states⟩ := jsonLine_states outage isJson_outage
    obtain ⟨line, written⟩ := ends.mpr ⟨⟨_, dated_outage⟩, ⟨_, told_outage⟩, short⟩
    exact ⟨line, written, states line written⟩
  · obtain ⟨ends, states⟩ := jsonLine_states namedOutage isJson_outage
    obtain ⟨line, written⟩ :=
      ends.mpr ⟨⟨_, dated_outage⟩, ⟨_, named⟩, short.level, short.context, short.line⟩
    exact ⟨line, written, states line written⟩

/-- There is no line of an outage whose values do not fit its message, whose moment has no date or
whose context has an integer with too many digits, and the line of one whose context is a truth
value need not state it. -/
theorem outages_unstated :
    (∀ r ∈ [{ outage with template := "%d", values := .values [.str "three"] },
        { outage with time := .whole 253402300800 },
        { outage with context := .int (Int.pow 10 digitLimit) }],
      r.context.IsJson ∧ ∀ line, r.jsonLine ≠ .ok line) ∧
    ∃ line entries, { outage with context := .bool false }.jsonLine = .ok line ∧
      Json.parse? line = some (.dict entries) ∧ Value.lookup? entries "context" = none := by
  have unwritten {r : Record} (json : r.context.IsJson)
      (misses : ¬ ((∃ t, r.time.universal = .ok t) ∧ (∃ text, r.message = .ok text) ∧ r.IsShort)) :
      r.context.IsJson ∧ ∀ line, r.jsonLine ≠ .ok line :=
    ⟨json, fun line written => misses ((exists_jsonLine_iff json).mp ⟨line, written⟩)⟩
  constructor
  · refine List.forall_mem_cons.mpr ⟨unwritten isJson_outage ?_, List.forall_mem_cons.mpr
      ⟨unwritten isJson_outage ?_, List.forall_mem_singleton.mpr (unwritten (.int _) ?_)⟩⟩
    · rintro ⟨_, ⟨text, told⟩, _⟩
      have misfit : { outage with template := "%d", values := .values [.str "three"] }.message =
          .error .mismatch := by decide +kernel
      cases misfit.symm.trans told
    · rintro ⟨⟨t, dated⟩, _⟩
      have undated : Timestamp.universal (.whole 253402300800) = .error (.year 10000) := by
        decide +kernel
      cases undated.symm.trans dated
    · rintro ⟨_, _, short⟩
      exact Value.isShort_int_iff.mp short.context isOverlong_pow
  · have json : { outage with context := .bool false }.context.IsJson := .bool false
    obtain ⟨line, written⟩ := (exists_jsonLine_iff json).mpr ⟨⟨_, dated_outage⟩, ⟨_, told_outage⟩,
      isShort_outage.level, Value.isShort_bool false, isShort_outage.line⟩
    obtain ⟨_, entries, read, states⟩ := states_of_jsonLine json written
    exact ⟨line, entries, written, read, states.context⟩

end Record

end Log

end SchemaCompiler
