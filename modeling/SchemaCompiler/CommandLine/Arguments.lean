import SchemaCompiler.Dialect.Basic
import SchemaCompiler.Value.Basic

/-!
# Arguments

The commands and their options. An option stands anywhere among the arguments of its command; its
value follows it, after an equals sign for a long option or directly for a short one. The last of
several values counts.
-/

set_option autoImplicit false

namespace SchemaCompiler

namespace CommandLine

/-- What an option does. -/
inductive OptionEffect where
  /-- Takes a value. -/
  | value
  /-- Sets a truth value. -/
  | set (b : Bool)
  /-- Asks for help. -/
  | help
  deriving DecidableEq, Inhabited, Repr

/-- An option: its spellings, what it is about, and what it does. -/
structure OptionSpec where
  spellings : List String
  topic : String
  effect : OptionEffect
  deriving Inhabited, Repr

/-- The options of every command. -/
def helpOption : OptionSpec := ⟨["--help"], "help", .help⟩

/-- The option that names the models. -/
def modelsOption : OptionSpec := ⟨["--models", "-m"], "models", .value⟩

/-- The option that asks for a full trail. -/
def verboseOption : OptionSpec := ⟨["--verbose"], "verbose", .set true⟩

/-- The options of the command that generates a document. -/
def generateOptions : List OptionSpec :=
  [modelsOption, ⟨["--config", "-c"], "config", .value⟩,
   ⟨["--dialect", "-d"], "dialect", .value⟩, ⟨["--output", "-o"], "output_path", .value⟩,
   ⟨["--format"], "output_format", .value⟩,
   ⟨["--audit"], "include_audit_fields", .set true⟩,
   ⟨["--no-audit"], "include_audit_fields", .set false⟩,
   ⟨["--indexes"], "include_indexes", .set true⟩,
   ⟨["--no-indexes"], "include_indexes", .set false⟩,
   ⟨["--baseline"], "baseline_path", .value⟩, ⟨["--stdout"], "stdout", .set true⟩, verboseOption,
   helpOption]

/-- The options of the command that validates models. -/
def validateOptions : List OptionSpec := [modelsOption, verboseOption, helpOption]

/-- The options of the command that lists reference cycles. -/
def cyclesOptions : List OptionSpec := [modelsOption, helpOption]

/-! ## Reading options -/

/-- What arguments say about topics, in order, and whether they ask for help. -/
structure Given where
  settings : List (String × Value)
  wantsHelp : Bool
  hasExtra : Bool
  deriving Inhabited, Repr

namespace Given

/-- Nothing was said. -/
def none : Given := ⟨[], false, false⟩

/-- Adds a setting in front. -/
def adding (g : Given) (topic : String) (v : Value) : Given :=
  { g with settings := (topic, v) :: g.settings }

/-- What was said last about a topic. -/
def about? (g : Given) (topic : String) : Option Value :=
  (g.settings.reverse.find? (·.1 == topic)).map (·.2)

/-- The text that was given for a topic. -/
def text? (g : Given) (topic : String) : Option String :=
  (g.about? topic).bind fun
    | .str s => some s
    | _ => Option.none

/-- A flag was set. -/
def isSet (g : Given) (topic : String) : Bool :=
  match g.about? topic with
  | some (.bool b) => b
  | _ => false

end Given

/-- The option of a spelling. -/
def optionOf? (specs : List OptionSpec) (spelling : String) : Option OptionSpec :=
  specs.find? (·.spellings.contains spelling)

/-- A long argument cut at its first equals sign. -/
def cutValue (arg : String) : String × Option String :=
  let cs := arg.toList
  match cs.dropWhile (· != '=') with
  | _ :: value => (String.ofList (cs.takeWhile (· != '=')), some (String.ofList value))
  | [] => (arg, none)

/-- What an argument is. -/
inductive ArgumentShape where
  /-- The end of the options. -/
  | stop
  | long (spelling : String) (value : Option String)
  /-- A short option with what follows it directly. -/
  | short (spelling : String) (rest : String)
  | positional
  deriving DecidableEq, Repr

/-- The shape of an argument. -/
def shapeOf (arg : String) : ArgumentShape :=
  if arg == "--" then .stop
  else match arg.toList with
    | '-' :: '-' :: _ =>
      let (spelling, value) := cutValue arg
      .long spelling value
    | '-' :: c :: rest => .short (String.ofList ['-', c]) (String.ofList rest)
    | _ => .positional

/-- What an argument does. -/
inductive ArgumentEffect where
  | stop
  | extra
  | setting (topic : String) (v : Value)
  /-- The next argument is the value for a topic. -/
  | awaits (topic : String)
  | help
  deriving Inhabited

/-- What an argument of a command does, unless it is wrong. -/
def effectOf (specs : List OptionSpec) (arg : String) : Option ArgumentEffect :=
  match shapeOf arg with
  | .stop => some .stop
  | .positional => some .extra
  | .long spelling value => (optionOf? specs spelling).bind fun spec =>
    match spec.effect, value with
    | .value, some v => some (.setting spec.topic (.str v))
    | .value, none => some (.awaits spec.topic)
    | .set b, none => some (.setting spec.topic (.bool b))
    | .help, none => some .help
    | _, some _ => none
  | .short spelling attached => (optionOf? specs spelling).bind fun spec =>
    match spec.effect with
    | .value =>
      some (if attached == "" then .awaits spec.topic else .setting spec.topic (.str attached))
    | _ => none

/-- Reads the arguments of a command, where `awaited` is the topic whose value comes next. Nothing
is the answer to wrong usage. -/
def readOptions (specs : List OptionSpec) (awaited : Option String) : List String → Option Given
  | [] => if awaited.isSome then none else some .none
  | arg :: rest =>
    match awaited with
    | some topic => (readOptions specs none rest).map (·.adding topic (.str arg))
    | none => (effectOf specs arg).bind fun
      | .stop => some { Given.none with hasExtra := !rest.isEmpty }
      | .extra => (readOptions specs none rest).map fun g => { g with hasExtra := true }
      | .setting topic v => (readOptions specs none rest).map (·.adding topic v)
      | .awaits topic => readOptions specs (some topic) rest
      | .help => (readOptions specs none rest).map fun g => { g with wantsHelp := true }

/-! ## Commands -/

/-- A request to the program. -/
inductive Request where
  | generate (target : String) (config : Option String) (overrides : List (String × Value))
    (toStdout : Bool)
  | validate (target : String)
  | cycles (target : String)
  | version
  | help
  /-- A path that nothing can have. -/
  | noPath
  /-- Arguments that stand for no request. -/
  | wrongUsage
  deriving Inhabited

/-- The topics of the options that override the configuration. -/
def overrideTopics : List String :=
  ["dialect", "output_path", "output_format", "include_audit_fields", "include_indexes",
   "baseline_path"]

/-- The answer to a text that cannot be given for a topic. -/
def refusal? (topic text : String) : Option Request :=
  let oneOf := fun (allowed : List String) =>
    if allowed.contains text then none else some .wrongUsage
  if topic == "dialect" then oneOf (Dialect.all.map (·.name))
  else if topic == "output_format" then oneOf (OutputFormat.all.map (·.name))
  else if ["config", "output_path", "baseline_path"].contains topic && text.toList.contains '\x00'
  then some .noPath
  else none

/-- The answer to the first topic that is given a text it cannot have. -/
def firstRefusal? (g : Given) : Option Request :=
  g.settings.findSome? fun (topic, _) => (g.text? topic).bind (refusal? topic)

/-- The request of a command whose arguments were read. -/
def requestOf (g : Given) (make : String → Request) : Request :=
  if g.wantsHelp then .help
  else match firstRefusal? g, g.text? "models" with
    | some refusal, _ => refusal
    | none, some target => if g.hasExtra then .wrongUsage else make target
    | none, none => .wrongUsage

/-- The request to generate a document. -/
def generateRequest (g : Given) : Request :=
  requestOf g fun target =>
    .generate target (g.text? "config")
      (overrideTopics.filterMap fun topic => (g.about? topic).map fun v => (topic, v))
      (g.isSet "stdout")

/-- The request of a command with its arguments. -/
def commandRequest (command : String) (args : List String) : Request :=
  let read := fun specs (make : Given → Request) => match readOptions specs none args with
    | some g => make g
    | none => .wrongUsage
  if command == "generate" then read generateOptions generateRequest
  else if command == "validate" then
    read validateOptions fun g => requestOf g .validate
  else if command == "cycles" then read cyclesOptions fun g => requestOf g .cycles
  else .wrongUsage

/-- The request that arguments stand for. Before the command only the version and help can be asked
for; whichever is asked for first is answered. -/
def requestFrom (asked : Option Request) : List String → Request
  | [] => asked.getD .wrongUsage
  | arg :: rest =>
    match shapeOf arg with
    | .stop => match asked, rest with
      | some r, _ => r
      | none, command :: args => commandRequest command args
      | none, [] => .wrongUsage
    | .positional => match asked with
      | some r => r
      | none => commandRequest arg rest
    | .long spelling none =>
      if spelling == "--version" then requestFrom (asked.or (some .version)) rest
      else if spelling == "--help" then requestFrom (asked.or (some .help)) rest
      else .wrongUsage
    | .long _ (some _) => .wrongUsage
    | .short spelling attached =>
      if spelling == "-V" && attached.toList.all (· == 'V') then
        requestFrom (asked.or (some .version)) rest
      else .wrongUsage

/-- The request that arguments stand for. -/
def Request.ofArguments (args : List String) : Request := requestFrom none args

end CommandLine

end SchemaCompiler
