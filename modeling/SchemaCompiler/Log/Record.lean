import SchemaCompiler.Calendar
import SchemaCompiler.Log.Entry
import SchemaCompiler.Log.Template
import SchemaCompiler.Value.Json

/-!
# Log records

A record in the two forms it is written in: a line for people to read, and a JSON object on one
line. Both show the component, which is the last part of the logger's name unless the record states
another.
-/

set_option autoImplicit false

namespace SchemaCompiler

namespace Log

/-- An error that a record is about. -/
structure Raised where
  kind : String
  message : String
  deriving DecidableEq, Inhabited, Repr

/-- A record. -/
structure Record where
  level : Int
  logger : String
  template : String
  values : Arguments
  time : Timestamp
  component : Option String
  context : Value
  file : String
  line : Int
  function : Option String
  raised : Option Raised
  deriving Inhabited, Repr

/-- The name of a level by its number. One without a word of its own is named by its number. -/
def levelName (n : Int) : Except TemplateFailure String :=
  match Level.ofNumber? n with
  | some level => .ok level.name
  | none =>
    if n = 0 then .ok "NOTSET"
    else ((integerText n).map fun digits => "Level " ++ digits).mapError .integer

/-- The last part of a dotted name. -/
def lastPart (name : String) : String :=
  String.ofList (name.toList.reverse.takeWhile (· != '.')).reverse

namespace Record

/-- The component that a record is shown under. -/
def shownComponent (r : Record) : String :=
  match r.component with
  | some c => if c == "" then lastPart r.logger else c
  | none => lastPart r.logger

/-- The message. A template for which nothing is given is a message as it stands. -/
def message (r : Record) : Except TemplateFailure String :=
  if r.values.isEmpty then .ok r.template else fillTemplate r.template r.values

/-- The error that a record is about, as people read it. -/
def raisedText (e : Raised) : String :=
  if e.message == "" then e.kind else e.kind ++ ": " ++ e.message

/-! ## For people -/

/-- A text in the style of a terminal code. -/
def styled (code text : String) : String := "\x1b[" ++ code ++ "m" ++ text ++ "\x1b[0m"

/-- The colour of a level. -/
def levelColor : Level → String
  | .debug => "36"
  | .info => "32"
  | .warning => "33"
  | .error => "31"
  | .critical => "35"

/-- The name of a level in its colour. A level of another number only ends the style. -/
def styledLevel (n : Int) (name : String) : String :=
  match Level.ofNumber? n with
  | some level => styled (levelColor level) name
  | none => name ++ "\x1b[0m"

/-- Why a record cannot be written. -/
inductive Failure where
  | date (failure : DateFailure)
  /-- The message cannot be filled in, or a number of the record cannot be written. -/
  | template (failure : TemplateFailure)
  /-- A key of the context that cannot be one. -/
  | key
  deriving DecidableEq, Repr

/-- A failure to write a record as JSON. -/
def Failure.ofJson : Value.JsonFailure → Failure
  | .integer failure => template (.integer failure)
  | _ => key

/-- Time and component in front of a message. -/
def heading (color : Bool) (t : Moment) (r : Record) : String :=
  let component := "[" ++ r.shownComponent ++ "]"
  if color then styled "2" t.clock ++ " " ++ styled "34" component
  else "[" ++ t.clock ++ "] " ++ component

/-- The level in front of a message, which is left out for information. -/
def levelMark (color : Bool) (r : Record) (name : String) : String :=
  if r.level = Level.info.number then ""
  else " " ++ (if color then styledLevel r.level name else name) ++ ":"

/-- A record as people read it. -/
def console (color : Bool) (r : Record) : Except Failure String := do
  let level ← (levelName r.level).mapError .template
  let t ← r.time.wallClock.mapError .date
  let message ← r.message.mapError .template
  let tail := match r.raised with
    | some e => "\n" ++ raisedText e
    | none => ""
  return r.heading color t ++ r.levelMark color level ++ " " ++ message ++ tail

/-! ## For programs -/

/-- Where a record comes from, as far as it is known. -/
def source (r : Record) : List (String × Value) :=
  (if r.file == "" then [] else [("file", .str r.file)])
    ++ (if r.line = 0 then [] else [("line", .int r.line)])
    ++ (match r.function with
      | some f => if f == "" || f == "<module>" then [] else [("function", .str f)]
      | none => [])

/-- An entry whose value is left out when it holds nothing. -/
def optionalEntry (key : String) (v : Value) : List (String × Value) :=
  if v.isPresent then [(key, v)] else []

/-- A record as a dictionary, under the name of its level. Warnings and worse state their source. -/
def toValue (r : Record) (level : String) (t : Moment) (message : String) : Value :=
  Value.record
    ([("timestamp", .str t.isoText), ("level", .str level),
        ("component", .str r.shownComponent), ("message", .str message)]
      ++ optionalEntry "context" r.context
      ++ (if r.level ≥ Level.warning.number then optionalEntry "source" (Value.record r.source)
          else [])
      ++ (match r.raised with
        | some e =>
          [("exception", Value.record [("type", .str e.kind), ("message", .str e.message)])]
        | none => []))

/-- A record as a JSON object on one line. -/
def jsonLine (r : Record) : Except Failure String := do
  let level ← (levelName r.level).mapError .template
  let t ← r.time.universal.mapError .date
  let message ← r.message.mapError .template
  ((r.toValue level t message).toJson .line).mapError .ofJson

end Record

end Log

end SchemaCompiler
