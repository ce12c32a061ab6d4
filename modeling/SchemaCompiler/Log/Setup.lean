import SchemaCompiler.FileTree.Write
import SchemaCompiler.Log.Record

/-!
# Logging setup

A setup says which records are written and where: to a console, and to a file if one is named. A
later setup replaces an earlier one; a file that is named again is continued.
-/

set_option autoImplicit false

namespace SchemaCompiler

namespace Log

/-- A setup: the least level of what is written, and the file for JSON lines. -/
structure Setup where
  level : Int
  file : Option Path
  deriving Inhabited, Repr

/-- The loggers are named below this name. -/
def rootLogger : String := "schemaforge"

/-- The name of a component's logger. -/
def loggerName (component : String) : String :=
  rootLogger ++ "." ++
    String.ofList ((Text.lower component).toList.map fun c => if c == ' ' then '_' else c)

/-- The console shows colours if it is a terminal and the environment does not forbid them. -/
def usesColor (isTerminal : Bool) (noColor : Option String) : Bool :=
  isTerminal && (noColor.getD "") == ""

/-- Where records are written: the text on the console, and the place of the file. -/
structure Sink where
  setup : Setup
  color : Bool
  stream : String
  file : Option (List String)
  tree : FileTree
  deriving Inhabited, Repr

namespace Sink

/-- The level from which on the loggers are enabled. Without a level of their own they take the
usual one. -/
def threshold (s : Sink) : Int :=
  if s.setup.level = 0 then Level.warning.number else s.setup.level

/-- A record of a level is written. No record without a level is. -/
def accepts (s : Sink) (level : Int) : Bool :=
  0 < level && s.threshold ≤ level && s.setup.level ≤ level

/-- The number of places that records are written to. -/
def handlers (s : Sink) : Nat := if s.file.isSome then 2 else 1

/-- Writes a record to the console. A record without a date or a message is left out. -/
def writeStream (s : Sink) (r : Record) : Sink :=
  match r.console s.color with
  | .ok line => { s with stream := s.stream ++ line ++ "\n" }
  | .error _ => s

/-- Writes a record to the file. -/
def writeFile (s : Sink) (r : Record) : Sink :=
  match s.file, r.jsonLine with
  | some place, .ok line => { s with tree := s.tree.append place (Text.toBytes (line ++ "\n")) }
  | _, _ => s

/-- Writes a record, if its level is accepted. -/
def write (s : Sink) (r : Record) : Sink :=
  if s.accepts r.level then (s.writeStream r).writeFile r else s

end Sink

/-- The record that says that a file is written. -/
def fileRecord (now : Timestamp) (path : Path) : Record :=
  { level := Level.debug.number, logger := rootLogger, template := "File logging enabled"
    values := .ofCall [], time := now, component := none
    context := Value.record [("log_format", .str "jsonl"), ("log_file", .str path.render)]
    file := "", line := 0, function := none, raised := none }

/-- The sink of a setup. Directories for its file are made. -/
def openSink (t : FileTree) (now : Timestamp) (color : Bool) (setup : Setup) :
    Except FileFailure Sink :=
  match setup.file with
  | none => .ok ⟨setup, color, "", none, t⟩
  | some path =>
    let prepared := t.makeDirectories .sound path.parent
    match prepared.failure with
    | some e => .error e
    | none => do
      let (tree, place) ← prepared.tree.openForAppending path
      return (⟨setup, color, "", some place, tree⟩ : Sink).write (fileRecord now path)

/-- The sink of the last of several setups. -/
def openSinks (now : Timestamp) (color : Bool) (first : Setup) :
    FileTree → List Setup → Except FileFailure Sink
  | t, [] => openSink t now color first
  | t, next :: rest => do
    let sink ← openSink t now color first
    openSinks now color next sink.tree rest

end Log

end SchemaCompiler
