import SchemaCompiler.CommandLine.Description
import SchemaCompiler.CommandLine.Run
import Std.Time.DateTime.Timestamp

/-!
# The program

The outer layer: it takes a picture of the files that a command may look at, runs the command on
that picture, and carries out what has changed. The picture holds the working directory with all
below it, the directories above it with their configuration files, and what the arguments name.
-/

set_option autoImplicit false

namespace SchemaCompiler

namespace CommandLine

namespace Program

/-- The absolute path of a place. -/
def placeText (place : List String) : String := "/" ++ String.intercalate "/" place

/-- A place is a link to another one. -/
def isLink (place : List String) : IO Bool := do
  try
    match (← ((← IO.currentDir) / placeText place).symlinkMetadata).type with
    | .symlink => return true
    | _ => return false
  catch _ => return false

/-- The picture of a place with all below it, as far as it can be read. Links to directories are not
followed. -/
partial def withPlace (t : FileTree) (place : List String) : IO FileTree := do
  let path := (← IO.currentDir) / placeText place
  if ← path.isDir then
    if ← isLink place then return t.putDirectories place
    let entries ← try path.readDir catch _ => pure #[]
    entries.foldlM (fun t e => withPlace t (place ++ [e.fileName])) (t.putDirectories place)
  else if ← path.pathExists then
    try
      let bytes ← IO.FS.readBinFile path
      return (t.putDirectories place.dropLast).putFile place bytes.toList
    catch _ => return t
  else return t

/-- The places of what arguments may name. -/
def argumentPlaces (t : FileTree) (args : List String) : List (List String) :=
  args.flatMap fun arg =>
    let file := ((splitTarget? arg).map (·.1)).getD arg
    [arg, file].filterMap fun name => (t.resolve (Path.parse name)).toOption.map (·.parts)

/-- A picture has something at a place. -/
def shows (t : FileTree) (place : List String) : Bool := (t.kindAt? place).isSome

/-- The picture that a command with some arguments is run on. -/
def picture (args : List String) : IO FileTree := do
  let here := (Path.parse (← IO.currentDir).toString).parts
  let mut t ← withPlace (FileTree.fresh here) here
  for directory in t.workingPath.ancestors do
    t ← withPlace t (directory.child Options.configName).parts
  for place in argumentPlaces t args do
    if !shows t place && !place.isEmpty then t ← withPlace t place
  return t

/-- Writes a file through a temporary file beside it. -/
def writeFile (t : FileTree) (place : List String) (bytes : List UInt8) : IO Unit := do
  let root := (← IO.currentDir)
  let beside := place.dropLast ++ [t.freshName place.dropLast (place.getLast?.getD "")]
  IO.FS.writeBinFile (root / placeText beside) ⟨bytes.toArray⟩
  IO.FS.rename (root / placeText beside) (root / placeText place)

/-- Carries out what a command changed. -/
def carryOut (before after : FileTree) : IO Unit := do
  let root := (← IO.currentDir)
  for place in after.directories do
    if !shows before place then IO.FS.createDirAll (root / placeText place)
  for (place, bytes) in after.files do
    if before.bytesAt? place != some bytes then writeFile before place bytes

/-- The time. -/
def now : IO Timestamp := do
  let stamp ← Std.Time.Timestamp.now
  return .whole (stamp.toNanosecondsSinceUnixEpoch.val / 1000000000)

/-- The message about a cause that no command foresees. -/
def escapeText : Escape → String
  | .file failure => failure.message
  | .number failure => failure.message
  | .pathValue key => "the option " ++ key ++ " is no path"
  | .block failure => failure.message
  | .undated failure => failure.message
  | .markup failure => failure.message

/-- Runs a command and answers its exit code. -/
def run (args : List String) : IO UInt32 := do
  let tree ← picture args
  let setting := ⟨Project.ofTree tree, ← IO.getEnv "DB_PROVIDER", .sound, ← now⟩
  let outcome := CommandLine.run setting args
  carryOut tree outcome.tree
  IO.print outcome.output
  match outcome.escaped with
  | some e => IO.eprintln (programName ++ ": " ++ escapeText e)
  | none => if outcome.exitCode = 2 then usage.forM IO.eprintln
  return outcome.exitCode.toUInt32

end Program

end CommandLine

end SchemaCompiler

/-- Runs the program. -/
def main (args : List String) : IO UInt32 := SchemaCompiler.CommandLine.Program.run args
