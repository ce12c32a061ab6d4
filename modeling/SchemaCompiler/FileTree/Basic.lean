import SchemaCompiler.FileTree.Path
import SchemaCompiler.Text.Lines

/-!
# File trees

The files and directories that a command works on, and the working directory from which relative
paths start. A place is the list of names from the root; a path leads to a place by walking, where
each name needs a directory to be looked up in and a double point leads back up.
-/

set_option autoImplicit false

namespace SchemaCompiler

/-- Why an operation on a file tree fails. -/
inductive FileFailure where
  | notFound
  | exists
  | isDirectory
  | notDirectory
  /-- The working directory or one above it would have to be replaced. -/
  | busy
  /-- The bytes of a file are no text. -/
  | undecodable
  | nameTooLong
  /-- A name with the null character in it. -/
  | nullCharacter
  deriving DecidableEq, Inhabited, Repr

/-- The message of a failure. -/
def FileFailure.message : FileFailure → String
  | notFound => "No such file or directory"
  | .exists => "File exists"
  | isDirectory => "Is a directory"
  | notDirectory => "Not a directory"
  | busy => "Device or resource busy"
  | undecodable => "the file holds no text"
  | nameTooLong => "File name too long"
  | nullCharacter => "embedded null byte"

/-- What a place holds. -/
inductive NodeKind where
  | file
  | directory
  deriving DecidableEq, Inhabited, Repr

/-- A tree of files and directories. The root is always a directory. -/
structure FileTree where
  workingDirectory : List String
  directories : List (List String)
  files : List (List String × List UInt8)
  deriving Inhabited, Repr

namespace FileTree

/-! ## Places -/

/-- The bytes of the file at a place. -/
def bytesAt? (t : FileTree) (place : List String) : Option (List UInt8) :=
  (t.files.find? (·.1 == place)).map (·.2)

/-- What a place holds, if it holds anything. -/
def kindAt? (t : FileTree) (place : List String) : Option NodeKind :=
  if place.isEmpty || t.directories.contains place then some .directory
  else if (t.bytesAt? place).isSome then some .file
  else none

/-- Puts a directory at a place. -/
def putDirectory (t : FileTree) (place : List String) : FileTree :=
  { t with directories := t.directories ++ [place] }

/-- Puts a file at a place, in place of the file that was there. -/
def putFile (t : FileTree) (place : List String) (bytes : List UInt8) : FileTree :=
  if (t.bytesAt? place).isSome then
    { t with files := t.files.map fun f => if f.1 == place then (place, bytes) else f }
  else { t with files := t.files ++ [(place, bytes)] }

/-- Takes the file away from a place. -/
def removeFile (t : FileTree) (place : List String) : FileTree :=
  { t with files := t.files.filter (·.1 != place) }

/-- The places from the root down to a place, without the root. -/
def placesDownTo (place : List String) : List (List String) :=
  (List.range place.length).map fun n => place.take (n + 1)

/-- Puts directories all the way down to a place. -/
def putDirectories (t : FileTree) (place : List String) : FileTree :=
  (placesDownTo place).foldl
    (fun t p => if (t.kindAt? p).isSome then t else t.putDirectory p) t

/-- A tree of nothing but a working directory. -/
def fresh (workingDirectory : List String) : FileTree :=
  (⟨workingDirectory, [], []⟩ : FileTree).putDirectories workingDirectory

/-- Adds a directory below the working directory. -/
def withDirectory (t : FileTree) (p : Path) : FileTree :=
  t.putDirectories (t.workingDirectory ++ p.parts)

/-- Adds a file below the working directory. -/
def withFile (t : FileTree) (p : Path) (bytes : List UInt8) : FileTree :=
  let place := t.workingDirectory ++ p.parts
  (t.putDirectories place.dropLast).putFile place bytes

/-! ## Paths -/

/-- The bytes that a name may have. -/
def nameLimit : Nat := 255

/-- The bytes that a path must not reach. -/
def pathLimit : Nat := 4096

/-- The place that names lead to from a place. -/
def walk (t : FileTree) (here : List String) : List String → Except FileFailure (List String)
  | [] => .ok here
  | name :: rest =>
    match t.kindAt? here with
    | some .directory =>
      if nameLimit < name.utf8ByteSize then .error .nameTooLong
      else t.walk (if name == ".." then here.dropLast else here ++ [name]) rest
    | some .file => .error .notDirectory
    | none => .error .notFound

/-- The place that a path leads to. -/
def locate (t : FileTree) (p : Path) : Except FileFailure (List String) :=
  if p.holdsNull then .error .nullCharacter
  else if pathLimit ≤ p.render.utf8ByteSize then .error .nameTooLong
  else t.walk (if p.isAbsolute then [] else t.workingDirectory) p.parts

/-- What a path leads to, if it leads to anything. -/
def kind? (t : FileTree) (p : Path) : Option NodeKind :=
  match t.locate p with
  | .ok place => t.kindAt? place
  | .error _ => none

/-- A path leads to a file. There is no answer if a name along it is too long. -/
def isFile (t : FileTree) (p : Path) : Except FileFailure Bool :=
  match t.locate p with
  | .ok place => .ok (t.kindAt? place == some .file)
  | .error .nameTooLong => .error .nameTooLong
  | .error _ => .ok false

/-- A path leads to a directory. -/
def isDirectory (t : FileTree) (p : Path) : Bool := t.kind? p == some .directory

/-- The working directory as a path. -/
def workingPath (t : FileTree) : Path := ⟨"/", t.workingDirectory⟩

/-- The absolute path that a path stands for. -/
def resolve (t : FileTree) (p : Path) : Except FileFailure Path :=
  if p.holdsNull then .error .nullCharacter else .ok (Path.resolve t.workingPath p)

/-- Reads the bytes of a file. -/
def readBytes (t : FileTree) (p : Path) : Except FileFailure (List UInt8) := do
  let place ← t.locate p
  match t.bytesAt? place, t.kindAt? place with
  | some bytes, _ => .ok bytes
  | none, some _ => .error .isDirectory
  | none, none => .error .notFound

/-- Reads a file as text. Its lines end in line feeds, however they end in the file. -/
def readText (t : FileTree) (p : Path) : Except FileFailure String := do
  match Text.ofBytes? (← t.readBytes p) with
  | some s => .ok (String.ofList (Text.unifyNewlines s.toList))
  | none => .error .undecodable

end FileTree

end SchemaCompiler
