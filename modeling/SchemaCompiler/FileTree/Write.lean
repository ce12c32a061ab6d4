import SchemaCompiler.FileTree.Basic

/-!
# Writing files

A file is written through a temporary file beside it, which takes its place in one step when it is
complete, so that nobody ever sees half of it. Whatever fails on the way, every file is as before,
and the temporary file is taken away. A device may refuse any step that the tree would allow, the
taking away as well, and each step happens as a whole or not at all; `Device.sound` refuses none.
-/

set_option autoImplicit false

namespace SchemaCompiler

/-- The steps that a device may refuse. -/
inductive DeviceStep where
  /-- A file that is needed before anything is written is looked up and read. -/
  | reading
  /-- A directory is made. -/
  | directory (place : List String)
  /-- The temporary file is made, still empty. -/
  | temporary
  /-- The text is encoded, and its bytes are written to the temporary file. -/
  | content
  /-- The bytes of the temporary file are brought to rest. -/
  | rest
  /-- The temporary file takes the place of the file. -/
  | replacement
  /-- The temporary file is taken away after a failure. -/
  | removal
  deriving DecidableEq, Inhabited, Repr

/-- The steps that a device refuses, each with the reason. -/
def Device : Type := DeviceStep → Option FileFailure

/-- A device that refuses no step. -/
def Device.sound : Device := fun _ => none

namespace FileTree

/-- What an operation leaves: a tree, and the failure if it did not succeed. -/
structure Written where
  tree : FileTree
  failure : Option FileFailure
  deriving Inhabited, Repr

/-- Makes one directory. -/
def makeDirectory (device : Device) (t : FileTree) (p : Path) : Except FileFailure FileTree := do
  let place ← t.locate p
  if (t.kindAt? place).isSome then .error .exists
  else match device (.directory place) with
    | some e => .error e
    | none => .ok (t.putDirectory place)

/-- Makes one directory unless it is there. -/
def ensureDirectory (device : Device) (t : FileTree) (p : Path) : Written :=
  match t.makeDirectory device p with
  | .ok t => ⟨t, none⟩
  | .error e => ⟨t, if t.isDirectory p && e != .notFound then none else some e⟩

/-- Makes the directory that a root and some names in reverse lead to, and those above it. -/
def makeDirectoriesUp (device : Device) (t : FileTree) (root : String) : List String → Written
  | [] => t.ensureDirectory device ⟨root, []⟩
  | name :: above =>
    let p : Path := ⟨root, (name :: above).reverse⟩
    match t.makeDirectory device p with
    | .error .notFound =>
      let parents := t.makeDirectoriesUp device root above
      match parents.failure with
      | some _ => parents
      | none => parents.tree.ensureDirectory device p
    | _ => t.ensureDirectory device p

/-- Makes a directory and those above it. -/
def makeDirectories (device : Device) (t : FileTree) (p : Path) : Written :=
  t.makeDirectoriesUp device p.root p.parts.reverse

/-- A number in eight digits or more. -/
def eightDigits (n : Nat) : String :=
  let digits := Nat.toDigits 10 n
  String.ofList (List.replicate (8 - digits.length) '0' ++ digits)

/-- The name of a temporary file for a file of some name. -/
def temporaryName (name : String) (n : Nat) : String :=
  "." ++ name ++ "." ++ eightDigits n ++ ".tmp"

/-- A temporary name that nothing in a directory has. -/
def freshName (t : FileTree) (directory : List String) (name : String) : String :=
  let taken := fun n : Nat => (t.kindAt? (directory ++ [temporaryName name n])).isSome
  let numbers := List.range (t.files.length + t.directories.length + 1)
  temporaryName name ((numbers.find? fun n => !taken n).getD 0)

/-- What forbids a file of some name in the directory that a path leads to. The limit of a path
holds for the absolute path of the file. -/
def nameFailure? (t : FileTree) (directory : Path) (name : String) : Option FileFailure :=
  if name.toList.contains '\x00' then some .nullCharacter
  else if nameLimit < name.utf8ByteSize then some .nameTooLong
  else if pathLimit ≤ ((Path.resolve t.workingPath directory).child name).render.utf8ByteSize then
    some .nameTooLong
  else none

/-- Moves a file to the place that a path leads to. A path that ends in no name of its own leads to
a directory in use. -/
def replaceFile (t : FileTree) (source : List String) (bytes : List UInt8) (p : Path) :
    Except FileFailure FileTree := do
  if p.fileName == "" || p.fileName == ".." then .error .busy
  else
    let target ← t.locate p
    if t.kindAt? target == some .directory then .error .isDirectory
    else .ok ((t.removeFile source).putFile target bytes)

/-- Gives up a write after a failure, and takes the temporary file away. If that is refused as well,
the refusal is the failure that is reported. -/
def abandon (device : Device) (t : FileTree) (temporary : List String) (failure : FileFailure) :
    Written :=
  match device .removal with
  | none => ⟨t.removeFile temporary, some failure⟩
  | some refusal => ⟨t, some refusal⟩

/-- Writes a file whose directory is there. -/
def writeThrough (device : Device) (t : FileTree) (p : Path) (bytes : List UInt8) : Written :=
  match t.locate p.parent with
  | .error e => ⟨t, some e⟩
  | .ok directory =>
    let name := t.freshName directory p.fileName
    match (t.nameFailure? p.parent name).or (device .temporary) with
    | some e => ⟨t, some e⟩
    | none =>
      let temporary := directory ++ [name]
      let begun := t.putFile temporary []
      let filled := begun.putFile temporary bytes
      match device .content with
      | some e => begun.abandon device temporary e
      | none =>
        match (device .rest).or (device .replacement) with
        | some e => filled.abandon device temporary e
        | none => match filled.replaceFile temporary bytes p with
          | .error e => filled.abandon device temporary e
          | .ok t => ⟨t, none⟩

/-- Writes a file as a whole or not at all, and makes the directories that hold it. -/
def writeAtomically (device : Device) (t : FileTree) (p : Path) (bytes : List UInt8) : Written :=
  let prepared := t.makeDirectories device p.parent
  match prepared.failure with
  | some _ => prepared
  | none => prepared.tree.writeThrough device p bytes

/-- Opens a file for appending, which makes it if it is not there. -/
def openForAppending (t : FileTree) (p : Path) : Except FileFailure (FileTree × List String) := do
  let place ← t.locate p
  match t.kindAt? place with
  | some .directory => .error .isDirectory
  | some .file => .ok (t, place)
  | none =>
    if t.kindAt? place.dropLast == some .directory then .ok (t.putFile place [], place)
    else .error .notFound

/-- Adds bytes to the end of the file at a place. -/
def append (t : FileTree) (place : List String) (bytes : List UInt8) : FileTree :=
  t.putFile place ((t.bytesAt? place).getD [] ++ bytes)

end FileTree

end SchemaCompiler
