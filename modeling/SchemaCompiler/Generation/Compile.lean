import SchemaCompiler.FileTree.Write
import SchemaCompiler.Generation.Basic

/-!
# Compiling to a file

Generation with the reading of the earlier document before it and one atomic write at its end.
Nothing is written unless there is a document.
-/

set_option autoImplicit false

namespace SchemaCompiler

namespace Generation

/-- Reads the earlier document, if one is named and there. -/
def readBaseline (t : FileTree) (path : Option Path) :
    Except FileFailure (Option String) × Log.Trail :=
  match path with
  | none => (.ok none, [])
  | some p =>
    match t.isFile p with
    | .error e => (.error e, [])
    | .ok true => ((t.readText p).map some, [])
    | .ok false =>
      (.ok none,
        [note .info ("No baseline found at " ++ p.render ++ "; generating descriptors only")])

/-- Reads the earlier document from a device that may refuse it. -/
def readEarlier (device : Device) (t : FileTree) (path : Option Path) :
    Except FileFailure (Option String) × Log.Trail :=
  match path, device .reading with
  | some _, some e => (.error e, [])
  | _, _ => readBaseline t path

/-- Why nothing was compiled. -/
inductive CompileFailure where
  | file (failure : FileFailure)
  | generation (failure : Failure)
  deriving Inhabited

/-- What writing a document leaves. -/
structure WriteRun where
  tree : FileTree
  trail : Log.Trail
  failure : Option FileFailure
  deriving Inhabited

/-- Writes a text to a file. -/
def writeDocument (device : Device) (t : FileTree) (content : String) (path : Path) : WriteRun :=
  let bytes := Text.toBytes content
  let written := t.writeAtomically device path bytes
  match written.failure with
  | some e => ⟨written.tree, [], some e⟩
  | none =>
    ⟨written.tree,
      [note .debug ("Wrote " ++ toString bytes.length ++ " bytes to " ++ path.render)], none⟩

/-- What a compilation leaves. -/
structure CompileRun where
  tree : FileTree
  trail : Log.Trail
  result : Except CompileFailure Document
  deriving Inhabited

/-- Writes the document of a generation, if there is one. -/
def writeResult (device : Device) (o : Options) (t : FileTree) (run : Run) : CompileRun :=
  match run.result with
  | .error e => ⟨t, run.trail, .error (.generation e)⟩
  | .ok document =>
    let written := writeDocument device t document.content o.outputPath
    match written.failure with
    | some e => ⟨written.tree, run.trail ++ written.trail, .error (.file e)⟩
    | none =>
      ⟨written.tree,
        run.trail ++ written.trail ++
          [note .info ("Generated " ++ o.outputPath.render ++ ": " ++ document.summary.text)],
        .ok document⟩

/-- Generates the document of some models and writes it where the options say. -/
def compile (device : Device) (o : Options) (t : FileTree) (now : Timestamp) (models : List Model) :
    CompileRun :=
  let (baseline, noted) := readEarlier device t o.baselinePath
  match baseline with
  | .error e => ⟨t, noted, .error (.file e)⟩
  | .ok text =>
    let run := writeResult device o t (generate o .fresh now models text)
    { run with trail := noted ++ run.trail }

end Generation

end SchemaCompiler
