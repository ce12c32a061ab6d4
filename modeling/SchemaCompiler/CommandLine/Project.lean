import SchemaCompiler.FileTree.Basic
import SchemaCompiler.Model.Basic

/-!
# Projects

A project is a file tree with models files in it. A models file offers things by name: lists of
models, registries, functions that register or return models, or values of no use. A dotted name
leads to a models file through the directories below the working directory.
-/

set_option autoImplicit false

namespace SchemaCompiler

namespace CommandLine

/-- What a models file offers under a name. -/
inductive Offer where
  | models (models : List Model)
  | registry (models : List Model)
  | value (v : Value)
  /-- A function that registers models with the builder it is given. -/
  | registers (models : List Model)
  /-- A function that returns something. -/
  | returns (result : Offer)
  /-- A function that fails, by stating that loading failed or in another way. -/
  | fails (statesLoadFailure : Bool) (message : String)
  deriving Inhabited

/-- A models file: what it offers, or the message with which its reading fails, be it because it
imports something that is not there. -/
inductive ModelsFile where
  | offers (entries : List (String × Offer))
  | broken (missesImport : Bool) (message : String)
  deriving Inhabited

namespace ModelsFile

/-- Adds entries that count where the file has none of the same name. -/
def adding (own : List (String × Offer)) : ModelsFile → ModelsFile
  | offers entries => offers (entries ++ own)
  | broken missesImport message => broken missesImport message

end ModelsFile

/-! ## What is offered about a file -/

/-- Entries whose values are texts. -/
def textEntries (entries : List (String × String)) : List (String × Offer) :=
  entries.map fun (name, text) => (name, .value (.str text))

/-- Calls that everything a name leads to answers, each with what it says against a builder. -/
def refusedCalls : List (String × String) :=
  let kind := "RegistryBuilder"
  let noName := "module() argument 'name' must be str, not " ++ kind
  let noAttribute := "attribute name must be string, not '" ++ kind ++ "'"
  let noArguments := fun name => (name, name ++ "() takes no arguments (1 given)")
  [("__class__", noName), ("__init__", noName), ("__getattribute__", noAttribute),
    ("__delattr__", noAttribute), ("__setattr__", " expected 2 arguments, got 1"),
    ("__format__", "__format__() argument must be str, not " ++ kind),
    ("__reduce_ex__", "'" ++ kind ++ "' object cannot be interpreted as an integer"),
    ("__new__", "module.__new__(X): X is not a type object (" ++ kind ++ ")"),
    ("__init_subclass__", "module.__init_subclass__() takes no arguments (1 given)")] ++
    ["__dir__", "__getstate__", "__reduce__", "__sizeof__"].map noArguments ++
    ["__hash__", "__repr__", "__str__"].map fun name => (name, "expected 0 arguments, got 1")

/-- Comparisons that everything a name leads to answers. None of them settles anything about a
builder, and what they return is no list of models. -/
def comparisons : List String :=
  ["__eq__", "__ge__", "__gt__", "__le__", "__lt__", "__ne__", "__subclasshook__"]

/-- What can be called on everything that a name leads to. -/
def aboutCalls : List (String × Offer) :=
  refusedCalls.map (fun (name, message) => (name, .fails false message)) ++
    comparisons.map fun name => (name, .returns (.value (.bool false)))

/-- What everything that a name leads to offers about itself. A package of an empty name is none.
The dictionary of all entries is shown by its first key, and what is no value by null. -/
def aboutName (name package : String) : List (String × Offer) :=
  textEntries [("__name__", name), ("__package__", package)] ++
    [("__dict__", .value (Value.record [("__name__", .str name)])),
     ("__annotations__", .value (Value.record [])), ("__doc__", .value .null),
     ("__loader__", .value .null), ("__spec__", .value .null)] ++ aboutCalls

/-- What a models file offers about itself. -/
def aboutFile (name package : String) : List (String × Offer) :=
  aboutName name package ++ textEntries [("__file__", name), ("__cached__", name)] ++
    [("__builtins__", .value (Value.record [("__name__", .str name)]))]

/-- What a directory offers about the places below it. -/
def aboutPlaces (name : String) : List (String × Offer) :=
  [("__path__", .value (.texts [name]))]

/-- What a directory with a models file for it offers about itself. -/
def aboutPackage (name : String) : List (String × Offer) := aboutFile name name ++ aboutPlaces name

/-- What another directory offers about itself. It has no file. -/
def aboutDirectory (name : String) : List (String × Offer) :=
  aboutName name name ++ aboutPlaces name ++ [("__file__", .value .null)]

/-- A file tree with the models files in it by their places. -/
structure Project where
  tree : FileTree
  modelsFiles : List (List String × ModelsFile)
  deriving Inhabited

/-- Why a dotted name leads to no models file. -/
inductive ImportFailure where
  | missing (name : String)
  /-- A name below a models file, which is no directory. -/
  | notPackage (name parent : String)
  /-- A name that begins with a point. -/
  | relative (name : String)
  deriving DecidableEq, Inhabited, Repr

namespace ImportFailure

/-- The message of a failure. -/
def message : ImportFailure → String
  | missing name => "No module named " ++ Text.quoted name
  | notPackage name parent =>
    "No module named " ++ Text.quoted name ++ "; " ++ Text.quoted parent ++ " is not a package"
  | relative name =>
    "the 'package' argument is required to perform a relative import for " ++ Text.quoted name

end ImportFailure

namespace Project

/-- The ending of the names of models files. -/
def ending : String := ".py"

/-- The models file that stands for a whole directory. -/
def packageFile : String := "__init__" ++ ending

/-- The models file at a place. Another file offers nothing. -/
def fileAt (p : Project) (place : List String) : ModelsFile :=
  ((p.modelsFiles.find? (·.1 == place)).map (·.2)).getD (.offers [])

/-- There is a file at a place. -/
def hasFile (p : Project) (place : List String) : Bool := p.tree.kindAt? place == some .file

/-- What one part of a dotted name stands for in a directory. -/
inductive Step where
  | package (file : ModelsFile)
  | leaf (file : ModelsFile)
  | directory

/-- Looks up one part of a dotted name. -/
def step? (p : Project) (directory : List String) (name : String) : Option Step :=
  let here := directory ++ [name]
  if p.hasFile (here ++ [packageFile]) then some (.package (p.fileAt (here ++ [packageFile])))
  else
    let file := directory ++ [name ++ ending]
    if p.hasFile file then some (.leaf (p.fileAt file))
    else if p.tree.kindAt? here == some .directory && name != "" then some .directory
    else none

/-- Follows the parts of a dotted name from a directory, after those in `before`. The directories on
the way are read as well and may be broken. -/
def follow (p : Project) (directory before : List String) :
    List String → Except ImportFailure ModelsFile
  | [] => .ok (.offers [])
  | name :: rest =>
    let full := String.intercalate "." (before ++ [name])
    match p.step? directory name, rest with
    | none, _ => .error (.missing full)
    | some (.leaf file), [] => .ok (file.adding (aboutFile full (String.intercalate "." before)))
    | some (.leaf (.broken missesImport message)), _ => .ok (.broken missesImport message)
    | some (.leaf (.offers _)), next :: _ => .error (.notPackage (full ++ "." ++ next) full)
    | some (.package (.broken missesImport message)), _ => .ok (.broken missesImport message)
    | some (.package file), [] => .ok (file.adding (aboutPackage full))
    | some .directory, [] => .ok (.offers (aboutDirectory full))
    | some _, next :: later =>
      p.follow (directory ++ [name]) (before ++ [name]) (next :: later)

/-- The models file that a dotted name leads to. -/
def fileOfName (p : Project) (name : String) : Except ImportFailure ModelsFile :=
  if name.toList.head? == some '.' then .error (.relative name)
  else p.follow p.tree.workingDirectory [] ((Text.cutAt '.' [] name.toList).map String.ofList)

end Project

end CommandLine

end SchemaCompiler
