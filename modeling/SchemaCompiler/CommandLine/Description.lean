import SchemaCompiler.CommandLine.Project
import SchemaCompiler.Model.Reader
import SchemaCompiler.Text.Lines
import SchemaCompiler.Value.JsonReader

/-!
# Models files

The text of a models file is a JSON object. A list of dictionaries in it is a list of model
descriptors; anything else is a value as it stands.
-/

set_option autoImplicit false

namespace SchemaCompiler

namespace CommandLine

namespace ModelsFile

/-- A value is a dictionary. -/
def isDictionary : Value → Bool
  | .dict _ => true
  | _ => false

/-- What a value in a models file offers. -/
def offerOf (v : Value) : Reading Offer :=
  match v with
  | .list items =>
    if items.all isDictionary then Reading.map .models (Reading.list Model.read v)
    else Reading.accept (.value v)
  | v => Reading.accept (.value v)

/-- The entries of a models file. Of several entries of a name the last counts, so they come in
reverse. -/
def entriesOf (entries : List (Value × Value)) : Except (List Problem) (List (String × Offer)) :=
  (entries.reverse.filterMap fun
    | (.str name, v) => some (name, v)
    | _ => none).mapM fun (name, v) => do return (name, ← (offerOf v).result)

/-- What the text of a models file offers. -/
def ofText (text : String) : ModelsFile :=
  match Json.parse? text with
  | some (.dict entries) => match entriesOf entries with
    | .ok found => .offers found
    | .error problems => .broken false (Problem.report "ModelSpec" problems)
  | _ => .broken false "the file holds no JSON object"

/-- What the bytes of a models file offer. -/
def ofBytes (bytes : List UInt8) : ModelsFile :=
  match Text.ofBytes? bytes with
  | some text => ofText text
  | none => .broken false "the file holds no text"

end ModelsFile

/-- A place is that of a models file. -/
def isModelsPlace (place : List String) : Bool :=
  Text.startsWith (place.getLast?.getD "").toList.reverse Project.ending.toList.reverse

/-- The project in a file tree. -/
def Project.ofTree (t : FileTree) : Project :=
  { tree := t
    modelsFiles := (t.files.filter fun f => isModelsPlace f.1).map fun (place, bytes) =>
      (place, ModelsFile.ofBytes bytes) }

end CommandLine

end SchemaCompiler
