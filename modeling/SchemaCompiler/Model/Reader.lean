import SchemaCompiler.Model.Basic
import SchemaCompiler.Model.Problem
import SchemaCompiler.Text.Lines

/-!
# Reading descriptors

Descriptors are read from values with a little leniency: a boolean may be a number or a word, a list
may be a tuple, and types and kinds may be spelled in several ways. Unknown keys are passed over.
All problems of a descriptor are reported, in the order in which its parts are declared.
-/

set_option autoImplicit false

namespace SchemaCompiler

namespace Reading

variable {α : Type}

/-- A text. -/
def text : Value → Reading String
  | .str s => accept s
  | .bytes b => match Text.ofBytes? b with
    | some s => accept s
    | none => refuse .stringEncoding (.bytes b)
  | v => refuse .stringType v

/-- The words that stand for a truth value. -/
def truthWord? (s : String) : Option Bool :=
  let word := Text.lower s
  if ["0", "off", "f", "false", "n", "no"].contains word then some false
  else if ["1", "on", "t", "true", "y", "yes"].contains word then some true
  else none

/-- A number that fits 64 bits with a sign. -/
def fitsWord (n : Int) : Bool := -(Int.pow 2 63) ≤ n && n < Int.pow 2 63

/-- A number as a truth value: zero or one, and no other number of 64 bits. -/
def truthNumber (n : Int) (input : Value) : Reading Bool :=
  if n = 0 then accept false
  else if n = 1 then accept true
  else if fitsWord n then refuse .boolParsing input
  else refuse .boolType input

/-- A double as a truth value. -/
def truthDouble (x : Binary64) (input : Value) : Reading Bool :=
  if x.isIntegral && -(Int.pow 2 63) < x.truncate then truthNumber x.truncate input
  else refuse .boolType input

/-- A truth value. A decimal counts as the double nearest to it. -/
def truth : Value → Reading Bool
  | .bool b => accept b
  | .int n => truthNumber n (.int n)
  | .float x => truthDouble x (.float x)
  | .decimal (.finite negative c e) =>
    truthDouble (.nearest negative c e) (.decimal (.finite negative c e))
  | .str s => match truthWord? s with
    | some b => accept b
    | none => refuse .boolParsing (.str s)
  | .bytes b => match (Text.ofBytes? b).bind truthWord? with
    | some t => accept t
    | none => refuse .boolParsing (.bytes b)
  | v => refuse .boolType v

/-- A list, each item read alike. A tuple counts as a list. -/
def list (read : Value → Reading α) : Value → Reading (List α)
  | .list items => itemsFrom read 0 items
  | .tuple items => itemsFrom read 0 items
  | v => refuse .listType v

/-- Something that may be null. -/
def optional (read : Value → Reading α) : Value → Reading (Option α)
  | .null => accept none
  | v => map some (read v)

/-- One of some texts, found by the text that is given. Bytes have to spell it as it is. -/
def choice (allowed : List String) (find : String → Option α) : Value → Reading α
  | .str s => match find s with
    | some a => accept a
    | none => refuse (.choice allowed) (.str s)
  | .bytes b => match ((Text.ofBytes? b).filter allowed.contains).bind find with
    | some a => accept a
    | none => refuse (.choice allowed) (.bytes b)
  | v => refuse (.choice allowed) v

/-- The step that leads to a key of a dictionary. -/
def keyStep : Value → PathStep
  | .str s => .key s
  | .int n => if fitsWord n then .index n else .key (Value.int n).literal
  | .bool b => .index (if b then 1 else 0)
  | v => .key v.literal

/-- The entries of a dictionary of any values under texts. -/
def entries : List (Value × Value) → Reading (List (Value × Value))
  | [] => accept []
  | (k, v) :: rest =>
    combine (map (fun name more => (.str name, v) :: more)
      (under (keyStep k) (under (.key "[key]") (text k)))) (entries rest)

/-- A dictionary of any values under texts. -/
def dictionary : Value → Reading (List (Value × Value))
  | .dict es => entries es
  | v => refuse .dictType v

/-- A descriptor of a named class from the entries of a dictionary. -/
def record (name : String) (read : List (Value × Value) → Reading α) : Value → Reading α
  | .dict es => read es
  | v => refuse (.recordType name) v

/-- The part under a key, or what it defaults to. -/
def part (es : List (Value × Value)) (key : String) (absent : α) (read : Value → Reading α) :
    Reading α :=
  match Value.lookup? es key with
  | some v => under (.key key) (read v)
  | none => accept absent

/-- The part under a key that has to be there. -/
def requiredPart (es : List (Value × Value)) (key : String) (read : Value → Reading α) :
    Reading α :=
  match Value.lookup? es key with
  | some v => under (.key key) (read v)
  | none => under (.key key) (refuse .missing (.dict es))

end Reading

open Reading

namespace FieldType

/-- The message about a type that is none of the abstract types, or about an integer in it that
cannot be shown. -/
def unknownMessage (v : Value) : String :=
  match v.literal? with
  | .ok literal => "Unknown field type " ++ literal ++ "; expected one of: " ++
      String.intercalate ", " (FieldKind.all.map (·.name))
  | .error failure => failure.message

/-- The type that a value spells. Null is no type. -/
def parse (v : Value) : Except String (Option FieldKind) :=
  match v with
  | .null => .ok none
  | .str s => match FieldKind.ofSpelling? s with
    | some kind => .ok (some kind)
    | none => .error (unknownMessage v)
  | _ => .error (unknownMessage v)

/-- Reads the type of a field. -/
def read (v : Value) : Reading (Option FieldType) :=
  match parse v with
  | .ok kind => accept (kind.map .known)
  | .error reason => refuse (.refused reason) v

end FieldType

namespace Rule

/-- Reads a validation rule. -/
def read : Value → Reading Rule :=
  record "ValidationRule" fun es =>
    Rule.mk <$> requiredPart es "kind" (choice (RuleKind.all.map (·.name)) RuleKind.ofSpelling?)
      <*> part es "value" .null accept
      <*> part es "message" none (optional text)

end Rule

namespace Field

/-- Reads a field. -/
def read : Value → Reading Field :=
  record "FieldSpec" fun es =>
    Field.mk <$> part es "name" "" text
      <*> part es "type" none FieldType.read
      <*> part es "required" false truth
      <*> part es "unique" false truth
      <*> part es "default" .null accept
      <*> part es "primary_key" false truth
      <*> part es "auto_increment" false truth
      <*> part es "indexed" false truth
      <*> part es "validation" [] (list Rule.read)
      <*> part es "db_type" none (optional text)
      <*> part es "db_default" none (optional text)
      <*> part es "description" none (optional text)
      <*> part es "ui" [] dictionary
      <*> accept []

/-- A field as it is built for a column: its type goes through the same reading as a descriptor's,
so that a spelling nobody has checked is checked here. -/
def checked (f : Field) : Reading Field :=
  let type := match f.type with
    | none => accept none
    | some (.known kind) => accept (some (.known kind))
    | some (.unchecked s) => FieldType.read (.str s)
  map (fun t => { f with type := t }) (under (.key "type") type)

/-- Why a field cannot be taken. -/
inductive TakeFailure where
  /-- Its rules are a value of a kind without items. -/
  | noItems (kind : String)
  /-- The first of its rules that cannot be read has problems. -/
  | rule (problems : List Problem)
  deriving Inhabited, Repr

/-- The message of a failure. -/
def TakeFailure.message : TakeFailure → String
  | noItems kind => "'" ++ kind ++ "' object is not iterable"
  | rule problems => Problem.report "ValidationRule" problems

/-- The rules of a field that is taken. -/
def takeRules : Option Value → Except TakeFailure (List Rule)
  | none => .ok []
  | some v => match v.items? with
    | none => .error (.noItems v.kindName)
    | some items => items.mapM fun item => (Rule.read item).result.mapError .rule

/-- The names of the parts of a field that are taken as they are given. -/
def takenParts : List String :=
  ["name", "type", "required", "unique", "primary_key", "auto_increment", "indexed", "db_type",
   "db_default", "description", "ui"]

/-- Takes a field as it stands, with the spelling of its type unchecked. Only its rules are read. -/
def take (es : List (Value × Value)) : Except TakeFailure Field := do
  let rules ← takeRules (Value.lookup? es "validation")
  let given := fun key => (Value.lookup? es key).getD .null
  let flag := fun key => (given key).isPresent
  let words := fun key => match given key with
    | .str s => some s
    | _ => none
  return {
    name := (words "name").getD "", type := (words "type").map .unchecked,
    required := flag "required", unique := flag "unique", default := given "default",
    primaryKey := flag "primary_key", autoIncrement := flag "auto_increment",
    indexed := flag "indexed", rules, dbType := words "db_type", dbDefault := words "db_default",
    description := words "description",
    ui := match given "ui" with
      | .dict entries => entries
      | _ => []
    asGiven := takenParts.filterMap fun key =>
      (Value.lookup? es key).map fun v => (Value.str key, v) }

end Field

namespace Through

/-- Reads an explicit junction. -/
def read : Value → Reading Through :=
  record "ThroughSpec" fun es =>
    Through.mk <$> requiredPart es "model" text <*> requiredPart es "source_key" text
      <*> requiredPart es "target_key" text

end Through

namespace Relation

/-- Reads a relation. -/
def read : Value → Reading Relation :=
  record "RelationSpec" fun es =>
    Relation.mk <$> part es "name" "" text
      <*> part es "kind" none
        (optional (choice (RelationKind.all.map (·.name)) RelationKind.ofSpelling?))
      <*> part es "target" "" text
      <*> part es "foreign_key" none (optional text)
      <*> part es "inverse" none (optional text)
      <*> part es "through" none (optional Through.read)
      <*> part es "required" false truth
      <*> part es "on_delete" none
        (optional (choice (ReferentialAction.all.map (·.name)) ReferentialAction.ofName?))
      <*> part es "description" none (optional text)

end Relation

namespace Constraint

/-- Reads a constraint. -/
def read : Value → Reading Constraint :=
  record "Constraint" fun es =>
    Constraint.mk
      <$> requiredPart es "kind" (choice (ConstraintKind.all.map (·.name)) ConstraintKind.ofName?)
      <*> requiredPart es "fields" (list text)

end Constraint

namespace Access

/-- Reads the roles of each operation. -/
def ofValue : Value → Reading Access :=
  record "AccessSpec" fun es =>
    Access.mk <$> part es "create" [] (list text) <*> part es "read" [] (list text)
      <*> part es "update" [] (list text) <*> part es "delete" [] (list text)
      <*> part es "count" [] (list text)

end Access

namespace Ownership

/-- The operations that an owner filter applies to unless it names them. -/
def usualOperations : List String := ["read", "update", "delete"]

/-- Reads an ownership filter. -/
def read : Value → Reading Ownership :=
  record "OwnershipSpec" fun es =>
    Ownership.mk <$> requiredPart es "field" text <*> part es "auto_filter" false truth
      <*> part es "operations" usualOperations (list text) <*> part es "admin_bypass" true truth

end Ownership

namespace Events

/-- Reads the event names. -/
def read : Value → Reading Events :=
  record "EventsSpec" fun es =>
    Events.mk <$> part es "after_create" none (optional text)
      <*> part es "after_update" none (optional text)
      <*> part es "after_delete" none (optional text)

end Events

namespace Model

/-- Reads the generation flags of a model. -/
def readTimestamps : Value → Reading Bool :=
  record "ModelConfig" fun es => part es "timestamps" true truth

/-- Reads a model, each of its fields by `readField`. -/
def readWith (readField : Value → Reading Field) : Value → Reading Model :=
  record "ModelSpec" fun es =>
    Model.mk <$> part es "name" "" text
      <*> part es "module" coreModule text
      <*> part es "table_name" none (optional text)
      <*> part es "fields" [] (list readField)
      <*> part es "relations" [] (list Relation.read)
      <*> part es "primary_key" none (optional (list text))
      <*> part es "constraints" [] (list Constraint.read)
      <*> part es "access" none (optional Access.ofValue)
      <*> part es "ownership" none (optional Ownership.read)
      <*> part es "events" none (optional Events.read)
      <*> part es "config" true readTimestamps
      <*> part es "description" none (optional text)

/-- Reads a model. -/
def read : Value → Reading Model := readWith Field.read

end Model

end SchemaCompiler
