import SchemaCompiler.Value.Key
import SchemaCompiler.Value.Literal
import SchemaCompiler.Value.Sorting

/-!
# JSON texts

Values written as JSON in printable ASCII: other characters are escaped, those beyond the basic
plane as a pair of surrogates. A dictionary may be keyed by numbers, truth values and null, which
are then written as texts. An integer of too many digits is written nowhere. A `JsonLayout` chooses
the separators, whether keys are sorted, and what happens to values that JSON lacks.
-/

set_option autoImplicit false

namespace SchemaCompiler

namespace Json

/-- The escape of one unit of sixteen bits. -/
def unitEscape (n : Nat) : List Char := '\\' :: 'u' :: Text.hexDigits 4 n

/-- A character inside a JSON text. -/
def escapeChar (c : Char) : List Char :=
  if c == '\x22' then ['\\', '\x22']
  else if c == '\\' then ['\\', '\\']
  else if c == '\n' then ['\\', 'n']
  else if c == '\r' then ['\\', 'r']
  else if c == '\t' then ['\\', 't']
  else if c == '\x0c' then ['\\', 'f']
  else if c == '\x08' then ['\\', 'b']
  else if 0x20 ≤ c.toNat && c.toNat ≤ 0x7e then [c]
  else if c.toNat < 0x10000 then unitEscape c.toNat
  else
    unitEscape (0xd800 + (c.toNat - 0x10000) / 0x400) ++
      unitEscape (0xdc00 + (c.toNat - 0x10000) % 0x400)

/-- A text between double quotes. -/
def quotedChars (cs : List Char) : List Char := '\x22' :: cs.flatMap escapeChar ++ ['\x22']

/-- A string between double quotes. -/
def quoted (s : String) : String := String.ofList (quotedChars s.toList)

end Json

/-- How JSON is written. -/
structure JsonLayout where
  itemSeparator : String
  keySeparator : String
  sortKeys : Bool
  /-- A value that JSON lacks is written as its plain text. -/
  plainFallback : Bool
  deriving Repr

/-- No spaces, and keys in order. -/
def JsonLayout.compact : JsonLayout := ⟨",", ":", true, false⟩

/-- One space after each separator, and keys in order of insertion. -/
def JsonLayout.line : JsonLayout := ⟨", ", ": ", false, true⟩

namespace Value

/-- Why a value cannot be written as JSON. -/
inductive JsonFailure where
  /-- A value or a key of a kind that JSON lacks, or keys of different kinds that were to be
  sorted. -/
  | kind
  /-- Keys that were to be sorted, among them a NaN and a decimal. -/
  | decimalNaN
  /-- An integer that cannot be written, as a value or as a key. -/
  | integer (failure : IntegerFailure)
  deriving DecidableEq, Inhabited, Repr

/-- The order of keys cannot be told. -/
def OrderFailure.json : OrderFailure → JsonFailure
  | kinds => .kind
  | decimalNaN => .decimalNaN

/-- Entries in the order of their keys. -/
def sortEntries {α : Type} (entries : List (Value × α)) :
    Except JsonFailure (List (Value × α)) :=
  (Sorting.sort (fun a b => keyLt a.1 b.1) entries).mapError (·.json)

/-- A text for what JSON lacks, where the layout has one. -/
def fallback (layout : JsonLayout) (text : String) : Except JsonFailure String :=
  if layout.plainFallback then .ok (Json.quoted text) else .error .kind

/-- An integer as JSON. -/
def integerJson (n : Int) : Except JsonFailure String := (integerText n).mapError .integer

/-- The text that a key of a dictionary is written as. -/
def jsonKey : Value → Except JsonFailure String
  | str s => .ok s
  | int n => integerJson n
  | bool b => .ok (if b then "true" else "false")
  | null => .ok "null"
  | float x => .ok (DecimalLayout.json.render x)
  | _ => .error .kind

/-- An entry as text. -/
def entryText (layout : JsonLayout) (key : Value) (written : Except JsonFailure String) :
    Except JsonFailure String := do
  let k ← key.jsonKey
  return Json.quoted k ++ layout.keySeparator ++ (← written)

mutual

/-- A value as JSON. -/
def toJson (layout : JsonLayout) : Value → Except JsonFailure String
  | null => .ok "null"
  | bool b => .ok (if b then "true" else "false")
  | int n => integerJson n
  | float x => .ok (DecimalLayout.json.render x)
  | str s => .ok (Json.quoted s)
  | moment s => fallback layout s
  | list items => do
    return "[" ++ String.intercalate layout.itemSeparator (← itemsJson layout items) ++ "]"
  | tuple items => do
    return "[" ++ String.intercalate layout.itemSeparator (← itemsJson layout items) ++ "]"
  | dict entries => do
    let written := entriesJson layout entries
    let ordered ← if layout.sortKeys then sortEntries written else .ok written
    let texts ← ordered.mapM fun (k, text) => entryText layout k text
    return "\x7b" ++ String.intercalate layout.itemSeparator texts ++ "\x7d"
  | decimal d => fallback layout d.render
  | bytes b => fallback layout (Text.quotedBytes b)

/-- The items of a list as JSON. -/
def itemsJson (layout : JsonLayout) : List Value → Except JsonFailure (List String)
  | [] => .ok []
  | v :: rest => do return (← v.toJson layout) :: (← itemsJson layout rest)

/-- The values of a dictionary as JSON, each with its key, as far as they can be written. -/
def entriesJson (layout : JsonLayout) :
    List (Value × Value) → List (Value × Except JsonFailure String)
  | [] => []
  | (k, v) :: rest => (k, v.toJson layout) :: entriesJson layout rest

end

end Value

end SchemaCompiler
