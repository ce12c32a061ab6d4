import SchemaCompiler.Decimal.Numeral

/-!
# Values

The dynamic values that descriptors carry: defaults, limits of validation rules, presentation
metadata, and the entries of a configuration file or of a log record's context. A text is a sequence
of Unicode scalar values, so surrogates never stand in one.
-/

set_option autoImplicit false

namespace SchemaCompiler

/-- A dynamic value. A dictionary keeps its entries in order of insertion. -/
inductive Value where
  | null
  | bool (b : Bool)
  | int (n : Int)
  | float (x : Binary64)
  | decimal (d : Numeral)
  | bytes (b : List UInt8)
  | str (s : String)
  /-- A date or a time of day, by its text. -/
  | moment (text : String)
  | list (items : List Value)
  | tuple (items : List Value)
  | dict (entries : List (Value × Value))
  deriving Inhabited, Repr

namespace Value

/-- A dictionary whose keys are names. -/
def record (entries : List (String × Value)) : Value :=
  dict (entries.map fun (k, v) => (str k, v))

/-- A list of texts. -/
def texts (items : List String) : Value := list (items.map str)

/-- A text, or null where there is none. -/
def ofText? (s : Option String) : Value := (s.map str).getD null

/-- The value under a name in a dictionary's entries. A later entry overrides an earlier one. -/
def lookup? (entries : List (Value × Value)) (name : String) : Option Value :=
  entries.foldl (fun found (k, v) => match k with
    | str s => if s == name then some v else found
    | _ => found) none

/-- The name of the kind of a value, as messages show it. -/
def kindName : Value → String
  | null => "NoneType"
  | bool _ => "bool"
  | int _ => "int"
  | float _ => "float"
  | decimal _ => "Decimal"
  | bytes _ => "bytes"
  | str _ => "str"
  | moment _ => "datetime"
  | list _ => "list"
  | tuple _ => "tuple"
  | dict _ => "dict"

/-- The items of a value that has items: the characters of a text, the numbers of bytes, the keys of
a dictionary. -/
def items? : Value → Option (List Value)
  | str s => some (s.toList.map fun c => str (String.ofList [c]))
  | bytes b => some (b.map fun x => int x.toNat)
  | list items => some items
  | tuple items => some items
  | dict entries => some (entries.map (·.1))
  | _ => none

/-- A value that counts as present: no null, zero, false or empty value. -/
def isPresent : Value → Bool
  | null => false
  | bool b => b
  | int n => n != 0
  | float x => x.isNaN || x.exponentBits != 0 || x.fractionBits != 0
  | decimal (.finite _ c _) => c != 0
  | decimal _ => true
  | bytes b => !b.isEmpty
  | str s => s != ""
  | moment _ => true
  | list items => !items.isEmpty
  | tuple items => !items.isEmpty
  | dict entries => !entries.isEmpty

end Value

end SchemaCompiler
