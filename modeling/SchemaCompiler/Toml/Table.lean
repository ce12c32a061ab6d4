import SchemaCompiler.Toml.Failure

/-!
# Tables of a TOML document

The entries of a table and its subtables, and the rules on which keys may still be written to. A
table that was declared by a header cannot be declared again, and what was written as an inline
table or an array cannot be added to.
-/

set_option autoImplicit false

namespace SchemaCompiler

namespace Toml

/-- The entries of a table, in order. -/
abbrev Table := List (Value × Value)

namespace Table

/-- The value under a key. -/
def get? (t : Table) (key : String) : Option Value := Value.lookup? t key

/-- Puts a value under a key: in place of the old value, or at the end. -/
def put (t : Table) (key : String) (v : Value) : Table :=
  if (t.get? key).isSome then t.map fun (k, old) => match k with
    | .str s => if s == key then (k, v) else (k, old)
    | _ => (k, old)
  else t ++ [(.str key, v)]

/-- Changes the entries of a value that is a table. -/
def inTable (change : Table → Except Cause Table) : Value → Except Cause Value
  | .dict entries => (change entries).map .dict
  | _ => .error .overwritten

/-- Changes the last table of an array of tables. -/
def inLast (change : Value → Except Cause Value) (items : List Value) : Except Cause Value :=
  match items.reverse with
  | last :: earlier => (change last).map fun v => .list (earlier.reverse ++ [v])
  | [] => .error .overwritten

/-- Changes the table that a dotted key leads to; tables on the way that are missing are made. A key
that leads to an array of tables leads on into its last one, if `throughArrays` is set. -/
def update (throughArrays : Bool) (change : Table → Except Cause Table) :
    List String → Table → Except Cause Table
  | [], t => change t
  | name :: path, t =>
    let below := inTable (update throughArrays change path)
    match t.get? name with
    | none => do return t.put name (← below (.dict []))
    | some (.list items) =>
      if throughArrays then do return t.put name (← inLast below items) else .error .overwritten
    | some v => do return t.put name (← below v)

/-- Adds a value under a key that is not taken. -/
def add (key : String) (v : Value) (taken : Cause) (t : Table) : Except Cause Table :=
  if (t.get? key).isSome then .error taken else .ok (t.put key v)

/-- Appends an empty table to the array of tables under a key. -/
def appendTable (key : String) (t : Table) : Except Cause Table :=
  match t.get? key with
  | none => .ok (t.put key (.list [.dict []]))
  | some (.list items) => .ok (t.put key (.list (items ++ [.dict []])))
  | some _ => .error .overwritten

end Table

/-- The keys that were declared by a header, and those of inline tables and arrays. -/
structure Locks where
  declared : List (List String)
  frozen : List (List String)
  deriving DecidableEq, Inhabited, Repr

namespace Locks

/-- No key was written yet. -/
def empty : Locks := ⟨[], []⟩

/-- A key was declared. -/
def isDeclared (l : Locks) (key : List String) : Bool := l.declared.contains key

/-- A key lies in an inline table or an array. -/
def isFrozen (l : Locks) (key : List String) : Bool := l.frozen.any (·.isPrefixOf key)

/-- Declares a key. -/
def declare (l : Locks) (key : List String) : Locks := { l with declared := l.declared ++ [key] }

/-- Freezes a key. -/
def freeze (l : Locks) (key : List String) : Locks := { l with frozen := l.frozen ++ [key] }

/-- Forgets everything about a key and what lies below it. -/
def release (l : Locks) (key : List String) : Locks :=
  ⟨l.declared.filter fun k => !key.isPrefixOf k, l.frozen.filter fun k => !key.isPrefixOf k⟩

end Locks

/-- A value that freezes its key. -/
def isContainer : Value → Bool
  | .dict _ | .list _ => true
  | _ => false

end Toml

end SchemaCompiler
