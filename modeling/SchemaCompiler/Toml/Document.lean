import SchemaCompiler.Toml.Item

/-!
# TOML documents

A document is a sequence of statements, one a line: entries, headers of tables and headers of tables
in an array. Entries belong to the table of the header before them.
-/

set_option autoImplicit false

namespace SchemaCompiler

namespace Toml

/-- A document as far as it was read. Keys that dotted entries open are declared when the next
header comes. -/
structure State where
  table : Table
  header : List String
  locks : Locks
  pending : List (List String)

namespace State

/-- Nothing was read yet. -/
def empty : State := ⟨[], [], .empty, []⟩

/-- Declares the pending keys. -/
def settle (s : State) : State :=
  { s with locks := s.pending.foldl Locks.declare s.locks, pending := [] }

/-- The proper beginnings of a dotted key, shortest first. -/
def beginnings (key : List String) : List (List String) :=
  (List.range (key.length - 1)).map fun n => key.take (n + 1)

/-- Adds an entry under the current header. -/
def addEntry (s : State) (key : List String) (v : Value) : Except Cause State :=
  let opened := (beginnings key).map (s.header ++ ·)
  let parent := s.header ++ key.dropLast
  match opened.find? s.locks.isDeclared with
  | some k => .error (.redefined k)
  | none =>
    if s.locks.isFrozen parent then .error (.immutable parent)
    else do
      let change := Table.add (key.getLast?.getD "") v .overwritten
      let table ← Table.update true change parent s.table
      let full := s.header ++ key
      return { s with table, pending := s.pending ++ opened
                      locks := if isContainer v then s.locks.freeze full else s.locks }

/-- Begins a table. -/
def beginTable (s : State) (key : List String) : Except Cause State :=
  if s.locks.isDeclared key || s.locks.isFrozen key then .error (.declaredTwice key)
  else do
    let table ← Table.update true .ok key s.table
    return { s with table, header := key, locks := s.locks.declare key }

/-- Begins another table of an array. -/
def beginArrayTable (s : State) (key : List String) : Except Cause State :=
  if s.locks.isFrozen key then .error (.immutable key)
  else do
    let table ← Table.update true (Table.appendTable (key.getLast?.getD "")) key.dropLast s.table
    return { s with table, header := key, locks := (s.locks.release key).declare key }

end State

/-- A result at a place in the text. -/
def located {α : Type} (rest : List Char) : Except Cause α → Except Failure α
  | .ok a => .ok a
  | .error cause => failAt cause rest

/-- A header after its opening bracket. -/
def tableHeader (s : State) (cs : List Char) : Except Failure (Taken State) := do
  let (key, rest) ← key (skipSpaces cs)
  let s ← located rest (s.settle.beginTable key)
  match rest with
  | ']' :: rest => return (s, rest)
  | _ => failAt .tableEnd rest

/-- A header of a table in an array, after its opening brackets. -/
def arrayTableHeader (s : State) (cs : List Char) : Except Failure (Taken State) := do
  let (key, rest) ← key (skipSpaces cs)
  let s ← located rest (s.settle.beginArrayTable key)
  match rest with
  | ']' :: ']' :: rest => return (s, rest)
  | _ => failAt .arrayTableEnd rest

/-- An entry. -/
def entryStatement (s : State) (cs : List Char) : Except Failure (Taken State) := do
  let (key, v, rest) ← entry (cs.length + 1) cs
  return (← located rest (s.addEntry key v), rest)

/-- One statement that is neither a comment nor empty. -/
def statement (s : State) (cs : List Char) : Except Failure (Taken State) :=
  match cs with
  | '[' :: '[' :: rest => arrayTableHeader s rest
  | '[' :: rest => tableHeader s rest
  | '#' :: _ => .ok (s, cs)
  | c :: _ =>
    if isBareKey c || c == '\x22' || c == '\x27' then entryStatement s cs
    else failAt .invalidStatement cs
  | [] => .ok (s, [])

/-- The statements of a text. Each ends with its line, so the length of the text is fuel enough. -/
def statements : Nat → State → List Char → Except Failure State
  | 0, s, _ => .ok s
  | fuel + 1, s, cs =>
    match skipSpaces cs with
    | [] => .ok s
    | '\n' :: rest => statements fuel s rest
    | here => do
      let (s, rest) ← statement s here
      match ← skipComment (skipSpaces rest) with
      | [] => return s
      | '\n' :: rest => statements fuel s rest
      | rest => failAt .statementEnd rest

/-- Reads a document whose lines end in line feeds. -/
def parse (text : String) : Except Failure Table :=
  let cs := text.toList
  (statements (cs.length + 1) .empty cs).map (·.table)

end Toml

end SchemaCompiler
