import SchemaCompiler.Toml.Scalar
import SchemaCompiler.Toml.Table

/-!
# Values of a TOML text

A value is a scalar, an array or an inline table. Every item of an array or a table takes up text,
so the length of the text bounds the nesting and the number of items; that is the fuel.
-/

set_option autoImplicit false

namespace SchemaCompiler

namespace Toml

/-- The text after blanks, ends of lines and comments. -/
def skipFiller : Nat → List Char → Except Failure (List Char)
  | 0, cs => .ok cs
  | fuel + 1, cs => do
    let rest ← skipComment (skipSpacesAndBreaks cs)
    if rest.length = cs.length then return rest else skipFiller fuel rest

/-- A value that holds no other. -/
def scalar (cs : List Char) : Except Failure (Taken Value) :=
  match string? cs with
  | some outcome => do
    let (s, rest) ← outcome
    return (.str s, rest)
  | none => match truth? cs with
    | some found => .ok found
    | none => match moment? cs with
      | some outcome => outcome
      | none => match number? cs with
        | some outcome => outcome
        | none => match specialFloat? cs with
          | some found => .ok found
          | none => failAt .invalidValue cs

/-- An inline table as far as it was read: its entries, and the keys frozen in it. -/
structure InlineTable where
  table : Table
  locks : Locks

/-- Adds an entry to an inline table, given the text after the entry. -/
def InlineTable.add (t : InlineTable) (key : List String) (v : Value) (rest : List Char) :
    Except Failure InlineTable :=
  let stem := key.getLast?.getD ""
  if t.locks.isFrozen key then failAt (.immutable key) rest
  else match Table.update false (Table.add stem v (.duplicate stem)) key.dropLast t.table with
    | .error cause => failAt cause rest
    | .ok table => .ok ⟨table, if isContainer v then t.locks.freeze key else t.locks⟩

mutual

/-- A value. -/
def value : Nat → List Char → Except Failure (Taken Value)
  | 0, cs => failAt .invalidValue cs
  | fuel + 1, cs =>
    match cs with
    | '[' :: rest => do
      let rest ← skipFiller rest.length rest
      match rest with
      | ']' :: rest => return (.list [], rest)
      | _ =>
        let (items, rest) ← arrayItems fuel rest
        return (.list items, rest)
    | '\x7b' :: rest =>
      match skipSpaces rest with
      | '\x7d' :: rest => .ok (.dict [], rest)
      | rest => inlineEntries fuel ⟨[], .empty⟩ rest
    | _ => scalar cs

/-- The items of an array, up to its closing bracket. A comma may stand before the bracket. -/
def arrayItems : Nat → List Char → Except Failure (Taken (List Value))
  | 0, cs => failAt .unclosedArray cs
  | fuel + 1, cs => do
    let (v, rest) ← value fuel cs
    let rest ← skipFiller rest.length rest
    match rest with
    | ']' :: rest => return ([v], rest)
    | ',' :: rest =>
      let rest ← skipFiller rest.length rest
      match rest with
      | ']' :: rest => return ([v], rest)
      | _ =>
        let (vs, rest) ← arrayItems fuel rest
        return (v :: vs, rest)
    | _ => failAt .unclosedArray rest

/-- The entries of an inline table, up to its closing brace. -/
def inlineEntries : Nat → InlineTable → List Char → Except Failure (Taken Value)
  | 0, _, cs => failAt .unclosedTable cs
  | fuel + 1, t, cs => do
    let (key, v, rest) ← entry fuel cs
    let t ← t.add key v rest
    match skipSpaces rest with
    | '\x7d' :: rest => return (.dict t.table, rest)
    | ',' :: rest => inlineEntries fuel t (skipSpaces rest)
    | rest => failAt .unclosedTable rest

/-- A key, the equals sign and a value. -/
def entry : Nat → List Char → Except Failure (List String × Value × List Char)
  | 0, cs => failAt .invalidValue cs
  | fuel + 1, cs => do
    let (key, rest) ← key cs
    match rest with
    | '=' :: rest =>
      let (v, rest) ← value fuel (skipSpaces rest)
      return (key, v, rest)
    | _ => failAt .noEqualsSign rest

end

end Toml

end SchemaCompiler
