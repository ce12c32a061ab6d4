import SchemaCompiler.Value.Basic

/-!
# Keys

When two values are the same key of a dictionary, and the order of keys. Numbers are the same key
when they are equal, whatever their kinds; a NaN is the same key as nothing, not even itself. Keys
of different kinds have no order.
-/

set_option autoImplicit false

namespace SchemaCompiler

namespace Value

/-- A value as a numeral, if it is a number or a NaN. -/
def numeral? : Value → Option Numeral
  | bool b => some (.finite false (if b then 1 else 0) 0)
  | int n => some (.finite (n < 0) n.natAbs 0)
  | float x => some x.toNumeral
  | decimal d => some d
  | _ => none

/-- Two values are equal numbers. -/
def sameNumber (a b : Value) : Bool :=
  match a.numeral?, b.numeral? with
  | some m, some n => m.compare? n == some .eq
  | _, _ => false

mutual

/-- Two values are the same key. -/
def sameKey : Value → Value → Bool
  | null, null => true
  | str s, str t => s == t
  | bytes a, bytes b => a == b
  | moment s, moment t => s == t
  | tuple a, tuple b => sameKeys a b
  | a, b => sameNumber a b

/-- The items of two tuples are the same keys in the same order. -/
def sameKeys : List Value → List Value → Bool
  | [], [] => true
  | a :: as, b :: bs => sameKey a b && sameKeys as bs
  | _, _ => false

end

/-! ## Dictionaries -/

/-- Puts a value under a key: in place of the value that is there, else at the end. -/
def putEntry (key v : Value) : List (Value × Value) → List (Value × Value)
  | [] => [(key, v)]
  | (k, w) :: rest => if sameKey k key then (k, v) :: rest else (k, w) :: putEntry key v rest

/-- A dictionary of entries given one after the other. -/
def ofEntries (entries : List (Value × Value)) : Value :=
  dict (entries.foldl (fun kept (k, v) => putEntry k v kept) [])

mutual

/-- A value can be a key: it holds neither a list nor a dictionary, and no signalling NaN. -/
def canBeKey : Value → Bool
  | list _ => false
  | dict _ => false
  | decimal (.nan _ signalling _) => !signalling
  | tuple items => allCanBeKeys items
  | _ => true

/-- All of some values can be keys. -/
def allCanBeKeys : List Value → Bool
  | [] => true
  | v :: vs => canBeKey v && allCanBeKeys vs

end

/-! ## Order -/

/-- Why two keys have no order. -/
inductive OrderFailure where
  /-- They are of different kinds, or of a kind without an order. -/
  | kinds
  /-- One of them is a NaN, and one a decimal. -/
  | decimalNaN
  deriving DecidableEq, Inhabited, Repr

/-- A value is a decimal. -/
def isDecimal : Value → Bool
  | decimal _ => true
  | _ => false

/-- A number comes before another. A double that is a NaN comes before no double or integer. -/
def numberLt (a b : Value) : Except OrderFailure Bool :=
  match a.numeral?, b.numeral? with
  | some m, some n => match m.compare? n with
    | some order => .ok (order == .lt)
    | none => if a.isDecimal || b.isDecimal then .error .decimalNaN else .ok false
  | _, _ => .error .kinds

mutual

/-- A key comes before another: texts and bytes in dictionary order, numbers by size, and tuples by
the first items that differ. -/
def keyLt : Value → Value → Except OrderFailure Bool
  | str s, str t => .ok (s < t)
  | bytes a, bytes b => .ok (a < b)
  | tuple a, tuple b => keysLt a b
  | a, b => numberLt a b

/-- The items of a tuple come before those of another. -/
def keysLt : List Value → List Value → Except OrderFailure Bool
  | a :: as, b :: bs => if sameKey a b then keysLt as bs else keyLt a b
  | [], _ :: _ => .ok true
  | _, [] => .ok false

end

end Value

end SchemaCompiler
