/-!
# Sorting with comparisons that may fail

Insertion of items into a sorted list at the place that a binary search finds. The search starts
after the longest run that is sorted already, upwards or downwards. A list that is ordered has one
sorted form; for comparisons that fail, or that order nothing, the steps decide what is met first.
-/

set_option autoImplicit false

namespace SchemaCompiler.Sorting

variable {α ε : Type}

/-- The place for an item between two places of a sorted list, after all items that it does not come
before. -/
def place (lt : α → α → Except ε Bool) (item : α) (sorted : List α) (low high : Nat) :
    Except ε Nat :=
  if low < high then
    let middle := low + (high - low) / 2
    match sorted[middle]? with
    | none => .ok low
    | some other => do
      if ← lt item other then place lt item sorted low middle
      else place lt item sorted (middle + 1) high
  else .ok low
termination_by high - low

/-- Inserts an item into a sorted list. -/
def insert (lt : α → α → Except ε Bool) (sorted : List α) (item : α) : Except ε (List α) := do
  let n ← place lt item sorted 0 sorted.length
  return sorted.take n ++ item :: sorted.drop n

/-- Extends a run, which is in reverse, as long as each item comes before the one before it, or as
long as none does. The answer is the run, in reverse, and the rest. -/
def takeRun (lt : α → α → Except ε Bool) (downwards : Bool) (last : α) (run : List α) :
    List α → Except ε (List α × List α)
  | [] => .ok (last :: run, [])
  | item :: rest => do
    if (← lt item last) == downwards then takeRun lt downwards item (last :: run) rest
    else return (last :: run, item :: rest)

/-- Sorts a list. -/
def sort (lt : α → α → Except ε Bool) : List α → Except ε (List α)
  | first :: second :: rest => do
    let downwards ← lt second first
    let (run, rest) ← takeRun lt downwards second [first] rest
    rest.foldlM (insert lt) (if downwards then run else run.reverse)
  | items => .ok items

end SchemaCompiler.Sorting
