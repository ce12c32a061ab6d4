import SchemaCompiler.Registry.Basic
import Std.Data.HashSet

/-!
# Reference cycles

Foreign keys make a directed graph on the model names: a `belongsTo` relation points from its model
to the target, a `hasMany` relation from the target to its model. A cycle of at least two models is
worth a warning; a model that references itself is not. Each cycle is listed once, starting at its
smallest name.

The search walks every path without repetition from every name and closes it wherever a step leads
back into the path. A path never repeats a name, so the number of names bounds its length.
-/

set_option autoImplicit false

namespace SchemaCompiler

namespace Registry

/-- The edges that the relations of one model contribute, among `known` names. -/
def edgesOf (known : List String) (m : Model) : List (String × String) :=
  m.relations.filterMap fun r =>
    if !known.contains r.target || r.target == m.name then none
    else match r.kind with
      | some .belongsTo => some (m.name, r.target)
      | some .hasMany => some (r.target, m.name)
      | _ => none

/-- The edges of the reference graph. -/
def edges (r : Registry) : List (String × String) := r.models.flatMap (edgesOf r.modelNames)

/-- The names that a name has an edge to, in code point order. -/
def successors (edges : List (String × String)) (name : String) : List String :=
  ((edges.filter (·.1 == name)).map (·.2)).eraseDups.mergeSort fun a b => a ≤ b

/-- The least of a name and some others. -/
def leastName (name : String) (names : List String) : String :=
  names.foldl (fun least n => if n < least then n else least) name

/-- A cycle turned so that it starts at its smallest name. -/
def canonicalCycle : List String → List String
  | [] => []
  | name :: names =>
    let least := leastName name names
    (name :: names).dropWhile (· != least) ++ (name :: names).takeWhile (· != least)

/-- The cycles met on paths that continue from `name`, where `before` is the path so far, nearest
name first. `fuel` bounds the length of what is still to come. -/
def cyclesFrom (next : String → List String) : Nat → String → List String → List (List String)
  | 0, _, _ => []
  | fuel + 1, name, before =>
    let path := name :: before
    (next name).flatMap fun n =>
      if path.contains n then [canonicalCycle (path.takeWhile (· != n) ++ [n]).reverse]
      else cyclesFrom next fuel n path

/-- The first of each of some cycles, apart from those that were seen. -/
def distinctFrom (seen : Std.HashSet (List String)) : List (List String) → List (List String)
  | [] => []
  | cycle :: rest =>
    if seen.contains cycle then distinctFrom seen rest
    else cycle :: distinctFrom (seen.insert cycle) rest

/-- The successors of every name, computed once. -/
def adjacency (names : List String) (edges : List (String × String)) :
    List (String × List String) :=
  names.map fun n => (n, successors edges n)

/-- The reference cycles of a registry. -/
def cycles (r : Registry) : List (List String) :=
  let names := r.sortedNames
  let table := adjacency names r.edges
  let next := fun n => ((table.find? (·.1 == n)).map (·.2)).getD []
  distinctFrom ∅ (names.flatMap fun n => cyclesFrom next names.length n [])

end Registry

/-- A cycle as text: its names in order, and the first one again. -/
def cycleText (cycle : List String) : String :=
  String.intercalate " -> " (cycle ++ cycle.head?.toList)

end SchemaCompiler
