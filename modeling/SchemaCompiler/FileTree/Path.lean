import SchemaCompiler.Text.Lines

/-!
# Paths

A path is a root, if it is absolute, and the names along the way. Empty names and single points
vanish when a path is read; a double point stays, since what it leads to depends on the tree.
-/

set_option autoImplicit false

namespace SchemaCompiler

/-- A path. The root is empty for a relative path. -/
structure Path where
  root : String
  parts : List String
  deriving DecidableEq, Inhabited, Repr

namespace Path

/-- The root that a path begins with: one slash, or two if there are exactly two. -/
def rootOf : List Char → String
  | '/' :: '/' :: '/' :: _ => "/"
  | '/' :: '/' :: _ => "//"
  | '/' :: _ => "/"
  | _ => ""

/-- Reads a path. -/
def parse (s : String) : Path :=
  ⟨rootOf s.toList,
    ((Text.cutAt '/' [] s.toList).map String.ofList).filter fun part => part != "" && part != "."⟩

/-- The text of a path. -/
def render (p : Path) : String :=
  if p.root == "" && p.parts.isEmpty then "." else p.root ++ String.intercalate "/" p.parts

/-- The path begins at a root. -/
def isAbsolute (p : Path) : Bool := p.root != ""

/-- The null character stands in a name along the path. -/
def holdsNull (p : Path) : Bool := p.parts.any fun part => part.toList.contains '\x00'

/-- The path of the directory that holds what a path leads to. -/
def parent (p : Path) : Path := { p with parts := p.parts.dropLast }

/-- The last name of a path. -/
def fileName (p : Path) : String := p.parts.getLast?.getD ""

/-- A path seen from a directory: itself if it is absolute. -/
def under (directory p : Path) : Path :=
  if p.isAbsolute then p else { directory with parts := directory.parts ++ p.parts }

/-- One name below a directory. -/
def child (directory : Path) (name : String) : Path :=
  { directory with parts := directory.parts ++ [name] }

/-- The names along an absolute path with each double point carried out. -/
def resolveParts : List String → List String → List String
  | above, [] => above.reverse
  | above, ".." :: rest => resolveParts above.tail rest
  | above, part :: rest => resolveParts (part :: above) rest

/-- The absolute path that a path leads to from a working directory. -/
def resolve (workingDirectory p : Path) : Path :=
  let full := workingDirectory.under p
  { full with parts := resolveParts [] full.parts }

/-- The directories from a directory up to the root, nearest first. -/
def ancestors (p : Path) : List Path :=
  (List.range (p.parts.length + 1)).map fun n =>
    { p with parts := p.parts.take (p.parts.length - n) }

end Path

end SchemaCompiler
