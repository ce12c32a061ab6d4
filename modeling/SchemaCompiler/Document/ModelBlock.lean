import SchemaCompiler.Column.Basic
import SchemaCompiler.Document.Index

/-!
# Model blocks

A model block with its members and directives, and its text in either layout. The aligned layout
pads names and types to the widest member, and heads the relations by a comment.
-/

set_option autoImplicit false

namespace SchemaCompiler

/-- The block of one model. -/
structure ModelBlock where
  name : String
  columns : List Column
  relations : List Column
  indexes : List Index
  table : Option TableRef
  compositeKey : List String
  description : String
  deriving Inhabited, Repr

namespace ModelBlock

/-- The indentation of what stands in a block. -/
def indent : String := "  "

/-- A text filled up with spaces to a width. -/
def padRight (width : Nat) (s : String) : String :=
  s ++ String.ofList (List.replicate (width - s.length) ' ')

/-- A text without blanks at its end. -/
def trimRight (s : String) : String :=
  String.ofList (s.toList.reverse.dropWhile Text.isBlank).reverse

/-- Every member: the columns and then the relations. -/
def members (b : ModelBlock) : List Column := b.columns ++ b.relations

/-- The greatest of some lengths. -/
def widest (texts : List String) : Nat := texts.foldl (fun width s => max width s.length) 0

/-- The line of a member whose name and type are padded to the given widths. -/
def alignedLine (nameWidth typeWidth : Nat) (c : Column) : String :=
  String.intercalate " " (padRight nameWidth c.name :: padRight typeWidth c.typeText ::
    c.attributes.map (·.render))

/-- The lines of some members of a block. -/
def memberLines (f : Formatter) (b : ModelBlock) (members : List Column) : List String :=
  let nameWidth := widest (b.members.map (·.name))
  let typeWidth := widest (b.members.map (·.typeText))
  members.map fun c =>
    indent ++ trimRight (if f.isPretty then alignedLine nameWidth typeWidth c else c.render)

/-- The directive of a composite key. -/
def keyDirective (names : List String) : String :=
  "@@id([" ++ String.intercalate ", " names ++ "])"

/-- The directives of a block: its composite key, its indexes and its table. -/
def directives (f : Formatter) (b : ModelBlock) : List String :=
  (if b.compositeKey.isEmpty then [] else [keyDirective b.compositeKey])
    ++ b.indexes.map (·.render)
    ++ (match b.table with
      | some t => f.tableDirectives t
      | none => [])

/-- The lines of a block. -/
def lines (f : Formatter) (b : ModelBlock) : List String :=
  let directives := b.directives f
  (if f.isPretty && b.description != "" then ["/// " ++ b.description] else [])
    ++ ["model " ++ b.name ++ " \x7b"]
    ++ memberLines f b b.columns
    ++ (if b.relations.isEmpty then []
        else (if f.isPretty then ["", indent ++ "// Relations"] else [])
          ++ memberLines f b b.relations)
    ++ (if directives.isEmpty then []
        else (if f.isPretty then [""] else []) ++ directives.map (indent ++ ·))
    ++ ["\x7d"]

/-- The text of a block. -/
def render (f : Formatter) (b : ModelBlock) : String := String.intercalate "\n" (b.lines f)

end ModelBlock

end SchemaCompiler
