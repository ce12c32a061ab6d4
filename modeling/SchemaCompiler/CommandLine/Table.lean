import SchemaCompiler.Text.Lines
import SchemaCompiler.Text.Wrap

/-!
# Tables

A table of two columns in a box whose header stands out, under a title in the middle. The first
column is aligned to the right and the second to the left. A cell may have several lines.
-/

set_option autoImplicit false

namespace SchemaCompiler

namespace CommandLine

/-- A table of two columns. -/
structure Table where
  title : String
  header : String × String
  rows : List (String × String)
  deriving DecidableEq, Inhabited, Repr

namespace Table

/-- The width of a cell, which is that of its widest line. -/
def cellWidth (cell : String) : Nat := ((Text.lines cell).map Text.width).foldl max 0

/-- The width of a column of cells. -/
def columnWidth (cells : List String) : Nat := (cells.map cellWidth).foldl max 0

/-- The lines of a cell in a column of some width. -/
def cellLines (width : Nat) (cell : String) : List (List Char) :=
  (Text.cutAt '\n' [] cell.toList).flatMap fun line =>
    (Text.wrap false width (Text.expandTabs line)).map (Text.truncate width)

/-- A line between rows: its two ends, what crosses it between the columns, and what it is made
of. -/
def rule (left cross right fill : Char) (first second : Nat) : List Char :=
  let run := fun n => List.replicate (n + 2) fill
  left :: run first ++ cross :: run second ++ [right]

/-- The line of a row that has two lines of its cells. -/
def rowLine (bar : Char) (first second : Nat) (cells : List Char × List Char) : List Char :=
  [bar, ' '] ++ Text.alignRight first cells.1 ++ [' ', bar, ' '] ++
    Text.alignLeft second cells.2 ++ [' ', bar]

/-- The lines of a row. The shorter cell ends in blank lines. -/
def row (bar : Char) (first second : Nat) (cells : String × String) : List (List Char) :=
  let left := cellLines first cells.1
  let right := cellLines second cells.2
  (List.range (max left.length right.length)).map fun i =>
    rowLine bar first second (left.getD i [], right.getD i [])

/-- The cells that a table takes apart from its columns: bars, and a space on both sides of each
cell. -/
def frameWidth : Nat := 7

/-- The lines of a table of at most some cells. A title wider than the table is broken between its
words, and the second column is made narrower if need be. -/
def lines (limit : Nat) (t : Table) : List String :=
  let first := columnWidth (t.header.1 :: t.rows.map (·.1))
  let second := min (columnWidth (t.header.2 :: t.rows.map (·.2))) (limit - frameWidth - first)
  let cells := first + second + frameWidth
  let titleLines := (Text.wrap true cells t.title.toList).map fun line =>
    Text.alignCenter cells (Text.trimEnd line)
  (titleLines
    ++ [rule '┏' '┳' '┓' '━' first second]
    ++ row '┃' first second t.header
    ++ [rule '┡' '╇' '┩' '━' first second]
    ++ t.rows.flatMap (row '│' first second)
    ++ [rule '└' '┴' '┘' '─' first second]).map String.ofList

end Table

end CommandLine

end SchemaCompiler
